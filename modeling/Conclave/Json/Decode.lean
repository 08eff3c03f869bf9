import Conclave.Json
import Conclave.Text.Digits

namespace Conclave

inductive Fault where
  | malformed
  | mismatched
  deriving DecidableEq, Repr

namespace Json

def otherKind : Json → Fault
  | .stop _ => .malformed
  | _ => .mismatched

def toText : Json → Except Fault String
  | .string s => .ok s
  | j => .error j.otherKind

def toBool : Json → Except Fault Bool
  | .bool b => .ok b
  | j => .error j.otherKind

def toBinary64 : Json → Except Fault Binary64
  | .number n => .ok n.toBinary64
  | j => .error j.otherKind

def toNatBelow (bound : Nat) : Json → Except Fault Nat
  | .number (.natural n) => if n.toNat < bound then .ok n.toNat else .error .mismatched
  | j => .error j.otherKind

def toUInt64 : Json → Except Fault UInt64
  | .number (.natural n) => .ok n
  | j => .error j.otherKind

def toUInt32 (j : Json) : Except Fault UInt32 :=
  (j.toNatBelow UInt32.size).map UInt32.ofNat

def toUInt8 (j : Json) : Except Fault UInt8 := (j.toNatBelow UInt8.size).map UInt8.ofNat

def toOption {α : Type} (f : Json → Except Fault α) : Json → Except Fault (Option α)
  | .null => .ok none
  | j => (f j).map some

def toListOf {α : Type} (f : Json → Except Fault α) : Json → Except Fault (List α)
  | .array items => items.mapM f
  | j => .error j.otherKind

def toNamed {α : Type} (ofName? : String → Option α) : Json → Except Fault α
  | .string s =>
      match ofName? s with
      | some a => .ok a
      | none => .error .mismatched
  | .object [] => .error .malformed
  | .object ((key, value) :: rest) =>
      match value with
      | .stop .brokenKey => .error .malformed
      | .stop .garbledKey => .error .malformed
      | .stop .strayKey => .error .mismatched
      | value =>
          match ofName? key with
          | none => .error .mismatched
          | some a =>
              match value with
              | .null => if rest.isEmpty then .ok a else .error .malformed
              | j => .error j.otherKind
  | _ => .error .malformed

structure Field where
  name : String
  check : Json → Except Fault Unit
  omissible : Bool

abbrev Found := List (String × Json)

def passOver : Json → Except Fault Unit
  | .stop .garbledKey => .error .malformed
  | j => if j.skips then .ok () else .error .malformed

inductive Strangers where
  | passed
  | refused
  deriving DecidableEq, Repr

def fromMembers (strangers : Strangers) (fields : List Field) :
    Found → List (String × Json) → Except Fault Found
  | found, [] => .ok found
  | found, (key, value) :: rest =>
      match fields.find? (·.name = key) with
      | none =>
          match strangers with
          | .refused => .error .mismatched
          | .passed => do
              passOver value
              fromMembers strangers fields found rest
      | some f =>
          if found.any (·.1 = key) then .error .mismatched
          else do
            f.check value
            fromMembers strangers fields ((key, value) :: found) rest

def fromItems (surplus : Fault) : List Field → List Json → Except Fault Found
  | [], [] => .ok []
  | [], _ :: _ => .error surplus
  | f :: fields, [] =>
      if f.omissible then fromItems surplus fields [] else .error .mismatched
  | f :: fields, item :: items => do
      f.check item
      let found ← fromItems surplus fields items
      return (f.name, item) :: found

def toRecord (fields : List Field) : Json → Except Fault Found
  | .object members => fromMembers .passed fields [] members
  | .array items => fromItems .malformed fields items
  | j => .error j.otherKind

def Found.value? (found : Found) (name : String) : Option Json :=
  (found.find? (·.1 = name)).map Prod.snd

end Json

end Conclave

import Conclave.Binary64

namespace Conclave

inductive Numeral where
  | natural (n : UInt64)
  | negative (size : UInt64)
  | real (x : Binary64)
  deriving DecidableEq, Repr

def Numeral.toBinary64 : Numeral → Binary64
  | .natural n => .ofNat n.toNat
  | .negative n => .ofParts true (Binary64.nearest n.toNat 1)
  | .real x => x

/-- What stands where a text has no value: a string or number that can be passed over but has no
value, such a string as a key, the end of what is JSON, the same before a key, and a value of another
kind in the place of a key. -/
inductive Stop where
  | garbled
  | garbledKey
  | broken
  | brokenKey
  | strayKey
  deriving DecidableEq, Repr

inductive Json where
  | null
  | bool (b : Bool)
  | number (n : Numeral)
  | string (s : String)
  | array (items : List Json)
  | object (members : List (String × Json))
  | stop (mark : Stop)
  deriving Repr

namespace Json

instance : Inhabited Json := ⟨.null⟩

def natural (n : Nat) : Json := .number (.natural (UInt64.ofNat n))

def member? (key : String) : Json → Option Json
  | .object members => (members.find? fun m => m.1 = key).map Prod.snd
  | _ => none

mutual

def skips : Json → Bool
  | .array items => skipsAll items
  | .object members => skipsMembers members
  | .stop .garbled => true
  | .stop .garbledKey => true
  | .stop _ => false
  | _ => true

def skipsAll : List Json → Bool
  | [] => true
  | item :: rest => skips item && skipsAll rest

def skipsMembers : List (String × Json) → Bool
  | [] => true
  | (_, value) :: rest => skips value && skipsMembers rest

end

mutual

def soundTo : Nat → Json → Bool
  | 0, .array _ => false
  | 0, .object _ => false
  | depth + 1, .array items => soundAll depth items
  | depth + 1, .object members => soundMembers depth members
  | _, .stop _ => false
  | _, _ => true

def soundAll : Nat → List Json → Bool
  | _, [] => true
  | depth, item :: rest => soundTo depth item && soundAll depth rest

def soundMembers : Nat → List (String × Json) → Bool
  | _, [] => true
  | depth, (_, value) :: rest => soundTo depth value && soundMembers depth rest

end

end Json

end Conclave

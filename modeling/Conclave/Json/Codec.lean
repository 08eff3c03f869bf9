import Conclave.Json.Decode
import Conclave.Timestamp.Text
import Conclave.Uuid

namespace Conclave

structure Codec (α : Type) where
  encode : α → Json
  decode : Json → Except Fault α

namespace Codec

variable {α β : Type}

def text : Codec String := ⟨.string, Json.toText⟩

def bool : Codec Bool := ⟨.bool, Json.toBool⟩

def uint64 : Codec UInt64 := ⟨fun n => .number (.natural n), Json.toUInt64⟩

def uint32 : Codec UInt32 := ⟨fun n => .natural n.toNat, Json.toUInt32⟩

def uint8 : Codec UInt8 := ⟨fun n => .natural n.toNat, Json.toUInt8⟩

def binary64 : Codec Binary64 :=
  ⟨fun x => if x.isFinite then .number (.real x) else .null, Json.toBinary64⟩

def option (c : Codec α) : Codec (Option α) where
  encode
    | none => .null
    | some a => c.encode a
  decode := Json.toOption c.decode

def listOf (c : Codec α) : Codec (List α) where
  encode l := .array (l.map c.encode)
  decode := Json.toListOf c.decode

def bytes : Codec (List UInt8) := listOf uint8

def map (c : Codec α) (f : α → β) (g : β → α) : Codec β where
  encode b := c.encode (g b)
  decode j := (c.decode j).map f

def ofText (write : α → String) (read? : String → Option α) : Codec α where
  encode a := .string (write a)
  decode j := do
    match read? (← j.toText) with
    | some a => return a
    | none => throw .mismatched

def named (name : α → String) (ofName? : String → Option α) : Codec α :=
  ⟨fun a => .string (name a), Json.toNamed ofName?⟩

def timestamp : Codec Timestamp := ofText Timestamp.text Timestamp.ofText?

def uuid : Codec Uuid := ofText Uuid.text Uuid.ofText?

def check (c : Codec α) (j : Json) : Except Fault Unit := (c.decode j).map fun _ => ()

def field (c : Codec α) (name : String) : Json.Field := ⟨name, c.check, false⟩

def omissible (c : Codec α) (name : String) : Json.Field := ⟨name, c.check, true⟩

def durationFields : List Json.Field := [uint64.field "secs", uint32.field "nanos"]

end Codec

namespace Json.Found

variable {α : Type}

def required (found : Found) (name : String) (c : Codec α) : Except Fault α :=
  match found.value? name with
  | none => .error .mismatched
  | some j => c.decode j

def optional (found : Found) (name : String) (c : Codec α) : Except Fault (Option α) :=
  match found.value? name with
  | none => .ok none
  | some j => c.option.decode j

def withDefault (found : Found) (name : String) (c : Codec α) (value : α) : Except Fault α :=
  match found.value? name with
  | none => .ok value
  | some j => c.decode j

end Json.Found

namespace Codec

def present {α : Type} (c : Codec α) (name : String) : Option α → List (String × Json)
  | none => []
  | some a => [(name, c.encode a)]

def duration : Codec Duration where
  encode d := .object [("secs", uint64.encode d.seconds), ("nanos", uint32.encode d.nanos)]
  decode j := do
    let found ← match j with
      | .object members => Json.fromMembers .refused durationFields [] members
      | .array items => Json.fromItems .malformed durationFields items
      | j => .error j.otherKind
    match Duration.ofParts? (← found.required "secs" uint64) (← found.required "nanos" uint32) with
    | some d => return d
    | none => throw .mismatched

end Codec

end Conclave

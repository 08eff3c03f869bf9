namespace Conclave.Text

inductive NumberFault where
  | empty
  | invalidDigit
  | tooLarge
  deriving DecidableEq, Repr

def NumberFault.message : NumberFault → String
  | .empty => "cannot parse integer from empty string"
  | .invalidDigit => "invalid digit found in string"
  | .tooLarge => "number too large to fit in target type"

def digit? (c : Char) : Option Nat :=
  if '0' ≤ c ∧ c ≤ '9' then some (c.toNat - 48) else none

def readDigits (bound : Nat) : Nat → List Char → Except NumberFault Nat
  | n, [] => .ok n
  | n, c :: rest =>
      match digit? c with
      | none => .error .invalidDigit
      | some d => if n * 10 + d < bound then readDigits bound (n * 10 + d) rest
          else .error .tooLarge

def readUnsigned (bound : Nat) : List Char → Except NumberFault Nat
  | [] => .error .empty
  | ['+'] => .error .invalidDigit
  | '+' :: rest => readDigits bound 0 rest
  | cs => readDigits bound 0 cs

def readUInt64 (s : String) : Except NumberFault UInt64 :=
  (readUnsigned UInt64.size s.toList).map UInt64.ofNat

def readUInt32 (s : String) : Except NumberFault UInt32 :=
  (readUnsigned UInt32.size s.toList).map UInt32.ofNat

end Conclave.Text

import Conclave.Text.Quoted

namespace Conclave.Text

inductive HexFault where
  | oddLength
  | badDigit (byte : UInt8) (position : Nat)
  deriving DecidableEq, Repr

def HexFault.message : HexFault → String
  | .oddLength => "Odd number of digits"
  | .badDigit b i =>
      s!"Invalid character {quotedChar (Char.ofNat b.toNat)} at position {i}"

def nibble? (b : UInt8) : Option UInt8 :=
  if 48 ≤ b ∧ b ≤ 57 then some (b - 48)
  else if 97 ≤ b ∧ b ≤ 102 then some (b - 87)
  else if 65 ≤ b ∧ b ≤ 70 then some (b - 55)
  else none

def readHexPairs (position : Nat) : List UInt8 → Except HexFault (List UInt8)
  | high :: low :: rest =>
      match nibble? high, nibble? low with
      | none, _ => .error (.badDigit high position)
      | _, none => .error (.badDigit low (position + 1))
      | some h, some l => (readHexPairs (position + 2) rest).map ((h * 16 + l) :: ·)
  | _ => .ok []

def readHexBytes (bytes : List UInt8) : Except HexFault (List UInt8) :=
  if bytes.length % 2 = 0 then readHexPairs 0 bytes else .error .oddLength

def readHex (s : String) : Except HexFault (List UInt8) := readHexBytes s.toUTF8.toList

def hexPair (b : UInt8) : List Char := [hexDigit (b.toNat / 16), hexDigit (b.toNat % 16)]

def hex (bytes : List UInt8) : String := String.ofList (bytes.flatMap hexPair)

end Conclave.Text

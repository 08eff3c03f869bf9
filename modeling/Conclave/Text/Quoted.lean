import Conclave.Text.Blank
import Conclave.Text.Unprintable

namespace Conclave.Text

def hexDigit (n : Nat) : Char := Char.ofNat (if n < 10 then 48 + n else 87 + n)

def hexNumber (n : Nat) : List Char := (Nat.toDigits 16 n)

def escapeCode (c : Char) : List Char :=
  ['\\', 'u', '\x7b'] ++ hexNumber c.toNat ++ ['\x7d']

def isPlain (c : Char) : Bool :=
  !inRanges extendingRanges c && !inRanges unprintableRanges c

def quoteChar (quote c : Char) : List Char :=
  if c = '\x00' then ['\\', '0']
  else if c = '\t' then ['\\', 't']
  else if c = '\r' then ['\\', 'r']
  else if c = '\n' then ['\\', 'n']
  else if c = '\\' then ['\\', '\\']
  else if c = quote then ['\\', c]
  else if isPlain c then [c]
  else escapeCode c

def quoted (s : String) : String :=
  String.ofList (['"'] ++ s.toList.flatMap (quoteChar '"') ++ ['"'])

def quotedChar (c : Char) : String := String.ofList (['\''] ++ quoteChar '\'' c ++ ['\''])

end Conclave.Text

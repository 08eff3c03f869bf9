namespace Conclave.Text

def sextet? (c : Char) : Option Nat :=
  if 'A' ≤ c ∧ c ≤ 'Z' then some (c.toNat - 65)
  else if 'a' ≤ c ∧ c ≤ 'z' then some (c.toNat - 71)
  else if '0' ≤ c ∧ c ≤ '9' then some (c.toNat + 4)
  else if c = '+' then some 62
  else if c = '/' then some 63
  else none

def sextetChar (n : Nat) : Char :=
  if n < 26 then Char.ofNat (n + 65)
  else if n < 52 then Char.ofNat (n + 71)
  else if n < 62 then Char.ofNat (n - 4)
  else if n = 62 then '+' else '/'

def lastGroup? (a b c d : Char) : Option (List UInt8) :=
  match sextet? a, sextet? b with
  | some x, some y =>
      if c = '=' ∧ d = '=' then
        if y % 16 = 0 then some [UInt8.ofNat (x * 4 + y / 16)] else none
      else match sextet? c with
        | none => none
        | some z =>
            if d = '=' then
              if z % 4 = 0 then
                some [UInt8.ofNat (x * 4 + y / 16), UInt8.ofNat (y % 16 * 16 + z / 4)]
              else none
            else match sextet? d with
              | none => none
              | some w =>
                  some [UInt8.ofNat (x * 4 + y / 16), UInt8.ofNat (y % 16 * 16 + z / 4),
                    UInt8.ofNat (z % 4 * 64 + w)]
  | _, _ => none

def readBase64List : List Char → Option (List UInt8)
  | [] => some []
  | [a, b, c, d] => lastGroup? a b c d
  | a :: b :: c :: d :: rest =>
      if d = '=' then none
      else match lastGroup? a b c d, readBase64List rest with
        | some group, some tail => some (group ++ tail)
        | _, _ => none
  | _ => none

def readBase64 (s : String) : Option (List UInt8) := readBase64List s.toList

def base64List : List UInt8 → List Char
  | [] => []
  | [a] =>
      [sextetChar (a.toNat / 4), sextetChar (a.toNat % 4 * 16), '=', '=']
  | [a, b] =>
      [sextetChar (a.toNat / 4), sextetChar (a.toNat % 4 * 16 + b.toNat / 16),
        sextetChar (b.toNat % 16 * 4), '=']
  | a :: b :: c :: rest =>
      [sextetChar (a.toNat / 4), sextetChar (a.toNat % 4 * 16 + b.toNat / 16),
        sextetChar (b.toNat % 16 * 4 + c.toNat / 64), sextetChar (c.toNat % 64)]
        ++ base64List rest

def base64 (bytes : List UInt8) : String := String.ofList (base64List bytes)

end Conclave.Text

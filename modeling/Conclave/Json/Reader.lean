import Conclave.Json
import Conclave.Binary64.Decimal
import Conclave.Text.Digits

namespace Conclave.Json

def isSpace (c : Char) : Bool := c = ' ' || c = '\n' || c = '\t' || c = '\r'

def skipSpace (cs : List Char) : List Char := cs.dropWhile isSpace

def hexValue? (c : Char) : Option Nat :=
  if '0' ≤ c ∧ c ≤ '9' then some (c.toNat - 48)
  else if 'a' ≤ c ∧ c ≤ 'f' then some (c.toNat - 87)
  else if 'A' ≤ c ∧ c ≤ 'F' then some (c.toNat - 55)
  else none

def codeUnit? (a b c d : Char) : Option Nat :=
  match hexValue? a, hexValue? b, hexValue? c, hexValue? d with
  | some a, some b, some c, some d => some (((a * 16 + b) * 16 + c) * 16 + d)
  | _, _, _, _ => none

def simpleEscape? : Char → Option Char
  | '"' => some '"'
  | '\\' => some '\\'
  | '/' => some '/'
  | 'b' => some '\x08'
  | 'f' => some '\x0c'
  | 'n' => some '\n'
  | 'r' => some '\r'
  | 't' => some '\t'
  | _ => none

abbrev Letters := Option (List Char)

def Letters.settle (lead : Option Nat) (letters : Letters) : Letters :=
  if lead.isSome then none else letters

def Letters.push (letters : Letters) (c : Char) : Letters := letters.map (c :: ·)

def Letters.pushUnit (lead : Option Nat) (letters : Letters) (unit : Nat) :
    Option Nat × Letters :=
  let second := 0xdc00 ≤ unit ∧ unit ≤ 0xdfff
  match lead with
  | some first =>
      if second then
        (none, letters.push (Char.ofNat (0x10000 + (first - 0xd800) * 0x400 + (unit - 0xdc00))))
      else (none, none)
  | none =>
      if 0xd800 ≤ unit ∧ unit ≤ 0xdbff then (some unit, letters)
      else if second then (none, none)
      else (none, letters.push (Char.ofNat unit))

def readLetters (lead : Option Nat) (letters : Letters) :
    List Char → Option (Letters × List Char)
  | [] => none
  | '"' :: rest => some (letters.settle lead, rest)
  | '\\' :: 'u' :: a :: b :: c :: d :: rest =>
      match codeUnit? a b c d with
      | none => none
      | some unit =>
          let (lead, letters) := letters.pushUnit lead unit
          readLetters lead letters rest
  | '\\' :: e :: rest =>
      match simpleEscape? e with
      | none => none
      | some c => readLetters none ((letters.settle lead).push c) rest
  | '\\' :: [] => none
  | c :: rest =>
      if c.toNat < 0x20 then none
      else readLetters none ((letters.settle lead).push c) rest

def readString (cs : List Char) : Option (Option String × List Char) :=
  (readLetters none (some []) cs).map fun (letters, rest) =>
    (letters.map fun l => String.ofList l.reverse, rest)

def takeDigits (cs : List Char) : List Nat × List Char :=
  (cs.takeWhile Char.isDigit |>.map fun c => c.toNat - 48, cs.dropWhile Char.isDigit)

def intoSignificand (significand : Nat) : List Nat → Nat × Nat
  | [] => (significand, 0)
  | d :: rest =>
      if significand * 10 + d < UInt64.size then intoSignificand (significand * 10 + d) rest
      else (significand, rest.length + 1)

structure Literal where
  whole : List Nat
  fraction : Option (List Nat)
  exponent : Option Int

def readWhole? : List Char → Option (List Nat × List Char)
  | '0' :: rest =>
      match rest with
      | c :: _ => if c.isDigit then none else some ([0], rest)
      | [] => some ([0], [])
  | cs =>
      match takeDigits cs with
      | ([], _) => none
      | (ds, rest) => some (ds, rest)

def readFraction? : List Char → Option (Option (List Nat) × List Char)
  | '.' :: rest =>
      match takeDigits rest with
      | ([], _) => none
      | (ds, rest) => some (some ds, rest)
  | cs => some (none, cs)

def numberOf (ds : List Nat) : Nat := ds.foldl (fun n d => n * 10 + d) 0

def readExponentDigits? (negative : Bool) (cs : List Char) :
    Option (Option Int × List Char) :=
  match takeDigits cs with
  | ([], _) => none
  | (ds, rest) =>
      some (some (if negative then -(numberOf ds : Int) else numberOf ds), rest)

def readExponent? : List Char → Option (Option Int × List Char)
  | e :: rest =>
      if e = 'e' ∨ e = 'E' then
        match rest with
        | '+' :: rest => readExponentDigits? false rest
        | '-' :: rest => readExponentDigits? true rest
        | rest => readExponentDigits? false rest
      else some (none, e :: rest)
  | [] => some (none, [])

def readLiteral? (cs : List Char) : Option (Literal × List Char) :=
  match readWhole? cs with
  | none => none
  | some (whole, cs) =>
      match readFraction? cs with
      | none => none
      | some (fraction, cs) =>
          match readExponent? cs with
          | none => none
          | some (exponent, cs) => some (⟨whole, fraction, exponent⟩, cs)

def Literal.numeral? (l : Literal) (negative : Bool) : Option Numeral :=
  let (significand, dropped) := intoSignificand 0 l.whole
  match l.fraction, l.exponent, dropped with
  | none, none, 0 =>
      if !negative then some (.natural (UInt64.ofNat significand))
      else if significand = 0 ∨ 0x8000000000000000 < significand then
        some (.real (.ofParts true (Binary64.nearest significand 1)))
      else some (.negative (UInt64.ofNat significand))
  | fraction, exponent, dropped =>
      let ds := fraction.getD []
      let (significand, ignored) := intoSignificand significand ds
      let place : Int := dropped - (ds.length - ignored : Nat)
      (Binary64.ofDecimal? negative significand (place + exponent.getD 0)).map .real

def readNumber (negative : Bool) (cs : List Char) : Json × Option (List Char) :=
  match readLiteral? cs with
  | none => (.stop .broken, none)
  | some (l, rest) =>
      match l.numeral? negative with
      | none => (.stop .garbled, some rest)
      | some n => (.number n, some rest)

def keyFault : List Char → Stop
  | '[' :: _ => .strayKey
  | '\x7b' :: _ => .strayKey
  | 'n' :: 'u' :: 'l' :: 'l' :: _ => .strayKey
  | 't' :: 'r' :: 'u' :: 'e' :: _ => .strayKey
  | 'f' :: 'a' :: 'l' :: 's' :: 'e' :: _ => .strayKey
  | '-' :: rest => match readNumber true rest with
      | (.number _, _) => .strayKey
      | _ => .brokenKey
  | cs => match readNumber false cs with
      | (.number _, _) => .strayKey
      | _ => .brokenKey

mutual

def readValue : Nat → List Char → Json × Option (List Char)
  | 0, _ => (.stop .broken, none)
  | fuel + 1, cs =>
      match skipSpace cs with
      | 'n' :: 'u' :: 'l' :: 'l' :: rest => (.null, some rest)
      | 't' :: 'r' :: 'u' :: 'e' :: rest => (.bool true, some rest)
      | 'f' :: 'a' :: 'l' :: 's' :: 'e' :: rest => (.bool false, some rest)
      | '"' :: rest =>
          match readString rest with
          | none => (.stop .broken, none)
          | some (none, rest) => (.stop .garbled, some rest)
          | some (some s, rest) => (.string s, some rest)
      | '[' :: rest =>
          match skipSpace rest with
          | ']' :: rest => (.array [], some rest)
          | rest =>
              let (items, rest) := readItems fuel rest
              (.array items, rest)
      | '\x7b' :: rest =>
          match skipSpace rest with
          | '\x7d' :: rest => (.object [], some rest)
          | rest =>
              let (members, rest) := readMembers fuel rest
              (.object members, rest)
      | '-' :: rest => readNumber true rest
      | cs => readNumber false cs

def readItems : Nat → List Char → List Json × Option (List Char)
  | 0, _ => ([.stop .broken], none)
  | fuel + 1, cs =>
      match readValue fuel cs with
      | (item, none) => ([item], none)
      | (item, some rest) =>
          match skipSpace rest with
          | ',' :: rest =>
              let (items, rest) := readItems fuel rest
              (item :: items, rest)
          | ']' :: rest => ([item], some rest)
          | _ => ([item, .stop .broken], none)

def readMembers : Nat → List Char → List (String × Json) × Option (List Char)
  | 0, _ => ([("", .stop .brokenKey)], none)
  | fuel + 1, cs =>
      match skipSpace cs with
      | '"' :: rest =>
          match readString rest with
          | none => ([("", .stop .brokenKey)], none)
          | some (key?, rest) =>
              let key := key?.getD ""
              let head := if key?.isSome then [] else [("", Json.stop .garbledKey)]
              match skipSpace rest with
              | ':' :: rest =>
                  match readValue fuel rest with
                  | (value, none) => (head ++ [(key, value)], none)
                  | (value, some rest) =>
                      match skipSpace rest with
                      | ',' :: rest =>
                          let (members, rest) := readMembers fuel rest
                          (head ++ (key, value) :: members, rest)
                      | '\x7d' :: rest => (head ++ [(key, value)], some rest)
                      | _ => (head ++ [(key, value), ("", .stop .brokenKey)], none)
              | _ => (head ++ [(key, .stop .broken)], none)
      | cs => ([("", .stop (keyFault cs))], none)

end

def read (text : String) : Json × Option (List Char) :=
  let cs := text.toList
  readValue (2 * cs.length + 2) cs

def ofText (text : String) : Json :=
  match read text with
  | (value, none) => value
  | (value, some rest) => if (skipSpace rest).isEmpty then value else .stop .broken

end Conclave.Json

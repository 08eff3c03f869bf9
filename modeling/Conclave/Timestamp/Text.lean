import Conclave.Timestamp
import Conclave.Text.Blank
import Conclave.Text.Digits

namespace Conclave.Timestamp

def padLeft (width n : Nat) : List Char :=
  let ds := (toString n).toList
  List.replicate (width - ds.length) '0' ++ ds

def yearText (year : Int) : List Char :=
  if 0 ≤ year ∧ year ≤ 9999 then padLeft 4 year.toNat
  else (if year < 0 then '-' else '+') :: padLeft 4 year.natAbs

def fractionText (nano : Nat) : List Char :=
  if nano = 0 then []
  else if nano % 1000000 = 0 then '.' :: padLeft 3 (nano / 1000000)
  else if nano % 1000 = 0 then '.' :: padLeft 6 (nano / 1000)
  else '.' :: padLeft 9 nano

def text (t : Timestamp) : String :=
  let (year, month, day) := dateOfDays (t.second.fdiv 86400)
  let clock := (t.second.fmod 86400).toNat
  let leap := if 1000000000 ≤ t.nano then 1 else 0
  String.ofList (yearText year ++ '-' :: padLeft 2 month ++ '-' :: padLeft 2 day
    ++ 'T' :: padLeft 2 (clock / 3600) ++ ':' :: padLeft 2 (clock / 60 % 60)
    ++ ':' :: padLeft 2 (clock % 60 + leap) ++ fractionText (t.nano % 1000000000) ++ ['Z'])

def skipBlanks (cs : List Char) : List Char := cs.dropWhile Text.isBlank

def number? (width : Nat) (cs : List Char) : Option (Nat × List Char) :=
  let ds := (cs.take width).takeWhile Char.isDigit
  if ds.isEmpty then none
  else some (ds.foldl (fun n c => n * 10 + (c.toNat - 48)) 0, cs.drop ds.length)

def part? (width : Nat) (cs : List Char) : Option (Nat × List Char) :=
  number? width (skipBlanks cs)

def sign? (c : Char) : List Char → Option (List Char)
  | [] => none
  | x :: rest => if x = c then some rest else none

def year? (cs : List Char) : Option (Int × List Char) :=
  match skipBlanks cs with
  | '-' :: rest => (number? rest.length rest).map fun (n, rest) => (-(n : Int), rest)
  | '+' :: rest => (number? rest.length rest).map fun (n, rest) => ((n : Int), rest)
  | cs => (number? 4 cs).map fun (n, rest) => ((n : Int), rest)

def fraction? : List Char → Option (Nat × List Char)
  | '.' :: rest =>
      let ds := rest.takeWhile Char.isDigit
      if ds.isEmpty then none
      else
        (number? 9 rest).map fun (n, _) => (n * Nat.pow 10 (9 - ds.length), rest.drop ds.length)
  | cs => some (0, cs)

def offsetDigits? (cs : List Char) : Option (Nat × List Char) :=
  match cs with
  | a :: b :: rest =>
      match Text.digit? a, Text.digit? b,
        rest.dropWhile fun c => c = ':' || Text.isBlank c with
      | some a, some b, c :: d :: rest =>
          match Text.digit? c, Text.digit? d with
          | some c, some d =>
              if c < 6 then some ((a * 10 + b) * 3600 + (c * 10 + d) * 60, rest) else none
          | _, _ => none
      | _, _, _ => none
  | _ => none

def offset? (cs : List Char) : Option (Int × List Char) :=
  match skipBlanks cs with
  | u :: t :: c :: rest =>
      if (u = 'U' ∨ u = 'u') ∧ (t = 'T' ∨ t = 't') ∧ (c = 'C' ∨ c = 'c') then some (0, rest)
      else signed (u :: t :: c :: rest)
  | cs => signed cs
where
  signed : List Char → Option (Int × List Char)
    | [] => none
    | x :: rest =>
        if x = 'Z' ∨ x = 'z' then some (0, rest)
        else if x = '+' then (offsetDigits? rest).map fun (n, rest) => ((n : Int), rest)
        else if x = '-' ∨ x = '−' then
          (offsetDigits? rest).map fun (n, rest) => (-(n : Int), rest)
        else none

def isLeapYear (year : Int) : Bool :=
  year % 4 = 0 && (year % 100 ≠ 0 || year % 400 = 0)

def monthLength (year : Int) (month : Nat) : Nat :=
  if month = 2 then if isLeapYear year then 29 else 28
  else if month = 4 ∨ month = 6 ∨ month = 9 ∨ month = 11 then 30 else 31

def assemble? (year : Int) (month day hour minute second nano : Nat) (offset : Int) :
    Option Timestamp :=
  if firstYear ≤ year ∧ year ≤ lastYear ∧ 1 ≤ month ∧ month ≤ 12 ∧ 1 ≤ day
      ∧ day ≤ monthLength year month ∧ hour < 24 ∧ minute < 60 ∧ second ≤ 60
      ∧ -86400 < offset ∧ offset < 86400 then
    let clock : Int := hour * 3600 + minute * 60 + min second 59
    let t := daysOfDate year month day * 86400 + clock - offset
    if earliest.second ≤ t ∧ t < endOfTime then
      some ⟨t, if second = 60 then nano + 1000000000 else nano⟩
    else none
  else none

def ofText? (s : String) : Option Timestamp := do
  let (year, cs) ← year? s.toList
  let cs ← sign? '-' (skipBlanks cs)
  let (month, cs) ← part? 2 cs
  let cs ← sign? '-' (skipBlanks cs)
  let (day, cs) ← part? 2 cs
  let cs ← match cs with
    | c :: rest => if c = 'T' ∨ c = 't' ∨ c = ' ' then some rest else none
    | [] => none
  let (hour, cs) ← part? 2 cs
  let cs ← sign? ':' (skipBlanks cs)
  let (minute, cs) ← part? 2 cs
  let cs ← sign? ':' (skipBlanks cs)
  let (second, cs) ← part? 2 cs
  let (nano, cs) ← fraction? cs
  let (offset, cs) ← offset? (skipBlanks cs)
  if (skipBlanks cs).isEmpty then assemble? year month day hour minute second nano offset
  else none

end Conclave.Timestamp

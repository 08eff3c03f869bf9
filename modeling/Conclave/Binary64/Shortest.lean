import Conclave.Binary64

namespace Conclave.Binary64

structure Span where
  low : Nat
  middle : Nat
  high : Nat
  closed : Bool
  exponent : Int

def span (magnitude : Nat) : Span :=
  let m := mantissa magnitude
  let below := if m = leadingBit ∧ 2 * leadingBit ≤ magnitude then 1 else 2
  ⟨4 * m - below, 4 * m, 4 * m + 2, m % 2 = 0, exponent magnitude - 2⟩

def tenUp (n : Nat) (e : Int) : Nat := n * Nat.pow 10 e.toNat

def Span.holds (s : Span) (digits : Nat) (place : Int) : Bool :=
  let scale (n : Nat) := tenUp (scaleUp n s.exponent) (-place)
  let point := tenUp (scaleUp digits (-s.exponent)) place
  if s.closed then decide (scale s.low ≤ point) && decide (point ≤ scale s.high)
  else decide (scale s.low < point) && decide (point < scale s.high)

def Span.floor (s : Span) (place : Int) : Nat :=
  tenUp (scaleUp s.middle s.exponent) (-place) / tenUp (scaleUp 1 (-s.exponent)) place

def Span.nearerAbove (s : Span) (digits : Nat) (place : Int) : Bool :=
  decide (tenUp (scaleUp (2 * digits + 1) (-s.exponent)) place
    < 2 * tenUp (scaleUp s.middle s.exponent) (-place))

def Span.pick? (s : Span) (place : Int) : Option Nat :=
  let d := s.floor place
  match s.holds d place, s.holds (d + 1) place with
  | true, true => some (if s.nearerAbove d place then d + 1 else d)
  | true, false => some d
  | false, true => some (d + 1)
  | false, false => none

def Span.search (s : Span) : Nat → Int → Nat × Int
  | 0, place => (s.floor place, place)
  | fuel + 1, place =>
      match s.pick? place with
      | some d => (d, place)
      | none => s.search fuel (place - 1)

def topPlace : Int := 310

def shortest (magnitude : Nat) : Nat × Int :=
  (span magnitude).search 700 topPlace

def digitsText (digits : Nat) (place : Int) : String :=
  let ds := toString digits
  let n := ds.length
  let point : Int := n + place
  if 0 ≤ place ∧ point ≤ 16 then ds ++ String.ofList (List.replicate place.toNat '0') ++ ".0"
  else if 0 < point ∧ point ≤ 16 then
    String.ofList (ds.toList.take point.toNat) ++ "." ++ String.ofList (ds.toList.drop point.toNat)
  else if -5 < point ∧ point ≤ 0 then
    "0." ++ String.ofList (List.replicate (-point).toNat '0') ++ ds
  else if n = 1 then ds ++ "e" ++ toString (point - 1)
  else
    String.ofList (ds.toList.take 1) ++ "." ++ String.ofList (ds.toList.drop 1) ++ "e"
      ++ toString (point - 1)

def text (x : Binary64) : String :=
  (if x.isNegative then "-" else "") ++
    if x.magnitude = 0 then "0.0"
    else
      let (digits, place) := shortest x.magnitude
      digitsText digits place

end Conclave.Binary64

namespace Conclave

structure Binary64 where
  bits : UInt64
  deriving DecidableEq, Repr

namespace Binary64

def signBit : Nat := 0x8000000000000000

def infinityMagnitude : Nat := 0x7ff0000000000000

def oneMagnitude : Nat := 0x3ff0000000000000

def leadingBit : Nat := 0x10000000000000

def isNegative (x : Binary64) : Bool := decide (signBit ≤ x.bits.toNat)

def magnitude (x : Binary64) : Nat := x.bits.toNat % signBit

def ofParts (negative : Bool) (magnitude : Nat) : Binary64 :=
  ⟨UInt64.ofNat (if negative then signBit + magnitude else magnitude)⟩

def zero : Binary64 := ofParts false 0

def negativeZero : Binary64 := ofParts true 0

def one : Binary64 := ofParts false oneMagnitude

def isFinite (x : Binary64) : Bool := decide (x.magnitude < infinityMagnitude)

/-- Orders all bit patterns: negative NaNs first, then the numbers in their order with the negative
zero below the positive one, then positive NaNs. -/
def rank (x : Binary64) : Int :=
  if x.isNegative then -(x.magnitude : Int) - 1 else x.magnitude

def clampUnit (x : Binary64) : Binary64 :=
  if x.isFinite then
    if x.isNegative then if x.magnitude = 0 then x else zero
    else if oneMagnitude < x.magnitude then one else x
  else one

def mantissa (magnitude : Nat) : Nat :=
  if magnitude < leadingBit then magnitude else magnitude % leadingBit + leadingBit

def exponent (magnitude : Nat) : Int :=
  if magnitude < leadingBit then -1074 else (magnitude / leadingBit : Nat) - 1075

def roundQuotient (num den : Nat) : Nat :=
  let q := num / den
  let r := num % den
  if den < 2 * r ∨ (den = 2 * r ∧ q % 2 = 1) then q + 1 else q

def scaleUp (n : Nat) (e : Int) : Nat := n <<< e.toNat

def quotientExponent (num den : Nat) : Int :=
  let q := (num.log2 : Int) - den.log2 - 53
  max (-1074) (if scaleUp den (q + 53) ≤ scaleUp num (-(q + 53)) then q + 1 else q)

/-- The magnitude nearest to `num / den`, halves to the even neighbour; infinity when the quotient
rounds past the largest finite number. -/
def nearest (num den : Nat) : Nat :=
  if num = 0 then 0
  else
    let q := quotientExponent num den
    let m := roundQuotient (scaleUp num (-q)) (scaleUp den q)
    min infinityMagnitude ((q + 1074).toNat * leadingBit + m)

def ofNat (n : Nat) : Binary64 := ofParts false (nearest n 1)

def mulMagnitude (x y : Nat) : Nat :=
  let e := exponent x + exponent y
  nearest (scaleUp (mantissa x * mantissa y) e) (scaleUp 1 (-e))

def divMagnitude (x y : Nat) : Nat :=
  let e := exponent x - exponent y
  nearest (scaleUp (mantissa x) e) (scaleUp (mantissa y) (-e))

end Binary64

end Conclave

import Conclave.Binary64

namespace Conclave.Binary64

def powerOfTen (e : Nat) : Nat := nearest (Nat.pow 10 e) 1

def scaleByTen? (f : Nat) (e : Int) : Option Nat :=
  if e < -308 then
    if f = 0 then some 0 else scaleByTen? (divMagnitude f (powerOfTen 308)) (e + 308)
  else if e < 0 then some (divMagnitude f (powerOfTen (-e).toNat))
  else if e ≤ 308 then
    let g := mulMagnitude f (powerOfTen e.toNat)
    if g < infinityMagnitude then some g else none
  else if f = 0 then some 0 else none
  termination_by (-e).toNat

def ofDecimal? (negative : Bool) (significand : Nat) (e : Int) : Option Binary64 :=
  (scaleByTen? (nearest significand 1) e).map (ofParts negative)

end Conclave.Binary64

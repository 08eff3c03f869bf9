namespace Conclave

structure Duration where
  nanoseconds : Nat
  fits : nanoseconds < 0x10000000000000000 * 1000000000
  deriving DecidableEq, Repr

namespace Duration

def ofSeconds (n : UInt64) : Duration :=
  ⟨n.toNat * 1000000000, by have := n.toNat_lt; omega⟩

def ofMillis (n : UInt64) : Duration :=
  ⟨n.toNat * 1000000, by have := n.toNat_lt; omega⟩

def ofParts? (seconds : UInt64) (nanos : UInt32) : Option Duration :=
  if h : seconds.toNat * 1000000000 + nanos.toNat < 0x10000000000000000 * 1000000000 then
    some ⟨_, h⟩
  else none

def zero : Duration := ofSeconds 0

def isZero (d : Duration) : Bool := d.nanoseconds = 0

def seconds (d : Duration) : UInt64 := UInt64.ofNat (d.nanoseconds / 1000000000)

def nanos (d : Duration) : UInt32 := UInt32.ofNat (d.nanoseconds % 1000000000)

def millis (d : Duration) : Nat := (d.nanoseconds + 999999) / 1000000

def fractionDigits : Nat → Nat → List Char
  | 0, _ => []
  | width + 1, n =>
      if n = 0 then []
      else
        Char.ofNat (48 + n / Nat.pow 10 width) :: fractionDigits width (n % Nat.pow 10 width)

def inUnit (n : Nat) (width : Nat) (unit : String) : String :=
  let whole := Nat.pow 10 width
  toString (n / whole) ++
    (if n % whole = 0 then "" else "." ++ String.ofList (fractionDigits width (n % whole))) ++ unit

def text (d : Duration) : String :=
  if 1000000000 ≤ d.nanoseconds then inUnit d.nanoseconds 9 "s"
  else if 1000000 ≤ d.nanoseconds then inUnit d.nanoseconds 6 "ms"
  else if 1000 ≤ d.nanoseconds then inUnit d.nanoseconds 3 "µs"
  else inUnit d.nanoseconds 0 "ns"

end Duration

end Conclave

import Conclave.Duration

namespace Conclave

structure Timestamp where
  second : Int
  nano : Nat
  deriving DecidableEq, Repr

namespace Timestamp

def before (a b : Timestamp) : Bool :=
  decide (a.second < b.second) || (decide (a.second = b.second) && decide (a.nano < b.nano))

def ofNanoseconds (n : Int) : Timestamp := ⟨n.fdiv 1000000000, (n.fmod 1000000000).toNat⟩

def nanoseconds (t : Timestamp) : Int := t.second * 1000000000 + t.nano

def daysOfDate (year : Int) (month day : Nat) : Int :=
  let y := if month ≤ 2 then year - 1 else year
  let era := y.fdiv 400
  let yearOfEra := y - era * 400
  let dayOfYear : Int := (153 * ((month + 9) % 12) + 2) / 5 + day - 1
  let dayOfEra := yearOfEra * 365 + yearOfEra / 4 - yearOfEra / 100 + dayOfYear
  era * 146097 + dayOfEra - 719468

def dateOfDays (days : Int) : Int × Nat × Nat :=
  let z := days + 719468
  let era := z.fdiv 146097
  let dayOfEra := (z - era * 146097).toNat
  let yearOfEra := (dayOfEra - dayOfEra / 1460 + dayOfEra / 36524 - dayOfEra / 146096) / 365
  let dayOfYear := dayOfEra - (365 * yearOfEra + yearOfEra / 4 - yearOfEra / 100)
  let m := (5 * dayOfYear + 2) / 153
  let day := dayOfYear - (153 * m + 2) / 5 + 1
  let month := if m < 10 then m + 3 else m - 9
  let year := era * 400 + yearOfEra
  (if month ≤ 2 then year + 1 else year, month, day)

def firstYear : Int := -262143

def lastYear : Int := 262142

def earliest : Timestamp := ⟨daysOfDate firstYear 1 1 * 86400, 0⟩

def endOfTime : Int := daysOfDate (lastYear + 1) 1 1 * 86400

def ago? (now : Timestamp) (age : Duration) : Option Timestamp :=
  let t := ofNanoseconds (now.nanoseconds - age.nanoseconds)
  if t.before earliest then none else some t

end Timestamp

end Conclave

import Conclave.Coordinator

namespace Conclave

structure Reaper where
  retention : Duration
  interval : Duration
  positive : interval.isZero = false
  deriving DecidableEq, Repr

namespace Reaper

def build (coordinator : Option Config) (settings : Option Config) : Except Failure Reaper :=
  match coordinator with
  | none => .error (.config "SessionCoordinator is required")
  | some c =>
      let s := settings.getD c
      if h : s.reaperInterval.isZero = false then .ok ⟨s.sessionRetention, s.reaperInterval, h⟩
      else .error (.config "reaper_interval must be non-zero")

def sweep (now : Timestamp) (r : Reaper) (c : Coordinator) :
    Except Session.PruneFault Nat × Coordinator :=
  c.prune now r.retention

def nextSweep (r : Reaper) (origin clock : Nat) : Nat :=
  let passed := (clock - origin) * 1000000 / r.interval.nanoseconds
  origin + ((passed + 1) * r.interval.nanoseconds + 999999) / 1000000

theorem interval_pos (r : Reaper) : 0 < r.interval.nanoseconds := by
  have := r.positive
  simp only [Duration.isZero, decide_eq_false_iff_not] at this
  omega

theorem lt_nextSweep (r : Reaper) {origin clock : Nat} (h : origin ≤ clock) :
    clock < r.nextSweep origin clock := by
  have hlt := Nat.lt_mul_div_succ ((clock - origin) * 1000000) r.interval_pos
  simp only [nextSweep, Nat.mul_comm _ r.interval.nanoseconds]
  omega

end Reaper

end Conclave

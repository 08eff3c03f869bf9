import Conclave.Quorum

namespace Conclave

structure Config where
  selectionPolicy : Policy
  dispatchTimeout : Duration
  resultTimeout : Duration
  healthCheckInterval : Duration
  healthCheckTimeout : Duration
  maxConsecutiveFailures : UInt32
  sessionRetention : Duration
  reaperInterval : Duration
  deriving DecidableEq, Repr

namespace Config

def standard : Config where
  selectionPolicy := .loadBased
  dispatchTimeout := .ofSeconds 30
  resultTimeout := .ofSeconds 300
  healthCheckInterval := .ofSeconds 15
  healthCheckTimeout := .ofSeconds 5
  maxConsecutiveFailures := 3
  sessionRetention := .ofSeconds 600
  reaperInterval := .ofSeconds 30

def positiveDurations (c : Config) : List (String × Duration) :=
  [("dispatch_timeout", c.dispatchTimeout), ("result_timeout", c.resultTimeout),
    ("health_check_interval", c.healthCheckInterval),
    ("health_check_timeout", c.healthCheckTimeout), ("reaper_interval", c.reaperInterval)]

def validate (c : Config) : Except Failure Unit :=
  match c.positiveDurations.find? (·.2.isZero) with
  | some (name, _) => .error (.config s!"{name} must be non-zero")
  | none =>
      if c.maxConsecutiveFailures = 0 then
        .error (.config "max_consecutive_failures must be at least 1")
      else .ok ()

def build (c : Config) : Except Failure Config := c.validate.map fun _ => c

end Config

end Conclave

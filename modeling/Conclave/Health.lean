import Conclave.Config
import Conclave.Registry.Operation

namespace Conclave

structure NodeHealth where
  node : NodeId
  endpoint : String
  isHealthy : Bool
  latencyMillis : Option UInt64
  lastCheck : Timestamp
  consecutiveFailures : UInt32
  deriving DecidableEq, Repr

inductive ProbeOutcome where
  | healthy (latencyMillis : UInt64) (load : Option Load)
  | failed
  deriving DecidableEq, Repr

def Node.healthUrl (n : Node) : String := Text.dropSlashes n.address ++ "/health"

structure HealthChecker where
  interval : Duration
  timeout : Duration
  maxConsecutiveFailures : UInt32
  history : Keyed NodeId NodeHealth

structure HealthSettings where
  hasRegistry : Bool
  interval : Duration
  timeout : Duration
  maxConsecutiveFailures : UInt32

namespace HealthSettings

def standard : HealthSettings :=
  ⟨false, Config.standard.healthCheckInterval, Config.standard.healthCheckTimeout,
    Config.standard.maxConsecutiveFailures⟩

def ofConfig (c : Config) (s : HealthSettings) : HealthSettings :=
  { s with
    interval := c.healthCheckInterval
    timeout := c.healthCheckTimeout
    maxConsecutiveFailures := c.maxConsecutiveFailures }

def build (s : HealthSettings) : Except Failure HealthChecker :=
  if !s.hasRegistry then .error (.config "NodeRegistry is required")
  else if s.interval.isZero || s.timeout.isZero then
    .error (.config "health check interval and timeout must be non-zero")
  else if s.maxConsecutiveFailures = 0 then
    .error (.config "max_consecutive_failures must be at least 1")
  else .ok ⟨s.interval, s.timeout, s.maxConsecutiveFailures, .empty⟩

end HealthSettings

namespace HealthChecker

def isHealthy (h : HealthChecker) (id : NodeId) : Bool :=
  ((h.history.get? id).map NodeHealth.isHealthy).getD false

def targets (r : Registry) : List Node := r.toList.filter fun n => !(n.status = .maintenance)

def failuresOf (h : HealthChecker) (id : NodeId) : UInt32 :=
  ((h.history.get? id).map NodeHealth.consecutiveFailures).getD 0

def countFailure (n : UInt32) : UInt32 := if n.toNat < 0xffffffff then n + 1 else n

def settle (now : Timestamp) (n : Node) (outcome : ProbeOutcome) (h : HealthChecker)
    (r : Registry) : HealthChecker × Registry :=
  match outcome with
  | .healthy latency load =>
      ({ h with
          history := h.history.insert n.id ⟨n.id, n.address, true, some latency, now, 0⟩ },
        (r.applyProbe now n.id n.lastSeen (.reachable load)).2)
  | .failed =>
      let failures := countFailure (h.failuresOf n.id)
      ({ h with
          history := h.history.insert n.id ⟨n.id, n.address, false, none, now, failures⟩ },
        if h.maxConsecutiveFailures ≤ failures ∧ n.status ≠ .offline then
          (r.applyProbe now n.id n.lastSeen .unreachable).2
        else r)

def settleAll (now : Timestamp) (outcome : Node → ProbeOutcome) :
    List Node → HealthChecker → Registry → HealthChecker × Registry
  | [], h, r => (h, r)
  | n :: rest, h, r =>
      let (h, r) := h.settle now n (outcome n) r
      settleAll now outcome rest h r

def forgetDeparted (r : Registry) (h : HealthChecker) : HealthChecker :=
  { h with history := h.history.filter fun e => r.nodes.contains e.1 }

def finishRound (now : Timestamp) (targets : List Node) (outcome : Node → ProbeOutcome)
    (h : HealthChecker) (r : Registry) : HealthChecker × Registry :=
  let (h, r) := settleAll now outcome targets h r
  (h.forgetDeparted r, r)

def toList (h : HealthChecker) : List NodeHealth :=
  h.history.values.mergeSort fun a b => a.node.le b.node

end HealthChecker

end Conclave

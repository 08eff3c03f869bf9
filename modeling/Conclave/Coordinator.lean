import Conclave.Bus
import Conclave.Config
import Conclave.Registry.Operation
import Conclave.Session.Docket

namespace Conclave

/-- `marked` holds the parties on which the session set a mark. -/
structure Lease where
  action : Action
  parties : List NodeId
  marked : List NodeId
  channel : ChannelId
  acknowledged : Bool
  deriving DecidableEq, Repr

structure Coordinator where
  config : Config
  registry : Registry
  bus : Bus
  docket : Session.Docket
  leases : Keyed SessionId Lease

inductive Reply where
  | ack (a : Ack)
  | failed (f : Failure)
  | overdue
  deriving DecidableEq, Repr

def Reply.outcome (budget : Duration) : Reply → Except Failure Unit
  | .ack a =>
      if a.accepted then .ok ()
      else .error (.dispatchFailed (a.message.getD "notification rejected"))
  | .failed (.dispatchFailed reason) => .error (.dispatchFailed reason)
  | .failed f => .error (.dispatchFailed f.message)
  | .overdue => .error (.dispatchFailed s!"no acknowledgement within {budget.text}")

namespace Coordinator

def new (config : Config) (registry : Registry) : Coordinator :=
  ⟨config, registry, .empty, .empty, .empty⟩

def conclude (now : Timestamp) (s : SessionId) (failure : Option Failure) (c : Coordinator) :
    Coordinator :=
  match c.leases.get? s with
  | none => c
  | some lease =>
      { c with
        bus := c.bus.drop lease.channel
        registry := c.registry.releaseAll lease.marked
        docket := c.docket.finish now s failure
        leases := c.leases.erase s }

def start (now : Timestamp) (s : SessionId) (draws : Draws) (request : Session.Request)
    (c : Coordinator) : Except Failure Notice × Coordinator :=
  match request.validate with
  | .error f => (.error f, c)
  | .ok () =>
      let docket := c.docket.create now s request
      match Quorum.select c.config.selectionPolicy c.registry.nodes.values
          request.totalNodes.toNat request.threshold.toNat s draws with
      | .error f => (.error f, { c with docket := docket.finish now s (some f) })
      | .ok parties =>
          match c.bus.subscribe s with
          | .error f => (.error f, { c with docket := docket.finish now s (some f) })
          | .ok (channel, bus) =>
              let (marked, registry) := c.registry.markAll parties
              (.ok (request.notice s parties), { c with
                registry := registry
                bus := bus
                docket := docket
                leases := c.leases.insert s ⟨request.action, parties, marked, channel, false⟩ })

def answer (now : Timestamp) (s : SessionId) (reply : Reply) (c : Coordinator) :
    Option (Except Failure Unit) × Coordinator :=
  match c.leases.get? s with
  | none => (none, c)
  | some lease =>
      if lease.acknowledged then (none, c)
      else match reply.outcome c.config.dispatchTimeout with
        | .error f => (some (.error f), c.conclude now s (some f))
        | .ok () =>
            (some (.ok ()), { c with
              docket := c.docket.markDispatched now s lease.parties
              leases := c.leases.modify s fun l => { l with acknowledged := true } })

def wrongKind (s : SessionId) : Failure :=
  .internal s!"Session {s.text} received a result for a different ceremony kind"

def resultOutcome (s : SessionId) (action : Action) (r : CeremonyResult) :
    Except Failure CeremonyResult :=
  if r.matches action then .ok r else .error (wrongKind s)

def receive (now : Timestamp) (s : SessionId) (c : Coordinator) :
    Option (Except Failure CeremonyResult) × Coordinator :=
  match c.leases.get? s with
  | none => (none, c)
  | some lease =>
      if !lease.acknowledged then (none, c)
      else match c.bus.receive lease.channel with
        | (.waiting, _) => (none, c)
        | (.closed, bus) =>
            let f := Failure.resultChannelClosed s
            (some (.error f), { c with bus := bus }.conclude now s (some f))
        | (.result r, bus) =>
            match resultOutcome s lease.action r with
            | .ok r => (some (.ok r), { c with bus := bus }.conclude now s none)
            | .error f => (some (.error f), { c with bus := bus }.conclude now s (some f))

def expire (now : Timestamp) (s : SessionId) (c : Coordinator) : Option Failure × Coordinator :=
  match c.leases.get? s with
  | none => (none, c)
  | some lease =>
      if !lease.acknowledged then (none, c)
      else (some (.timeout s), c.conclude now s (some (.timeout s)))

def cancel (now : Timestamp) (s : SessionId) (c : Coordinator) : Option Failure × Coordinator :=
  if c.leases.contains s then (some (.cancelled s), c.conclude now s (some (.cancelled s)))
  else (none, c)

def publish (s : SessionId) (r : CeremonyResult) (c : Coordinator) : Bool × Coordinator :=
  let (accepted, bus) := c.bus.publish s r
  (accepted, { c with bus := bus })

def closeAll (c : Coordinator) : Coordinator := { c with bus := c.bus.closeAll }

def prune (now : Timestamp) (age : Duration) (c : Coordinator) :
    Except Session.PruneFault Nat × Coordinator :=
  match c.docket.prune now age with
  | .error f => (.error f, c)
  | .ok (n, docket) => (.ok n, { c with docket := docket })

def operate (now : Timestamp) (op : Registry.Operation) (c : Coordinator) : Bool × Coordinator :=
  let (applied, registry) := c.registry.apply now op
  (applied, { c with registry := registry })

def session (s : SessionId) (c : Coordinator) : Except Failure Session.Record :=
  match c.docket.get? s with
  | none => .error (.sessionNotFound s)
  | some r => .ok r

end Coordinator

end Conclave

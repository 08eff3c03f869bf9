import Conclave.Reaper
import Conclave.Rehearsal.Agenda
import Conclave.Rehearsal.Caller

namespace Conclave

namespace Rehearsal

/-- `wall` goes into records; `clock` counts milliseconds and lets delays pass. -/
structure Moment where
  wall : Timestamp
  clock : Nat
  deriving DecidableEq, Repr

inductive Event where
  | reply (s : SessionId) (r : Reply)
  | publication (s : SessionId) (result : CeremonyResult)
  | deadline (s : SessionId)
  | withdrawal (s : SessionId)
  | sweep (reaper : Reaper) (origin : Nat)
  deriving DecidableEq, Repr

end Rehearsal

open Rehearsal

structure Rehearsal where
  app : App
  script : Script
  agenda : Agenda Event
  callers : Keyed Nat Caller
  held : List SessionId
  minted : Nat
  reaper : Option Reaper
  stopping : Bool
  notices : List Notice
  deliveries : List Bool

namespace Rehearsal

def new (app : App) (script : Script) : Rehearsal :=
  ⟨app, script, .empty, .empty, [], 0, none, false, [], []⟩

def coordinator (r : Rehearsal) : Coordinator := r.app.coordinator

def setCoordinator (r : Rehearsal) (c : Coordinator) : Rehearsal :=
  { r with app := { r.app with coordinator := c } }

def remind (due : Nat) (e : Event) (r : Rehearsal) : Rehearsal :=
  { r with agenda := r.agenda.add due e }

def setStage (ticket : Nat) (stage : Stage) (r : Rehearsal) : Rehearsal :=
  { r with callers := r.callers.modify ticket fun c => { c with stage := stage } }

def enroll (c : Caller) (r : Rehearsal) : Nat × Rehearsal :=
  (r.callers.size, { r with callers := r.callers.insert r.callers.size c })

def callerOn? (s : SessionId) (r : Rehearsal) : Option (Nat × Caller) :=
  r.callers.entries.find? fun e => e.2.waitsOn s

def receiving (r : Rehearsal) : List SessionId :=
  (r.callers.values.filter Caller.isReceiving).map Caller.session

def conclude (ticket : Nat) (c : Caller) (outcome : Except Failure CeremonyResult) (r : Rehearsal) :
    Rehearsal :=
  let outcome := outcome.map fun result => ⟨c.session, c.parties, result⟩
  { r with app := c.errand.record outcome r.app }.setStage ticket (.ended (c.errand.answer outcome))

def resolve (s : SessionId) (outcome : Except Failure CeremonyResult) (r : Rehearsal) :
    Rehearsal :=
  match r.callerOn? s with
  | none => r
  | some (ticket, c) => r.conclude ticket c outcome

def operate (m : Moment) (op : Registry.Operation) (r : Rehearsal) : Bool × Rehearsal :=
  let (applied, c) := r.coordinator.operate m.wall op
  (applied, r.setCoordinator c)

def publish (s : SessionId) (result : CeremonyResult) (r : Rehearsal) : Bool × Rehearsal :=
  let (taken, c) := r.coordinator.publish s result
  (taken, r.setCoordinator c)

def poll (m : Moment) (s : SessionId) (r : Rehearsal) : Rehearsal :=
  match r.coordinator.receive m.wall s with
  | (none, _) => r
  | (some outcome, c) => (r.setCoordinator c).resolve s outcome

def pollAll (m : Moment) (r : Rehearsal) : Rehearsal :=
  r.receiving.foldl (fun r s => r.poll m s) r

def expire (m : Moment) (s : SessionId) (r : Rehearsal) : Rehearsal :=
  match r.coordinator.expire m.wall s with
  | (none, _) => r
  | (some f, c) => (r.setCoordinator c).resolve s (.error f)

def cancel (m : Moment) (s : SessionId) (r : Rehearsal) : Rehearsal :=
  match r.coordinator.cancel m.wall s with
  | (none, _) => r
  | (some f, c) => (r.setCoordinator c).resolve s (.error f)

def watch (m : Moment) (s : SessionId) (deadline : Duration) (patience : Option Nat)
    (r : Rehearsal) : Rehearsal :=
  let r := r.poll m s
  if !r.receiving.contains s then r
  else if patience = some 0 then r.cancel m s
  else if deadline.isZero then r.expire m s
  else
    let r := r.remind (m.clock + deadline.millis) (.deadline s)
    match patience with
    | none => r
    | some p => r.remind (m.clock + p) (.withdrawal s)

def acknowledged (m : Moment) (s : SessionId) (r : Rehearsal) : Rehearsal :=
  match r.callerOn? s with
  | none => r
  | some (ticket, c) =>
      if c.errand = .start then
        let r := r.setStage ticket (.ended (.started s c.parties c.action))
        if c.attended then r else r.cancel m s
      else (r.setStage ticket .receiving).watch m s c.deadline none

def answer (m : Moment) (s : SessionId) (reply : Reply) (r : Rehearsal) : Rehearsal :=
  match r.coordinator.answer m.wall s reply with
  | (none, _) => r
  | (some (.error f), c) => (r.setCoordinator c).resolve s (.error f)
  | (some (.ok ()), c) => (r.setCoordinator c).acknowledged m s

def sweep (m : Moment) (reaper : Reaper) (origin : Nat) (r : Rehearsal) : Rehearsal :=
  match reaper.sweep m.wall r.coordinator with
  | (.error _, _) => r
  | (.ok _, c) =>
      let r := r.setCoordinator c
      if r.stopping then r
      else r.remind (reaper.nextSweep origin m.clock) (.sweep reaper origin)

def fire (m : Moment) (r : Rehearsal) : Event → Rehearsal
  | .reply s reply => r.answer m s reply
  | .publication s result => (r.publish s result).2
  | .deadline s => r.expire m s
  | .withdrawal s => r.cancel m s
  | .sweep reaper origin => r.sweep m reaper origin

def settle (m : Moment) (r : Rehearsal) : Rehearsal :=
  (r.agenda.due m.clock).foldl (fun r e => (r.fire m e).pollAll m)
    ({ r with agenda := r.agenda.later m.clock }.pollAll m)

def runUntil (done : Rehearsal → Bool) (horizon : Nat) (m : Moment) (r : Rehearsal) :
    Moment × Rehearsal :=
  if done r then (m, r)
  else match r.agenda.next? with
    | none => (m, r)
    | some t =>
        if m.clock < t ∧ t ≤ horizon then
          let m' : Moment := { m with clock := t }
          runUntil done horizon m' (r.settle m')
        else (m, r)
  termination_by horizon - m.clock

def elapse (millis : Nat) (m : Moment) (r : Rehearsal) : Moment × Rehearsal :=
  let horizon := m.clock + millis
  let (m, r) := r.runUntil (fun _ => false) horizon m
  ({ m with clock := horizon }, r)

end Rehearsal

end Conclave

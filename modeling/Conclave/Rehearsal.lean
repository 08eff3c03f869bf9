import Conclave.Rehearsal.Time

namespace Conclave.Rehearsal

def nextSession (r : Rehearsal) : SessionId := ⟨s!"S{r.minted + 1}"⟩

def notify (m : Moment) (n : Notice) (r : Rehearsal) : Rehearsal :=
  let r := { r with notices := r.notices ++ [n] }
  let r := r.script.during.foldl (fun r op => (r.operate m op).2) r
  (r.script.atOnce n.action).foldl (fun r result =>
    let (taken, r) := r.publish n.session result
    { r with deliveries := r.deliveries ++ [taken] }) r

def awaitReply (m : Moment) (s : SessionId) (script : Script) (r : Rehearsal) : Rehearsal :=
  let budget := m.clock + r.coordinator.config.dispatchTimeout.millis
  match script.reaction.reply? s with
  | none => r.remind budget (.reply s .overdue)
  | some reply =>
      if script.delay = 0 then r.answer m s reply
      else (r.remind (m.clock + script.delay) (.reply s reply)).remind budget (.reply s .overdue)

def foresee (m : Moment) (n : Notice) (script : Script) (r : Rehearsal) : Rehearsal :=
  (script.later n.action).foldl
    (fun r p => r.remind (m.clock + p.1) (.publication n.session p.2)) r

def mint (request : Session.Request) (r : Rehearsal) : Rehearsal :=
  if request.validate.isOk then { r with minted := r.minted + 1 } else r

def launch (m : Moment) (errand : Errand) (request : Session.Request) (deadline : Duration)
    (r : Rehearsal) : Nat × Rehearsal :=
  let s := r.nextSession
  let script := r.script
  let (result, c) := r.coordinator.start m.wall s (fun _ => 0) request
  let parties := match result with
    | .ok n => n.parties
    | .error _ => []
  let caller : Caller := ⟨errand, s, parties, request.action, deadline, true, .dispatching⟩
  let (ticket, r) := ((r.setCoordinator c).mint request).enroll caller
  match result with
  | .error f => (ticket, r.conclude ticket caller (.error f))
  | .ok notice =>
      let r := (r.notify m notice).awaitReply m s script
      (ticket, (r.foresee m notice script).settle m)

def wait (m : Moment) (s : SessionId) (deadline : Duration) (patience : Option Nat)
    (r : Rehearsal) : Option (Nat × Rehearsal) :=
  if r.held.contains s then
    let (parties, action) := match r.coordinator.leases.get? s with
      | some lease => (lease.parties, lease.action)
      | none => ([], .keygen)
    let caller : Caller := ⟨.wait, s, parties, action, deadline, true, .receiving⟩
    let (ticket, r) := { r with held := r.held.erase s }.enroll caller
    some (ticket, (r.watch m s deadline patience).settle m)
  else none

def request (m : Moment) (q : Http.Request) (r : Rehearsal) : Nat × Rehearsal :=
  match r.app.begin m.wall q with
  | .ceremony call =>
      r.launch m (.call call) call.request r.coordinator.config.resultTimeout
  | .response app response =>
      let (ticket, r) := { r with app := app }.enroll
        ⟨.wait, ⟨""⟩, [], .keygen, .zero, true, .ended (.response response)⟩
      (ticket, r.settle m)

def answerTo? (ticket : Nat) (r : Rehearsal) : Option Answer :=
  match r.callers.get? ticket with
  | some c =>
      match c.stage with
      | .ended a => some a
      | _ => none
  | none => none

def horizon (m : Moment) (ticket : Nat) (r : Rehearsal) : Nat :=
  match r.callers.get? ticket with
  | some c => m.clock + r.coordinator.config.dispatchTimeout.millis + c.deadline.millis
  | none => m.clock

def hold (a : Answer) (r : Rehearsal) : Rehearsal :=
  match a with
  | .started s _ _ => { r with held := r.held ++ [s] }
  | _ => r

def join (m : Moment) (ticket : Nat) (r : Rehearsal) : Option Answer × Moment × Rehearsal :=
  let (m, r) := r.runUntil (fun r => (r.answerTo? ticket).isSome) (r.horizon m ticket) m
  match r.answerTo? ticket with
  | some a => (some a, m, r.hold a)
  | none => (none, m, r)

def cutOff : Failure := .internal "Task join error"

def abort (m : Moment) (ticket : Nat) (r : Rehearsal) : Answer × Rehearsal :=
  match r.answerTo? ticket with
  | some a => (a, r.hold a)
  | none =>
      match r.callers.get? ticket with
      | none => (.refused cutOff, r)
      | some c =>
          let r := r.setStage ticket (.ended (.refused cutOff))
          (.refused cutOff, (r.cancel m c.session).settle m)

def neglect (m : Moment) (ticket : Nat) (r : Rehearsal) : Rehearsal :=
  match r.answerTo? ticket with
  | some (.started s _ _) => (r.cancel m s).settle m
  | _ => { r with callers := r.callers.modify ticket fun c => { c with attended := false } }

def drop (m : Moment) (s : SessionId) (r : Rehearsal) : Bool × Rehearsal :=
  if r.held.contains s then
    (true, ({ r with held := r.held.erase s }.cancel m s).settle m)
  else (false, r)

def equip (reaper : Reaper) (r : Rehearsal) : Rehearsal :=
  { r with reaper := some reaper, stopping := false }

def sweepOnce (m : Moment) (r : Rehearsal) : Option (Except Session.PruneFault Nat) × Rehearsal :=
  match r.reaper with
  | none => (none, r)
  | some reaper =>
      let (removed, c) := reaper.sweep m.wall r.coordinator
      (some removed, r.setCoordinator c)

def startReaper (m : Moment) (r : Rehearsal) : Rehearsal :=
  match r.reaper with
  | none => r
  | some reaper => if r.stopping then r else r.sweep m reaper m.clock

def isSweeping (r : Rehearsal) : Bool :=
  r.agenda.entries.any fun e =>
    match e.2 with
    | .sweep _ _ => true
    | _ => false

def stopReaper (m : Moment) (r : Rehearsal) : Moment × Rehearsal :=
  match r.reaper with
  | none => (m, r)
  | some reaper =>
      { r with stopping := true }.runUntil (fun r => !r.isSweeping)
        (m.clock + reaper.interval.millis) m

end Conclave.Rehearsal

import Conclave.Proofs.Bus
import Conclave.Proofs.Registry
import Conclave.Proofs.Start

namespace Conclave.Coordinator

inductive Event where
  | start (s : SessionId) (draws : Draws) (request : Session.Request)
  | answer (s : SessionId) (reply : Reply)
  | attend (s : SessionId) (overdue : Bool)
  | cancel (s : SessionId)
  | prune (age : Duration)
  | operate (op : Registry.Operation)
  | deliver (op : Bus.Operation)

def Event.delivers : Event → Bool
  | .deliver _ => true
  | _ => false

def Event.started? : Event → Option SessionId
  | .start s _ _ => some s
  | _ => none

inductive Answer where
  | started (outcome : Except Failure Notice)
  | acknowledged (outcome : Option (Except Failure Unit))
  | ended (outcome : Option (Except Failure CeremonyResult))
  | withdrawn (failure : Option Failure)
  | pruned (count : Except Session.PruneFault Nat)
  | applied (changed : Bool)
  | delivered (answer : Bus.Answer)

def attend (now : Timestamp) (s : SessionId) (overdue : Bool) (c : Coordinator) :
    Option (Except Failure CeremonyResult) × Coordinator :=
  match c.receive now s with
  | (some outcome, c) => (some outcome, c)
  | (none, c) => if overdue then (c.expire now s).map (Option.map .error) id else (none, c)

def step (now : Timestamp) (c : Coordinator) : Event → Answer × Coordinator
  | .start s draws request => (c.start now s draws request).map .started id
  | .answer s reply => (c.answer now s reply).map .acknowledged id
  | .attend s overdue => (c.attend now s overdue).map .ended id
  | .cancel s => (c.cancel now s).map .withdrawn id
  | .prune age => (c.prune now age).map .pruned id
  | .operate op => (c.operate now op).map .applied id
  | .deliver op => (.delivered (c.bus.apply op).1, { c with bus := (c.bus.apply op).2 })

structure Turn where
  now : Timestamp
  before : Coordinator
  event : Event

namespace Turn

def answer (t : Turn) : Answer := (t.before.step t.now t.event).1

def after (t : Turn) : Coordinator := (t.before.step t.now t.event).2

def starts (s : SessionId) (t : Turn) : Bool := decide (t.event.started? = some s)

def ending (t : Turn) : Option (SessionId × Except Failure CeremonyResult) :=
  match t.event, t.answer with
  | .start s _ request, .started (.error f) =>
      if request.validate.isOk then some (s, .error f) else none
  | .answer s _, .acknowledged (some (.error f)) => some (s, .error f)
  | .attend s _, .ended (some outcome) => some (s, outcome)
  | .cancel s, .withdrawn (some f) => some (s, .error f)
  | _, _ => none

end Turn

inductive Run (rule : List Turn → Turn → Prop) (first : Coordinator) :
    List Turn → Coordinator → Prop
  | begin : Run rule first [] first
  | next {past : List Turn} {c : Coordinator} (run : Run rule first past c) (now : Timestamp)
      (event : Event) (allowed : rule past ⟨now, c, event⟩) :
      Run rule first (⟨now, c, event⟩ :: past) (Turn.after ⟨now, c, event⟩)

theorem Run.mono {rule rule' : List Turn → Turn → Prop} {first c : Coordinator} {past : List Turn}
    (h : ∀ past t, rule past t → rule' past t) (run : Run rule first past c) :
    Run rule' first past c := by
  induction run with
  | begin => exact .begin
  | next _ now event allowed ih => exact ih.next now event (h _ _ allowed)

theorem Run.cut {rule : List Turn → Turn → Prop} {first c : Coordinator} {later earlier : List Turn}
    {t : Turn} (run : Run rule first (later ++ t :: earlier) c) :
    Run rule first earlier t.before ∧ rule earlier t ∧ Run rule first (t :: earlier) t.after := by
  generalize hp : later ++ t :: earlier = past at run
  induction run generalizing later with
  | begin => simp at hp
  | next run now event allowed ih =>
      cases later with
      | nil =>
          obtain ⟨rfl, rfl⟩ := List.cons.inj hp
          exact ⟨run, allowed, run.next now event allowed⟩
      | cons u later => exact ih (List.cons.inj hp).2

theorem Run.countP_le_one {rule : List Turn → Turn → Prop} {first c : Coordinator}
    {past : List Turn} {p : Turn → Bool}
    (once : ∀ past t, Run rule first past t.before → rule past t → p t = true →
      ∀ u ∈ past, p u = false)
    (run : Run rule first past c) : past.countP p ≤ 1 := by
  induction run with
  | begin => simp
  | @next past c run now event allowed ih =>
      rw [List.countP_cons]
      cases hp : p ⟨now, c, event⟩ with
      | false => simpa using ih
      | true =>
          have hnone : past.countP p = 0 :=
            List.countP_eq_zero.2 fun u hu => by simp [once _ _ run allowed hp u hu]
          simp [hnone]

def replay (first : Coordinator) : List (Timestamp × Event) → List Turn × Coordinator
  | [] => ([], first)
  | (now, event) :: rest =>
      let (past, c) := replay first rest
      (⟨now, c, event⟩ :: past, Turn.after ⟨now, c, event⟩)

def Admits (rule : List Turn → Turn → Prop) (first : Coordinator) :
    List (Timestamp × Event) → Prop
  | [] => True
  | (now, event) :: rest =>
      Admits rule first rest ∧ rule (replay first rest).1 ⟨now, (replay first rest).2, event⟩

instance decidableAdmits (rule : List Turn → Turn → Prop) [∀ past t, Decidable (rule past t)]
    (first : Coordinator) : (events : List (Timestamp × Event)) →
      Decidable (Admits rule first events)
  | [] => isTrue trivial
  | (_, _) :: rest =>
      have := decidableAdmits rule first rest
      inferInstanceAs (Decidable (_ ∧ _))

theorem run_replay {rule : List Turn → Turn → Prop} {first : Coordinator}
    {events : List (Timestamp × Event)} (h : Admits rule first events) :
    Run rule first (replay first events).1 (replay first events).2 := by
  induction events with
  | nil => exact .begin
  | cons e rest ih => exact (ih h.1).next e.1 e.2 h.2

def oneNode : Coordinator :=
  .new .standard (Registry.empty.after [(⟨0, 0⟩, .register ⟨1⟩ "http://node1:8080")])

def Fresh (past : List Turn) (t : Turn) : Prop :=
  ∀ s ∈ t.event.started?, ∀ u ∈ past, u.starts s = false

instance (past : List Turn) (t : Turn) : Decidable (Fresh past t) :=
  inferInstanceAs (Decidable (∀ s ∈ t.event.started?, ∀ u ∈ past, u.starts s = false))

theorem Fresh.not_started {past : List Turn} {t u : Turn} {s : SessionId} (fresh : Fresh past t)
    (h : t.starts s = true) (hu : u ∈ past) : u.starts s = false :=
  fresh s (of_decide_eq_true h) u hu

theorem Run.start_unique {rule : List Turn → Turn → Prop} {first c : Coordinator}
    {past : List Turn} (fresh : ∀ past t, rule past t → Fresh past t)
    (run : Run rule first past c) {s : SessionId} {u v : Turn} (hu : u ∈ past) (hv : v ∈ past)
    (hus : u.starts s = true) (hvs : v.starts s = true) : u = v := by
  induction run with
  | begin => cases hu
  | next run now event allowed ih =>
      have hfresh := fresh _ _ allowed
      rcases List.mem_cons.1 hu with rfl | hu
      · rcases List.mem_cons.1 hv with rfl | hv
        · rfl
        · rw [hfresh.not_started hus hv] at hvs
          cases hvs
      · rcases List.mem_cons.1 hv with rfl | hv
        · rw [hfresh.not_started hvs hu] at hus
          cases hus
        · exact ih hu hv

def failure? {α : Type} : Except Failure α → Option Failure
  | .ok _ => none
  | .error f => some f

inductive Turn.Effect (t : Turn) : Prop
  | idle (same : t.after = t.before) (quiet : t.ending = none)
      (inside : t.event.delivers = false)
  | refused (s : SessionId) (draws : Draws) (request : Session.Request) (f : Failure)
      (event : t.event = .start s draws request) (ending : t.ending = some (s, .error f))
      (after : t.after = { t.before with
        docket := (t.before.docket.create t.now s request).finish t.now s (some f) })
  | opened (s : SessionId) (draws : Draws) (request : Session.Request) (parties : List NodeId)
      (channel : ChannelId) (bus : Bus)
      (event : t.event = .start s draws request) (quiet : t.ending = none)
      (selected : Quorum.select t.before.config.selectionPolicy t.before.registry.nodes.values
        request.totalNodes.toNat request.threshold.toNat s draws = .ok parties)
      (subscribed : t.before.bus.subscribe s = .ok (channel, bus))
      (after : t.after = { t.before with
        registry := (t.before.registry.markAll parties).2
        bus := bus
        docket := t.before.docket.create t.now s request
        leases := t.before.leases.insert s
          ⟨request.action, parties, (t.before.registry.markAll parties).1, channel, false⟩ })
  | acknowledged (s : SessionId) (reply : Reply) (lease : Lease)
      (event : t.event = .answer s reply) (quiet : t.ending = none)
      (live : t.before.leases.get? s = some lease) (waiting : lease.acknowledged = false)
      (after : t.after = { t.before with
        docket := t.before.docket.markDispatched t.now s lease.parties
        leases := t.before.leases.modify s fun l => { l with acknowledged := true } })
  | concluded (s : SessionId) (lease : Lease) (outcome : Except Failure CeremonyResult)
      (running : ∀ s', t.starts s' = false) (ending : t.ending = some (s, outcome))
      (live : t.before.leases.get? s = some lease)
      (after : t.after = t.before.conclude t.now s (failure? outcome))
  | pruned (age : Duration) (count : Nat) (docket : Session.Docket) (event : t.event = .prune age)
      (pruned : t.before.docket.prune t.now age = .ok (count, docket))
      (after : t.after = { t.before with docket := docket })
  | operated (op : Registry.Operation) (event : t.event = .operate op)
      (after : t.after = { t.before with registry := (t.before.registry.apply t.now op).2 })
  | delivered (op : Bus.Operation) (event : t.event = .deliver op)
      (answer : t.answer = .delivered (t.before.bus.apply op).1)
      (after : t.after = { t.before with bus := (t.before.bus.apply op).2 })

theorem conclude_receive (now : Timestamp) {s : SessionId} (failure : Option Failure)
    {c : Coordinator} {lease : Lease} (h : c.leases.get? s = some lease) :
    { c with bus := (c.bus.receive lease.channel).2 }.conclude now s failure =
      c.conclude now s failure := by
  simp only [conclude, h, Bus.drop_receive]

def heard (s : SessionId) (overdue : Bool) (lease : Lease) (b : Bus) :
    Option (Except Failure CeremonyResult) :=
  if lease.acknowledged then
    match (b.receive lease.channel).1 with
    | .result r => some (resultOutcome s lease.action r)
    | .closed => some (.error (.resultChannelClosed s))
    | .waiting => if overdue then some (.error (.timeout s)) else none
  else none

theorem resultOutcome_eq_ok {s : SessionId} {action : Action} {r result : CeremonyResult} :
    resultOutcome s action r = .ok result ↔ r = result ∧ r.matches action = true := by
  unfold resultOutcome
  cases r.matches action <;> simp

theorem attend_of_gone (now : Timestamp) {s : SessionId} (overdue : Bool) {c : Coordinator}
    (h : c.leases.get? s = none) : c.attend now s overdue = (none, c) := by
  simp only [attend, receive, expire, h]
  cases overdue <;> rfl

theorem attend_of_live (now : Timestamp) {s : SessionId} (overdue : Bool) {c : Coordinator}
    {lease : Lease} (h : c.leases.get? s = some lease) :
    c.attend now s overdue =
      match heard s overdue lease c.bus with
      | none => (none, c)
      | some outcome => (some outcome, c.conclude now s (failure? outcome)) := by
  have hsame := fun f => conclude_receive now f h
  cases ha : lease.acknowledged with
  | false =>
      cases overdue <;> simp [attend, receive, expire, heard, h, ha]
  | true =>
      cases hr : c.bus.receive lease.channel with
      | mk what bus =>
          simp only [hr] at hsame
          cases what with
          | waiting =>
              cases overdue <;> simp [attend, receive, expire, heard, h, ha, hr, failure?]
          | closed => simp [attend, receive, heard, h, ha, hr, hsame, failure?]
          | result r =>
              cases ho : resultOutcome s lease.action r with
              | ok r' => simp [attend, receive, heard, h, ha, hr, ho, hsame, failure?]
              | error f => simp [attend, receive, heard, h, ha, hr, ho, hsame, failure?]

theorem conclude_of_live (now : Timestamp) {s : SessionId} (failure : Option Failure)
    {c : Coordinator} {lease : Lease} (h : c.leases.get? s = some lease) :
    c.conclude now s failure = { c with
      bus := c.bus.drop lease.channel
      registry := c.registry.releaseAll lease.marked
      docket := c.docket.finish now s failure
      leases := c.leases.erase s } := by
  simp only [conclude, h]

theorem cancel_of_gone (now : Timestamp) {s : SessionId} {c : Coordinator}
    (h : c.leases.get? s = none) : c.cancel now s = (none, c) := by
  simp [cancel, Keyed.contains, h]

theorem cancel_of_live (now : Timestamp) {s : SessionId} {c : Coordinator} {lease : Lease}
    (h : c.leases.get? s = some lease) :
    c.cancel now s = (some (.cancelled s), c.conclude now s (some (.cancelled s))) := by
  simp [cancel, Keyed.contains, h]

namespace Turn

theorem of_start {t : Turn} {s : SessionId} {draws : Draws} {request : Session.Request}
    (event : t.event = .start s draws request) :
    t.answer = .started (t.before.start t.now s draws request).1 ∧
      t.after = (t.before.start t.now s draws request).2 := by
  simp [answer, after, event, step]

theorem effect_of_start {t : Turn} {s : SessionId} {draws : Draws} {request : Session.Request}
    (event : t.event = .start s draws request) : t.Effect := by
  obtain ⟨answer, after⟩ := of_start event
  have refused : ∀ f, request.validate = .ok () →
      t.before.start t.now s draws request = (.error f, t.before.refuse t.now s request f) →
      t.Effect := by
    intro f valid result
    refine .refused s draws request f event ?_ ?_
    · simp [ending, event, answer, result, valid, Except.isOk, Except.toBool]
    · rw [after, result, refuse]
  cases started t.now s draws request t.before with
  | invalid f invalid result =>
      refine .idle ?_ ?_ ?_
      · rw [after, result]
      · simp [ending, event, answer, result, invalid, Except.isOk, Except.toBool]
      · rw [event]
        rfl
  | unchosen f valid _ result => exact refused f valid result
  | taken f _ valid _ _ result => exact refused f valid result
  | launched parties channel bus _ selected subscribed result =>
      refine .opened s draws request parties channel bus event ?_ selected subscribed ?_
      · simp [ending, event, answer, result]
      · rw [after, result, launch]

theorem effect_of_answer {t : Turn} {s : SessionId} {reply : Reply}
    (event : t.event = .answer s reply) : t.Effect := by
  obtain ⟨now, c, _⟩ := t
  subst event
  have hstep : c.step now (.answer s reply) = (c.answer now s reply).map .acknowledged id := rfl
  cases hl : c.leases.get? s with
  | none =>
      have hs : c.answer now s reply = (none, c) := by simp only [Coordinator.answer, hl]
      refine .idle ?_ ?_ rfl
      · simp [after, hstep, hs]
      · simp [ending, answer, hstep, hs]
  | some lease =>
      cases ha : lease.acknowledged with
      | true =>
          have hs : c.answer now s reply = (none, c) := by
            simp only [Coordinator.answer, hl, ha, if_true]
          refine .idle ?_ ?_ rfl
          · simp [after, hstep, hs]
          · simp [ending, answer, hstep, hs]
      | false =>
          cases ho : reply.outcome c.config.dispatchTimeout with
          | error f =>
              have hs : c.answer now s reply =
                  (some (.error f), c.conclude now s (some f)) := by
                simp [Coordinator.answer, hl, ha, ho]
              refine .concluded s lease (.error f) (fun _ => rfl) ?_ hl ?_
              · simp [ending, answer, hstep, hs]
              · simp [after, hstep, hs, failure?]
          | ok _ =>
              have hs : (c.answer now s reply).1 = some (.ok ()) := by
                simp [Coordinator.answer, hl, ha, ho]
              refine .acknowledged s reply lease rfl ?_ hl ha ?_
              · simp [ending, answer, hstep, hs]
              · simp [after, hstep, Coordinator.answer, hl, ha, ho]

theorem effect_of_attend {t : Turn} {s : SessionId} {overdue : Bool}
    (event : t.event = .attend s overdue) : t.Effect := by
  obtain ⟨now, c, _⟩ := t
  subst event
  have hstep : c.step now (.attend s overdue) = (c.attend now s overdue).map .ended id := rfl
  cases hl : c.leases.get? s with
  | none =>
      have hs := attend_of_gone now overdue hl
      refine .idle ?_ ?_ rfl
      · simp [after, hstep, hs]
      · simp [ending, answer, hstep, hs]
  | some lease =>
      have hs := attend_of_live now overdue hl
      cases hh : heard s overdue lease c.bus with
      | none =>
          simp only [hh] at hs
          refine .idle ?_ ?_ rfl
          · simp [after, hstep, hs]
          · simp [ending, answer, hstep, hs]
      | some outcome =>
          simp only [hh] at hs
          refine .concluded s lease outcome (fun _ => rfl) ?_ hl ?_
          · simp [ending, answer, hstep, hs]
          · simp [after, hstep, hs]

theorem effect_of_cancel {t : Turn} {s : SessionId} (event : t.event = .cancel s) : t.Effect := by
  obtain ⟨now, c, _⟩ := t
  subst event
  have hstep : c.step now (.cancel s) = (c.cancel now s).map .withdrawn id := rfl
  cases hl : c.leases.get? s with
  | none =>
      have hs := cancel_of_gone now hl
      refine .idle ?_ ?_ rfl
      · simp [after, hstep, hs]
      · simp [ending, answer, hstep, hs]
  | some lease =>
      have hs := cancel_of_live now hl
      refine .concluded s lease (.error (.cancelled s)) (fun _ => rfl) ?_ hl ?_
      · simp [ending, answer, hstep, hs]
      · simp [after, hstep, hs, failure?]

theorem effect_of_prune {t : Turn} {age : Duration} (event : t.event = .prune age) : t.Effect := by
  obtain ⟨now, c, _⟩ := t
  subst event
  have hstep : c.step now (.prune age) = (c.prune now age).map .pruned id := rfl
  cases hp : c.docket.prune now age with
  | error f =>
      refine .idle ?_ rfl rfl
      simp [after, hstep, prune, hp]
  | ok kept =>
      obtain ⟨count, docket⟩ := kept
      refine .pruned age count docket rfl hp ?_
      simp [after, hstep, prune, hp]

theorem effect (t : Turn) : t.Effect := by
  cases h : t.event with
  | start s draws request => exact effect_of_start h
  | answer s reply => exact effect_of_answer h
  | attend s overdue => exact effect_of_attend h
  | cancel s => exact effect_of_cancel h
  | prune age => exact effect_of_prune h
  | operate op =>
      refine .operated op h ?_
      simp [after, h, step, operate]
  | deliver op =>
      refine .delivered op h ?_ ?_
      · simp [answer, h, step]
      · simp [after, h, step]

inductive Opens (s : SessionId) (lease : Lease) (t : Turn) : Prop
  | intro (draws : Draws) (request : Session.Request) (bus : Bus)
      (event : t.event = .start s draws request)
      (selected : Quorum.select t.before.config.selectionPolicy t.before.registry.nodes.values
        request.totalNodes.toNat request.threshold.toNat s draws = .ok lease.parties)
      (action : lease.action = request.action)
      (marked : lease.marked = (t.before.registry.markAll lease.parties).1)
      (subscribed : t.before.bus.subscribe s = .ok (lease.channel, bus))
      (bus_after : t.after.bus = bus)

theorem starts_of_event {t : Turn} {s : SessionId} {draws : Draws} {request : Session.Request}
    (event : t.event = .start s draws request) : t.starts s = true := by
  simp [starts, event, Event.started?]

theorem Opens.starts {s : SessionId} {lease : Lease} {t : Turn} (h : t.Opens s lease) :
    t.starts s = true := by
  obtain ⟨draws, request, bus, event, -⟩ := h
  exact starts_of_event event

structure Continues (old lease : Lease) : Prop where
  action : lease.action = old.action
  parties : lease.parties = old.parties
  marked : lease.marked = old.marked
  channel : lease.channel = old.channel

theorem Continues.refl (lease : Lease) : Continues lease lease := ⟨rfl, rfl, rfl, rfl⟩

theorem Continues.trans {first old lease : Lease} (h : Continues first old)
    (h' : Continues old lease) : Continues first lease :=
  ⟨h'.action.trans h.action, h'.parties.trans h.parties, h'.marked.trans h.marked,
    h'.channel.trans h.channel⟩

theorem live_before {t : Turn} {s : SessionId} {lease : Lease}
    (h : t.after.leases.get? s = some lease) :
    t.Opens s lease ∨ ∃ old, t.before.leases.get? s = some old ∧ Continues old lease := by
  cases t.effect with
  | idle same => exact Or.inr ⟨lease, same ▸ h, .refl _⟩
  | refused _ _ _ _ _ _ after =>
      rw [after] at h
      exact Or.inr ⟨lease, h, .refl _⟩
  | opened s' draws request parties channel bus event _ selected subscribed after =>
      simp only [after, Keyed.get?_insert] at h
      split at h
      · rename_i hs
        subst hs
        cases h
        exact Or.inl ⟨draws, request, bus, event, selected, rfl, rfl, subscribed, by rw [after]⟩
      · exact Or.inr ⟨lease, h, .refl _⟩
  | acknowledged s' _ _ _ _ _ _ after =>
      simp only [after, Keyed.get?_modify] at h
      split at h
      · rename_i hs
        subst hs
        obtain ⟨old, hold, rfl⟩ := Option.map_eq_some_iff.1 h
        exact Or.inr ⟨old, hold, ⟨rfl, rfl, rfl, rfl⟩⟩
      · exact Or.inr ⟨lease, h, .refl _⟩
  | concluded s' lease' outcome _ _ live after =>
      rw [after, conclude_of_live _ _ live, Keyed.get?_erase] at h
      split at h
      · cases h
      · exact Or.inr ⟨lease, h, .refl _⟩
  | pruned _ _ _ _ _ after =>
      rw [after] at h
      exact Or.inr ⟨lease, h, .refl _⟩
  | operated _ _ after =>
      rw [after] at h
      exact Or.inr ⟨lease, h, .refl _⟩
  | delivered _ _ _ after =>
      rw [after] at h
      exact Or.inr ⟨lease, h, .refl _⟩

end Turn

theorem Run.opened {rule : List Turn → Turn → Prop} {config : Config} {registry : Registry}
    {past : List Turn} {c : Coordinator} (run : Run rule (.new config registry) past c)
    {s : SessionId} {lease : Lease} (h : c.leases.get? s = some lease) :
    ∃ t ∈ past, ∃ old, t.Opens s old ∧ Turn.Continues old lease := by
  induction run generalizing lease with
  | begin => cases h
  | next run now event allowed ih =>
      rcases Turn.live_before h with hs | ⟨old, hold, hsame⟩
      · exact ⟨_, List.mem_cons_self, lease, hs, .refl _⟩
      · obtain ⟨t, ht, first, hs, hfirst⟩ := ih hold
        exact ⟨t, List.mem_cons_of_mem _ ht, first, hs, hfirst.trans hsame⟩

theorem Run.start_of_live {rule : List Turn → Turn → Prop} {config : Config} {registry : Registry}
    {past : List Turn} {c : Coordinator} (run : Run rule (.new config registry) past c)
    {s : SessionId} {lease : Lease} (live : c.leases.get? s = some lease) :
    ∃ u ∈ past, ∃ draws request, u.event = .start s draws request := by
  obtain ⟨u, hu, given, opens, -⟩ := run.opened live
  obtain ⟨draws, request, bus, event, -⟩ := opens
  exact ⟨u, hu, draws, request, event⟩

theorem Run.started {rule : List Turn → Turn → Prop} {config : Config} {registry : Registry}
    {past : List Turn} {c : Coordinator} (run : Run rule (.new config registry) past c)
    {s : SessionId} {lease : Lease} (live : c.leases.get? s = some lease) :
    ∃ u ∈ past, u.starts s = true := by
  obtain ⟨u, hu, draws, request, event⟩ := run.start_of_live live
  exact ⟨u, hu, Turn.starts_of_event event⟩

theorem Run.action_of_start {rule : List Turn → Turn → Prop} {config : Config}
    {registry : Registry} {past : List Turn} {c : Coordinator}
    (fresh : ∀ past t, rule past t → Fresh past t)
    (run : Run rule (.new config registry) past c) {s : SessionId} {lease : Lease}
    (live : c.leases.get? s = some lease) {u : Turn} (hu : u ∈ past) {draws : Draws}
    {request : Session.Request} (event : u.event = .start s draws request) :
    lease.action = request.action := by
  obtain ⟨v, hv, old, opens, continues⟩ := run.opened live
  obtain rfl : u = v := run.start_unique fresh hu hv (Turn.starts_of_event event) opens.starts
  obtain ⟨draws', request', bus, event', selected, action, -⟩ := opens
  obtain ⟨-, -, rfl⟩ := Event.start.inj (event.symm.trans event')
  exact continues.action.trans action

theorem Run.gone_of_start {rule : List Turn → Turn → Prop} {config : Config} {registry : Registry}
    {past : List Turn} {c : Coordinator} (run : Run rule (.new config registry) past c) {t : Turn}
    {s : SessionId} (fresh : Fresh past t) (h : t.starts s = true) : c.leases.get? s = none := by
  cases hl : c.leases.get? s with
  | none => rfl
  | some lease =>
      obtain ⟨u, hu, hs⟩ := run.started hl
      rw [fresh.not_started h hu] at hs
      cases hs

theorem Run.named {rule : List Turn → Turn → Prop} {first c : Coordinator} {past : List Turn}
    (run : Run rule first past c) (h : first.registry.Named) : c.registry.Named := by
  induction run with
  | begin => exact h
  | @next past c run now event allowed ih =>
      cases Turn.effect ⟨now, c, event⟩ with
      | idle same => exact same ▸ ih
      | refused _ _ _ _ _ _ after => exact after ▸ ih
      | opened _ _ _ _ _ _ _ _ _ _ after => exact after ▸ Registry.named_markAll ih
      | acknowledged _ _ _ _ _ _ _ after => exact after ▸ ih
      | concluded s lease outcome _ _ live after =>
          rw [after, conclude_of_live _ _ live]
          exact Registry.named_releaseAll ih
      | pruned _ _ _ _ _ after => exact after ▸ ih
      | operated op _ after => exact after ▸ Registry.named_apply ih
      | delivered _ _ _ after => exact after ▸ ih

end Conclave.Coordinator

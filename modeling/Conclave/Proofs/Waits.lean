import Conclave.Proofs.Deeds
import Conclave.Proofs.Ledger

namespace Conclave.Rehearsal

def Event.reply? : Event → Option Reply
  | .reply _ r => some r
  | _ => none

def Event.isTimer : Event → Bool
  | .deadline _ => true
  | .withdrawal _ => true
  | _ => false

def Deed.tidings? (s : SessionId) (action : Action) (d : Deed) : Option Outcome :=
  match d.word? with
  | none => none
  | some (.publication k result) =>
      if k = s then some (Coordinator.resultOutcome s action result) else none
  | some .closing => some (.error (.resultChannelClosed s))

def Lone (ticket : Nat) (c : Caller) (σ : Scene) : Prop :=
  ∃ others, σ.callers = others ++ [(ticket, c)] ∧
    ∀ e ∈ others, e.1 ≠ ticket ∧ ∃ a, e.2.stage = .ended a

structure Told (ticket : Nat) (a : Answer) (σ : Scene) : Prop where
  gone : σ.standing = none
  unreceived : σ.isReceived = false
  told : ∃ c, (ticket, c) ∈ σ.callers ∧ c.stage = .ended a

section Callers

variable {s : SessionId} {ticket : Nat} {c : Caller} {a : Answer} {σ : Scene} {clock : Nat}
  {budget : Duration}

theorem Lone.mem (lone : Lone ticket c σ) : (ticket, c) ∈ σ.callers := by
  obtain ⟨others, callers, -⟩ := lone
  rw [callers]
  exact List.mem_append_right _ (List.mem_singleton.2 rfl)

theorem Lone.congr {σ' : Scene} (lone : Lone ticket c σ) (callers : σ'.callers = σ.callers) :
    Lone ticket c σ' := by
  obtain ⟨others, hcallers, ended⟩ := lone
  exact ⟨others, callers.trans hcallers, ended⟩

theorem Lone.caller? (lone : Lone ticket c σ) (waits : c.waitsOn s = true) :
    σ.caller? s = some (ticket, c) := by
  obtain ⟨others, callers, ended⟩ := lone
  have idle : others.find? (fun e => e.2.waitsOn s) = none := by
    rw [List.find?_eq_none]
    intro e he
    obtain ⟨-, a, stage⟩ := ended e he
    simp [Caller.waitsOn, stage]
  rw [Scene.caller?, callers, List.find?_append, idle, Option.none_or,
    List.find?_cons_of_pos (by exact waits)]

theorem Lone.setStage (lone : Lone ticket c σ) (stage : Stage) :
    Lone ticket { c with stage := stage } (σ.setStage ticket stage) := by
  obtain ⟨others, callers, ended⟩ := lone
  refine ⟨others, ?_, ended⟩
  have same : others.map (Keyed.touch ticket fun c => { c with stage := stage }) = others :=
    (List.map_congr_left fun e he => touch_ne _ (ended e he).1).trans (List.map_id' _)
  rw [Scene.setStage, Scene.modify, callers, List.map_append, same, List.map_cons, touch_eq,
    List.map_nil]

theorem Lone.isReceived (lone : Lone ticket c σ) : σ.isReceived = c.isReceiving := by
  obtain ⟨others, callers, ended⟩ := lone
  have idle : others.any (fun e => e.2.isReceiving) = false := by
    rw [List.any_eq_false]
    intro e he
    obtain ⟨-, a, stage⟩ := ended e he
    simp [Caller.isReceiving, stage]
  rw [Scene.isReceived, callers, List.any_append, idle, Bool.false_or, List.any_cons, List.any_nil,
    Bool.or_false]

theorem Lone.conclude (lone : Lone ticket c σ) (waits : c.waitsOn s = true) (outcome : Outcome) :
    Told ticket (c.told outcome) (σ.conclude s outcome) := by
  have gone : Lone ticket c { σ with standing := none } := lone.congr rfl
  have ended := gone.setStage (.ended (c.told outcome))
  have concluded : σ.conclude s outcome =
      ({ σ with standing := none } : Scene).setStage ticket (.ended (c.told outcome)) := by
    rw [Scene.conclude, Scene.resolve, gone.caller? waits]
  rw [concluded]
  exact ⟨rfl, ended.isReceived, _, ended.mem, rfl⟩

theorem Told.attend (told : Told ticket a σ) : σ.attend s = σ :=
  Scene.attend_of_rests fun hreceived => by
    rw [told.unreceived] at hreceived
    cases hreceived

theorem Told.fire (told : Told ticket a σ) (e : Event) : σ.fire s budget clock e = σ := by
  obtain ⟨standing, callers, dues⟩ := σ
  obtain rfl : standing = none := told.gone
  cases e <;> rfl

theorem Told.hear (told : Told ticket a σ) (d : Deed) : σ.hear s d = σ := by
  obtain ⟨standing, callers, dues⟩ := σ
  obtain rfl : standing = none := told.gone
  unfold Scene.hear only
  split
  · rfl
  · split <;> rfl
  · rfl

theorem Told.undergo (told : Told ticket a σ) (events : List Event) :
    σ.undergo s budget clock events = σ := by
  induction events with
  | nil => rfl
  | cons e rest ih =>
      rw [Scene.undergo, List.foldl_cons, told.fire, told.attend]
      exact ih

theorem Told.congr {σ' : Scene} (told : Told ticket a σ) (standing : σ'.standing = σ.standing)
    (callers : σ'.callers = σ.callers) : Told ticket a σ' := by
  refine ⟨standing.trans told.gone, ?_, ?_⟩
  · rw [Scene.isReceived, callers]
    exact told.unreceived
  · rw [callers]
    exact told.told

theorem Told.settle (told : Told ticket a σ) : Told ticket a (σ.settle s budget clock) := by
  have later : Told ticket a { σ with dues := σ.dues.later clock } := told.congr rfl rfl
  rw [Scene.settle, later.attend, later.undergo]
  exact later

end Callers

def Stands (acknowledged : Bool) (s : SessionId) (action : Action)
    (entries : Nat → Outcome → Prop) (clock : Nat) (now : List Event) (σ : Scene) : Prop :=
  ∃ st, σ.standing = some st ∧ st.acknowledged = acknowledged ∧ st.action = action ∧
    Ledger s action entries clock now σ.dues (st.tidings s)

section Stands

variable {acknowledged : Bool} {s : SessionId} {action : Action}
  {entries entries' : Nat → Outcome → Prop} {clock t : Nat} {now : List Event} {σ : Scene}
  {e : Event} {d : Deed}

theorem Stands.deliver {k : SessionId} {result : CeremonyResult}
    (stands : Stands acknowledged s action entries clock (.publication k result :: now) σ) :
    Stands acknowledged s action entries clock now (σ.deliver result) := by
  obtain ⟨st, hst, hack, haction, ledger⟩ := stands
  refine ⟨st.deliver result, by rw [Scene.deliver, hst, Option.map_some],
    (st.acknowledged_deliver result).trans hack, (st.action_deliver result).trans haction, ?_⟩
  rw [Coordinator.Standing.tidings_deliver, haction]
  exact ledger.read rfl

theorem Stands.skip (stands : Stands acknowledged s action entries clock (e :: now) σ)
    (silent : e.outcome? s action = none) : Stands acknowledged s action entries clock now σ := by
  obtain ⟨st, hst, hack, haction, ledger⟩ := stands
  exact ⟨st, hst, hack, haction, ledger.skip silent⟩

theorem Stands.pass (stands : Stands acknowledged s action entries clock [] σ) (later : clock < t)
    (next : ∀ e ∈ σ.dues.entries, t ≤ e.1) :
    Stands acknowledged s action entries t (σ.dues.due t) { σ with dues := σ.dues.later t } := by
  obtain ⟨st, hst, hack, haction, ledger⟩ := stands
  exact ⟨st, hst, hack, haction, ledger.pass later next⟩

theorem Stands.idle (stands : Stands acknowledged s action entries clock [] σ) (le : clock ≤ t)
    (quiet : ∀ e ∈ σ.dues.entries, t < e.1) : Stands acknowledged s action entries t [] σ := by
  obtain ⟨st, hst, hack, haction, ledger⟩ := stands
  exact ⟨st, hst, hack, haction, ledger.idle le quiet⟩

theorem standing_hear {st : Coordinator.Standing} (hst : σ.standing = some st) (d : Deed) :
    ∃ st', (σ.hear s d).standing = some st' ∧ st'.acknowledged = st.acknowledged ∧
      st'.action = st.action ∧
      st'.tidings s = ((st.tidings s).orElse fun _ => d.tidings? s st.action) := by
  have still : ((st.tidings s).orElse fun _ => none) = st.tidings s := by
    cases st.tidings s <;> rfl
  unfold Scene.hear Deed.tidings?
  cases d.word? with
  | none => exact ⟨st, hst, rfl, rfl, still.symm⟩
  | some word =>
      cases word with
      | closing =>
          exact ⟨st.close, by rw [Scene.close, hst, Option.map_some], rfl, rfl, st.tidings_close s⟩
      | publication k result =>
          simp only [only]
          by_cases hk : s = k
          · rw [if_pos hk, if_pos hk.symm]
            exact ⟨st.deliver result, by rw [Scene.deliver, hst, Option.map_some],
              st.acknowledged_deliver result, st.action_deliver result, st.tidings_deliver s result⟩
          · rw [if_neg hk, if_neg (Ne.symm hk)]
            exact ⟨st, hst, rfl, rfl, still.symm⟩

theorem Ledger.hear {dues : Agenda Event} {mail : Option Outcome}
    (h : Ledger s action entries clock [] dues mail)
    (grown : ∀ t o, entries' t o ↔ entries t o ∨ t = clock ∧ d.tidings? s action = some o) :
    Ledger s action entries' clock [] dues (mail.orElse fun _ => d.tidings? s action) := by
  cases told : d.tidings? s action with
  | some outcome =>
      refine h.enter fun t o => (grown t o).trans (or_congr_right (and_congr_right fun _ => ?_))
      rw [told]
      exact ⟨fun same => (Option.some.inj same).symm, fun same => same ▸ rfl⟩
  | none =>
      have still : (mail.orElse fun _ => none) = mail := by
        cases mail <;> rfl
      rw [still]
      refine h.congr fun t o => (grown t o).trans ⟨fun hor => ?_, Or.inl⟩
      rcases hor with hold | ⟨-, hnew⟩
      · exact hold
      · rw [told] at hnew
        cases hnew

theorem Stands.hear (stands : Stands acknowledged s action entries clock [] σ)
    (grown : ∀ t o, entries' t o ↔ entries t o ∨ t = clock ∧ d.tidings? s action = some o) :
    Stands acknowledged s action entries' clock [] (σ.hear s d) := by
  obtain ⟨st, hst, hack, haction, ledger⟩ := stands
  obtain ⟨st', hst', hack', haction', tidings⟩ := standing_hear (s := s) hst d
  refine ⟨st', hst', hack'.trans hack, haction'.trans haction, ?_⟩
  rw [tidings, haction, (Scene.parts_hear s d σ).1]
  exact ledger.hear grown

end Stands

structure Receiving (s : SessionId) (action : Action) (ticket : Nat) (c : Caller)
    (entries : Nat → Outcome → Prop) (clock : Nat) (now : List Event) (σ : Scene) : Prop where
  lone : Lone ticket c σ
  stage : c.stage = .receiving
  session : c.session = s
  stands : ∃ st, σ.standing = some st ∧ st.acknowledged = true ∧ st.action = action ∧
    st.tidings s = none
  ledger : Ledger s action entries clock now σ.dues none

inductive Attending (s : SessionId) (action : Action) (ticket : Nat) (c : Caller)
    (entries : Nat → Outcome → Prop) (clock : Nat) (now : List Event) (σ : Scene) : Prop
  | receiving (h : Receiving s action ticket c entries clock now σ)
  | told (outcome : Outcome) (first : Foremost entries clock outcome)
      (told : Told ticket (c.told outcome) σ)

section Attending

variable {s : SessionId} {action : Action} {ticket : Nat} {c : Caller}
  {entries entries' : Nat → Outcome → Prop} {clock t : Nat} {now : List Event} {σ : Scene}
  {e : Event} {d : Deed} {budget : Duration}

theorem Receiving.waits (h : Receiving s action ticket c entries clock now σ) :
    c.waitsOn s = true := by
  simp [Caller.waitsOn, h.stage, h.session]

theorem Receiving.received (h : Receiving s action ticket c entries clock now σ) :
    σ.isReceived = true := by
  rw [h.lone.isReceived, Caller.isReceiving, h.stage]

theorem Receiving.rests (h : Receiving s action ticket c entries clock now σ) : σ.Rests s := by
  intro _
  obtain ⟨st, hst, hack, -, tidings⟩ := h.stands
  simp [hst, Coordinator.Standing.news, hack, tidings]

theorem told_of_poll {st : Coordinator.Standing} {outcome : Outcome} (lone : Lone ticket c σ)
    (waits : c.waitsOn s = true) (hst : σ.standing = some st) (hack : st.acknowledged = true)
    (tidings : st.tidings s = some outcome) : Told ticket (c.told outcome) (σ.poll s) := by
  have news : σ.standing.bind (·.news s) = some outcome := by
    simp [hst, Coordinator.Standing.news, hack, tidings]
  simp only [Scene.poll, news]
  exact lone.conclude waits outcome

theorem Receiving.step (h : Receiving s action ticket c entries clock (e :: now) σ) :
    Attending s action ticket c entries clock now ((σ.fire s budget clock e).attend s) := by
  obtain ⟨st, hst, hack, haction, tidings⟩ := h.stands
  have stay : e.outcome? s action = none → σ.fire s budget clock e = σ →
      Attending s action ticket c entries clock now ((σ.fire s budget clock e).attend s) := by
    intro silent same
    rw [same, Scene.attend_of_rests h.rests]
    exact .receiving ⟨h.lone, h.stage, h.session, h.stands, h.ledger.skip silent⟩
  have finish : ∀ outcome, e.outcome? s action = some outcome →
      Told ticket (c.told outcome) ((σ.fire s budget clock e).attend s) →
      Attending s action ticket c entries clock now ((σ.fire s budget clock e).attend s) :=
    fun outcome brings told => .told outcome ((h.ledger.read brings).settled outcome rfl) told
  -- a late reply and a sweep leave the wait alone; each of the others ends it
  cases e with
  | reply k reply => exact stay rfl (by simp [Scene.fire, Scene.answer, hst, hack])
  | sweep reaper origin => exact stay rfl rfl
  | publication k result =>
      refine finish _ rfl ?_
      have received : (σ.deliver result).isReceived = true := h.received
      rw [Scene.fire, Scene.attend, if_pos received]
      have delivered : (σ.deliver result).standing = some (st.deliver result) := by
        rw [Scene.deliver, hst, Option.map_some]
      refine told_of_poll (h.lone.congr rfl) h.waits delivered ?_ ?_
      · rw [Coordinator.Standing.acknowledged_deliver, hack]
      · rw [Coordinator.Standing.tidings_deliver, tidings, haction]
        rfl
  | deadline k =>
      have told := h.lone.conclude h.waits (.error (.timeout s))
      refine finish _ rfl ?_
      have fired : σ.fire s budget clock (.deadline k) = σ.conclude s (.error (.timeout s)) := by
        simp [Scene.fire, Scene.expire, hst, hack]
      rw [fired, told.attend]
      exact told
  | withdrawal k =>
      have told := h.lone.conclude h.waits (.error (.cancelled s))
      refine finish _ rfl ?_
      have fired : σ.fire s budget clock (.withdrawal k) = σ.conclude s (.error (.cancelled s)) := by
        simp [Scene.fire, Scene.cancel, hst]
      rw [fired, told.attend]
      exact told

theorem Attending.attend (h : Attending s action ticket c entries clock now σ) :
    σ.attend s = σ := by
  cases h with
  | receiving h => exact Scene.attend_of_rests h.rests
  | told _ _ told => exact told.attend

theorem Attending.undergo (h : Attending s action ticket c entries clock now σ) :
    Attending s action ticket c entries clock [] (σ.undergo s budget clock now) := by
  induction now generalizing σ with
  | nil => exact h
  | cons e rest ih =>
      cases h with
      | receiving h => exact ih h.step
      | told outcome first told =>
          rw [told.undergo]
          exact .told outcome first told

theorem Attending.pass (h : Attending s action ticket c entries clock [] σ) (later : clock < t)
    (next : ∀ e ∈ σ.dues.entries, t ≤ e.1) :
    Attending s action ticket c entries t (σ.dues.due t) { σ with dues := σ.dues.later t } := by
  cases h with
  | receiving h =>
      exact .receiving ⟨h.lone.congr rfl, h.stage, h.session, h.stands, h.ledger.pass later next⟩
  | told outcome first told =>
      exact .told outcome (first.later (Nat.le_of_lt later)) (told.congr rfl rfl)

theorem Attending.settle (h : Attending s action ticket c entries clock [] σ) (later : clock < t)
    (next : ∀ e ∈ σ.dues.entries, t ≤ e.1) :
    Attending s action ticket c entries t [] (σ.settle s budget t) := by
  have passed := h.pass later next
  rw [Scene.settle, passed.attend]
  exact passed.undergo

theorem Attending.idle (h : Attending s action ticket c entries clock [] σ) (le : clock ≤ t)
    (quiet : ∀ e ∈ σ.dues.entries, t < e.1) :
    Attending s action ticket c entries t [] σ := by
  cases h with
  | receiving h =>
      exact .receiving ⟨h.lone, h.stage, h.session, h.stands, h.ledger.idle le quiet⟩
  | told outcome first told => exact .told outcome (first.later le) told

theorem Attending.hear (h : Attending s action ticket c entries clock [] σ)
    (grown : ∀ t o, entries' t o ↔ entries t o ∨ t = clock ∧ d.tidings? s action = some o) :
    Attending s action ticket c entries' clock [] ((σ.hear s d).attend s) := by
  cases h with
  | receiving h =>
      obtain ⟨st, hst, hack, haction, tidings⟩ := h.stands
      obtain ⟨st', hst', hack', haction', tidings'⟩ := standing_hear (s := s) hst d
      have ledger := h.ledger.hear grown
      have lone : Lone ticket c (σ.hear s d) := h.lone.congr (Scene.parts_hear s d σ).2
      rw [tidings, haction] at tidings'
      cases told : d.tidings? s action with
      | some outcome =>
          rw [told] at tidings' ledger
          have received : (σ.hear s d).isReceived = true := by
            rw [Scene.isReceived, (Scene.parts_hear s d σ).2]
            exact h.received
          rw [Scene.attend, if_pos received]
          exact .told outcome (ledger.settled outcome rfl)
            (told_of_poll lone h.waits hst' (hack'.trans hack) tidings')
      | none =>
          rw [told] at tidings' ledger
          have heard : Attending s action ticket c entries' clock [] (σ.hear s d) :=
            .receiving ⟨lone, h.stage, h.session,
              ⟨st', hst', hack'.trans hack, haction'.trans haction, tidings'⟩,
              (Scene.parts_hear s d σ).1 ▸ ledger⟩
          rw [heard.attend]
          exact heard
  | told outcome first told =>
      rw [told.hear, told.attend]
      exact .told outcome (first.grow grown fun t o new => Nat.le_of_eq new.1.symm) told

def Timer (s : SessionId) (clock : Nat) (deadline : Duration) (patience : Option Nat) (t : Nat)
    (outcome : Outcome) : Prop :=
  t = clock + deadline.millis ∧ outcome = .error (.timeout s) ∨
    ∃ p, patience = some p ∧ t = clock + p ∧ outcome = .error (.cancelled s)

theorem Timer.le {deadline : Duration} {patience : Option Nat} {outcome : Outcome}
    (h : Timer s clock deadline patience t outcome) : clock ≤ t := by
  rcases h with ⟨rfl, -⟩ | ⟨p, -, rfl, -⟩
  · exact Nat.le_add_right _ _
  · exact Nat.le_add_right _ _

theorem Ledger.atOnce {dues : Agenda Event} {deadline : Duration} {patience : Option Nat}
    {outcome : Outcome} (h : Ledger s action entries clock now dues none)
    (grown : ∀ t o, entries' t o ↔ entries t o ∨ Timer s clock deadline patience t o)
    (timer : Timer s clock deadline patience clock outcome) : Foremost entries' clock outcome := by
  refine ⟨clock, (grown clock outcome).2 (Or.inr timer), Nat.le_refl _, fun t o entry => ?_⟩
  rcases (grown t o).1 entry with hold | hnew
  · exact h.le_of_entry hold
  · exact hnew.le

theorem Ledger.timed {deadline : Duration} {patience : Option Nat}
    (h : Ledger s action entries clock now σ.dues none) (positive : deadline.isZero = false)
    (patient : patience ≠ some 0)
    (grown : ∀ t o, entries' t o ↔ entries t o ∨ Timer s clock deadline patience t o) :
    Ledger s action entries' clock now (σ.plan s clock deadline patience).dues none := by
  have later : clock < clock + deadline.millis := by
    have := Duration.millis_pos positive
    omega
  have planned : Ledger s action (fun t o => entries t o ∨
      t = clock + deadline.millis ∧ o = .error (.timeout s)) clock now _ none :=
    h.plan (e := .deadline s) later rfl fun _ _ => Iff.rfl
  cases patience with
  | none => exact planned.congr fun t o => (grown t o).trans (by simp [Timer])
  | some p =>
      have later : clock < clock + p := by
        have : p ≠ 0 := fun h => patient (by rw [h])
        omega
      refine planned.plan (e := .withdrawal s) later rfl fun t o => (grown t o).trans ?_
      simp [Timer, or_assoc]

theorem Stands.watch (stands : Stands true s action entries clock now σ)
    (lone : Lone ticket c σ) (stage : c.stage = .receiving) (session : c.session = s)
    {deadline : Duration} {patience : Option Nat}
    (grown : ∀ t o, entries' t o ↔ entries t o ∨ Timer s clock deadline patience t o) :
    Attending s action ticket c entries' clock now (σ.watch s clock deadline patience) := by
  obtain ⟨st, hst, hack, haction, ledger⟩ := stands
  have waits : c.waitsOn s = true := by simp [Caller.waitsOn, stage, session]
  have received : σ.isReceived = true := by rw [lone.isReceived, Caller.isReceiving, stage]
  cases tidings : st.tidings s with
  | some outcome =>
      have told := told_of_poll lone waits hst hack tidings
      have watched : σ.watch s clock deadline patience = σ.poll s := by
        simp [Scene.watch, told.unreceived]
      rw [watched]
      exact .told outcome ((ledger.settled outcome tidings).grow grown fun _ _ => Timer.le) told
  | none =>
      rw [tidings] at ledger
      have polled : σ.poll s = σ := by
        simp [Scene.poll, hst, Coordinator.Standing.news, hack, tidings]
      by_cases hpatience : patience = some 0
      · have watched : σ.watch s clock deadline patience =
            σ.conclude s (.error (.cancelled s)) := by
          simp [Scene.watch, polled, received, hpatience, Scene.cancel, hst]
        rw [watched]
        exact .told _ (ledger.atOnce grown (Or.inr ⟨0, hpatience, rfl, rfl⟩))
          (lone.conclude waits _)
      · cases hzero : deadline.isZero with
        | true =>
            have watched : σ.watch s clock deadline patience =
                σ.conclude s (.error (.timeout s)) := by
              simp [Scene.watch, polled, received, hpatience, hzero, Scene.expire, hst, hack]
            have millis : deadline.millis = 0 := by
              simp only [Duration.isZero, decide_eq_true_eq] at hzero
              simp [Duration.millis, hzero]
            rw [watched]
            exact .told _ (ledger.atOnce grown (Or.inl ⟨by rw [millis, Nat.add_zero], rfl⟩))
              (lone.conclude waits _)
        | false =>
            have watched : σ.watch s clock deadline patience = σ.plan s clock deadline patience := by
              simp [Scene.watch, polled, received, hpatience, hzero]
            have planned : (σ.plan s clock deadline patience).callers = σ.callers ∧
                (σ.plan s clock deadline patience).standing = σ.standing := by
              cases patience <;> exact ⟨rfl, rfl⟩
            rw [watched]
            exact .receiving ⟨lone.congr planned.1, stage, session,
              ⟨st, planned.2.trans hst, hack, haction, tidings⟩,
              ledger.timed hzero hpatience grown⟩

end Attending

end Conclave.Rehearsal

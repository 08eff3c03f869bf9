import Conclave.Proofs.Waits

namespace Conclave.Rehearsal

def Script.verdict (s : SessionId) (budget : Duration) (script : Script) : Nat × Reply :=
  match script.reaction.reply? s with
  | some reply =>
      if script.delay ≤ budget.millis then (script.delay, reply) else (budget.millis, .overdue)
  | none => (budget.millis, .overdue)

inductive Expecting (ready : Nat) (reply : Reply) (clock : Nat) (now : List Event)
    (dues : Agenda Event) : Prop
  | later (h : clock < ready) (silent : ∀ e ∈ now, e.reply? = none)
      (first : ∀ e ∈ dues.entries, e.2.reply? ≠ none → ready ≤ e.1)
      (next : (dues.due ready).findSome? Event.reply? = some reply)
  | present (h : clock = ready) (next : now.findSome? Event.reply? = some reply)

namespace Expecting

variable {ready clock t due : Nat} {reply : Reply} {now : List Event} {dues : Agenda Event}
  {e : Event}

theorem skip (h : Expecting ready reply clock (e :: now) dues) (silent : e.reply? = none) :
    Expecting ready reply clock now dues := by
  cases h with
  | later h hnow first next =>
      exact .later h (fun d hd => hnow d (List.mem_cons_of_mem e hd)) first next
  | present h next =>
      refine .present h ?_
      rwa [List.findSome?_cons, silent] at next

theorem decided (h : Expecting ready reply clock (e :: now) dues) {r : Reply}
    (hr : e.reply? = some r) : clock = ready ∧ r = reply := by
  cases h with
  | later h silent _ _ =>
      rw [silent e List.mem_cons_self] at hr
      cases hr
  | present h next =>
      rw [List.findSome?_cons, hr] at next
      exact ⟨h, Option.some.inj next⟩

theorem le_ready (ahead : ∀ e ∈ dues.entries, t ≤ e.1)
    (next : (dues.due ready).findSome? Event.reply? = some reply) : t ≤ ready := by
  obtain ⟨e, he, -⟩ := List.exists_of_findSome?_eq_some next
  obtain ⟨entry, hentry, rfl⟩ := List.mem_map.1 he
  obtain ⟨hmem, hle⟩ := List.mem_filter.1 hentry
  exact (ahead entry hmem).trans (of_decide_eq_true hle)

theorem findSome?_filter {α β : Type} {f : α → Option β} {p : α → Bool} {l : List α}
    (h : ∀ a ∈ l, p a = false → f a = none) : (l.filter p).findSome? f = l.findSome? f := by
  induction l with
  | nil => rfl
  | cons a rest ih =>
      have ih := ih fun b hb => h b (List.mem_cons_of_mem a hb)
      cases hp : p a with
      | true => rw [List.filter_cons_of_pos hp, List.findSome?_cons, List.findSome?_cons, ih]
      | false =>
          rw [List.filter_cons_of_neg (by simp [hp]), List.findSome?_cons,
            h a List.mem_cons_self hp, ih]

theorem findSome?_due (clock : Nat) (dues : Agenda Event) :
    (dues.due clock).findSome? Event.reply? =
      (dues.entries.filter fun e => decide (e.1 ≤ clock)).findSome? fun e => e.2.reply? := by
  rw [Agenda.due, List.findSome?_map]
  rfl

theorem split (ahead : ∀ e ∈ dues.entries, t ≤ e.1)
    (first : ∀ e ∈ dues.entries, e.2.reply? ≠ none → ready ≤ e.1)
    (next : (dues.due ready).findSome? Event.reply? = some reply) :
    Expecting ready reply t (dues.due t) (dues.later t) := by
  rcases Nat.lt_or_eq_of_le (le_ready ahead next) with hlt | rfl
  · refine .later hlt ?_ (fun e he => first e (List.mem_filter.1 he).1) ?_
    · intro e he
      obtain ⟨entry, hentry, rfl⟩ := List.mem_map.1 he
      obtain ⟨hmem, hle⟩ := List.mem_filter.1 hentry
      by_contra hreply
      have := first entry hmem hreply
      have := of_decide_eq_true hle
      omega
    · rw [findSome?_due] at next ⊢
      rw [← next, Agenda.later, List.filter_filter]
      have swap : (fun e : Nat × Event => decide (e.1 ≤ ready) && decide (t < e.1)) =
          fun e => decide (t < e.1) && decide (e.1 ≤ ready) := by
        funext e
        exact Bool.and_comm _ _
      rw [swap, ← List.filter_filter]
      refine findSome?_filter fun e he hpast => ?_
      by_contra hreply
      have := first e (List.mem_filter.1 he).1 hreply
      have := of_decide_eq_false hpast
      omega
  · exact .present rfl next

theorem pass (h : Expecting ready reply clock [] dues) (ahead : ∀ e ∈ dues.entries, t ≤ e.1) :
    Expecting ready reply t (dues.due t) (dues.later t) := by
  cases h with
  | later _ _ first next => exact split ahead first next
  | present _ next => cases next

theorem idle (h : Expecting ready reply clock [] dues) (quiet : ∀ e ∈ dues.entries, t < e.1) :
    Expecting ready reply t [] dues := by
  cases h with
  | later _ silent first next => exact .later (le_ready (t := t + 1) quiet next) silent first next
  | present _ next => cases next

theorem remind (h : Expecting ready reply clock now dues) (silent : e.reply? = none) :
    Expecting ready reply clock now (dues.add due e) := by
  cases h with
  | later h hnow first next =>
      refine .later h hnow ?_ ?_
      · intro d hd hreply
        rcases List.mem_append.1 hd with hold | hnew
        · exact first d hold hreply
        · obtain rfl := List.mem_singleton.1 hnew
          exact absurd silent hreply
      · rw [findSome?_due] at next ⊢
        rw [Agenda.add, List.filter_append, List.findSome?_append, next, Option.some_or]
  | present h next => exact .present h next

theorem append (h : Expecting ready reply clock now dues) (silent : e.reply? = none) :
    Expecting ready reply clock (now ++ [e]) dues := by
  cases h with
  | later h hnow first next =>
      refine .later h (fun d hd => ?_) first next
      rcases List.mem_append.1 hd with hold | hnew
      · exact hnow d hold
      · obtain rfl := List.mem_singleton.1 hnew
        exact silent
  | present h next =>
      exact .present h (by rw [List.findSome?_append, next, Option.some_or])

end Expecting

def Untimed (now : List Event) (dues : Agenda Event) : Prop :=
  (∀ e ∈ now, e.isTimer = false) ∧ ∀ e ∈ dues.entries, e.2.isTimer = false

theorem Untimed.tail {e : Event} {now : List Event} {dues : Agenda Event}
    (h : Untimed (e :: now) dues) : Untimed now dues :=
  ⟨fun d hd => h.1 d (List.mem_cons_of_mem e hd), h.2⟩

theorem Untimed.split {now : List Event} {dues : Agenda Event} (h : Untimed now dues) (t : Nat) :
    Untimed (dues.due t) (dues.later t) := by
  refine ⟨fun e he => ?_, fun e he => h.2 e (List.mem_filter.1 he).1⟩
  obtain ⟨entry, hentry, rfl⟩ := List.mem_map.1 he
  exact h.2 entry (List.mem_filter.1 hentry).1

theorem Untimed.remind {e : Event} {now : List Event} {dues : Agenda Event} (h : Untimed now dues)
    (untimed : e.isTimer = false) (due : Nat) : Untimed now (dues.add due e) := by
  refine ⟨h.1, fun d hd => ?_⟩
  rcases List.mem_append.1 hd with hold | hnew
  · exact h.2 d hold
  · obtain rfl := List.mem_singleton.1 hnew
    exact untimed

theorem Untimed.append {e : Event} {now : List Event} {dues : Agenda Event} (h : Untimed now dues)
    (untimed : e.isTimer = false) : Untimed (now ++ [e]) dues := by
  refine ⟨fun d hd => ?_, h.2⟩
  rcases List.mem_append.1 hd with hold | hnew
  · exact h.1 d hold
  · obtain rfl := List.mem_singleton.1 hnew
    exact untimed

structure Dispatching (s : SessionId) (action : Action) (ticket : Nat) (c : Caller)
    (entries : Nat → Outcome → Prop) (clock : Nat) (now : List Event) (σ : Scene) : Prop where
  stands : Stands false s action entries clock now σ
  lone : Lone ticket c σ
  stage : c.stage = .dispatching
  session : c.session = s
  attended : c.attended = true
  untimed : Untimed now σ.dues

structure Held (s : SessionId) (action : Action) (ticket : Nat) (a : Answer)
    (entries : Nat → Outcome → Prop) (clock : Nat) (now : List Event) (σ : Scene) : Prop where
  stands : Stands true s action entries clock now σ
  lone : ∃ c, Lone ticket c σ ∧ c.stage = .ended a
  untimed : Untimed now σ.dues

inductive Course (s : SessionId) (action : Action) (ticket : Nat) (c : Caller) (budget : Duration)
    (ready : Nat) (reply : Reply) (entries ends : Nat → Outcome → Prop) (clock : Nat)
    (now : List Event) (σ : Scene) : Prop
  | dispatching (h : Dispatching s action ticket c entries clock now σ)
      (expecting : Expecting ready reply clock now σ.dues)
  | refused (f : Failure) (late : ready ≤ clock) (refusal : reply.outcome budget = .error f)
      (told : Told ticket (c.told (.error f)) σ)
  | held (late : ready ≤ clock) (acceptance : reply.outcome budget = .ok ())
      (start : c.errand = .start)
      (h : Held s action ticket (.started s c.parties c.action) entries clock now σ)
  | attending (late : ready ≤ clock) (acceptance : reply.outcome budget = .ok ())
      (other : c.errand ≠ .start)
      (h : Attending s action ticket { c with stage := .receiving } ends clock now σ)

section Course

variable {s : SessionId} {action : Action} {ticket : Nat} {c : Caller} {budget : Duration}
  {ready : Nat} {reply : Reply} {entries entries' ends ends' : Nat → Outcome → Prop}
  {clock t : Nat} {now : List Event} {σ : Scene} {e : Event} {d : Deed} {a : Answer}

theorem Dispatching.unreceived (h : Dispatching s action ticket c entries clock now σ) :
    σ.isReceived = false := by
  rw [h.lone.isReceived, Caller.isReceiving, h.stage]

theorem Held.unreceived (h : Held s action ticket a entries clock now σ) :
    σ.isReceived = false := by
  obtain ⟨c, lone, stage⟩ := h.lone
  rw [lone.isReceived, Caller.isReceiving, stage]

theorem attend_of_unreceived (unreceived : σ.isReceived = false) : σ.attend s = σ :=
  Scene.attend_of_rests fun hreceived => by
    rw [unreceived] at hreceived
    cases hreceived

theorem Dispatching.answer (h : Dispatching s action ticket c entries clock now σ)
    (present : clock = ready)
    (grown : ∀ t o, ends t o ↔ entries t o ∨ Timer s ready c.deadline none t o) :
    Course s action ticket c budget ready reply entries ends clock now
      (σ.answer s budget clock reply) := by
  subst present
  obtain ⟨st, hst, hack, haction, ledger⟩ := h.stands
  have waits : c.waitsOn s = true := by simp [Caller.waitsOn, h.stage, h.session]
  cases houtcome : reply.outcome budget with
  | error f =>
      have answered : σ.answer s budget clock reply = σ.conclude s (.error f) := by
        simp [Scene.answer, hst, hack, houtcome]
      rw [answered]
      exact .refused f (Nat.le_refl _) houtcome (h.lone.conclude waits _)
  | ok _ =>
      have hlone : Lone ticket c { σ with standing := some st.acknowledge } := h.lone.congr rfl
      have stands : Stands true s action entries clock now
          { σ with standing := some st.acknowledge } := ⟨_, rfl, rfl, haction, ledger⟩
      have answered : σ.answer s budget clock reply =
          ({ σ with standing := some st.acknowledge } : Scene).acknowledged s clock := by
        simp [Scene.answer, hst, hack, houtcome]
      rw [answered, Scene.acknowledged, hlone.caller? waits]
      by_cases herrand : c.errand = .start
      · simp only [herrand, if_true, h.attended]
        exact .held (Nat.le_refl _) houtcome herrand ⟨stands, ⟨_, hlone.setStage _, rfl⟩, h.untimed⟩
      · simp only [herrand, if_false]
        exact .attending (Nat.le_refl _) houtcome herrand
          (Stands.watch (σ := ({ σ with standing := some st.acknowledge } : Scene).setStage ticket
            .receiving) stands (hlone.setStage .receiving) rfl h.session grown)

theorem Dispatching.read {k : SessionId} {result : CeremonyResult}
    (h : Dispatching s action ticket c entries clock (.publication k result :: now) σ) :
    Dispatching s action ticket c entries clock now (σ.deliver result) :=
  ⟨h.stands.deliver, h.lone.congr rfl, h.stage, h.session, h.attended, h.untimed.tail⟩

theorem Held.step (h : Held s action ticket a entries clock (e :: now) σ) :
    Held s action ticket a entries clock now ((σ.fire s budget clock e).attend s) := by
  obtain ⟨c, lone, stage⟩ := h.lone
  obtain ⟨st, hst, hack, -, -⟩ := h.stands
  have untimed : e.isTimer = false := h.untimed.1 e List.mem_cons_self
  have next : Held s action ticket a entries clock now (σ.fire s budget clock e) := by
    cases e with
    | reply k reply =>
        have same : σ.fire s budget clock (.reply k reply) = σ := by
          simp [Scene.fire, Scene.answer, hst, hack]
        rw [same]
        exact ⟨h.stands.skip rfl, h.lone, h.untimed.tail⟩
    | publication k result => exact ⟨h.stands.deliver, ⟨c, lone.congr rfl, stage⟩, h.untimed.tail⟩
    | deadline k => cases untimed
    | withdrawal k => cases untimed
    | sweep reaper origin => exact ⟨h.stands.skip rfl, h.lone, h.untimed.tail⟩
  rw [attend_of_unreceived next.unreceived]
  exact next

theorem Course.attend
    (h : Course s action ticket c budget ready reply entries ends clock now σ) :
    σ.attend s = σ := by
  cases h with
  | dispatching h _ => exact attend_of_unreceived h.unreceived
  | refused _ _ _ told => exact told.attend
  | held _ _ _ h => exact attend_of_unreceived h.unreceived
  | attending _ _ _ h => exact h.attend

theorem Course.step
    (h : Course s action ticket c budget ready reply entries ends clock (e :: now) σ)
    (grown : ∀ t o, ends t o ↔ entries t o ∨ Timer s ready c.deadline none t o) :
    Course s action ticket c budget ready reply entries ends clock now
      ((σ.fire s budget clock e).attend s) := by
  cases h with
  | refused f late refusal told =>
      rw [told.fire, told.attend]
      exact .refused f late refusal told
  | held late acceptance start h => exact .held late acceptance start h.step
  | attending late acceptance other h =>
      refine .attending late acceptance other ?_
      cases h with
      | receiving h => exact h.step
      | told outcome first told =>
          rw [told.fire, told.attend]
          exact .told outcome first told
  | dispatching h expecting =>
      have untimed : e.isTimer = false := h.untimed.1 e List.mem_cons_self
      have next : Course s action ticket c budget ready reply entries ends clock now
          (σ.fire s budget clock e) := by
        cases e with
        | reply k r =>
            obtain ⟨hready, rfl⟩ := expecting.decided (r := r) rfl
            have silent : Dispatching s action ticket c entries clock now σ :=
              ⟨h.stands.skip rfl, h.lone, h.stage, h.session, h.attended, h.untimed.tail⟩
            exact silent.answer hready grown
        | publication k result => exact .dispatching h.read (expecting.skip rfl)
        | deadline k => cases untimed
        | withdrawal k => cases untimed
        | sweep reaper origin =>
            exact .dispatching ⟨h.stands.skip rfl, h.lone, h.stage, h.session, h.attended,
              h.untimed.tail⟩ (expecting.skip rfl)
      rw [next.attend]
      exact next

theorem Course.undergo
    (h : Course s action ticket c budget ready reply entries ends clock now σ)
    (grown : ∀ t o, ends t o ↔ entries t o ∨ Timer s ready c.deadline none t o) :
    Course s action ticket c budget ready reply entries ends clock []
      (σ.undergo s budget clock now) := by
  induction now generalizing σ with
  | nil => exact h
  | cons e rest ih => exact ih (h.step grown)

theorem Course.pass (h : Course s action ticket c budget ready reply entries ends clock [] σ)
    (later : clock < t) (next : ∀ e ∈ σ.dues.entries, t ≤ e.1) :
    Course s action ticket c budget ready reply entries ends t (σ.dues.due t)
      { σ with dues := σ.dues.later t } := by
  cases h with
  | dispatching h expecting =>
      exact .dispatching ⟨h.stands.pass later next, h.lone.congr rfl, h.stage, h.session,
        h.attended, h.untimed.split t⟩ (expecting.pass next)
  | refused f late refusal told =>
      exact .refused f (late.trans (Nat.le_of_lt later)) refusal (told.congr rfl rfl)
  | held late acceptance start h =>
      obtain ⟨c, lone, stage⟩ := h.lone
      exact .held (late.trans (Nat.le_of_lt later)) acceptance start
        ⟨h.stands.pass later next, ⟨c, lone.congr rfl, stage⟩, h.untimed.split t⟩
  | attending late acceptance other h =>
      exact .attending (late.trans (Nat.le_of_lt later)) acceptance other (h.pass later next)

theorem Course.settle (h : Course s action ticket c budget ready reply entries ends clock [] σ)
    (grown : ∀ t o, ends t o ↔ entries t o ∨ Timer s ready c.deadline none t o)
    (later : clock < t) (next : ∀ e ∈ σ.dues.entries, t ≤ e.1) :
    Course s action ticket c budget ready reply entries ends t [] (σ.settle s budget t) := by
  have passed := h.pass later next
  rw [Scene.settle, passed.attend]
  exact passed.undergo grown

theorem Course.idle (h : Course s action ticket c budget ready reply entries ends clock [] σ)
    (le : clock ≤ t) (quiet : ∀ e ∈ σ.dues.entries, t < e.1) :
    Course s action ticket c budget ready reply entries ends t [] σ := by
  cases h with
  | dispatching h expecting =>
      exact .dispatching ⟨h.stands.idle le quiet, h.lone, h.stage, h.session, h.attended,
        h.untimed⟩ (expecting.idle quiet)
  | refused f late refusal told => exact .refused f (late.trans le) refusal told
  | held late acceptance start h =>
      exact .held (late.trans le) acceptance start ⟨h.stands.idle le quiet, h.lone, h.untimed⟩
  | attending late acceptance other h =>
      exact .attending (late.trans le) acceptance other (h.idle le quiet)

theorem Held.hear (h : Held s action ticket a entries clock [] σ)
    (grown : ∀ t o, entries' t o ↔ entries t o ∨ t = clock ∧ d.tidings? s action = some o) :
    Held s action ticket a entries' clock [] (σ.hear s d) := by
  obtain ⟨c, lone, stage⟩ := h.lone
  obtain ⟨dues, callers⟩ := Scene.parts_hear s d σ
  exact ⟨h.stands.hear grown, ⟨c, lone.congr callers, stage⟩, dues ▸ h.untimed⟩

theorem Course.hear (h : Course s action ticket c budget ready reply entries ends clock [] σ)
    (grown : ∀ t o, entries' t o ↔ entries t o ∨ t = clock ∧ d.tidings? s action = some o)
    (grown' : ∀ t o, ends' t o ↔ ends t o ∨ t = clock ∧ d.tidings? s action = some o) :
    Course s action ticket c budget ready reply entries' ends' clock []
      ((σ.hear s d).attend s) := by
  cases h with
  | dispatching h expecting =>
      obtain ⟨dues, callers⟩ := Scene.parts_hear s d σ
      have heard : Dispatching s action ticket c entries' clock [] (σ.hear s d) :=
        ⟨h.stands.hear grown, h.lone.congr callers, h.stage, h.session, h.attended,
          dues ▸ h.untimed⟩
      rw [attend_of_unreceived heard.unreceived]
      exact .dispatching heard (dues ▸ expecting)
  | refused f late refusal told =>
      rw [told.hear, told.attend]
      exact .refused f late refusal told
  | held late acceptance start h =>
      have heard := h.hear grown
      rw [attend_of_unreceived heard.unreceived]
      exact .held late acceptance start heard
  | attending late acceptance other h => exact .attending late acceptance other (h.hear grown')

theorem Course.remind {k : SessionId} {result : CeremonyResult} {due : Nat}
    (h : Course s action ticket c budget ready reply entries ends clock now σ) (later : clock < due)
    (grown : ∀ t o, entries' t o ↔
      entries t o ∨ t = due ∧ o = Coordinator.resultOutcome s action result)
    (grown' : ∀ t o, ends' t o ↔
      ends t o ∨ t = due ∧ o = Coordinator.resultOutcome s action result) :
    Course s action ticket c budget ready reply entries' ends' clock now
      (σ.remind due (.publication k result)) := by
  have plan : ∀ {acknowledged : Bool}, Stands acknowledged s action entries clock now σ →
      Stands acknowledged s action entries' clock now (σ.remind due (.publication k result)) := by
    rintro acknowledged ⟨st, hst, hack, haction, ledger⟩
    exact ⟨st, hst, hack, haction, ledger.plan later rfl grown⟩
  cases h with
  | dispatching h expecting =>
      exact .dispatching ⟨plan h.stands, h.lone.congr rfl, h.stage, h.session, h.attended,
        h.untimed.remind rfl due⟩ (expecting.remind rfl)
  | refused f late refusal told => exact .refused f late refusal (told.congr rfl rfl)
  | held late acceptance start h =>
      obtain ⟨c, lone, stage⟩ := h.lone
      exact .held late acceptance start
        ⟨plan h.stands, ⟨c, lone.congr rfl, stage⟩, h.untimed.remind rfl due⟩
  | attending late acceptance other h =>
      refine .attending late acceptance other ?_
      cases h with
      | receiving h =>
          exact .receiving ⟨h.lone.congr rfl, h.stage, h.session, h.stands,
            h.ledger.plan later rfl grown'⟩
      | told outcome first told =>
          exact .told outcome
            (first.grow grown' fun t o new => new.1 ▸ Nat.le_of_lt later) (told.congr rfl rfl)

theorem Course.append {k : SessionId} {result : CeremonyResult}
    (h : Course s action ticket c budget ready reply entries ends clock now σ)
    (grown : ∀ t o, entries' t o ↔
      entries t o ∨ t = clock ∧ o = Coordinator.resultOutcome s action result)
    (grown' : ∀ t o, ends' t o ↔
      ends t o ∨ t = clock ∧ o = Coordinator.resultOutcome s action result) :
    Course s action ticket c budget ready reply entries' ends' clock
      (now ++ [.publication k result]) σ := by
  have plan : ∀ {acknowledged : Bool}, Stands acknowledged s action entries clock now σ →
      Stands acknowledged s action entries' clock (now ++ [.publication k result]) σ := by
    rintro acknowledged ⟨st, hst, hack, haction, ledger⟩
    exact ⟨st, hst, hack, haction, ledger.append rfl grown⟩
  cases h with
  | dispatching h expecting =>
      exact .dispatching ⟨plan h.stands, h.lone, h.stage, h.session, h.attended,
        h.untimed.append rfl⟩ (expecting.append rfl)
  | refused f late refusal told => exact .refused f late refusal told
  | held late acceptance start h =>
      exact .held late acceptance start ⟨plan h.stands, h.lone, h.untimed.append rfl⟩
  | attending late acceptance other h =>
      refine .attending late acceptance other ?_
      cases h with
      | receiving h =>
          exact .receiving ⟨h.lone, h.stage, h.session, h.stands, h.ledger.append rfl grown'⟩
      | told outcome first told =>
          exact .told outcome (first.grow grown' fun t o new => Nat.le_of_eq new.1.symm) told

theorem Course.foresee (later : List (Nat × CeremonyResult))
    (h : Course s action ticket c budget ready reply entries ends clock (σ.dues.due clock)
      { σ with dues := σ.dues.later clock })
    (grown : ∀ t o, entries' t o ↔ entries t o ∨ ∃ p ∈ later, t = clock + p.1 ∧
      o = Coordinator.resultOutcome s action p.2)
    (grown' : ∀ t o, ends' t o ↔ ends t o ∨ ∃ p ∈ later, t = clock + p.1 ∧
      o = Coordinator.resultOutcome s action p.2) :
    Course s action ticket c budget ready reply entries' ends' clock
      ((σ.foresee s clock later).dues.due clock)
      { σ.foresee s clock later with dues := (σ.foresee s clock later).dues.later clock } := by
  induction later generalizing σ entries ends with
  | nil =>
      have hentries : entries' = entries := funext fun t => funext fun o => by simp [grown]
      have hends : ends' = ends := funext fun t => funext fun o => by simp [grown']
      rw [hentries, hends]
      exact h
  | cons p rest ih =>
      have regroup : ∀ {E E' : Nat → Outcome → Prop}, (∀ t o, E' t o ↔ E t o ∨
          ∃ q ∈ p :: rest, t = clock + q.1 ∧ o = Coordinator.resultOutcome s action q.2) →
          ∀ t o, E' t o ↔ (E t o ∨
            t = clock + p.1 ∧ o = Coordinator.resultOutcome s action p.2) ∨
            ∃ q ∈ rest, t = clock + q.1 ∧ o = Coordinator.resultOutcome s action q.2 := by
        intro E E' hE t o
        rw [hE, or_assoc]
        simp
      refine ih (σ := σ.remind (clock + p.1) (.publication s p.2)) ?_ (regroup grown)
        (regroup grown')
      by_cases hp : p.1 = 0
      · have due : (σ.remind (clock + p.1) (.publication s p.2)).dues.due clock =
            σ.dues.due clock ++ [.publication s p.2] := by
          simp [Scene.remind, Agenda.add, Agenda.due, hp]
        have later : (σ.remind (clock + p.1) (.publication s p.2)).dues.later clock =
            σ.dues.later clock := by
          simp [Scene.remind, Agenda.add, Agenda.later, hp]
        rw [due, later]
        exact h.append (fun t o => by rw [hp, Nat.add_zero]) fun t o => by rw [hp, Nat.add_zero]
      · have hlt : clock < clock + p.1 := by omega
        have due : (σ.remind (clock + p.1) (.publication s p.2)).dues.due clock =
            σ.dues.due clock := by
          simp [Scene.remind, Agenda.add, Agenda.due, Nat.pos_of_ne_zero hp]
        have later : (σ.remind (clock + p.1) (.publication s p.2)).dues.later clock =
            (σ.dues.later clock).add (clock + p.1) (.publication s p.2) := by
          simp [Scene.remind, Agenda.add, Agenda.later, hlt]
        rw [due, later]
        exact h.remind hlt (fun _ _ => Iff.rfl) fun _ _ => Iff.rfl

theorem standing_deliverAll (results : List CeremonyResult) {σ : Scene} {st : Coordinator.Standing}
    (hst : σ.standing = some st) :
    ∃ st', (σ.deliverAll results).standing = some st' ∧ st'.acknowledged = st.acknowledged ∧
      st'.action = st.action ∧
      st'.tidings s = ((st.tidings s).orElse fun _ =>
        results.head?.map (Coordinator.resultOutcome s st.action)) ∧
      (σ.deliverAll results).callers = σ.callers ∧ (σ.deliverAll results).dues = σ.dues := by
  induction results generalizing σ st with
  | nil =>
      refine ⟨st, hst, rfl, rfl, ?_, rfl, rfl⟩
      cases st.tidings s <;> rfl
  | cons result rest ih =>
      have delivered : (σ.deliver result).standing = some (st.deliver result) := by
        rw [Scene.deliver, hst, Option.map_some]
      obtain ⟨st', hst', hack, haction, tidings, callers, dues⟩ := ih delivered
      refine ⟨st', hst', hack.trans (st.acknowledged_deliver result),
        haction.trans (st.action_deliver result), ?_, callers, dues⟩
      rw [tidings, Coordinator.Standing.tidings_deliver]
      cases st.tidings s <;> rfl

theorem Dispatching.of_launch (blank : σ.Blank) (fresh : ∀ e ∈ σ.callers, e.1 ≠ ticket)
    (stage : c.stage = .dispatching) (session : c.session = s) (attended : c.attended = true)
    (results : List CeremonyResult)
    (grown : ∀ t o, entries t o ↔ ∃ result ∈ results, t = clock ∧
      o = Coordinator.resultOutcome s c.action result) :
    Dispatching s c.action ticket c entries clock []
      (({ σ with standing := some (.opened c.action) }.enter ticket c).deliverAll results) ∧
    (({ σ with standing := some (.opened c.action) }.enter ticket c).deliverAll results).dues =
      .empty := by
  obtain ⟨st, hst, hack, haction, tidings, callers, dues⟩ := standing_deliverAll (s := s)
    (σ := { σ with standing := some (.opened c.action) }.enter ticket c) results rfl
  have none : σ.dues = .empty := congrArg Agenda.mk blank.dues
  have empty : (({ σ with standing := some (.opened c.action) }.enter ticket c).deliverAll
      results).dues = .empty := dues.trans none
  refine ⟨⟨⟨st, hst, hack, haction, ?_⟩, ⟨σ.callers, callers, fun e he => ?_⟩, stage, session,
    attended, ?_⟩, empty⟩
  · rw [empty, tidings]
    exact .opening results grown
  · obtain ⟨a, ended, -⟩ := blank.callers e he
    exact ⟨fresh e he, a, ended⟩
  · rw [empty]
    constructor
    · intro e he
      cases he
    · intro e he
      cases he

theorem Course.undue (h : Course s action ticket c budget ready reply entries ends clock [] σ) :
    Course s action ticket c budget ready reply entries ends clock (σ.dues.due clock)
      { σ with dues := σ.dues.later clock } := by
  have still : (∀ e ∈ σ.dues.entries, clock < e.1) →
      Course s action ticket c budget ready reply entries ends clock (σ.dues.due clock)
        { σ with dues := σ.dues.later clock } := by
    intro ahead
    obtain ⟨undue, later⟩ := Scene.later_of_ahead ahead
    rw [undue, later]
    exact h
  cases h with
  | dispatching h _ =>
      obtain ⟨st, hst, hack, haction, ledger⟩ := h.stands
      exact still ledger.ahead
  | refused f late refusal told => exact .refused f late refusal (told.congr rfl rfl)
  | held late acceptance start h =>
      obtain ⟨st, hst, hack, haction, ledger⟩ := h.stands
      exact still ledger.ahead
  | attending late acceptance other h =>
      cases h with
      | receiving h => exact still h.ledger.ahead
      | told outcome first told =>
          exact .attending late acceptance other (.told outcome first (told.congr rfl rfl))

theorem Dispatching.await (h : Dispatching s action ticket c entries clock [] σ)
    (empty : σ.dues = .empty) {dues : Agenda Event}
    (replies : ∀ e ∈ dues.entries, ∃ r, e.2 = .reply s r) (ahead : ∀ e ∈ dues.entries, clock ≤ e.1)
    (first : ∀ e ∈ dues.entries, e.2.reply? ≠ none → ready ≤ e.1)
    (next : (dues.due ready).findSome? Event.reply? = some reply) :
    Course s action ticket c budget ready reply entries ends clock (dues.due clock)
      { σ with dues := dues.later clock } := by
  obtain ⟨st, hst, hack, haction, ledger⟩ := h.stands
  rw [empty] at ledger
  have silent : ∀ e ∈ dues.entries, e.2.outcome? s action = none ∧ e.2.isTimer = false := by
    intro e he
    obtain ⟨r, hr⟩ := replies e he
    rw [hr]
    exact ⟨rfl, rfl⟩
  have untimed : Untimed [] dues :=
    ⟨fun e he => (by cases he), fun e he => (silent e he).2⟩
  exact .dispatching ⟨⟨st, hst, hack, haction, ledger.unmoved fun e he => (silent e he).1⟩,
    h.lone.congr rfl, h.stage, h.session, h.attended, untimed.split clock⟩ (.split ahead first next)

theorem Dispatching.awaitReply (h : Dispatching s action ticket c entries clock [] σ)
    (empty : σ.dues = .empty) (script : Script)
    (grown : ∀ t o, ends t o ↔
      entries t o ∨ Timer s (clock + (script.verdict s budget).1) c.deadline none t o) :
    Course s action ticket c budget (clock + (script.verdict s budget).1)
      (script.verdict s budget).2 entries ends clock
      ((σ.awaitReply s budget clock script).dues.due clock)
      { σ.awaitReply s budget clock script with
        dues := (σ.awaitReply s budget clock script).dues.later clock } := by
  unfold Script.verdict Scene.awaitReply at *
  cases hreply : script.reaction.reply? s with
  | none =>
      have dues : σ.dues.add (clock + budget.millis) (.reply s .overdue) =
          ⟨[(clock + budget.millis, .reply s .overdue)]⟩ := by
        rw [empty]
        rfl
      simp only [Scene.remind, dues]
      refine h.await empty ?_ ?_ ?_ ?_
      · simp
      · simp
      · simp
      · simp [Agenda.due, Event.reply?]
  | some reply =>
      simp only [hreply] at grown ⊢
      by_cases hdelay : script.delay = 0
      · have immediate : script.delay ≤ budget.millis := by omega
        simp only [hdelay, Nat.zero_le, if_true] at grown ⊢
        exact (h.answer rfl grown).undue
      · have dues : (σ.dues.add (clock + script.delay) (.reply s reply)).add
            (clock + budget.millis) (.reply s .overdue) =
            ⟨[(clock + script.delay, .reply s reply),
              (clock + budget.millis, .reply s .overdue)]⟩ := by
          rw [empty]
          rfl
        simp only [hdelay, if_false, Scene.remind, dues]
        -- both the reply and the end of the budget are put down, and the earlier one decides; the
        -- reply stands first, and counts when they fall together
        by_cases hin : script.delay ≤ budget.millis
        · simp only [hin, if_true]
          refine h.await empty ?_ ?_ ?_ ?_
          · simp
          · simp
          · simp [hin]
          · simp only [Agenda.due, List.filter_cons_of_pos, Nat.le_refl, decide_true]
            rfl
        · simp only [hin, if_false]
          refine h.await empty ?_ ?_ ?_ ?_
          · simp
          · simp
          · simp; omega
          · simp [Agenda.due, Event.reply?, hin]

theorem Course.of_launch {script : Script} (blank : σ.Blank) (fresh : ∀ e ∈ σ.callers, e.1 ≠ ticket)
    (stage : c.stage = .dispatching) (session : c.session = s) (attended : c.attended = true)
    (grown : ∀ t o, entries t o ↔
      (∃ result ∈ script.atOnce c.action, t = clock ∧
        o = Coordinator.resultOutcome s c.action result) ∨
      ∃ p ∈ script.later c.action, t = clock + p.1 ∧
        o = Coordinator.resultOutcome s c.action p.2)
    (grown' : ∀ t o, ends t o ↔
      entries t o ∨ Timer s (clock + (script.verdict s budget).1) c.deadline none t o) :
    Course s c.action ticket c budget (clock + (script.verdict s budget).1)
      (script.verdict s budget).2 entries ends clock []
      ((σ.launch s budget clock script ticket c).settle s budget clock) := by
  obtain ⟨h, empty⟩ := Dispatching.of_launch blank fresh stage session attended
    (script.atOnce c.action) fun t o => (Iff.rfl : (∃ result ∈ script.atOnce c.action, t = clock ∧
      o = Coordinator.resultOutcome s c.action result) ↔ _)
  have awaited := h.awaitReply empty script fun t o => (Iff.rfl : (_ ∨
    Timer s (clock + (script.verdict s budget).1) c.deadline none t o) ↔ _)
  have launched := awaited.foresee (script.later c.action) grown fun t o =>
    ((grown' t o).trans (or_congr_left (grown t o))).trans or_right_comm
  rw [Scene.settle]
  have attend := launched.attend
  rw [Scene.launch, attend]
  exact launched.undergo grown'

theorem Held.wait (h : Held s action ticket a entries clock [] σ) {ticket' : Nat}
    (fresh : ∀ e ∈ σ.callers, e.1 ≠ ticket') (stage : c.stage = .receiving)
    (session : c.session = s) {deadline : Duration} {patience : Option Nat}
    (grown : ∀ t o, ends t o ↔ entries t o ∨ Timer s clock deadline patience t o) :
    Attending s action ticket' c ends clock []
      ((σ.enter ticket' c).watch s clock deadline patience) := by
  obtain ⟨c', ⟨others, callers, ended⟩, stage'⟩ := h.lone
  refine Stands.watch (σ := σ.enter ticket' c) h.stands
    ⟨others ++ [(ticket, c')], by rw [Scene.enter, callers], fun e he => ?_⟩ stage session grown
  refine ⟨fresh e (callers ▸ he), ?_⟩
  rcases List.mem_append.1 he with hold | hnew
  · exact (ended e hold).2
  · obtain rfl := List.mem_singleton.1 hnew
    exact ⟨a, stage'⟩

end Course

end Conclave.Rehearsal

import Conclave.Proofs.Courses
import Conclave.Proofs.Timeline

namespace Conclave.Rehearsal

inductive Tidings (s : SessionId) (action : Action) (clock : Nat) (script : Script)
    (past : List (Nat × Deed)) : Nat → Outcome → Prop
  | atOnce {result : CeremonyResult} (h : result ∈ script.atOnce action) :
      Tidings s action clock script past clock (Coordinator.resultOutcome s action result)
  | later {delay : Nat} {result : CeremonyResult} (h : (delay, result) ∈ script.later action) :
      Tidings s action clock script past (clock + delay)
        (Coordinator.resultOutcome s action result)
  | deed {t : Nat} {d : Deed} {outcome : Outcome} (h : (t, d) ∈ past)
      (tidings : d.tidings? s action = some outcome) :
      Tidings s action clock script past t outcome

inductive Ending (s : SessionId) (action : Action) (clock : Nat) (script : Script)
    (past : List (Nat × Deed)) (start : Nat) (deadline : Duration) (patience : Option Nat) :
    Nat → Outcome → Prop
  | tidings {t : Nat} {outcome : Outcome} (h : Tidings s action clock script past t outcome) :
      Ending s action clock script past start deadline patience t outcome
  | overdue : Ending s action clock script past start deadline patience
      (start + deadline.millis) (.error (.timeout s))
  | withdrawn {p : Nat} (h : patience = some p) :
      Ending s action clock script past start deadline patience (start + p)
        (.error (.cancelled s))

section Tidings

variable {s : SessionId} {action : Action} {clock now start : Nat} {script : Script} {d : Deed}
  {past : List (Nat × Deed)} {deadline : Duration} {patience : Option Nat}

theorem tidings_nil (t : Nat) (o : Outcome) :
    Tidings s action clock script [] t o ↔
      (∃ result ∈ script.atOnce action, t = clock ∧
        o = Coordinator.resultOutcome s action result) ∨
      ∃ p ∈ script.later action, t = clock + p.1 ∧
        o = Coordinator.resultOutcome s action p.2 := by
  constructor
  · intro h
    cases h with
    | atOnce h => exact Or.inl ⟨_, h, rfl, rfl⟩
    | later h => exact Or.inr ⟨_, h, rfl, rfl⟩
    | deed h => cases h
  · rintro (⟨result, h, rfl, rfl⟩ | ⟨p, h, rfl, rfl⟩)
    · exact .atOnce h
    · exact .later h

theorem tidings_cons (t : Nat) (o : Outcome) :
    Tidings s action clock script ((now, d) :: past) t o ↔
      Tidings s action clock script past t o ∨ t = now ∧ d.tidings? s action = some o := by
  constructor
  · intro h
    cases h with
    | atOnce h => exact Or.inl (.atOnce h)
    | later h => exact Or.inl (.later h)
    | deed h tidings =>
        rcases List.mem_cons.1 h with hnew | hold
        · obtain ⟨rfl, rfl⟩ := Prod.mk.inj hnew
          exact Or.inr ⟨rfl, tidings⟩
        · exact Or.inl (.deed hold tidings)
  · rintro (h | ⟨rfl, tidings⟩)
    · cases h with
      | atOnce h => exact .atOnce h
      | later h => exact .later h
      | deed h tidings => exact .deed (List.mem_cons_of_mem _ h) tidings
    · exact .deed List.mem_cons_self tidings

theorem ending_iff (t : Nat) (o : Outcome) :
    Ending s action clock script past start deadline patience t o ↔
      Tidings s action clock script past t o ∨ Timer s start deadline patience t o := by
  constructor
  · intro h
    cases h with
    | tidings h => exact Or.inl h
    | overdue => exact Or.inr (Or.inl ⟨rfl, rfl⟩)
    | withdrawn h => exact Or.inr (Or.inr ⟨_, h, rfl, rfl⟩)
  · rintro (h | ⟨rfl, rfl⟩ | ⟨p, h, rfl, rfl⟩)
    · exact .tidings h
    · exact .overdue
    · exact .withdrawn h

theorem ending_cons (t : Nat) (o : Outcome) :
    Ending s action clock script ((now, d) :: past) start deadline patience t o ↔
      Ending s action clock script past start deadline patience t o ∨
        t = now ∧ d.tidings? s action = some o := by
  rw [ending_iff, ending_iff, tidings_cons]
  exact or_right_comm

end Tidings

section Answers

variable {r : Rehearsal} {s : SessionId} {ticket : Nat} {c : Caller} {a : Answer}

theorem entry_of_scene (h : (ticket, c) ∈ (r.scene s).callers) :
    r.callers.get? ticket = some c :=
  Keyed.mem_entries_iff.1 (List.mem_filter.1 h).1

theorem Told.answer (told : Told ticket a (r.scene s)) : r.answerTo? ticket = some a := by
  obtain ⟨c, entry, stage⟩ := told.told
  simp only [answerTo?, entry_of_scene entry, stage]

theorem Lone.answer_none (lone : Lone ticket c (r.scene s)) (waits : c.waitsOn s = true) :
    r.answerTo? ticket = none := by
  unfold Caller.waitsOn at waits
  simp only [answerTo?, entry_of_scene lone.mem]
  split
  · rename_i stage
    rw [stage] at waits
    cases waits
  · rfl

end Answers

def AnsweredBy (entries : Nat → Outcome → Prop) (ticket : Nat) (m : Moment) (r : Rehearsal) : Prop :=
  ((r.answerTo? ticket).isSome = true ↔ ∃ t outcome, entries t outcome ∧ t ≤ m.clock) ∧
    ∀ a, r.answerTo? ticket = some a →
      ∃ outcome, Foremost entries m.clock outcome ∧ a = .ofExcept .result outcome

def verdict (r : Rehearsal) : Nat × Reply :=
  r.script.verdict r.nextSession r.coordinator.config.dispatchTimeout

def CourseOf (m : Moment) (r : Rehearsal) (c : Caller) (past : List (Nat × Deed)) (clock : Nat)
    (σ : Scene) : Prop :=
  Course r.nextSession c.action r.callers.size c r.coordinator.config.dispatchTimeout
    (m.clock + r.verdict.1) r.verdict.2
    (Tidings r.nextSession c.action m.clock r.script past)
    (Ending r.nextSession c.action m.clock r.script past (m.clock + r.verdict.1) c.deadline none)
    clock [] σ

section Launch

variable {m m' m'' : Moment} {r r' r'' : Rehearsal} {request : Session.Request}
  {parties : List NodeId} {past past' : List (Nat × Deed)} {errand : Errand} {deadline : Duration}

theorem begins_of_launch (orderly : r.Orderly m) (errand : Errand) (deadline : Duration)
    (valid : request.validate = .ok ())
    (chosen : r.coordinator.chosen r.nextSession (fun _ => 0) request = .ok parties) :
    ∃ r', r.launch m errand request deadline = (r.callers.size, r') ∧ r'.Orderly m ∧
      r'.coordinator.config = r.coordinator.config ∧ r'.minted = r.minted + 1 ∧
      CourseOf m r (.launching errand r.nextSession request deadline parties) [] m.clock
        (r'.scene r.nextSession) := by
  obtain ⟨r', hlaunch, h⟩ :=
    launch_of_chosen (m := m) orderly.sane orderly.unheard errand deadline valid chosen
  have launched := (acts_launch (d := .launch errand request deadline) orderly errand request
    deadline fun _ _ => rfl).orderly
  rw [hlaunch] at launched
  obtain ⟨settled, -, -⟩ := becomes_settle (m := m) h.sane
    (h.rooted fun e he => (orderly.ahead e he).2)
  refine ⟨_, hlaunch, launched, settled.config.trans h.config, settled.minted.trans h.minted, ?_⟩
  rw [settled.scenes, h.here, h.config]
  refine Course.of_launch (c := .launching errand r.nextSession request deadline parties)
    (orderly.unheard _ (Nat.lt_succ_self _)).1 (fun e he => ?_) rfl rfl rfl tidings_nil ending_iff
  exact Nat.ne_of_lt (orderly.sane.tickets e (List.mem_filter.1 he).1)

theorem course_of_launch (orderly : r.Orderly m) (valid : request.validate = .ok ())
    (chosen : r.coordinator.chosen r.nextSession (fun _ => 0) request = .ok parties)
    (passage : Passage (Sparing r.nextSession) m (r.launch m errand request deadline).2 past m'
      r') :
    r'.Orderly m' ∧ r'.coordinator.config = r.coordinator.config ∧ r.minted + 1 ≤ r'.minted ∧
      CourseOf m r (.launching errand r.nextSession request deadline parties) past m'.clock
        (r'.scene r.nextSession) := by
  obtain ⟨r₁, hlaunch, horderly, hconfig, hminted, begins⟩ :=
    begins_of_launch orderly errand deadline valid chosen
  rw [hlaunch] at passage
  obtain ⟨config, minted⟩ := passage.keeps horderly
  refine ⟨passage.orderly horderly, config.trans hconfig, hminted ▸ minted, ?_⟩
  refine passage.follow (n := r.minted + 1) horderly (Nat.le_of_eq hminted.symm) begins ?_ ?_ ?_
  · intro past clock t σ course _ later next
    rw [hconfig]
    exact course.settle ending_iff later next
  · intro past clock t σ course le quiet
    exact course.idle le quiet
  · intro past clock d σ course _ _
    exact course.hear tidings_cons ending_cons

def startAnswer (s : SessionId) (parties : List NodeId) (action : Action) :
    Except Failure Unit → Answer := .ofExcept fun _ => .started s parties action

theorem answer_of_course {c : Caller}
    (h : CourseOf m r c past m'.clock (r'.scene r.nextSession)) (start : c.errand = .start) :
    r'.answerTo? r.callers.size =
      if m'.clock < m.clock + r.verdict.1 then none
      else some (startAnswer r.nextSession c.parties c.action
        (r.verdict.2.outcome r.coordinator.config.dispatchTimeout)) := by
  cases h with
  | dispatching h expecting =>
      have early : m'.clock < m.clock + r.verdict.1 := by
        cases expecting with
        | later early _ _ _ => exact early
        | present _ next => cases next
      rw [if_pos early]
      exact h.lone.answer_none (by simp [Caller.waitsOn, h.stage, h.session])
  | refused f late refusal told =>
      rw [if_neg (Nat.not_lt.2 late), refusal, told.answer, Caller.told, start]
      rfl
  | held late acceptance _ h =>
      obtain ⟨c', lone, stage⟩ := h.lone
      rw [if_neg (Nat.not_lt.2 late), acceptance]
      simp only [answerTo?, entry_of_scene lone.mem, stage]
      rfl
  | attending _ _ other _ => exact absurd start other

theorem verdict_le (s : SessionId) (budget : Duration) (script : Script) :
    (script.verdict s budget).1 ≤ budget.millis := by
  unfold Script.verdict
  split
  · split
    · assumption
    · exact Nat.le_refl _
  · exact Nat.le_refl _

theorem answered_of_course {c : Caller}
    (h : CourseOf m r c past m'.clock (r'.scene r.nextSession)) (other : c.errand ≠ .start)
    (elapsed : m.clock + r.coordinator.config.dispatchTimeout.millis + c.deadline.millis ≤ m'.clock) :
    (r'.answerTo? r.callers.size).isSome = true := by
  have decided : r.verdict.1 ≤ r.coordinator.config.dispatchTimeout.millis := verdict_le _ _ _
  cases h with
  | dispatching h expecting =>
      cases expecting with
      | later early _ _ _ => omega
      | present _ next => cases next
  | refused f _ _ told => rw [told.answer, Option.isSome_some]
  | held _ _ start _ => exact absurd start other
  | attending _ _ _ h =>
      cases h with
      | receiving h =>
          rcases h.ledger.pending rfl _ _ .overdue with early | ⟨-, e, he, -⟩
          · omega
          · cases he
      | told outcome _ told => rw [told.answer, Option.isSome_some]

theorem Attending.resettle {s : SessionId} {action : Action} {ticket : Nat} {c : Caller}
    {entries : Nat → Outcome → Prop} {clock : Nat} {σ : Scene} {budget : Duration}
    (h : Attending s action ticket c entries clock [] σ) :
    Attending s action ticket c entries clock [] (σ.settle s budget clock) := by
  cases h with
  | receiving h =>
      rw [Scene.settle_of_ahead h.ledger.ahead, Scene.attend_of_rests h.rests]
      exact .receiving h
  | told outcome first told => exact .told outcome first told.settle

theorem attending_of_wait (orderly : r'.Orderly m') (minted : r.minted + 1 ≤ r'.minted)
    {c : Caller} (h : CourseOf m r c past m'.clock (r'.scene r.nextSession))
    (start : c.errand = .start)
    (started : r'.answerTo? r.callers.size = some (.started r.nextSession c.parties c.action))
    {wait : Duration} {patience : Option Nat} {ticket : Nat} {r₁ : Rehearsal}
    (waits : r'.wait m' r.nextSession wait patience = some (ticket, r₁))
    (passage : Passage (Sparing r.nextSession) m' r₁ past' m'' r'') :
    ∃ c', c'.errand = .wait ∧ c'.session = r.nextSession ∧
      Attending r.nextSession c.action ticket c'
        (Ending r.nextSession c.action m.clock r.script (past' ++ past) m'.clock wait patience)
        m''.clock [] (r''.scene r.nextSession) := by
  have held : Held r.nextSession c.action r.callers.size
      (.started r.nextSession c.parties c.action)
      (Tidings r.nextSession c.action m.clock r.script past) m'.clock []
      (r'.scene r.nextSession) := by
    cases h with
    | dispatching h _ =>
        rw [h.lone.answer_none (by simp [Caller.waitsOn, h.stage, h.session])] at started
        cases started
    | refused f _ _ told =>
        rw [told.answer] at started
        exact absurd (Option.some.inj started) (c.told_ne_started _ _ _ _)
    | held _ _ _ h => exact h
    | attending _ _ other _ => exact absurd start other
  by_cases kept : r'.held.contains r.nextSession = true
  · obtain ⟨c', r₂, errand, session, stage, hwait, becomes⟩ :=
      wait_of_held orderly.sane kept wait patience
    have acts := acts_wait orderly r.nextSession wait patience
    rw [hwait] at acts waits
    obtain ⟨rfl, rfl⟩ := Prod.mk.inj (Option.some.inj waits)
    obtain ⟨settled, -, -⟩ := becomes_settle (m := m') becomes.sane
      (becomes.rooted fun e he => (orderly.ahead e he).2)
    refine ⟨c', errand, session, ?_⟩
    refine passage.follow (n := r.minted + 1) (P := fun past' clock σ =>
      Attending r.nextSession c.action r'.callers.size c'
        (Ending r.nextSession c.action m.clock r.script (past' ++ past) m'.clock wait patience)
        clock [] σ) acts.orderly (minted.trans acts.minted) ?_ ?_ ?_ ?_
    · have begins := settled.scenes r.nextSession
      rw [becomes.here] at begins
      refine begins ▸ Attending.resettle (held.wait (fun e he => ?_) stage session ending_iff)
      exact Nat.ne_of_lt (orderly.sane.tickets e (List.mem_filter.1 he).1)
    · intro past clock t σ attending _ later next
      exact attending.settle later next
    · intro past clock t σ attending le quiet
      exact attending.idle le quiet
    · intro past clock d σ attending _ _
      exact attending.hear ending_cons
  · rw [Rehearsal.wait, if_neg kept] at waits
    cases waits

theorem answer_of_attending {s : SessionId} {action : Action} {ticket : Nat} {c : Caller}
    {entries : Nat → Outcome → Prop} (errand : c.errand = .wait)
    (h : Attending s action ticket c entries m'.clock [] (r'.scene s)) :
    AnsweredBy entries ticket m' r' := by
  cases h with
  | receiving h =>
      rw [AnsweredBy, h.lone.answer_none h.waits]
      refine ⟨⟨fun answered => (by cases answered), fun ⟨t, outcome, entry, past⟩ => ?_⟩,
        fun a answered => (by cases answered)⟩
      rcases h.ledger.pending rfl t outcome entry with early | ⟨-, e, he, -⟩
      · omega
      · cases he
  | told outcome first told =>
      rw [AnsweredBy, told.answer]
      refine ⟨⟨fun _ => ?_, fun _ => rfl⟩, fun a answered => ⟨outcome, first, ?_⟩⟩
      · obtain ⟨t, entry, le, -⟩ := first
        exact ⟨t, outcome, entry, le⟩
      · obtain rfl := Option.some.inj answered
        rw [Caller.told, errand]
        cases outcome <;> rfl

theorem answer_of_refused (m : Moment) (errand : Errand) (deadline : Duration) {f : Failure}
    {c : Coordinator}
    (refused : r.coordinator.start m.wall r.nextSession (fun _ => 0) request = (.error f, c)) :
    (r.launch m errand request deadline).2.answerTo? (r.launch m errand request deadline).1 =
      some (errand.answer (.error f)) := by
  simp only [launch, refused, answerTo?, conclude, setStage, enroll, Keyed.get?_modify,
    Keyed.get?_insert, if_true]
  rfl

theorem deadlines_decide {app : App} {config : Config} {registry : Registry}
    (unused : app.coordinator = .new config registry) {script : Script} {m₀ m : Moment}
    {r : Rehearsal} {before : List (Nat × Deed)}
    (reached : Passage (fun _ _ => True) m₀ (new app script) before m r)
    (request : Session.Request) (deadline : Duration) :
    (∀ parties, request.validate = .ok () →
      r.coordinator.chosen r.nextSession (fun _ => 0) request = .ok parties →
      (∀ past m' r',
        Passage (Sparing r.nextSession) m (r.launch m .start request deadline).2 past m' r' →
        r'.answerTo? (r.launch m .start request deadline).1 =
            (if m'.clock < m.clock + r.verdict.1 then none
            else some (startAnswer r.nextSession parties request.action
              (r.verdict.2.outcome config.dispatchTimeout))) ∧
          (r'.answerTo? (r.launch m .start request deadline).1 =
              some (.started r.nextSession parties request.action) →
            ∀ wait patience ticket r₁, r'.wait m' r.nextSession wait patience = some (ticket, r₁) →
            ∀ past' m'' r'', Passage (Sparing r.nextSession) m' r₁ past' m'' r'' →
              AnsweredBy (Ending r.nextSession request.action m.clock r.script (past' ++ past)
                m'.clock wait patience) ticket m'' r'')) ∧
      ∀ errand, errand ≠ .start → ∀ past m' r',
        Passage (Sparing r.nextSession) m (r.launch m errand request deadline).2 past m' r' →
        m.clock + config.dispatchTimeout.millis + deadline.millis ≤ m'.clock →
        (r'.answerTo? (r.launch m errand request deadline).1).isSome = true) ∧
    ∀ f, request.validate = .error f ∨ request.validate = .ok () ∧
        r.coordinator.chosen r.nextSession (fun _ => 0) request = .error f →
      ∀ errand, (r.launch m errand request deadline).2.answerTo?
        (r.launch m errand request deadline).1 = some (errand.answer (.error f)) := by
  have fresh := orderly_new unused script m₀
  have orderly := reached.orderly fresh
  have hconfig : r.coordinator.config = config :=
    (reached.keeps fresh).1.trans (congrArg Coordinator.config unused)
  refine ⟨fun parties valid chosen => ?_, fun f refused errand => ?_⟩
  · have ticket : ∀ errand, (r.launch m errand request deadline).1 = r.callers.size := by
      intro errand
      obtain ⟨r', hlaunch, -⟩ := begins_of_launch orderly errand deadline valid chosen
      rw [hlaunch]
    refine ⟨fun past m' r' passage => ?_, fun errand other past m' r' passage elapsed => ?_⟩
    · obtain ⟨horderly, -, minted, course⟩ := course_of_launch orderly valid chosen passage
      rw [ticket]
      refine ⟨hconfig ▸ answer_of_course course rfl, ?_⟩
      intro started wait patience ticket' r₁ waits past' m'' r'' passage'
      obtain ⟨c, errand, -, attending⟩ :=
        attending_of_wait horderly minted course rfl started waits passage'
      exact answer_of_attending errand attending
    · obtain ⟨-, -, -, course⟩ := course_of_launch orderly valid chosen passage
      rw [ticket]
      exact answered_of_course course other (hconfig ▸ elapsed)
  · obtain ⟨c, result⟩ := Coordinator.start_of_refused m.wall refused
    exact answer_of_refused m errand deadline result

end Launch

def lateKeygen : Script :=
  ⟨[], [⟨none, .keygen "c2hhcmU=" "0xabc", some 100⟩], 30, .acknowledge true none none⟩

def idle : Rehearsal := new (.new Coordinator.oneNode .standard) lateKeygen

def dawn : Moment := ⟨⟨0, 0⟩, 0⟩

def startedLate : Moment × Rehearsal :=
  (idle.launch dawn .start (.keygen "alice" 1 1) .zero).2.elapse 50 dawn

def heldLate : Rehearsal := (Deed.hold 0).perform startedLate.1 startedLate.2

theorem ending_lateKeygen {t : Nat} {o : Outcome}
    (h : Ending ⟨"S1"⟩ .keygen 0 lateKeygen [(50, .hold 0)] 50 (.ofSeconds 1) none t o) :
    t = 100 ∧ o = .ok (.keygen "c2hhcmU=" "0xabc") ∨ 1050 ≤ t := by
  cases h with
  | tidings h =>
      cases h with
      | atOnce h => simp [lateKeygen, Script.atOnce, Publication.concerns] at h
      | later h =>
          simp only [lateKeygen, Script.later, Publication.concerns] at h
          obtain ⟨rfl, rfl⟩ := Prod.mk.inj (List.mem_singleton.1 h)
          exact Or.inl ⟨rfl, rfl⟩
      | deed h tidings =>
          obtain ⟨rfl, rfl⟩ := Prod.mk.inj (List.mem_singleton.1 h)
          cases tidings
  | overdue => exact Or.inr (Nat.le_of_eq rfl)
  | withdrawn h => cases h

theorem deadlines_decide_lateKeygen :
    (Session.Request.keygen "alice" 1 1).validate = .ok () ∧
      idle.coordinator.chosen idle.nextSession (fun _ => 0) (.keygen "alice" 1 1) = .ok [⟨1⟩] ∧
      ((idle.launch dawn .start (.keygen "alice" 1 1) .zero).2.elapse 29 dawn).2.answerTo? 0 =
        none ∧
      startedLate.2.answerTo? 0 = some (.started ⟨"S1"⟩ [⟨1⟩] .keygen) ∧
      ∃ ticket r, heldLate.wait startedLate.1 ⟨"S1"⟩ (.ofSeconds 1) none = some (ticket, r) ∧
        (r.elapse 49 startedLate.1).2.answerTo? ticket = none ∧
        (r.elapse 50 startedLate.1).2.answerTo? ticket =
          some (.result (.keygen "c2hhcmU=" "0xabc")) ∧
        (((idle.launch dawn .wallet (.keygen "alice" 1 1) (.ofSeconds 1)).2.elapse 31000
          dawn).2.answerTo? 0).isSome = true ∧
        (idle.launch dawn .start (.keygen "alice" 1 0) .zero).2.answerTo? 0 =
          some (.refused .zeroThreshold) := by
  have valid : (Session.Request.keygen "alice" 1 1).validate = .ok () := by decide +kernel
  have next : idle.nextSession = ⟨"S1"⟩ := by decide +kernel
  have chosen : idle.coordinator.chosen idle.nextSession (fun _ => 0) (.keygen "alice" 1 1) =
      .ok [⟨1⟩] := by decide +kernel
  have verdict : idle.verdict = (30, .ack ⟨⟨"S1"⟩, true, none⟩) := by decide +kernel
  have fresh : idle.Orderly dawn := orderly_new rfl lateKeygen dawn
  obtain ⟨r₀, hlaunch, launched, -⟩ := begins_of_launch fresh .start .zero valid chosen
  have ticket : idle.callers.size = 0 := rfl
  have decides := fun deadline => (deadlines_decide rfl (.begin : Passage _ dawn idle [] dawn idle)
    (.keygen "alice" 1 1) deadline).1 [⟨1⟩] valid chosen
  obtain ⟨decided, -⟩ := decides .zero
  simp only [hlaunch, next, ticket, verdict] at decided
  have passage : ∀ millis, Passage (Sparing ⟨"S1"⟩) dawn r₀ [] (r₀.elapse millis dawn).1
      (r₀.elapse millis dawn).2 := passage_elapse launched
  have late : startedLate = r₀.elapse 50 dawn := by rw [startedLate, hlaunch]
  have passed := passage 50
  rw [← late] at passed
  have started : startedLate.2.answerTo? 0 = some (.started ⟨"S1"⟩ [⟨1⟩] .keygen) :=
    (decided _ _ _ passed).1
  have held : heldLate = startedLate.2.hold (.started ⟨"S1"⟩ [⟨1⟩] .keygen) := by
    rw [heldLate, Deed.perform, started]
    rfl
  have entered : heldLate.answerTo? 0 = some (.started ⟨"S1"⟩ [⟨1⟩] .keygen) := held ▸ started
  have kept : heldLate.held.contains ⟨"S1"⟩ = true := by simp [held, hold]
  have passed : Passage (Sparing ⟨"S1"⟩) dawn r₀ [(50, .hold 0)] startedLate.1 heldLate :=
    passed.deed (.hold 0) fun disturbs => disturbs
  have orderly := passed.orderly launched
  obtain ⟨c, r, -, -, -, waits, -⟩ := wait_of_held orderly.sane kept (.ofSeconds 1) none
  have settled := (acts_wait orderly ⟨"S1"⟩ (.ofSeconds 1) none).orderly
  rw [waits] at settled
  have answered := fun millis => (decided _ _ _ passed).2 entered _ _ _ _ waits _ _ _
    (passage_elapse settled millis)
  have published : Ending ⟨"S1"⟩ .keygen 0 lateKeygen [(50, .hold 0)] 50 (.ofSeconds 1) none
      (0 + 100) (Coordinator.resultOutcome ⟨"S1"⟩ .keygen (.keygen "c2hhcmU=" "0xabc")) :=
    .tidings (.later (List.mem_singleton.2 rfl))
  rw [hlaunch]
  refine ⟨valid, chosen, (decided _ _ _ (passage 29)).1, started, _, _, waits, ?_, ?_, ?_, ?_⟩
  · refine Option.not_isSome_iff_eq_none.1 fun some => ?_
    obtain ⟨t, o, ending, early⟩ := (answered 49).1.1 some
    have early : t ≤ 99 := early
    rcases ending_lateKeygen ending with ⟨rfl, -⟩ | overdue <;> omega
  · obtain ⟨a, some⟩ := Option.isSome_iff_exists.1
      ((answered 50).1.2 ⟨_, _, published, Nat.le_refl _⟩)
    obtain ⟨o, ⟨t, ending, early, -⟩, rfl⟩ := (answered 50).2 a some
    have early : t ≤ 100 := early
    rcases ending_lateKeygen ending with ⟨-, rfl⟩ | overdue
    · exact some
    · omega
  · obtain ⟨r₁, hlaunch, launched, -⟩ :=
      begins_of_launch fresh .wallet (.ofSeconds 1) valid chosen
    have answered := (decides (.ofSeconds 1)).2 .wallet (by decide) [] _ _
      (by rw [hlaunch]; exact passage_elapse launched 31000) (Nat.le_refl _)
    rwa [hlaunch] at answered ⊢
  · have refuses := (deadlines_decide rfl (.begin : Passage _ dawn idle [] dawn idle)
      (.keygen "alice" 1 0) .zero).2
    exact refuses .zeroThreshold (Or.inl rfl) .start

end Conclave.Rehearsal

import Conclave.Proofs.Standing
import Conclave.Rehearsal

namespace Conclave.Rehearsal

def Event.session? : Event → Option SessionId
  | .reply s _ => some s
  | .publication s _ => some s
  | .deadline s => some s
  | .withdrawal s => some s
  | .sweep _ _ => none

def Caller.told (c : Caller) (outcome : Except Failure CeremonyResult) : Answer :=
  c.errand.answer (outcome.map fun result => ⟨c.session, c.parties, result⟩)

structure Scene where
  standing : Option Coordinator.Standing
  callers : List (Nat × Caller)
  dues : Agenda Event

namespace Scene

def modify (ticket : Nat) (f : Caller → Caller) (σ : Scene) : Scene :=
  { σ with callers := σ.callers.map (Keyed.touch ticket f) }

def setStage (ticket : Nat) (stage : Stage) (σ : Scene) : Scene :=
  σ.modify ticket fun c => { c with stage := stage }

def enter (ticket : Nat) (c : Caller) (σ : Scene) : Scene :=
  { σ with callers := σ.callers ++ [(ticket, c)] }

def remind (due : Nat) (e : Event) (σ : Scene) : Scene := { σ with dues := σ.dues.add due e }

def deliver (result : CeremonyResult) (σ : Scene) : Scene :=
  { σ with standing := σ.standing.map (·.deliver result) }

def close (σ : Scene) : Scene := { σ with standing := σ.standing.map (·.close) }

def isReceived (σ : Scene) : Bool := σ.callers.any fun e => e.2.isReceiving

variable (s : SessionId)

def caller? (σ : Scene) : Option (Nat × Caller) := σ.callers.find? fun e => e.2.waitsOn s

def resolve (outcome : Except Failure CeremonyResult) (σ : Scene) : Scene :=
  match σ.caller? s with
  | none => σ
  | some (ticket, c) => σ.setStage ticket (.ended (c.told outcome))

def conclude (outcome : Except Failure CeremonyResult) (σ : Scene) : Scene :=
  { σ with standing := none }.resolve s outcome

def poll (σ : Scene) : Scene :=
  match σ.standing.bind (·.news s) with
  | none => σ
  | some outcome => σ.conclude s outcome

def expire (σ : Scene) : Scene :=
  if σ.standing.any (·.acknowledged) then σ.conclude s (.error (.timeout s)) else σ

def cancel (σ : Scene) : Scene :=
  if σ.standing.isSome then σ.conclude s (.error (.cancelled s)) else σ

def plan (clock : Nat) (deadline : Duration) (patience : Option Nat) (σ : Scene) : Scene :=
  let σ := σ.remind (clock + deadline.millis) (.deadline s)
  match patience with
  | none => σ
  | some p => σ.remind (clock + p) (.withdrawal s)

def watch (clock : Nat) (deadline : Duration) (patience : Option Nat) (σ : Scene) : Scene :=
  let σ := σ.poll s
  if !σ.isReceived then σ
  else if patience = some 0 then σ.cancel s
  else if deadline.isZero then σ.expire s
  else σ.plan s clock deadline patience

def acknowledged (clock : Nat) (σ : Scene) : Scene :=
  match σ.caller? s with
  | none => σ
  | some (ticket, c) =>
      if c.errand = .start then
        let σ := σ.setStage ticket (.ended (.started s c.parties c.action))
        if c.attended then σ else σ.cancel s
      else (σ.setStage ticket .receiving).watch s clock c.deadline none

def answer (budget : Duration) (clock : Nat) (reply : Reply) (σ : Scene) : Scene :=
  match σ.standing with
  | none => σ
  | some st =>
      if st.acknowledged then σ
      else match reply.outcome budget with
        | .error f => σ.conclude s (.error f)
        | .ok () => { σ with standing := some st.acknowledge }.acknowledged s clock

def fire (budget : Duration) (clock : Nat) (σ : Scene) : Event → Scene
  | .reply _ reply => σ.answer s budget clock reply
  | .publication _ result => σ.deliver result
  | .deadline _ => σ.expire s
  | .withdrawal _ => σ.cancel s
  | .sweep _ _ => σ

def attend (σ : Scene) : Scene := if σ.isReceived then σ.poll s else σ

def undergo (budget : Duration) (clock : Nat) (events : List Event) (σ : Scene) : Scene :=
  events.foldl (fun σ e => (σ.fire s budget clock e).attend s) σ

def settle (budget : Duration) (clock : Nat) (σ : Scene) : Scene :=
  undergo s budget clock (σ.dues.due clock)
    ({ σ with dues := σ.dues.later clock }.attend s)

end Scene

end Rehearsal

namespace Rehearsal

def scene (s : SessionId) (r : Rehearsal) : Scene :=
  ⟨r.coordinator.standing s, r.callers.entries.filter fun e => decide (e.2.session = s),
    ⟨r.agenda.entries.filter fun e => decide (e.2.session? = some s)⟩⟩

def Rooted (e : Nat × Event) : Prop := ∀ reaper origin, e.2 = .sweep reaper origin → origin ≤ e.1

structure Sane (r : Rehearsal) : Prop where
  linked : r.coordinator.Linked
  tickets : ∀ e ∈ r.callers.entries, e.1 < r.callers.size
  told : ∀ e ∈ r.callers.entries, ∀ s parties action,
    e.2.stage = .ended (.started s parties action) → s = e.2.session

structure Becomes (b : Nat) (change : SessionId → Scene → Scene) (r r' : Rehearsal) : Prop where
  sane : r'.Sane
  scenes : ∀ u, r'.scene u = change u (r.scene u)
  config : r'.coordinator.config = r.coordinator.config
  held : r'.held = r.held
  minted : r'.minted = r.minted
  agenda : ∀ e ∈ r'.agenda.entries, e ∈ r.agenda.entries ∨ b ≤ e.1 ∧ Rooted e

def only (s : SessionId) (f : Scene → Scene) (u : SessionId) (σ : Scene) : Scene :=
  if u = s then f σ else σ

theorem only_only (s : SessionId) (f g : Scene → Scene) (u : SessionId) (σ : Scene) :
    only s g u (only s f u σ) = only s (fun σ => g (f σ)) u σ := by
  unfold only
  split <;> rfl

section Becomes

variable {b : Nat} {change change' : SessionId → Scene → Scene} {r r' r'' : Rehearsal}
  {s : SessionId} {f g : Scene → Scene}

theorem Becomes.refl (sane : r.Sane) : Becomes b (fun _ σ => σ) r r :=
  ⟨sane, fun _ => rfl, rfl, rfl, rfl, fun _ he => Or.inl he⟩

theorem Becomes.trans (h : Becomes b change r r') (h' : Becomes b change' r' r'') :
    Becomes b (fun u σ => change' u (change u σ)) r r'' := by
  refine ⟨h'.sane, fun u => ?_, h'.config.trans h.config, h'.held.trans h.held,
    h'.minted.trans h.minted, fun e he => ?_⟩
  · rw [h'.scenes, h.scenes]
  · rcases h'.agenda e he with hold | hnew
    · exact h.agenda e hold
    · exact Or.inr hnew

theorem Becomes.congr (h : Becomes b change r r')
    (same : ∀ u, change' u (r.scene u) = change u (r.scene u)) : Becomes b change' r r' :=
  ⟨h.sane, fun u => (h.scenes u).trans (same u).symm, h.config, h.held, h.minted, h.agenda⟩

theorem Becomes.mono (h : Becomes b change r r') {earlier : Nat} (le : earlier ≤ b) :
    Becomes earlier change r r' :=
  ⟨h.sane, h.scenes, h.config, h.held, h.minted,
    fun e he => (h.agenda e he).imp_right fun new => ⟨Nat.le_trans le new.1, new.2⟩⟩

theorem Becomes.of_here (h : Becomes b (only s g) r r') (same : f (r.scene s) = g (r.scene s)) :
    Becomes b (only s f) r r' := by
  refine h.congr fun u => ?_
  unfold only
  split
  · rename_i hu
    rw [hu, same]
  · rfl

theorem Becomes.still (sane : r.Sane) (same : f (r.scene s) = r.scene s) :
    Becomes b (only s f) r r := by
  refine (Becomes.refl sane).congr fun u => ?_
  unfold only
  split
  · rename_i hu
    rw [hu, same]
  · rfl

theorem Becomes.then_here (h : Becomes b (only s f) r r')
    (h' : Becomes b (only s g) r' r'') : Becomes b (only s fun σ => g (f σ)) r r'' :=
  (h.trans h').congr fun u => (only_only s f g u (r.scene u)).symm

theorem Becomes.here (h : Becomes b (only s f) r r') : r'.scene s = f (r.scene s) :=
  (h.scenes s).trans (if_pos rfl)

end Becomes

section Parts

variable {b : Nat} {r : Rehearsal} {s : SessionId}

theorem becomes_setApp (sane : r.Sane) {app : App} (same : app.coordinator = r.coordinator) :
    Becomes b (fun _ σ => σ) r { r with app := app } := by
  have coordinator : ({ r with app := app } : Rehearsal).coordinator = r.coordinator := same
  refine ⟨⟨?_, sane.tickets, sane.told⟩, fun u => ?_, ?_, rfl, rfl, fun _ he => Or.inl he⟩
  · rw [coordinator]
    exact sane.linked
  · rw [scene, coordinator]
    rfl
  · rw [coordinator]

theorem becomes_setCoordinator (sane : r.Sane) {c : Coordinator} (linked : c.Linked)
    (config : c.config = r.coordinator.config)
    {f : Option Coordinator.Standing → Option Coordinator.Standing}
    (standing : ∀ u, c.standing u =
      if u = s then f (r.coordinator.standing u) else r.coordinator.standing u) :
    Becomes b (only s fun σ => { σ with standing := f σ.standing }) r (r.setCoordinator c) := by
  refine ⟨⟨linked, sane.tickets, sane.told⟩, fun u => ?_, config, rfl, rfl, fun _ he => Or.inl he⟩
  have coordinator : (r.setCoordinator c).coordinator = c := rfl
  rw [scene, coordinator, standing, only]
  split <;> rfl

theorem becomes_setCoordinator_of_same (sane : r.Sane) {c : Coordinator}
    (leases : c.leases = r.coordinator.leases) (bus : c.bus = r.coordinator.bus)
    (config : c.config = r.coordinator.config) :
    Becomes b (fun _ σ => σ) r (r.setCoordinator c) := by
  refine ⟨⟨sane.linked.congr leases bus, sane.tickets, sane.told⟩, fun u => ?_, config, rfl, rfl,
    fun _ he => Or.inl he⟩
  have coordinator : (r.setCoordinator c).coordinator = c := rfl
  have standing : c.standing u = r.coordinator.standing u :=
    Coordinator.standing_congr (by rw [leases]) (fun _ _ => by rw [bus]) (by rw [bus])
  rw [scene, coordinator, standing]
  rfl

theorem touch_eq {κ ν : Type} [DecidableEq κ] (k : κ) (f : ν → ν) (v : ν) :
    Keyed.touch k f (k, v) = (k, f v) := if_pos rfl

theorem touch_ne {κ ν : Type} [DecidableEq κ] {k : κ} (f : ν → ν) {e : κ × ν} (h : e.1 ≠ k) :
    Keyed.touch k f e = e := if_neg h

theorem filter_touch (u : SessionId) (ticket : Nat) {f : Caller → Caller}
    (keeps : ∀ c, (f c).session = c.session) (l : List (Nat × Caller)) :
    (l.map (Keyed.touch ticket f)).filter (fun e => decide (e.2.session = u)) =
      (l.filter fun e => decide (e.2.session = u)).map (Keyed.touch ticket f) := by
  rw [List.filter_map]
  congr 1
  refine List.filter_congr fun e _ => ?_
  unfold Keyed.touch
  simp only [Function.comp_apply]
  split
  · rw [keeps]
  · rfl

theorem becomes_modify (sane : r.Sane) {ticket : Nat} {c : Caller}
    (entry : (ticket, c) ∈ r.callers.entries) (session : c.session = s) {f : Caller → Caller}
    (keeps : ∀ c, (f c).session = c.session)
    (told : ∀ k parties action, (f c).stage = .ended (.started k parties action) → k = s) :
    Becomes b (only s (Scene.modify ticket f)) r
      { r with callers := r.callers.modify ticket f } := by
  refine ⟨⟨sane.linked, ?_, ?_⟩, fun u => ?_, rfl, rfl, rfl, fun _ he => Or.inl he⟩
  · intro e he
    obtain ⟨e', he', rfl⟩ := List.mem_map.1 he
    rw [Keyed.touch_fst]
    exact (sane.tickets e' he').trans_eq (List.length_map _).symm
  · intro e he k parties action hstage
    obtain ⟨e', he', rfl⟩ := List.mem_map.1 he
    by_cases hk : e'.1 = ticket
    · obtain ⟨ticket', c'⟩ := e'
      obtain rfl : ticket' = ticket := hk
      obtain rfl : c = c' :=
        Option.some.inj ((Keyed.mem_entries_iff.1 entry).symm.trans (Keyed.mem_entries_iff.1 he'))
      rw [touch_eq] at hstage ⊢
      exact (told k parties action hstage).trans (session.symm.trans (keeps c).symm)
    · rw [touch_ne _ hk] at hstage ⊢
      exact sane.told e' he' k parties action hstage
  · have callers : (r.callers.modify ticket f).entries.filter
        (fun e => decide (e.2.session = u)) =
        (r.callers.entries.filter fun e => decide (e.2.session = u)).map (Keyed.touch ticket f) :=
      filter_touch u ticket keeps r.callers.entries
    rw [only]
    split
    · rw [scene, callers]
      rfl
    · rename_i hu
      rw [scene, callers, List.map_congr_left (g := id), List.map_id]
      · rfl
      · intro e he
        obtain ⟨he, hsession⟩ := List.mem_filter.1 he
        refine touch_ne _ fun hk => hu ?_
        obtain ⟨ticket', c'⟩ := e
        obtain rfl : ticket' = ticket := hk
        obtain rfl : c = c' :=
          Option.some.inj ((Keyed.mem_entries_iff.1 entry).symm.trans (Keyed.mem_entries_iff.1 he))
        exact (of_decide_eq_true hsession).symm.trans session

theorem becomes_setStage (sane : r.Sane) {ticket : Nat} {c : Caller}
    (entry : (ticket, c) ∈ r.callers.entries) (session : c.session = s) (stage : Stage)
    (told : ∀ k parties action, stage = .ended (.started k parties action) → k = s) :
    Becomes b (only s (Scene.setStage ticket stage)) r (r.setStage ticket stage) :=
  becomes_modify sane entry session (fun _ => rfl) told

theorem filter_snoc {α : Type} (p : α → Bool) (l : List α) (a : α) :
    (l ++ [a]).filter p = if p a then l.filter p ++ [a] else l.filter p := by
  rw [List.filter_append]
  by_cases h : p a = true
  · rw [if_pos h, List.filter_cons_of_pos h, List.filter_nil]
  · rw [if_neg h, List.filter_cons_of_neg h, List.filter_nil, List.append_nil]

theorem becomes_remind (sane : r.Sane) {t : Nat} {e : Event} (session : e.session? = some s)
    (le : b ≤ t) : Becomes b (only s (Scene.remind t e)) r (r.remind t e) := by
  refine ⟨⟨sane.linked, sane.tickets, sane.told⟩, fun u => ?_, rfl, rfl, rfl, fun e' he' => ?_⟩
  · have dues : (r.remind t e).agenda.entries = r.agenda.entries ++ [(t, e)] := rfl
    rw [scene, dues, filter_snoc, only]
    by_cases hu : u = s
    · rw [if_pos hu, if_pos (by simp [session, hu])]
      rfl
    · rw [if_neg hu, if_neg (by simpa [session] using Ne.symm hu)]
      rfl
  · rcases List.mem_append.1 he' with hold | hnew
    · exact Or.inl hold
    · obtain rfl := List.mem_singleton.1 hnew
      refine Or.inr ⟨le, fun reaper origin hsweep => ?_⟩
      obtain rfl : e = .sweep reaper origin := hsweep
      cases session

theorem entries_enroll (sane : r.Sane) (c : Caller) :
    (r.enroll c).2.callers.entries = r.callers.entries ++ [((r.enroll c).1, c)] := by
  refine Keyed.entries_insert c ?_
  cases found : r.callers.get? r.callers.size with
  | none => rfl
  | some _ => exact absurd (sane.tickets _ (Keyed.mem_entries_iff.2 found)) (Nat.lt_irrefl _)

theorem becomes_enroll (sane : r.Sane) {c : Caller} (session : c.session = s)
    (told : ∀ k parties action, c.stage = .ended (.started k parties action) → k = s) :
    Becomes b (only s (Scene.enter r.callers.size c)) r (r.enroll c).2 := by
  have entries := entries_enroll sane c
  have size : (r.enroll c).2.callers.size = r.callers.size + 1 := by
    rw [Keyed.size, entries, List.length_append]
    rfl
  refine ⟨⟨sane.linked, ?_, ?_⟩, fun u => ?_, rfl, rfl, rfl, fun _ he => Or.inl he⟩
  · intro e he
    rw [size]
    rcases List.mem_append.1 (entries ▸ he) with hold | hnew
    · exact Nat.lt_succ_of_lt (sane.tickets e hold)
    · obtain rfl := List.mem_singleton.1 hnew
      exact Nat.lt_succ_self _
  · intro e he
    rcases List.mem_append.1 (entries ▸ he) with hold | hnew
    · exact sane.told e hold
    · obtain rfl := List.mem_singleton.1 hnew
      intro k parties action hstage
      exact (told k parties action hstage).trans session.symm
  · rw [scene, entries, filter_snoc, only]
    by_cases hu : u = s
    · rw [if_pos hu, if_pos (by simp [session, hu])]
      rfl
    · rw [if_neg hu, if_neg (by simpa [session] using Ne.symm hu)]
      rfl

theorem callerOn?_eq (s : SessionId) (r : Rehearsal) : r.callerOn? s = (r.scene s).caller? s := by
  rw [callerOn?, Scene.caller?, scene, List.find?_filter]
  congr 1
  funext ⟨_, c⟩
  cases hstage : c.stage <;> simp [Caller.waitsOn, hstage]

theorem mem_receiving {u : SessionId} : u ∈ r.receiving ↔ (r.scene u).isReceived = true := by
  simp only [receiving, Keyed.values, List.mem_map, List.mem_filter, Scene.isReceived, scene,
    List.any_eq_true, decide_eq_true_eq]
  constructor
  · rintro ⟨c, ⟨⟨e, he, rfl⟩, hreceiving⟩, hsession⟩
    exact ⟨e, ⟨he, hsession⟩, hreceiving⟩
  · rintro ⟨e, ⟨he, hsession⟩, hreceiving⟩
    exact ⟨e.2, ⟨⟨e, he, rfl⟩, hreceiving⟩, hsession⟩

theorem waiting_of_callerOn? {ticket : Nat} {c : Caller} (h : r.callerOn? s = some (ticket, c)) :
    (ticket, c) ∈ r.callers.entries ∧ c.session = s := by
  refine ⟨List.mem_of_find?_eq_some h, ?_⟩
  have waits : c.waitsOn s = true :=
    List.find?_some (p := fun e : Nat × Caller => e.2.waitsOn s) h
  unfold Caller.waitsOn at waits
  split at waits
  · cases waits
  · exact of_decide_eq_true waits

end Parts

theorem Caller.told_ne_started (c : Caller) (outcome : Except Failure CeremonyResult)
    (k : SessionId) (parties : List NodeId) (action : Action) :
    c.told outcome ≠ .started k parties action := by
  unfold Caller.told
  generalize outcome.map _ = finished
  cases c.errand <;> cases finished <;> intro h <;> try cases h
  · rename_i f
    cases hw : f.wallet <;> simp [Errand.answer, hw, Answer.ofExcept, bind, Except.bind] at h
  · rename_i f
    cases hw : f.signature <;> simp [Errand.answer, hw, Answer.ofExcept, bind, Except.bind] at h

section Deeds

variable {b : Nat} {m : Moment} {r : Rehearsal} {s : SessionId}

theorem becomes_tell (sane : r.Sane) {ticket : Nat} {c : Caller}
    (entry : (ticket, c) ∈ r.callers.entries) (session : c.session = s)
    (outcome : Except Failure CeremonyResult) :
    Becomes b (only s (Scene.setStage ticket (.ended (c.told outcome)))) r
      (r.conclude ticket c outcome) := by
  have record : (c.errand.record (outcome.map fun result => ⟨c.session, c.parties, result⟩)
      r.app).coordinator = r.coordinator := by
    cases c.errand <;> rfl
  have hrecord := becomes_setApp (b := b) sane record
  exact hrecord.trans (becomes_setStage hrecord.sane entry session _ fun k parties action h =>
    absurd (Stage.ended.inj h) (c.told_ne_started outcome k parties action))

theorem becomes_resolve (sane : r.Sane) (outcome : Except Failure CeremonyResult) :
    Becomes b (only s (Scene.resolve s outcome)) r (r.resolve s outcome) := by
  have here := callerOn?_eq s r
  unfold resolve
  cases hc : r.callerOn? s with
  | none => exact .still sane (by rw [Scene.resolve, ← here, hc])
  | some found =>
      obtain ⟨ticket, c⟩ := found
      obtain ⟨entry, session⟩ := waiting_of_callerOn? hc
      exact (becomes_tell sane entry session outcome).of_here (by
        rw [Scene.resolve, ← here, hc])

theorem becomes_conclude (sane : r.Sane) (failure : Option Failure)
    (outcome : Except Failure CeremonyResult) :
    Becomes b (only s (Scene.conclude s outcome)) r
      ((r.setCoordinator (r.coordinator.conclude m.wall s failure)).resolve s outcome) := by
  have hend := becomes_setCoordinator (b := b) (s := s) (f := fun _ => none) sane
    (Coordinator.linked_conclude sane.linked m.wall s failure)
    (Coordinator.config_conclude m.wall s failure)
    (Coordinator.standing_conclude sane.linked m.wall s failure)
  exact hend.then_here (becomes_resolve hend.sane outcome)

theorem becomes_poll (sane : r.Sane) :
    Becomes b (only s (Scene.poll s)) r (r.poll m s) := by
  unfold poll
  cases news : (r.coordinator.standing s).bind (·.news s) with
  | none =>
      rw [Coordinator.receive_of_quiet sane.linked m.wall news]
      exact .still sane (by rw [Scene.poll, scene, news])
  | some outcome =>
      rw [Coordinator.receive_of_news sane.linked m.wall news]
      exact (becomes_conclude sane _ outcome).of_here (by rw [Scene.poll, scene, news])

theorem becomes_expire (sane : r.Sane) :
    Becomes b (only s (Scene.expire s)) r (r.expire m s) := by
  unfold expire
  cases acknowledged : (r.coordinator.standing s).any (·.acknowledged) with
  | false =>
      rw [Coordinator.expire_of_waiting m.wall]
      · exact .still sane (by simp [Scene.expire, scene, acknowledged])
      · intro st stands
        simpa [stands] using acknowledged
  | true =>
      obtain ⟨st, stands, hack⟩ := (Option.any_eq_true _ _).1 acknowledged
      rw [Coordinator.expire_of_acknowledged m.wall stands hack]
      exact (becomes_conclude sane _ _).of_here (by simp [Scene.expire, scene, acknowledged])

theorem becomes_cancel (sane : r.Sane) :
    Becomes b (only s (Scene.cancel s)) r (r.cancel m s) := by
  unfold cancel
  cases stands : r.coordinator.standing s with
  | none =>
      rw [Coordinator.cancel_of_gone m.wall (Coordinator.standing_eq_none.1 stands)]
      exact .still sane (by simp [Scene.cancel, scene, stands])
  | some st =>
      rw [Coordinator.cancel_of_standing m.wall stands]
      exact (becomes_conclude sane _ _).of_here (by simp [Scene.cancel, scene, stands])

theorem becomes_publish (sane : r.Sane) (result : CeremonyResult) :
    Becomes b (only s (Scene.deliver result)) r (r.publish s result).2 :=
  becomes_setCoordinator sane (Coordinator.linked_publish sane.linked s result) rfl
    (Coordinator.standing_publish sane.linked s result)

theorem Duration.millis_pos {d : Duration} (h : d.isZero = false) : 0 < d.millis := by
  simp only [Duration.isZero, decide_eq_false_iff_not] at h
  simp only [Duration.millis]
  omega

theorem becomes_watch (sane : r.Sane) (deadline : Duration) (patience : Option Nat) :
    Becomes (m.clock + 1) (only s (Scene.watch s m.clock deadline patience)) r
      (r.watch m s deadline patience) := by
  have hpoll := becomes_poll (b := m.clock + 1) (m := m) (s := s) sane
  unfold watch
  simp only
  have received : (r.poll m s).receiving.contains s = ((r.scene s).poll s).isReceived := by
    rw [Bool.eq_iff_iff, List.contains_iff_mem, mem_receiving, hpoll.here]
  rw [received]
  by_cases hreceived : ((r.scene s).poll s).isReceived = true
  · simp only [hreceived, Bool.not_true, Bool.false_eq_true, if_false]
    by_cases hpatience : patience = some 0
    · simp only [hpatience, if_true]
      exact (hpoll.then_here (becomes_cancel hpoll.sane)).of_here (by
        simp [Scene.watch, hreceived])
    · simp only [hpatience, if_false]
      cases hzero : deadline.isZero with
      | true =>
          simp only [if_true]
          exact (hpoll.then_here (becomes_expire hpoll.sane)).of_here (by
            simp [Scene.watch, hreceived, hpatience, hzero])
      | false =>
          simp only [Bool.false_eq_true, if_false]
          have hdeadline := hpoll.then_here (becomes_remind (t := m.clock + deadline.millis)
            (e := .deadline s) hpoll.sane rfl (by have := Duration.millis_pos hzero; omega))
          cases patience with
          | none =>
              exact hdeadline.of_here (by simp [Scene.watch, hreceived, hzero, Scene.plan])
          | some p =>
              have hp : p ≠ 0 := fun h => hpatience (by rw [h])
              exact (hdeadline.then_here (becomes_remind (t := m.clock + p)
                (e := .withdrawal s) hdeadline.sane rfl (by omega))).of_here
                  (by simp [Scene.watch, hreceived, hpatience, hzero, Scene.plan])
  · rw [Bool.not_eq_true] at hreceived
    simp only [hreceived, Bool.not_false, if_true]
    exact hpoll.of_here (by simp [Scene.watch, hreceived])

theorem becomes_acknowledged (sane : r.Sane) :
    Becomes (m.clock + 1) (only s (Scene.acknowledged s m.clock)) r (r.acknowledged m s) := by
  have here := callerOn?_eq s r
  unfold acknowledged
  cases hc : r.callerOn? s with
  | none => exact .still sane (by rw [Scene.acknowledged, ← here, hc])
  | some found =>
      obtain ⟨ticket, c⟩ := found
      obtain ⟨entry, session⟩ := waiting_of_callerOn? hc
      have scene : (r.scene s).caller? s = some (ticket, c) := here.symm.trans hc
      by_cases herrand : c.errand = .start
      · have hstage := becomes_setStage (b := m.clock + 1) sane entry session
          (.ended (.started s c.parties c.action)) fun _ _ _ h => by
            cases h
            rfl
        simp only [herrand, if_true]
        cases hattended : c.attended with
        | true => exact hstage.of_here (by simp [Scene.acknowledged, scene, herrand, hattended])
        | false =>
            exact (hstage.then_here (becomes_cancel hstage.sane)).of_here (by
              simp [Scene.acknowledged, scene, herrand, hattended])
      · simp only [herrand, if_false]
        have hstage := becomes_setStage (b := m.clock + 1) sane entry session
          .receiving fun _ _ _ h => by cases h
        exact (hstage.then_here (becomes_watch hstage.sane c.deadline none)).of_here (by
          simp [Scene.acknowledged, scene, herrand])

theorem becomes_answer (sane : r.Sane) (reply : Reply) :
    Becomes (m.clock + 1)
      (only s (Scene.answer s r.coordinator.config.dispatchTimeout m.clock reply)) r
      (r.answer m s reply) := by
  unfold answer
  cases stands : r.coordinator.standing s with
  | none =>
      rw [Coordinator.answer_of_deaf m.wall reply (by simp [stands])]
      exact .still sane (by simp [Scene.answer, scene, stands])
  | some st =>
      cases hack : st.acknowledged with
      | true =>
          rw [Coordinator.answer_of_deaf m.wall reply (by simp [stands, hack])]
          exact .still sane (by simp [Scene.answer, scene, stands, hack])
      | false =>
          cases houtcome : reply.outcome r.coordinator.config.dispatchTimeout with
          | error f =>
              rw [Coordinator.answer_of_refusal m.wall stands hack houtcome]
              exact (becomes_conclude sane _ _).of_here (by
                simp [Scene.answer, scene, stands, hack, houtcome])
          | ok _ =>
              obtain ⟨parties, haccept⟩ :=
                Coordinator.answer_of_acceptance m.wall stands hack houtcome
              rw [haccept]
              have hstand := becomes_setCoordinator (b := m.clock + 1) (s := s) sane
                (Coordinator.linked_acknowledge sane.linked m.wall s parties) rfl
                (Coordinator.standing_acknowledge m.wall s parties)
              exact (hstand.then_here (becomes_acknowledged hstand.sane)).of_here (by
                simp [Scene.answer, scene, stands, hack, houtcome])

theorem becomes_sweep (sane : r.Sane) (reaper : Reaper) {origin : Nat} (rooted : origin ≤ m.clock) :
    Becomes (m.clock + 1) (fun _ σ => σ) r (r.sweep m reaper origin) := by
  unfold sweep
  cases hsweep : reaper.sweep m.wall r.coordinator with
  | mk count c =>
      cases count with
      | error _ => exact .refl sane
      | ok n =>
          have same : c.leases = r.coordinator.leases ∧ c.bus = r.coordinator.bus ∧
              c.config = r.coordinator.config := by
            rw [Reaper.sweep, Coordinator.prune] at hsweep
            split at hsweep
            · cases hsweep
            · cases hsweep
              exact ⟨rfl, rfl, rfl⟩
          have hset := becomes_setCoordinator_of_same (b := m.clock + 1) sane same.1 same.2.1
            same.2.2
          simp only
          split
          · exact hset
          · have next := reaper.lt_nextSweep rooted
            refine ⟨⟨hset.sane.linked, hset.sane.tickets, hset.sane.told⟩, fun u => ?_, hset.config,
              rfl, rfl, fun e he => ?_⟩
            · rw [← hset.scenes u, scene, remind, Agenda.add, filter_snoc,
                if_neg (by simp [Event.session?])]
              rfl
            · rcases List.mem_append.1 he with hold | hnew
              · exact Or.inl hold
              · obtain rfl := List.mem_singleton.1 hnew
                refine Or.inr ⟨next, fun _ _ h => ?_⟩
                cases h
                exact Nat.le_of_lt (Nat.lt_of_le_of_lt rooted next)

theorem becomes_fire (sane : r.Sane) {e : Event}
    (rooted : ∀ reaper origin, e = .sweep reaper origin → origin ≤ m.clock) :
    Becomes (m.clock + 1)
      (fun u σ => if e.session? = some u then
        σ.fire u r.coordinator.config.dispatchTimeout m.clock e else σ) r (r.fire m e) := by
  have here : ∀ {k : SessionId} {f : Scene → Scene} {r' : Rehearsal},
      Becomes (m.clock + 1) (only k f) r r' → e.session? = some k →
      (∀ σ, σ.fire k r.coordinator.config.dispatchTimeout m.clock e = f σ) →
      Becomes (m.clock + 1) (fun u σ => if e.session? = some u then
        σ.fire u r.coordinator.config.dispatchTimeout m.clock e else σ) r r' := by
    intro k f r' h session same
    refine h.congr fun u => ?_
    rw [only, session]
    by_cases hu : u = k
    · rw [if_pos hu, if_pos (by rw [hu]), hu, same]
    · rw [if_neg hu, if_neg fun h => hu (Option.some.inj h).symm]
  cases e with
  | reply k reply => exact here (becomes_answer sane reply) rfl fun _ => rfl
  | publication k result => exact here (becomes_publish sane result) rfl fun _ => rfl
  | deadline k => exact here (becomes_expire sane) rfl fun _ => rfl
  | withdrawal k => exact here (becomes_cancel sane) rfl fun _ => rfl
  | sweep reaper origin =>
      exact (becomes_sweep sane reaper (rooted reaper origin rfl)).congr fun u => rfl

theorem Scene.standing_conclude (u : SessionId) (outcome : Except Failure CeremonyResult)
    (σ : Scene) : (σ.conclude u outcome).standing = none := by
  unfold Scene.conclude Scene.resolve
  split <;> rfl

theorem Scene.poll_poll (u : SessionId) (σ : Scene) : (σ.poll u).poll u = σ.poll u := by
  cases news : σ.standing.bind (·.news u) with
  | none => simp only [Scene.poll, news]
  | some outcome =>
      have hpoll : σ.poll u = σ.conclude u outcome := by simp only [Scene.poll, news]
      rw [hpoll, Scene.poll, Scene.standing_conclude, Option.bind_none]

theorem becomes_pollAll (sane : r.Sane) :
    Becomes b (fun u σ => σ.attend u) r (r.pollAll m) := by
  have fold : ∀ (sessions : List SessionId) (r : Rehearsal), r.Sane →
      Becomes b (fun u σ => if u ∈ sessions then σ.poll u else σ) r
        (sessions.foldl (fun r s => r.poll m s) r) := by
    intro sessions
    induction sessions with
    | nil =>
        intro r sane
        exact (Becomes.refl sane).congr fun u => by simp
    | cons k rest ih =>
        intro r sane
        have hpoll := becomes_poll (b := b) (m := m) (s := k) sane
        refine (hpoll.trans (ih _ hpoll.sane)).congr fun u => ?_
        by_cases hu : u = k
        · subst hu
          by_cases hrest : u ∈ rest <;> simp [only, hrest, Scene.poll_poll]
        · simp [only, hu]
  exact (fold r.receiving r sane).congr fun u => by
    rw [Scene.attend]
    simp only [mem_receiving]

def Scene.Rests (u : SessionId) (σ : Scene) : Prop :=
  σ.isReceived = true → σ.standing.bind (·.news u) = none

theorem Scene.attend_of_rests {u : SessionId} {σ : Scene} (rests : σ.Rests u) :
    σ.attend u = σ := by
  unfold Scene.attend
  split
  · rename_i hreceived
    simp only [Scene.poll, rests hreceived]
  · rfl

theorem Scene.rests_attend (u : SessionId) (σ : Scene) : (σ.attend u).Rests u := by
  unfold Scene.attend
  split
  · intro _
    cases news : σ.standing.bind (·.news u) with
    | none => simp only [Scene.poll, news]
    | some outcome => simp only [Scene.poll, news, Scene.standing_conclude, Option.bind_none]
  · rename_i hreceived
    exact fun h => absurd h hreceived

def Attended (r : Rehearsal) : Prop := ∀ u, (r.scene u).Rests u

theorem attended_of_pollAll (sane : r.Sane) : (r.pollAll m).Attended := by
  intro u
  rw [(becomes_pollAll (b := 0) (m := m) sane).scenes u]
  exact Scene.rests_attend u (r.scene u)

theorem becomes_undergo (sane : r.Sane) (attended : r.Attended) {budget : Duration}
    (config : r.coordinator.config.dispatchTimeout = budget) {events : List Event}
    (rooted : ∀ e ∈ events, ∀ reaper origin, e = .sweep reaper origin → origin ≤ m.clock) :
    Becomes (m.clock + 1)
        (fun u σ => Scene.undergo u budget m.clock
          (events.filter fun e => decide (e.session? = some u)) σ) r
        (events.foldl (fun r e => (r.fire m e).pollAll m) r) ∧
      (events.foldl (fun r e => (r.fire m e).pollAll m) r).Attended := by
  -- on the events, one of which is seen by one session; all rest between one and the next
  induction events generalizing r with
  | nil => exact ⟨(Becomes.refl sane).congr fun u => rfl, attended⟩
  | cons e rest ih =>
      have hfire := becomes_fire (m := m) sane (rooted e List.mem_cons_self)
      have hpoll := hfire.trans (becomes_pollAll (m := m) hfire.sane)
      obtain ⟨hrest, hattended⟩ := ih hpoll.sane (attended_of_pollAll hfire.sane)
        (by rw [hpoll.config, config]) fun e he => rooted e (List.mem_cons_of_mem _ he)
      refine ⟨(hpoll.trans hrest).congr fun u => ?_, hattended⟩
      by_cases hu : e.session? = some u
      · simp only [hu, decide_true, List.filter_cons_of_pos, if_true, Scene.undergo,
          List.foldl_cons, config]
      · simp only [hu, decide_false, Bool.false_eq_true, not_false_eq_true,
          List.filter_cons_of_neg, if_false, Scene.attend_of_rests (attended u)]

theorem due_scene (u : SessionId) (clock : Nat) (r : Rehearsal) :
    (r.scene u).dues.due clock =
      (r.agenda.due clock).filter fun e => decide (e.session? = some u) := by
  simp only [scene, Agenda.due, List.filter_map, List.filter_filter]
  congr 2
  funext e
  simp only [Function.comp_apply, Bool.and_comm]

def Ahead (m : Moment) (r : Rehearsal) : Prop := ∀ e ∈ r.agenda.entries, m.clock < e.1 ∧ Rooted e

theorem becomes_settle (sane : r.Sane) (rooted : ∀ e ∈ r.agenda.entries, Rooted e) :
    Becomes (m.clock + 1)
        (fun u σ => σ.settle u r.coordinator.config.dispatchTimeout m.clock) r (r.settle m) ∧
      (r.settle m).Attended ∧ (r.settle m).Ahead m := by
  have hlater : Becomes (m.clock + 1)
      (fun _ σ => { σ with dues := σ.dues.later m.clock }) r
      { r with agenda := r.agenda.later m.clock } := by
    refine ⟨⟨sane.linked, sane.tickets, sane.told⟩, fun u => ?_, rfl, rfl, rfl,
      fun e he => Or.inl (List.mem_filter.1 he).1⟩
    simp only [scene, Agenda.later, List.filter_filter, Bool.and_comm]
    rfl
  have hpoll := becomes_pollAll (b := m.clock + 1) (m := m) hlater.sane
  have origins : ∀ e ∈ r.agenda.due m.clock, ∀ reaper origin, e = .sweep reaper origin →
      origin ≤ m.clock := by
    intro e he reaper origin hsweep
    obtain ⟨entry, hentry, rfl⟩ := List.mem_map.1 he
    obtain ⟨hmem, hdue⟩ := List.mem_filter.1 hentry
    exact (rooted entry hmem reaper origin hsweep).trans (of_decide_eq_true hdue)
  obtain ⟨hundergo, hattended⟩ := becomes_undergo (m := m) hpoll.sane
    (attended_of_pollAll hlater.sane) (by rw [hpoll.config]) origins
  refine ⟨(hlater.trans (hpoll.trans hundergo)).congr fun u => ?_, hattended, fun e he => ?_⟩
  · rw [Scene.settle, due_scene]
    rfl
  · rcases (hpoll.trans hundergo).agenda e he with hold | ⟨hnew, hrooted⟩
    · obtain ⟨hmem, hlt⟩ := List.mem_filter.1 hold
      exact ⟨of_decide_eq_true hlt, rooted e hmem⟩
    · exact ⟨hnew, hrooted⟩

end Deeds

end Conclave.Rehearsal

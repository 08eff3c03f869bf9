import Conclave.Proofs.Deeds

namespace Conclave.Rehearsal

inductive Passage (rule : Rehearsal → Deed → Prop) (m : Moment) (r : Rehearsal) :
    List (Nat × Deed) → Moment → Rehearsal → Prop
  | begin : Passage rule m r [] m r
  | due {past : List (Nat × Deed)} {m' : Moment} {r' : Rehearsal}
      (before : Passage rule m r past m' r') (t : Nat) (next : r'.agenda.next? = some t)
      (later : m'.clock < t) :
      Passage rule m r past { m' with clock := t } (r'.settle { m' with clock := t })
  | idle {past : List (Nat × Deed)} {m' : Moment} {r' : Rehearsal}
      (before : Passage rule m r past m' r') (m'' : Moment) (later : m'.clock ≤ m''.clock)
      (quiet : ∀ e ∈ r'.agenda.entries, m''.clock < e.1) : Passage rule m r past m'' r'
  | deed {past : List (Nat × Deed)} {m' : Moment} {r' : Rehearsal}
      (before : Passage rule m r past m' r') (d : Deed) (allowed : rule r' d) :
      Passage rule m r ((m'.clock, d) :: past) m' (d.perform m' r')

def Sparing (s : SessionId) (r : Rehearsal) (d : Deed) : Prop := ¬ d.disturbs s r

section Passage

variable {rule : Rehearsal → Deed → Prop} {m m' m'' : Moment} {r r' r'' : Rehearsal}
  {past later : List (Nat × Deed)}

theorem Passage.trans (passage : Passage rule m r past m' r')
    (passage' : Passage rule m' r' later m'' r'') :
    Passage rule m r (later ++ past) m'' r'' := by
  induction passage' with
  | begin => exact passage
  | due _ t next later ih => exact ih.due t next later
  | idle _ m'' later quiet ih => exact ih.idle m'' later quiet
  | deed _ d allowed ih => exact ih.deed d allowed

theorem next_le {t : Nat} (next : r.agenda.next? = some t) : ∀ e ∈ r.agenda.entries, t ≤ e.1 :=
  fun e he => (List.min?_eq_some_iff.1 next).2 e.1 (List.mem_map_of_mem he)

theorem orderly_new {app : App} {config : Config} {registry : Registry}
    (h : app.coordinator = .new config registry) (script : Script) (m : Moment) :
    (new app script).Orderly m := by
  have coordinator : (new app script).coordinator = .new config registry := h
  refine ⟨⟨coordinator ▸ Coordinator.linked_new config registry, ?_, ?_⟩, fun u => ?_, ?_,
    fun n _ => ⟨⟨?_, rfl, ?_⟩, ?_⟩⟩
  · intro e he
    cases he
  · intro e he
    cases he
  · intro hreceived
    cases hreceived
  · intro e he
    cases he
  · rw [scene, coordinator]
    rfl
  · intro e he
    cases he
  · intro hheld
    cases hheld

theorem Orderly.due (orderly : r.Orderly m) {t : Nat} :
    (r.settle { m with clock := t }).Orderly { m with clock := t } :=
  (orderly_settle orderly.sane (fun e he => (orderly.ahead e he).2) orderly.unheard).1

theorem Orderly.idle (orderly : r.Orderly m) (quiet : ∀ e ∈ r.agenda.entries, m'.clock < e.1) :
    r.Orderly m' :=
  ⟨orderly.sane, orderly.attended, fun e he => ⟨quiet e he, (orderly.ahead e he).2⟩,
    orderly.unheard⟩

theorem Passage.orderly (passage : Passage rule m r past m' r') (orderly : r.Orderly m) :
    r'.Orderly m' := by
  induction passage with
  | begin => exact orderly
  | due _ t _ _ ih => exact ih.due
  | idle _ m'' _ quiet ih => exact ih.idle quiet
  | deed _ d _ ih => exact (acts_perform ih d).orderly

theorem passage_runUntil (done : Rehearsal → Bool) (horizon : Nat) (m : Moment) (r : Rehearsal) :
    Passage rule m r [] (r.runUntil done horizon m).1 (r.runUntil done horizon m).2 := by
  induction m, r using runUntil.induct done horizon with
  | case1 m r hdone =>
      rw [runUntil, if_pos hdone]
      exact .begin
  | case2 m r hdone hnext =>
      rw [runUntil, if_neg hdone, hnext]
      exact .begin
  | case3 m r hdone t hnext hlater m' ih =>
      rw [runUntil, if_neg hdone, hnext]
      simp only [if_pos hlater]
      exact (Passage.begin.due t hnext hlater.1).trans ih
  | case4 m r hdone t hnext hlater =>
      rw [runUntil, if_neg hdone, hnext]
      simp only [if_neg hlater]
      exact .begin

theorem later_of_runUntil {horizon : Nat} {m : Moment} {r : Rehearsal} (orderly : r.Orderly m)
    (le : m.clock ≤ horizon) :
    (r.runUntil (fun _ => false) horizon m).1.clock ≤ horizon ∧
      ∀ e ∈ (r.runUntil (fun _ => false) horizon m).2.agenda.entries, horizon < e.1 := by
  induction m, r using runUntil.induct (fun _ => false) horizon with
  | case1 m r hdone => cases hdone
  | case2 m r hdone hnext =>
      rw [runUntil, if_neg hdone, hnext]
      refine ⟨le, fun e he => ?_⟩
      rw [Agenda.next?, List.min?_eq_none_iff, List.map_eq_nil_iff] at hnext
      rw [hnext] at he
      cases he
  | case3 m r hdone t hnext hlater m' ih =>
      rw [runUntil, if_neg hdone, hnext]
      simp only [if_pos hlater]
      exact ih orderly.due hlater.2
  | case4 m r hdone t hnext hlater =>
      rw [runUntil, if_neg hdone, hnext]
      simp only [if_neg hlater]
      refine ⟨le, fun e he => ?_⟩
      have hle := next_le hnext e he
      obtain ⟨e', he', rfl⟩ := List.mem_map.1 (List.min?_eq_some_iff.1 hnext).1
      have := (orderly.ahead e' he').1
      omega

theorem passage_elapse (orderly : r.Orderly m) (millis : Nat) :
    Passage rule m r [] (r.elapse millis m).1 (r.elapse millis m).2 := by
  obtain ⟨le, later⟩ := later_of_runUntil orderly (Nat.le_add_right m.clock millis)
  exact (passage_runUntil (fun _ => false) (m.clock + millis) m r).idle
    { (r.runUntil (fun _ => false) (m.clock + millis) m).1 with clock := m.clock + millis } le later

theorem Passage.keeps (passage : Passage rule m r past m' r') (orderly : r.Orderly m) :
    r'.coordinator.config = r.coordinator.config ∧ r.minted ≤ r'.minted := by
  induction passage with
  | begin => exact ⟨rfl, Nat.le_refl _⟩
  | due before t _ _ ih =>
      have horderly := before.orderly orderly
      obtain ⟨-, config, minted, -⟩ := orderly_settle horderly.sane
        (fun e he => (horderly.ahead e he).2) horderly.unheard
      exact ⟨config.trans ih.1, ih.2.trans_eq minted.symm⟩
  | idle _ _ _ _ ih => exact ih
  | deed before d _ ih =>
      have acts := acts_perform (before.orderly orderly) d
      exact ⟨acts.config.trans ih.1, ih.2.trans acts.minted⟩

theorem Passage.follow {n : Nat} {P : List (Nat × Deed) → Nat → Scene → Prop}
    (passage : Passage (Sparing (named n)) m r past m' r') (orderly : r.Orderly m)
    (hn : n ≤ r.minted) (begins : P [] m.clock (r.scene (named n)))
    (due : ∀ past clock t σ, P past clock σ → σ.Rests (named n) → clock < t →
      (∀ e ∈ σ.dues.entries, t ≤ e.1) →
      P past t (σ.settle (named n) r.coordinator.config.dispatchTimeout t))
    (idle : ∀ past clock t σ, P past clock σ → clock ≤ t → (∀ e ∈ σ.dues.entries, t < e.1) →
      P past t σ)
    (deed : ∀ past clock d σ, P past clock σ → σ.Rests (named n) →
      (∀ e ∈ σ.dues.entries, clock < e.1) →
      P ((clock, d) :: past) clock ((σ.hear (named n) d).attend (named n))) :
    P past m'.clock (r'.scene (named n)) := by
  -- on the passage; a session is followed once it has been asked for, and no sparing deed is about it
  induction passage with
  | begin => exact begins
  | @due past m' r' before t next later ih =>
      have horderly := before.orderly orderly
      obtain ⟨-, -, -, scenes⟩ := orderly_settle (m := { m' with clock := t })
        horderly.sane (fun e he => (horderly.ahead e he).2) horderly.unheard
      rw [scenes, (before.keeps orderly).1]
      exact due past m'.clock t _ ih (horderly.attended _) later fun e he =>
        next_le next e (List.mem_filter.1 he).1
  | idle _ m'' later quiet ih =>
      exact idle _ _ _ _ ih later fun e he => quiet e (List.mem_filter.1 he).1
  | @deed past m' r' before d allowed ih =>
      have horderly := before.orderly orderly
      rw [(acts_perform horderly d).scenes n (hn.trans (before.keeps orderly).2) allowed]
      exact deed past m'.clock d _ ih (horderly.attended _) (horderly.dues _)

end Passage

end Conclave.Rehearsal

import Conclave.Proofs.Scenes

namespace Conclave.Rehearsal

abbrev Outcome := Except Failure CeremonyResult

def Event.outcome? (s : SessionId) (action : Action) : Event → Option Outcome
  | .publication _ result => some (Coordinator.resultOutcome s action result)
  | .deadline _ => some (.error (.timeout s))
  | .withdrawal _ => some (.error (.cancelled s))
  | _ => none

def Foremost (entries : Nat → Outcome → Prop) (clock : Nat) (outcome : Outcome) : Prop :=
  ∃ t, entries t outcome ∧ t ≤ clock ∧ ∀ t' outcome', entries t' outcome' → t ≤ t'

theorem Foremost.later {entries : Nat → Outcome → Prop} {clock clock' : Nat} {outcome : Outcome}
    (h : Foremost entries clock outcome) (le : clock ≤ clock') :
    Foremost entries clock' outcome := by
  obtain ⟨t, entry, ht, first⟩ := h
  exact ⟨t, entry, ht.trans le, first⟩

theorem Foremost.grow {entries entries' new : Nat → Outcome → Prop} {clock : Nat}
    {outcome : Outcome} (h : Foremost entries clock outcome)
    (grown : ∀ t o, entries' t o ↔ entries t o ∨ new t o) (late : ∀ t o, new t o → clock ≤ t) :
    Foremost entries' clock outcome := by
  obtain ⟨t, entry, ht, first⟩ := h
  refine ⟨t, (grown t outcome).2 (Or.inl entry), ht, fun t' o' entry' => ?_⟩
  rcases (grown t' o').1 entry' with hold | hnew
  · exact first t' o' hold
  · exact ht.trans (late t' o' hnew)

structure Ledger (s : SessionId) (action : Action) (entries : Nat → Outcome → Prop) (clock : Nat)
    (now : List Event) (dues : Agenda Event) (mail : Option Outcome) : Prop where
  ahead : ∀ e ∈ dues.entries, clock < e.1
  known : ∀ t e outcome, (t, e) ∈ dues.entries → e.outcome? s action = some outcome →
    entries t outcome
  complete : ∀ t outcome, entries t outcome → clock < t →
    ∃ e, (t, e) ∈ dues.entries ∧ e.outcome? s action = some outcome
  present : ∀ e ∈ now, ∀ outcome, e.outcome? s action = some outcome → entries clock outcome
  pending : mail = none → ∀ t outcome, entries t outcome →
    clock < t ∨ t = clock ∧ ∃ e ∈ now, e.outcome? s action = some outcome
  settled : ∀ outcome, mail = some outcome → Foremost entries clock outcome

namespace Ledger

variable {s : SessionId} {action : Action} {entries entries' : Nat → Outcome → Prop}
  {clock t : Nat} {now : List Event} {dues : Agenda Event} {mail : Option Outcome} {e : Event}
  {outcome : Outcome}

theorem le_of_entry (h : Ledger s action entries clock now dues none) {t' : Nat}
    (entry : entries t' outcome) : clock ≤ t' := by
  rcases h.pending rfl t' outcome entry with hlt | ⟨rfl, -⟩
  · exact Nat.le_of_lt hlt
  · exact Nat.le_refl _

theorem read (h : Ledger s action entries clock (e :: now) dues mail)
    (brings : e.outcome? s action = some outcome) :
    Ledger s action entries clock now dues (mail.orElse fun _ => some outcome) := by
  refine ⟨h.ahead, h.known, h.complete, fun d hd => h.present d (List.mem_cons_of_mem e hd), ?_, ?_⟩
  · intro none
    cases mail <;> cases none
  · intro o ho
    cases mail with
    | some _ => exact h.settled o ho
    | none =>
        obtain rfl : outcome = o := Option.some.inj ho
        exact ⟨clock, h.present e List.mem_cons_self outcome brings, Nat.le_refl _,
          fun _ _ => h.le_of_entry⟩

theorem skip (h : Ledger s action entries clock (e :: now) dues mail)
    (silent : e.outcome? s action = none) : Ledger s action entries clock now dues mail := by
  refine ⟨h.ahead, h.known, h.complete, fun d hd => h.present d (List.mem_cons_of_mem e hd), ?_,
    h.settled⟩
  intro none t' outcome' entry
  refine (h.pending none t' outcome' entry).imp_right fun ⟨ht, d, hd, brings⟩ => ⟨ht, d, ?_, brings⟩
  rcases List.mem_cons.1 hd with rfl | hd
  · rw [silent] at brings
    cases brings
  · exact hd

theorem split (ahead : ∀ e ∈ dues.entries, t ≤ e.1)
    (known : ∀ t' e outcome, (t', e) ∈ dues.entries → e.outcome? s action = some outcome →
      entries t' outcome)
    (complete : ∀ t' outcome, entries t' outcome → t < t' →
      ∃ e, (t', e) ∈ dues.entries ∧ e.outcome? s action = some outcome)
    (pending : mail = none → ∀ t' outcome, entries t' outcome →
      ∃ e, (t', e) ∈ dues.entries ∧ e.outcome? s action = some outcome)
    (settled : ∀ outcome, mail = some outcome → Foremost entries t outcome) :
    Ledger s action entries t (dues.due t) (dues.later t) mail := by
  have due : ∀ {t' e}, (t', e) ∈ dues.entries → t' ≤ t → e ∈ dues.due t := by
    intro t' e he hle
    exact List.mem_map.2 ⟨(t', e), List.mem_filter.2 ⟨he, decide_eq_true hle⟩, rfl⟩
  have later : ∀ {t' e}, (t', e) ∈ dues.entries → t < t' → (t', e) ∈ (dues.later t).entries := by
    intro t' e he hlt
    exact List.mem_filter.2 ⟨he, decide_eq_true hlt⟩
  refine ⟨?_, ?_, ?_, ?_, ?_, settled⟩
  · intro e he
    exact of_decide_eq_true (List.mem_filter.1 he).2
  · intro t' e outcome he
    exact known t' e outcome (List.mem_filter.1 he).1
  · intro t' outcome entry hlt
    obtain ⟨e, he, brings⟩ := complete t' outcome entry hlt
    exact ⟨e, later he hlt, brings⟩
  · intro e he outcome brings
    obtain ⟨entry, hentry, rfl⟩ := List.mem_map.1 he
    obtain ⟨hmem, hle⟩ := List.mem_filter.1 hentry
    have same : entry.1 = t := Nat.le_antisymm (of_decide_eq_true hle) (ahead entry hmem)
    exact same ▸ known entry.1 entry.2 outcome hmem brings
  · intro none t' outcome entry
    obtain ⟨e, he, brings⟩ := pending none t' outcome entry
    rcases Nat.lt_or_eq_of_le (ahead _ he) with hlt | heq
    · exact Or.inl hlt
    · exact Or.inr ⟨heq.symm, e, due he (Nat.le_of_eq heq.symm), brings⟩

theorem foreseen (h : Ledger s action entries clock [] dues mail) (none : mail = none) {t' : Nat}
    (entry : entries t' outcome) :
    ∃ e, (t', e) ∈ dues.entries ∧ e.outcome? s action = some outcome := by
  rcases h.pending none t' outcome entry with hlt | ⟨-, e, he, -⟩
  · exact h.complete t' outcome entry hlt
  · cases he

theorem pass (h : Ledger s action entries clock [] dues mail) (later : clock < t)
    (next : ∀ e ∈ dues.entries, t ≤ e.1) :
    Ledger s action entries t (dues.due t) (dues.later t) mail :=
  split next h.known (fun t' outcome entry hlt => h.complete t' outcome entry (later.trans hlt))
    (fun none _ _ entry => h.foreseen none entry)
    fun outcome ho => (h.settled outcome ho).later (Nat.le_of_lt later)

theorem idle (h : Ledger s action entries clock [] dues mail) (le : clock ≤ t)
    (quiet : ∀ e ∈ dues.entries, t < e.1) : Ledger s action entries t [] dues mail := by
  refine ⟨quiet, h.known, ?_, ?_, ?_, fun outcome ho => (h.settled outcome ho).later le⟩
  · intro t' outcome entry hlt
    exact h.complete t' outcome entry (Nat.lt_of_le_of_lt le hlt)
  · intro e he
    cases he
  · intro none t' outcome entry
    obtain ⟨e, he, -⟩ := h.foreseen none entry
    exact Or.inl (quiet _ he)

theorem enter (h : Ledger s action entries clock [] dues mail)
    (grown : ∀ t o, entries' t o ↔ entries t o ∨ t = clock ∧ o = outcome) :
    Ledger s action entries' clock [] dues (mail.orElse fun _ => some outcome) := by
  refine ⟨h.ahead, ?_, ?_, ?_, ?_, ?_⟩
  · intro t e o he brings
    exact (grown t o).2 (Or.inl (h.known t e o he brings))
  · intro t o entry hlt
    rcases (grown t o).1 entry with hold | ⟨rfl, -⟩
    · exact h.complete t o hold hlt
    · exact absurd hlt (Nat.lt_irrefl _)
  · intro e he
    cases he
  · intro none
    cases mail <;> cases none
  · intro o ho
    cases mail with
    | some _ => exact (h.settled o ho).grow grown fun t o' new => Nat.le_of_eq new.1.symm
    | none =>
        obtain rfl : outcome = o := Option.some.inj ho
        refine ⟨clock, (grown clock outcome).2 (Or.inr ⟨rfl, rfl⟩), Nat.le_refl _, ?_⟩
        intro t' o' entry'
        rcases (grown t' o').1 entry' with hold | ⟨rfl, -⟩
        · exact h.le_of_entry hold
        · exact Nat.le_refl _

theorem congr (h : Ledger s action entries clock now dues mail)
    (same : ∀ t o, entries' t o ↔ entries t o) :
    Ledger s action entries' clock now dues mail := by
  have hsame : entries' = entries := funext fun t => funext fun o => propext (same t o)
  exact hsame ▸ h

theorem plan (h : Ledger s action entries clock now dues mail) {due : Nat} (later : clock < due)
    (brings : e.outcome? s action = some outcome)
    (grown : ∀ t o, entries' t o ↔ entries t o ∨ t = due ∧ o = outcome) :
    Ledger s action entries' clock now (dues.add due e) mail := by
  have added : ∀ {d}, d ∈ (dues.add due e).entries ↔ d ∈ dues.entries ∨ d = (due, e) := by
    intro d
    exact List.mem_append.trans (or_congr_right List.mem_singleton)
  refine ⟨?_, ?_, ?_, ?_, ?_, ?_⟩
  · intro d hd
    rcases added.1 hd with hold | rfl
    · exact h.ahead d hold
    · exact later
  · intro t d o hd ho
    rcases added.1 hd with hold | hnew
    · exact (grown t o).2 (Or.inl (h.known t d o hold ho))
    · obtain ⟨rfl, rfl⟩ := Prod.mk.inj hnew
      exact (grown t o).2 (Or.inr ⟨rfl, Option.some.inj (ho.symm.trans brings)⟩)
  · intro t o entry hlt
    rcases (grown t o).1 entry with hold | ⟨rfl, rfl⟩
    · obtain ⟨d, hd, ho⟩ := h.complete t o hold hlt
      exact ⟨d, added.2 (Or.inl hd), ho⟩
    · exact ⟨e, added.2 (Or.inr rfl), brings⟩
  · intro d hd o ho
    exact (grown clock o).2 (Or.inl (h.present d hd o ho))
  · intro none t o entry
    rcases (grown t o).1 entry with hold | ⟨rfl, -⟩
    · exact h.pending none t o hold
    · exact Or.inl later
  · intro o ho
    exact (h.settled o ho).grow grown fun t o' new => new.1 ▸ Nat.le_of_lt later

theorem append (h : Ledger s action entries clock now dues mail)
    (brings : e.outcome? s action = some outcome)
    (grown : ∀ t o, entries' t o ↔ entries t o ∨ t = clock ∧ o = outcome) :
    Ledger s action entries' clock (now ++ [e]) dues mail := by
  refine ⟨h.ahead, ?_, ?_, ?_, ?_, ?_⟩
  · intro t d o hd ho
    exact (grown t o).2 (Or.inl (h.known t d o hd ho))
  · intro t o entry hlt
    rcases (grown t o).1 entry with hold | ⟨rfl, -⟩
    · exact h.complete t o hold hlt
    · exact absurd hlt (Nat.lt_irrefl _)
  · intro d hd o ho
    rcases List.mem_append.1 hd with hold | hnew
    · exact (grown clock o).2 (Or.inl (h.present d hold o ho))
    · obtain rfl := List.mem_singleton.1 hnew
      exact (grown clock o).2 (Or.inr ⟨rfl, Option.some.inj (ho.symm.trans brings)⟩)
  · intro none t o entry
    rcases (grown t o).1 entry with hold | ⟨rfl, rfl⟩
    · exact (h.pending none t o hold).imp_right fun ⟨ht, d, hd, ho⟩ =>
        ⟨ht, d, List.mem_append_left _ hd, ho⟩
    · exact Or.inr ⟨rfl, e, List.mem_append_right _ (List.mem_singleton.2 rfl), brings⟩
  · intro o ho
    exact (h.settled o ho).grow grown fun t o' new => Nat.le_of_eq new.1.symm

theorem opening (results : List CeremonyResult)
    (grown : ∀ t o, entries t o ↔ ∃ result ∈ results, t = clock ∧
      o = Coordinator.resultOutcome s action result) :
    Ledger s action entries clock [] .empty
      (results.head?.map (Coordinator.resultOutcome s action)) := by
  refine ⟨?_, ?_, ?_, ?_, ?_, ?_⟩
  · intro e he
    cases he
  · intro t e outcome he
    cases he
  · intro t outcome entry hlt
    obtain ⟨_, -, rfl, -⟩ := (grown t outcome).1 entry
    exact absurd hlt (Nat.lt_irrefl _)
  · intro e he
    cases he
  · intro silent t outcome entry
    obtain ⟨result, hresult, -⟩ := (grown t outcome).1 entry
    cases results with
    | nil => cases hresult
    | cons _ _ => cases silent
  · intro outcome first
    cases results with
    | nil => cases first
    | cons result rest =>
        obtain rfl : Coordinator.resultOutcome s action result = outcome := Option.some.inj first
        refine ⟨clock, (grown _ _).2 ⟨result, List.mem_cons_self, rfl, rfl⟩, Nat.le_refl _, ?_⟩
        intro t o entry
        obtain ⟨_, -, rfl, -⟩ := (grown t o).1 entry
        exact Nat.le_refl _

theorem unmoved (h : Ledger s action entries clock [] .empty mail)
    (silent : ∀ e ∈ dues.entries, e.2.outcome? s action = none) :
    Ledger s action entries clock (dues.due clock) (dues.later clock) mail := by
  refine ⟨fun e he => of_decide_eq_true (List.mem_filter.1 he).2, ?_, ?_, ?_, ?_, h.settled⟩
  · intro t e outcome he brings
    rw [silent _ (List.mem_filter.1 he).1] at brings
    cases brings
  · intro t outcome entry hlt
    obtain ⟨e, he, -⟩ := h.complete t outcome entry hlt
    cases he
  · intro e he outcome brings
    obtain ⟨entry, hentry, rfl⟩ := List.mem_map.1 he
    rw [silent entry (List.mem_filter.1 hentry).1] at brings
    cases brings
  · intro none t outcome entry
    obtain ⟨e, he, -⟩ := h.foreseen none entry
    cases he

end Ledger

end Conclave.Rehearsal

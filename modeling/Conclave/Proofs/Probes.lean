import Conclave.Proofs.Registry

namespace Conclave

theorem Timestamp.not_before_self (t : Timestamp) : t.before t = false := by simp [before]

namespace Registry

def reached : List (Timestamp × Operation) → Registry
  | [] => empty
  | (now, op) :: past => ((reached past).apply now op).2

def stamps (r : Registry) (now : Timestamp) : Operation → Bool
  | .register _ _ => true
  | .report id _ _ => r.contains id
  | .probe id observed (.reachable load) => (r.applyProbe now id observed (.reachable load)).1
  | _ => false

def readings : List (Timestamp × Operation) → List Timestamp
  | [] => []
  | (now, op) :: past => if (reached past).stamps now op then now :: readings past else readings past

def Advancing (past : List (Timestamp × Operation)) : Prop :=
  (readings past).Pairwise fun newer older => older.before newer = true

instance (past : List (Timestamp × Operation)) : Decidable (Advancing past) :=
  inferInstanceAs (Decidable (List.Pairwise _ _))

def Renews (r : Registry) (now : Timestamp) (id : NodeId) : Operation → Prop
  | .register k _ => k = id
  | .report k _ _ => k = id
  | .probe k observed (.reachable load) =>
      k = id ∧ (r.applyProbe now k observed (.reachable load)).1 = true
  | _ => False

def Unrenewed (id : NodeId) (earlier : List (Timestamp × Operation)) :
    List (Timestamp × Operation) → Prop
  | [] => True
  | (now, op) :: later =>
      ¬ Renews (reached (later ++ earlier)) now id op ∧ Unrenewed id earlier later

section Change

variable {r : Registry} {id k : NodeId} {applies : Node → Bool} {f : Node → Node} {n : Node}

theorem change_applied :
    (r.change id applies f).1 = true ↔ ∃ n, r.get? id = some n ∧ applies n = true := by
  unfold change
  cases r.get? id with
  | none => simp
  | some n => cases h : applies n <;> simp [h]

theorem change_of_refused (h : (r.change id applies f).1 = false) : (r.change id applies f).2 = r := by
  unfold change at h ⊢
  split
  · rfl
  · rename_i n hn
    split
    · rename_i happlies
      rw [hn] at h
      simp [happlies] at h
    · rfl

theorem seen_of_change (h : (r.change id applies f).2.get? k = some n)
    (keeps : ∀ m, (f m).lastSeen = m.lastSeen) :
    ∃ m, r.get? k = some m ∧ m.lastSeen = n.lastSeen := by
  rw [get?_change] at h
  split at h
  · rename_i hk
    obtain ⟨m, hm, rfl⟩ := Option.map_eq_some_iff.1 h
    refine ⟨m, hk ▸ hm, ?_⟩
    split
    · exact (keeps m).symm
    · rfl
  · exact ⟨n, h, rfl⟩

end Change

section Seen

variable {r : Registry} {now : Timestamp} {op : Operation} {id : NodeId} {n : Node}

theorem seen_apply (h : (r.apply now op).2.get? id = some n) :
    (Renews r now id op ∧ r.stamps now op = true ∧ n.lastSeen = now) ∨
      ¬ Renews r now id op ∧ ∃ m, r.get? id = some m ∧ m.lastSeen = n.lastSeen := by
  cases op with
  | register k address =>
      rw [apply, get?_register] at h
      split at h
      · rename_i hk
        cases h
        exact Or.inl ⟨hk.symm, rfl, rfl⟩
      · rename_i hk
        exact Or.inr ⟨fun he => hk he.symm, n, h, rfl⟩
  | deregister k =>
      rw [apply, get?_deregister] at h
      split at h
      · cases h
      · exact Or.inr ⟨not_false, n, h, rfl⟩
  | report k load status =>
      rw [apply, report, get?_change] at h
      split at h
      · rename_i hk
        obtain ⟨m, hm, rfl⟩ := Option.map_eq_some_iff.1 h
        exact Or.inl ⟨hk.symm, contains_iff.2 ⟨m, hm⟩, rfl⟩
      · rename_i hk
        exact Or.inr ⟨fun he => hk he.symm, n, h, rfl⟩
  | probe k observed verdict =>
      cases verdict with
      | reachable load =>
          rw [apply, applyProbe, get?_change] at h
          split at h
          · rename_i hk
            obtain ⟨m, hm, rfl⟩ := Option.map_eq_some_iff.1 h
            by_cases happlies : probeApplies observed m = true
            · have hcounts : (r.applyProbe now k observed (.reachable load)).1 = true :=
                change_applied.2 ⟨m, hm, happlies⟩
              exact Or.inl ⟨⟨hk.symm, hcounts⟩, hcounts, by rw [if_pos happlies]; rfl⟩
            · refine Or.inr ⟨?_, m, hk ▸ hm, by rw [if_neg happlies]⟩
              rintro ⟨-, hcounts⟩
              obtain ⟨m', hm', happlies'⟩ := change_applied.1 hcounts
              cases hm.symm.trans hm'
              exact happlies happlies'
          · rename_i hk
            exact Or.inr ⟨fun he => hk he.1.symm, n, h, rfl⟩
      | unreachable => exact Or.inr ⟨not_false, seen_of_change h fun _ => rfl⟩
  | busy k => exact Or.inr ⟨not_false, seen_of_change h fun _ => rfl⟩
  | idle k => exact Or.inr ⟨not_false, seen_of_change h fun _ => rfl⟩

end Seen

section History

variable {id : NodeId} {n copy : Node} {earlier later past : List (Timestamp × Operation)}

theorem readings_subset (later earlier : List (Timestamp × Operation)) :
    readings earlier ⊆ readings (later ++ earlier) := by
  induction later with
  | nil => exact fun _ ht => ht
  | cons e later ih =>
      rw [List.cons_append, readings]
      split
      · exact fun t ht => List.mem_cons_of_mem _ (ih ht)
      · exact ih

theorem lastSeen_mem_readings (h : (reached past).get? id = some n) :
    n.lastSeen ∈ readings past := by
  induction past generalizing n with
  | nil => cases h
  | cons e past ih =>
      rw [readings]
      rcases seen_apply h with ⟨-, hstamps, hnow⟩ | ⟨-, m, hm, hseen⟩
      · rw [if_pos hstamps, hnow]
        exact List.mem_cons_self
      · have hmem := hseen ▸ ih hm
        split
        · exact List.mem_cons_of_mem _ hmem
        · exact hmem

theorem seen_since (advancing : Advancing (later ++ earlier))
    (copied : (reached earlier).get? id = some copy)
    (h : (reached (later ++ earlier)).get? id = some n) :
    Unrenewed id earlier later ∧ n.lastSeen = copy.lastSeen ∨
      ¬ Unrenewed id earlier later ∧ copy.lastSeen.before n.lastSeen = true := by
  induction later generalizing n with
  | nil =>
      cases copied.symm.trans h
      exact Or.inl ⟨trivial, rfl⟩
  | cons e later ih =>
      have happly : ((reached (later ++ earlier)).apply e.1 e.2).2.get? id = some n := h
      rw [List.cons_append, Advancing, readings] at advancing
      rcases seen_apply happly with ⟨hrenews, hstamps, hnow⟩ | ⟨hkeeps, m, hm, hseen⟩
      -- A renewal writes a reading of the clock, and the moment in the copy is an earlier one.
      · rw [if_pos hstamps] at advancing
        rw [hnow]
        have hmem := readings_subset later earlier (lastSeen_mem_readings copied)
        exact Or.inr ⟨fun hun => hun.1 hrenews, (List.pairwise_cons.1 advancing).1 _ hmem⟩
      · have hadvancing : Advancing (later ++ earlier) := by
          split at advancing
          · exact (List.pairwise_cons.1 advancing).2
          · exact advancing
        rw [← hseen]
        rcases ih hadvancing hm with ⟨hun, hsame⟩ | ⟨hrenewed, hbefore⟩
        · exact Or.inl ⟨⟨hkeeps, hun⟩, hsame⟩
        · exact Or.inr ⟨fun hun => hrenewed hun.2, hbefore⟩

theorem probeApplies_iff {observed : Timestamp} :
    probeApplies observed n = true ↔
      n.status ≠ .maintenance ∧ observed.before n.lastSeen = false := by
  simp [probeApplies]

theorem probe_counts_iff (advancing : Advancing (later ++ earlier))
    (copied : (reached earlier).get? id = some copy) (now : Timestamp) (verdict : ProbeVerdict) :
    ((reached (later ++ earlier)).applyProbe now id copy.lastSeen verdict).1 = true ↔
      (∃ n, (reached (later ++ earlier)).get? id = some n ∧ n.status ≠ .maintenance) ∧
        Unrenewed id earlier later := by
  rw [applyProbe, change_applied]
  constructor
  · rintro ⟨n, hn, happlies⟩
    obtain ⟨hstatus, hfresh⟩ := probeApplies_iff.1 happlies
    refine ⟨⟨n, hn, hstatus⟩, ?_⟩
    rcases seen_since advancing copied hn with ⟨hun, -⟩ | ⟨-, hbefore⟩
    · exact hun
    · cases hfresh.symm.trans hbefore
  · rintro ⟨⟨n, hn, hstatus⟩, hun⟩
    refine ⟨n, hn, probeApplies_iff.2 ⟨hstatus, ?_⟩⟩
    rcases seen_since advancing copied hn with ⟨-, hsame⟩ | ⟨hrenewed, -⟩
    · rw [hsame, Timestamp.not_before_self]
    · exact absurd hun hrenewed

end History

section Verdict

variable {r : Registry} {now observed : Timestamp} {id k : NodeId} {verdict : ProbeVerdict} {n : Node}

theorem get?_applyProbe (applied : (r.applyProbe now id observed verdict).1 = true)
    (h : r.get? id = some n) :
    (r.applyProbe now id observed verdict).2.get? id = some (applyVerdict now n verdict) := by
  obtain ⟨m, hm, happlies⟩ := change_applied.1 applied
  cases h.symm.trans hm
  rw [applyProbe, get?_change, if_pos rfl, h, Option.map_some, if_pos happlies]

theorem get?_applyProbe_ne (h : k ≠ id) :
    (r.applyProbe now id observed verdict).2.get? k = r.get? k := by
  rw [applyProbe, get?_change, if_neg h]

theorem probe_keeps (h : r.get? k = some n) :
    ∃ m, (r.applyProbe now id observed verdict).2.get? k = some m ∧ m.address = n.address ∧
      m.activeTasks = n.activeTasks ∧ (n.status = .maintenance → m = n) := by
  by_cases hk : k = id
  · subst hk
    cases happlied : (r.applyProbe now k observed verdict).1 with
    | true =>
        obtain ⟨m, hm, happlies⟩ := change_applied.1 happlied
        cases h.symm.trans hm
        refine ⟨_, get?_applyProbe happlied h, ?_, ?_, ?_⟩
        · cases verdict <;> rfl
        · cases verdict <;> rfl
        · exact fun hstatus => absurd hstatus (probeApplies_iff.1 happlies).1
    | false =>
        have hsame : (r.applyProbe now k observed verdict).2 = r := change_of_refused happlied
        exact ⟨n, by rw [hsame, h], rfl, rfl, fun _ => rfl⟩
  · exact ⟨n, by rw [get?_applyProbe_ne hk, h], rfl, rfl, fun _ => rfl⟩

end Verdict

theorem probe_counts_iff_unrenewed {earlier later : List (Timestamp × Operation)} {id : NodeId}
    {copy : Node} (advancing : Advancing (later ++ earlier))
    (copied : (reached earlier).get? id = some copy) (now : Timestamp) (verdict : ProbeVerdict) :
    let r := reached (later ++ earlier)
    let probed := r.applyProbe now id copy.lastSeen verdict
    (probed.1 = true ↔
      (∃ n, r.get? id = some n ∧ n.status ≠ .maintenance) ∧ Unrenewed id earlier later) ∧
    (probed.1 = false → probed.2 = r) ∧
    (probed.1 = true → ∀ n, r.get? id = some n → probed.2.get? id = some
      (match verdict with
      | .unreachable => { n with status := .offline }
      | .reachable none => { n with status := .online, lastSeen := now }
      | .reachable (some load) =>
          { n with status := .online, lastSeen := now, load := load.clampUnit })) ∧
    ∀ (r : Registry) (now observed : Timestamp) (id k : NodeId) (verdict : ProbeVerdict),
      let probed := (r.applyProbe now id observed verdict).2
      probed.contains k = r.contains k ∧ (k ≠ id → probed.get? k = r.get? k) ∧
        ∀ n, r.get? k = some n → ∃ m, probed.get? k = some m ∧ m.address = n.address ∧
          m.activeTasks = n.activeTasks ∧ (n.status = .maintenance → m = n) := by
  intro r probed
  refine ⟨probe_counts_iff advancing copied now verdict, change_of_refused, fun applied n hn => ?_,
    fun r now observed id k verdict =>
      ⟨contains_change _ _ _ _ _, get?_applyProbe_ne, fun n => probe_keeps⟩⟩
  have hprobed := get?_applyProbe applied hn
  cases verdict with
  | unreachable => exact hprobed
  | reachable load => cases load <;> exact hprobed

def returned : List (Timestamp × Operation) :=
  [(⟨3, 0⟩, .register ⟨1⟩ "b"), (⟨2, 0⟩, .deregister ⟨1⟩)]

theorem probe_counts_iff_unrenewed_returned :
    Advancing (returned ++ [(⟨1, 0⟩, .register ⟨1⟩ "a")]) ∧
      (reached [(⟨1, 0⟩, .register ⟨1⟩ "a")]).get? ⟨1⟩ = some (.fresh ⟨1, 0⟩ ⟨1⟩ "a") ∧
      ¬ ((reached (returned ++ [(⟨1, 0⟩, .register ⟨1⟩ "a")])).applyProbe ⟨4, 0⟩ ⟨1⟩ ⟨1, 0⟩
        .unreachable).1 = true := by
  have advancing : Advancing (returned ++ [(⟨1, 0⟩, .register ⟨1⟩ "a")]) := by decide
  have copied : (reached [(⟨1, 0⟩, .register ⟨1⟩ "a")]).get? ⟨1⟩ =
      some (.fresh ⟨1, 0⟩ ⟨1⟩ "a") := rfl
  have hcounts := probe_counts_iff_unrenewed advancing copied ⟨4, 0⟩ .unreachable
  exact ⟨advancing, copied, fun applied => (hcounts.1.1 applied).2.1 rfl⟩

end Registry

end Conclave

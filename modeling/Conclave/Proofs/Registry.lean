import Conclave.Proofs.Keyed
import Conclave.Registry.Operation

namespace Conclave.Registry

def contains (r : Registry) (id : NodeId) : Bool := r.nodes.contains id

def tasks (r : Registry) (id : NodeId) : Nat :=
  ((r.get? id).map fun n => n.activeTasks.toNat).getD 0

def Named (r : Registry) : Prop := ∀ id n, r.get? id = some n → n.id = id

def after (r : Registry) (ops : List (Timestamp × Operation)) : Registry :=
  ops.foldl (fun r o => (r.apply o.1 o.2).2) r

theorem contains_eq (r : Registry) (id : NodeId) : r.contains id = (r.get? id).isSome := rfl

theorem contains_iff {r : Registry} {id : NodeId} :
    r.contains id = true ↔ ∃ n, r.get? id = some n := Keyed.contains_iff

theorem tasks_of_get? {r : Registry} {id : NodeId} {n : Node} (h : r.get? id = some n) :
    r.tasks id = n.activeTasks.toNat := by
  rw [tasks, h]
  rfl

theorem tasks_of_unknown {r : Registry} {id : NodeId} (h : r.contains id = false) :
    r.tasks id = 0 := by
  rw [tasks, get?, Keyed.contains_eq_false.1 h]
  rfl

theorem tasks_le (r : Registry) (id : NodeId) : r.tasks id ≤ taskLimit := by
  cases h : r.get? id with
  | none => simp [tasks, h]
  | some n =>
      rw [tasks_of_get? h, taskLimit]
      have := n.activeTasks.toNat_lt
      omega

theorem get?_register (now : Timestamp) (id k : NodeId) (address : String) (r : Registry) :
    (r.register now id address).get? k =
      if k = id then
        some { Node.fresh now id address with
          activeTasks := ((r.get? id).map Node.activeTasks).getD 0 }
      else r.get? k := Keyed.get?_insert r.nodes id k _

theorem get?_deregister (id k : NodeId) (r : Registry) :
    (r.deregister id).2.get? k = if k = id then none else r.get? k := Keyed.get?_erase r.nodes id k

theorem get?_change (id k : NodeId) (applies : Node → Bool) (f : Node → Node) (r : Registry) :
    (r.change id applies f).2.get? k =
      if k = id then (r.get? id).map fun n => if applies n then f n else n else r.get? k := by
  unfold change
  cases h : r.get? id with
  | none =>
      by_cases hk : k = id
      · simp [hk, h]
      · simp [hk]
  | some n =>
      by_cases ha : applies n
      · simp only [ha, if_true]
        have hm := Keyed.get?_modify r.nodes id k f
        change Keyed.get? _ _ = _
        rw [hm]
        by_cases hk : k = id
        · have h' : r.nodes.get? id = some n := h
          simp [hk, h', ha]
        · simp only [hk, if_false]
          rfl
      · by_cases hk : k = id
        · simp [hk, h, ha]
        · simp [hk, ha]

theorem contains_change (id k : NodeId) (applies : Node → Bool) (f : Node → Node) (r : Registry) :
    (r.change id applies f).2.contains k = r.contains k := by
  rw [contains_eq, contains_eq, get?_change]
  by_cases hk : k = id
  · simp [hk]
  · simp [hk]

theorem contains_register (now : Timestamp) (id k : NodeId) (address : String) (r : Registry) :
    (r.register now id address).contains k = (decide (k = id) || r.contains k) := by
  rw [contains_eq, contains_eq, get?_register]
  by_cases hk : k = id
  · simp [hk]
  · simp [hk]

theorem contains_deregister (id k : NodeId) (r : Registry) :
    (r.deregister id).2.contains k = (!decide (k = id) && r.contains k) := by
  rw [contains_eq, contains_eq, get?_deregister]
  by_cases hk : k = id
  · simp [hk]
  · simp [hk]

theorem tasks_register (now : Timestamp) (id k : NodeId) (address : String) (r : Registry) :
    (r.register now id address).tasks k = r.tasks k := by
  rw [tasks, tasks, get?_register]
  by_cases hk : k = id
  · subst hk
    cases r.get? k <;> simp
  · simp [hk]

theorem tasks_deregister (id k : NodeId) (r : Registry) :
    (r.deregister id).2.tasks k = if k = id then 0 else r.tasks k := by
  rw [tasks, tasks, get?_deregister]
  by_cases hk : k = id
  · simp [hk]
  · simp [hk]

theorem tasks_change (id k : NodeId) (applies : Node → Bool) {f : Node → Node} (r : Registry)
    (h : ∀ n, (f n).activeTasks = n.activeTasks) :
    (r.change id applies f).2.tasks k = r.tasks k := by
  rw [tasks, tasks, get?_change]
  by_cases hk : k = id
  · subst hk
    cases r.get? k with
    | none => simp
    | some n =>
        by_cases ha : applies n
        · simp [ha, h]
        · simp [ha]
  · simp [hk]

theorem countUp_toNat (n : UInt32) : (countUp n).toNat = min (n.toNat + 1) taskLimit := by
  have := n.toNat_lt
  unfold countUp taskLimit
  split
  · rw [UInt32.toNat_add]
    simp only [UInt32.reduceToNat]
    omega
  · omega

theorem tasks_markBusy (id k : NodeId) (r : Registry) :
    (r.markBusy id).2.tasks k =
      if k = id ∧ r.contains id then min (r.tasks k + 1) taskLimit else r.tasks k := by
  rw [tasks, tasks, markBusy, get?_change]
  by_cases hk : k = id
  · subst hk
    cases h : r.get? k with
    | none =>
        have : r.contains k = false := Keyed.contains_eq_false.2 h
        simp [this]
    | some n => simp [contains_iff.2 ⟨n, h⟩, countUp_toNat]
  · simp [hk]

theorem tasks_markIdle (id k : NodeId) (r : Registry) :
    (r.markIdle id).2.tasks k = r.tasks k - (decide (k = id)).toNat := by
  rw [tasks, tasks, markIdle, get?_change]
  by_cases hk : k = id
  · subst hk
    cases h : r.get? k with
    | none => simp
    | some n =>
        by_cases hn : 0 < n.activeTasks
        · have hpos : 0 < n.activeTasks.toNat := UInt32.lt_iff_toNat_lt.1 hn
          have hle : (1 : UInt32) ≤ n.activeTasks := UInt32.le_iff_toNat_le.2 hpos
          simp [hn, UInt32.toNat_sub_of_le _ _ hle]
        · have : n.activeTasks.toNat = 0 := by
            simpa [UInt32.lt_iff_toNat_lt] using hn
          simp [hn, this]
  · simp [hk]

theorem contains_apply {now : Timestamp} {op : Operation} {r : Registry} {k : NodeId}
    (h : (r.apply now op).2.contains k ≠ r.contains k) :
    (∃ address, op = .register k address) ∨ op = .deregister k := by
  cases op with
  | register id address =>
      refine Or.inl ⟨address, ?_⟩
      by_cases hk : k = id
      · rw [hk]
      · exact absurd (by simp [apply, contains_register, hk]) h
  | deregister id =>
      refine Or.inr ?_
      by_cases hk : k = id
      · rw [hk]
      · exact absurd (by simp [apply, contains_deregister, hk]) h
  | report id load status => exact absurd (contains_change _ _ _ _ _) h
  | probe id observed verdict => exact absurd (contains_change _ _ _ _ _) h
  | busy id => exact absurd (contains_change _ _ _ _ _) h
  | idle id => exact absurd (contains_change _ _ _ _ _) h

def Operation.marks : Operation → Bool
  | .busy _ => true
  | .idle _ => true
  | _ => false

theorem tasks_apply {now : Timestamp} {op : Operation} {r : Registry} {k : NodeId}
    (h : op.marks = false) :
    (r.apply now op).2.tasks k = if op = .deregister k then 0 else r.tasks k := by
  cases op with
  | register id address => simpa [apply] using tasks_register now id k address r
  | deregister id => simpa [apply, eq_comm] using tasks_deregister id k r
  | report id load status =>
      rw [if_neg (by simp)]
      exact tasks_change id k _ r fun _ => rfl
  | probe id observed verdict =>
      have hv : ∀ n, (applyVerdict now n verdict).activeTasks = n.activeTasks := by
        intro n
        cases verdict <;> rfl
      rw [if_neg (by simp)]
      exact tasks_change id k _ r hv
  | busy id => cases h
  | idle id => cases h

theorem markBusy_fst (id : NodeId) (r : Registry) : (r.markBusy id).1 = r.contains id := by
  unfold markBusy change
  cases h : r.get? id with
  | none => exact (Keyed.contains_eq_false.2 h).symm
  | some n => exact (contains_iff.2 ⟨n, h⟩).symm

theorem contains_markAll (ids : List NodeId) (k : NodeId) (r : Registry) :
    (markAll ids r).2.contains k = r.contains k := by
  induction ids generalizing r with
  | nil => rfl
  | cons id rest ih => exact (ih _).trans (contains_change _ _ _ _ _)

theorem markAll_fst (ids : List NodeId) (r : Registry) :
    (markAll ids r).1 = ids.filter r.contains := by
  induction ids generalizing r with
  | nil => rfl
  | cons id rest ih =>
      have hrest : rest.filter (r.markBusy id).2.contains = rest.filter r.contains :=
        List.filter_congr fun k _ => contains_change _ _ _ _ _
      have hstep : (markAll (id :: rest) r).1 =
          if (r.markBusy id).1 then id :: (markAll rest (r.markBusy id).2).1
          else (markAll rest (r.markBusy id).2).1 := rfl
      rw [hstep, markBusy_fst, ih, hrest, List.filter_cons]

theorem tasks_markAll {ids : List NodeId} (k : NodeId) (r : Registry) (h : ids.Nodup) :
    (markAll ids r).2.tasks k =
      if k ∈ (markAll ids r).1 then min (r.tasks k + 1) taskLimit else r.tasks k := by
  simp only [markAll_fst, List.mem_filter]
  induction ids generalizing r with
  | nil => simp [markAll]
  | cons id rest ih =>
      obtain ⟨hid, hrest⟩ := List.nodup_cons.1 h
      have hstep : (markAll (id :: rest) r).2 = (markAll rest (r.markBusy id).2).2 := rfl
      have hc : (r.markBusy id).2.contains k = r.contains k := contains_change _ _ _ _ _
      rw [hstep, ih _ hrest, hc, tasks_markBusy]
      by_cases hk : k = id
      · subst hk
        simp [hid]
      · simp [hk]

theorem contains_releaseAll (ids : List NodeId) (k : NodeId) (r : Registry) :
    (releaseAll ids r).contains k = r.contains k := by
  induction ids generalizing r with
  | nil => rfl
  | cons id rest ih => exact (ih _).trans (contains_change _ _ _ _ _)

theorem tasks_releaseAll {ids : List NodeId} (k : NodeId) (r : Registry) (h : ids.Nodup) :
    (releaseAll ids r).tasks k = r.tasks k - (decide (k ∈ ids)).toNat := by
  induction ids generalizing r with
  | nil => simp [releaseAll]
  | cons id rest ih =>
      obtain ⟨hid, hrest⟩ := List.nodup_cons.1 h
      rw [releaseAll, ih _ hrest, tasks_markIdle]
      by_cases hk : k = id
      · subst hk
        simp [hid]
      · simp [hk]

theorem named_empty : empty.Named := by
  intro id n h
  cases h

theorem named_change {id : NodeId} {applies : Node → Bool} {f : Node → Node} {r : Registry}
    (hr : r.Named) (hf : ∀ n, (f n).id = n.id) : (r.change id applies f).2.Named := by
  intro k n h
  rw [get?_change] at h
  split at h
  · rename_i hk
    subst hk
    obtain ⟨m, hm, rfl⟩ := Option.map_eq_some_iff.1 h
    split
    · exact (hf m).trans (hr k m hm)
    · exact hr k m hm
  · exact hr k n h

theorem named_apply {now : Timestamp} {op : Operation} {r : Registry} (hr : r.Named) :
    (r.apply now op).2.Named := by
  cases op with
  | register id address =>
      intro k n h
      rw [apply, get?_register] at h
      split at h
      · rename_i hk
        cases h
        exact hk.symm
      · exact hr k n h
  | deregister id =>
      intro k n h
      rw [apply, get?_deregister] at h
      split at h
      · cases h
      · exact hr k n h
  | report id load status => exact named_change hr fun _ => rfl
  | probe id observed verdict => exact named_change hr fun n => by cases verdict <;> rfl
  | busy id => exact named_change hr fun _ => rfl
  | idle id => exact named_change hr fun _ => rfl

theorem named_after {ops : List (Timestamp × Operation)} {r : Registry} (hr : r.Named) :
    (r.after ops).Named := by
  induction ops generalizing r with
  | nil => exact hr
  | cons o rest ih => exact ih (named_apply hr)

theorem named_markAll {ids : List NodeId} {r : Registry} (hr : r.Named) :
    (markAll ids r).2.Named := by
  induction ids generalizing r with
  | nil => exact hr
  | cons id rest ih => exact ih (named_change hr fun _ => rfl)

theorem named_releaseAll {ids : List NodeId} {r : Registry} (hr : r.Named) :
    (releaseAll ids r).Named := by
  induction ids generalizing r with
  | nil => exact hr
  | cons id rest ih => exact ih (named_change hr fun _ => rfl)

theorem nodup_ids {r : Registry} (hr : r.Named) : (r.nodes.values.map Node.id).Nodup := by
  have hkeys : r.nodes.values.map Node.id = r.nodes.entries.map Prod.fst := by
    simp only [Keyed.values, List.map_map]
    exact List.map_congr_left fun e he => hr e.1 e.2 (Keyed.mem_entries_iff.1 he)
  rw [hkeys]
  exact r.nodes.distinct

end Conclave.Registry

import Conclave.Keyed
import Mathlib.Data.List.Perm.Basic

namespace Conclave.Keyed

variable {κ ν : Type}

def count (p : κ → ν → Bool) (m : Keyed κ ν) : Nat := m.entries.countP fun e => p e.1 e.2

theorem eq_of_entries {m m' : Keyed κ ν} (h : m.entries = m'.entries) : m = m' := by
  cases m
  cases m'
  simp_all

theorem nodup_entries (m : Keyed κ ν) : m.entries.Nodup :=
  List.Pairwise.of_map Prod.fst (fun _ _ => mt (congrArg Prod.fst)) m.distinct

variable [DecidableEq κ]

theorem lookup_of_mem {l : List (κ × ν)} {k : κ} {v : ν} (hl : (l.map Prod.fst).Nodup)
    (h : (k, v) ∈ l) : lookup k l = some v := by
  induction l with
  | nil => simp at h
  | cons e rest ih =>
      simp only [List.map_cons, List.nodup_cons] at hl
      rcases List.mem_cons.1 h with he | hr
      · simp [lookup, ← he]
      · have hne : e.1 ≠ k := by
          intro he
          exact hl.1 (he ▸ List.mem_map_of_mem hr)
        simp [lookup, hne, ih hl.2 hr]

theorem mem_of_lookup {l : List (κ × ν)} {k : κ} {v : ν} (h : lookup k l = some v) :
    (k, v) ∈ l := by
  induction l with
  | nil => simp [lookup] at h
  | cons e rest ih =>
      simp only [lookup] at h
      split at h
      · rename_i he
        obtain rfl := Option.some.inj h
        exact List.mem_cons.2 (Or.inl (by rw [← he]))
      · exact List.mem_cons_of_mem _ (ih h)

theorem lookup_append (k : κ) (l l' : List (κ × ν)) :
    lookup k (l ++ l') = (lookup k l).or (lookup k l') := by
  induction l with
  | nil => rfl
  | cons e l ih =>
      rw [List.cons_append, lookup, lookup]
      split
      · rfl
      · exact ih

theorem mem_entries_iff {m : Keyed κ ν} {k : κ} {v : ν} :
    (k, v) ∈ m.entries ↔ m.get? k = some v :=
  ⟨lookup_of_mem m.distinct, mem_of_lookup⟩

theorem contains_iff {m : Keyed κ ν} {k : κ} : m.contains k = true ↔ ∃ v, m.get? k = some v := by
  rw [contains, Option.isSome_iff_exists]

theorem contains_eq_false {m : Keyed κ ν} {k : κ} : m.contains k = false ↔ m.get? k = none := by
  rw [contains, Option.isSome_eq_false_iff, Option.isNone_iff_eq_none]

theorem get?_filter (m : Keyed κ ν) (p : κ × ν → Bool) (k : κ) :
    (m.filter p).get? k = (m.get? k).filter fun v => p (k, v) := by
  cases h : m.get? k with
  | none =>
      rw [Option.filter_none, get?, lookup_eq_none]
      intro hk
      obtain ⟨e, he, rfl⟩ := List.mem_map.1 hk
      have := lookup_of_mem m.distinct (List.mem_filter.1 he).1
      rw [← get?, h] at this
      cases this
  | some v =>
      by_cases hp : p (k, v) = true
      · rw [Option.filter_some, if_pos hp]
        exact mem_entries_iff.1 (List.mem_filter.2 ⟨mem_entries_iff.2 h, hp⟩)
      · rw [Option.filter_some, if_neg hp, get?, lookup_eq_none]
        intro hk
        obtain ⟨e, he, rfl⟩ := List.mem_map.1 hk
        have hm := List.mem_filter.1 he
        have := lookup_of_mem m.distinct hm.1
        rw [← get?, h] at this
        obtain rfl := Option.some.inj this
        exact hp hm.2

theorem count_congr {p q : κ → ν → Bool} {m : Keyed κ ν}
    (h : ∀ k v, m.get? k = some v → p k v = q k v) : m.count p = m.count q :=
  List.countP_congr fun e he => by rw [h e.1 e.2 (mem_entries_iff.1 he)]

theorem count_pos {p : κ → ν → Bool} {m : Keyed κ ν} {k : κ} {v : ν} (h : m.get? k = some v)
    (hp : p k v = true) : 0 < m.count p :=
  List.countP_pos_iff.2 ⟨(k, v), mem_entries_iff.2 h, hp⟩

theorem entries_insert {m : Keyed κ ν} {k : κ} (v : ν) (h : m.get? k = none) :
    (m.insert k v).entries = m.entries ++ [(k, v)] := by
  unfold insert
  split
  · rename_i w hw
    rw [get?, hw] at h
    cases h
  · rfl

theorem count_insert {p : κ → ν → Bool} {m : Keyed κ ν} {k : κ} (v : ν) (h : m.get? k = none) :
    (m.insert k v).count p = m.count p + (p k v).toNat := by
  rw [count, entries_insert v h, List.countP_append, List.countP_singleton, count]
  cases p k v <;> rfl

theorem count_modify {p : κ → ν → Bool} {m : Keyed κ ν} {k : κ} {f : ν → ν}
    (h : ∀ v, p k (f v) = p k v) : (m.modify k f).count p = m.count p := by
  simp only [count, modify, List.countP_map]
  apply List.countP_congr
  intro e _
  by_cases he : e.1 = k
  · simp [touch, he, h]
  · simp [touch, he]

theorem mem_keys_iff {m : Keyed κ ν} {k : κ} : k ∈ m.keys ↔ m.contains k = true := by
  rw [contains_iff]
  constructor
  · intro hk
    obtain ⟨e, he, rfl⟩ := List.mem_map.1 hk
    exact ⟨e.2, mem_entries_iff.1 he⟩
  · rintro ⟨v, hv⟩
    exact List.mem_map_of_mem (mem_entries_iff.2 hv)

theorem mem_values_iff {m : Keyed κ ν} {v : ν} : v ∈ m.values ↔ ∃ k, m.get? k = some v := by
  rw [values, List.mem_map]
  constructor
  · rintro ⟨e, he, rfl⟩
    exact ⟨e.1, mem_entries_iff.1 he⟩
  · rintro ⟨k, hv⟩
    exact ⟨(k, v), mem_entries_iff.2 hv, rfl⟩

theorem count_eq_size {μ : Type} {p : κ → ν → Bool} {m : Keyed κ ν} {m' : Keyed κ μ}
    (h : ∀ k, (∃ v, m.get? k = some v ∧ p k v = true) ↔ m'.contains k = true) :
    m.count p = m'.size := by
  have hmem : ∀ k, k ∈ (m.filter fun e => p e.1 e.2).keys ↔ k ∈ m'.keys := by
    intro k
    rw [mem_keys_iff, mem_keys_iff, ← h, contains_iff, get?_filter]
    simp only [Option.filter_eq_some_iff]
  have hperm : (m.filter fun e => p e.1 e.2).keys.Perm m'.keys :=
    (List.perm_ext_iff_of_nodup (m.filter _).distinct m'.distinct).2 hmem
  calc
    m.count p = (m.filter fun e => p e.1 e.2).keys.length := by
      rw [count, List.countP_eq_length_filter, keys, List.length_map, filter]
    _ = m'.keys.length := hperm.length_eq
    _ = m'.size := List.length_map Prod.fst

theorem ne_of_mem_entries {m : Keyed κ ν} {k : κ} (h : m.get? k = none) {e : κ × ν}
    (he : e ∈ m.entries) : e.1 ≠ k := by
  rintro rfl
  exact lookup_eq_none.1 h (List.mem_map_of_mem he)

theorem erase_modify (m : Keyed κ ν) (k : κ) (f : ν → ν) : (m.modify k f).erase k = m.erase k := by
  apply eq_of_entries
  simp only [modify, erase, filter, List.filter_map]
  induction m.entries with
  | nil => rfl
  | cons e rest ih =>
      by_cases he : e.1 = k
      · simpa [he] using ih
      · simpa [he, touch] using ih

theorem erase_insert {m : Keyed κ ν} {k : κ} (v : ν) (h : m.get? k = none) :
    (m.insert k v).erase k = m := by
  have hold : m.entries.filter (fun e => !decide (e.1 = k)) = m.entries :=
    List.filter_eq_self.2 fun e he => by simpa using ne_of_mem_entries h he
  apply eq_of_entries
  simp only [erase, filter, entries_insert v h, List.filter_append, hold]
  simp

theorem entries_modify_insert {m : Keyed κ ν} {k : κ} (v : ν) (f : ν → ν) (h : m.get? k = none) :
    ((m.insert k v).modify k f).entries = m.entries ++ [(k, f v)] := by
  have hold : m.entries.map (touch k f) = m.entries :=
    (List.map_congr_left fun e he => if_neg (ne_of_mem_entries h he)).trans (List.map_id' _)
  simp only [modify, entries_insert v h, List.map_append, hold]
  simp [touch]

theorem keys_modify (m : Keyed κ ν) (k : κ) (f : ν → ν) : (m.modify k f).keys = m.keys :=
  map_touch_fst k f m.entries

theorem entries_eq_filterMap (m : Keyed κ ν) :
    m.entries = m.keys.filterMap fun k => (m.get? k).map (Prod.mk k) := by
  have hsome : ∀ e ∈ m.entries, (m.get? e.1).map (Prod.mk e.1) = some e := by
    intro e he
    rw [mem_entries_iff.1 he, Option.map_some]
  rw [keys, List.filterMap_map]
  exact (List.filterMap_some.symm.trans (List.filterMap_congr fun e he => (hsome e he).symm))

theorem eq_of_get? {m m' : Keyed κ ν} (keys : m.keys = m'.keys) (h : ∀ k, m.get? k = m'.get? k) :
    m = m' := by
  apply eq_of_entries
  rw [entries_eq_filterMap m, entries_eq_filterMap m', keys]
  simp only [h]

theorem perm_entries_erase {m : Keyed κ ν} {k : κ} {v : ν} (h : m.get? k = some v) :
    ((k, v) :: (m.erase k).entries).Perm m.entries := by
  have hnew : (k, v) ∉ (m.erase k).entries := by
    rw [mem_entries_iff, get?_erase, if_pos rfl]
    exact fun h => nomatch h
  refine (List.perm_ext_iff_of_nodup (List.nodup_cons.2 ⟨hnew, nodup_entries _⟩)
    m.nodup_entries).2 ?_
  rintro ⟨k', v'⟩
  rw [List.mem_cons, mem_entries_iff, mem_entries_iff, get?_erase, Prod.mk.injEq]
  by_cases hk : k' = k
  · subst hk
    simp [h, eq_comm]
  · simp [hk]

theorem count_erase {p : κ → ν → Bool} {m : Keyed κ ν} {k : κ} {v : ν} (h : m.get? k = some v) :
    (m.erase k).count p + (p k v).toNat = m.count p := by
  have hcount := (perm_entries_erase h).countP_eq fun e => p e.1 e.2
  rw [List.countP_cons] at hcount
  simp only [count, ← hcount]
  cases p k v <;> rfl

theorem erase_of_missing {m : Keyed κ ν} {k : κ} (h : m.get? k = none) : m.erase k = m :=
  eq_of_entries (List.filter_eq_self.2 fun e he => by simpa using ne_of_mem_entries h he)

theorem perm_entries_insert (m : Keyed κ ν) (k : κ) (v : ν) :
    (m.insert k v).entries.Perm ((k, v) :: (m.erase k).entries) := by
  have herase : (m.insert k v).erase k = m.erase k := by
    cases h : m.get? k with
    | none =>
        rw [erase_insert v h, erase_of_missing h]
    | some w =>
        unfold insert
        split
        · exact erase_modify m k _
        · rename_i missing
          cases missing.symm.trans h
  rw [← herase]
  exact (perm_entries_erase (by rw [get?_insert, if_pos rfl])).symm

end Conclave.Keyed

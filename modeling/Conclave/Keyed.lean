namespace Conclave

structure Keyed (κ ν : Type) where
  entries : List (κ × ν)
  distinct : (entries.map Prod.fst).Nodup

namespace Keyed

variable {κ ν : Type}

def empty : Keyed κ ν := ⟨[], .nil⟩

instance : Inhabited (Keyed κ ν) := ⟨empty⟩

def keys (m : Keyed κ ν) : List κ := m.entries.map Prod.fst

def values (m : Keyed κ ν) : List ν := m.entries.map Prod.snd

def size (m : Keyed κ ν) : Nat := m.entries.length

theorem nodup_filter {l : List (κ × ν)} (p : κ × ν → Bool)
    (h : (l.map Prod.fst).Nodup) : ((l.filter p).map Prod.fst).Nodup :=
  h.sublist (List.filter_sublist.map _)

def filter (p : κ × ν → Bool) (m : Keyed κ ν) : Keyed κ ν :=
  ⟨m.entries.filter p, nodup_filter p m.distinct⟩

variable [DecidableEq κ]

def lookup (k : κ) : List (κ × ν) → Option ν
  | [] => none
  | e :: rest => if e.1 = k then some e.2 else lookup k rest

def get? (m : Keyed κ ν) (k : κ) : Option ν := lookup k m.entries

def contains (m : Keyed κ ν) (k : κ) : Bool := (m.get? k).isSome

def erase (m : Keyed κ ν) (k : κ) : Keyed κ ν := m.filter fun e => !decide (e.1 = k)

def touch (k : κ) (f : ν → ν) (e : κ × ν) : κ × ν := if e.1 = k then (e.1, f e.2) else e

@[simp] theorem touch_fst (k : κ) (f : ν → ν) (e : κ × ν) : (touch k f e).1 = e.1 := by
  unfold touch; split <;> rfl

theorem map_touch_fst (k : κ) (f : ν → ν) (l : List (κ × ν)) :
    (l.map (touch k f)).map Prod.fst = l.map Prod.fst := by
  simp [Function.comp_def]

def modify (m : Keyed κ ν) (k : κ) (f : ν → ν) : Keyed κ ν :=
  ⟨m.entries.map (touch k f), by rw [map_touch_fst]; exact m.distinct⟩

theorem lookup_eq_none {k : κ} {l : List (κ × ν)} :
    lookup k l = none ↔ k ∉ l.map Prod.fst := by
  induction l with
  | nil => simp [lookup]
  | cons e rest ih =>
      by_cases he : e.1 = k
      · simp [lookup, he]
      · have : ¬ k = e.1 := fun h => he h.symm
        simp [lookup, he, ih, this]

theorem nodup_snoc {l : List (κ × ν)} {k : κ} (v : ν) (h : (l.map Prod.fst).Nodup)
    (hk : lookup k l = none) : ((l ++ [(k, v)]).map Prod.fst).Nodup := by
  have hk' := lookup_eq_none.1 hk
  rw [List.map_append, List.nodup_append]
  refine ⟨h, by simp, ?_⟩
  intro a ha b hb
  simp only [List.map_cons, List.map_nil, List.mem_singleton] at hb
  subst hb
  exact fun e => hk' (e ▸ ha)

def insert (m : Keyed κ ν) (k : κ) (v : ν) : Keyed κ ν :=
  match h : lookup k m.entries with
  | some _ => m.modify k fun _ => v
  | none => ⟨m.entries ++ [(k, v)], nodup_snoc v m.distinct h⟩

theorem lookup_map_touch (k k' : κ) (f : ν → ν) (l : List (κ × ν)) :
    lookup k' (l.map (touch k f)) =
      if k' = k then (lookup k' l).map f else lookup k' l := by
  induction l with
  | nil => simp [lookup]
  | cons e rest ih =>
      simp only [List.map_cons, lookup, touch_fst, ih]
      by_cases he : e.1 = k'
      · by_cases hk : k' = k <;> simp_all [touch]
      · by_cases hk : k' = k <;> simp_all

theorem lookup_filter_ne (k k' : κ) (l : List (κ × ν)) :
    lookup k' (l.filter fun e => !decide (e.1 = k)) =
      if k' = k then none else lookup k' l := by
  induction l with
  | nil => simp [lookup]
  | cons e rest ih =>
      by_cases he : e.1 = k
      · by_cases hk : k' = k
        · simp_all
        · have : ¬ e.1 = k' := fun h => hk (h.symm.trans he)
          simp_all [lookup]
      · by_cases hk : k' = k
        · simp_all [lookup]
        · simp_all [lookup]

theorem lookup_snoc (k k' : κ) (v : ν) (l : List (κ × ν)) (h : lookup k l = none) :
    lookup k' (l ++ [(k, v)]) = if k' = k then some v else lookup k' l := by
  induction l with
  | nil =>
      by_cases hk : k' = k
      · simp [lookup, hk]
      · have : ¬ k = k' := fun h => hk h.symm
        simp [lookup, hk, this]
  | cons e rest ih =>
      by_cases he : e.1 = k
      · simp [lookup, he] at h
      · simp only [lookup, he, if_false] at h
        simp only [List.cons_append, lookup, ih h]
        by_cases hk : k' = k
        · subst hk; simp [he]
        · simp [hk]

@[simp] theorem get?_empty (k : κ) : (empty : Keyed κ ν).get? k = none := rfl

@[simp] theorem get?_modify (m : Keyed κ ν) (k k' : κ) (f : ν → ν) :
    (m.modify k f).get? k' = if k' = k then (m.get? k').map f else m.get? k' :=
  lookup_map_touch k k' f m.entries

@[simp] theorem get?_erase (m : Keyed κ ν) (k k' : κ) :
    (m.erase k).get? k' = if k' = k then none else m.get? k' :=
  lookup_filter_ne k k' m.entries

@[simp] theorem get?_insert (m : Keyed κ ν) (k k' : κ) (v : ν) :
    (m.insert k v).get? k' = if k' = k then some v else m.get? k' := by
  unfold insert
  split
  · rename_i w hw
    rw [get?_modify]
    by_cases hk : k' = k
    · subst hk; simp [get?, hw]
    · simp [hk]
  · rename_i hw
    exact lookup_snoc k k' v m.entries hw

end Keyed

end Conclave

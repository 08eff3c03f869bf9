import Conclave.Proofs.Restoration
import Conclave.Quorum

namespace Conclave

def Timestamp.InStep (T : Timestamp → Timestamp → Prop) : Prop :=
  ∀ a a' b b', T a a' → T b b' → a'.before b' = a.before b

namespace Keyed

variable {κ ν : Type} [DecidableEq κ]

theorem keys_insert (m : Keyed κ ν) (k : κ) (v : ν) :
    (m.insert k v).keys = if (m.get? k).isSome then m.keys else m.keys ++ [k] := by
  cases h : m.get? k with
  | none =>
      rw [keys, entries_insert v h, List.map_append]
      rfl
  | some w =>
      unfold insert
      split
      · exact keys_modify _ _ _
      · rename_i hnone
        cases h.symm.trans hnone

theorem keys_erase (m : Keyed κ ν) (k : κ) :
    (m.erase k).keys = m.keys.filter fun j => !decide (j = k) := by
  rw [erase, filter, keys, keys, List.filter_map]
  rfl

theorem values_eq_filterMap (m : Keyed κ ν) : m.values = m.keys.filterMap m.get? := by
  rw [values, entries_eq_filterMap, List.map_filterMap]
  refine List.filterMap_congr fun k _ => ?_
  cases m.get? k <;> rfl

structure Alike (R : ν → ν → Prop) (m m' : Keyed κ ν) : Prop where
  keys : m'.keys = m.keys
  values : ∀ k, Option.Rel R (m.get? k) (m'.get? k)

section Rel

variable {α β γ : Type} {R : α → β → Prop} {o : Option α} {o' : Option β}

theorem rel_isSome (h : Option.Rel R o o') : o'.isSome = o.isSome := by
  cases h <;> rfl

theorem rel_map {S : γ → γ → Prop} {f : α → γ} {f' : β → γ} (h : Option.Rel R o o')
    (kept : ∀ a b, R a b → S (f a) (f' b)) : Option.Rel S (o.map f) (o'.map f') := by
  cases h with
  | some related => exact .some (kept _ _ related)
  | none => exact .none

theorem map_eq_of_rel {f : α → γ} {f' : β → γ} (h : Option.Rel R o o')
    (same : ∀ a b, R a b → f' b = f a) : o'.map f' = o.map f := by
  cases h with
  | some related => exact congrArg some (same _ _ related)
  | none => rfl

end Rel

namespace Alike

variable {R : ν → ν → Prop} {m m' : Keyed κ ν}

theorem insert (h : Alike R m m') (k : κ) {v v' : ν} (related : R v v') :
    Alike R (m.insert k v) (m'.insert k v') := by
  refine ⟨?_, fun j => ?_⟩
  · rw [keys_insert, keys_insert, h.keys, rel_isSome (h.values k)]
  · rw [get?_insert, get?_insert]
    split
    · exact .some related
    · exact h.values j

theorem erase (h : Alike R m m') (k : κ) : Alike R (m.erase k) (m'.erase k) := by
  refine ⟨by rw [keys_erase, keys_erase, h.keys], fun j => ?_⟩
  rw [get?_erase, get?_erase]
  split
  · exact .none
  · exact h.values j

theorem map_values {γ : Type} {f : ν → γ} (h : Alike R m m') (same : ∀ v v', R v v' → f v' = f v) :
    m'.values.map f = m.values.map f := by
  rw [values_eq_filterMap, values_eq_filterMap, h.keys, List.map_filterMap, List.map_filterMap]
  exact List.filterMap_congr fun k _ => map_eq_of_rel (h.values k) same

end Alike

end Keyed

namespace Node

def timeless (n : Node) : Node := { n with lastSeen := ⟨0, 0⟩ }

def Alike (T : Timestamp → Timestamp → Prop) (n n' : Node) : Prop :=
  ∃ seen, T n.lastSeen seen ∧ n' = { n with lastSeen := seen }

theorem Alike.timeless {T : Timestamp → Timestamp → Prop} {n n' : Node} (h : Alike T n n') :
    n'.timeless = n.timeless := by
  obtain ⟨seen, -, rfl⟩ := h
  rfl

end Node

namespace Quorum

theorem ids_mergeSort_timeless {order : Node → Node → Bool}
    (blind : ∀ a b, order a b = order a.timeless b.timeless) (nodes : List Node) :
    ((nodes.map Node.timeless).mergeSort order).map Node.id = (nodes.mergeSort order).map Node.id := by
  rw [← List.map_mergeSort fun a _ b _ => blind a b, List.map_map]
  rfl

theorem select_timeless (policy : Policy) (nodes : List Node) (total threshold : Nat) (s : SessionId)
    (draws : Draws) :
    select policy (nodes.map Node.timeless) total threshold s draws =
      select policy nodes total threshold s draws := by
  have honline : (nodes.map Node.timeless).filter Node.isOnline =
      (nodes.filter Node.isOnline).map Node.timeless := List.filter_map
  have hfirst : ∀ (order : Node → Node → Bool), (∀ a b, order a b = order a.timeless b.timeless) →
      firstIds order threshold ((nodes.filter Node.isOnline).map Node.timeless) =
        firstIds order threshold (nodes.filter Node.isOnline) := by
    intro order blind
    rw [firstIds, firstIds, List.map_take, List.map_take, ids_mergeSort_timeless blind]
  simp only [select, honline, List.length_map]
  rw [hfirst loadOrder fun _ _ => rfl, hfirst taskOrder fun _ _ => rfl,
    ids_mergeSort_timeless fun _ _ => rfl]

end Quorum

namespace Registry

variable {T : Timestamp → Timestamp → Prop} {r r' : Registry} {now now' : Timestamp}

def Alike (T : Timestamp → Timestamp → Prop) (r r' : Registry) : Prop :=
  Keyed.Alike (Node.Alike T) r.nodes r'.nodes

theorem Alike.select (h : Alike T r r') (policy : Policy) (total threshold : Nat) (s : SessionId)
    (draws : Draws) :
    Quorum.select policy r'.nodes.values total threshold s draws =
      Quorum.select policy r.nodes.values total threshold s draws := by
  rw [← Quorum.select_timeless policy r'.nodes.values, h.map_values fun _ _ => Node.Alike.timeless,
    Quorum.select_timeless]

theorem change_fst (id : NodeId) (applies : Node → Bool) (f : Node → Node) (r : Registry) :
    (r.change id applies f).1 = ((r.get? id).map applies).getD false := by
  unfold change
  cases r.get? id with
  | none => rfl
  | some n => cases h : applies n <;> simp [h]

theorem Alike.change (h : Alike T r r') (id : NodeId) {applies applies' : Node → Bool}
    {f f' : Node → Node} (same : ∀ n n', Node.Alike T n n' → applies' n' = applies n)
    (kept : ∀ n n', Node.Alike T n n' → Node.Alike T (f n) (f' n')) :
    (r'.change id applies' f').1 = (r.change id applies f).1 ∧
      Alike T (r.change id applies f).2 (r'.change id applies' f').2 := by
  refine ⟨?_, ?_, fun k => ?_⟩
  · rw [change_fst, change_fst, get?, get?, Keyed.map_eq_of_rel (h.values id) same]
  · rw [keys_change, keys_change, h.keys]
  · change Option.Rel _ ((r.change id applies f).2.get? k) ((r'.change id applies' f').2.get? k)
    rw [get?_change, get?_change]
    split
    · refine Keyed.rel_map (h.values id) fun n n' related => ?_
      rw [same n n' related]
      split
      · exact kept n n' related
      · exact related
    · exact h.values k

theorem Alike.markBusy (h : Alike T r r') (id : NodeId) :
    (r'.markBusy id).1 = (r.markBusy id).1 ∧ Alike T (r.markBusy id).2 (r'.markBusy id).2 := by
  refine h.change id (fun _ _ _ => rfl) ?_
  rintro n _ ⟨seen, related, rfl⟩
  exact ⟨seen, related, rfl⟩

theorem Alike.markIdle (h : Alike T r r') (id : NodeId) :
    (r'.markIdle id).1 = (r.markIdle id).1 ∧ Alike T (r.markIdle id).2 (r'.markIdle id).2 := by
  refine h.change id ?_ ?_
  · rintro n _ ⟨seen, -, rfl⟩
    rfl
  · rintro n _ ⟨seen, related, rfl⟩
    exact ⟨seen, related, rfl⟩

inductive Operation.Alike (T : Timestamp → Timestamp → Prop) : Operation → Operation → Prop
  | register (id : NodeId) (address : String) : Alike T (.register id address) (.register id address)
  | deregister (id : NodeId) : Alike T (.deregister id) (.deregister id)
  | report (id : NodeId) (load : Load) (status : NodeStatus) :
      Alike T (.report id load status) (.report id load status)
  | probe (id : NodeId) (verdict : ProbeVerdict) {observed observed' : Timestamp}
      (seen : T observed observed') : Alike T (.probe id observed verdict) (.probe id observed' verdict)
  | busy (id : NodeId) : Alike T (.busy id) (.busy id)
  | idle (id : NodeId) : Alike T (.idle id) (.idle id)

theorem Alike.apply (h : Alike T r r') (inStep : Timestamp.InStep T) (moment : T now now')
    {op op' : Operation} (same : op.Alike T op') :
    (r'.apply now' op').1 = (r.apply now op).1 ∧ Alike T (r.apply now op).2 (r'.apply now' op').2 := by
  cases same with
  | register id address =>
      have htasks : ((r'.get? id).map Node.activeTasks).getD 0 =
          ((r.get? id).map Node.activeTasks).getD 0 := by
        rw [get?, get?, Keyed.map_eq_of_rel (h.values id)]
        rintro n _ ⟨seen, -, rfl⟩
        rfl
      refine ⟨rfl, Keyed.Alike.insert h id ⟨now', moment, ?_⟩⟩
      rw [htasks]
      rfl
  | deregister id => exact ⟨Keyed.rel_isSome (h.values id), Keyed.Alike.erase h id⟩
  | report id load status =>
      refine h.change id (fun _ _ _ => rfl) ?_
      rintro n _ ⟨seen, -, rfl⟩
      exact ⟨now', moment, rfl⟩
  | @probe id verdict observed observed' hseen =>
      refine h.change id ?_ ?_
      · rintro n _ ⟨seen, related, rfl⟩
        rw [probeApplies, probeApplies, inStep observed observed' n.lastSeen seen hseen related]
      · rintro n _ ⟨seen, related, rfl⟩
        cases verdict with
        | reachable load => exact ⟨now', moment, rfl⟩
        | unreachable => exact ⟨seen, related, rfl⟩
  | busy id => exact h.markBusy id
  | idle id => exact h.markIdle id

theorem Alike.markAll (h : Alike T r r') (ids : List NodeId) :
    (markAll ids r').1 = (markAll ids r).1 ∧ Alike T (markAll ids r).2 (markAll ids r').2 := by
  induction ids generalizing r r' with
  | nil => exact ⟨rfl, h⟩
  | cons id rest ih =>
      obtain ⟨hmarked, hafter⟩ := h.markBusy id
      obtain ⟨hrest, hlast⟩ := ih hafter
      refine ⟨?_, hlast⟩
      simp only [Registry.markAll]
      rw [hmarked, hrest]

theorem Alike.releaseAll (h : Alike T r r') (ids : List NodeId) :
    Alike T (releaseAll ids r) (releaseAll ids r') := by
  induction ids generalizing r r' with
  | nil => exact h
  | cons id rest ih => exact ih (h.markIdle id).2

end Registry

end Conclave

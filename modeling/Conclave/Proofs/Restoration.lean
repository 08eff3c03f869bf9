import Conclave.Proofs.Bus
import Conclave.Proofs.Registry

namespace Conclave

namespace Node

def busier (n : Node) : Node := { n with activeTasks := Registry.countUp n.activeTasks }

def idler (n : Node) : Node :=
  if 0 < n.activeTasks then { n with activeTasks := n.activeTasks - 1 } else n

theorem idler_busier {n : Node} (below : n.activeTasks.toNat < taskLimit) : n.busier.idler = n := by
  have hup : Registry.countUp n.activeTasks = n.activeTasks + 1 := if_pos below
  have hpos : 0 < n.activeTasks + 1 := by
    rw [← hup, UInt32.lt_iff_toNat_lt, Registry.countUp_toNat]
    exact Nat.lt_min.2 ⟨Nat.succ_pos _, by decide⟩
  have hdown : n.activeTasks + 1 - 1 = n.activeTasks := UInt32.add_sub_cancel _ _
  simp [busier, idler, hup, hpos, hdown]

end Node

namespace Registry

theorem get?_markBusy (id k : NodeId) (r : Registry) :
    (r.markBusy id).2.get? k = if k = id then (r.get? k).map Node.busier else r.get? k := by
  rw [markBusy, get?_change]
  by_cases hk : k = id
  · subst hk
    simp only [if_true]
    rfl
  · simp [hk]

theorem get?_markIdle (id k : NodeId) (r : Registry) :
    (r.markIdle id).2.get? k = if k = id then (r.get? k).map Node.idler else r.get? k := by
  rw [markIdle, get?_change]
  by_cases hk : k = id
  · subst hk
    simp only [if_true, decide_eq_true_eq]
    rfl
  · simp [hk]

theorem keys_change (id : NodeId) (applies : Node → Bool) (f : Node → Node) (r : Registry) :
    (r.change id applies f).2.nodes.keys = r.nodes.keys := by
  unfold change
  split
  · rfl
  · split
    · exact Keyed.keys_modify _ _ _
    · rfl

section Fold

variable {step : Registry → NodeId → Registry} {g : Node → Node} {ids : List NodeId}

theorem keys_foldl (h : ∀ r id, (step r id).nodes.keys = r.nodes.keys) (r : Registry) :
    (ids.foldl step r).nodes.keys = r.nodes.keys := by
  induction ids generalizing r with
  | nil => rfl
  | cons id rest ih => exact (ih _).trans (h r id)

theorem get?_foldl
    (h : ∀ r id k, (step r id).get? k = if k = id then (r.get? k).map g else r.get? k)
    (nodup : ids.Nodup) (r : Registry) (k : NodeId) :
    (ids.foldl step r).get? k = if k ∈ ids then (r.get? k).map g else r.get? k := by
  induction ids generalizing r with
  | nil => simp
  | cons id rest ih =>
      obtain ⟨hid, hrest⟩ := List.nodup_cons.1 nodup
      rw [List.foldl_cons, ih hrest, h]
      by_cases hk : k = id
      · subst hk
        simp [hid]
      · simp [hk]

end Fold

theorem markAll_snd (ids : List NodeId) (r : Registry) :
    (markAll ids r).2 = ids.foldl (fun r id => (r.markBusy id).2) r := by
  induction ids generalizing r with
  | nil => rfl
  | cons id rest ih => exact ih _

theorem releaseAll_eq (ids : List NodeId) (r : Registry) :
    releaseAll ids r = ids.foldl (fun r id => (r.markIdle id).2) r := by
  induction ids generalizing r with
  | nil => rfl
  | cons id rest ih => exact ih _

theorem get?_markAll {ids : List NodeId} (nodup : ids.Nodup) (r : Registry) (k : NodeId) :
    (markAll ids r).2.get? k = if k ∈ ids then (r.get? k).map Node.busier else r.get? k := by
  rw [markAll_snd]
  exact get?_foldl (fun r id k => get?_markBusy id k r) nodup r k

theorem get?_releaseAll {ids : List NodeId} (nodup : ids.Nodup) (r : Registry) (k : NodeId) :
    (releaseAll ids r).get? k = if k ∈ ids then (r.get? k).map Node.idler else r.get? k := by
  rw [releaseAll_eq]
  exact get?_foldl (fun r id k => get?_markIdle id k r) nodup r k

theorem keys_markAll (ids : List NodeId) (r : Registry) :
    (markAll ids r).2.nodes.keys = r.nodes.keys := by
  rw [markAll_snd]
  exact keys_foldl (fun r id => keys_change _ _ _ _) r

theorem keys_releaseAll (ids : List NodeId) (r : Registry) :
    (releaseAll ids r).nodes.keys = r.nodes.keys := by
  rw [releaseAll_eq]
  exact keys_foldl (fun r id => keys_change _ _ _ _) r

theorem releaseAll_markAll {ids : List NodeId} {r : Registry} (nodup : ids.Nodup)
    (below : ∀ id n, r.get? id = some n → n.activeTasks.toNat < taskLimit) :
    releaseAll (markAll ids r).1 (markAll ids r).2 = r := by
  have hmarked : (markAll ids r).1.Nodup := markAll_fst ids r ▸ nodup.filter _
  -- what is released is what was marked, and that leaves out the parties that the table lacks
  have hget : ∀ k, (releaseAll (markAll ids r).1 (markAll ids r).2).get? k = r.get? k := by
    intro k
    rw [get?_releaseAll hmarked, get?_markAll nodup]
    simp only [markAll_fst, List.mem_filter]
    cases hk : r.get? k with
    | none => simp
    | some n =>
        have hknown : r.contains k = true := contains_iff.2 ⟨n, hk⟩
        by_cases hid : k ∈ ids
        · simp [hid, hknown, Node.idler_busier (below k n hk)]
        · simp [hid]
  have hkeys : (releaseAll (markAll ids r).1 (markAll ids r).2).nodes.keys = r.nodes.keys :=
    (keys_releaseAll _ _).trans (keys_markAll _ _)
  exact congrArg Registry.mk (Keyed.eq_of_get? hkeys hget)

theorem length_online (r : Registry) : r.online.length = (r.nodes.values.filter Node.isOnline).length :=
  ((List.mergeSort_perm r.nodes.values idOrder).filter Node.isOnline).length_eq

end Registry

namespace Bus

theorem topics_drop_subscribe {s : SessionId} {b b' : Bus} {c : ChannelId}
    (h : b.subscribe s = .ok (c, b')) : (b'.drop c).topics = b.topics := by
  obtain ⟨free, rfl, rfl⟩ := subscribe_eq_ok h
  simp only [drop, Keyed.get?_insert, if_true, Keyed.erase_insert _ free]

end Bus

end Conclave

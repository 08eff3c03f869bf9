import Conclave.Proofs.Registry
import Conclave.Quorum
import Mathlib.Data.List.GetD
import Mathlib.Data.List.Nodup
import Mathlib.Data.List.Perm.Basic
import Mathlib.Data.Nat.ModEq

namespace Conclave.Quorum

theorem nodup_firstIds {order : Node → Node → Bool} {count : Nat} {nodes : List Node}
    (h : (nodes.map Node.id).Nodup) : (firstIds order count nodes).Nodup := by
  have hsorted : ((nodes.mergeSort order).map Node.id).Nodup :=
    ((List.mergeSort_perm nodes order).map Node.id).nodup_iff.2 h
  rw [firstIds, List.map_take]
  exact hsorted.sublist (List.take_sublist _ _)

theorem draw_perm (draw : Nat) (first : NodeId) (rest : List NodeId) :
    ((first :: rest).getD (draw % (rest.length + 1)) first ::
      (first :: rest).eraseIdx (draw % (rest.length + 1))).Perm (first :: rest) := by
  have hi : draw % (rest.length + 1) < (first :: rest).length := Nat.mod_lt _ (Nat.succ_pos _)
  rw [List.getD_eq_getElem _ _ hi]
  exact List.getElem_cons_eraseIdx_perm hi

theorem sample_subset {draws : Draws} {drawn wanted : Nat} {ids : List NodeId} :
    sample draws drawn wanted ids ⊆ ids := by
  induction wanted generalizing drawn ids with
  | zero => simp [sample]
  | succ wanted ih =>
      cases ids with
      | nil => simp [sample]
      | cons first rest =>
          rw [sample]
          exact fun k hk => (draw_perm (draws drawn) first rest).subset
            (List.cons_subset_cons _ ih hk)

theorem nodup_sample {draws : Draws} {drawn wanted : Nat} {ids : List NodeId} (h : ids.Nodup) :
    (sample draws drawn wanted ids).Nodup := by
  induction wanted generalizing drawn ids with
  | zero => simp [sample]
  | succ wanted ih =>
      cases ids with
      | nil => simp [sample]
      | cons first rest =>
          have hdraw := List.nodup_cons.1 ((draw_perm (draws drawn) first rest).nodup_iff.2 h)
          exact List.nodup_cons.2 ⟨fun hk => hdraw.1 (sample_subset hk), ih hdraw.2⟩

theorem length_firstIds {order : Node → Node → Bool} {count : Nat} {nodes : List Node}
    (h : count ≤ nodes.length) : (firstIds order count nodes).length = count := by
  rw [firstIds, List.length_map, List.length_take, List.length_mergeSort]
  exact Nat.min_eq_left h

theorem length_sample {draws : Draws} {drawn wanted : Nat} {ids : List NodeId}
    (h : wanted ≤ ids.length) : (sample draws drawn wanted ids).length = wanted := by
  induction wanted generalizing drawn ids with
  | zero => simp [sample]
  | succ wanted ih =>
      cases ids with
      | nil => simp at h
      | cons first rest =>
          have hdraw := (draw_perm (draws drawn) first rest).length_eq
          simp only [List.length_cons] at hdraw h
          rw [sample, List.length_cons, ih (by omega)]

theorem toNat_place {total : Nat} (pos : 0 < total) (ht : total < 2 ^ 64) (n : Nat) :
    (UInt64.ofNat (n % total + 1)).toNat = n % total + 1 := by
  have hlt := Nat.mod_lt n pos
  have hbound : n % total + 1 < 2 ^ 64 := by omega
  exact UInt64.toNat_ofNat_of_lt' hbound

theorem nodup_consecutive {start total count : Nat} (hc : count ≤ total) (ht : total < 2 ^ 64) :
    (consecutive start total count).Nodup := by
  refine List.Nodup.map_on ?_ List.nodup_range
  intro i hi j hj h
  rw [List.mem_range] at hi hj
  have pos : 0 < total := Nat.lt_of_lt_of_le (Nat.zero_lt_of_lt hi) hc
  have hnumber : (start + i) % total + 1 = (start + j) % total + 1 := by
    have := congrArg (fun id => id.number.toNat) h
    simpa only [toNat_place pos ht] using this
  have hmod : i ≡ j [MOD total] := Nat.ModEq.add_left_cancel' start (Nat.succ.inj hnumber)
  exact hmod.eq_of_lt_of_lt (Nat.lt_of_lt_of_le hi hc) (Nat.lt_of_lt_of_le hj hc)

def picked (policy : Policy) (nodes : List Node) (total threshold : Nat) (session : SessionId)
    (draws : Draws) : List NodeId :=
  let online := nodes.filter Node.isOnline
  match policy with
  | .roundRobin => consecutive (offset session total) total threshold
  | .loadBased => firstIds loadOrder threshold online
  | .availabilityBased => firstIds taskOrder threshold online
  | .random => sample draws 0 threshold ((online.mergeSort Registry.idOrder).map Node.id)

section Select

variable {policy : Policy} {nodes : List Node} {total threshold : Nat} {session : SessionId}
  {draws : Draws} {parties : List NodeId}

theorem select_of_few (pos : threshold ≠ 0)
    (few : (nodes.filter Node.isOnline).length < threshold) :
    select policy nodes total threshold session draws =
      .error (.insufficientNodes (nodes.filter Node.isOnline).length threshold) := by
  simp only [select, if_neg pos, if_pos few]

theorem select_of_enough (pos : threshold ≠ 0)
    (enough : threshold ≤ (nodes.filter Node.isOnline).length)
    (fits : policy = .roundRobin → threshold ≤ total) :
    select policy nodes total threshold session draws =
      .ok (picked policy nodes total threshold session draws) := by
  simp only [select, if_neg pos, if_neg (Nat.not_lt.2 enough)]
  cases policy with
  | roundRobin =>
      have hfits := fits rfl
      have hbounds : ¬ (total = 0 ∨ total < threshold) := by omega
      simp only [if_neg hbounds, picked]
  | _ => rfl

theorem select_eq_ok (h : select policy nodes total threshold session draws = .ok parties) :
    threshold ≤ (nodes.filter Node.isOnline).length ∧ (policy = .roundRobin → threshold ≤ total) ∧
      parties = picked policy nodes total threshold session draws := by
  simp only [select] at h
  split at h
  · cases h
  · split at h
    · cases h
    · rename_i henough
      refine ⟨Nat.not_lt.1 henough, ?_⟩
      cases policy with
      | roundRobin =>
          simp only at h
          split at h
          · cases h
          · rename_i hbounds
            cases h
            exact ⟨fun _ => by omega, rfl⟩
      | _ =>
          cases h
          exact ⟨nofun, rfl⟩

theorem nodup_online (hn : (nodes.map Node.id).Nodup) :
    ((nodes.filter Node.isOnline).map Node.id).Nodup := hn.sublist (List.filter_sublist.map _)

theorem nodup_select (hn : (nodes.map Node.id).Nodup) (ht : total < 2 ^ 64)
    (h : select policy nodes total threshold session draws = .ok parties) : parties.Nodup := by
  have honline := nodup_online hn
  obtain ⟨-, hfits, rfl⟩ := select_eq_ok h
  cases policy with
  | roundRobin => exact nodup_consecutive (hfits rfl) ht
  | loadBased => exact nodup_firstIds honline
  | availabilityBased => exact nodup_firstIds honline
  | random =>
      have hsorted := ((List.mergeSort_perm (nodes.filter Node.isOnline) Registry.idOrder).map
        Node.id).nodup_iff.2 honline
      exact nodup_sample hsorted

theorem length_select (h : select policy nodes total threshold session draws = .ok parties) :
    parties.length = threshold := by
  obtain ⟨henough, -, rfl⟩ := select_eq_ok h
  cases policy with
  | roundRobin => simp [picked, consecutive]
  | loadBased => exact length_firstIds henough
  | availabilityBased => exact length_firstIds henough
  | random => exact length_sample (by simpa using henough)

end Select

end Conclave.Quorum

import Conclave.Proofs.Quorum
import Conclave.Proofs.Records
import Mathlib.Data.List.Range

namespace Conclave.Quorum

def Follows (total : Nat) (a b : NodeId) : Prop :=
  b.number.toNat = if a.number.toNat = total then 1 else a.number.toNat + 1

structure Fits (policy : Policy) (nodes : List Node) (total threshold : Nat)
    (parties : List NodeId) : Prop where
  size : parties.length = threshold
  distinct : parties.Nodup
  online : policy ≠ .roundRobin → ∀ id ∈ parties, ∃ n ∈ nodes, n.isOnline = true ∧ n.id = id
  counted : policy = .roundRobin → ∀ id ∈ parties, 1 ≤ id.number.toNat ∧ id.number.toNat ≤ total
  circular : policy = .roundRobin → parties.IsChain (Follows total)

theorem place_succ {total : Nat} (pos : 0 < total) (n : Nat) :
    (n + 1) % total + 1 = if n % total + 1 = total then 1 else n % total + 1 + 1 := by
  have hlt := Nat.mod_lt n pos
  have hmod : (n + 1) % total = (n % total + 1) % total := (Nat.mod_add_mod n total 1).symm
  rw [hmod]
  split
  · rename_i hlast
    rw [hlast, Nat.mod_self]
  · rename_i hlast
    rw [Nat.mod_eq_of_lt (by omega)]

section Consecutive

variable {start total count : Nat}

theorem counted_consecutive (pos : 0 < total) (ht : total < 2 ^ 64) {id : NodeId}
    (h : id ∈ consecutive start total count) :
    1 ≤ id.number.toNat ∧ id.number.toNat ≤ total := by
  obtain ⟨i, -, rfl⟩ := List.mem_map.1 h
  have hlt := Nat.mod_lt (start + i) pos
  simp only [toNat_place pos ht]
  omega

theorem circular_consecutive (pos : 0 < total) (ht : total < 2 ^ 64) :
    (consecutive start total count).IsChain (Follows total) := by
  rw [consecutive, List.isChain_map, List.isChain_range]
  intro i _
  simp only [Follows, toNat_place pos ht]
  exact place_succ pos (start + i)

end Consecutive

theorem mem_firstIds {order : Node → Node → Bool} {count : Nat} {nodes : List Node} {id : NodeId}
    (h : id ∈ firstIds order count nodes) : ∃ n ∈ nodes, n.id = id := by
  obtain ⟨n, hn, rfl⟩ := List.mem_map.1 h
  exact ⟨n, List.mem_mergeSort.1 (List.mem_of_mem_take hn), rfl⟩

section Select

variable {policy : Policy} {nodes : List Node} {total threshold : Nat} {session : SessionId}
  {draws : Draws}

theorem online_of_mem_picked {id : NodeId} (health : policy ≠ .roundRobin)
    (h : id ∈ picked policy nodes total threshold session draws) :
    ∃ n ∈ nodes.filter Node.isOnline, n.id = id := by
  cases policy with
  | roundRobin => exact absurd rfl health
  | loadBased => exact mem_firstIds h
  | availabilityBased => exact mem_firstIds h
  | random =>
      obtain ⟨n, hn, rfl⟩ := List.mem_map.1 (sample_subset h)
      exact ⟨n, List.mem_mergeSort.1 hn, rfl⟩

theorem select_of_zero (zero : threshold = 0) :
    select policy nodes total threshold session draws = .error .zeroThreshold := if_pos zero

theorem select_of_beyond (pos : threshold ≠ 0)
    (enough : threshold ≤ (nodes.filter Node.isOnline).length) (beyond : total < threshold) :
    select .roundRobin nodes total threshold session draws =
      .error (.invalidThreshold s!"threshold {threshold} must be within total_nodes {total}") := by
  simp only [select, if_neg pos, if_neg (Nat.not_lt.2 enough), if_pos (Or.inr beyond)]

theorem exists_fits (unique : (nodes.map Node.id).Nodup) (ht : total < 2 ^ 64) (pos : threshold ≠ 0)
    (enough : threshold ≤ (nodes.filter Node.isOnline).length)
    (fits : policy = .roundRobin → threshold ≤ total) :
    ∃ parties, select policy nodes total threshold session draws = .ok parties ∧
      Fits policy nodes total threshold parties := by
  have hselect : select policy nodes total threshold session draws = .ok _ :=
    select_of_enough pos enough fits
  refine ⟨_, hselect, length_select hselect, nodup_select unique ht hselect, ?_, ?_, ?_⟩
  · intro health id hid
    obtain ⟨n, hn, hname⟩ := online_of_mem_picked health hid
    obtain ⟨hmem, honline⟩ := List.mem_filter.1 hn
    exact ⟨n, hmem, honline, hname⟩
  · rintro rfl id hid
    have hle := fits rfl
    exact counted_consecutive (by omega) ht hid
  · rintro rfl
    have hle := fits rfl
    exact circular_consecutive (by omega) ht

end Select

theorem select_of_valid (policy : Policy) (nodes : List Node) (session : SessionId) (draws : Draws)
    {request : Session.Request} (valid : request.validate = .ok ()) :
    (∃ parties, select policy nodes request.totalNodes.toNat request.threshold.toNat session draws =
      .ok parties) ∨
    select policy nodes request.totalNodes.toNat request.threshold.toNat session draws =
      .error (.insufficientNodes (nodes.filter Node.isOnline).length request.threshold.toNat) := by
  obtain ⟨hpos, hle⟩ := Session.Request.bounds_of_valid valid
  rcases Nat.lt_or_ge (nodes.filter Node.isOnline).length request.threshold.toNat with few | enough
  · exact Or.inr (select_of_few (by omega) few)
  · exact Or.inl ⟨_, select_of_enough (by omega) enough fun _ => hle⟩

theorem chosen_or_refused {nodes : List Node} (unique : (nodes.map Node.id).Nodup) (policy : Policy)
    (total threshold : UInt64) (session : SessionId) (draws : Draws) :
    let online := (nodes.filter Node.isOnline).length
    let answer := select policy nodes total.toNat threshold.toNat session draws
    (threshold = 0 → answer = .error (.invalidThreshold "threshold must be at least 1")) ∧
    (threshold ≠ 0 → online < threshold.toNat →
      answer = .error (.insufficientNodes online threshold.toNat)) ∧
    (threshold ≠ 0 → threshold.toNat ≤ online → policy = .roundRobin → total < threshold →
      answer = .error (.invalidThreshold
        s!"threshold {threshold.toNat} must be within total_nodes {total.toNat}")) ∧
    (threshold ≠ 0 → threshold.toNat ≤ online → (policy = .roundRobin → threshold ≤ total) →
      ∃ parties, answer = .ok parties ∧ Fits policy nodes total.toNat threshold.toNat parties) ∧
    ∀ (r : Registry) (request : Session.Request), request.validate = .ok () →
      let answer := select policy r.nodes.values request.totalNodes.toNat request.threshold.toNat
        session draws
      (∃ parties, answer = .ok parties) ∨
        answer = .error (.insufficientNodes (r.nodes.values.filter Node.isOnline).length
          request.threshold.toNat) := by
  intro online answer
  have hpos : threshold ≠ 0 → threshold.toNat ≠ 0 := fun pos h => pos (UInt64.toNat_inj.1 h)
  refine ⟨fun zero => ?_, fun pos few => select_of_few (hpos pos) few,
    fun pos enough counts beyond => ?_, fun pos enough fits => ?_,
    fun r request valid => select_of_valid policy _ session draws valid⟩
  · exact select_of_zero (by rw [zero]; rfl)
  · obtain rfl := counts
    exact select_of_beyond (hpos pos) enough (UInt64.lt_iff_toNat_lt.1 beyond)
  · exact exists_fits unique total.toNat_lt (hpos pos) enough fun counts =>
      UInt64.le_iff_toNat_le.1 (fits counts)

def fleet : List Node :=
  [Node.fresh ⟨0, 0⟩ ⟨1⟩ "one", Node.fresh ⟨0, 0⟩ ⟨2⟩ "two",
    { Node.fresh ⟨0, 0⟩ ⟨3⟩ "three" with status := .offline }, Node.fresh ⟨0, 0⟩ ⟨4⟩ "four"]

theorem chosen_or_refused_fleet :
    (fleet.map Node.id).Nodup ∧
      (∃ parties, select .roundRobin fleet 3 3 ⟨"S1"⟩ (fun _ => 0) = .ok parties ∧
        Fits .roundRobin fleet 3 3 parties) ∧
      ∃ parties, select .random fleet 3 3 ⟨"S1"⟩ (fun n => n + 1) = .ok parties ∧
        Fits .random fleet 3 3 parties := by
  have unique : (fleet.map Node.id).Nodup := by decide
  have hcounted := chosen_or_refused unique .roundRobin 3 3 ⟨"S1"⟩ fun _ => 0
  have hdrawn := chosen_or_refused unique .random 3 3 ⟨"S1"⟩ fun n => n + 1
  exact ⟨unique, hcounted.2.2.2.1 (by decide) (by decide) (by decide),
    hdrawn.2.2.2.1 (by decide) (by decide) (by decide)⟩

end Conclave.Quorum

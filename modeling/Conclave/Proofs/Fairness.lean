import Conclave.Proofs.Sampling
import Mathlib.Combinatorics.Enumerative.DoubleCounting
import Mathlib.Data.Nat.Factorial.BigOperators
import Mathlib.Probability.Independence.Basic
import Mathlib.Probability.UniformOn

namespace Conclave.Quorum

universe u

open MeasureTheory ProbabilityTheory
open scoped ENNReal

def drawings (ids : List NodeId) (wanted : Nat) : Finset (List NodeId) :=
  Finset.univ.image fun s : Script ids.length wanted => sample s.draws 0 wanted ids

section Count

variable {ids parties : List NodeId} {wanted : Nat} {a b : NodeId}

theorem mem_drawings (unique : ids.Nodup) (h : wanted ≤ ids.length) :
    parties ∈ drawings ids wanted ↔ parties ∈ quorums ids wanted := by
  rw [← (Script.bijOn_sample unique rfl h).image_eq, Set.image_univ]
  simp [drawings]

theorem card_script (count wanted : Nat) :
    Fintype.card (Script count wanted) = count.descFactorial wanted := by
  rw [Fintype.card_pi, Nat.descFactorial_eq_prod_range, ← Fin.prod_univ_eq_prod_range]
  exact Finset.prod_congr rfl fun i _ => Fintype.card_fin _

theorem card_drawings (unique : ids.Nodup) (h : wanted ≤ ids.length) :
    (drawings ids wanted).card = ids.length.descFactorial wanted := by
  rw [drawings, Finset.card_image_of_injective _
    (Set.injOn_univ.1 (Script.bijOn_sample unique rfl h).injOn), Finset.card_univ, card_script]

theorem swap_mem (ha : a ∈ ids) (hb : b ∈ ids) (h : parties ∈ quorums ids wanted) :
    parties.map (Equiv.swap a b) ∈ quorums ids wanted := by
  obtain ⟨hlength, hnodup, hknown⟩ := h
  refine ⟨(List.length_map _).trans hlength, hnodup.map (Equiv.swap a b).injective, ?_⟩
  intro id hid
  obtain ⟨id', hid', rfl⟩ := List.mem_map.1 hid
  rw [Equiv.swap_apply_def]
  split_ifs
  · exact hb
  · exact ha
  · exact hknown hid'

theorem card_with_le (unique : ids.Nodup) (h : wanted ≤ ids.length) (ha : a ∈ ids) (hb : b ∈ ids) :
    ((drawings ids wanted).filter (a ∈ ·)).card ≤ ((drawings ids wanted).filter (b ∈ ·)).card := by
  refine Finset.card_le_card_of_injOn (List.map (Equiv.swap a b)) (fun parties hparties => ?_)
    (List.map_injective_iff.2 (Equiv.swap a b).injective).injOn
  obtain ⟨hdrawn, hchosen⟩ := Finset.mem_filter.1 hparties
  refine Finset.mem_filter.2 ⟨?_, ?_⟩
  · exact (mem_drawings unique h).2 (swap_mem ha hb ((mem_drawings unique h).1 hdrawn))
  · exact List.mem_map.2 ⟨a, hchosen, Equiv.swap_apply_left a b⟩

theorem card_with (unique : ids.Nodup) (h : wanted ≤ ids.length) (ha : a ∈ ids) :
    ids.length * ((drawings ids wanted).filter (a ∈ ·)).card =
      ids.length.descFactorial wanted * wanted := by
  rw [← card_drawings unique h, ← List.toFinset_card_of_nodup unique]
  -- pairs of a choice and a candidate in it, counted by candidates and by choices
  refine Finset.card_mul_eq_card_mul (fun id parties => id ∈ parties) (fun id hid => ?_)
    fun parties hparties => ?_
  · have hid := List.mem_toFinset.1 hid
    exact Nat.le_antisymm (card_with_le unique h hid ha) (card_with_le unique h ha hid)
  · obtain ⟨hlength, hnodup, hknown⟩ := (mem_drawings unique h).1 hparties
    have hbelow : ids.toFinset.bipartiteBelow (fun id parties => id ∈ parties) parties =
        parties.toFinset := by
      ext id
      simp only [Finset.mem_bipartiteBelow, List.mem_toFinset]
      exact and_iff_right_of_imp (hknown ·)
    rw [hbelow, List.toFinset_card_of_nodup hnodup, hlength]

theorem share_with (unique : ids.Nodup) (h : wanted ≤ ids.length) (ha : a ∈ ids) :
    (((drawings ids wanted).filter (a ∈ ·)).card : ℝ≥0∞) / ids.length.descFactorial wanted =
      wanted / ids.length := by
  have hids : (ids.length : ℝ≥0∞) ≠ 0 := Nat.cast_ne_zero.2 (Nat.ne_of_gt (List.length_pos_of_mem ha))
  have hall : (ids.length.descFactorial wanted : ℝ≥0∞) ≠ 0 :=
    Nat.cast_ne_zero.2 (mt Nat.descFactorial_eq_zero_iff_lt.1 (Nat.not_lt_of_le h))
  rw [ENNReal.div_eq_div_iff hids (ENNReal.natCast_ne_top _) hall (ENNReal.natCast_ne_top _)]
  exact_mod_cast card_with unique h ha

end Count

section Chance

variable {Ω : Type u} {count wanted : Nat} {numbers : (i : Fin wanted) → Ω → Fin (count - i)}

def said (numbers : (i : Fin wanted) → Ω → Fin (count - i)) (ω : Ω) : Script count wanted :=
  fun i => numbers i ω

theorem setOf_said (s : Script count wanted) :
    {ω | said numbers ω = s} = ⋂ i, {ω | numbers i ω = s i} := by
  ext ω
  simp [said, funext_iff]

variable [MeasurableSpace Ω]

structure Fair (μ : Measure Ω) (numbers : (i : Fin wanted) → Ω → Fin (count - i)) : Prop where
  measurable : ∀ i, Measurable (numbers i)
  uniform : ∀ i k, μ {ω | numbers i ω = k} = ((count - i : Nat) : ℝ≥0∞)⁻¹
  independent : iIndepFun numbers μ

variable {μ : Measure Ω} {ids parties : List NodeId} {id : NodeId}

namespace Fair

theorem measurableSet_said (fair : Fair μ numbers) (s : Script count wanted) :
    MeasurableSet {ω | said numbers ω = s} := by
  rw [setOf_said]
  exact .iInter fun i => fair.measurable i (measurableSet_singleton (s i))

theorem measure_said (fair : Fair μ numbers) (s : Script count wanted) :
    μ {ω | said numbers ω = s} = (count.descFactorial wanted : ℝ≥0∞)⁻¹ := by
  have hpart : ∀ i, MeasurableSet[(inferInstance : MeasurableSpace _).comap (numbers i)]
      {ω | numbers i ω = s i} := fun i => ⟨{s i}, measurableSet_singleton (s i), rfl⟩
  rw [setOf_said, fair.independent.meas_iInter hpart]
  simp only [fair.uniform]
  rw [← ENNReal.prod_inv_distrib fun i _ j _ _ => Or.inr (ENNReal.natCast_ne_top _),
    Nat.descFactorial_eq_prod_range, ← Fin.prod_univ_eq_prod_range (count - ·), Nat.cast_prod]

section Sampled

variable (fair : Fair μ numbers) (unique : ids.Nodup) (hcount : ids.length = count)
  (h : wanted ≤ count)

include unique hcount h in
theorem exists_script (hparties : parties ∈ quorums ids wanted) :
    ∃ s : Script count wanted, ∀ s' : Script count wanted,
      sample s'.draws 0 wanted ids = parties ↔ s' = s := by
  have hbij := Script.bijOn_sample unique hcount h
  obtain ⟨s, -, hs⟩ := hbij.surjOn hparties
  refine ⟨s, fun s' => ⟨fun hs' => ?_, fun heq => heq ▸ hs⟩⟩
  exact hbij.injOn (Set.mem_univ _) (Set.mem_univ _) (hs'.trans hs.symm)

include fair unique hcount h

theorem measurableSet_sample (hparties : parties ∈ quorums ids wanted) :
    MeasurableSet {ω | sample (said numbers ω).draws 0 wanted ids = parties} := by
  obtain ⟨s, hs⟩ := exists_script unique hcount h hparties
  simp only [hs]
  exact fair.measurableSet_said s

theorem measure_sample (hparties : parties ∈ quorums ids wanted) :
    μ {ω | sample (said numbers ω).draws 0 wanted ids = parties} =
      (count.descFactorial wanted : ℝ≥0∞)⁻¹ := by
  obtain ⟨s, hs⟩ := exists_script unique hcount h hparties
  simp only [hs]
  exact fair.measure_said s

theorem measure_mem_sample (hid : id ∈ ids) :
    μ {ω | id ∈ sample (said numbers ω).draws 0 wanted ids} = (wanted : ℝ≥0∞) / count := by
  subst hcount
  let sampled ω := sample (said numbers ω).draws 0 wanted ids
  let having := (drawings ids wanted).filter (id ∈ ·)
  have hquorum : ∀ parties ∈ having, parties ∈ quorums ids wanted := fun parties hparties =>
    (mem_drawings unique h).1 (Finset.mem_filter.1 hparties).1
  have hevent : {ω | id ∈ sampled ω} = Set.preimage sampled having := by
    ext ω
    have hdrawn : sampled ω ∈ drawings ids wanted :=
      (mem_drawings unique h).2 (sample_mem_quorums unique h)
    simp [having, hdrawn]
  calc μ {ω | id ∈ sampled ω}
      = ∑ parties ∈ having, μ {ω | sampled ω = parties} := by
        rw [hevent]
        exact (sum_measure_preimage_singleton having fun parties hparties =>
          fair.measurableSet_sample unique rfl h (hquorum parties hparties)).symm
    _ = ∑ _ ∈ having, (ids.length.descFactorial wanted : ℝ≥0∞)⁻¹ :=
        Finset.sum_congr rfl fun parties hparties =>
          fair.measure_sample unique rfl h (hquorum parties hparties)
    _ = having.card / ids.length.descFactorial wanted := by
        rw [Finset.sum_const, nsmul_eq_mul, div_eq_mul_inv]
    _ = wanted / ids.length := share_with unique h hid

end Sampled

theorem pi (h : wanted ≤ count) :
    Fair (Measure.pi fun i : Fin wanted => uniformOn (.univ : Set (Fin (count - i))))
      (fun i (s : Script count wanted) => s i) := by
  have hnonempty : ∀ i : Fin wanted, Nonempty (Fin (count - i)) := fun i => ⟨⟨0, by omega⟩⟩
  refine ⟨measurable_pi_apply, fun i k => ?_, iIndepFun_pi fun i => aemeasurable_id⟩
  have hsingle := (measurePreserving_eval
    (fun i : Fin wanted => uniformOn (.univ : Set (Fin (count - i)))) i).measure_preimage
    (measurableSet_singleton k).nullMeasurableSet
  refine hsingle.trans ?_
  rw [uniformOn_univ, Measure.count_singleton, Fintype.card_fin, one_div]

end Fair

end Chance

section Random

variable {nodes : List Node} {threshold : Nat}

def candidates (nodes : List Node) : List NodeId :=
  ((nodes.filter Node.isOnline).mergeSort Registry.idOrder).map Node.id

theorem candidates_perm (nodes : List Node) :
    (candidates nodes).Perm ((nodes.filter Node.isOnline).map Node.id) :=
  (List.mergeSort_perm _ _).map Node.id

theorem length_candidates (nodes : List Node) :
    (candidates nodes).length = (nodes.filter Node.isOnline).length := by
  rw [candidates, List.length_map, List.length_mergeSort]

theorem quorums_of_perm {ids ids' : List NodeId} (h : ids.Perm ids') (wanted : Nat) :
    quorums ids wanted = quorums ids' wanted := by
  ext parties
  simp only [quorums, Set.mem_ofPred_eq, List.subset_def, h.mem_iff]

theorem select_random (pos : 1 ≤ threshold) (enough : threshold ≤ (nodes.filter Node.isOnline).length)
    (total : Nat) (session : SessionId) (draws : Draws) :
    select .random nodes total threshold session draws =
      .ok (sample draws 0 threshold (candidates nodes)) :=
  select_of_enough (Nat.ne_of_gt pos) enough nofun

theorem random_is_unbiased (unique : (nodes.map Node.id).Nodup) (pos : 1 ≤ threshold)
    (enough : threshold ≤ (nodes.filter Node.isOnline).length) (total : Nat) (session : SessionId) :
    let ids := (nodes.filter Node.isOnline).map Node.id
    let count := (nodes.filter Node.isOnline).length
    ∃ chosen : Script count threshold → List NodeId,
      (∀ s, select .random nodes total threshold session s.draws = .ok (chosen s)) ∧
      Set.BijOn chosen Set.univ (quorums ids threshold) ∧
      (∀ {Ω : Type u} [MeasurableSpace Ω] (μ : Measure Ω)
          (numbers : (i : Fin threshold) → Ω → Fin (count - i)), Fair μ numbers →
        (∀ parties ∈ quorums ids threshold,
          μ {ω | chosen (said numbers ω) = parties} = (count.descFactorial threshold : ℝ≥0∞)⁻¹) ∧
        ∀ id ∈ ids, μ {ω | id ∈ chosen (said numbers ω)} = (threshold : ℝ≥0∞) / count) ∧
      (counts threshold count).length = threshold ∧
      ∀ {m : Type → Type} [Monad m] [LawfulMonad m] (source : Nat → m Nat),
        Except.ok <$> sampleFrom source threshold (candidates nodes) =
          (fun numbers => select .random nodes total threshold session (listed numbers)) <$>
            (counts threshold count).mapM source := by
  intro ids count
  have hperm := candidates_perm nodes
  have hunique : (candidates nodes).Nodup := hperm.nodup_iff.2 (nodup_online unique)
  have hcount : (candidates nodes).length = count := length_candidates nodes
  have hquorums : quorums (candidates nodes) threshold = quorums ids threshold :=
    quorums_of_perm hperm threshold
  refine ⟨fun s => sample s.draws 0 threshold (candidates nodes), fun s =>
    select_random pos enough total session s.draws, ?_, ?_, length_counts threshold count, ?_⟩
  · exact hquorums ▸ Script.bijOn_sample hunique hcount enough
  · intro Ω _ μ numbers fair
    refine ⟨fun parties hparties => ?_, fun id hid => ?_⟩
    · exact fair.measure_sample hunique hcount enough (hquorums ▸ hparties)
    · exact fair.measure_mem_sample hunique hcount enough (hperm.mem_iff.2 hid)
  · intro m _ _ source
    simp only [select_random pos enough]
    rw [sampleFrom_eq source (hcount ▸ enough), Functor.map_map, hcount]

end Random

def squad : List Node :=
  [.fresh ⟨0, 0⟩ ⟨3⟩ "three", { Node.fresh ⟨0, 0⟩ ⟨2⟩ "two" with status := .offline },
    .fresh ⟨0, 0⟩ ⟨1⟩ "one", .fresh ⟨0, 0⟩ ⟨4⟩ "four"]

theorem random_is_unbiased_squad :
    (squad.map Node.id).Nodup ∧ (squad.filter Node.isOnline).length = 3 ∧
      ∃ μ : Measure (Script (squad.filter Node.isOnline).length 2), Fair μ (fun i s => s i) ∧
        μ {s | select .random squad 4 2 ⟨"S1"⟩ s.draws = .ok [⟨4⟩, ⟨1⟩]} = 6⁻¹ ∧
        μ {s | ∃ parties, select .random squad 4 2 ⟨"S1"⟩ s.draws = .ok parties ∧ ⟨1⟩ ∈ parties} =
          2 / 3 := by
  have unique : (squad.map Node.id).Nodup := by decide
  have hcount : (squad.filter Node.isOnline).length = 3 := by decide
  have enough : 2 ≤ (squad.filter Node.isOnline).length := by decide
  have hlists : (squad.filter Node.isOnline).length.descFactorial 2 = 6 := by decide
  obtain ⟨chosen, hselect, -, hchance, -⟩ := random_is_unbiased unique (by decide) enough 4 ⟨"S1"⟩
  obtain ⟨hquorum, hmember⟩ := hchance _ _ (Fair.pi enough)
  refine ⟨unique, hcount, _, Fair.pi enough, ?_, ?_⟩
  · simp only [hselect, Except.ok.injEq]
    refine (hquorum [⟨4⟩, ⟨1⟩] ⟨by decide, by decide, by decide⟩).trans ?_
    rw [hlists, Nat.cast_ofNat]
  · simp only [hselect, Except.ok.injEq, exists_eq_left']
    refine (hmember ⟨1⟩ (by decide)).trans ?_
    rw [hcount, Nat.cast_ofNat, Nat.cast_ofNat]

end Conclave.Quorum

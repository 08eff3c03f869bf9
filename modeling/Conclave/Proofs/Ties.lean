import Conclave.Proofs.Ranking

namespace Conclave.Quorum

def AlwaysFirst (policy : Policy) (nodes : List Node) (first second : NodeId) : Prop :=
  ∀ total threshold session draws parties,
    select policy nodes total threshold session draws = .ok parties →
    second ∈ parties → [first, second].Sublist parties

section Tie

variable {nodes : List Node} {a b : Node}

theorem alwaysFirst_iff {policy : Policy} {measure : Node → Int} (measured : Measures policy measure)
    (unique : (nodes.map Node.id).Nodup) (ha : a ∈ nodes.filter Node.isOnline)
    (hb : b ∈ nodes.filter Node.isOnline) :
    AlwaysFirst policy nodes a.id b.id ↔ standing measure a < standing measure b := by
  have hunique := nodup_online unique
  obtain ⟨listing, ranked⟩ : ∃ listing, Ranked measure (nodes.filter Node.isOnline) listing :=
    ⟨_, ranked_mergeSort measure hunique⟩
  constructor
  · intro h
    have hpos : 1 ≤ (nodes.filter Node.isOnline).length := List.length_pos_of_mem ha
    have hselect := select_of_measured measured hpos (le_refl _) 0 ⟨""⟩ fun _ => 0
    have hall : listing.take (nodes.filter Node.isOnline).length = listing :=
      List.take_of_length_le ranked.perm.length_eq.le
    rw [firstRanked_eq hunique ranked] at hselect
    have hchosen : b ∈ listing.take (nodes.filter Node.isOnline).length :=
      hall.symm ▸ ranked.perm.symm.subset hb
    exact ranked.lt_of_before hunique ha hb (h _ _ _ _ _ hselect (List.mem_map_of_mem hchosen))
  · intro higher total threshold session draws parties hselect hchosen
    obtain ⟨-, -, rfl⟩ := select_eq_ok hselect
    rw [picked_eq measured, firstRanked_eq hunique ranked] at hchosen ⊢
    exact (ranked.before ha higher (ranked.mem_take hunique hb hchosen)).map Node.id

theorem standing_lt_of_tie (tie : a.load.value = b.load.value) (lower : a.id.number < b.id.number) :
    standing (fun n => n.load.rank) a < standing (fun n => n.load.rank) b ↔
      ¬ (a.load = .zero ∧ b.load = .negativeZero) := by
  rw [standing_lt_iff]
  constructor
  · rintro h ⟨positive, negative⟩
    have hba : b.load.rank < a.load.rank := by
      rw [positive, negative]
      decide
    rcases h with hlt | ⟨heq, -⟩
    · exact lt_asymm hlt hba
    · exact absurd heq hba.ne'
  · intro h
    rcases lt_trichotomy a.load.rank b.load.rank with hlt | heq | hgt
    · exact Or.inl hlt
    · exact Or.inr ⟨heq, UInt64.lt_iff_toNat_lt.1 lower⟩
    · rcases Binary64.rank_lt_iff.1 hgt with hless | ⟨-, negative, positive⟩
      · exact absurd tie hless.ne'
      · obtain ⟨hb, ha⟩ := Binary64.zeros_of_tie tie.symm negative positive
        exact absurd ⟨ha, hb⟩ h

theorem mem_online {r : Registry} {n : Node} (stands : r.get? n.id = some n)
    (online : n.isOnline = true) : n ∈ r.nodes.values.filter Node.isOnline :=
  List.mem_filter.2 ⟨Keyed.mem_values_iff.2 ⟨n.id, stands⟩, online⟩

end Tie

theorem ties_by_id_iff {past : List (Timestamp × Registry.Operation)} {a b : Node}
    (standsA : (Registry.reached past).get? a.id = some a)
    (standsB : (Registry.reached past).get? b.id = some b)
    (onlineA : a.isOnline = true) (onlineB : b.isOnline = true)
    (tie : a.load.value = b.load.value) (lower : a.id.number < b.id.number) :
    let lowerFirst := AlwaysFirst .loadBased (Registry.reached past).nodes.values a.id b.id
    (a.load.InUnit ∧ b.load.InUnit) ∧
    (lowerFirst ↔ ¬ (a.load = .zero ∧ b.load = .negativeZero)) ∧
    ((∀ e ∈ past, e.2.load? ≠ some .negativeZero) → lowerFirst) := by
  intro lowerFirst
  have unique := Registry.nodup_ids (Registry.named_reached past)
  have hiff : lowerFirst ↔ ¬ (a.load = .zero ∧ b.load = .negativeZero) :=
    (alwaysFirst_iff .load unique (mem_online standsA onlineA) (mem_online standsB onlineB)).trans
      (standing_lt_of_tie tie lower)
  refine ⟨⟨Registry.inUnit_reached past _ _ standsA, Registry.inUnit_reached past _ _ standsB⟩, hiff,
    fun unsaid => hiff.2 fun zeros => ?_⟩
  have hnone : (Registry.reached past).EveryLoad (· ≠ .negativeZero) :=
    Registry.everyLoad_reached (by decide) fun e he load hload =>
      mt Binary64.clampUnit_eq_negativeZero.1 fun h => unsaid e he (h ▸ hload)
  exact hnone _ _ standsB zeros.2

def negativeFrom (id : NodeId) : List (Timestamp × Registry.Operation) :=
  [(⟨3, 0⟩, .report id .negativeZero .online), (⟨2, 0⟩, .register ⟨2⟩ "http://two"),
    (⟨1, 0⟩, .register ⟨1⟩ "http://one")]

def freshNegative (id : NodeId) (address : String) : Node :=
  { Node.fresh ⟨3, 0⟩ id address with load := .negativeZero }

theorem value_zeros : Binary64.zero.value = Binary64.negativeZero.value := by
  rw [Binary64.value_of_positive rfl, Binary64.value_of_negative rfl]
  exact Binary64.size_zero.trans (neg_eq_zero.2 Binary64.size_zero).symm

theorem ranked_negative :
    Ranked (fun n => n.load.rank)
      ((Registry.reached (negativeFrom ⟨2⟩)).nodes.values.filter Node.isOnline)
      [freshNegative ⟨2⟩ "http://two", .fresh ⟨1, 0⟩ ⟨1⟩ "http://one"] := by
  refine ⟨by decide, ?_⟩
  simp only [standing_lt_iff]
  decide

theorem higher_id_first :
    let r := Registry.reached (negativeFrom ⟨2⟩)
    r.get? ⟨1⟩ = some (.fresh ⟨1, 0⟩ ⟨1⟩ "http://one") ∧
      r.get? ⟨2⟩ = some (freshNegative ⟨2⟩ "http://two") ∧
      Binary64.zero.value = Binary64.negativeZero.value ∧
      select .loadBased r.nodes.values 2 1 ⟨"S1"⟩ (fun _ => 0) = .ok [⟨2⟩] ∧
      select .loadBased r.nodes.values 2 2 ⟨"S1"⟩ (fun _ => 0) = .ok [⟨2⟩, ⟨1⟩] ∧
      ¬ AlwaysFirst .loadBased r.nodes.values ⟨1⟩ ⟨2⟩ := by
  intro r
  have unique : ((r.nodes.values.filter Node.isOnline).map Node.id).Nodup := by decide
  have enough : 2 ≤ (r.nodes.values.filter Node.isOnline).length := by decide
  have hselect (count : Nat) (pos : 1 ≤ count) (h : count ≤ 2) :=
    (select_of_measured .load pos (h.trans enough) 2 ⟨"S1"⟩ fun _ => 0).trans
      (congrArg Except.ok (firstRanked_eq unique ranked_negative))
  have halone := hselect 1 (by decide) (by decide)
  refine ⟨by decide, by decide, value_zeros, halone, hselect 2 (by decide) (by decide), fun h => ?_⟩
  exact absurd (h _ _ _ _ _ halone List.mem_cons_self) (by decide)

theorem ties_by_id_iff_lower_negative :
    (Registry.reached (negativeFrom ⟨1⟩)).get? ⟨1⟩ = some (freshNegative ⟨1⟩ "http://one") ∧
      (Registry.reached (negativeFrom ⟨1⟩)).get? ⟨2⟩ = some (.fresh ⟨2, 0⟩ ⟨2⟩ "http://two") ∧
      AlwaysFirst .loadBased (Registry.reached (negativeFrom ⟨1⟩)).nodes.values ⟨1⟩ ⟨2⟩ := by
  have stands : (Registry.reached (negativeFrom ⟨1⟩)).get? ⟨1⟩ =
      some (freshNegative ⟨1⟩ "http://one") := by decide
  have stands' : (Registry.reached (negativeFrom ⟨1⟩)).get? ⟨2⟩ =
      some (.fresh ⟨2, 0⟩ ⟨2⟩ "http://two") := by decide
  have hties := ties_by_id_iff (a := freshNegative ⟨1⟩ "http://one")
    (b := .fresh ⟨2, 0⟩ ⟨2⟩ "http://two") stands stands' rfl rfl value_zeros.symm (by decide)
  exact ⟨stands, stands', hties.2.1.2 (by decide)⟩

end Conclave.Quorum

import Conclave.Proofs.Loads
import Conclave.Proofs.Quorum
import Mathlib.Data.Prod.Lex
import Mathlib.Data.List.Sort

namespace Conclave.Quorum

inductive Measures : Policy → (Node → Int) → Prop
  | load : Measures .loadBased fun n => n.load.rank
  | tasks : Measures .availabilityBased fun n => n.activeTasks.toNat

def standing (measure : Node → Int) (n : Node) : Int ×ₗ Nat := toLex (measure n, n.id.number.toNat)

structure Ranked (measure : Node → Int) (nodes listing : List Node) : Prop where
  perm : listing.Perm nodes
  ascending : listing.Pairwise fun a b => standing measure a < standing measure b

def firstRanked (measure : Node → Int) (count : Nat) (nodes : List Node) : List NodeId :=
  firstIds (fun a b => decide (standing measure a ≤ standing measure b)) count nodes

section Standing

variable {measure : Node → Int} {a b : Node}

theorem standing_le_iff :
    standing measure a ≤ standing measure b ↔
      measure a < measure b ∨ measure a = measure b ∧ a.id.number.toNat ≤ b.id.number.toNat :=
  Prod.Lex.toLex_le_toLex

theorem standing_lt_iff :
    standing measure a < standing measure b ↔
      measure a < measure b ∨ measure a = measure b ∧ a.id.number.toNat < b.id.number.toNat :=
  Prod.Lex.toLex_lt_toLex

theorem id_of_standing (h : standing measure a = standing measure b) : a.id = b.id := by
  have hnumber : a.id.number = b.id.number := UInt64.toNat_inj.1 (Prod.ext_iff.1 (toLex.injective h)).2
  exact congrArg NodeId.mk hnumber

theorem loadOrder_eq :
    loadOrder = fun a b =>
      decide (standing (fun n => n.load.rank) a ≤ standing (fun n => n.load.rank) b) := by
  funext a b
  rw [Bool.eq_iff_iff, decide_eq_true_iff, standing_le_iff]
  simp [loadOrder, NodeId.le]

theorem taskOrder_eq :
    taskOrder = fun a b =>
      decide (standing (fun n => n.activeTasks.toNat) a ≤ standing (fun n => n.activeTasks.toNat) b) := by
  funext a b
  rw [Bool.eq_iff_iff, decide_eq_true_iff, standing_le_iff]
  simp [taskOrder, NodeId.le, UInt32.lt_iff_toNat_lt, ← UInt32.toNat_inj]

theorem picked_eq {policy : Policy} (measured : Measures policy measure) (nodes : List Node)
    (total threshold : Nat) (session : SessionId) (draws : Draws) :
    picked policy nodes total threshold session draws =
      firstRanked measure threshold (nodes.filter Node.isOnline) := by
  cases measured with
  | load => rw [picked, firstRanked, loadOrder_eq]
  | tasks => rw [picked, firstRanked, taskOrder_eq]

end Standing

section Ranked

variable {measure : Node → Int} {nodes listing other : List Node} {a b : Node} {count : Nat}

theorem Ranked.unique (ranked : Ranked measure nodes listing) (h : Ranked measure nodes other) :
    other = listing :=
  (h.perm.trans ranked.perm.symm).eq_of_pairwise
    (fun _ _ _ _ before after => absurd after (lt_asymm before)) h.ascending ranked.ascending

theorem ranked_mergeSort (measure : Node → Int) (unique : (nodes.map Node.id).Nodup) :
    Ranked measure nodes
      (nodes.mergeSort fun a b => decide (standing measure a ≤ standing measure b)) := by
  have hperm := List.mergeSort_perm nodes fun a b => decide (standing measure a ≤ standing measure b)
  have hids : (nodes.mergeSort fun a b => decide (standing measure a ≤ standing measure b)).Pairwise
      fun a b => a.id ≠ b.id :=
    List.pairwise_map.1 ((hperm.map Node.id).nodup_iff.2 unique)
  have htrans : ∀ a b c : Node, decide (standing measure a ≤ standing measure b) = true →
      decide (standing measure b ≤ standing measure c) = true →
        decide (standing measure a ≤ standing measure c) = true := by
    intro a b c hab hbc
    rw [decide_eq_true_iff] at hab hbc ⊢
    exact hab.trans hbc
  have htotal : ∀ a b : Node, (decide (standing measure a ≤ standing measure b) ||
      decide (standing measure b ≤ standing measure a)) = true := by
    intro a b
    rw [Bool.or_eq_true, decide_eq_true_iff, decide_eq_true_iff]
    exact le_total _ _
  have hsorted := List.pairwise_mergeSort htrans htotal nodes
  refine ⟨hperm, hsorted.imp₂ (fun a b hle hne => ?_) hids⟩
  exact lt_of_le_of_ne (of_decide_eq_true hle) fun heq => hne (id_of_standing heq)

theorem firstRanked_eq (unique : (nodes.map Node.id).Nodup) (ranked : Ranked measure nodes listing) :
    firstRanked measure count nodes = (listing.take count).map Node.id := by
  rw [firstRanked, firstIds, ranked.unique (ranked_mergeSort measure unique)]

theorem Ranked.mem_take (ranked : Ranked measure nodes listing) (unique : (nodes.map Node.id).Nodup)
    (ha : a ∈ nodes) (h : a.id ∈ (listing.take count).map Node.id) : a ∈ listing.take count := by
  obtain ⟨n, hn, hid⟩ := List.mem_map.1 h
  have hnodes : n ∈ nodes := ranked.perm.subset (List.mem_of_mem_take hn)
  exact List.inj_on_of_nodup_map unique hnodes ha hid ▸ hn

theorem Ranked.before (ranked : Ranked measure nodes listing) (ha : a ∈ nodes)
    (higher : standing measure a < standing measure b) (hb : b ∈ listing.take count) :
    [a, b].Sublist (listing.take count) := by
  obtain ⟨ahead, behind, htake⟩ := List.append_of_mem hb
  have hlisting : listing = ahead ++ b :: (behind ++ listing.drop count) := by
    rw [← List.cons_append, ← List.append_assoc, ← htake, List.take_append_drop]
  have hascending := ranked.ascending
  rw [hlisting] at hascending
  have hafter := (List.pairwise_cons.1 (List.pairwise_append.1 hascending).2.1).1
  have hahead : a ∈ ahead := by
    rcases List.mem_append.1 (hlisting ▸ ranked.perm.symm.subset ha) with h | h
    · exact h
    · rcases List.mem_cons.1 h with rfl | h
      · exact absurd higher (lt_irrefl _)
      · exact absurd higher (lt_asymm (hafter a h))
  rw [htake]
  exact (List.singleton_sublist.2 hahead).append (List.singleton_sublist.2 List.mem_cons_self)

theorem Ranked.lt_of_before (ranked : Ranked measure nodes listing)
    (unique : (nodes.map Node.id).Nodup) (ha : a ∈ nodes) (hb : b ∈ nodes)
    (h : [a.id, b.id].Sublist ((listing.take count).map Node.id)) :
    standing measure a < standing measure b := by
  obtain ⟨pair, hpair, hids⟩ := List.sublist_map_iff.1 h
  obtain ⟨a', rest, rfl, hida, hrest⟩ := List.map_eq_cons_iff.1 hids.symm
  obtain ⟨b', none, rfl, hidb, hnone⟩ := List.map_eq_cons_iff.1 hrest
  have hsub : (a' :: b' :: none).Sublist listing := hpair.trans (List.take_sublist _ _)
  have hmem : ∀ n ∈ a' :: b' :: none, n ∈ nodes := fun n hn => ranked.perm.subset (hsub.subset hn)
  have hlt := List.rel_of_pairwise_cons (ranked.ascending.sublist hsub) List.mem_cons_self
  have haa := List.inj_on_of_nodup_map unique (hmem a' (by simp)) ha hida
  have hbb := List.inj_on_of_nodup_map unique (hmem b' (by simp)) hb hidb
  exact haa ▸ hbb ▸ hlt

end Ranked

section Best

variable {policy : Policy} {measure : Node → Int} {nodes nodes' listing : List Node} {threshold : Nat}

theorem select_of_measured (measured : Measures policy measure) (pos : 1 ≤ threshold)
    (enough : threshold ≤ (nodes.filter Node.isOnline).length) (total : Nat) (session : SessionId)
    (draws : Draws) :
    select policy nodes total threshold session draws =
      .ok (firstRanked measure threshold (nodes.filter Node.isOnline)) := by
  have hpolicy : policy ≠ .roundRobin := by
    cases measured <;> nofun
  rw [select_of_enough (Nat.ne_of_gt pos) enough fun h => absurd h hpolicy, picked_eq measured]

theorem best_are_chosen (measured : Measures policy measure) (unique : (nodes.map Node.id).Nodup)
    (pos : 1 ≤ threshold) (enough : threshold ≤ (nodes.filter Node.isOnline).length) :
    let online := nodes.filter Node.isOnline
    ∃ listing, (∀ other, Ranked measure online other ↔ other = listing) ∧
      let parties := (listing.take threshold).map Node.id
      (∀ nodes' total session draws, (nodes'.filter Node.isOnline).Perm online →
        select policy nodes' total threshold session draws = .ok parties) ∧
      (∀ a ∈ online, ∀ b ∈ online, a.id ∈ parties → b.id ∉ parties →
        standing measure a < standing measure b) ∧
      ∀ more total session draws, threshold ≤ more → more ≤ online.length →
        ∃ others, select policy nodes total more session draws = .ok (parties ++ others) := by
  intro online
  have hunique : (online.map Node.id).Nodup := nodup_online unique
  obtain ⟨listing, ranked⟩ : ∃ listing, Ranked measure online listing :=
    ⟨_, ranked_mergeSort measure hunique⟩
  refine ⟨listing, fun other => ⟨ranked.unique, fun h => h ▸ ranked⟩, ?_, ?_, ?_⟩
  · intro nodes' total session draws same
    have hunique' : ((nodes'.filter Node.isOnline).map Node.id).Nodup :=
      (same.map Node.id).nodup_iff.2 hunique
    have ranked' := ranked_mergeSort measure hunique'
    rw [select_of_measured measured pos (same.length_eq ▸ enough), firstRanked_eq hunique' ranked',
      ranked.unique ⟨ranked'.perm.trans same, ranked'.ascending⟩]
  · intro a ha b hb chosen left
    have hchosen := ranked.mem_take hunique ha chosen
    refine lt_of_not_ge fun hle => left ?_
    rcases hle.lt_or_eq with higher | equal
    · exact List.mem_map_of_mem ((ranked.before hb higher hchosen).subset List.mem_cons_self)
    · exact id_of_standing equal ▸ chosen
  · intro more total session draws hle hmore
    obtain ⟨others, hothers⟩ := (List.take_prefix_take_left hle (l := listing)).map Node.id
    refine ⟨others, ?_⟩
    rw [select_of_measured measured (pos.trans hle) hmore, firstRanked_eq hunique ranked, hothers]

end Best

def mixed : List Node :=
  [{ Node.fresh ⟨0, 0⟩ ⟨2⟩ "two" with load := .ofParts false 0x3fe0000000000000 },
    { Node.fresh ⟨0, 0⟩ ⟨3⟩ "three" with status := .offline },
    { Node.fresh ⟨0, 0⟩ ⟨1⟩ "one" with load := .ofParts false 0x3fe0000000000000 },
    { Node.fresh ⟨0, 0⟩ ⟨4⟩ "four" with load := .ofParts true 0x7ff8000000000000 }]

def mixedListing : List Node :=
  [{ Node.fresh ⟨0, 0⟩ ⟨4⟩ "four" with load := .ofParts true 0x7ff8000000000000 },
    { Node.fresh ⟨0, 0⟩ ⟨1⟩ "one" with load := .ofParts false 0x3fe0000000000000 },
    { Node.fresh ⟨0, 0⟩ ⟨2⟩ "two" with load := .ofParts false 0x3fe0000000000000 }]

theorem ranked_mixed : Ranked (fun n => n.load.rank) (mixed.filter Node.isOnline) mixedListing := by
  refine ⟨by decide, ?_⟩
  simp only [standing_lt_iff]
  decide

theorem best_are_chosen_mixed :
    (mixed.map Node.id).Nodup ∧ 2 ≤ (mixed.filter Node.isOnline).length ∧
      select .loadBased mixed.reverse 0 2 ⟨"S1"⟩ (fun _ => 0) = .ok [⟨4⟩, ⟨1⟩] ∧
      ∃ others, select .loadBased mixed 0 3 ⟨"S1"⟩ (fun _ => 0) = .ok ([⟨4⟩, ⟨1⟩] ++ others) := by
  have unique : (mixed.map Node.id).Nodup := by decide
  have enough : 2 ≤ (mixed.filter Node.isOnline).length := by decide
  obtain ⟨listing, hlisting, hselect, -, hmore⟩ :=
    best_are_chosen .load unique (by decide) enough
  obtain rfl := (hlisting mixedListing).1 ranked_mixed
  exact ⟨unique, enough, hselect _ 0 _ _ (by decide), hmore 3 0 _ _ (by decide) (by decide)⟩

end Conclave.Quorum

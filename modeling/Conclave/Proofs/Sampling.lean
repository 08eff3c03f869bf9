import Conclave.Proofs.Quorum
import Mathlib.Data.Finset.Image
import Mathlib.Data.Set.Function

namespace Conclave.Quorum

def later (draws : Draws) : Draws := fun i => draws (i + 1)

def after (first : Nat) (others : Draws) : Draws
  | 0 => first
  | i + 1 => others i

def Within (draws : Draws) (wanted count : Nat) : Prop := ∀ i < wanted, draws i < count - i

def quorums (ids : List NodeId) (wanted : Nat) : Set (List NodeId) :=
  {parties | parties.length = wanted ∧ parties.Nodup ∧ parties ⊆ ids}

section Sample

variable {draws draws' : Draws} {wanted count : Nat} {ids : List NodeId}

theorem within_succ : Within draws (wanted + 1) ids.length ↔
    draws 0 < ids.length ∧ Within (later draws) wanted (ids.eraseIdx (draws 0)).length := by
  constructor
  · intro h
    have hfirst : draws 0 < ids.length := h 0 (Nat.succ_pos _)
    refine ⟨hfirst, fun i hi => ?_⟩
    have hlater := h (i + 1) (Nat.succ_lt_succ hi)
    rw [List.length_eraseIdx_of_lt hfirst, later]
    omega
  · rintro ⟨hfirst, hlater⟩ i hi
    cases i with
    | zero => exact hfirst
    | succ i =>
        have hi' := hlater i (Nat.succ_lt_succ_iff.1 hi)
        rw [List.length_eraseIdx_of_lt hfirst, later] at hi'
        omega

theorem sample_later (draws : Draws) (drawn wanted : Nat) (ids : List NodeId) :
    sample draws (drawn + 1) wanted ids = sample (later draws) drawn wanted ids := by
  induction wanted generalizing drawn ids with
  | zero => rw [sample, sample]
  | succ wanted ih =>
      cases ids with
      | nil => simp only [sample]
      | cons first rest =>
          rw [sample, sample, ih]
          rfl

theorem sample_succ (h : draws 0 < ids.length) :
    sample draws 0 (wanted + 1) ids =
      ids[draws 0] :: sample (later draws) 0 wanted (ids.eraseIdx (draws 0)) := by
  cases ids with
  | nil => exact absurd h (Nat.not_lt_zero _)
  | cons first rest =>
      have hmod : draws 0 % (rest.length + 1) = draws 0 := Nat.mod_eq_of_lt h
      rw [sample, hmod, List.getD_eq_getElem _ _ h, sample_later]

theorem sample_congr (h : Within draws wanted ids.length) (same : ∀ i < wanted, draws i = draws' i) :
    sample draws 0 wanted ids = sample draws' 0 wanted ids := by
  induction wanted generalizing draws draws' ids with
  | zero => rw [sample, sample]
  | succ wanted ih =>
      have hfirst : draws 0 = draws' 0 := same 0 (Nat.succ_pos _)
      have hparts := within_succ.1 h
      have hlater : ∀ i < wanted, later draws i = later draws' i := fun i hi =>
        same (i + 1) (Nat.succ_lt_succ hi)
      rw [sample_succ hparts.1, sample_succ (hfirst ▸ hparts.1), ih hparts.2 hlater]
      simp only [hfirst]

theorem draws_eq_of_sample (unique : ids.Nodup) (h : Within draws wanted ids.length)
    (h' : Within draws' wanted ids.length)
    (same : sample draws 0 wanted ids = sample draws' 0 wanted ids) :
    ∀ i < wanted, draws i = draws' i := by
  induction wanted generalizing draws draws' ids with
  | zero => exact fun i hi => absurd hi (Nat.not_lt_zero i)
  | succ wanted ih =>
      have hparts := within_succ.1 h
      have hparts' := within_succ.1 h'
      rw [sample_succ hparts.1, sample_succ hparts'.1, List.cons.injEq] at same
      have hfirst : draws 0 = draws' 0 := unique.getElem_inj_iff.1 same.1
      have hrest : (ids.eraseIdx (draws 0)).Nodup := unique.sublist (List.eraseIdx_sublist _ _)
      have hlater := ih hrest hparts.2 (hfirst ▸ hparts'.2) (hfirst ▸ same.2)
      intro i hi
      cases i with
      | zero => exact hfirst
      | succ i => exact hlater i (Nat.succ_lt_succ_iff.1 hi)

theorem exists_draws {parties : List NodeId} (unique : parties.Nodup) (known : parties ⊆ ids) :
    ∃ draws, Within draws parties.length ids.length ∧ sample draws 0 parties.length ids = parties := by
  induction parties generalizing ids with
  | nil => exact ⟨fun _ => 0, nofun, by rw [List.length_nil, sample]⟩
  | cons first others ih =>
      have hmem : first ∈ ids := known List.mem_cons_self
      obtain ⟨hnew, hothers⟩ := List.nodup_cons.1 unique
      -- the number to draw first is the place of the first party, and the others are still there
      have hrest : others ⊆ ids.eraseIdx (ids.idxOf first) := by
        intro id hid
        rw [← List.erase_eq_eraseIdx_of_idxOf rfl]
        have hne : id ≠ first := fun heq => hnew (heq ▸ hid)
        exact (List.mem_erase_of_ne hne).2 (known (List.mem_cons_of_mem _ hid))
      obtain ⟨draws, hwithin, hsample⟩ := ih hothers hrest
      have hindex : ids.idxOf first < ids.length := List.idxOf_lt_length_of_mem hmem
      have hfirst : after (ids.idxOf first) draws 0 < ids.length := hindex
      refine ⟨after (ids.idxOf first) draws, within_succ.2 ⟨hindex, hwithin⟩, ?_⟩
      rw [List.length_cons, sample_succ hfirst]
      exact congrArg₂ List.cons (List.getElem_idxOf hindex) hsample

theorem sample_mem_quorums (unique : ids.Nodup) (h : wanted ≤ ids.length) :
    sample draws 0 wanted ids ∈ quorums ids wanted :=
  ⟨length_sample h, nodup_sample unique, sample_subset⟩

end Sample

abbrev Script (count wanted : Nat) := (i : Fin wanted) → Fin (count - i)

namespace Script

variable {wanted count : Nat} {ids : List NodeId}

def draws (s : Script count wanted) : Draws := fun i => if h : i < wanted then s ⟨i, h⟩ else 0

theorem draws_apply (s : Script count wanted) (i : Fin wanted) : s.draws i = s i := dif_pos i.isLt

theorem within_draws (s : Script count wanted) : Within s.draws wanted count := fun i hi => by
  rw [s.draws_apply ⟨i, hi⟩]
  exact (s ⟨i, hi⟩).isLt

def ofDraws (draws : Draws) (h : Within draws wanted count) : Script count wanted :=
  fun i => ⟨draws i, h i i.isLt⟩

theorem bijOn_sample (unique : ids.Nodup) (hcount : ids.length = count) (h : wanted ≤ count) :
    Set.BijOn (fun s : Script count wanted => sample s.draws 0 wanted ids) Set.univ
      (quorums ids wanted) := by
  obtain rfl := hcount
  refine ⟨fun s _ => sample_mem_quorums unique h, fun s _ s' _ same => ?_, ?_⟩
  · have hdraws := draws_eq_of_sample unique s.within_draws s'.within_draws same
    funext i
    have hi := hdraws i i.isLt
    rw [draws_apply, draws_apply] at hi
    exact Fin.ext hi
  · rintro parties ⟨rfl, hnodup, hknown⟩
    obtain ⟨draws, hwithin, hsample⟩ := exists_draws hnodup hknown
    refine ⟨ofDraws draws hwithin, Set.mem_univ _, ?_⟩
    have hsame : ∀ i < parties.length, draws i = (ofDraws draws hwithin).draws i := fun i hi =>
      ((ofDraws draws hwithin).draws_apply ⟨i, hi⟩).symm
    exact (sample_congr hwithin hsame).symm.trans hsample

end Script

def sampleFrom {m : Type → Type} [Monad m] (source : Nat → m Nat) : Nat → List NodeId → m (List NodeId)
  | 0, _ => pure []
  | _, [] => pure []
  | wanted + 1, first :: rest => do
      let number ← source (rest.length + 1)
      let i := number % (rest.length + 1)
      let others ← sampleFrom source wanted ((first :: rest).eraseIdx i)
      pure ((first :: rest).getD i first :: others)

def counts (wanted count : Nat) : List Nat := (List.range wanted).map (count - ·)

def listed (numbers : List Nat) : Draws := fun i => numbers.getD i 0

theorem counts_succ (wanted count : Nat) :
    counts (wanted + 1) (count + 1) = (count + 1) :: counts wanted count := by
  rw [counts, List.range_succ_eq_map, List.map_cons, List.map_map, counts]
  refine congrArg _ (List.map_congr_left fun i _ => ?_)
  exact Nat.succ_sub_succ count i

theorem length_counts (wanted count : Nat) : (counts wanted count).length = wanted := by
  rw [counts, List.length_map, List.length_range]

theorem length_left (number : Nat) (first : NodeId) (rest : List NodeId) :
    ((first :: rest).eraseIdx (number % (rest.length + 1))).length = rest.length := by
  have hi : number % (rest.length + 1) < (first :: rest).length := Nat.mod_lt _ (Nat.succ_pos _)
  rw [List.length_eraseIdx_of_lt hi, List.length_cons, Nat.add_sub_cancel]

theorem sampleFrom_eq {m : Type → Type} [Monad m] [LawfulMonad m] (source : Nat → m Nat)
    {wanted : Nat} {ids : List NodeId} (h : wanted ≤ ids.length) :
    sampleFrom source wanted ids =
      (fun numbers => sample (listed numbers) 0 wanted ids) <$> (counts wanted ids.length).mapM source := by
  induction wanted generalizing ids with
  | zero => simp [sampleFrom, sample, counts]
  | succ wanted ih =>
      cases ids with
      | nil => simp at h
      | cons first rest =>
          rw [sampleFrom, List.length_cons, counts_succ, List.mapM_cons, map_bind]
          refine bind_congr fun number => ?_
          have hleft : wanted ≤ ((first :: rest).eraseIdx (number % (rest.length + 1))).length := by
            rw [length_left]
            exact Nat.le_of_succ_le_succ h
          dsimp only
          rw [ih hleft, length_left]
          simp only [bind_pure_comp, Functor.map_map]
          refine congrArg (· <$> _) (funext fun numbers => ?_)
          rw [sample, sample_later]
          rfl

end Conclave.Quorum

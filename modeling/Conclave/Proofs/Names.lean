import Conclave.Proofs.Spellings
import Conclave.Quorum
import Mathlib.Data.Bool.AllAny
import Mathlib.Data.List.Forall2

namespace Conclave

namespace Text

def Plain (c : Char) : Prop := c.toNat < 128 ∧ c ≠ 'k' ∧ isBlank c = false

instance (c : Char) : Decidable (Plain c) := inferInstanceAs (Decidable (_ ∧ _))

section Lower

variable {before cs : List Char} {c : Char}

theorem lowerRuns_beyond : ∀ r ∈ lowerRuns, r.last < 128 ∨
    (r.first = 0x212a ∧ r.last = 0x212a ∧ r.shift = -8383) ∨
    (128 ≤ r.first + r.shift ∧ r.last + r.shift < 0xd800) ∨
    (0xe000 ≤ r.first + r.shift ∧ r.last + r.shift < 0x110000) := by
  decide +kernel

theorem lowerChar_of_small (small : c.toNat < 128) : lowerChar c = [c.toLower] :=
  forall_char_lt (p := fun c => lowerChar c = [c.toLower]) (by decide +kernel) c small

theorem small_of_lowerChar (plain : ∀ d ∈ lowerChar c, Plain d) : c.toNat < 128 := by
  by_contra large
  unfold lowerChar at plain
  split at plain
  -- The dotted capital I leaves its dot behind.
  · have dot : Plain '\u0307' := plain _ (by simp)
    exact absurd dot (by decide)
  · split at plain
    · rename_i r found
      have holds := List.find?_some found
      simp only [CaseRun.holds, Bool.and_eq_true, decide_eq_true_eq] at holds
      have form := List.forall_mem_singleton.1 plain
      have valid {n : Nat} (h : n.isValidChar) (hn : 128 ≤ n) : ¬ Plain (Char.ofNat n) := by
        rw [Plain, Char.ofNat, dif_pos h]
        exact fun h => absurd h.1 (Nat.not_lt.2 hn)
      rcases lowerRuns_beyond r (List.mem_of_find?_eq_some found) with ascii | kelvin | low | high
      · omega
      · have here : c.toNat = 0x212a := by omega
        rw [here, kelvin.2.2] at form
        exact absurd form (by decide)
      · exact valid (.inl (by omega)) (by omega) form
      · exact valid (.inr ⟨by omega, by omega⟩) (by omega) form
    · exact large (plain c List.mem_cons_self).1

theorem lowerList_of_small (small : ∀ c ∈ cs, c.toNat < 128) :
    lowerList before cs = cs.map Char.toLower := by
  induction cs generalizing before with
  | nil => rfl
  | cons c cs ih =>
      obtain ⟨hc, hcs⟩ := List.forall_mem_cons.1 small
      have other : c ≠ 'Σ' := by
        rintro rfl
        exact absurd hc (by decide)
      rw [lowerList, if_neg other, lowerChar_of_small hc, ih hcs, List.map_cons, List.singleton_append]

theorem small_of_lowerList (plain : ∀ d ∈ lowerList before cs, Plain d) : ∀ c ∈ cs, c.toNat < 128 := by
  induction cs generalizing before with
  | nil => nofun
  | cons c cs ih =>
      rw [lowerList, List.forall_mem_append] at plain
      refine List.forall_mem_cons.2 ⟨?_, ih plain.2⟩
      split at plain
      · have sigma := List.forall_mem_singleton.1 plain.1
        split at sigma <;> exact absurd sigma (by decide)
      · exact small_of_lowerChar plain.1

end Lower

section Folded

variable {fold : Char → Char} {s name : String}

theorem small_of_map_lower (plain : ∀ d, fold d ∈ name.toList → Plain d)
    (same : (lower s).map fold = name) : ∀ c ∈ s.toList, c.toNat < 128 := by
  rw [lower, ← String.toList_inj, String.toList_map, String.toList_ofList] at same
  exact small_of_lowerList fun d hd => plain d (same ▸ List.mem_map_of_mem hd)

theorem map_lower_eq_iff (plain : ∀ d, fold d ∈ name.toList → Plain d) :
    (lower s).map fold = name ↔ s.toList.map (fold ∘ Char.toLower) = name.toList := by
  have lowered (small : ∀ c ∈ s.toList, c.toNat < 128) :
      ((lower s).map fold).toList = s.toList.map (fold ∘ Char.toLower) := by
    rw [String.toList_map, lower, String.toList_ofList, lowerList_of_small small, List.map_map]
  constructor
  · intro same
    rw [← lowered (small_of_map_lower plain same), same]
  · intro same
    rw [← String.toList_inj, lowered, same]
    intro c hc
    exact small_of_toLower (plain c.toLower (same ▸ List.mem_map_of_mem hc)).1

theorem map_lower_trim_eq_iff (plain : ∀ d, fold d ∈ name.toList → Plain d) :
    (lower (trim s)).map fold = name ↔
      ∃ core, Around core s ∧ core.map (fold ∘ Char.toLower) = name.toList := by
  rw [map_lower_eq_iff plain]
  constructor
  · exact fun same => ⟨_, around_trim s, same⟩
  · rintro ⟨core, around, same⟩
    rw [trim_of_around around, same]
    intro c hc
    obtain ⟨small, -, unblank⟩ := plain c.toLower (same ▸ List.mem_map_of_mem hc)
    have blanks : ∀ k < 128, isBlank (Char.ofNat k).toLower = isBlank (Char.ofNat k) := by
      decide +kernel
    have blank : isBlank c.toLower = isBlank c :=
      forall_char_lt (p := fun c => isBlank c.toLower = isBlank c) blanks c (small_of_toLower small)
    exact blank ▸ unblank

end Folded

def Spells (alike : Char → Char → Prop) (s name : String) : Prop :=
  ∃ core, Around core s ∧ List.Forall₂ alike core name.toList

def SameLetter (c d : Char) : Prop := c.toLower = d.toLower

def SameSign (c d : Char) : Prop := SameLetter c d ∨ (c ∈ ['-', '_'] ∧ d ∈ ['-', '_'])

instance : DecidableRel SameLetter := fun c d => inferInstanceAs (Decidable (c.toLower = d.toLower))

instance : DecidableRel SameSign := fun c d => inferInstanceAs (Decidable (SameLetter c d ∨ _))

theorem forall₂_iff_map {f : Char → Char} {alike : Char → Char → Prop} {cs ds : List Char}
    (agree : ∀ c, ∀ d ∈ ds, alike c d ↔ f c = d) : List.Forall₂ alike cs ds ↔ cs.map f = ds := by
  induction ds generalizing cs with
  | nil => rw [List.forall₂_nil_right_iff, List.map_eq_nil_iff]
  | cons d ds ih =>
      have hd (c : Char) : alike c d ↔ f c = d := agree c d List.mem_cons_self
      have hds (c : Char) : ∀ e ∈ ds, alike c e ↔ f c = e :=
        fun e he => agree c e (List.mem_cons_of_mem _ he)
      cases cs with
      | nil => simp
      | cons c cs => rw [List.forall₂_cons, List.map_cons, List.cons.injEq, hd, ih hds]

structure Names {α : Type} (all : List α) (name : α → String) (fold : Char → Char)
    (alike : Char → Char → Prop) : Prop where
  complete : ∀ a, a ∈ all
  distinct : ∀ a ∈ all, ∀ b ∈ all, name a = name b → a = b
  plain : ∀ a d, fold d ∈ (name a).toList → Plain d
  agree : ∀ a c, ∀ d ∈ (name a).toList, alike c d ↔ fold c.toLower = d

namespace Names

variable {α : Type} {all : List α} {name : α → String} {fold : Char → Char}
  {alike : Char → Char → Prop} {a : α} {s t : String}

theorem find?_eq_some (names : Names all name fold alike) :
    all.find? (fun b => name b = t) = some a ↔ t = name a := by
  have named {b : α} (found : all.find? (fun b => name b = t) = some b) : name b = t := by
    simpa using List.find?_some found
  constructor
  · exact fun found => (named found).symm
  · rintro rfl
    cases found : all.find? (fun b => name b = name a) with
    | none => exact absurd (List.find?_eq_none.1 found a (names.complete a)) (by simp)
    | some b => rw [names.distinct b (names.complete b) a (names.complete a) (named found)]

theorem spells_iff (names : Names all name fold alike) :
    (lower (trim s)).map fold = name a ↔ Spells alike s (name a) := by
  rw [map_lower_trim_eq_iff (names.plain a)]
  exact exists_congr fun core => and_congr_right fun _ => (forall₂_iff_map (names.agree a)).symm

theorem small_of_spells (names : Names all name fold alike) (spelled : Spells alike s (name a)) :
    ∀ c ∈ (trim s).toList, c.toNat < 128 :=
  small_of_map_lower (names.plain a) (names.spells_iff.2 spelled)

end Names

end Text

open Text

variable {s : String}

namespace NodeStatus

theorem names : Names all name id SameLetter := by
  have complete : ∀ v, v ∈ all := by
    intro v
    cases v <;> decide
  have checked : ∀ v ∈ all, v.name.toList.all fun d => Plain d ∧ d.toLower = d := by decide
  have letters (v : NodeStatus) : ∀ d ∈ v.name.toList, Plain d ∧ d.toLower = d :=
    List.all_iff_forall_prop.1 (checked v (complete v))
  refine ⟨complete, by decide, fun v d hd => (letters v d hd).1, fun v c d hd => ?_⟩
  rw [SameLetter, (letters v d hd).2, id]

theorem ofName?_eq_some {v : NodeStatus} :
    ofName? (lower (trim s)) = some v ↔ Spells SameLetter s v.name := by
  rw [← names.spells_iff, String.map_id]
  exact names.find?_eq_some

theorem parse_eq_ok {v : NodeStatus} : parse s = .ok v ↔ Spells SameLetter s v.name := by
  rw [← ofName?_eq_some, parse]
  cases ofName? (lower (trim s)) <;> simp

theorem parse_eq_error {t : String} :
    parse s = .error t ↔ t = lower (trim s) ∧ ∀ v : NodeStatus, ¬ Spells SameLetter s v.name := by
  simp only [← ofName?_eq_some, parse]
  cases ofName? (lower (trim s)) <;> simp [eq_comm]

end NodeStatus

namespace Policy

theorem dashToUnderscore_eq {c d : Char} (lowerCase : d.toLower = d) (noDash : d ≠ '-') :
    dashToUnderscore c.toLower = d ↔ SameSign c d := by
  have below : ∀ k < 128, (Char.ofNat k).toLower = '-' → Char.ofNat k = '-' := by decide +kernel
  have dash (h : c.toLower = '-') : c = '-' :=
    forall_char_lt (p := fun c => c.toLower = '-' → c = '-') below c
      (small_of_toLower (h ▸ by decide)) h
  unfold dashToUnderscore SameSign SameLetter
  rw [lowerCase]
  split
  · rename_i hc
    rw [hc, dash hc]
    simp [noDash, Ne.symm noDash, eq_comm]
  · rename_i hc
    constructor
    · exact Or.inl
    · rintro (same | ⟨hsign, hd⟩)
      · exact same
      · have hd : d = '_' := by simpa [noDash] using hd
        rcases List.mem_pair.1 hsign with rfl | rfl
        · exact absurd (by decide) hc
        · rw [hd]
          decide

theorem names : Names all name dashToUnderscore SameSign := by
  have complete : ∀ p, p ∈ all := by
    intro p
    cases p <;> decide
  have checked : ∀ p ∈ all, p.name.toList.all fun d => Plain d ∧ d.toLower = d ∧ d ≠ '-' := by decide
  have signs (p : Policy) : ∀ d ∈ p.name.toList, Plain d ∧ d.toLower = d ∧ d ≠ '-' :=
    List.all_iff_forall_prop.1 (checked p (complete p))
  refine ⟨complete, by decide, fun p d hd => ?_, fun p c d hd => ?_⟩
  · unfold dashToUnderscore at hd
    split at hd
    · rename_i h
      rw [h]
      decide
    · exact (signs p d hd).1
  · obtain ⟨-, lowerCase, noDash⟩ := signs p d hd
    exact (dashToUnderscore_eq lowerCase noDash).symm

theorem ofName?_eq_some {p : Policy} :
    ofName? ((lower (trim s)).map dashToUnderscore) = some p ↔ Spells SameSign s p.name := by
  rw [← names.spells_iff]
  exact names.find?_eq_some

theorem parse_eq_ok {p : Policy} : parse s = .ok p ↔ Spells SameSign s p.name := by
  rw [← ofName?_eq_some, parse]
  cases ofName? ((lower (trim s)).map dashToUnderscore) <;> simp

theorem parse_eq_error {f : Failure} :
    parse s = .error f ↔
      f = .config s!"Unknown selection policy: {(lower (trim s)).map dashToUnderscore}" ∧
        ∀ p : Policy, ¬ Spells SameSign s p.name := by
  simp only [← ofName?_eq_some, parse]
  cases ofName? ((lower (trim s)).map dashToUnderscore) <;> simp [eq_comm]

end Policy

theorem names_alone_are_read (s : String) :
    (∀ v, NodeStatus.parse s = .ok v ↔ Spells SameLetter s v.name) ∧
      (∀ p, Policy.parse s = .ok p ↔ Spells SameSign s p.name) ∧
      (∀ t, NodeStatus.parse s = .error t ↔
        t = lower (trim s) ∧ ∀ v : NodeStatus, ¬ Spells SameLetter s v.name) ∧
      (∀ f, Policy.parse s = .error f ↔
        f = .config s!"Unknown selection policy: {(lower (trim s)).map Policy.dashToUnderscore}" ∧
          ∀ p : Policy, ¬ Spells SameSign s p.name) ∧
      ((∃ c ∈ (trim s).toList, 128 ≤ c.toNat) →
        (∃ t, NodeStatus.parse s = .error t) ∧ ∃ f, Policy.parse s = .error f) := by
  refine ⟨fun v => NodeStatus.parse_eq_ok, fun p => Policy.parse_eq_ok,
    fun t => NodeStatus.parse_eq_error, fun f => Policy.parse_eq_error, ?_⟩
  rintro ⟨c, hc, large⟩
  constructor
  · refine ⟨_, NodeStatus.parse_eq_error.2 ⟨rfl, fun v spelled => ?_⟩⟩
    exact absurd (NodeStatus.names.small_of_spells spelled c hc) (Nat.not_lt.2 large)
  · refine ⟨_, Policy.parse_eq_error.2 ⟨rfl, fun p spelled => ?_⟩⟩
    exact absurd (Policy.names.small_of_spells spelled c hc) (Nat.not_lt.2 large)

theorem names_alone_are_read_kelvin :
    Policy.parse "\u3000Round-ROBIN\n" = .ok .roundRobin ∧ lower "\u212a" = "k" ∧
      '\u212a' ∈ (trim "\u212a").toList ∧ NodeStatus.parse "\u212a" = .error "k" ∧
      (∃ f, Policy.parse "\u212a" = .error f) := by
  have read := (names_alone_are_read "\u3000Round-ROBIN\n").2.1 .roundRobin
  have spelled : Spells SameSign "\u3000Round-ROBIN\n" Policy.roundRobin.name :=
    ⟨"Round-ROBIN".toList, ⟨['\u3000'], ['\n'], List.forall_mem_singleton.2 (by decide),
      List.forall_mem_singleton.2 (by decide), by decide⟩, by decide⟩
  have beyond : '\u212a' ∈ (trim "\u212a").toList := by decide
  have lowered : lower "\u212a" = "k" := by decide +kernel
  obtain ⟨-, -, status, -, refused⟩ := names_alone_are_read "\u212a"
  obtain ⟨⟨t, ht⟩, hf⟩ := refused ⟨_, beyond, by decide⟩
  have compared : t = "k" := by
    rw [((status t).1 ht).1]
    decide +kernel
  exact ⟨read.2 spelled, lowered, beyond, compared ▸ ht, hf⟩

end Conclave

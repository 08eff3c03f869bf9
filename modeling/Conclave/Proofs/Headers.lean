import Conclave.Api.Context
import Conclave.Proofs.Trimming
import Mathlib.Data.List.Forall2

namespace Conclave

namespace Http

theorem sameName_eq (a b : String) :
    sameName a b = decide (a.toList.map asciiLower = b.toList.map asciiLower) := by
  simp only [sameName, ← String.toList_map, String.toList_inj]

theorem sameName_iff {a b : String} :
    sameName a b = true ↔ a.toList.map asciiLower = b.toList.map asciiLower := by
  rw [sameName_eq, decide_eq_true_iff]

def Leads (headers : List Header) (name text : String) : Prop :=
  ∃ before h after, headers = before ++ h :: after ∧
    (∀ g ∈ before, sameName g.name name = false) ∧ sameName h.name name = true ∧
    (∀ b ∈ h.value, isVisible b = true) ∧
    text = String.ofList (h.value.map fun b => Char.ofNat b.toNat)

theorem Leads.here {h : Header} {headers : List Header} {name text : String}
    (same : h.name.toList.map asciiLower = name.toList.map asciiLower)
    (visible : h.value.all isVisible = true)
    (reads : String.ofList (h.value.map fun b => Char.ofNat b.toNat) = text) :
    Leads (h :: headers) name text :=
  ⟨[], h, headers, rfl, by simp, sameName_iff.2 same, List.all_eq_true.1 visible, reads.symm⟩

theorem Leads.there {h : Header} {headers : List Header} {name text : String}
    (other : h.name.toList.map asciiLower ≠ name.toList.map asciiLower)
    (leads : Leads headers name text) : Leads (h :: headers) name text := by
  obtain ⟨before, found, after, rfl, hbefore, hfound⟩ := leads
  have hother : sameName h.name name = false := Bool.eq_false_iff.2 (mt sameName_iff.1 other)
  exact ⟨h :: before, found, after, rfl, List.forall_mem_cons.2 ⟨hother, hbefore⟩, hfound⟩

theorem headerText?_eq_some {headers : List Header} {name text : String} :
    headerText? headers name = some text ↔ Leads headers name text := by
  unfold headerText?
  constructor
  · intro h
    split at h
    · cases h
    · rename_i found hfound
      obtain ⟨hname, before, after, rfl, hbefore⟩ := List.find?_eq_some_iff_append.1 hfound
      split at h
      · rename_i hvisible
        exact ⟨before, found, after, rfl, fun g hg => by simpa using hbefore g hg, hname,
          List.all_eq_true.1 hvisible, (Option.some.inj h).symm⟩
      · cases h
  · rintro ⟨before, found, after, rfl, hbefore, hname, hvisible, rfl⟩
    have hfound : (before ++ found :: after).find? (fun h => sameName h.name name) = some found :=
      List.find?_eq_some_iff_append.2
        ⟨hname, before, after, rfl, fun g hg => by simpa using hbefore g hg⟩
    rw [hfound]
    exact if_pos (List.all_eq_true.2 hvisible)

def Recased : List Header → List Header → Prop :=
  List.Forall₂ fun h h' => sameName h.name h'.name = true ∧ h.value = h'.value

theorem headerText?_recased {headers headers' : List Header} (same : Recased headers headers')
    (name : String) : headerText? headers' name = headerText? headers name := by
  induction same with
  | nil => rfl
  | @cons h h' rest rest' head _ ih =>
      have hname : sameName h'.name name = sameName h.name name := by
        rw [sameName_eq, sameName_eq, ← sameName_iff.1 head.1]
      simp only [headerText?, List.find?_cons, hname] at ih ⊢
      cases sameName h.name name with
      | true => simp only [head.2]
      | false => exact ih

theorem headerText?_insert {before after : List Header} {g : Header}
    (repeated : ∃ h ∈ before, sameName h.name g.name = true) (name : String) :
    headerText? (before ++ g :: after) name = headerText? (before ++ after) name := by
  unfold headerText?
  rw [List.find?_append, List.find?_append]
  cases hfound : before.find? fun h => sameName h.name name with
  | some h => rfl
  | none =>
      have hother : sameName g.name name = false := by
        obtain ⟨h, hh, hsame⟩ := repeated
        have hnot := List.find?_eq_none.1 hfound h hh
        rw [Bool.eq_false_iff]
        exact fun hg => hnot (sameName_iff.2 ((sameName_iff.1 hsame).trans (sameName_iff.1 hg)))
      rw [List.find?_cons, hother]

end Http

namespace Api

open Http

section Headers

variable {headers : List Header}

structure Identified (headers : List Header) : Prop where
  principal : ∃ t, Leads headers "x-principal-id" t ∧ Text.trim t ≠ ""
  organization : ∃ t u, Leads headers "x-organization-id" t ∧ Uuid.ofText? (Text.trim t) = some u

def Permitted (p : Permission) (headers : List Header) : Prop :=
  ∃ t, Leads headers "x-permissions" t ∧
    ∃ part ∈ Text.split ',' t, Text.trim part = p.name ∨ Text.trim part = Permission.all.name

namespace Context

theorem headerValue?_eq_some {name text : String} :
    headerValue? headers name = some text ↔
      ∃ t, Leads headers name t ∧ Text.trim t = text ∧ text ≠ "" := by
  unfold headerValue?
  simp only [← headerText?_eq_some]
  cases headerText? headers name with
  | none => simp
  | some t =>
      simp only [Option.map_some, Option.some.injEq, exists_eq_left']
      split
      · rename_i hempty
        have hblank : Text.trim t = "" := by simpa using hempty
        simp only [reduceCtorEq, false_iff]
        rintro ⟨rfl, hne⟩
        exact hne hblank
      · rename_i hfull
        have hne : Text.trim t ≠ "" := by simpa using hfull
        simp only [Option.some.injEq]
        exact ⟨fun h => ⟨h, h ▸ hne⟩, fun h => h.1⟩

theorem ofHeaders_of_identified (identified : Identified headers) :
    ∃ c, ofHeaders headers = .ok c ∧ c.permissions = permissionsOf headers := by
  obtain ⟨⟨t, hprincipal, hne⟩, ⟨o, u, horganization, huuid⟩⟩ := identified
  have hvalue := headerValue?_eq_some.2 ⟨t, hprincipal, rfl, hne⟩
  have hfull : Text.trim o ≠ "" := by
    intro h
    rw [h] at huuid
    cases huuid
  have hvalue' := headerValue?_eq_some.2 ⟨o, horganization, rfl, hfull⟩
  refine ⟨⟨Text.trim t, u, permissionsOf headers⟩, ?_, rfl⟩
  simp only [ofHeaders, hvalue, hvalue', huuid]

theorem identified_of_ofHeaders {c : Context} (h : ofHeaders headers = .ok c) :
    Identified headers := by
  unfold ofHeaders at h
  split at h
  · cases h
  · rename_i principal hprincipal
    obtain ⟨t, hleads, rfl, hne⟩ := headerValue?_eq_some.1 hprincipal
    split at h
    · cases h
    · rename_i o horganization
      obtain ⟨o, hleads', rfl, -⟩ := headerValue?_eq_some.1 horganization
      split at h
      · cases h
      · rename_i u huuid
        exact ⟨⟨t, hleads, hne⟩, ⟨o, u, hleads', huuid⟩⟩

theorem ofHeaders_of_unidentified (unidentified : ¬ Identified headers) :
    ∃ t, ofHeaders headers = .error (.unauthorized t) := by
  cases h : ofHeaders headers with
  | ok c => exact absurd (identified_of_ofHeaders h) unidentified
  | error e =>
      unfold ofHeaders at h
      split at h
      · cases h
        exact ⟨_, rfl⟩
      · split at h
        · cases h
          exact ⟨_, rfl⟩
        · split at h
          · cases h
            exact ⟨_, rfl⟩
          · cases h

end Context

theorem Permission.parse?_eq_some {s : String} {p : Permission} :
    Permission.parse? s = some p ↔ Text.trim s = p.name := by
  simp only [parse?, ofName?, every, List.find?]
  generalize Text.trim s = t
  cases p <;> simp only [name] <;> (repeat' split) <;> simp_all [eq_comm]

theorem trimmed_piece_iff {t name : String} :
    (∃ part ∈ Text.split ',' (Text.trim t), Text.trim part = name) ↔
      ∃ part ∈ Text.split ',' t, Text.trim part = name := by
  rw [← List.mem_map, ← List.mem_map, Text.trim_split (by decide)]

theorem Permission.name_ne_empty (p : Permission) : p.name ≠ "" := by
  cases p <;> decide

theorem Context.mem_permissionsOf {p : Permission} :
    p ∈ permissionsOf headers ↔
      ∃ t, Leads headers "x-permissions" t ∧ ∃ part ∈ Text.split ',' t, Text.trim part = p.name := by
  have hparse : ∀ t, p ∈ ((Text.split ',' (Text.trim t)).filterMap Permission.parse?).eraseDups ↔
      ∃ part ∈ Text.split ',' t, Text.trim part = p.name := by
    intro t
    rw [List.mem_eraseDups, List.mem_filterMap]
    simp only [Permission.parse?_eq_some]
    exact trimmed_piece_iff
  unfold permissionsOf
  split
  · rename_i hnone
    simp only [List.not_mem_nil, false_iff]
    rintro ⟨t, hleads, hpart⟩
    have hblank : Text.trim t = "" := by
      by_contra hne
      cases hnone.symm.trans (headerValue?_eq_some.2 ⟨t, hleads, rfl, hne⟩)
    obtain ⟨part, hpart, hname⟩ := trimmed_piece_iff.2 hpart
    rw [hblank] at hpart
    obtain rfl : part = "" := by simpa [Text.split, Text.splitList] using hpart
    exact p.name_ne_empty hname.symm
  · rename_i text hsome
    obtain ⟨t, hleads, rfl, -⟩ := headerValue?_eq_some.1 hsome
    rw [hparse]
    constructor
    · exact fun h => ⟨t, hleads, h⟩
    · rintro ⟨t', hleads', h⟩
      rw [← headerText?_eq_some] at hleads hleads'
      obtain rfl := Option.some.inj (hleads.symm.trans hleads')
      exact h

theorem Context.hasPermission_iff {c : Context} (same : c.permissions = permissionsOf headers)
    (p : Permission) : c.hasPermission p = true ↔ Permitted p headers := by
  rw [hasPermission, Bool.or_eq_true, List.contains_iff_mem, List.contains_iff_mem, same,
    mem_permissionsOf, mem_permissionsOf, Permitted]
  constructor
  · rintro (⟨t, hleads, part, hpart, hname⟩ | ⟨t, hleads, part, hpart, hname⟩)
    · exact ⟨t, hleads, part, hpart, Or.inr hname⟩
    · exact ⟨t, hleads, part, hpart, Or.inl hname⟩
  · rintro ⟨t, hleads, part, hpart, hname | hname⟩
    · exact Or.inr ⟨t, hleads, part, hpart, hname⟩
    · exact Or.inl ⟨t, hleads, part, hpart, hname⟩

structure Authorized (p : Permission) (headers : List Header) : Prop where
  identified : Identified headers
  permitted : Permitted p headers

end Headers

end Api

end Conclave

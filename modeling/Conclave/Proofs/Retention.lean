import Conclave.Proofs.Sweeps

namespace Conclave

namespace Timestamp

theorem le_ofNanoseconds_iff (second n : Int) :
    ⟨second, 0⟩ ≤ ofNanoseconds n ↔ second * 1000000000 ≤ n := by
  have hsum := Int.mul_fdiv_add_fmod n 1000000000
  have hnonneg : 0 ≤ n.fmod 1000000000 := Int.fmod_nonneg_of_pos n (by decide)
  have hlt : n.fmod 1000000000 < 1000000000 := Int.fmod_lt_of_pos n (by decide)
  simp only [le_iff, ofNanoseconds]
  omega

theorem ago?_eq (now : Timestamp) (age : Duration) :
    now.ago? age =
      if now.nanoseconds - age.nanoseconds < earliest.nanoseconds then none
      else some (ofNanoseconds (now.nanoseconds - age.nanoseconds)) := by
  have hearliest : earliest.nanoseconds = earliest.second * 1000000000 := Int.add_zero _
  have hreached : (ofNanoseconds (now.nanoseconds - age.nanoseconds)).before earliest = false ↔
      earliest.nanoseconds ≤ now.nanoseconds - age.nanoseconds :=
    hearliest ▸ le_ofNanoseconds_iff earliest.second _
  by_cases hage : now.nanoseconds - age.nanoseconds < earliest.nanoseconds
  · have hbefore := (Bool.eq_false_or_eq_true _).resolve_right fun h =>
      Int.not_le_of_gt hage (hreached.1 h)
    rw [if_pos hage, ago?, if_pos hbefore]
  · rw [if_neg hage, ago?, if_neg (Bool.eq_false_iff.1 (hreached.2 (Int.not_lt.1 hage)))]

end Timestamp

namespace Session.Docket

def Overreaches (now : Timestamp) (age : Duration) : Prop :=
  age.nanoseconds ≤ longestAge ∧
    now.nanoseconds - age.nanoseconds < Timestamp.earliest.nanoseconds

instance (now : Timestamp) (age : Duration) : Decidable (Overreaches now age) :=
  inferInstanceAs (Decidable (_ ∧ _))

def isOld (now : Timestamp) (age : Duration) (r : Record) : Bool :=
  decide (age.nanoseconds ≤ longestAge) &&
    r.isExpired (.ofNanoseconds (now.nanoseconds - age.nanoseconds))

def withoutOld (now : Timestamp) (age : Duration) (d : Docket) : Docket :=
  ⟨d.records.filter fun e => !isOld now age e.2⟩

section Prune

variable {now : Timestamp} {age : Duration}

theorem cutoff_of_overreaching (h : Overreaches now age) : cutoff now age = .error .beforeEarliest := by
  rw [cutoff, if_neg (Nat.not_lt_of_le h.1), Timestamp.ago?_eq, if_pos h.2]

theorem isOld_of_endless (h : longestAge < age.nanoseconds) (r : Record) : isOld now age r = false := by
  rw [isOld, decide_eq_false (Nat.not_le_of_lt h), Bool.false_and]

theorem isOld_of_counted (h : age.nanoseconds ≤ longestAge) (r : Record) :
    isOld now age r = r.isExpired (.ofNanoseconds (now.nanoseconds - age.nanoseconds)) := by
  rw [isOld, decide_eq_true h, Bool.true_and]

theorem count_isOld_of_endless (h : longestAge < age.nanoseconds) (d : Docket) :
    (d.records.count fun _ r => isOld now age r) = 0 := by
  simp only [Keyed.count, isOld_of_endless h, List.countP_false, Function.const]

theorem withoutOld_of_endless (h : longestAge < age.nanoseconds) (d : Docket) :
    d.withoutOld now age = d := by
  refine congrArg Docket.mk (Keyed.eq_of_entries (List.filter_eq_self.2 fun e _ => ?_))
  rw [isOld_of_endless h]
  rfl

theorem size_sub_removeExpired (t : Timestamp) (d : Docket) :
    d.records.size - (d.removeExpired t).records.size = d.records.count fun _ r => r.isExpired t := by
  have hsplit := d.records.entries.length_eq_length_filter_add fun e => e.2.isExpired t
  simp only [Keyed.size, Keyed.count, List.countP_eq_length_filter, removeExpired, Keyed.filter]
  omega

theorem prune_of_reaching (h : ¬ Overreaches now age) (d : Docket) :
    d.prune now age = .ok (d.records.count fun _ r => isOld now age r, d.withoutOld now age) := by
  rcases Nat.lt_or_ge longestAge age.nanoseconds with endless | counted
  · have hcutoff : cutoff now age = .ok none := if_pos endless
    rw [prune, hcutoff, count_isOld_of_endless endless, withoutOld_of_endless endless]
    rfl
  · have hago : now.ago? age = some (.ofNanoseconds (now.nanoseconds - age.nanoseconds)) := by
      rw [Timestamp.ago?_eq, if_neg fun before => h ⟨counted, before⟩]
    rw [prune_of_ago? counted hago, size_sub_removeExpired]
    simp only [withoutOld, isOld_of_counted counted]
    rfl

end Prune

end Session.Docket

open Session.Docket

theorem Config.validate_retention (settings : Config) (age : Duration) :
    { settings with sessionRetention := age }.validate = settings.validate := rfl

theorem Reaper.build_of_valid {settings : Config} (valid : settings.validate = .ok ()) :
    ∃ reaper, Reaper.build (some settings) none = .ok reaper ∧
      reaper.retention = settings.sessionRetention := by
  have hpositive : settings.reaperInterval.isZero = false := by
    rw [Config.validate] at valid
    split at valid
    · cases valid
    · rename_i hnone
      have hzero := List.find?_eq_none.1 hnone ("reaper_interval", settings.reaperInterval)
        (by simp [Config.positiveDurations])
      exact Bool.eq_false_iff.2 hzero
  exact ⟨_, dif_pos hpositive, rfl⟩

namespace Coordinator

variable {now : Timestamp} {age : Duration} {c : Coordinator}

theorem prune_of_overreaching (h : Overreaches now age) :
    c.prune now age = (.error .beforeEarliest, c) := by
  rw [prune, Session.Docket.prune, cutoff_of_overreaching h]
  rfl

theorem prune_of_reaching (h : ¬ Overreaches now age) :
    c.prune now age = (.ok (c.docket.records.count fun _ r => isOld now age r),
      { c with docket := c.docket.withoutOld now age }) := by
  rw [prune, Session.Docket.prune_of_reaching h]

theorem prune_returns_iff (now : Timestamp) (age : Duration) (c : Coordinator) :
    let pruned := c.prune now age
    ((∃ n, pruned.1 = .ok n) ↔ ¬ Overreaches now age) ∧
    (Overreaches now age → pruned = (.error .beforeEarliest, c)) ∧
    (¬ Overreaches now age →
      pruned = (.ok (c.docket.records.count fun _ r => isOld now age r),
        { c with docket := c.docket.withoutOld now age }) ∧
      ∀ later : Timestamp, now.nanoseconds ≤ later.nanoseconds → ¬ Overreaches later age) ∧
    (longestAge < age.nanoseconds → pruned = (.ok 0, c)) ∧
    ∀ settings : Config, settings.validate = .ok () →
      ∃ reaper, { settings with sessionRetention := age }.validate = .ok () ∧
        Reaper.build (some { settings with sessionRetention := age }) none = .ok reaper ∧
        reaper.sweep now c = pruned := by
  intro pruned
  refine ⟨⟨?_, fun reaching => ?_⟩, prune_of_overreaching, fun reaching =>
    ⟨prune_of_reaching reaching, ?_⟩, fun endless => ?_, fun settings valid => ?_⟩
  · rintro ⟨n, returned⟩ overreaching
    cases returned.symm.trans (congrArg Prod.fst (prune_of_overreaching overreaching))
  · exact ⟨_, congrArg Prod.fst (prune_of_reaching reaching)⟩
  · rintro later hlater ⟨counted, before⟩
    exact reaching ⟨counted, by omega⟩
  · have reaching : ¬ Overreaches now age := fun h => Nat.not_le_of_lt endless h.1
    have hpruned : pruned = _ := prune_of_reaching reaching
    rw [hpruned, count_isOld_of_endless endless, withoutOld_of_endless endless]
  · have valid' := (settings.validate_retention age).trans valid
    obtain ⟨reaper, hbuild, hretention⟩ := Reaper.build_of_valid valid'
    exact ⟨reaper, valid', hbuild, by rw [Reaper.sweep, hretention]⟩

def immemorial : Config := { Config.standard with sessionRetention := .ofSeconds 9223372036854775 }

theorem accepted_retention_fails :
    immemorial.validate = .ok () ∧ ∃ reaper, Reaper.build (some immemorial) none = .ok reaper ∧
      (reaper.sweep ⟨1704164645, 0⟩ (.new immemorial .empty)).1 = .error .beforeEarliest ∧
      ((Coordinator.new immemorial .empty).prune ⟨1704164645, 0⟩ immemorial.sessionRetention).1 =
        .error .beforeEarliest :=
  ⟨rfl, _, rfl, by decide +kernel, by decide +kernel⟩

end Coordinator

end Conclave

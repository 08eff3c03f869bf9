import Conclave.Proofs.Quorum

namespace Conclave.Quorum

def firstByte (session : SessionId) : UInt8 :=
  (Digest.sha256 session.text.toUTF8.toList).headD 0

def turn (b : UInt8) (total threshold : Nat) : List NodeId :=
  consecutive (b.toNat % total) total threshold

section Turn

variable {start total threshold : Nat} {id : NodeId}

theorem mem_consecutive (pos : 0 < total) (ht : total < 2 ^ 64) :
    id ∈ consecutive start total threshold ↔
      ∃ i < threshold, (start + i) % total + 1 = id.number.toNat := by
  rw [consecutive, List.mem_map]
  constructor
  · rintro ⟨i, hi, rfl⟩
    exact ⟨i, List.mem_range.1 hi, (toNat_place pos ht _).symm⟩
  · rintro ⟨i, hi, hid⟩
    have hnumber : UInt64.ofNat ((start + i) % total + 1) = id.number :=
      UInt64.toNat_inj.1 ((toNat_place pos ht _).trans hid)
    exact ⟨i, List.mem_range.2 hi, congrArg NodeId.mk hnumber⟩

theorem mem_turn (pos : 0 < total) (ht : total < 2 ^ 64) (b : UInt8) :
    id ∈ turn b total threshold ↔ ∃ i < threshold, (b.toNat + i) % total + 1 = id.number.toNat := by
  rw [turn, mem_consecutive pos ht]
  simp only [Nat.mod_add_mod]

theorem exists_turn_iff (pos : 1 ≤ threshold) (fits : threshold ≤ total) (ht : total < 2 ^ 64) :
    (∃ b, id ∈ turn b total threshold) ↔
      1 ≤ id.number.toNat ∧ id.number.toNat ≤ total ∧ id.number.toNat ≤ threshold + 255 := by
  have htotal : 0 < total := Nat.lt_of_lt_of_le pos fits
  simp only [mem_turn htotal ht]
  constructor
  · rintro ⟨b, i, hi, hid⟩
    have hb : b.toNat < 256 := b.toNat_lt
    have hlt := Nat.mod_lt (b.toNat + i) htotal
    have hle := Nat.mod_le (b.toNat + i) total
    omega
  · rintro ⟨hone, hle, hreach⟩
    have hbyte : (UInt8.ofNat (min 255 (id.number.toNat - 1))).toNat = min 255 (id.number.toNat - 1) :=
      UInt8.toNat_ofNat_of_lt' (Nat.lt_succ_of_le (Nat.min_le_left _ _))
    refine ⟨UInt8.ofNat (min 255 (id.number.toNat - 1)), id.number.toNat - 1 - 255, by omega, ?_⟩
    have hplace : min 255 (id.number.toNat - 1) + (id.number.toNat - 1 - 255) = id.number.toNat - 1 := by
      omega
    rw [hbyte, hplace, Nat.mod_eq_of_lt (by omega)]
    omega

theorem select_turn {nodes : List Node} (pos : 1 ≤ threshold) (fits : threshold ≤ total)
    (enough : threshold ≤ (nodes.filter Node.isOnline).length) (session : SessionId) (draws : Draws) :
    select .roundRobin nodes total threshold session draws =
      .ok (turn (firstByte session) total threshold) :=
  select_of_enough (Nat.ne_of_gt pos) enough fun _ => fits

end Turn

theorem everyone_has_a_turn_iff {total threshold : UInt64} (pos : 1 ≤ threshold)
    (fits : threshold ≤ total) :
    (∀ nodes session draws, threshold.toNat ≤ (nodes.filter Node.isOnline).length →
      select .roundRobin nodes total.toNat threshold.toNat session draws =
        .ok (turn (firstByte session) total.toNat threshold.toNat)) ∧
    (∀ id : NodeId, (∃ b, id ∈ turn b total.toNat threshold.toNat) ↔
      1 ≤ id.number.toNat ∧ id.number.toNat ≤ total.toNat ∧
        id.number.toNat ≤ threshold.toNat + 255) ∧
    (∀ nodes session draws parties,
      select .roundRobin nodes total.toNat threshold.toNat session draws = .ok parties →
        ∀ id ∈ parties, id.number.toNat ≤ threshold.toNat + 255) ∧
    ((∀ id : NodeId, 1 ≤ id.number.toNat → id.number.toNat ≤ total.toNat →
      ∃ b, id ∈ turn b total.toNat threshold.toNat) ↔ total.toNat ≤ threshold.toNat + 255) := by
  have hpos : 1 ≤ threshold.toNat := UInt64.le_iff_toNat_le.1 pos
  have hfits : threshold.toNat ≤ total.toNat := UInt64.le_iff_toNat_le.1 fits
  have hturn : ∀ id : NodeId, (∃ b, id ∈ turn b total.toNat threshold.toNat) ↔ _ :=
    fun id => exists_turn_iff hpos hfits total.toNat_lt
  refine ⟨fun nodes session draws enough => select_turn hpos hfits enough session draws, hturn, ?_, ?_⟩
  · intro nodes session draws parties hselect id hid
    have enough := (select_eq_ok hselect).1
    rw [select_turn hpos hfits enough] at hselect
    obtain rfl := Except.ok.inj hselect
    exact ((hturn id).1 ⟨_, hid⟩).2.2
  · constructor
    · intro everyone
      have hlast := everyone ⟨total⟩ (hpos.trans hfits) (le_refl _)
      exact ((hturn ⟨total⟩).1 hlast).2.2
    · exact fun small id hone hle => (hturn id).2 ⟨hone, hle, hle.trans small⟩

theorem everyone_has_a_turn_iff_threeHundred :
    (1 : UInt64) ≤ 50 ∧ (50 : UInt64) ≤ 300 ∧
      ∀ id : NodeId, 1 ≤ id.number.toNat → id.number.toNat ≤ 300 → ∃ b, id ∈ turn b 300 50 := by
  have pos : (1 : UInt64) ≤ 50 := by decide
  have fits : (50 : UInt64) ≤ 300 := by decide
  exact ⟨pos, fits, (everyone_has_a_turn_iff pos fits).2.2.2.2 (by decide)⟩

def pair : List Node := [Node.fresh ⟨0, 0⟩ ⟨1⟩ "one", Node.fresh ⟨0, 0⟩ ⟨2⟩ "two"]

theorem last_never_has_a_turn :
    (∀ session draws, select .roundRobin pair 258 2 session draws = .ok (turn (firstByte session) 258 2)) ∧
      ¬ ∃ b, (⟨258⟩ : NodeId) ∈ turn b 258 2 := by
  refine ⟨select_turn (by decide) (by decide) (by decide), fun h => ?_⟩
  exact absurd ((exists_turn_iff (by decide) (by decide) (by decide)).1 h).2.2 (by decide)

end Conclave.Quorum

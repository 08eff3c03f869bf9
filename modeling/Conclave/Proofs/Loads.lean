import Conclave.Proofs.Probes
import Mathlib.Algebra.Order.Field.Power
import Mathlib.Data.Rat.Cast.Order
import Mathlib.Order.Monotone.Basic
import Mathlib.Tactic.Linarith

namespace Conclave

namespace Binary64

def size (magnitude : Nat) : ℚ := mantissa magnitude * 2 ^ exponent magnitude

def value (x : Binary64) : ℚ := if x.isNegative then -size x.magnitude else size x.magnitude

def units (magnitude : Nat) : Nat :=
  if magnitude < leadingBit then magnitude
  else (magnitude % leadingBit + leadingBit) * 2 ^ (magnitude / leadingBit - 1)

theorem size_eq (m : Nat) : size m = units m * 2 ^ (-1074 : Int) := by
  by_cases h : m < leadingBit
  · simp only [size, mantissa, exponent, units, if_pos h]
  · have hquotient : 1 ≤ m / leadingBit :=
      (Nat.le_div_iff_mul_le (by decide)).2 (by rw [Nat.one_mul]; exact Nat.not_lt.1 h)
    have hexponent : ((m / leadingBit : Nat) : Int) - 1075 = ((m / leadingBit - 1 : Nat) : Int) + -1074 := by
      omega
    simp only [size, mantissa, exponent, units, if_neg h, hexponent]
    rw [zpow_add₀ two_ne_zero, zpow_natCast, ← mul_assoc, Nat.cast_mul, Nat.cast_pow, Nat.cast_ofNat]

theorem units_of_parts (q : Nat) {r : Nat} (h : r < leadingBit) :
    units ((q + 1) * leadingBit + r) = (r + leadingBit) * 2 ^ q := by
  have hquotient : ((q + 1) * leadingBit + r) / leadingBit = q + 1 := by
    rw [Nat.mul_comm, Nat.mul_add_div (by decide), Nat.div_eq_of_lt h, Nat.add_zero]
  have hrest : ((q + 1) * leadingBit + r) % leadingBit = r := by
    rw [Nat.mul_comm, Nat.mul_add_mod, Nat.mod_eq_of_lt h]
  have hlarge : ¬ (q + 1) * leadingBit + r < leadingBit := by
    rw [Nat.succ_mul]
    omega
  rw [units, if_neg hlarge, hquotient, hrest, Nat.add_sub_cancel]

theorem units_of_small {m : Nat} (h : m < leadingBit) : units m = m := if_pos h

theorem units_lt_succ (q : Nat) {r : Nat} (h : r < leadingBit) :
    units (q * leadingBit + r) < units (q * leadingBit + r + 1) := by
  have hnext : q * leadingBit + r + 1 = q * leadingBit + (r + 1) := Nat.add_assoc _ _ _
  rcases Nat.lt_or_ge (r + 1) leadingBit with inside | last
  · rw [hnext]
    cases q with
    | zero =>
        rw [Nat.zero_mul, Nat.zero_add, Nat.zero_add, units_of_small h, units_of_small inside]
        exact Nat.lt_succ_self r
    | succ q =>
        rw [units_of_parts q h, units_of_parts q inside]
        exact Nat.mul_lt_mul_of_pos_right (by omega) (Nat.two_pow_pos q)
  · have hend : r + 1 = leadingBit := Nat.le_antisymm h last
    have hcarry : q * leadingBit + r + 1 = (q + 1) * leadingBit + 0 := by
      rw [hnext, hend, Nat.succ_mul, Nat.add_zero]
    rw [hcarry, units_of_parts q (by decide), Nat.zero_add]
    cases q with
    | zero =>
        rw [Nat.zero_mul, Nat.zero_add, units_of_small h, Nat.pow_zero, Nat.mul_one]
        exact h
    | succ q =>
        rw [units_of_parts q h, Nat.pow_succ', ← Nat.mul_assoc]
        exact Nat.mul_lt_mul_of_pos_right (by omega) (Nat.two_pow_pos q)

theorem units_strictMono : StrictMono units := by
  refine strictMono_nat_of_lt_succ fun m => ?_
  have hparts : m / leadingBit * leadingBit + m % leadingBit = m := by
    rw [Nat.mul_comm]
    exact Nat.div_add_mod m leadingBit
  rw [← hparts]
  exact units_lt_succ _ (Nat.mod_lt m (by decide))

theorem size_strictMono : StrictMono size := by
  intro m n h
  rw [size_eq, size_eq]
  exact mul_lt_mul_of_pos_right (Nat.cast_lt.2 (units_strictMono h)) (zpow_pos two_pos _)

@[simp] theorem size_zero : size 0 = 0 := by
  rw [size_eq, units_of_small (by decide), Nat.cast_zero, zero_mul]

theorem size_nonneg (m : Nat) : 0 ≤ size m := size_zero ▸ size_strictMono.monotone (Nat.zero_le m)

theorem size_eq_zero {m : Nat} : size m = 0 ↔ m = 0 :=
  size_zero ▸ size_strictMono.injective.eq_iff

section Order

variable {x y : Binary64}

theorem bits_eq (x : Binary64) :
    x.bits.toNat = (if x.isNegative then signBit else 0) + x.magnitude := by
  have hlt : x.bits.toNat < signBit + signBit := x.bits.toNat_lt
  cases hsign : x.isNegative with
  | false =>
      have hsmall : x.bits.toNat < signBit := Nat.not_le.1 (decide_eq_false_iff_not.1 hsign)
      rw [magnitude, Nat.mod_eq_of_lt hsmall]
      exact (Nat.zero_add _).symm
  | true =>
      have hlarge : signBit ≤ x.bits.toNat := of_decide_eq_true hsign
      rw [magnitude, Nat.mod_eq_sub_mod hlarge, Nat.mod_eq_of_lt (by omega)]
      exact (Nat.add_sub_cancel' hlarge).symm

theorem eq_of_parts (sign : x.isNegative = y.isNegative) (size : x.magnitude = y.magnitude) : x = y := by
  have hbits : x.bits.toNat = y.bits.toNat := by rw [bits_eq, bits_eq, sign, size]
  cases x
  cases y
  exact congrArg mk (UInt64.toNat_inj.1 hbits)

theorem value_of_negative (h : x.isNegative = true) : x.value = -size x.magnitude := if_pos h

theorem value_of_positive (h : x.isNegative = false) : x.value = size x.magnitude :=
  if_neg (Bool.eq_false_iff.1 h)

theorem rank_of_negative (h : x.isNegative = true) : x.rank = -(x.magnitude : Int) - 1 := if_pos h

theorem rank_of_positive (h : x.isNegative = false) : x.rank = x.magnitude :=
  if_neg (Bool.eq_false_iff.1 h)

theorem rank_lt_iff :
    x.rank < y.rank ↔
      x.value < y.value ∨ x.value = y.value ∧ x.isNegative = true ∧ y.isNegative = false := by
  have hx := size_nonneg x.magnitude
  have hy := size_nonneg y.magnitude
  cases sx : x.isNegative <;> cases sy : y.isNegative
  case false.false =>
    rw [rank_of_positive sx, rank_of_positive sy, value_of_positive sx, value_of_positive sy,
      size_strictMono.lt_iff_lt]
    simp
  case false.true =>
    rw [rank_of_positive sx, rank_of_negative sy, value_of_positive sx, value_of_negative sy]
    have hvalue : ¬ size x.magnitude < -size y.magnitude := not_lt.2 ((neg_nonpos.2 hy).trans hx)
    simp only [hvalue, Bool.false_eq_true, false_and, and_false, or_false, iff_false]
    omega
  case true.false =>
    rw [rank_of_negative sx, rank_of_positive sy, value_of_negative sx, value_of_positive sy]
    have hvalue : -size x.magnitude < size y.magnitude ∨ -size x.magnitude = size y.magnitude :=
      ((neg_nonpos.2 hx).trans hy).lt_or_eq
    simp only [hvalue, and_self, and_true, iff_true]
    omega
  case true.true =>
    rw [rank_of_negative sx, rank_of_negative sy, value_of_negative sx, value_of_negative sy,
      neg_lt_neg_iff, size_strictMono.lt_iff_lt]
    simp only [Bool.true_eq_false, and_false, or_false]
    omega

theorem zeros_of_tie (tie : x.value = y.value) (negative : x.isNegative = true)
    (positive : y.isNegative = false) : x = negativeZero ∧ y = zero := by
  rw [value_of_negative negative, value_of_positive positive] at tie
  have hx := size_nonneg x.magnitude
  have hy := size_nonneg y.magnitude
  have hxzero : x.magnitude = 0 := size_eq_zero.1 (by linarith)
  have hyzero : y.magnitude = 0 := size_eq_zero.1 (by linarith)
  exact ⟨eq_of_parts negative hxzero, eq_of_parts positive hyzero⟩

end Order

section Clamp

variable {x : Binary64}

structure InUnit (x : Binary64) : Prop where
  finite : x.isFinite = true
  nonneg : 0 ≤ x.value
  le_one : x.value ≤ 1

theorem size_one : size oneMagnitude = 1 := by
  norm_num [size, mantissa, exponent, oneMagnitude, leadingBit]

theorem inUnit_zero : InUnit zero := by
  have hvalue : zero.value = 0 := (value_of_positive (by decide)).trans size_zero
  exact ⟨by decide, hvalue.ge, hvalue.le.trans zero_le_one⟩

theorem inUnit_one : InUnit one := by
  have hvalue : one.value = 1 := (value_of_positive (by decide)).trans size_one
  exact ⟨by decide, zero_le_one.trans hvalue.ge, hvalue.le⟩

theorem inUnit_clampUnit (x : Binary64) : InUnit x.clampUnit := by
  unfold clampUnit
  split
  case isTrue finite =>
    split
    case isTrue negative =>
      split
      case isTrue none =>
        have hvalue : x.value = 0 := by rw [value_of_negative negative, none, size_zero, neg_zero]
        exact ⟨finite, hvalue.ge, hvalue.le.trans zero_le_one⟩
      case isFalse => exact inUnit_zero
    case isFalse positive =>
      have hvalue := value_of_positive (Bool.eq_false_iff.2 positive)
      split
      case isTrue => exact inUnit_one
      case isFalse small =>
        refine ⟨finite, hvalue ▸ size_nonneg _, ?_⟩
        rw [hvalue, ← size_one]
        exact size_strictMono.monotone (Nat.not_lt.1 small)
  case isFalse => exact inUnit_one

theorem clampUnit_eq_negativeZero : x.clampUnit = negativeZero ↔ x = negativeZero := by
  constructor
  · intro h
    unfold clampUnit at h
    split at h
    case isTrue =>
      split at h
      case isTrue =>
        split at h
        case isTrue => exact h
        case isFalse => exact absurd h (by decide)
      case isFalse =>
        split at h
        case isTrue => exact absurd h (by decide)
        case isFalse => exact h
    case isFalse => exact absurd h (by decide)
  · rintro rfl
    rfl

end Clamp

end Binary64

namespace Registry

def Operation.load? : Operation → Option Load
  | .report _ load _ => some load
  | .probe _ _ (.reachable load) => load
  | _ => none

section Loads

variable {P : Load → Prop}

def EveryLoad (P : Load → Prop) (r : Registry) : Prop := ∀ id n, r.get? id = some n → P n.load

theorem everyLoad_change {r : Registry} (every : r.EveryLoad P) {id : NodeId} {applies : Node → Bool}
    {f : Node → Node} (keeps : ∀ n, P n.load → P (f n).load) : (r.change id applies f).2.EveryLoad P := by
  intro k n h
  rw [get?_change] at h
  split at h
  · obtain ⟨m, hm, rfl⟩ := Option.map_eq_some_iff.1 h
    have hold := every id m hm
    split
    · exact keeps m hold
    · exact hold
  · exact every k n h

theorem everyLoad_apply {r : Registry} (every : r.EveryLoad P) (fresh : P .zero) {now : Timestamp}
    {op : Operation} (written : ∀ load ∈ op.load?, P load.clampUnit) :
    (r.apply now op).2.EveryLoad P := by
  cases op with
  | register id address =>
      intro k n h
      rw [apply, get?_register] at h
      split at h
      · cases h
        exact fresh
      · exact every k n h
  | deregister id =>
      intro k n h
      rw [apply, get?_deregister] at h
      split at h
      · cases h
      · exact every k n h
  | report id load status => exact everyLoad_change every fun _ _ => written load rfl
  | probe id observed verdict =>
      refine everyLoad_change every fun n hold => ?_
      cases verdict with
      | unreachable => exact hold
      | reachable load =>
          cases load with
          | none => exact hold
          | some load => exact written load rfl
  | busy id => exact everyLoad_change every fun _ hold => hold
  | idle id => exact everyLoad_change every fun _ hold => hold

theorem everyLoad_reached (fresh : P .zero) {past : List (Timestamp × Operation)}
    (written : ∀ e ∈ past, ∀ load ∈ e.2.load?, P load.clampUnit) : (reached past).EveryLoad P := by
  induction past with
  | nil =>
      intro id n h
      cases h
  | cons e past ih =>
      obtain ⟨hlast, hpast⟩ := List.forall_mem_cons.1 written
      exact everyLoad_apply (ih hpast) fresh hlast

theorem inUnit_reached (past : List (Timestamp × Operation)) :
    (reached past).EveryLoad Binary64.InUnit :=
  everyLoad_reached Binary64.inUnit_zero fun _ _ load _ => Binary64.inUnit_clampUnit load

theorem named_reached (past : List (Timestamp × Operation)) : (reached past).Named := by
  induction past with
  | nil => exact named_empty
  | cons e past ih => exact named_apply ih

end Loads

end Registry

end Conclave

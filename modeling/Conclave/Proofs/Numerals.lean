import Conclave.Text.Digits
import Mathlib.Data.Nat.Digits.Defs
import Mathlib.Tactic.Ring

namespace Conclave.Text

def digitValue (c : Char) : Nat := c.toNat - 48

def Unsigned (cs : List Char) (n : Nat) : Prop :=
  ∃ digits, (cs = digits ∨ cs = '+' :: digits) ∧ digits ≠ [] ∧ (∀ c ∈ digits, '0' ≤ c ∧ c ≤ '9') ∧
    Nat.ofDigits 10 (digits.map digitValue).reverse = n

variable {bound n m : Nat} {cs : List Char}

theorem readDigits_eq_ok (below : n < bound) : readDigits bound n cs = .ok m ↔
    (∀ c ∈ cs, '0' ≤ c ∧ c ≤ '9') ∧ m < bound ∧
      n * 10 ^ cs.length + Nat.ofDigits 10 (cs.map digitValue).reverse = m := by
  induction cs generalizing n with
  | nil =>
      simp only [readDigits, List.not_mem_nil, false_imp_iff, implies_true, true_and, Except.ok.injEq,
        List.length_nil, List.map_nil, List.reverse_nil, Nat.ofDigits_nil]
      omega
  | cons c cs ih =>
      have value : n * 10 ^ (c :: cs).length + Nat.ofDigits 10 ((c :: cs).map digitValue).reverse =
          (n * 10 + digitValue c) * 10 ^ cs.length + Nat.ofDigits 10 (cs.map digitValue).reverse := by
        rw [List.map_cons, List.reverse_cons, Nat.ofDigits_append, Nat.ofDigits_singleton,
          List.length_reverse, List.length_map, List.length_cons]
        ring
      have grows : n * 10 + digitValue c ≤ (n * 10 + digitValue c) * 10 ^ cs.length :=
        Nat.le_mul_of_pos_right _ (Nat.pow_pos (by decide))
      rw [readDigits, digit?, List.forall_mem_cons, value]
      by_cases isDigit : '0' ≤ c ∧ c ≤ '9'
      · simp only [isDigit, true_and]
        change (if n * 10 + digitValue c < bound then _ else _) = _ ↔ _
        split
        · rename_i fits
          exact ih fits
        · rename_i large
          refine iff_of_false nofun ?_
          rintro ⟨-, hm, rfl⟩
          omega
      · rw [if_neg isDigit]
        exact iff_of_false nofun fun h => isDigit h.1.1

theorem unsigned_iff (pos : 0 < bound) : Unsigned cs n ∧ n < bound ↔
    ∃ digits, (cs = digits ∨ cs = '+' :: digits) ∧ digits ≠ [] ∧ readDigits bound 0 digits = .ok n := by
  rw [Unsigned, ← exists_and_right]
  refine exists_congr fun digits => ?_
  rw [readDigits_eq_ok pos, Nat.zero_mul, Nat.zero_add]
  tauto

theorem readUnsigned_eq_ok (pos : 0 < bound) :
    readUnsigned bound cs = .ok n ↔ Unsigned cs n ∧ n < bound := by
  have refused (rest : List Char) : readDigits bound 0 ('+' :: rest) ≠ .ok n := by
    intro h
    have sign := ((readDigits_eq_ok pos).1 h).1 '+' List.mem_cons_self
    exact absurd sign (by decide)
  rw [unsigned_iff pos]
  unfold readUnsigned
  split
  · simp
  · simp [refused]
  · rename_i rest bare
    have filled : rest ≠ [] := bare
    simp [refused, filled]
  · rename_i empty bare signed
    have filled : cs ≠ [] := empty
    have unsigned (digits : List Char) : cs ≠ '+' :: digits := signed digits
    simp [filled, unsigned]

theorem readUInt64_eq_ok {s : String} {n : UInt64} :
    readUInt64 s = .ok n ↔ Unsigned s.toList n.toNat := by
  have pos : 0 < UInt64.size := by decide
  have read : Unsigned s.toList n.toNat ↔ readUnsigned UInt64.size s.toList = .ok n.toNat :=
    (and_iff_left n.toNat_lt).symm.trans (readUnsigned_eq_ok pos).symm
  rw [read, readUInt64]
  cases h : readUnsigned UInt64.size s.toList with
  | error f => simp [Except.map]
  | ok m =>
      have small : m < 2 ^ 64 := ((readUnsigned_eq_ok pos).1 h).2
      simp only [Except.map, Except.ok.injEq]
      constructor
      · rintro rfl
        rw [UInt64.toNat_ofNat', Nat.mod_eq_of_lt small]
      · rintro rfl
        exact UInt64.ofNat_toNat

end Conclave.Text

import Conclave.Uuid
import Mathlib.Tactic.IntervalCases
import Mathlib.Tactic.Ring

namespace Conclave

namespace Text

theorem hexValue_hexDigit {n : Nat} (small : n < 16) : Json.hexValue? (hexDigit n) = some n := by
  interval_cases n <;> rfl

end Text

namespace Uuid

theorem length_digits (n value : Nat) : (digits n value).length = n := by simp [digits]

theorem digits_succ (n value : Nat) :
    digits (n + 1) value = Text.hexDigit (value >>> (4 * n) % 16) :: digits n value := by
  simp [digits, List.range_succ]

theorem digits_ne_hyphen (n value : Nat) : ∀ c ∈ digits n value, c ≠ '-' := by
  intro c hc same
  obtain ⟨i, -, rfl⟩ := List.mem_map.1 hc
  have read := Text.hexValue_hexDigit (Nat.mod_lt (value >>> (4 * i)) (by decide : 16 > 0))
  rw [same] at read
  cases read

theorem read_digits (n value start : Nat) :
    ∃ ns, (digits n value).mapM Json.hexValue? = some ns ∧
      ns.foldl (fun n d => n * 16 + d) start = start * 16 ^ n + value % 16 ^ n := by
  induction n generalizing start with
  | zero => exact ⟨[], rfl, by simp [Nat.mod_one]⟩
  | succ n ih =>
      obtain ⟨ns, read, sum⟩ := ih (start * 16 + value >>> (4 * n) % 16)
      refine ⟨value >>> (4 * n) % 16 :: ns, ?_, ?_⟩
      · rw [digits_succ, List.mapM_cons, Text.hexValue_hexDigit (Nat.mod_lt _ (by decide)), read]
        rfl
      · have split : value % 16 ^ (n + 1) = value >>> (4 * n) % 16 * 16 ^ n + value % 16 ^ n := by
          rw [Nat.shiftRight_eq_div_pow, Nat.pow_mul, Nat.pow_succ, Nat.mod_mul, Nat.add_comm,
            Nat.mul_comm]
        rw [List.foldl_cons, sum, split, Nat.pow_succ]
        ring

theorem readDigits_digits (u : Uuid) : readDigits? (digits 32 u.value.toNat) = some u := by
  obtain ⟨ns, read, sum⟩ := read_digits 32 u.value.toNat 0
  have small : u.value.toNat < 16 ^ 32 := u.value.isLt
  rw [Nat.zero_mul, Nat.zero_add, Nat.mod_eq_of_lt small] at sum
  rw [readDigits?, if_pos (length_digits _ _), read, Option.map_some, sum, BitVec.ofNat_toNat]
  simp

theorem filter_hyphenate {ds : List Char} (plain : ∀ c ∈ ds, c ≠ '-') :
    (hyphenate ds).filter (· ≠ '-') = ds := by
  have keep : ∀ l, l ⊆ ds → l.filter (· ≠ '-') = l :=
    fun l sub => List.filter_eq_self.2 fun c hc => by simpa using plain c (sub hc)
  have part : ∀ n k, ((ds.drop n).take k).filter (· ≠ '-') = (ds.drop n).take k :=
    fun n k => keep _ fun c hc => List.mem_of_mem_drop (List.mem_of_mem_take hc)
  have first := keep (ds.take 8) fun c hc => List.mem_of_mem_take hc
  have last := keep (ds.drop 20) fun c hc => List.mem_of_mem_drop hc
  have join : ∀ n k, (ds.drop n).take k ++ ds.drop (n + k) = ds.drop n := by
    intro n k
    rw [← List.drop_drop, List.take_append_drop]
  have hyphen : ∀ l, ('-' :: l).filter (· ≠ '-') = l.filter (· ≠ '-') :=
    fun l => List.filter_cons_of_neg (by simp)
  simp only [hyphenate, List.filter_append, List.append_assoc, List.cons_append, hyphen, part, first,
    last, join 16 4, join 12 4, join 8 4, List.take_append_drop]

theorem length_hyphenate {ds : List Char} (length : ds.length = 32) : (hyphenate ds).length = 36 := by
  simp [hyphenate, length]

theorem ofText_text (u : Uuid) : ofText? u.text = some u := by
  have plain := digits_ne_hyphen 32 u.value.toNat
  have length := length_hyphenate (length_digits 32 u.value.toNat)
  have read : readHyphenated? (hyphenate (digits 32 u.value.toNat)) = some u := by
    simp only [readHyphenated?, filter_hyphenate plain, if_true, readDigits_digits]
  simp only [ofText?, text, String.toList_ofList, length, read]
  rfl

end Uuid

end Conclave

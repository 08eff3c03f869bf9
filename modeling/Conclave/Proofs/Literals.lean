import Conclave.Json.Reader
import Conclave.Json.Writer
import Conclave.Proofs.Identifiers
import Mathlib.Data.List.DropRight
import Mathlib.Data.List.TakeWhile

namespace Conclave.Json

section Spaces

theorem skipSpace_skipSpace (cs : List Char) : skipSpace (skipSpace cs) = skipSpace cs :=
  List.dropWhile_idempotent _ _

theorem readValue_skipSpace (fuel : Nat) (cs : List Char) :
    readValue fuel (skipSpace cs) = readValue fuel cs := by
  cases fuel with
  | zero => rfl
  | succ fuel => rw [readValue, readValue, skipSpace_skipSpace]

theorem readItems_skipSpace (fuel : Nat) (cs : List Char) :
    readItems fuel (skipSpace cs) = readItems fuel cs := by
  cases fuel with
  | zero => rfl
  | succ fuel => rw [readItems, readItems, readValue_skipSpace]

theorem readMembers_skipSpace (fuel : Nat) (cs : List Char) :
    readMembers fuel (skipSpace cs) = readMembers fuel cs := by
  cases fuel with
  | zero => rfl
  | succ fuel => rw [readMembers, readMembers, skipSpace_skipSpace]

end Spaces

theorem codeUnit_control {n : Nat} (control : n < 0x20) :
    codeUnit? '0' '0' (Text.hexDigit (n / 16)) (Text.hexDigit (n % 16)) = some n := by
  have zero : hexValue? '0' = some 0 := rfl
  simp only [codeUnit?, zero, Text.hexValue_hexDigit (show n / 16 < 16 by omega),
    Text.hexValue_hexDigit (show n % 16 < 16 by omega)]
  congr 1
  omega

theorem readLetters_writeChar (c : Char) (letters rest : List Char) :
    readLetters none (some letters) (writeChar c ++ rest) =
      readLetters none (some (c :: letters)) rest := by
  unfold writeChar
  split
  · subst_vars; rfl
  split
  · subst_vars; rfl
  split
  · subst_vars; rfl
  split
  · subst_vars; rfl
  split
  · subst_vars; rfl
  split
  · subst_vars; rfl
  split
  · subst_vars; rfl
  split
  · rename_i control
    have pushed : Letters.pushUnit none (some letters) c.toNat = (none, some (c :: letters)) := by
      simp only [Letters.pushUnit]
      rw [if_neg (by omega), if_neg (by omega), Char.ofNat_toNat]
      rfl
    simp only [List.cons_append, List.nil_append, readLetters, codeUnit_control control, pushed]
  · rename_i quote backslash _ _ _ _ _ printable
    rw [List.singleton_append, readLetters]
    · rw [if_neg printable]
      rfl
    · exact quote
    all_goals
      intros
      contradiction

theorem readLetters_writeChars (cs letters rest : List Char) :
    readLetters none (some letters) (cs.flatMap writeChar ++ '"' :: rest) =
      some (some (cs.reverse ++ letters), rest) := by
  induction cs generalizing letters with
  | nil => rfl
  | cons c cs ih =>
      rw [List.flatMap_cons, List.append_assoc, readLetters_writeChar, ih, List.reverse_cons,
        List.append_assoc]
      rfl

theorem readString_writeString (s : String) (rest : List Char) :
    readString (s.toList.flatMap writeChar ++ '"' :: rest) = some (some s, rest) := by
  rw [readString, readLetters_writeChars, Option.map_some]
  simp

def Ends (rest : List Char) : Prop :=
  ∀ c tail, rest = c :: tail → c.isDigit = false ∧ c ≠ '.' ∧ c ≠ 'e' ∧ c ≠ 'E'

theorem ends_nil : Ends [] := fun _ _ h => nomatch h

section Append

variable {rest : List Char}

theorem takeDigits_append (ends : Ends rest) (cs : List Char) :
    takeDigits (cs ++ rest) = ((takeDigits cs).1, (takeDigits cs).2 ++ rest) := by
  simp only [takeDigits]
  induction cs with
  | nil =>
      cases rest with
      | nil => rfl
      | cons c tail => simp [(ends c tail rfl).1]
  | cons c cs ih =>
      cases digit : c.isDigit with
      | false => simp [digit]
      | true =>
          obtain ⟨hds, hrest⟩ := Prod.mk.inj ih
          simp [digit, hds, hrest]

theorem takeDigits_append_of_cons (ends : Ends rest) {cs : List Char} {d : Nat} {ds : List Nat}
    {tail : List Char} (h : takeDigits cs = (d :: ds, tail)) :
    takeDigits (cs ++ rest) = (d :: ds, tail ++ rest) := by
  rw [takeDigits_append ends, h]

theorem readWhole_append (ends : Ends rest) {cs : List Char} {ds : List Nat} {tail : List Char}
    (h : readWhole? cs = some (ds, tail)) : readWhole? (cs ++ rest) = some (ds, tail ++ rest) := by
  unfold readWhole? at h
  split at h
  · split at h
    · rename_i c t
      cases digit : c.isDigit <;> rw [digit] at h <;> cases h
      simp [readWhole?, digit]
    · cases h
      cases rest with
      | nil => rfl
      | cons c t => simp [readWhole?, (ends c t rfl).1]
  · rename_i other
    split at h
    · cases h
    · rename_i ds' _ some taken
      cases h
      obtain ⟨d, ds, rfl⟩ := List.exists_cons_of_ne_nil some
      unfold readWhole?
      split
      · rename_i t same
        cases cs with
        | nil => cases taken
        | cons c cs => exact (other cs (by rw [(List.cons.inj same).1])).elim
      · rw [takeDigits_append_of_cons ends taken]

theorem readFraction_append (ends : Ends rest) {cs : List Char} {ds : Option (List Nat)}
    {tail : List Char} (h : readFraction? cs = some (ds, tail)) :
    readFraction? (cs ++ rest) = some (ds, tail ++ rest) := by
  unfold readFraction? at h
  split at h
  · split at h
    · cases h
    · rename_i ds' _ some taken
      cases h
      obtain ⟨d, ds, rfl⟩ := List.exists_cons_of_ne_nil some
      rw [List.cons_append, readFraction?, takeDigits_append_of_cons ends taken]
  · rename_i other
    cases h
    unfold readFraction?
    split
    · rename_i t same
      cases cs with
      | nil => exact absurd rfl (ends _ _ same).2.1
      | cons c cs => exact (other cs (by rw [(List.cons.inj same).1])).elim
    · rfl

theorem readExponentDigits_append (ends : Ends rest) {negative : Bool} {cs : List Char}
    {e : Option Int} {tail : List Char} (h : readExponentDigits? negative cs = some (e, tail)) :
    readExponentDigits? negative (cs ++ rest) = some (e, tail ++ rest) := by
  unfold readExponentDigits? at h
  split at h
  · cases h
  · rename_i ds' _ some taken
    cases h
    obtain ⟨d, ds, rfl⟩ := List.exists_cons_of_ne_nil some
    rw [readExponentDigits?, takeDigits_append_of_cons ends taken]

theorem readExponent_append (ends : Ends rest) {cs : List Char} {e : Option Int} {tail : List Char}
    (h : readExponent? cs = some (e, tail)) :
    readExponent? (cs ++ rest) = some (e, tail ++ rest) := by
  cases cs with
  | nil =>
      cases h
      cases rest with
      | nil => rfl
      | cons c t =>
          obtain ⟨-, -, lower, upper⟩ := ends c t rfl
          simp [readExponent?, lower, upper]
  | cons c cs =>
      simp only [readExponent?, List.cons_append] at h ⊢
      by_cases mark : c = 'e' ∨ c = 'E'
      · rw [if_pos mark] at h ⊢
        split at h
        · exact readExponentDigits_append ends h
        · exact readExponentDigits_append ends h
        · rename_i plus minus
          cases cs with
          | nil => cases h
          | cons s cs =>
              have noPlus : s ≠ '+' := fun same => plus cs (by rw [same])
              have noMinus : s ≠ '-' := fun same => minus cs (by rw [same])
              rw [List.cons_append]
              split
              · rename_i same
                exact absurd (List.cons.inj same).1 noPlus
              · rename_i same
                exact absurd (List.cons.inj same).1 noMinus
              · exact readExponentDigits_append ends h
      · rw [if_neg mark] at h ⊢
        cases h
        rfl

theorem readLiteral_append (ends : Ends rest) {cs : List Char} {l : Literal} {tail : List Char}
    (h : readLiteral? cs = some (l, tail)) :
    readLiteral? (cs ++ rest) = some (l, tail ++ rest) := by
  unfold readLiteral? at h
  split at h
  · cases h
  rename_i whole
  split at h
  · cases h
  rename_i fraction
  split at h
  · cases h
  rename_i exponent
  cases h
  rw [readLiteral?, readWhole_append ends whole]
  simp only
  rw [readFraction_append ends fraction]
  simp only
  rw [readExponent_append ends exponent]

theorem readNumber_append (ends : Ends rest) {negative : Bool} {cs : List Char} {n : Numeral}
    {tail : List Char} (h : readNumber negative cs = (.number n, some tail)) :
    readNumber negative (cs ++ rest) = (.number n, some (tail ++ rest)) := by
  unfold readNumber at h
  split at h
  · cases h
  rename_i literal
  split at h
  · cases h
  rename_i numeral
  cases h
  rw [readNumber, readLiteral_append ends literal]
  simp only [numeral]

end Append

section Whole

theorem le_foldl (ds : List Nat) (start : Nat) :
    start ≤ ds.foldl (fun n d => n * 10 + d) start := by
  induction ds generalizing start with
  | nil => exact Nat.le_refl _
  | cons d ds ih => exact Nat.le_trans (by omega) (ih (start * 10 + d))

theorem intoSignificand_eq {ds : List Nat} {start : Nat}
    (small : ds.foldl (fun n d => n * 10 + d) start < UInt64.size) :
    intoSignificand start ds = (ds.foldl (fun n d => n * 10 + d) start, 0) := by
  induction ds generalizing start with
  | nil => rfl
  | cons d ds ih =>
      rw [intoSignificand, if_pos (Nat.lt_of_le_of_lt (le_foldl ds _) small), ih small]
      rfl

theorem toDigits_head {n : Nat} (pos : 0 < n) {cs : List Char} : Nat.toDigits 10 n ≠ '0' :: cs := by
  induction n using Nat.strongRecOn generalizing cs with
  | _ n ih =>
      by_cases small : n < 10
      · rw [Nat.toDigits_of_lt_base small]
        interval_cases n <;> simp [Nat.digitChar]
      · rw [Nat.toDigits_of_base_le (by decide) (by omega)]
        obtain ⟨c, t, front⟩ := List.exists_cons_of_ne_nil (Nat.toDigits_ne_nil (n := n / 10) (b := 10))
        rw [front]
        intro same
        obtain ⟨rfl, -⟩ := List.cons.inj same
        exact ih (n / 10) (by omega) (by omega) front

theorem takeDigits_toDigits (n : Nat) : ∃ d ds,
    takeDigits (Nat.toDigits 10 n) = (d :: ds, []) ∧ numberOf (d :: ds) = n := by
  have digits : ∀ c ∈ Nat.toDigits 10 n, c.isDigit = true :=
    fun c hc => Nat.isDigit_of_mem_toDigits (by decide) (by decide) hc
  have value : numberOf ((Nat.toDigits 10 n).map fun c => c.toNat - 48) = n := by
    have value := Nat.ofDigitChars_ten_toDigits (n := n)
    rw [Nat.ofDigitChars_eq_foldl] at value
    simp only [Nat.mul_comm 10] at value
    rw [numberOf, List.foldl_map]
    exact value
  have taken : takeDigits (Nat.toDigits 10 n) =
      ((Nat.toDigits 10 n).map fun c => c.toNat - 48, []) := by
    rw [takeDigits, List.takeWhile_eq_self_iff.2 digits, List.dropWhile_eq_nil_iff.2 digits]
  obtain ⟨c, t, front⟩ := List.exists_cons_of_ne_nil (Nat.toDigits_ne_nil (n := n) (b := 10))
  rw [front] at taken value ⊢
  exact ⟨_, _, taken, value⟩

theorem readWhole_toDigits (n : Nat) : ∃ ds,
    readWhole? (Nat.toDigits 10 n) = some (ds, []) ∧ numberOf ds = n := by
  rcases Nat.eq_zero_or_pos n with rfl | pos
  · exact ⟨[0], rfl, rfl⟩
  · obtain ⟨d, ds, taken, value⟩ := takeDigits_toDigits n
    refine ⟨d :: ds, ?_, value⟩
    unfold readWhole?
    split
    · rename_i same
      exact absurd same (toDigits_head pos)
    · rw [taken]

theorem readNumber_toDigits {n : Nat} (small : n < UInt64.size) (negative : Bool)
    (range : negative = true → 0 < n ∧ n ≤ 0x8000000000000000) :
    readNumber negative (Nat.toDigits 10 n) =
      (.number (if negative then .negative (UInt64.ofNat n) else .natural (UInt64.ofNat n)),
        some []) := by
  obtain ⟨ds, whole, rfl⟩ := readWhole_toDigits n
  have literal : readLiteral? (Nat.toDigits 10 (numberOf ds)) = some (⟨ds, none, none⟩, []) := by
    rw [readLiteral?, whole]
    rfl
  have significand : intoSignificand 0 ds = (numberOf ds, 0) := intoSignificand_eq small
  have numeral : (Literal.mk ds none none).numeral? negative =
      some (if negative then .negative (UInt64.ofNat (numberOf ds))
        else .natural (UInt64.ofNat (numberOf ds))) := by
    simp only [Literal.numeral?, significand]
    cases negative with
    | false => rfl
    | true =>
        obtain ⟨pos, le⟩ := range rfl
        rw [if_neg (by simp), if_neg (by omega)]
        rfl
  simp only [readNumber, literal, numeral]

end Whole

end Conclave.Json

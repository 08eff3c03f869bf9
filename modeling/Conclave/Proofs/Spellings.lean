import Conclave.Api
import Conclave.Proofs.Identifiers
import Conclave.Proofs.Paths

namespace Conclave

namespace Text

section Ascii

theorem forall_char_lt {n : Nat} {p : Char → Prop} (h : ∀ k < n, p (Char.ofNat k)) (c : Char)
    (small : c.toNat < n) : p c := by
  have hc := h c.toNat small
  rwa [Char.ofNat_toNat] at hc

theorem forall_uint8 {p : UInt8 → Prop} (h : ∀ k < 256, p (UInt8.ofNat k)) (b : UInt8) : p b := by
  have hb := h b.toNat b.toNat_lt
  rwa [UInt8.ofNat_toNat] at hb

def asChar (b : UInt8) : Char := Char.ofNat b.toNat

def asByte (c : Char) : UInt8 := UInt8.ofNat c.toNat

theorem asChar_asByte {c : Char} (small : c.toNat < 128) : asChar (asByte c) = c := by
  have same : (asByte c).toNat = c.toNat := by
    rw [asByte, UInt8.toNat_ofNat', Nat.mod_eq_of_lt (by omega)]
  rw [asChar, same, Char.ofNat_toNat]

theorem utf8EncodeChar_of_small {c : Char} (small : c.toNat < 128) :
    String.utf8EncodeChar c = [asByte c] := by
  have size : c.utf8Size = 1 := by
    rw [Char.utf8Size_eq_one_iff, UInt32.le_iff_toNat_le]
    exact Nat.le_of_lt_succ small
  rw [String.utf8EncodeChar_eq_singleton size]
  rfl

theorem bytes_of_small {cs : List Char} (small : ∀ c ∈ cs, c.toNat < 128) :
    (String.ofList cs).toUTF8.toList = cs.map asByte := by
  have encoded : cs.flatMap String.utf8EncodeChar = cs.map asByte := by
    induction cs with
    | nil => rfl
    | cons c cs ih =>
        rw [List.flatMap_cons, utf8EncodeChar_of_small (small c List.mem_cons_self), List.map_cons,
          ih fun c hc => small c (List.mem_cons_of_mem _ hc)]
        rfl
  rw [byteList_eq]
  show (String.ofList cs).toByteArray.data.toList = _
  rw [String.toByteArray_ofList, List.utf8Encode, encoded]
  simp

theorem toNat_asChar (b : UInt8) : (asChar b).toNat = b.toNat := by
  have small := b.toNat_lt
  have valid : b.toNat.isValidChar := .inl (by omega)
  rw [asChar, Char.ofNat, dif_pos valid]
  rfl

theorem asByte_asChar (b : UInt8) : asByte (asChar b) = b := by
  rw [asByte, toNat_asChar, UInt8.ofNat_toNat]

theorem toList_of_small {s : String} (small : ∀ b ∈ s.toUTF8.toList, b.toNat < 128) :
    s.toList = s.toUTF8.toList.map asChar := by
  have bytes : (String.ofList (s.toUTF8.toList.map asChar)).toUTF8.toList = s.toUTF8.toList := by
    rw [bytes_of_small, List.map_map]
    · exact (List.map_congr_left fun b _ => asByte_asChar b).trans (List.map_id _)
    · intro c hc
      obtain ⟨b, hb, rfl⟩ := List.mem_map.1 hc
      rw [toNat_asChar]
      exact small b hb
  have same : String.ofList (s.toUTF8.toList.map asChar) = s := by
    rw [byteList_eq (String.toUTF8 (String.ofList _)), byteList_eq s.toUTF8, Array.toList_inj] at bytes
    rw [byteList_eq]
    exact String.toByteArray_inj.1 (ByteArray.ext bytes)
  conv_lhs => rw [← same, String.toList_ofList]

end Ascii

section Hex

theorem toNat_hexDigit {n : Nat} (small : n < 16) : (hexDigit n).toNat < 128 := by
  interval_cases n <;> decide

theorem toLower_hexDigit {n : Nat} (small : n < 16) : (hexDigit n).toLower = hexDigit n := by
  interval_cases n <;> decide

theorem hexDigit_injective {n k : Nat} (hn : n < 16) (hk : k < 16) (same : hexDigit n = hexDigit k) :
    n = k := by
  have read := Text.hexValue_hexDigit hn
  rw [same, Text.hexValue_hexDigit hk] at read
  exact (Option.some.inj read).symm

theorem small_of_toLower {c : Char} (small : c.toLower.toNat < 128) : c.toNat < 128 := by
  unfold Char.toLower at small
  split at small
  · rename_i upper
    have below : c.val.toNat ≤ 'Z'.val.toNat := UInt32.le_iff_toNat_le.1 upper.2
    exact Nat.lt_of_le_of_lt below (by decide)
  · exact small

theorem nibble?_eq_some {b v : UInt8} :
    nibble? b = some v ↔
      v.toNat < 16 ∧ b.toNat < 128 ∧ (asChar b).toLower = hexDigit v.toNat := by
  have all : ∀ b : UInt8, (nibble? b).all (fun v => decide
      (v.toNat < 16 ∧ b.toNat < 128 ∧ (asChar b).toLower = hexDigit v.toNat)) = true :=
    forall_uint8 (by decide +kernel)
  have digits : ∀ b v, nibble? b = some v →
      v.toNat < 16 ∧ b.toNat < 128 ∧ (asChar b).toLower = hexDigit v.toNat :=
    fun b v h => of_decide_eq_true (Option.all_eq_true _ _ |>.1 (all b) v h)
  have others : ∀ b : UInt8, nibble? b = none → b.toNat < 128 →
      ∀ n < 16, (asChar b).toLower ≠ hexDigit n :=
    forall_uint8 (by decide +kernel)
  refine ⟨digits b v, fun ⟨digit, small, same⟩ => ?_⟩
  cases h : nibble? b with
  | none => exact absurd same (others b h small _ digit)
  | some v' =>
      obtain ⟨digit', -, same'⟩ := digits b v' h
      rw [UInt8.toNat_inj.1 (hexDigit_injective digit' digit (same'.symm.trans same))]

def Digits (bytes d : List UInt8) : Prop :=
  (∀ b ∈ bytes, b.toNat < 128) ∧ bytes.map (fun b => (asChar b).toLower) = d.flatMap hexPair

theorem hexPair_pack {h l : UInt8} (high : h.toNat < 16) (low : l.toNat < 16) :
    hexPair (h * 16 + l) = [hexDigit h.toNat, hexDigit l.toNat] := by
  have value : (h * 16 + l).toNat = h.toNat * 16 + l.toNat := by
    rw [UInt8.toNat_add, UInt8.toNat_mul]
    show (h.toNat * 16 % 256 + l.toNat) % 256 = _
    omega
  rw [hexPair, value, show (h.toNat * 16 + l.toNat) / 16 = h.toNat by omega,
    show (h.toNat * 16 + l.toNat) % 16 = l.toNat by omega]

theorem digits_of_readHexPairs {bytes d : List UInt8} {position : Nat}
    (even : bytes.length % 2 = 0) (h : readHexPairs position bytes = .ok d) : Digits bytes d := by
  fun_induction readHexPairs position bytes generalizing d with
  | case1 => cases h
  | case2 => cases h
  | case3 position high low rest hi lo readLow readHigh ih =>
      cases read : readHexPairs (position + 2) rest with
      | error f =>
          rw [read] at h
          cases h
      | ok tail =>
          rw [read] at h
          obtain rfl := Except.ok.inj h
          obtain ⟨small, spelled⟩ := ih (by simp at even; omega) read
          obtain ⟨digitHigh, smallHigh, sameHigh⟩ := nibble?_eq_some.1 readHigh
          obtain ⟨digitLow, smallLow, sameLow⟩ := nibble?_eq_some.1 readLow
          refine ⟨List.forall_mem_cons.2 ⟨smallHigh, List.forall_mem_cons.2 ⟨smallLow, small⟩⟩, ?_⟩
          rw [List.map_cons, List.map_cons, List.flatMap_cons, hexPair_pack digitHigh digitLow, sameHigh,
            sameLow, spelled]
          rfl
  | case4 bytes position short =>
      cases h
      match bytes with
      | [] => exact ⟨nofun, rfl⟩
      | [_] => cases even
      | high :: low :: rest => exact (short high low rest rfl).elim

theorem readHexPairs_of_digits {bytes d : List UInt8} (h : Digits bytes d) (position : Nat) :
    readHexPairs position bytes = .ok d := by
  induction d generalizing bytes position with
  | nil =>
      obtain rfl := List.map_eq_nil_iff.1 h.2
      rfl
  | cons b d ih =>
      obtain ⟨small, spelled⟩ := h
      rw [List.flatMap_cons, hexPair, List.cons_append, List.cons_append, List.nil_append] at spelled
      obtain ⟨high, rest, rfl, sameHigh, spelled⟩ := List.map_eq_cons_iff.1 spelled
      obtain ⟨low, rest, rfl, sameLow, spelled⟩ := List.map_eq_cons_iff.1 spelled
      obtain ⟨smallHigh, small⟩ := List.forall_mem_cons.1 small
      obtain ⟨smallLow, small⟩ := List.forall_mem_cons.1 small
      have size := b.toNat_lt
      have toNat : ∀ n, n < 16 → (UInt8.ofNat n).toNat = n := fun n hn => by
        rw [UInt8.toNat_ofNat', Nat.mod_eq_of_lt (by omega)]
      have readHigh : nibble? high = some (UInt8.ofNat (b.toNat / 16)) := by
        rw [nibble?_eq_some, toNat _ (by omega)]
        exact ⟨by omega, smallHigh, sameHigh⟩
      have readLow : nibble? low = some (UInt8.ofNat (b.toNat % 16)) := by
        rw [nibble?_eq_some, toNat _ (by omega)]
        exact ⟨by omega, smallLow, sameLow⟩
      have packed : UInt8.ofNat (b.toNat / 16) * 16 + UInt8.ofNat (b.toNat % 16) = b := by
        rw [← UInt8.toNat_inj, UInt8.toNat_add, UInt8.toNat_mul, toNat _ (by omega),
          toNat _ (by omega)]
        show (b.toNat / 16 * 16 % 256 + b.toNat % 16) % 256 = _
        omega
      simp only [readHexPairs, readHigh, readLow, ih ⟨small, spelled⟩, Except.map, packed]

theorem length_hexPairs (d : List UInt8) : (d.flatMap hexPair).length = 2 * d.length := by
  induction d with
  | nil => rfl
  | cons b d ih =>
      rw [List.flatMap_cons, List.length_append, ih, List.length_cons]
      show 2 + _ = _
      omega

theorem readHexBytes_eq_ok {bytes d : List UInt8} : readHexBytes bytes = .ok d ↔ Digits bytes d := by
  unfold readHexBytes
  split
  · rename_i even
    exact ⟨digits_of_readHexPairs even, fun h => readHexPairs_of_digits h 0⟩
  · rename_i odd
    refine ⟨nofun, fun h => ?_⟩
    have length := congrArg List.length h.2
    rw [List.length_map, length_hexPairs] at length
    omega

theorem toList_hex (d : List UInt8) : (hex d).toList = d.flatMap hexPair := String.toList_ofList

theorem mem_hex {d : List UInt8} {c : Char} (hc : c ∈ (hex d).toList) :
    ∃ n, n < 16 ∧ c = hexDigit n := by
  rw [toList_hex, List.mem_flatMap] at hc
  obtain ⟨b, -, hc⟩ := hc
  have size := b.toNat_lt
  rw [hexPair, List.mem_cons, List.mem_singleton] at hc
  rcases hc with rfl | rfl
  · exact ⟨_, by omega, rfl⟩
  · exact ⟨_, by omega, rfl⟩

theorem readHex_eq_ok {s : String} {d : List UInt8} :
    readHex s = .ok d ↔ s.toList.map Char.toLower = (hex d).toList := by
  rw [readHex, readHexBytes_eq_ok, toList_hex]
  constructor
  · rintro ⟨small, spelled⟩
    rw [toList_of_small small, List.map_map]
    exact spelled
  · intro spelled
    have small : ∀ c ∈ s.toList, c.toNat < 128 := by
      intro c hc
      have member : c.toLower ∈ (hex d).toList :=
        toList_hex d ▸ spelled ▸ List.mem_map_of_mem hc
      obtain ⟨n, hn, same⟩ := mem_hex member
      exact small_of_toLower (same ▸ toNat_hexDigit hn)
    have bytes := bytes_of_small small
    rw [String.ofList_toList] at bytes
    rw [Digits, bytes, List.map_map, ← spelled]
    refine ⟨fun b hb => ?_, List.map_congr_left fun c hc => ?_⟩
    · obtain ⟨c, hc, rfl⟩ := List.mem_map.1 hb
      rw [← toNat_asChar, asChar_asByte (small c hc)]
      exact small c hc
    · exact congrArg Char.toLower (asChar_asByte (small c hc))

theorem readHex_hex (d : List UInt8) : readHex (hex d) = .ok d := by
  refine readHex_eq_ok.2 ?_
  refine (List.map_congr_left fun c hc => ?_).trans (List.map_id _)
  obtain ⟨n, hn, rfl⟩ := mem_hex hc
  exact toLower_hexDigit hn

end Hex

section Base64

theorem sextet?_sextetChar {n : Nat} (small : n < 64) : sextet? (sextetChar n) = some n := by
  have all : ∀ n < 64, sextet? (sextetChar n) = some n := by decide
  exact all n small

theorem sextetChar_ne_pad {n : Nat} (small : n < 64) : sextetChar n ≠ '=' := by
  intro same
  have read := sextet?_sextetChar small
  rw [same] at read
  cases read

theorem le_toNat {a c : Char} (h : a ≤ c) : a.toNat ≤ c.toNat := UInt32.le_iff_toNat_le.1 h

theorem of_sextet? {c : Char} {n : Nat} (h : sextet? c = some n) : n < 64 ∧ sextetChar n = c := by
  unfold sextet? at h
  split at h
  · rename_i range
    have low : 65 ≤ c.toNat := le_toNat range.1
    have high : c.toNat ≤ 90 := le_toNat range.2
    obtain rfl := Option.some.inj h
    refine ⟨by omega, ?_⟩
    rw [sextetChar, if_pos (by omega), Nat.sub_add_cancel low, Char.ofNat_toNat]
  split at h
  · rename_i range
    have low : 97 ≤ c.toNat := le_toNat range.1
    have high : c.toNat ≤ 122 := le_toNat range.2
    obtain rfl := Option.some.inj h
    refine ⟨by omega, ?_⟩
    rw [sextetChar, if_neg (by omega), if_pos (by omega), Nat.sub_add_cancel (by omega),
      Char.ofNat_toNat]
  split at h
  · rename_i range
    have low : 48 ≤ c.toNat := le_toNat range.1
    have high : c.toNat ≤ 57 := le_toNat range.2
    obtain rfl := Option.some.inj h
    refine ⟨by omega, ?_⟩
    rw [sextetChar, if_neg (by omega), if_neg (by omega), if_pos (by omega), Nat.add_sub_cancel,
      Char.ofNat_toNat]
  split at h
  · rename_i plus
    obtain rfl := Option.some.inj h
    exact ⟨by decide, plus ▸ rfl⟩
  split at h
  · rename_i slash
    obtain rfl := Option.some.inj h
    exact ⟨by decide, slash ▸ rfl⟩
  · cases h

inductive Group : Char → Char → Char → Char → List UInt8 → Prop
  | one {x y : Nat} (hx : x < 64) (hy : y < 64) (spare : y % 16 = 0) :
      Group (sextetChar x) (sextetChar y) '=' '=' [UInt8.ofNat (x * 4 + y / 16)]
  | two {x y z : Nat} (hx : x < 64) (hy : y < 64) (hz : z < 64) (spare : z % 4 = 0) :
      Group (sextetChar x) (sextetChar y) (sextetChar z) '='
        [UInt8.ofNat (x * 4 + y / 16), UInt8.ofNat (y % 16 * 16 + z / 4)]
  | three {x y z w : Nat} (hx : x < 64) (hy : y < 64) (hz : z < 64) (hw : w < 64) :
      Group (sextetChar x) (sextetChar y) (sextetChar z) (sextetChar w)
        [UInt8.ofNat (x * 4 + y / 16), UInt8.ofNat (y % 16 * 16 + z / 4),
          UInt8.ofNat (z % 4 * 64 + w)]

theorem group_of_lastGroup? {a b c d : Char} {group : List UInt8}
    (h : lastGroup? a b c d = some group) : Group a b c d group := by
  unfold lastGroup? at h
  split at h
  · rename_i x y readA readB
    obtain ⟨hx, rfl⟩ := of_sextet? readA
    obtain ⟨hy, rfl⟩ := of_sextet? readB
    split at h
    · rename_i pads
      obtain ⟨rfl, rfl⟩ := pads
      split at h
      · rename_i spare
        obtain rfl := Option.some.inj h
        exact .one hx hy spare
      · cases h
    · split at h
      · cases h
      · rename_i z readC
        obtain ⟨hz, rfl⟩ := of_sextet? readC
        split at h
        · rename_i pad
          subst pad
          split at h
          · rename_i spare
            obtain rfl := Option.some.inj h
            exact .two hx hy hz spare
          · cases h
        · split at h
          · cases h
          · rename_i w readD
            obtain ⟨hw, rfl⟩ := of_sextet? readD
            obtain rfl := Option.some.inj h
            exact .three hx hy hz hw
  · cases h

theorem toNat_ofNat_of_lt {n : Nat} (small : n < 256) : (UInt8.ofNat n).toNat = n := by
  rw [UInt8.toNat_ofNat', Nat.mod_eq_of_lt small]

theorem Group.written {a b c d : Char} {group : List UInt8} (h : Group a b c d group) :
    base64List group = [a, b, c, d] := by
  cases h with
  | @one x y hx hy spare =>
      have first := toNat_ofNat_of_lt (show x * 4 + y / 16 < 256 by omega)
      rw [base64List, first, show (x * 4 + y / 16) / 4 = x by omega,
        show (x * 4 + y / 16) % 4 * 16 = y by omega]
  | @two x y z hx hy hz spare =>
      have first := toNat_ofNat_of_lt (show x * 4 + y / 16 < 256 by omega)
      have second := toNat_ofNat_of_lt (show y % 16 * 16 + z / 4 < 256 by omega)
      rw [base64List, first, second, show (x * 4 + y / 16) / 4 = x by omega,
        show (x * 4 + y / 16) % 4 * 16 + (y % 16 * 16 + z / 4) / 16 = y by omega,
        show (y % 16 * 16 + z / 4) % 16 * 4 = z by omega]
  | @three x y z w hx hy hz hw =>
      have first := toNat_ofNat_of_lt (show x * 4 + y / 16 < 256 by omega)
      have second := toNat_ofNat_of_lt (show y % 16 * 16 + z / 4 < 256 by omega)
      have third := toNat_ofNat_of_lt (show z % 4 * 64 + w < 256 by omega)
      rw [base64List, first, second, third, show (x * 4 + y / 16) / 4 = x by omega,
        show (x * 4 + y / 16) % 4 * 16 + (y % 16 * 16 + z / 4) / 16 = y by omega,
        show (y % 16 * 16 + z / 4) % 16 * 4 + (z % 4 * 64 + w) / 64 = z by omega,
        show (z % 4 * 64 + w) % 64 = w by omega]
      rfl

theorem Group.written_append {a b c d : Char} {group : List UInt8} (h : Group a b c d group)
    (full : d ≠ '=') (rest : List UInt8) :
    base64List (group ++ rest) = [a, b, c, d] ++ base64List rest := by
  rw [← h.written]
  cases h with
  | one => exact absurd rfl full
  | two => exact absurd rfl full
  | three =>
      simp only [List.cons_append, List.nil_append, base64List]

theorem base64List_of_read {cs : List Char} {bytes : List UInt8}
    (h : readBase64List cs = some bytes) : base64List bytes = cs := by
  fun_induction readBase64List cs generalizing bytes with
  | case1 =>
      obtain rfl := Option.some.inj h
      rfl
  | case2 a b c d => exact (group_of_lastGroup? h).written
  | case3 => cases h
  | case4 a b c d rest more full group tail readTail readGroup ih =>
      obtain rfl := Option.some.inj h
      rw [(group_of_lastGroup? readGroup).written_append full, ih readTail]
      rfl
  | case5 => cases h
  | case6 => cases h

theorem lastGroup?_of_group {a b c d : Char} {group : List UInt8} (h : Group a b c d group) :
    lastGroup? a b c d = some group := by
  cases h with
  | one hx hy spare => simp [lastGroup?, sextet?_sextetChar hx, sextet?_sextetChar hy, spare]
  | two hx hy hz spare =>
      simp [lastGroup?, sextet?_sextetChar hx, sextet?_sextetChar hy, sextet?_sextetChar hz,
        sextetChar_ne_pad hz, spare]
  | three hx hy hz hw =>
      simp [lastGroup?, sextet?_sextetChar hx, sextet?_sextetChar hy, sextet?_sextetChar hz,
        sextet?_sextetChar hw, sextetChar_ne_pad hw]

theorem ofNat_eq {n : Nat} {b : UInt8} (same : n = b.toNat) : UInt8.ofNat n = b := by
  rw [same, UInt8.ofNat_toNat]

theorem group_one (a : UInt8) :
    Group (sextetChar (a.toNat / 4)) (sextetChar (a.toNat % 4 * 16)) '=' '=' [a] := by
  have size := a.toNat_lt
  have group := Group.one (x := a.toNat / 4) (y := a.toNat % 4 * 16) (by omega) (by omega) (by omega)
  rwa [ofNat_eq (b := a) (by omega)] at group

theorem group_two (a b : UInt8) :
    Group (sextetChar (a.toNat / 4)) (sextetChar (a.toNat % 4 * 16 + b.toNat / 16))
      (sextetChar (b.toNat % 16 * 4)) '=' [a, b] := by
  have sizeA := a.toNat_lt
  have sizeB := b.toNat_lt
  have group := Group.two (x := a.toNat / 4) (y := a.toNat % 4 * 16 + b.toNat / 16)
    (z := b.toNat % 16 * 4) (by omega) (by omega) (by omega) (by omega)
  rwa [ofNat_eq (b := a) (by omega), ofNat_eq (b := b) (by omega)] at group

theorem group_three (a b c : UInt8) :
    Group (sextetChar (a.toNat / 4)) (sextetChar (a.toNat % 4 * 16 + b.toNat / 16))
      (sextetChar (b.toNat % 16 * 4 + c.toNat / 64)) (sextetChar (c.toNat % 64)) [a, b, c] := by
  have sizeA := a.toNat_lt
  have sizeB := b.toNat_lt
  have sizeC := c.toNat_lt
  have group := Group.three (x := a.toNat / 4) (y := a.toNat % 4 * 16 + b.toNat / 16)
    (z := b.toNat % 16 * 4 + c.toNat / 64) (w := c.toNat % 64) (by omega) (by omega) (by omega)
    (by omega)
  rwa [ofNat_eq (b := a) (by omega), ofNat_eq (b := b) (by omega),
    ofNat_eq (b := c) (by omega)] at group

theorem readBase64List_base64List (bytes : List UInt8) :
    readBase64List (base64List bytes) = some bytes := by
  fun_induction base64List bytes with
  | case1 => rfl
  | case2 a => exact lastGroup?_of_group (group_one a)
  | case3 a b => exact lastGroup?_of_group (group_two a b)
  | case4 a b c rest ih =>
      have group := lastGroup?_of_group (group_three a b c)
      have full := sextetChar_ne_pad (Nat.mod_lt c.toNat (by decide : 0 < 64))
      cases more : base64List rest with
      | nil =>
          rw [more] at ih
          obtain rfl := Option.some.inj ih
          exact group
      | cons d ds =>
          rw [more] at ih
          simp only [List.cons_append, List.nil_append, readBase64List, if_neg full, group, ih]

theorem readBase64_eq_some {s : String} {bytes : List UInt8} :
    readBase64 s = some bytes ↔ s.toList = (base64 bytes).toList := by
  rw [base64, String.toList_ofList]
  constructor
  · intro h
    exact (base64List_of_read h).symm
  · intro h
    rw [readBase64, h, readBase64List_base64List]

theorem plain_base64 {bytes : List UInt8} : ∀ c ∈ (base64 bytes).toList, isBlank c = false := by
  have sextet : ∀ n < 64, isBlank (sextetChar n) = false := by decide
  have pad : isBlank '=' = false := by decide
  rw [base64, String.toList_ofList]
  fun_induction base64List bytes with
  | case1 => nofun
  | case2 a =>
      have size := a.toNat_lt
      simp only [List.forall_mem_cons]
      exact ⟨sextet _ (by omega), sextet _ (by omega), pad, pad, nofun⟩
  | case3 a b =>
      have sizeA := a.toNat_lt
      have sizeB := b.toNat_lt
      simp only [List.forall_mem_cons]
      exact ⟨sextet _ (by omega), sextet _ (by omega), sextet _ (by omega), pad, nofun⟩
  | case4 a b c rest ih =>
      have sizeA := a.toNat_lt
      have sizeB := b.toNat_lt
      have sizeC := c.toNat_lt
      simp only [List.forall_mem_append, List.forall_mem_cons]
      exact ⟨⟨sextet _ (by omega), sextet _ (by omega), sextet _ (by omega), sextet _ (by omega),
        nofun⟩, ih⟩

end Base64

section Blanks

def Around (core : List Char) (t : String) : Prop :=
  ∃ front back, (∀ c ∈ front, isBlank c = true) ∧ (∀ c ∈ back, isBlank c = true) ∧
    t.toList = front ++ core ++ back

theorem around_trim (t : String) : Around (trim t).toList t := by
  obtain ⟨back, split, blank⟩ := dropEnd_append isBlank (t.toList.dropWhile isBlank)
  refine ⟨t.toList.takeWhile isBlank, back, fun c hc => List.mem_takeWhile_imp hc, blank, ?_⟩
  rw [trim, String.toList_ofList, trimList, List.append_assoc, ← split,
    List.takeWhile_append_dropWhile]

theorem trim_around {core : List Char} {t : String} (around : Around core t) :
    trim t = trim (String.ofList core) := by
  obtain ⟨front, back, hfront, hback, split⟩ := around
  rw [trim, trim, split, trimList_append hback, trimList, List.dropWhile_append_of_pos hfront,
    ← trimList, String.toList_ofList]

theorem trim_trim (t : String) : trim (trim t) = trim t := by
  have same := trim_around (around_trim t)
  rw [String.ofList_toList] at same
  exact same.symm

theorem trim_of_around {core : List Char} {t : String} (around : Around core t)
    (plain : ∀ c ∈ core, isBlank c = false) : (trim t).toList = core := by
  have unblank : core.dropWhile isBlank = core := by
    cases core with
    | nil => rfl
    | cons c core =>
        exact List.dropWhile_cons_of_neg (by simp [plain c List.mem_cons_self])
  have unblank' : core.reverse.dropWhile isBlank = core.reverse := by
    cases back' : core.reverse with
    | nil => rfl
    | cons c rest =>
        have member : c ∈ core := List.mem_reverse.1 (back' ▸ List.mem_cons_self)
        exact List.dropWhile_cons_of_neg (by simp [plain c member])
  have trimmed : trimList core = core := by
    rw [trimList, unblank, dropEnd, unblank', List.reverse_reverse]
  rw [trim_around around, trim, String.toList_ofList, String.toList_ofList, trimmed]

end Blanks

section Spelled

def SpellsHex (t : String) (d : List UInt8) : Prop :=
  ∃ mark digits, mark ∈ [[], ['0', 'x']] ∧ Around (mark ++ digits) t ∧
    digits.map Char.toLower = (hex d).toList

def SpellsBase64 (t : String) (s : List UInt8) : Prop := Around (base64 s).toList t

theorem plain_digits {digits : List Char} {d : List UInt8}
    (spelled : digits.map Char.toLower = (hex d).toList) : ∀ c ∈ digits, isBlank c = false := by
  have blanks : ∀ k < 128, ∀ n < 16, (Char.ofNat k).toLower = hexDigit n →
      isBlank (Char.ofNat k) = false := by decide +kernel
  intro c hc
  obtain ⟨n, hn, same⟩ := mem_hex (spelled ▸ List.mem_map_of_mem hc)
  have small : c.toNat < 128 := small_of_toLower (same ▸ toNat_hexDigit hn)
  exact forall_char_lt (p := fun c => ∀ n < 16, c.toLower = hexDigit n → isBlank c = false) blanks c
    small n hn same

theorem unmarked {digits : List Char} {d : List UInt8}
    (spelled : digits.map Char.toLower = (hex d).toList) :
    ['0', 'x'].isPrefixOf digits = false := by
  match digits with
  | [] => rfl
  | [c] => simp [List.isPrefixOf]
  | c :: x :: rest =>
      have other : x ≠ 'x' := by
        rintro rfl
        have digit : ∀ n < 16, 'x'.toLower ≠ hexDigit n := by decide
        obtain ⟨n, hn, same⟩ := mem_hex (d := d) (c := 'x'.toLower)
          (spelled ▸ List.mem_map_of_mem (List.mem_cons_of_mem _ List.mem_cons_self))
        exact digit n hn same
      have other : ('x' == x) = false := by simpa using Ne.symm other
      simp [List.isPrefixOf, other]

def unmark (t : String) : String := if startsWith "0x" t then String.ofList (t.toList.drop 2) else t

theorem toList_unmark (t : String) : (unmark t).toList =
    if ['0', 'x'].isPrefixOf t.toList then t.toList.drop 2 else t.toList := by
  have mark : "0x".toList = ['0', 'x'] := by decide
  rw [unmark, startsWith, mark]
  split
  · exact String.toList_ofList
  · rfl

theorem plain_mark : ∀ c ∈ ['0', 'x'], isBlank c = false :=
  List.forall_mem_cons.2 ⟨by decide, List.forall_mem_cons.2 ⟨by decide, nofun⟩⟩

theorem readHex_unmark {t : String} {d : List UInt8} :
    readHex (unmark (trim t)) = .ok d ↔ SpellsHex t d := by
  rw [readHex_eq_ok, toList_unmark]
  constructor
  · intro h
    have around := around_trim t
    split at h
    · rename_i marked
      obtain ⟨digits, split⟩ := List.isPrefixOf_iff_prefix.1 marked
      have dropped : (['0', 'x'] ++ digits).drop 2 = digits := rfl
      rw [← split, dropped] at h
      rw [← split] at around
      exact ⟨['0', 'x'], digits, List.mem_cons_of_mem _ List.mem_cons_self, around, h⟩
    · refine ⟨[], (trim t).toList, List.mem_cons_self, ?_, h⟩
      rwa [List.nil_append]
  · rintro ⟨mark, digits, hmark, around, spelled⟩
    have plain := plain_digits spelled
    rcases List.mem_pair.1 hmark with rfl | rfl
    · rw [List.nil_append] at around
      rw [trim_of_around around plain, if_neg]
      · exact spelled
      · rw [unmarked spelled]
        exact Bool.false_ne_true
    · rw [trim_of_around around (List.forall_mem_append.2 ⟨plain_mark, plain⟩), if_pos]
      · exact spelled
      · exact List.isPrefixOf_iff_prefix.2 ⟨digits, rfl⟩

def IsHexDigit (c : Char) : Prop :=
  ('0' ≤ c ∧ c ≤ '9') ∨ ('a' ≤ c ∧ c ≤ 'f') ∨ ('A' ≤ c ∧ c ≤ 'F')

instance (c : Char) : Decidable (IsHexDigit c) :=
  inferInstanceAs (Decidable (('0' ≤ c ∧ c ≤ '9') ∨ ('a' ≤ c ∧ c ≤ 'f') ∨ ('A' ≤ c ∧ c ≤ 'F')))

def IsHex (t : String) : Prop :=
  ∃ mark digits, mark ∈ [[], ['0', 'x']] ∧ Around (mark ++ digits) t ∧ digits ≠ [] ∧
    digits.length % 2 = 0 ∧ ∀ c ∈ digits, IsHexDigit c

theorem isHexDigit_iff {c : Char} : IsHexDigit c ↔ ∃ n < 16, c.toLower = hexDigit n := by
  have all : ∀ k < 128, IsHexDigit (Char.ofNat k) ↔ ∃ n < 16, (Char.ofNat k).toLower = hexDigit n := by
    decide +kernel
  have first := forall_char_lt (p := fun c => IsHexDigit c ↔ ∃ n < 16, c.toLower = hexDigit n) all c
  constructor
  · intro digit
    refine (first ?_).1 digit
    rcases digit with ⟨-, le⟩ | ⟨-, le⟩ | ⟨-, le⟩ <;>
      exact Nat.lt_of_le_of_lt (le_toNat le) (by decide)
  · intro digit
    obtain ⟨n, hn, same⟩ := digit
    exact (first (small_of_toLower (same ▸ toNat_hexDigit hn))).2 ⟨n, hn, same⟩

theorem spelled_of_digits : ∀ {digits : List Char}, digits.length % 2 = 0 →
    (∀ c ∈ digits, IsHexDigit c) → ∃ d, digits.map Char.toLower = (hex d).toList
  | [], _, _ => ⟨[], rfl⟩
  | [_], even, _ => by cases even
  | high :: low :: rest, even, all => by
      obtain ⟨allHigh, allLow, all⟩ := List.forall_mem_cons.1 all |>.imp_right List.forall_mem_cons.1
      obtain ⟨h, smallHigh, sameHigh⟩ := isHexDigit_iff.1 allHigh
      obtain ⟨l, smallLow, sameLow⟩ := isHexDigit_iff.1 allLow
      obtain ⟨d, spelled⟩ := spelled_of_digits ((Nat.add_mod_right _ 2).symm.trans even) all
      have pair : hexPair (UInt8.ofNat h * 16 + UInt8.ofNat l) = [hexDigit h, hexDigit l] := by
        rw [hexPair_pack, toNat_ofNat_of_lt (by omega), toNat_ofNat_of_lt (by omega)]
        · rwa [toNat_ofNat_of_lt (by omega)]
        · rwa [toNat_ofNat_of_lt (by omega)]
      refine ⟨(UInt8.ofNat h * 16 + UInt8.ofNat l) :: d, ?_⟩
      rw [toList_hex, List.flatMap_cons, ← toList_hex, pair, ← spelled, List.map_cons, List.map_cons,
        sameHigh, sameLow]
      rfl

theorem isHex_iff {t : String} : IsHex t ↔ ∃ d, SpellsHex t d ∧ d ≠ [] := by
  constructor
  · rintro ⟨mark, digits, hmark, around, some, even, all⟩
    obtain ⟨d, spelled⟩ := spelled_of_digits even all
    refine ⟨d, ⟨mark, digits, hmark, around, spelled⟩, ?_⟩
    rintro rfl
    exact some (List.map_eq_nil_iff.1 spelled)
  · rintro ⟨d, ⟨mark, digits, hmark, around, spelled⟩, some⟩
    have length : digits.length = 2 * d.length := by
      rw [← List.length_map, spelled, toList_hex, length_hexPairs]
    have filled : 0 < d.length := List.length_pos_iff.2 some
    refine ⟨mark, digits, hmark, around, List.length_pos_iff.1 (by omega), by omega, fun c hc => ?_⟩
    obtain ⟨n, hn, same⟩ := mem_hex (spelled ▸ List.mem_map_of_mem hc)
    exact isHexDigit_iff.2 ⟨n, hn, same⟩

end Spelled

end Text

namespace Api

open Text

theorem readDigest_eq_ok {t : String} {d : List UInt8} :
    readDigest t = .ok d ↔ SpellsHex t d ∧ d ≠ [] := by
  rw [← readHex_unmark, readDigest]
  rw [← unmark]
  cases readHex (unmark (trim t)) with
  | error f => simp
  | ok bytes =>
      cases bytes with
      | nil => simp +contextual [eq_comm]
      | cons b bytes =>
          simp only [Except.ok.injEq]
          exact ⟨fun same => ⟨same, same ▸ List.cons_ne_nil b bytes⟩, And.left⟩

theorem readShare_eq_ok {t : String} {s : List UInt8} :
    readShare t = .ok s ↔ SpellsBase64 t s := by
  have read : readShare t = .ok s ↔ readBase64 (trim t) = some s := by
    unfold readShare
    cases readBase64 (trim t) <;> simp
  rw [read, readBase64_eq_some]
  constructor
  · intro h
    have around := around_trim t
    rwa [h] at around
  · intro h
    exact trim_of_around h plain_base64

end Api

end Conclave

import Conclave.Api.Route
import Conclave.Proofs.Trimming
import Conclave.Text.Percent

namespace Conclave

namespace Text

theorem byteList_loop (b : ByteArray) (i : Nat) (taken : List UInt8) :
    ByteArray.toList.loop b i taken = taken.reverse ++ b.data.toList.drop i := by
  fun_induction ByteArray.toList.loop b i taken with
  | case1 i taken inside ih =>
      have hsize : i < b.data.size := inside
      have hget : b.get! i = b.data[i] := getElem!_pos b.data i hsize
      rw [ih, List.reverse_cons, List.append_assoc, hget, ← Array.getElem_toList]
      exact congrArg _ (List.drop_eq_getElem_cons (by simpa using inside)).symm
  | case2 i taken outside =>
      rw [List.drop_eq_nil_of_le (by simpa using outside), List.append_nil]

theorem byteList_eq (b : ByteArray) : b.toList = b.data.toList := by
  rw [ByteArray.toList, byteList_loop, List.reverse_nil, List.nil_append, List.drop_zero]

theorem percentBytes_cons {b : UInt8} (plain : b ≠ 37) (bytes : List UInt8) :
    percentBytes (b :: bytes) = b :: percentBytes bytes := by
  match bytes with
  | [] => rfl
  | [low] => rfl
  | high :: low :: rest =>
      rw [percentBytes]
      simp only [if_neg plain]

theorem percentBytes_append {before : List UInt8} (plain : ∀ b ∈ before, b ≠ 37)
    (bytes : List UInt8) : percentBytes (before ++ bytes) = before ++ percentBytes bytes := by
  induction before with
  | nil => rfl
  | cons b before ih =>
      rw [List.forall_mem_cons] at plain
      rw [List.cons_append, percentBytes_cons plain.1, ih plain.2, List.cons_append]

theorem fromUTF8?_eq_some {b : ByteArray} {t : String} :
    String.fromUTF8? b = some t ↔ t.toUTF8 = b := by
  unfold String.fromUTF8?
  split
  · rw [Option.some.injEq, ← String.toByteArray_inj]
    exact eq_comm
  · rename_i invalid
    constructor
    · intro h
      cases h
    · rintro rfl
      exact absurd t.isValidUTF8 invalid

theorem percentDecode?_eq_some {s t : String} :
    percentDecode? s = some t ↔ t.toUTF8.data.toList = percentBytes s.toUTF8.data.toList := by
  rw [percentDecode?, byteList_eq, fromUTF8?_eq_some]
  constructor
  · intro h
    rw [h]
  · intro h
    rw [← h]

theorem percentDecode?_append {before s t : String}
    (plain : ∀ b ∈ before.toUTF8.data.toList, b ≠ 37) (h : percentDecode? s = some t) :
    percentDecode? (before ++ s) = some (before ++ t) := by
  rw [percentDecode?_eq_some] at h ⊢
  have happend : ∀ u : String, (before ++ u).toUTF8.data.toList =
      before.toUTF8.data.toList ++ u.toUTF8.data.toList := by
    intro u
    simp [String.toUTF8]
  rw [happend, happend, percentBytes_append plain, h]

theorem join_split {sep : Char} {s : String} {pieces : List String} (h : split sep s = pieces) :
    s.toList = [sep].intercalate (pieces.map String.toList) := by
  rw [← h, split, List.map_map]
  have hid : String.toList ∘ String.ofList = id := funext fun cs => String.toList_ofList
  rw [hid, List.map_id, splitList_eq_splitOn, List.intercalate_splitOn]

end Text

namespace Api.Route

theorem mem_ofSegments_publishResult {segments : List String} {method raw : String}
    (h : (method, publishResult raw) ∈ ofSegments segments) :
    segments = ["internal", "results", raw] := by
  unfold ofSegments at h
  split at h
  · simp at h
  · split at h
    · cases h
    · simp_all
  · split at h <;> (try split at h) <;> simp at h
  · cases h

theorem find_publishResult {method target raw : String}
    (h : find method target = .ok (.publishResult raw)) :
    segments target = ["internal", "results", raw] := by
  unfold find at h
  split at h
  · cases h
  · rename_i served hne
    split at h
    · rename_i m route hfound
      cases h
      exact mem_ofSegments_publishResult (List.mem_of_find?_eq_some hfound)
    · cases h

theorem pathOf_eq {target : String} {first second third : String}
    (h : segments target = [first, second, third]) :
    (pathOf target).toList =
      '/' :: first.toList ++ '/' :: second.toList ++ '/' :: third.toList := by
  unfold segments at h
  split at h
  · rename_i front rest hsplit
    split at h
    · rename_i hfront
      rw [Text.join_split hsplit, h, String.isEmpty_iff.1 hfront]
      simp [List.intercalate]
    · cases h
  · cases h

theorem decoded_of_publishResult {method target raw session : String}
    (h : find method target = .ok (.publishResult raw)) (decoded : Text.percentDecode? raw = some session) :
    Text.percentDecode? (pathOf target) = some ("/internal/results/" ++ session) := by
  have hpath : pathOf target = "/internal/results/" ++ raw := by
    have hbefore : "/internal/results/".toList =
        '/' :: "internal".toList ++ '/' :: "results".toList ++ ['/'] := by decide
    rw [← String.toList_inj, pathOf_eq (find_publishResult h), String.toList_append, hbefore]
    simp
  rw [hpath]
  exact Text.percentDecode?_append (by decide +kernel) decoded

end Api.Route

end Conclave

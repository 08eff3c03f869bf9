import Conclave.Text.Blank
import Mathlib.Data.List.Basic
import Mathlib.Data.List.TakeWhile

namespace Conclave.Text

theorem dropEnd_append (p : Char → Bool) (cs : List Char) :
    ∃ rest, cs = dropEnd p cs ++ rest ∧ ∀ c ∈ rest, p c = true := by
  refine ⟨(cs.reverse.takeWhile p).reverse, ?_, fun c hc => ?_⟩
  · rw [dropEnd, ← List.reverse_append, List.takeWhile_append_dropWhile, List.reverse_reverse]
  · exact List.mem_takeWhile_imp (List.mem_reverse.1 hc)

theorem trimList_append {rest : List Char} (blank : ∀ c ∈ rest, isBlank c = true) (cs : List Char) :
    trimList (cs ++ rest) = trimList cs := by
  have hdrop : rest.dropWhile isBlank = [] := List.dropWhile_eq_nil_iff.2 blank
  have hback : rest.reverse.dropWhile isBlank = [] :=
    List.dropWhile_eq_nil_iff.2 fun c hc => blank c (List.mem_reverse.1 hc)
  rw [trimList, trimList, List.dropWhile_append]
  split
  · rename_i hnil
    rw [List.isEmpty_iff.1 hnil, hdrop]
  · rw [dropEnd, dropEnd, List.reverse_append, List.dropWhile_append, hback]
    rfl

theorem splitList_eq_splitOn (sep : Char) (cs : List Char) : splitList sep cs = cs.splitOn sep := by
  induction cs with
  | nil => rfl
  | cons c cs ih =>
      obtain ⟨piece, pieces, h⟩ := List.exists_cons_of_ne_nil (List.splitOnP_ne_nil (· == sep) cs)
      rw [splitList, ih, List.splitOn, List.splitOn, List.splitOnP_cons_eq_if_modifyHead, h]
      by_cases hc : c = sep
      · simp [hc]
      · simp [hc, List.modifyHead]

theorem splitList_plain {sep : Char} {cs : List Char} (plain : sep ∉ cs) : splitList sep cs = [cs] := by
  rw [splitList_eq_splitOn, List.splitOn_eq_singleton plain]

theorem splitList_append {sep : Char} {rest : List Char} (plain : sep ∉ rest) (cs : List Char) :
    ∃ pieces last, splitList sep cs = pieces ++ [last] ∧
      splitList sep (cs ++ rest) = pieces ++ [last ++ rest] := by
  induction cs with
  | nil => exact ⟨[], [], rfl, splitList_plain plain⟩
  | cons c cs ih =>
      obtain ⟨pieces, last, hcs, happend⟩ := ih
      rw [List.cons_append, splitList, splitList, hcs, happend]
      split
      · exact ⟨[] :: pieces, last, rfl, rfl⟩
      · cases pieces with
        | nil => exact ⟨[], c :: last, rfl, rfl⟩
        | cons piece pieces => exact ⟨(c :: piece) :: pieces, last, rfl, rfl⟩

theorem splitList_sep (sep : Char) (cs ds : List Char) :
    splitList sep (cs ++ sep :: ds) = splitList sep cs ++ splitList sep ds := by
  induction cs with
  | nil => simp [splitList]
  | cons c cs ih =>
      obtain ⟨pieces, last, hcs, -⟩ := splitList_append (List.not_mem_nil (a := sep)) cs
      rw [List.cons_append, splitList, splitList, ih]
      split
      · rfl
      · rw [hcs]
        cases pieces with
        | nil => rfl
        | cons piece pieces => rfl

theorem split_sep (sep : Char) (s t : String) :
    split sep (s ++ String.singleton sep ++ t) = split sep s ++ split sep t := by
  simp [split, splitList_sep]

theorem cut?_of_plain {sep : Char} {s : String} (plain : sep ∉ s.toList) : cut? sep s = none := by
  have hdrop : s.toList.dropWhile (· ≠ sep) = [] := by
    refine List.dropWhile_eq_nil_iff.2 fun c hc => decide_eq_true ?_
    rintro rfl
    exact plain hc
  rw [cut?, hdrop]

theorem cut?_of_split {sep : Char} {left right : List Char} {s : String} (plain : sep ∉ left)
    (split : s.toList = left ++ sep :: right) :
    cut? sep s = some (String.ofList left, String.ofList right) := by
  have passed : ∀ c ∈ left, decide (c ≠ sep) = true := by
    refine fun c hc => decide_eq_true ?_
    rintro rfl
    exact plain hc
  rw [cut?, split, List.dropWhile_append_of_pos passed, List.dropWhile_cons_of_neg (by simp),
    List.takeWhile_append_of_pos passed, List.takeWhile_cons_of_neg (by simp), List.append_nil]

theorem trimmed_pieces_dropWhile {sep : Char} (plain : isBlank sep = false) (cs : List Char) :
    (splitList sep (cs.dropWhile isBlank)).map trimList = (splitList sep cs).map trimList := by
  induction cs with
  | nil => rfl
  | cons c rest ih =>
      rw [List.dropWhile_cons]
      split
      · rename_i hc
        have hne : c ≠ sep := by
          rintro rfl
          rw [hc] at plain
          cases plain
        have htrim : ∀ piece, trimList (c :: piece) = trimList piece := by
          intro piece
          rw [trimList, List.dropWhile_cons, if_pos hc, trimList]
        obtain ⟨pieces, last, hrest, -⟩ := splitList_append (List.not_mem_nil (a := sep)) rest
        rw [ih, splitList, if_neg hne, hrest]
        cases pieces with
        | nil => simp [htrim]
        | cons piece pieces => simp [htrim]
      · rfl

theorem trimmed_pieces {sep : Char} (plain : isBlank sep = false) (cs : List Char) :
    (splitList sep (trimList cs)).map trimList = (splitList sep cs).map trimList := by
  rw [← trimmed_pieces_dropWhile plain cs, trimList]
  obtain ⟨rest, hsplit, hblank⟩ := dropEnd_append isBlank (cs.dropWhile isBlank)
  have hrest : sep ∉ rest := fun h => by simp [hblank sep h] at plain
  obtain ⟨pieces, last, hkept, hall⟩ := splitList_append hrest (dropEnd isBlank (cs.dropWhile isBlank))
  rw [← hsplit] at hall
  rw [hkept, hall]
  simp [trimList_append hblank]

theorem trim_split {sep : Char} (plain : isBlank sep = false) (s : String) :
    (split sep (trim s)).map trim = (split sep s).map trim := by
  have htrim : trim ∘ String.ofList = String.ofList ∘ trimList := by
    funext cs
    simp [trim]
  rw [split, split, List.map_map, List.map_map, htrim, ← List.map_map, ← List.map_map, trim,
    String.toList_ofList, trimmed_pieces plain]

end Conclave.Text

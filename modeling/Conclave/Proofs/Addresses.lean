import Conclave.Proofs.Registry
import Conclave.Proofs.Trimming
import Conclave.Startup
import Mathlib.Data.List.Induction

namespace Conclave

namespace Text

section DropEnd

variable {p : Char → Bool} {front back : List Char} {c : Char}

theorem all_or_last (p : Char → Bool) (cs : List Char) :
    (∀ d ∈ cs, p d = true) ∨
      ∃ front c back, cs = front ++ c :: back ∧ p c = false ∧ ∀ d ∈ back, p d = true := by
  induction cs using List.reverseRecOn with
  | nil => exact Or.inl nofun
  | append_singleton cs c ih =>
      cases hc : p c with
      | false => exact Or.inr ⟨cs, c, [], rfl, hc, nofun⟩
      | true =>
          have hlast : ∀ d ∈ [c], p d = true := List.forall_mem_singleton.2 hc
          rcases ih with hall | ⟨front, b, back, rfl, hb, hback⟩
          · exact Or.inl (List.forall_mem_append.2 ⟨hall, hlast⟩)
          · refine Or.inr ⟨front, b, back ++ [c], ?_, hb, List.forall_mem_append.2 ⟨hback, hlast⟩⟩
            rw [List.append_assoc, List.cons_append]

theorem dropEnd_last (stays : p c = false) (drops : ∀ d ∈ back, p d = true) :
    dropEnd p (front ++ c :: back) = front ++ [c] := by
  have hback : ∀ d ∈ back.reverse, p d = true := fun d hd => drops d (List.mem_reverse.1 hd)
  rw [dropEnd, List.reverse_append, List.reverse_cons, List.append_assoc,
    List.dropWhile_append_of_pos hback, List.singleton_append,
    List.dropWhile_cons_of_neg (by simp [stays])]
  simp

theorem length_dropEnd_le (p : Char → Bool) (cs : List Char) : (dropEnd p cs).length ≤ cs.length := by
  obtain ⟨rest, hcs, -⟩ := dropEnd_append p cs
  have hlength := congrArg List.length hcs
  rw [List.length_append] at hlength
  omega

theorem length_dropEnd_lt (drops : p c = true) :
    (dropEnd p (front ++ [c])).length < (front ++ [c]).length := by
  have hdrop : dropEnd p (front ++ [c]) = dropEnd p front := by
    rw [dropEnd, List.reverse_append, List.reverse_singleton, List.singleton_append,
      List.dropWhile_cons_of_pos drops, dropEnd]
  have hle := length_dropEnd_le p front
  rw [hdrop, List.length_append, List.length_singleton]
  omega

end DropEnd

end Text

namespace Api

open Startup (isHttpUrl)
open Text

def Bare (address : String) : Prop :=
  ∃ scheme ∈ ["http:", "https:"], ∃ slashes, address.toList = scheme.toList ++ slashes ∧
    ∀ c ∈ slashes, c = '/'

def Gapped (address : String) : Prop :=
  ∃ front c back, address.toList = front ++ c :: back ∧ isBlank c = true ∧ ∀ d ∈ back, d = '/'

section Url

variable {address : String} {front back : List Char} {c : Char}

theorem toList_dropSlashes (stays : c ≠ '/') (slashes : ∀ d ∈ back, d = '/')
    (split : address.toList = front ++ c :: back) : (dropSlashes address).toList = front ++ [c] := by
  rw [dropSlashes, String.toList_ofList, split]
  exact dropEnd_last (decide_eq_false stays) fun d hd => decide_eq_true (slashes d hd)

theorem isHttpUrl_iff : isHttpUrl address = true ↔
    ∃ scheme ∈ ["http:", "https:"], ∃ rest, address.toList = scheme.toList ++ '/' :: '/' :: rest := by
  have hhttp : "http://".toList = "http:".toList ++ ['/', '/'] := by decide
  have hhttps : "https://".toList = "https:".toList ++ ['/', '/'] := by decide
  rw [isHttpUrl, Bool.or_eq_true, startsWith, startsWith, List.isPrefixOf_iff_prefix,
    List.isPrefixOf_iff_prefix, hhttp, hhttps]
  simp [List.prefix_iff_exists_eq_append]

theorem scheme_ends {scheme : String} (h : scheme ∈ ["http:", "https:"]) :
    (∃ rest, scheme.toList = 'h' :: rest) ∧ (∃ name, scheme.toList = name ++ [':']) ∧
      isHttpUrl scheme = false := by
  rcases List.mem_pair.1 h with rfl | rfl
  · exact ⟨⟨_, rfl⟩, ⟨"http".toList, by decide⟩, by decide⟩
  · exact ⟨⟨_, rfl⟩, ⟨"https".toList, by decide⟩, by decide⟩

theorem last_of_url (url : isHttpUrl address = true) :
    ∃ front c back, address.toList = front ++ c :: back ∧ c ≠ '/' ∧ (∀ d ∈ back, d = '/') ∧
      (front ++ [c]).dropWhile isBlank = front ++ [c] := by
  obtain ⟨scheme, hscheme, rest, haddress⟩ := isHttpUrl_iff.1 url
  obtain ⟨tail, htail⟩ := (scheme_ends hscheme).1
  have hplain : ¬ isBlank 'h' = true := by decide
  rcases all_or_last (· = '/') address.toList with hall | ⟨front, c, back, hsplit, hc, hback⟩
  · have hslash := hall 'h' (by simp [haddress, htail])
    cases hslash
  · refine ⟨front, c, back, hsplit, of_decide_eq_false hc, fun d hd => of_decide_eq_true (hback d hd), ?_⟩
    rw [haddress, htail] at hsplit
    cases front with
    | nil =>
        obtain ⟨rfl, -⟩ := List.cons.inj hsplit
        exact List.dropWhile_cons_of_neg hplain
    | cons b front =>
        obtain ⟨rfl, -⟩ := List.cons.inj hsplit
        exact List.dropWhile_cons_of_neg hplain

theorem isHttpUrl_dropSlashes_iff (url : isHttpUrl address = true) :
    isHttpUrl (dropSlashes address) = true ↔ ¬ Bare address := by
  constructor
  · rintro hstored ⟨scheme, hscheme, slashes, hsplit, hslashes⟩
    obtain ⟨-, ⟨name, hname⟩, hscheme'⟩ := scheme_ends hscheme
    have hcolon : address.toList = name ++ ':' :: slashes := by
      rw [hsplit, hname, List.append_assoc, List.singleton_append]
    have hdropped : dropSlashes address = scheme := by
      apply String.toList_inj.1
      rw [toList_dropSlashes (by decide) hslashes hcolon, hname]
    rw [hdropped, hscheme'] at hstored
    cases hstored
  · intro hbare
    obtain ⟨scheme, hscheme, rest, haddress⟩ := isHttpUrl_iff.1 url
    rcases all_or_last (· = '/') rest with hall | ⟨front, c, back, rfl, hc, hback⟩
    · refine absurd ⟨scheme, hscheme, _, haddress, ?_⟩ hbare
      simpa using hall
    · refine isHttpUrl_iff.2 ⟨scheme, hscheme, front ++ [c], ?_⟩
      have hsplit : address.toList = (scheme.toList ++ '/' :: '/' :: front) ++ c :: back := by
        rw [haddress, List.append_assoc, List.cons_append, List.cons_append]
      rw [toList_dropSlashes (of_decide_eq_false hc) (fun d hd => of_decide_eq_true (hback d hd)) hsplit,
        List.append_assoc, List.cons_append, List.cons_append]

theorem gapped_iff (stays : c ≠ '/') (slashes : ∀ d ∈ back, d = '/')
    (split : address.toList = front ++ c :: back) : Gapped address ↔ isBlank c = true := by
  constructor
  · rintro ⟨front', b, back', hsplit, hb, hback⟩
    have hne : b ≠ '/' := by
      rintro rfl
      exact absurd hb (by decide)
    have hsame := toList_dropSlashes hne hback hsplit
    rw [toList_dropSlashes stays slashes split] at hsame
    obtain ⟨-, hbc⟩ := List.append_inj' hsame rfl
    rw [List.singleton_inj.1 hbc]
    exact hb
  · intro hblank
    exact ⟨front, c, back, split, hblank, slashes⟩

theorem trim_dropSlashes (url : isHttpUrl address = true) (plain : ¬ Gapped address) :
    trim (dropSlashes address) = dropSlashes address := by
  obtain ⟨front, c, back, hsplit, hc, hback, hfront⟩ := last_of_url url
  rw [gapped_iff hc hback hsplit, Bool.not_eq_true] at plain
  rw [trim, trimList, toList_dropSlashes hc hback hsplit, hfront, dropEnd_last plain (List.forall_mem_nil _),
    ← toList_dropSlashes hc hback hsplit, String.ofList_toList]

theorem dropSlashes_trim_dropSlashes_iff (url : isHttpUrl address = true) :
    dropSlashes (trim (dropSlashes address)) = dropSlashes address ↔ ¬ Gapped address := by
  obtain ⟨front, c, back, hsplit, hc, hback, hfront⟩ := last_of_url url
  have hstored := toList_dropSlashes hc hback hsplit
  constructor
  · intro hsame hgapped
    have htrimmed : (trim (dropSlashes address)).toList = dropEnd isBlank (front ++ [c]) := by
      rw [trim, String.toList_ofList, hstored, trimList, hfront]
    have hshort : (dropEnd isBlank (front ++ [c])).length < (front ++ [c]).length :=
      length_dropEnd_lt ((gapped_iff hc hback hsplit).1 hgapped)
    have hlength : (dropSlashes (trim (dropSlashes address))).toList.length = (front ++ [c]).length := by
      rw [hsame, hstored]
    rw [dropSlashes, String.toList_ofList, htrimmed] at hlength
    have hle := length_dropEnd_le (· = '/') (dropEnd isBlank (front ++ [c]))
    omega
  · intro hplain
    rw [trim_dropSlashes url hplain]
    apply String.toList_inj.1
    rw [toList_dropSlashes hc (List.forall_mem_nil _) hstored, hstored]

end Url

section Registration

variable {now : Timestamp} {id : UInt64} {address : String} {r r' : Registry} {node : Node}

theorem registerNode_eq_ok : registerNode now id address r = .ok (node, r') ↔
    id ≠ 0 ∧ isHttpUrl (trim address) = true ∧
      r' = r.register now ⟨id⟩ (dropSlashes (trim address)) ∧ r'.get? ⟨id⟩ = some node := by
  unfold registerNode isHttpUrl
  split
  · rename_i hid
    exact iff_of_false nofun fun h => h.1 hid
  · rename_i hid
    dsimp only
    split
    · rename_i hurl
      split
      · rename_i hget
        constructor
        · intro h
          obtain ⟨rfl, rfl⟩ := Prod.mk.inj (Except.ok.inj h)
          exact ⟨hid, hurl, rfl, hget⟩
        · rintro ⟨-, -, rfl, hstored⟩
          rw [Option.some.inj (hget.symm.trans hstored)]
      · rename_i hget
        refine iff_of_false nofun ?_
        rintro ⟨-, -, rfl, hstored⟩
        rw [hget] at hstored
        cases hstored
    · rename_i hurl
      exact iff_of_false nofun fun h => hurl h.2.1

theorem address_of_registerNode (accepted : registerNode now id address r = .ok (node, r')) :
    node.address = dropSlashes (trim address) := by
  obtain ⟨-, -, rfl, hget⟩ := registerNode_eq_ok.1 accepted
  rw [Registry.get?_register, if_pos rfl] at hget
  rw [← Option.some.inj hget]
  rfl

theorem registerNode_accepts (numbered : id ≠ 0) (url : isHttpUrl (trim address) = true)
    (now : Timestamp) (r : Registry) : ∃ node r', registerNode now id address r = .ok (node, r') := by
  have hget := Registry.get?_register now ⟨id⟩ ⟨id⟩ (dropSlashes (trim address)) r
  rw [if_pos rfl] at hget
  exact ⟨_, _, registerNode_eq_ok.2 ⟨numbered, url, rfl, hget⟩⟩

def Keeps (now : Timestamp) (id : UInt64) (address : String) (r : Registry) : Prop :=
  ∃ node r', registerNode now id address r = .ok (node, r') ∧ node.address = address

theorem keeps_iff : Keeps now id address r ↔
    id ≠ 0 ∧ isHttpUrl (trim address) = true ∧ dropSlashes (trim address) = address := by
  constructor
  · rintro ⟨node, r', accepted, haddress⟩
    obtain ⟨hid, hurl, -, -⟩ := registerNode_eq_ok.1 accepted
    exact ⟨hid, hurl, (address_of_registerNode accepted).symm.trans haddress⟩
  · rintro ⟨hid, hurl, hsame⟩
    obtain ⟨node, r', accepted⟩ := registerNode_accepts hid hurl now r
    exact ⟨node, r', accepted, (address_of_registerNode accepted).trans hsame⟩

theorem stored_address_normal_iff (accepted : registerNode now id address r = .ok (node, r')) :
    r'.get? ⟨id⟩ = some node ∧
      (isHttpUrl node.address = true ↔ ¬ Bare (trim address)) ∧
      ∀ later other, Keeps later id node.address other ↔
        ¬ Bare (trim address) ∧ ¬ Gapped (trim address) := by
  obtain ⟨hid, hurl, -, hget⟩ := registerNode_eq_ok.1 accepted
  have haddress := address_of_registerNode accepted
  refine ⟨hget, haddress ▸ isHttpUrl_dropSlashes_iff hurl, fun later other => ?_⟩
  rw [keeps_iff, haddress, dropSlashes_trim_dropSlashes_iff hurl, ← isHttpUrl_dropSlashes_iff hurl]
  constructor
  · rintro ⟨-, hagain, hplain⟩
    rw [trim_dropSlashes hurl hplain] at hagain
    exact ⟨hagain, hplain⟩
  · rintro ⟨hstored, hplain⟩
    rw [trim_dropSlashes hurl hplain]
    exact ⟨hid, hstored, hplain⟩

theorem stored_address_normal_iff_padded :
    registerNode ⟨0, 0⟩ 1 " http://node1:8080// " .empty =
        .ok (Node.fresh ⟨0, 0⟩ ⟨1⟩ "http://node1:8080",
          Registry.empty.register ⟨0, 0⟩ ⟨1⟩ "http://node1:8080") ∧
      isHttpUrl "http://node1:8080" = true ∧
      ∀ later other, Keeps later 1 "http://node1:8080" other := by
  have htrim : trim " http://node1:8080// " = "http://node1:8080//" := by decide
  have hurl : isHttpUrl "http://node1:8080//" = true := by decide
  have hbare : ¬ Bare "http://node1:8080//" := (isHttpUrl_dropSlashes_iff hurl).1 (by decide)
  have hgapped : ¬ Gapped "http://node1:8080//" := (dropSlashes_trim_dropSlashes_iff hurl).1 (by decide)
  have accepted : registerNode ⟨0, 0⟩ 1 " http://node1:8080// " .empty =
      .ok (Node.fresh ⟨0, 0⟩ ⟨1⟩ "http://node1:8080",
        Registry.empty.register ⟨0, 0⟩ ⟨1⟩ "http://node1:8080") :=
    registerNode_eq_ok.2 ⟨by decide, htrim ▸ hurl, by rw [htrim]; rfl, rfl⟩
  obtain ⟨-, hstored, hkeeps⟩ := stored_address_normal_iff accepted
  rw [htrim] at hstored hkeeps
  exact ⟨accepted, hstored.2 hbare, fun later other => (hkeeps later other).2 ⟨hbare, hgapped⟩⟩

theorem scheme_alone_and_gap_not_kept :
    registerNode ⟨0, 0⟩ 1 "http://" .empty =
        .ok (Node.fresh ⟨0, 0⟩ ⟨1⟩ "http:", Registry.empty.register ⟨0, 0⟩ ⟨1⟩ "http:") ∧
      isHttpUrl "http:" = false ∧
      ¬ Keeps ⟨1, 0⟩ 1 "http:" (Registry.empty.register ⟨0, 0⟩ ⟨1⟩ "http:") ∧
      registerNode ⟨0, 0⟩ 2 "http://host /" .empty =
        .ok (Node.fresh ⟨0, 0⟩ ⟨2⟩ "http://host ",
          Registry.empty.register ⟨0, 0⟩ ⟨2⟩ "http://host ") ∧
      ¬ Keeps ⟨1, 0⟩ 2 "http://host " (Registry.empty.register ⟨0, 0⟩ ⟨2⟩ "http://host ") := by
  refine ⟨?_, by decide, ?_, ?_, ?_⟩
  · exact registerNode_eq_ok.2 ⟨by decide, by decide, rfl, rfl⟩
  · exact fun h => absurd (keeps_iff.1 h).2.1 (by decide)
  · exact registerNode_eq_ok.2 ⟨by decide, by decide, rfl, rfl⟩
  · exact fun h => absurd (keeps_iff.1 h).2.2 (by decide)

end Registration

end Api

end Conclave

import Conclave.Proofs.Literals

namespace Conclave

def Numeral.Legible (n : Numeral) : Prop := Json.read n.text = (.number n, some [])

namespace Json

mutual

def Legible : Json → Prop
  | .number n => n.Legible
  | .array items => LegibleAll items
  | .object members => LegibleMembers members
  | .stop _ => False
  | .null | .bool _ | .string _ => True

def LegibleAll : List Json → Prop
  | [] => True
  | item :: rest => Legible item ∧ LegibleAll rest

def LegibleMembers : List (String × Json) → Prop
  | [] => True
  | (_, value) :: rest => Legible value ∧ LegibleMembers rest

end

section Value

variable {fuel : Nat} {rest : List Char}

theorem digit_of_readLiteral {c : Char} {cs : List Char} {r : Literal × List Char}
    (h : readLiteral? (c :: cs) = some r) : c.isDigit = true := by
  unfold readLiteral? at h
  split at h
  · cases h
  rename_i whole
  unfold readWhole? at whole
  split at whole
  · rename_i same
    rw [(List.cons.inj same).1]
    rfl
  · cases digit : c.isDigit with
    | true => rfl
    | false => simp [takeDigits, digit] at whole

theorem readValue_of_digit {c : Char} (digit : c.isDigit = true) (cs : List Char) :
    readValue (fuel + 1) (c :: cs) = readNumber false (c :: cs) := by
  have space : skipSpace (c :: cs) = c :: cs := by
    refine List.dropWhile_cons_of_neg fun space => ?_
    simp only [isSpace, Bool.or_eq_true, decide_eq_true_eq] at space
    rcases space with ((rfl | rfl) | rfl) | rfl <;> cases digit
  unfold readValue
  rw [space]
  split <;> first
    | rfl
    | rename_i same
      rw [(List.cons.inj same).1] at digit
      cases digit

theorem readValue_eq_number {cs tail : List Char} {n : Numeral}
    (h : readValue (fuel + 1) cs = (.number n, some tail)) :
    (∃ t, skipSpace cs = '-' :: t ∧ readNumber true t = (.number n, some tail)) ∨
      ∃ c t, skipSpace cs = c :: t ∧ c.isDigit = true ∧
        readNumber false (c :: t) = (.number n, some tail) := by
  unfold readValue at h
  split at h
  · cases h
  · cases h
  · cases h
  · split at h <;> cases h
  · split at h <;> cases h
  · split at h <;> cases h
  · rename_i t start
    exact .inl ⟨t, start, h⟩
  · generalize skipSpace cs = cs' at h ⊢
    cases literal : readLiteral? cs' with
    | none =>
        rw [readNumber, literal] at h
        cases h
    | some r =>
        cases cs' with
        | nil => cases literal
        | cons c t => exact .inr ⟨c, t, rfl, digit_of_readLiteral literal, h⟩

theorem skipSpace_append {cs t : List Char} {c : Char} (h : skipSpace cs = c :: t) :
    skipSpace (cs ++ rest) = c :: t ++ rest := by
  rw [skipSpace, List.dropWhile_append, ← skipSpace, h]
  rfl

theorem readValue_append (ends : Ends rest) {cs tail : List Char} {n : Numeral}
    (h : readValue (fuel + 1) cs = (.number n, some tail)) (fuel' : Nat) :
    readValue (fuel' + 1) (cs ++ rest) = (.number n, some (tail ++ rest)) := by
  rw [← readValue_skipSpace]
  rcases readValue_eq_number h with ⟨t, start, read⟩ | ⟨c, t, start, digit, read⟩
  · rw [skipSpace_append start]
    exact readNumber_append ends read
  · rw [skipSpace_append start, List.cons_append, readValue_of_digit digit]
    exact readNumber_append ends read

end Value

section Numbers

theorem legible_iff {n : Numeral} : n.Legible ↔
    readValue (2 * n.text.toList.length + 1 + 1) n.text.toList = (.number n, some []) := Iff.rfl

theorem readValue_number {n : Numeral} (legible : n.Legible) {rest : List Char} (ends : Ends rest)
    (fuel : Nat) : readValue (fuel + 1) (n.text.toList ++ rest) = (.number n, some rest) :=
  readValue_append ends (legible_iff.1 legible) fuel

theorem legible_natural (n : UInt64) : (Numeral.natural n).Legible := by
  obtain ⟨c, t, front⟩ :=
    List.exists_cons_of_ne_nil (Nat.toDigits_ne_nil (n := n.toNat) (b := 10))
  have digit : c.isDigit = true :=
    Nat.isDigit_of_mem_toDigits (by decide) (by decide) (front ▸ List.mem_cons_self)
  have text : (Numeral.natural n).text.toList = c :: t := by
    rw [Numeral.text, Nat.toString_eq_ofList_toDigits, String.toList_ofList, front]
  rw [legible_iff, text, readValue_of_digit digit, ← front, readNumber_toDigits n.toNat_lt false nofun]
  simp

end Numbers

section Texts

def joined (texts : List String) : List Char := (",".intercalate texts).toList

theorem joined_singleton (text : String) : joined [text] = text.toList := by
  rw [joined, String.intercalate_singleton]

theorem joined_cons (text next : String) (texts : List String) :
    joined (text :: next :: texts) = text.toList ++ ',' :: joined (next :: texts) := by
  rw [joined, String.intercalate_cons_cons, String.toList_append, String.toList_append,
    List.append_assoc]
  rfl

theorem toList_write_array (items : List Json) :
    (write (.array items)).toList = '[' :: (joined (writeAll items) ++ [']']) := by
  rw [write, String.toList_append, String.toList_append, List.append_assoc]
  rfl

theorem toList_write_object (members : List (String × Json)) :
    (write (.object members)).toList =
      '\x7b' :: (joined (writeMembers members) ++ ['\x7d']) := by
  rw [write, String.toList_append, String.toList_append, List.append_assoc]
  rfl

theorem toList_writeString (s : String) :
    (writeString s).toList = '"' :: (s.toList.flatMap writeChar ++ ['"']) := by
  rw [writeString, String.toList_ofList]
  rfl

def member (key : String) (value : Json) : String := writeString key ++ ":" ++ write value

theorem toList_member (key : String) (value : Json) : (member key value).toList =
    '"' :: (key.toList.flatMap writeChar ++ '"' :: ':' :: (write value).toList) := by
  rw [member, String.toList_append, String.toList_append, toList_writeString]
  simp

theorem length_write_lt_member (key : String) (value : Json) :
    (write value).toList.length < (member key value).toList.length := by
  rw [toList_member]
  simp only [List.length_cons, List.length_append]
  omega

theorem writeMembers_cons (key : String) (value : Json) (members : List (String × Json)) :
    writeMembers ((key, value) :: members) = member key value :: writeMembers members := by
  rw [writeMembers, member]

theorem ends_comma (cs : List Char) : Ends (',' :: cs) := by
  rintro c tail ⟨rfl, -⟩
  decide

theorem ends_bracket (cs : List Char) : Ends (']' :: cs) := by
  rintro c tail ⟨rfl, -⟩
  decide

theorem ends_brace (cs : List Char) : Ends ('\x7d' :: cs) := by
  rintro c tail ⟨rfl, -⟩
  decide

end Texts

section Steps

variable {fuel : Nat} {cs t rest : List Char} {item value : Json} {items : List Json}
  {members : List (String × Json)}

theorem skipSpace_ne_bracket (h : readValue fuel cs = (item, some rest)) (t : List Char) :
    skipSpace cs ≠ ']' :: t := by
  intro start
  cases fuel with
  | zero => cases h
  | succ fuel =>
      rw [readValue, start] at h
      cases h

theorem readItems_last (h : readValue fuel cs = (item, some (']' :: rest))) :
    readItems (fuel + 1) cs = ([item], some rest) := by
  rw [readItems, h]
  rfl

theorem readItems_more (h : readValue fuel cs = (item, some (',' :: t)))
    (more : readItems fuel t = (items, some rest)) :
    readItems (fuel + 1) cs = (item :: items, some rest) := by
  have comma : skipSpace (',' :: t) = ',' :: t := rfl
  rw [readItems, h]
  simp only [comma, more]

theorem readValue_items (h : readItems fuel cs = (items, some rest)) :
    readValue (fuel + 1) ('[' :: cs) = (.array items, some rest) := by
  have bracket : skipSpace ('[' :: cs) = '[' :: cs := rfl
  rw [readValue, bracket]
  simp only
  split
  · rename_i t empty
    cases fuel with
    | zero => cases h
    | succ fuel =>
        rw [readItems] at h
        split at h
        · cases h
        · rename_i read
          exact absurd empty (skipSpace_ne_bracket read t)
  · rw [readItems_skipSpace, h]

theorem readMembers_last (key : String) (h : readValue fuel cs = (value, some ('\x7d' :: rest))) :
    readMembers (fuel + 1) ('"' :: (key.toList.flatMap writeChar ++ '"' :: ':' :: cs)) =
      ([(key, value)], some rest) := by
  have quote : ∀ t, skipSpace ('"' :: t) = '"' :: t := fun _ => rfl
  have colon : skipSpace (':' :: cs) = ':' :: cs := rfl
  have brace : skipSpace ('\x7d' :: rest) = '\x7d' :: rest := rfl
  rw [readMembers, quote]
  simp only [readString_writeString, colon, h, brace]
  rfl

theorem readMembers_more (key : String) (h : readValue fuel cs = (value, some (',' :: t)))
    (more : readMembers fuel t = (members, some rest)) :
    readMembers (fuel + 1) ('"' :: (key.toList.flatMap writeChar ++ '"' :: ':' :: cs)) =
      ((key, value) :: members, some rest) := by
  have quote : ∀ t, skipSpace ('"' :: t) = '"' :: t := fun _ => rfl
  have colon : skipSpace (':' :: cs) = ':' :: cs := rfl
  have comma : skipSpace (',' :: t) = ',' :: t := rfl
  rw [readMembers, quote]
  simp only [readString_writeString, colon, h, comma, more]
  rfl

theorem readValue_members (h : readMembers fuel cs = (members, some rest)) :
    readValue (fuel + 1) ('\x7b' :: cs) = (.object members, some rest) := by
  have brace : skipSpace ('\x7b' :: cs) = '\x7b' :: cs := rfl
  rw [readValue, brace]
  simp only
  split
  · rename_i t empty
    cases fuel with
    | zero => cases h
    | succ fuel =>
        rw [readMembers, empty] at h
        cases h
  · rw [readMembers_skipSpace, h]

end Steps

def Reread (j : Json) : Prop :=
  ∀ rest fuel, Ends rest → 2 * (write j).toList.length ≤ fuel →
    readValue (fuel + 1) ((write j).toList ++ rest) = (j, some rest)

theorem reread_string (s : String) : Reread (.string s) := by
  intro rest fuel ends enough
  have quote : ∀ t, skipSpace ('"' :: t) = '"' :: t := fun _ => rfl
  rw [write, toList_writeString, List.cons_append, List.append_assoc, readValue, quote]
  simp only [List.singleton_append, readString_writeString]

theorem readItems_writeAll {items : List Json} (full : items ≠ []) (each : ∀ j ∈ items, Reread j)
    (rest : List Char) {fuel : Nat} (enough : 2 * (joined (writeAll items)).length < fuel) :
    readItems (fuel + 1) (joined (writeAll items) ++ ']' :: rest) = (items, some rest) := by
  induction items generalizing fuel with
  | nil => exact absurd rfl full
  | cons item items ih =>
      have reread := each item List.mem_cons_self
      obtain _ | fuel := fuel
      · cases enough
      cases items with
      | nil =>
          rw [writeAll, writeAll, joined_singleton] at enough ⊢
          exact readItems_last (reread _ _ (ends_bracket rest) (by omega))
      | cons next items =>
          rw [writeAll, writeAll, joined_cons, ← writeAll] at enough ⊢
          rw [List.length_append, List.length_cons] at enough
          rw [List.append_assoc, List.cons_append]
          exact readItems_more (reread _ _ (ends_comma _) (by omega))
            (ih nofun (fun j hj => each j (List.mem_cons_of_mem _ hj)) (by omega))

theorem reread_array {items : List Json} (each : ∀ j ∈ items, Reread j) : Reread (.array items) := by
  intro rest fuel ends enough
  cases items with
  | nil => rfl
  | cons item items =>
      rw [toList_write_array, List.length_cons, List.length_append] at enough
      rw [toList_write_array, List.cons_append, List.append_assoc]
      obtain _ | fuel := fuel
      · cases enough
      · exact readValue_items (readItems_writeAll (List.cons_ne_nil _ _) each rest (by omega))

theorem readMembers_writeMembers {members : List (String × Json)} (full : members ≠ [])
    (each : ∀ m ∈ members, Reread m.2) (rest : List Char) {fuel : Nat}
    (enough : 2 * (joined (writeMembers members)).length < fuel) :
    readMembers (fuel + 1) (joined (writeMembers members) ++ '\x7d' :: rest) =
      (members, some rest) := by
  induction members generalizing fuel with
  | nil => exact absurd rfl full
  | cons m members ih =>
      obtain ⟨key, value⟩ := m
      have reread : Reread value := each (key, value) List.mem_cons_self
      have less := length_write_lt_member key value
      obtain _ | fuel := fuel
      · cases enough
      cases members with
      | nil =>
          rw [writeMembers_cons, writeMembers, joined_singleton] at enough ⊢
          rw [toList_member, List.cons_append, List.append_assoc]
          exact readMembers_last key (reread _ _ (ends_brace rest) (by omega))
      | cons next members =>
          obtain ⟨name, value'⟩ := next
          rw [writeMembers_cons, writeMembers_cons, joined_cons, ← writeMembers_cons] at enough ⊢
          rw [List.length_append, List.length_cons] at enough
          rw [List.append_assoc, toList_member, List.cons_append, List.append_assoc]
          exact readMembers_more key (reread _ _ (ends_comma _) (by omega))
            (ih nofun (fun m hm => each m (List.mem_cons_of_mem _ hm)) (by omega))

theorem reread_object {members : List (String × Json)} (each : ∀ m ∈ members, Reread m.2) :
    Reread (.object members) := by
  intro rest fuel ends enough
  cases members with
  | nil => rfl
  | cons m members =>
      rw [toList_write_object, List.length_cons, List.length_append] at enough
      rw [toList_write_object, List.cons_append, List.append_assoc]
      obtain _ | fuel := fuel
      · cases enough
      · exact readValue_members
          (readMembers_writeMembers (List.cons_ne_nil _ _) each rest (by omega))

mutual

theorem reread : (j : Json) → Legible j → Reread j
  | .null, _ => fun _ _ _ _ => rfl
  | .bool true, _ => fun _ _ _ _ => rfl
  | .bool false, _ => fun _ _ _ _ => rfl
  | .number _, legible => fun _ fuel ends _ => readValue_number legible ends fuel
  | .string s, _ => reread_string s
  | .array items, legible => reread_array (rereadAll items legible)
  | .object members, legible => reread_object (rereadMembers members legible)
  | .stop _, legible => legible.elim

theorem rereadAll : (items : List Json) → LegibleAll items → ∀ j ∈ items, Reread j
  | [], _ => nofun
  | item :: items, legible =>
      List.forall_mem_cons.2 ⟨reread item legible.1, rereadAll items legible.2⟩

theorem rereadMembers : (members : List (String × Json)) → LegibleMembers members →
    ∀ m ∈ members, Reread m.2
  | [], _ => nofun
  | (_, value) :: members, legible =>
      List.forall_mem_cons.2 ⟨reread value legible.1, rereadMembers members legible.2⟩

end

theorem read_write (j : Json) (legible : Legible j) : Json.read (write j) = (j, some []) := by
  have read := reread j legible [] (2 * (write j).toList.length + 1) ends_nil (by omega)
  rwa [List.append_nil] at read

theorem ofText_write (j : Json) (legible : Legible j) : ofText (write j) = j := by
  rw [ofText, read_write j legible]
  rfl

theorem length_le_writeChars (cs : List Char) : cs.length ≤ (cs.flatMap writeChar).length := by
  induction cs with
  | nil => exact Nat.le_refl _
  | cons c cs ih =>
      have full : 0 < (writeChar c).length := by
        unfold writeChar
        repeat' split
        all_goals exact Nat.succ_pos _
      rw [List.flatMap_cons, List.length_cons, List.length_append]
      omega

theorem length_lt_write_object (key text : String) (members : List (String × Json)) :
    text.toList.length < (write (.object ((key, .string text) :: members))).toList.length := by
  have written := length_le_writeChars text.toList
  have member := length_write_lt_member key (.string text)
  rw [write, toList_writeString, List.length_cons, List.length_append] at member
  rw [toList_write_object, writeMembers_cons, List.length_cons, List.length_append]
  cases members with
  | nil =>
      rw [writeMembers, joined_singleton]
      omega
  | cons next members =>
      rw [writeMembers_cons, joined_cons, List.length_append]
      omega

end Json

end Conclave

import Conclave.Json.Codec
import Mathlib.Data.List.Nodup

namespace Conclave

namespace Json

inductive Schema where
  | plain
  | list (item : Schema)
  | record (admits : Json → Bool) (fields : List (String × Schema))

mutual

inductive Varies : Schema → Json → Json → Prop
  | plain (j : Json) : Varies .plain j j
  | null (σ : Schema) : Varies σ .null .null
  | list {item : Schema} {l l' : List Json} (items : VariesAll item l l') :
      Varies (.list item) (.array l) (.array l')
  | record {admits : Json → Bool} {fields : List (String × Schema)}
      {members varied strangers members' : List (String × Json)}
      (known : VariesMembers fields members varied)
      (unknown : ∀ m ∈ strangers, m.1 ∉ fields.map Prod.fst ∧ admits m.2 = true)
      (order : members'.Perm (varied ++ strangers)) :
      Varies (.record admits fields) (.object members) (.object members')

inductive VariesAll : Schema → List Json → List Json → Prop
  | nil {item : Schema} : VariesAll item [] []
  | cons {item : Schema} {j j' : Json} {l l' : List Json} (head : Varies item j j')
      (tail : VariesAll item l l') : VariesAll item (j :: l) (j' :: l')

inductive VariesMembers :
    List (String × Schema) → List (String × Json) → List (String × Json) → Prop
  | nil {fields : List (String × Schema)} : VariesMembers fields [] []
  | cons {fields : List (String × Schema)} {name : String} {σ : Schema} {j j' : Json}
      {l l' : List (String × Json)} (field : (name, σ) ∈ fields) (head : Varies σ j j')
      (tail : VariesMembers fields l l') :
      VariesMembers fields ((name, j) :: l) ((name, j') :: l')

end

theorem Varies.null_iff {σ : Schema} {j j' : Json} (h : Varies σ j j') : j' = .null ↔ j = .null := by
  cases h <;> simp

theorem VariesMembers.keys {fields : List (String × Schema)} {l l' : List (String × Json)}
    (h : VariesMembers fields l l') : l'.map Prod.fst = l.map Prod.fst := by
  induction l generalizing l' with
  | nil =>
      cases h
      rfl
  | cons m l ih =>
      cases h with
      | cons _ _ tail => simp [ih tail]

theorem VariesMembers.known {fields : List (String × Schema)} {l l' : List (String × Json)}
    (h : VariesMembers fields l l') {m : String × Json} (hm : m ∈ l') :
    ∃ σ j, (m.1, σ) ∈ fields ∧ (m.1, j) ∈ l ∧ Varies σ j m.2 := by
  induction l generalizing l' with
  | nil =>
      cases h
      cases hm
  | cons e l ih =>
      cases h with
      | cons field head tail =>
          rcases List.mem_cons.1 hm with rfl | hm
          · exact ⟨_, _, field, List.mem_cons_self, head⟩
          · obtain ⟨σ, j, hfield, hj, varies⟩ := ih tail hm
            exact ⟨σ, j, hfield, List.mem_cons_of_mem _ hj, varies⟩

theorem VariesMembers.value {fields : List (String × Schema)} {l l' : List (String × Json)}
    (h : VariesMembers fields l l') {name : String} {j : Json} (hj : (name, j) ∈ l) :
    ∃ σ j', (name, σ) ∈ fields ∧ (name, j') ∈ l' ∧ Varies σ j j' := by
  induction l generalizing l' with
  | nil => cases hj
  | cons e l ih =>
      cases h with
      | cons field head tail =>
          rcases List.mem_cons.1 hj with same | hj
          · cases same
            exact ⟨_, _, field, List.mem_cons_self, head⟩
          · obtain ⟨σ, j', hfield, hj', varies⟩ := ih tail hj
            exact ⟨σ, j', hfield, List.mem_cons_of_mem _ hj', varies⟩

section Members

variable {fields : List Field} {mode : Strangers}

theorem fromMembers_eq {found ms : List (String × Json)}
    (checked : ∀ m ∈ ms, ∀ f, fields.find? (·.name = m.1) = some f → f.check m.2 = .ok ())
    (passed : ∀ m ∈ ms, fields.find? (·.name = m.1) = none →
      mode = .passed ∧ passOver m.2 = .ok ())
    (distinct : ((ms.filter fun m => (fields.find? (·.name = m.1)).isSome).map Prod.fst).Nodup)
    (apart : ∀ m ∈ ms, (fields.find? (·.name = m.1)).isSome → m.1 ∉ found.map Prod.fst) :
    fromMembers mode fields found ms =
      .ok ((ms.filter fun m => (fields.find? (·.name = m.1)).isSome).reverse ++ found) := by
  induction ms generalizing found with
  | nil => rfl
  | cons m ms ih =>
      obtain ⟨name, j⟩ := m
      have checked' := fun m hm => checked m (List.mem_cons_of_mem _ hm)
      have passed' := fun m hm => passed m (List.mem_cons_of_mem _ hm)
      have apart' := fun m hm => apart m (List.mem_cons_of_mem _ hm)
      cases known : fields.find? (·.name = name) with
      | none =>
          obtain ⟨rfl, passing⟩ := passed (name, j) List.mem_cons_self known
          rw [List.filter_cons_of_neg (by simp [known])] at distinct ⊢
          simp only [fromMembers, known, passing]
          exact ih checked' passed' distinct apart'
      | some f =>
          rw [List.filter_cons_of_pos (by simp [known])] at distinct ⊢
          obtain ⟨first, distinct⟩ := List.nodup_cons.1 distinct
          have new : found.any (·.1 = name) = false := by
            rw [List.any_eq_false]
            intro m hm same
            obtain rfl : m.1 = name := of_decide_eq_true same
            have seen : m.1 ∈ found.map Prod.fst := List.mem_map_of_mem hm
            exact apart (m.1, j) List.mem_cons_self (by simp [known]) seen
          simp only [fromMembers, known, new, checked (name, j) List.mem_cons_self f known]
          rw [List.reverse_cons, List.append_assoc]
          refine ih checked' passed' distinct fun m hm field => ?_
          rw [List.map_cons, List.mem_cons, not_or]
          refine ⟨?_, apart' m hm field⟩
          rintro same
          exact first (same ▸ List.mem_map_of_mem (List.mem_filter.2 ⟨hm, field⟩))

theorem Found.value_of_mem {found : Found} (distinct : (found.map Prod.fst).Nodup) {name : String}
    {j : Json} (h : (name, j) ∈ found) : found.value? name = some j := by
  unfold Found.value?
  induction found with
  | nil => cases h
  | cons m found ih =>
      obtain ⟨first, distinct⟩ := List.nodup_cons.1 distinct
      rcases List.mem_cons.1 h with rfl | h
      · simp
      · have other : ¬ m.1 = name := fun same => first (same ▸ List.mem_map_of_mem h)
        rw [List.find?_cons_of_neg (by simpa using other)]
        exact ih distinct h

theorem Found.value_eq_none {found : Found} {name : String} (h : name ∉ found.map Prod.fst) :
    found.value? name = none := by
  rw [Found.value?, Option.map_eq_none_iff, List.find?_eq_none]
  intro m hm same
  exact h (of_decide_eq_true same ▸ List.mem_map_of_mem hm)

end Members

structure Slot where
  field : Field
  schema : Schema
  value : Option Json
  checked : ∀ v ∈ value, ∀ j, Varies schema v j → field.check j = .ok ()

namespace Slot

def known (s : Slot) : String × Schema := (s.field.name, s.schema)

def members (s : Slot) : List (String × Json) := s.value.toList.map (Prod.mk s.field.name)

def Read (found : Found) (s : Slot) : Prop :=
  match s.value with
  | none => found.value? s.field.name = none
  | some v => ∃ j, found.value? s.field.name = some j ∧ Varies s.schema v j

def ReadAll (found : Found) : List Slot → Prop
  | [] => True
  | s :: rest => s.Read found ∧ ReadAll found rest

theorem readAll_of_forall {found : Found} {slots : List Slot} (h : ∀ s ∈ slots, s.Read found) :
    ReadAll found slots := by
  induction slots with
  | nil => trivial
  | cons s rest ih =>
      exact ⟨h s List.mem_cons_self, ih fun t ht => h t (List.mem_cons_of_mem _ ht)⟩

end Slot

section Slots

variable {slots : List Slot}

theorem Slot.eq_of_name (distinct : (slots.map (·.field.name)).Nodup) {s t : Slot} (hs : s ∈ slots)
    (ht : t ∈ slots) (same : s.field.name = t.field.name) : s = t :=
  List.inj_on_of_nodup_map distinct hs ht same

theorem Slot.find?_field (distinct : (slots.map (·.field.name)).Nodup) {s : Slot} (hs : s ∈ slots) :
    (slots.map Slot.field).find? (·.name = s.field.name) = some s.field := by
  cases h : (slots.map Slot.field).find? (·.name = s.field.name) with
  | none =>
      have := List.find?_eq_none.1 h s.field (List.mem_map_of_mem hs)
      simp at this
  | some f =>
      obtain ⟨t, ht, rfl⟩ := List.mem_map.1 (List.mem_of_find?_eq_some h)
      have same : t.field.name = s.field.name := by simpa using List.find?_some h
      rw [Slot.eq_of_name distinct ht hs same]

theorem Slot.find?_eq_none {name : String} (h : name ∉ slots.map (·.field.name)) :
    (slots.map Slot.field).find? (·.name = name) = none := by
  rw [List.find?_eq_none]
  intro f hf same
  obtain ⟨t, ht, rfl⟩ := List.mem_map.1 hf
  exact h (of_decide_eq_true same ▸ List.mem_map_of_mem ht)

theorem Slot.mem_members {name : String} {j : Json} :
    (name, j) ∈ slots.flatMap Slot.members ↔
      ∃ s ∈ slots, s.field.name = name ∧ s.value = some j := by
  rw [List.mem_flatMap]
  refine exists_congr fun s => and_congr_right fun _ => ?_
  unfold Slot.members
  cases s.value with
  | none => simp
  | some v => simp [eq_comm]

theorem Slot.keys_members_sublist (slots : List Slot) :
    ((slots.flatMap Slot.members).map Prod.fst).Sublist (slots.map (·.field.name)) := by
  induction slots with
  | nil => exact .slnil
  | cons s rest ih =>
      rw [List.flatMap_cons, List.map_append, List.map_cons]
      unfold Slot.members
      cases s.value with
      | none => exact ih.cons _
      | some v => exact ih.cons_cons _

theorem VariesMembers.slot (distinct : (slots.map (·.field.name)).Nodup)
    {varied : List (String × Json)}
    (known : VariesMembers (slots.map Slot.known) (slots.flatMap Slot.members) varied)
    {m : String × Json} (hm : m ∈ varied) :
    ∃ s ∈ slots, s.field.name = m.1 ∧ ∃ v, s.value = some v ∧ Varies s.schema v m.2 := by
  obtain ⟨σ, j, hfield, hj, varies⟩ := known.known hm
  obtain ⟨s, hs, name, value⟩ := Slot.mem_members.1 hj
  obtain ⟨t, ht, same⟩ := List.mem_map.1 hfield
  obtain ⟨tname, rfl⟩ := Prod.mk.inj same
  obtain rfl := Slot.eq_of_name distinct hs ht (name.trans tname.symm)
  exact ⟨s, hs, name, j, value, varies⟩

theorem VariesMembers.written (distinct : (slots.map (·.field.name)).Nodup)
    {varied : List (String × Json)}
    (known : VariesMembers (slots.map Slot.known) (slots.flatMap Slot.members) varied)
    {s : Slot} (hs : s ∈ slots) {v : Json} (value : s.value = some v) :
    ∃ j, (s.field.name, j) ∈ varied ∧ Varies s.schema v j := by
  obtain ⟨σ, j, hfield, hj, varies⟩ := known.value (Slot.mem_members.2 ⟨s, hs, rfl, value⟩)
  obtain ⟨t, ht, same⟩ := List.mem_map.1 hfield
  obtain ⟨tname, rfl⟩ := Prod.mk.inj same
  obtain rfl := Slot.eq_of_name distinct ht hs tname
  exact ⟨j, hj, varies⟩

theorem VariesMembers.readAll (distinct : (slots.map (·.field.name)).Nodup)
    {varied found : List (String × Json)}
    (known : VariesMembers (slots.map Slot.known) (slots.flatMap Slot.members) varied)
    (same : found.Perm varied) :
    Slot.ReadAll found slots := by
  have keys : (found.map Prod.fst).Nodup := by
    rw [(same.map Prod.fst).nodup_iff, known.keys]
    exact distinct.sublist (Slot.keys_members_sublist slots)
  refine Slot.readAll_of_forall fun s hs => ?_
  unfold Slot.Read
  cases value : s.value with
  | some v =>
      obtain ⟨j, hj, varies⟩ := known.written distinct hs value
      exact ⟨j, Found.value_of_mem keys (same.mem_iff.2 hj), varies⟩
  | none =>
      refine Found.value_eq_none fun absent => ?_
      obtain ⟨m, hm, name⟩ := List.mem_map.1 absent
      obtain ⟨t, ht, tname, v, written, -⟩ := known.slot distinct (same.mem_iff.1 hm)
      obtain rfl := Slot.eq_of_name distinct hs ht (name.symm.trans tname.symm)
      cases value.symm.trans written

theorem fromMembers_read (slots : List Slot) (mode : Strangers) {schemas : List (String × Schema)}
    {varied strangers ms : List (String × Json)}
    (known : VariesMembers schemas (slots.flatMap Slot.members) varied)
    (shape : slots.map Slot.known = schemas) (named : (schemas.map Prod.fst).Nodup)
    (unknown : ∀ m ∈ strangers, m.1 ∉ schemas.map Prod.fst ∧ mode = .passed ∧
      passOver m.2 = .ok ())
    (order : ms.Perm (varied ++ strangers)) :
    ∃ found, fromMembers mode (slots.map Slot.field) [] ms = .ok found ∧
      Slot.ReadAll found slots := by
  subst shape
  rw [List.map_map] at named unknown
  have distinct : (slots.map (·.field.name)).Nodup := named
  let fields := slots.map Slot.field
  let isField := fun m : String × Json => (fields.find? (·.name = m.1)).isSome
  have ofVaried : ∀ m ∈ varied, ∃ s ∈ slots, fields.find? (·.name = m.1) = some s.field ∧
      s.field.name = m.1 ∧ ∃ v, s.value = some v ∧ Varies s.schema v m.2 := by
    intro m hm
    obtain ⟨s, hs, name, written⟩ := known.slot distinct hm
    exact ⟨s, hs, name ▸ Slot.find?_field distinct hs, name, written⟩
  have ofStranger : ∀ m ∈ strangers, fields.find? (·.name = m.1) = none :=
    fun m hm => Slot.find?_eq_none (unknown m hm).1
  have parts : ∀ m ∈ ms, m ∈ varied ∨ m ∈ strangers :=
    fun m hm => List.mem_append.1 (order.subset hm)
  have fieldsOnly : (ms.filter isField).Perm varied := by
    have all : varied.filter isField = varied := List.filter_eq_self.2 fun m hm => by
      obtain ⟨s, -, found, -⟩ := ofVaried m hm
      simp [isField, found]
    have no : strangers.filter isField = [] := List.filter_eq_nil_iff.2 fun m hm => by
      simp [isField, ofStranger m hm]
    simpa [List.filter_append, all, no] using order.filter isField
  have keys : ((ms.filter isField).map Prod.fst).Nodup := by
    rw [(fieldsOnly.map Prod.fst).nodup_iff, known.keys]
    exact distinct.sublist (Slot.keys_members_sublist slots)
  refine ⟨(ms.filter isField).reverse ++ [], fromMembers_eq ?_ ?_ keys ?_, ?_⟩
  · intro m hm f found
    rcases parts m hm with hm | hm
    · obtain ⟨s, hs, found', -, v, value, varies⟩ := ofVaried m hm
      obtain rfl : s.field = f := Option.some.inj (found'.symm.trans found)
      exact s.checked v value m.2 varies
    · cases (ofStranger m hm).symm.trans found
  · intro m hm found
    rcases parts m hm with hm | hm
    · obtain ⟨s, -, found', -⟩ := ofVaried m hm
      cases found.symm.trans found'
    · exact (unknown m hm).2
  · intro m _ _
    exact List.not_mem_nil
  · rw [List.append_nil]
    exact known.readAll distinct ((List.reverse_perm _).trans fieldsOnly)

end Slots

def Schema.object (fields : List (String × Schema)) : Schema :=
  .record (fun v => (passOver v).isOk) fields

theorem passOver_of_isOk {v : Json} (h : (passOver v).isOk = true) : passOver v = .ok () := by
  cases passed : passOver v with
  | error f =>
      rw [passed] at h
      cases h
  | ok _ => rfl

theorem Varies.read (slots : List Slot) {fields : List (String × Schema)} {j : Json}
    (varies : Varies (.object fields) (.object (slots.flatMap Slot.members)) j)
    (shape : slots.map Slot.known = fields) (distinct : (fields.map Prod.fst).Nodup) :
    ∃ found, j.toRecord (slots.map Slot.field) = .ok found ∧ Slot.ReadAll found slots := by
  cases varies with
  | record known unknown order =>
      exact fromMembers_read slots .passed known shape distinct
        (fun m hm => ⟨(unknown m hm).1, rfl, passOver_of_isOk (unknown m hm).2⟩) order

end Json

end Conclave

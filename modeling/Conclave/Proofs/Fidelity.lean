import Conclave.Proofs.Schemas

namespace Conclave

namespace Codec

open Json

variable {α β : Type}

def Faithful (c : Codec α) (σ : Schema) (sound : α → Prop) : Prop :=
  ∀ a, sound a → ∀ j, Varies σ (c.encode a) j → c.decode j = .ok a

def Solid (c : Codec α) : Prop := ∀ a, c.encode a ≠ .null

theorem faithful_of_plain {c : Codec α} {sound : α → Prop}
    (reads : ∀ a, sound a → c.decode (c.encode a) = .ok a) : c.Faithful .plain sound := by
  intro a ha j varies
  have same : j = c.encode a := by
    generalize c.encode a = j' at varies
    cases varies <;> rfl
  rw [same, reads a ha]

theorem Faithful.mono {c : Codec α} {σ : Schema} {sound sound' : α → Prop} (h : c.Faithful σ sound)
    (imp : ∀ a, sound' a → sound a) : c.Faithful σ sound' :=
  fun a ha => h a (imp a ha)

theorem faithful_text : text.Faithful .plain fun _ => True := faithful_of_plain fun _ _ => rfl

theorem faithful_bool : bool.Faithful .plain fun _ => True := faithful_of_plain fun _ _ => rfl

theorem faithful_uint64 : uint64.Faithful .plain fun _ => True := faithful_of_plain fun _ _ => rfl

theorem toNatBelow_natural {n bound : Nat} (below : n < bound) (small : bound ≤ UInt64.size) :
    (Json.natural n).toNatBelow bound = .ok n := by
  have same : (UInt64.ofNat n).toNat = n := by
    rw [UInt64.toNat_ofNat', Nat.mod_eq_of_lt (Nat.lt_of_lt_of_le below small)]
  rw [Json.natural, Json.toNatBelow, same, if_pos below]

theorem faithful_uint32 : uint32.Faithful .plain fun _ => True := by
  refine faithful_of_plain fun n _ => ?_
  show ((Json.natural n.toNat).toNatBelow UInt32.size).map UInt32.ofNat = _
  rw [toNatBelow_natural n.toNat_lt (by decide)]
  exact congrArg Except.ok UInt32.ofNat_toNat

theorem faithful_uint8 : uint8.Faithful .plain fun _ => True := by
  refine faithful_of_plain fun n _ => ?_
  show ((Json.natural n.toNat).toNatBelow UInt8.size).map UInt8.ofNat = _
  rw [toNatBelow_natural n.toNat_lt (by decide)]
  exact congrArg Except.ok UInt8.ofNat_toNat

theorem faithful_binary64 : binary64.Faithful .plain fun x => x.isFinite = true := by
  refine faithful_of_plain fun x finite => ?_
  show (if x.isFinite then Json.number (.real x) else .null).toBinary64 = _
  rw [if_pos finite]
  rfl

theorem faithful_named {name : α → String} {ofName? : String → Option α}
    (known : ∀ a, ofName? (name a) = some a) : (named name ofName?).Faithful .plain fun _ => True := by
  refine faithful_of_plain fun a _ => ?_
  show Json.toNamed ofName? (.string (name a)) = _
  rw [Json.toNamed, known a]

theorem faithful_ofText {write : α → String} {read? : String → Option α} :
    (ofText write read?).Faithful .plain fun a => read? (write a) = some a := by
  refine faithful_of_plain fun a reads => ?_
  simp only [ofText, Json.toText, bind, Except.bind, reads]
  rfl

theorem Faithful.map {c : Codec α} {σ : Schema} {sound : α → Prop} (h : c.Faithful σ sound)
    {f : α → β} {g : β → α} (inverse : ∀ b, f (g b) = b) :
    (c.map f g).Faithful σ fun b => sound (g b) := by
  intro b hb j varies
  show (c.decode j).map f = _
  rw [h (g b) hb j varies, Except.map, inverse]

theorem Faithful.option {c : Codec α} {σ : Schema} {sound : α → Prop} (h : c.Faithful σ sound)
    (solid : c.Solid) : c.option.Faithful σ fun o => ∀ a ∈ o, sound a := by
  intro o ho j varies
  cases o with
  | none =>
      obtain rfl := varies.null_iff.2 rfl
      rfl
  | some a =>
      have full : j ≠ .null := fun null => solid a (varies.null_iff.1 null)
      show Json.toOption c.decode j = _
      unfold Json.toOption
      split
      · exact absurd rfl full
      · rw [h a (ho a rfl) j varies]
        rfl

theorem Faithful.listOf {c : Codec α} {σ : Schema} {sound : α → Prop} (h : c.Faithful σ sound) :
    c.listOf.Faithful (.list σ) fun l => ∀ a ∈ l, sound a := by
  intro l hl j varies
  cases varies with
  | list items =>
      rename_i l'
      show l'.mapM c.decode = .ok l
      induction l generalizing l' with
      | nil =>
          cases items
          rfl
      | cons a l ih =>
          cases items with
          | cons head tail =>
              rw [List.mapM_cons, h a (hl a List.mem_cons_self) _ head,
                ih (fun b hb => hl b (List.mem_cons_of_mem _ hb)) tail]
              rfl

theorem faithful_bytes : bytes.Faithful (.list .plain) fun _ => True :=
  faithful_uint8.listOf.mono fun _ _ _ _ => trivial

theorem solid_text : text.Solid := fun _ => nofun

theorem solid_uint64 : uint64.Solid := fun _ => nofun

theorem solid_uint32 : uint32.Solid := fun _ => nofun

theorem solid_uint8 : uint8.Solid := fun _ => nofun

theorem solid_ofText (write : α → String) (read? : String → Option α) : (ofText write read?).Solid :=
  fun _ => nofun

theorem solid_listOf (c : Codec α) : c.listOf.Solid := fun _ => nofun

section Slots

variable {c : Codec α} {σ : Schema} {sound : α → Prop} {name : String} {found : Found}

def Faithful.slot (h : c.Faithful σ sound) (omissible : Bool) (name : String) {a : α} (ha : sound a) :
    Slot where
  field := ⟨name, c.check, omissible⟩
  schema := σ
  value := some (c.encode a)
  checked := by
    rintro v hv j varies
    obtain rfl := Option.some.inj hv
    show (c.decode j).map _ = _
    rw [h a ha j varies]
    rfl

def Faithful.slot? {sound : Option α → Prop} (h : c.option.Faithful σ sound) (omissible : Bool)
    (name : String) {o : Option α} (ho : sound o) : Slot where
  field := ⟨name, c.option.check, omissible⟩
  schema := σ
  value := o.map c.encode
  checked := by
    rintro v hv j varies
    obtain ⟨a, rfl, rfl⟩ := Option.map_eq_some_iff.1 hv
    show (c.option.decode j).map _ = _
    rw [h (some a) ho j varies]
    rfl

theorem Faithful.decoded {h : c.Faithful σ sound} {omissible : Bool} {a : α} {ha : sound a}
    (read : (h.slot omissible name ha).Read found) :
    ∃ j, found.value? name = some j ∧ c.decode j = .ok a := by
  obtain ⟨j, value, varies⟩ := read
  exact ⟨j, value, h a ha j varies⟩

theorem Faithful.required {h : c.Faithful σ sound} {omissible : Bool} {a : α} {ha : sound a}
    (read : (h.slot omissible name ha).Read found) : found.required name c = .ok a := by
  obtain ⟨j, value, decoded⟩ := decoded read
  rw [Found.required, value]
  exact decoded

theorem Faithful.withDefault {h : c.Faithful σ sound} {omissible : Bool} {a : α} {ha : sound a}
    (read : (h.slot omissible name ha).Read found) (value : α) :
    found.withDefault name c value = .ok a := by
  obtain ⟨j, found, decoded⟩ := decoded read
  rw [Found.withDefault, found]
  exact decoded

theorem Faithful.optional {sound : Option α → Prop} {h : c.option.Faithful σ sound}
    {omissible : Bool} {o : Option α} {ho : sound o} (read : (h.slot omissible name ho).Read found) :
    found.optional name c = .ok o := by
  obtain ⟨j, value, decoded⟩ := decoded read
  rw [Found.optional, value]
  exact decoded

theorem Faithful.optional? {sound : Option α → Prop} {h : c.option.Faithful σ sound}
    {omissible : Bool} {o : Option α} {ho : sound o}
    (read : (h.slot? omissible name ho).Read found) : found.optional name c = .ok o := by
  cases o with
  | none =>
      rw [Found.optional, show found.value? name = none from read]
  | some a =>
      obtain ⟨j, value, varies⟩ := read
      rw [Found.optional, show found.value? name = some j from value]
      exact h (some a) ho j varies

end Slots

theorem bind_of_ok {x : Except Fault α} {k : α → Except Fault β} {a : α} {b : β} (first : x = .ok a)
    (rest : k a = .ok b) : x >>= k = .ok b := by
  rw [first]
  exact rest

end Codec

end Conclave

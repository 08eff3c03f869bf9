import Conclave.Proofs.Messages

namespace Conclave

namespace Json

mutual

theorem skips_of_soundTo : ∀ {depth : Nat} {j : Json}, j.soundTo depth = true → j.skips = true
  | _, .null, _ => rfl
  | _, .bool _, _ => rfl
  | _, .number _, _ => rfl
  | _, .string _, _ => rfl
  | 0, .array _, h => nomatch h
  | _ + 1, .array _, h => skipsAll_of_soundAll (by simpa only [soundTo] using h)
  | 0, .object _, h => nomatch h
  | _ + 1, .object _, h => skipsMembers_of_soundMembers (by simpa only [soundTo] using h)
  | depth, .stop _, h => by cases depth <;> cases h

theorem skipsAll_of_soundAll :
    ∀ {depth : Nat} {l : List Json}, soundAll depth l = true → skipsAll l = true
  | _, [], _ => rfl
  | _, _ :: _, h => by
      simp only [soundAll, Bool.and_eq_true] at h
      simp only [skipsAll, Bool.and_eq_true]
      exact ⟨skips_of_soundTo h.1, skipsAll_of_soundAll h.2⟩

theorem skipsMembers_of_soundMembers :
    ∀ {depth : Nat} {l : List (String × Json)}, soundMembers depth l = true → skipsMembers l = true
  | _, [], _ => rfl
  | _, (_, _) :: _, h => by
      simp only [soundMembers, Bool.and_eq_true] at h
      simp only [skipsMembers, Bool.and_eq_true]
      exact ⟨skips_of_soundTo h.1, skipsMembers_of_soundMembers h.2⟩

end

theorem passOver_of_soundTo {depth : Nat} {j : Json} (h : j.soundTo depth = true) :
    passOver j = .ok () := by
  unfold passOver
  split
  · cases depth <;> cases h
  · rw [if_pos (skips_of_soundTo h)]

theorem VariesMembers.of_cons {fields : List (String × Schema)} {name : String} {j : Json}
    {l varied : List (String × Json)} (h : VariesMembers fields ((name, j) :: l) varied) :
    ∃ σ j' varied', varied = (name, j') :: varied' ∧ (name, σ) ∈ fields ∧ Varies σ j j' ∧
      VariesMembers fields l varied' := by
  cases h with
  | cons field head tail => exact ⟨_, _, _, rfl, field, head, tail⟩

theorem VariesMembers.of_nil {fields : List (String × Schema)} {varied : List (String × Json)}
    (h : VariesMembers fields [] varied) : varied = [] := by
  cases h
  rfl

theorem VariesMembers.tail {name : String} {σ : Schema} {fields : List (String × Schema)}
    {l varied : List (String × Json)} (h : VariesMembers ((name, σ) :: fields) l varied)
    (absent : name ∉ l.map Prod.fst) : VariesMembers fields l varied := by
  induction l generalizing varied with
  | nil =>
      obtain rfl := h.of_nil
      exact .nil
  | cons m l ih =>
      obtain ⟨key, j⟩ := m
      obtain ⟨σ', j', varied', rfl, field, head, tail⟩ := h.of_cons
      rw [List.map_cons, List.mem_cons, not_or] at absent
      rcases List.mem_cons.1 field with same | field
      · exact absurd (congrArg Prod.fst same).symm absent.1
      · exact .cons field head (ih tail absent.2)

theorem Varies.eq_of_plain {j j' : Json} (h : Varies .plain j j') : j' = j := by
  cases h <;> rfl

theorem Varies.eq_of_string {σ : Schema} {text : String} {j : Json} (h : Varies σ (.string text) j) :
    j = .string text := by
  cases h
  rfl

theorem VariesAll.eq_of_plain {l l' : List Json} (h : VariesAll .plain l l') : l' = l := by
  induction l generalizing l' with
  | nil =>
      cases h
      rfl
  | cons j l ih =>
      cases h with
      | cons head tail => rw [head.eq_of_plain, ih tail]

theorem Varies.eq_of_plain_list {j j' : Json} (h : Varies (.list .plain) j j') : j' = j := by
  cases h with
  | null => rfl
  | list items => rw [items.eq_of_plain]

end Json

namespace Wire

open Codec Json

def keptObject (fields : List (String × Schema)) : Schema :=
  .record (fun j => j.soundTo keptDepth) fields

section Tagged

variable {tag : String} {kind : ResultKind} {value : Json}

theorem partTag_rest {kind? : Option ResultKind} {ms : List (String × Json)}
    (others : ∀ m ∈ ms, m.1 ≠ tag ∧ m.2.soundTo keptDepth = true) :
    partTag tag kind? ms = .ok (kind?, ms) := by
  induction ms with
  | nil => rfl
  | cons m ms ih =>
      obtain ⟨key, j⟩ := m
      obtain ⟨other, sound⟩ := others (key, j) List.mem_cons_self
      rw [partTag, if_neg other, keep, if_pos sound, ih fun m hm => others m (List.mem_cons_of_mem _ hm)]
      rfl

theorem partTag_of_tag (decoded : resultKind.decode value = .ok kind)
    {before after : List (String × Json)}
    (others : ∀ m ∈ before ++ after, m.1 ≠ tag ∧ m.2.soundTo keptDepth = true) :
    partTag tag none (before ++ (tag, value) :: after) = .ok (some kind, before ++ after) := by
  induction before with
  | nil =>
      rw [List.nil_append, partTag, if_pos rfl, decoded]
      exact partTag_rest others
  | cons m before ih =>
      obtain ⟨key, j⟩ := m
      obtain ⟨other, sound⟩ := others (key, j) List.mem_cons_self
      rw [List.cons_append, partTag, if_neg other, keep, if_pos sound,
        ih fun m hm => others m (List.mem_cons_of_mem _ hm)]
      rfl

end Tagged

theorem split_of_perm {ms rest : List (String × Json)} {m : String × Json} (order : ms.Perm (m :: rest)) :
    ∃ before after, ms = before ++ m :: after ∧ (before ++ after).Perm rest := by
  obtain ⟨before, after, rfl⟩ := List.append_of_mem (order.mem_iff.2 List.mem_cons_self)
  exact ⟨before, after, rfl, (List.perm_middle.symm.trans order).cons_inv⟩

def Kept (s : Slot) : Prop :=
  ∀ v ∈ s.value, ∀ j, Varies s.schema v j → j.soundTo keptDepth = true

theorem kept_of_plain {s : Slot} (plain : s.schema = .plain)
    (sound : ∀ v ∈ s.value, v.soundTo keptDepth = true) : Kept s := by
  intro v hv j varies
  rw [plain] at varies
  rw [varies.eq_of_plain]
  exact sound v hv

theorem kept_of_plain_list {s : Slot} (plain : s.schema = .list .plain)
    (sound : ∀ v ∈ s.value, v.soundTo keptDepth = true) : Kept s := by
  intro v hv j varies
  rw [plain] at varies
  rw [varies.eq_of_plain_list]
  exact sound v hv

theorem kept_of_varied (slots : List Slot) {fields : List (String × Schema)}
    {varied : List (String × Json)} (known : VariesMembers fields (slots.flatMap Slot.members) varied)
    (shape : slots.map Slot.known = fields) (named : (fields.map Prod.fst).Nodup)
    (kept : ∀ s ∈ slots, Kept s) {m : String × Json} (hm : m ∈ varied) :
    m.1 ∈ fields.map Prod.fst ∧ m.2.soundTo keptDepth = true := by
  subst shape
  rw [List.map_map] at named ⊢
  obtain ⟨s, hs, name, v, value, varies⟩ := known.slot named hm
  exact ⟨name ▸ List.mem_map_of_mem (f := Prod.fst ∘ Slot.known) hs, kept s hs v value m.2 varies⟩

section Held

variable {name : String} {σ : Schema} {fields : List (String × Schema)}
  {varied strangers : List (String × Json)}

theorem apart_of_first (slots : List Slot)
    (known : VariesMembers fields (slots.flatMap Slot.members) varied)
    (shape : slots.map Slot.known = fields) (named : (name :: fields.map Prod.fst).Nodup)
    (kept : ∀ s ∈ slots, Kept s)
    (unknown : ∀ m ∈ strangers, m.1 ∉ ((name, σ) :: fields).map Prod.fst ∧
      m.2.soundTo keptDepth = true) :
    ∀ m ∈ varied ++ strangers, m.1 ≠ name ∧ m.2.soundTo keptDepth = true := by
  obtain ⟨first, distinct⟩ := List.nodup_cons.1 named
  intro m hm
  rcases List.mem_append.1 hm with hm | hm
  · obtain ⟨field, sound⟩ := kept_of_varied slots known shape distinct kept hm
    exact ⟨fun same => first (same ▸ field), sound⟩
  · obtain ⟨other, admitted⟩ := unknown m hm
    exact ⟨fun same => other (same ▸ List.mem_cons_self), admitted⟩

theorem passed_of_unknown
    (unknown : ∀ m ∈ strangers, m.1 ∉ ((name, σ) :: fields).map Prod.fst ∧
      m.2.soundTo keptDepth = true) :
    ∀ m ∈ strangers, m.1 ∉ fields.map Prod.fst ∧ Strangers.passed = .passed ∧
      passOver m.2 = .ok () := by
  intro m hm
  obtain ⟨other, admitted⟩ := unknown m hm
  exact ⟨fun field => other (List.mem_cons_of_mem _ field), rfl, passOver_of_soundTo admitted⟩

end Held

theorem resultKind_decode (kind : ResultKind) :
    resultKind.decode (resultKind.encode kind) = .ok kind := by
  cases kind <;> rfl

theorem decode_tagged {kind : ResultKind} (slots : List Slot) {fields : List (String × Schema)} {j : Json}
    (varies : Varies (keptObject (("kind", .plain) :: fields))
      (.object (("kind", resultKind.encode kind) :: slots.flatMap Slot.members)) j)
    (shape : slots.map Slot.known = fields) (checks : slots.map Slot.field = resultFields kind)
    (named : ("kind" :: fields.map Prod.fst).Nodup)
    (kept : ∀ s ∈ slots, Kept s) :
    ∃ found, Slot.ReadAll found slots ∧ ceremonyResult.decode j = resultOf found kind := by
  obtain ⟨first, distinct⟩ := List.nodup_cons.1 named
  have absent : "kind" ∉ (slots.flatMap Slot.members).map Prod.fst := by
    intro h
    have h := (Slot.keys_members_sublist slots).subset h
    subst shape
    rw [List.map_map] at first
    exact first h
  cases varies with
  | record known unknown order =>
      obtain ⟨σ, tag, varied, rfl, -, head, tail⟩ := known.of_cons
      obtain rfl : tag = resultKind.encode kind := head.eq_of_string
      replace tail := tail.tail absent
      obtain ⟨before, after, rfl, perm⟩ := split_of_perm order
      have others : ∀ m ∈ before ++ after, m.1 ≠ "kind" ∧ m.2.soundTo keptDepth = true :=
        fun m hm => apart_of_first slots tail shape named kept unknown m (perm.subset hm)
      obtain ⟨found, read, slots⟩ :=
        fromMembers_read slots .passed tail shape distinct (passed_of_unknown unknown) perm
      refine ⟨found, slots, ?_⟩
      simp only [ceremonyResult, bind, Except.bind, partTag_of_tag (resultKind_decode kind) others,
        ← checks, read]

def resultSchema : CeremonyResult → Schema
  | .keygen _ _ => keptObject [("kind", .plain), ("share_data", .plain), ("public_address", .plain)]
  | .signature _ _ =>
      keptObject [("kind", .plain), ("signature", .list .plain), ("recovery_id", .plain)]

theorem soundTo_bytes (bs : List UInt8) : (bytes.encode bs).soundTo keptDepth = true := by
  show soundAll 125 (bs.map uint8.encode) = true
  induction bs with
  | nil => rfl
  | cons b bs ih =>
      rw [List.map_cons, soundAll, ih, Bool.and_true]
      rfl

def signatureResultSlots (bs : List UInt8) (recoveryId : Option UInt8) : List Slot := [
  faithful_bytes.slot false "signature" (a := bs) trivial,
  faithful_uint8_option.slot? true "recovery_id" (o := recoveryId) trivial]

theorem encode_signatureResult (bs : List UInt8) (recoveryId : Option UInt8) :
    ceremonyResult.encode (.signature bs recoveryId) =
      .object (("kind", resultKind.encode .signature) ::
        (signatureResultSlots bs recoveryId).flatMap Slot.members) := by
  cases recoveryId <;> rfl

theorem faithful_ceremonyResult (r : CeremonyResult) {j : Json}
    (varies : Varies (resultSchema r) (ceremonyResult.encode r) j) :
    ceremonyResult.decode j = .ok r := by
  cases r with
  | keygen shareData publicAddress =>
      have kept : ∀ name text, Kept (faithful_text.slot false name (a := text) trivial) :=
        fun name text => kept_of_plain rfl fun v hv => by
          obtain rfl := Option.some.inj hv
          rfl
      obtain ⟨found, ⟨share, address, -⟩, read⟩ := decode_tagged [
          faithful_text.slot false "share_data" (a := shareData) trivial,
          faithful_text.slot false "public_address" (a := publicAddress) trivial] varies rfl rfl
        (by decide) (List.forall_mem_cons.2 ⟨kept _ _, List.forall_mem_cons.2 ⟨kept _ _, nofun⟩⟩)
      rw [read]
      exact bind_of_ok (Faithful.required share) <| bind_of_ok (Faithful.required address) rfl
  | signature bs recoveryId =>
      have keptBytes : Kept (faithful_bytes.slot false "signature" (a := bs) trivial) :=
        kept_of_plain_list rfl fun v hv => by
          obtain rfl := Option.some.inj hv
          exact soundTo_bytes bs
      have keptId : Kept (faithful_uint8_option.slot? true "recovery_id" (o := recoveryId) trivial) :=
        kept_of_plain rfl fun v hv => by
          obtain ⟨n, -, rfl⟩ := Option.map_eq_some_iff.1 hv
          rfl
      rw [encode_signatureResult] at varies
      obtain ⟨found, ⟨bytes, recovery, -⟩, read⟩ := decode_tagged _ varies rfl rfl (by decide)
        (List.forall_mem_cons.2 ⟨keptBytes, List.forall_mem_cons.2 ⟨keptId, nofun⟩⟩)
      rw [read]
      exact bind_of_ok (Faithful.required bytes) <| bind_of_ok (Faithful.optional? recovery) rfl

def usageSchema : Schema := keptObject [("organization_id", .plain), ("wallets_created", .plain),
  ("signatures_produced", .plain), ("ceremonies_failed", .plain)]

theorem forM_keep {ms : List (String × Json)} (kept : ∀ m ∈ ms, m.2.soundTo keptDepth = true) :
    (ms.forM fun m => keep m.2) = .ok () := by
  induction ms with
  | nil => rfl
  | cons m ms ih =>
      refine bind_of_ok (a := ()) ?_ (ih fun m hm => kept m (List.mem_cons_of_mem _ hm))
      show keep m.2 = _
      rw [keep, if_pos (kept m List.mem_cons_self)]

def usageSlots (c : UsageCounts) : List Slot := [
  faithful_uint64.slot false "wallets_created" (a := c.walletsCreated) trivial,
  faithful_uint64.slot false "signatures_produced" (a := c.signaturesProduced) trivial,
  faithful_uint64.slot false "ceremonies_failed" (a := c.ceremoniesFailed) trivial]

theorem kept_usage (c : UsageCounts) : ∀ s ∈ usageSlots c, Kept s := by
  have kept : ∀ name (n : UInt64), Kept (faithful_uint64.slot false name (a := n) trivial) :=
    fun name n => kept_of_plain rfl fun v hv => by
      obtain rfl := Option.some.inj hv
      rfl
  exact List.forall_mem_cons.2 ⟨kept _ _, List.forall_mem_cons.2 ⟨kept _ _,
    List.forall_mem_cons.2 ⟨kept _ _, nofun⟩⟩⟩

theorem faithful_usageReport (r : Api.UsageReport) {j : Json}
    (varies : Varies usageSchema (usageReport.encode r) j) : usageReport.decode j = .ok r := by
  cases varies with
  | @record _ _ _ _ strangers ms known unknown order =>
      obtain ⟨σ, organization, varied, rfl, -, head, tail⟩ := known.of_cons
      obtain rfl : organization = uuid.encode r.organization := head.eq_of_string
      replace tail := tail.tail (by simp [usageCountMembers])
      have others : ∀ m ∈ varied ++ strangers,
          m.1 ≠ "organization_id" ∧ m.2.soundTo keptDepth = true :=
        apart_of_first (usageSlots r.counts) tail rfl (by decide) (kept_usage _) unknown
      have own : ms.filter (fun m => m.1 = "organization_id") =
          [("organization_id", uuid.encode r.organization)] := by
        refine List.perm_singleton.1 ((order.filter _).trans ?_)
        rw [List.cons_append, List.filter_cons_of_pos (by simp),
          List.filter_eq_nil_iff.2 fun m hm => by simpa using (others m hm).1]
      have rest : (ms.filter fun m => m.1 ≠ "organization_id").Perm (varied ++ strangers) := by
        refine (order.filter _).trans ?_
        rw [List.cons_append, List.filter_cons_of_neg (by simp),
          List.filter_eq_self.2 fun m hm => by simpa using (others m hm).1]
      have sole : VariesMembers [("organization_id", .plain)]
          [("organization_id", uuid.encode r.organization)]
          [("organization_id", uuid.encode r.organization)] :=
        .cons List.mem_cons_self (.plain _) .nil
      obtain ⟨found, read, organization, -⟩ := fromMembers_read [
          faithful_uuid.slot false "organization_id" (a := r.organization) trivial] .passed sole rfl
        (by decide) (by rintro m ⟨⟩) (.refl (_ ++ []))
      obtain ⟨found', read', wallets, signatures, failures, -⟩ := fromMembers_read
        (usageSlots r.counts) .passed tail rfl (by decide) (passed_of_unknown unknown) rest
      have kept := forM_keep fun m hm => (others m (rest.subset hm)).2
      simp only [usageReport, own]
      exact bind_of_ok read <| bind_of_ok kept <| bind_of_ok (Faithful.required organization) <|
        bind_of_ok read' <| bind_of_ok (bind_of_ok (Faithful.required wallets) <|
          bind_of_ok (Faithful.required signatures) <| bind_of_ok (Faithful.required failures) rfl) rfl

end Wire

end Conclave

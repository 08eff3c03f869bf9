import Conclave.Proofs.KeptMembers

namespace Conclave

namespace Json

section Same

variable {fields : List (String × Schema)} {name : String} {σ : Schema} {j : Json}
  {l : List (String × Json)}

theorem VariesMembers.weaken {l' : List (String × Json)} (f : String × Schema)
    (h : VariesMembers fields l l') : VariesMembers (f :: fields) l l' := by
  induction l generalizing l' with
  | nil =>
      obtain rfl := h.of_nil
      exact .nil
  | cons m l ih =>
      obtain ⟨key, j⟩ := m
      obtain ⟨σ, j', varied, rfl, field, head, tail⟩ := h.of_cons
      exact .cons (List.mem_cons_of_mem _ field) head (ih tail)

theorem VariesMembers.next (head : Varies σ j j) (tail : VariesMembers fields l l) :
    VariesMembers ((name, σ) :: fields) ((name, j) :: l) ((name, j) :: l) :=
  .cons List.mem_cons_self head (tail.weaken _)

theorem VariesMembers.slots (slots : List Slot)
    (each : ∀ s ∈ slots, ∀ v, s.value = some v → Varies s.schema v v) :
    VariesMembers (slots.map Slot.known) (slots.flatMap Slot.members)
      (slots.flatMap Slot.members) := by
  induction slots with
  | nil => exact .nil
  | cons s slots ih =>
      have tail := ih fun t ht => each t (List.mem_cons_of_mem _ ht)
      rw [List.flatMap_cons, List.map_cons]
      unfold Slot.members
      cases value : s.value with
      | none => exact tail.weaken _
      | some v => exact .next (each s List.mem_cons_self v value) tail

theorem Varies.self {admits : Json → Bool} (known : VariesMembers fields l l) :
    Varies (.record admits fields) (.object l) (.object l) :=
  .record known (fun _ (h : _ ∈ []) => nomatch h) (by rw [List.append_nil])

theorem VariesAll.self {l : List Json} (h : ∀ j ∈ l, Varies σ j j) : VariesAll σ l l := by
  induction l with
  | nil => exact .nil
  | cons j l ih =>
      exact .cons (h j List.mem_cons_self) (ih fun j hj => h j (List.mem_cons_of_mem _ hj))

end Same

theorem Legible.object {members : List (String × Json)} (h : LegibleMembers members) :
    Legible (.object members) := h

theorem LegibleMembers.cons {name : String} {value : Json} {members : List (String × Json)}
    (head : Legible value) (tail : LegibleMembers members) :
    LegibleMembers ((name, value) :: members) := ⟨head, tail⟩

theorem LegibleMembers.nil : LegibleMembers [] := trivial

theorem LegibleMembers.append {l l' : List (String × Json)} (h : LegibleMembers l)
    (h' : LegibleMembers l') : LegibleMembers (l ++ l') := by
  induction l with
  | nil => exact h'
  | cons m l ih => exact .cons h.1 (ih h.2)

theorem legibleAll_of_forall {l : List Json} (h : ∀ j ∈ l, Legible j) : LegibleAll l := by
  induction l with
  | nil => trivial
  | cons j l ih => exact ⟨h j List.mem_cons_self, ih fun j hj => h j (List.mem_cons_of_mem _ hj)⟩

end Json

namespace Wire

open Codec Json

inductive Message where
  | notice
  | ack
  | result
  | node
  | record
  | config
  | wallet
  | signature
  | nodeHealth
  | errorBody
  | usage
  | register
  | heartbeat
  | nodeList
  | walletRequest
  | signRequest
  | signResponse
  | sessionList
  | health
  deriving DecidableEq, Repr

structure Form where
  Value : Type
  codec : Codec Value
  schema : Value → Schema
  Readable : Value → Prop

namespace Message

def form : Message → Form
  | notice => ⟨Notice, Wire.notice, fun _ => noticeSchema, fun _ => True⟩
  | ack => ⟨Ack, Wire.ack, fun _ => ackSchema, fun _ => True⟩
  | result => ⟨CeremonyResult, ceremonyResult, resultSchema, fun _ => True⟩
  | node => ⟨Node, Wire.node, fun _ => nodeSchema, ReadableNode⟩
  | record => ⟨Session.Record, sessionRecord, fun _ => recordSchema, ReadableRecord⟩
  | config => ⟨Config, Wire.config, fun _ => configSchema, fun _ => True⟩
  | wallet => ⟨Wallet, Wire.wallet, fun _ => walletSchema, fun _ => True⟩
  | signature => ⟨Signature, Wire.signature, fun _ => signatureSchema, fun _ => True⟩
  | nodeHealth =>
      ⟨NodeHealth, Wire.nodeHealth, fun _ => nodeHealthSchema, fun h => h.lastCheck.Readable⟩
  | errorBody => ⟨Api.ErrorBody, Wire.errorBody, fun _ => errorSchema, fun _ => True⟩
  | usage => ⟨Api.UsageReport, usageReport, fun _ => usageSchema, fun _ => True⟩
  | register => ⟨Api.RegisterRequest, registerRequest, fun _ => registerSchema, fun _ => True⟩
  | heartbeat => ⟨Api.HeartbeatRequest, heartbeatRequest, fun _ => heartbeatSchema,
      fun r => ReadableLoad r.load⟩
  | nodeList => ⟨Api.NodeList, Wire.nodeList, fun _ => nodeListSchema,
      fun l => ∀ n ∈ l.nodes, ReadableNode n⟩
  | walletRequest =>
      ⟨Api.WalletRequest, Wire.walletRequest, fun _ => walletRequestSchema, fun _ => True⟩
  | signRequest => ⟨Api.SignRequest, Wire.signRequest, fun _ => signRequestSchema, fun _ => True⟩
  | signResponse =>
      ⟨Api.SignResponse, Wire.signResponse, fun _ => signResponseSchema, fun _ => True⟩
  | sessionList => ⟨Api.SessionList, Wire.sessionList, fun _ => recordListSchema,
      fun l => ∀ r ∈ l.sessions, ReadableRecord r⟩
  | health => ⟨Api.HealthReport, healthReport, fun _ => healthReportSchema, fun _ => True⟩

theorem read_of_varies (m : Message) {a : m.form.Value} (readable : m.form.Readable a) {j : Json}
    (varies : Varies (m.form.schema a) (m.form.codec.encode a) j) : m.form.codec.decode j = .ok a := by
  cases m with
  | notice => exact faithful_notice a readable j varies
  | ack => exact faithful_ack a readable j varies
  | result => exact faithful_ceremonyResult a varies
  | node => exact faithful_node a readable j varies
  | record => exact faithful_sessionRecord a readable j varies
  | config => exact faithful_config a readable j varies
  | wallet => exact faithful_wallet a readable j varies
  | signature => exact faithful_signature a readable j varies
  | nodeHealth => exact faithful_nodeHealth a readable j varies
  | errorBody => exact faithful_errorBody a readable j varies
  | usage => exact faithful_usageReport a varies
  | register => exact faithful_registerRequest a readable j varies
  | heartbeat => exact faithful_heartbeatRequest a readable j varies
  | nodeList => exact faithful_nodeList a readable j varies
  | walletRequest => exact faithful_walletRequest a readable j varies
  | signRequest => exact faithful_signRequest a readable j varies
  | signResponse => exact faithful_signResponse a readable j varies
  | sessionList => exact faithful_sessionList a readable j varies
  | health => exact faithful_healthReport a readable j varies

end Message

theorem varies_listOf {α : Type} {c : Codec α} {σ : Schema}
    (self : ∀ a, Varies σ (c.encode a) (c.encode a)) (l : List α) :
    Varies (.list σ) ((listOf c).encode l) ((listOf c).encode l) := by
  refine .list (.self fun j hj => ?_)
  obtain ⟨a, -, rfl⟩ := List.mem_map.1 hj
  exact self a

theorem varies_bytes (bs : List UInt8) : Varies (.list .plain) (bytes.encode bs) (bytes.encode bs) :=
  varies_listOf (fun _ => .plain _) bs

theorem varies_parties (ps : List NodeId) :
    Varies (.list .plain) ((listOf nodeId).encode ps) ((listOf nodeId).encode ps) :=
  varies_listOf (fun _ => .plain _) ps

theorem varies_node (n : Node) : Varies nodeSchema (node.encode n) (node.encode n) :=
  .self <| .next (.plain _) <| .next (.plain _) <| .next (.plain _) <| .next (.plain _) <|
    .next (.plain _) <| .next (.plain _) .nil

theorem varies_sessionRecord (r : Session.Record) :
    Varies recordSchema (sessionRecord.encode r) (sessionRecord.encode r) :=
  .self <| .next (.plain _) <| .next (.plain _) <| .next (.plain _) <| .next (.plain _) <|
    .next (varies_parties _) <| .next (.plain _) <| .next (.plain _) <| .next (.plain _) <|
    .next (.plain _) <| .next (.plain _) .nil

theorem varies_duration (d : Duration) :
    Varies durationSchema (duration.encode d) (duration.encode d) :=
  .self <| .next (.plain _) <| .next (.plain _) .nil

theorem varies_of_bytes (bs : List UInt8) (v : Json) (h : some (bytes.encode bs) = some v) :
    Varies (.list .plain) v v :=
  Option.some.inj h ▸ varies_bytes bs

theorem varies_of_bytes? (o : Option (List UInt8)) (v : Json) (h : o.map bytes.encode = some v) :
    Varies (.list .plain) v v := by
  obtain ⟨bs, -, rfl⟩ := Option.map_eq_some_iff.1 h
  exact varies_bytes bs

theorem varies_of_parties (ps : List NodeId) (v : Json)
    (h : some ((listOf nodeId).encode ps) = some v) : Varies (.list .plain) v v :=
  Option.some.inj h ▸ varies_parties ps

theorem varies_notice (n : Notice) : Varies noticeSchema (notice.encode n) (notice.encode n) := by
  have members := VariesMembers.slots (noticeSlots n) (by
    simp only [noticeSlots, List.forall_mem_cons]
    exact ⟨fun v _ => .plain v, varies_of_parties _, fun v _ => .plain v, fun v _ => .plain v,
      fun v _ => .plain v, varies_of_bytes? _, varies_of_bytes? _, nofun⟩)
  rw [encode_notice]
  exact .self members

theorem varies_ack (a : Ack) : Varies ackSchema (ack.encode a) (ack.encode a) := by
  have members := VariesMembers.slots (ackSlots a) (by
    simp only [ackSlots, List.forall_mem_cons]
    exact ⟨fun v _ => .plain v, fun v _ => .plain v, fun v _ => .plain v, nofun⟩)
  rw [encode_ack]
  exact .self members

theorem varies_signResponse (s : Api.SignResponse) :
    Varies signResponseSchema (signResponse.encode s) (signResponse.encode s) := by
  have members := VariesMembers.slots (signResponseSlots s) (by
    simp only [signResponseSlots, List.forall_mem_cons]
    exact ⟨fun v _ => .plain v, varies_of_parties _, fun v _ => .plain v, fun v _ => .plain v,
      nofun⟩)
  rw [encode_signResponse]
  exact .self members

theorem varies_result (r : CeremonyResult) :
    Varies (resultSchema r) (ceremonyResult.encode r) (ceremonyResult.encode r) := by
  cases r with
  | keygen shareData publicAddress =>
      exact .self <| .next (.plain _) <| .next (.plain _) <| .next (.plain _) .nil
  | signature bs recoveryId =>
      have members := VariesMembers.slots (signatureResultSlots bs recoveryId) (by
        simp only [signatureResultSlots, List.forall_mem_cons]
        exact ⟨varies_of_bytes _, fun v _ => .plain v, nofun⟩)
      rw [encode_signatureResult]
      exact .self <| .next (.plain _) members

namespace Message

theorem varies_self (m : Message) (a : m.form.Value) :
    Varies (m.form.schema a) (m.form.codec.encode a) (m.form.codec.encode a) := by
  cases m with
  | notice => exact varies_notice a
  | ack => exact varies_ack a
  | result => exact varies_result a
  | node => exact varies_node a
  | record => exact varies_sessionRecord a
  | config =>
      exact .self <| .next (.plain _) <| .next (varies_duration _) <| .next (varies_duration _) <|
        .next (varies_duration _) <| .next (varies_duration _) <| .next (.plain _) <|
        .next (varies_duration _) <| .next (varies_duration _) .nil
  | wallet =>
      exact .self <| .next (.plain _) <| .next (varies_parties _) <| .next (.plain _) <|
        .next (.plain _) .nil
  | signature =>
      exact .self <| .next (.plain _) <| .next (varies_parties _) <| .next (varies_bytes _) <|
        .next (.plain _) .nil
  | nodeHealth =>
      exact .self <| .next (.plain _) <| .next (.plain _) <| .next (.plain _) <|
        .next (.plain _) <| .next (.plain _) <| .next (.plain _) .nil
  | errorBody => exact .self <| .next (.plain _) <| .next (.plain _) .nil
  | usage =>
      exact .self <| .next (.plain _) <| .next (.plain _) <| .next (.plain _) <| .next (.plain _) .nil
  | register => exact .self <| .next (.plain _) <| .next (.plain _) .nil
  | heartbeat => exact .self <| .next (.plain _) <| .next (.plain _) .nil
  | nodeList =>
      exact .self <| .next (varies_listOf varies_node _) <| .next (.plain _) <|
        .next (.plain _) .nil
  | walletRequest => exact .self <| .next (.plain _) <| .next (.plain _) <| .next (.plain _) .nil
  | signRequest =>
      exact .self <| .next (.plain _) <| .next (.plain _) <| .next (.plain _) <| .next (.plain _) .nil
  | signResponse => exact varies_signResponse a
  | sessionList =>
      exact .self <| .next (varies_listOf varies_sessionRecord _) <| .next (.plain _) .nil
  | health => exact .self <| .next (.plain _) <| .next (.plain _) <| .next (.plain _) .nil

end Message

end Wire

namespace Codec

open Json

variable {α β : Type} {c : Codec α}

def Clear (c : Codec α) : Prop := ∀ a, Legible (c.encode a)

theorem clear_text : text.Clear := fun _ => trivial

theorem clear_bool : bool.Clear := fun _ => trivial

theorem clear_uint64 : uint64.Clear := fun n => legible_natural n

theorem clear_uint32 : uint32.Clear := fun n => legible_natural (UInt64.ofNat n.toNat)

theorem clear_uint8 : uint8.Clear := fun n => legible_natural (UInt64.ofNat n.toNat)

theorem clear_named (name : α → String) (ofName? : String → Option α) :
    (named name ofName?).Clear := fun _ => trivial

theorem clear_ofText (write : α → String) (read? : String → Option α) :
    (ofText write read?).Clear := fun _ => trivial

theorem Clear.map (h : c.Clear) (f : α → β) (g : β → α) : (c.map f g).Clear := fun b => h (g b)

theorem Clear.option (h : c.Clear) : c.option.Clear
  | none => trivial
  | some a => h a

theorem Clear.listOf (h : c.Clear) : c.listOf.Clear := fun l =>
  legibleAll_of_forall fun j hj => by
    obtain ⟨a, -, rfl⟩ := List.mem_map.1 hj
    exact h a

theorem Clear.present (h : c.Clear) (name : String) (o : Option α) :
    LegibleMembers (c.present name o) := by
  cases o with
  | none => trivial
  | some a => exact .cons (h a) .nil

end Codec

namespace Wire

open Codec Json

theorem clear_nodeId : nodeId.Clear := clear_uint64.map _ _

theorem clear_sessionId : sessionId.Clear := clear_text.map _ _

theorem clear_timestamp : timestamp.Clear := clear_ofText _ _

theorem clear_parties : (listOf nodeId).Clear := clear_nodeId.listOf

theorem clear_bytes : bytes.Clear := clear_uint8.listOf

theorem legible_load {x : Load} (readable : ReadableLoad x) : Legible (binary64.encode x) := by
  show Legible (if x.isFinite then Json.number (.real x) else .null)
  rw [if_pos readable.finite]
  exact readable.legible

theorem legible_node {n : Node} (readable : ReadableNode n) : Legible (node.encode n) :=
  .object <| .cons (clear_nodeId _) <| .cons (clear_text _) <| .cons (legible_load readable.load) <|
    .cons (clear_named _ _ _) <| .cons (clear_timestamp _) <| .cons (clear_uint32 _) .nil

theorem clear_sessionRecord : sessionRecord.Clear := fun _ =>
  .object <| .cons (clear_sessionId _) <| .cons (clear_named _ _ _) <| .cons (clear_uint32 _) <|
    .cons (clear_uint32 _) <| .cons (clear_parties _) <| .cons (clear_named _ _ _) <|
    .cons (clear_text.option _) <| .cons (clear_timestamp _) <| .cons (clear_timestamp.option _) <|
    .cons (clear_timestamp.option _) .nil

theorem clear_duration : duration.Clear := fun _ =>
  .object <| .cons (clear_uint64 _) <| .cons (clear_uint32 _) .nil

theorem clear_result : ceremonyResult.Clear
  | .keygen _ _ => .object <| .cons (clear_ofText _ _ _) <| .cons (clear_text _) <|
      .cons (clear_text _) .nil
  | .signature _ _ => .object <| .append (.cons (clear_ofText _ _ _) <| .cons (clear_bytes _) .nil)
      (clear_uint8.present _ _)

namespace Message

theorem legible_encode (m : Message) {a : m.form.Value} (readable : m.form.Readable a) :
    Legible (m.form.codec.encode a) := by
  cases m with
  | notice =>
      exact .object <| .append (.append (.append (.cons (clear_sessionId _) <|
        .cons (clear_parties _) <| .cons (clear_uint32 _) <| .cons (clear_named _ _ _) .nil)
        (clear_text.present _ _)) (clear_bytes.present _ _)) (clear_bytes.present _ _)
  | ack =>
      exact .object <| .append (.cons (clear_sessionId _) <| .cons (clear_bool _) .nil)
        (clear_text.present _ _)
  | result => exact clear_result a
  | node => exact legible_node readable
  | record => exact clear_sessionRecord a
  | config =>
      exact .object <| .cons (clear_named _ _ _) <| .cons (clear_duration _) <|
        .cons (clear_duration _) <| .cons (clear_duration _) <| .cons (clear_duration _) <|
        .cons (clear_uint32 _) <| .cons (clear_duration _) <| .cons (clear_duration _) .nil
  | wallet =>
      exact .object <| .cons (clear_sessionId _) <| .cons (clear_parties _) <|
        .cons (clear_text _) <| .cons (clear_text _) .nil
  | signature =>
      exact .object <| .cons (clear_sessionId _) <| .cons (clear_parties _) <|
        .cons (clear_bytes _) <| .cons (clear_uint8.option _) .nil
  | nodeHealth =>
      exact .object <| .cons (clear_nodeId _) <| .cons (clear_text _) <| .cons (clear_bool _) <|
        .cons (clear_uint64.option _) <| .cons (clear_timestamp _) <| .cons (clear_uint32 _) .nil
  | errorBody => exact .object <| .cons (clear_text _) <| .cons (clear_text _) .nil
  | usage =>
      exact .object <| .cons (clear_ofText _ _ _) <| .cons (clear_uint64 _) <|
        .cons (clear_uint64 _) <| .cons (clear_uint64 _) .nil
  | register => exact .object <| .cons (clear_uint64 _) <| .cons (clear_text _) .nil
  | heartbeat => exact .object <| .cons (legible_load readable) <| .cons (clear_named _ _ _) .nil
  | nodeList =>
      refine .object <| .cons (legibleAll_of_forall fun j hj => ?_) <| .cons (clear_uint64 _) <|
        .cons (clear_uint64 _) .nil
      obtain ⟨n, hn, rfl⟩ := List.mem_map.1 hj
      exact legible_node (readable n hn)
  | walletRequest =>
      exact .object <| .cons (clear_text _) <| .cons (clear_uint32.option _) <|
        .cons (clear_uint32.option _) .nil
  | signRequest =>
      exact .object <| .cons (clear_text _) <| .cons (clear_text _) <|
        .cons (clear_uint32.option _) <| .cons (clear_uint32.option _) .nil
  | signResponse =>
      exact .object <| .append (.cons (clear_sessionId _) <| .cons (clear_parties _) <|
        .cons (clear_text _) .nil) (clear_uint8.present _ _)
  | sessionList =>
      exact .object <| .cons (clear_sessionRecord.listOf _) <| .cons (clear_uint64 _) .nil
  | health =>
      exact .object <| .cons (clear_text _) <| .cons (clear_uint64 _) <| .cons (clear_uint64 _) .nil

theorem comes_back (m : Message) (a : m.form.Value) (readable : m.form.Readable a) :
    m.form.codec.decode (Json.ofText (Json.write (m.form.codec.encode a))) = .ok a ∧
      ∀ j, Varies (m.form.schema a) (m.form.codec.encode a) j →
        m.form.codec.decode j = .ok a ∧
          (Legible j → m.form.codec.decode (Json.ofText (Json.write j)) = .ok a) := by
  have read := fun j varies => m.read_of_varies (j := j) readable varies
  refine ⟨?_, fun j varies => ⟨read j varies, fun legible => ?_⟩⟩
  · rw [ofText_write _ (m.legible_encode readable)]
    exact read _ (m.varies_self a)
  · rw [ofText_write j legible]
    exact read j varies

theorem legible_half : (Numeral.real ⟨0x3FE0000000000000⟩).Legible := by
  have text : (Numeral.real ⟨0x3FE0000000000000⟩).text = "0.5" := by decide +kernel
  have half : Binary64.ofDecimal? false 5 (-1) = some ⟨0x3FE0000000000000⟩ := by
    rw [Binary64.ofDecimal?, Binary64.scaleByTen?]
    decide +kernel
  have literal : readLiteral? "0.5".toList = some (⟨[0], some [5], none⟩, []) := rfl
  have numeral : Literal.numeral? ⟨[0], some [5], none⟩ false =
      some (.real ⟨0x3FE0000000000000⟩) := by
    show (Binary64.ofDecimal? false 5 (-1)).map Numeral.real = _
    rw [half]
    rfl
  rw [Numeral.Legible, text]
  show readNumber false "0.5".toList = _
  rw [readNumber, literal]
  simp only [numeral]

theorem comes_back_turned :
    let n : Node := ⟨⟨3⟩, "http://n", ⟨0x3FE0000000000000⟩, .online, ⟨1700000000, 250000000⟩, 2⟩
    let members : List (String × Json) := [("id", .natural 3), ("address", .string "http://n"),
      ("load", .number (.real ⟨0x3FE0000000000000⟩)), ("status", .string "online"),
      ("last_seen", .string "2023-11-14T22:13:20.250Z"), ("active_tasks", .natural 2)]
    let turned : Json := .object (members ++ [("zone", Json.array [.null])]).reverse
    ReadableNode n ∧ Wire.node.encode n = .object members ∧
      Varies nodeSchema (Wire.node.encode n) turned ∧ Legible turned ∧
      Wire.node.decode (Json.ofText (Json.write turned)) = .ok n := by
  intro n members turned
  have seen : Timestamp.ofText? n.lastSeen.text = some n.lastSeen := by decide +kernel
  have readable : ReadableNode n := ⟨⟨by decide +kernel, legible_half⟩, seen⟩
  have written : Wire.node.encode n = .object members := by
    have time : timestamp.encode n.lastSeen = .string "2023-11-14T22:13:20.250Z" :=
      congrArg Json.string (by decide +kernel)
    have load : binary64.encode n.load = .number (.real ⟨0x3FE0000000000000⟩) := by
      show (if n.load.isFinite then Json.number (.real n.load) else .null) = _
      rw [if_pos readable.load.finite]
    simp only [Wire.node, time, load]
    rfl
  have varies : Varies nodeSchema (Wire.node.encode n) turned := by
    rw [written]
    have admitted : ∀ m ∈ [("zone", Json.array [.null])],
        m.1 ∉ ["id", "address", "load", "status", "last_seen", "active_tasks"] ∧
          (passOver m.2).isOk = true := by
      rintro m hm
      obtain rfl := List.mem_singleton.1 hm
      exact ⟨by decide, rfl⟩
    exact .record (.next (.plain _) <| .next (.plain _) <| .next (.plain _) <|
      .next (.plain _) <| .next (.plain _) <| .next (.plain _) .nil) admitted (List.reverse_perm _)
  have legible : Legible turned :=
    .object <| .cons ⟨trivial, trivial⟩ <| .cons (legible_natural _) <| .cons trivial <|
      .cons trivial <| .cons legible_half <| .cons trivial <| .cons (legible_natural _) .nil
  exact ⟨readable, written, varies, legible,
    ((comes_back .node n readable).2 turned varies).2 legible⟩

end Message

def nested : Nat → Json
  | 0 => .null
  | n + 1 => .array [nested n]

theorem soundTo_nested (depth n : Nat) : (nested n).soundTo depth = decide (n ≤ depth) := by
  induction n generalizing depth with
  | zero => cases depth <;> rfl
  | succ n ih =>
      cases depth with
      | zero => rfl
      | succ depth => simp [nested, soundTo, soundAll, ih]

theorem legible_nested (n : Nat) : Legible (nested n) := by
  induction n with
  | zero => trivial
  | succ n ih => exact ⟨ih, trivial⟩

theorem deep_member_refused :
    let members := [("kind", .string "keygen"), ("share_data", .string "s"),
      ("public_address", .string "a")]
    ceremonyResult.encode (.keygen "s" "a") = .object members ∧
      "extra" ∉ members.map Prod.fst ∧ Legible (nested 127) ∧
      ceremonyResult.decode (Json.ofText (Json.write
        (.object (members ++ [("extra", nested 127)])))) = .error .malformed := by
  intro members
  have legible : Legible (.object (members ++ [("extra", nested 127)])) :=
    .object <| .cons trivial <| .cons trivial <| .cons trivial <| .cons (legible_nested 127) .nil
  refine ⟨rfl, by decide, legible_nested 127, ?_⟩
  rw [ofText_write _ legible]
  have refused : keep (nested 127) = .error .malformed := by
    rw [keep, soundTo_nested]
    rfl
  generalize nested 127 = deep at refused
  have parted : partTag "kind" none (members ++ [("extra", deep)]) = .error .malformed := by
    have text : ∀ s, keep (.string s) = .ok () := fun _ => rfl
    have kind : resultKind.decode (.string "keygen") = .ok .keygen := rfl
    simp [members, partTag, text, kind, refused, bind, Except.bind]
  simp only [ceremonyResult, parted]
  rfl

end Wire

end Conclave

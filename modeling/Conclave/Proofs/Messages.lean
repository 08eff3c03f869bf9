import Conclave.Proofs.Fidelity
import Conclave.Proofs.Rereading
import Conclave.Wire.Api
import Conclave.Wire.Health

namespace Conclave

def Timestamp.Readable (t : Timestamp) : Prop := ofText? t.text = some t

namespace Wire

open Codec Json

theorem faithful_nodeId : nodeId.Faithful .plain fun _ => True := faithful_uint64.map fun _ => rfl

theorem faithful_sessionId : sessionId.Faithful .plain fun _ => True :=
  faithful_text.map fun _ => rfl

theorem faithful_nodeStatus : nodeStatus.Faithful .plain fun _ => True :=
  faithful_named fun s => by cases s <;> rfl

theorem faithful_action : action.Faithful .plain fun _ => True :=
  faithful_named fun a => by cases a <;> rfl

theorem faithful_policy : policy.Faithful .plain fun _ => True :=
  faithful_named fun p => by cases p <;> rfl

theorem faithful_sessionState : sessionState.Faithful .plain fun _ => True :=
  faithful_named fun s => by cases s <;> rfl

theorem faithful_timestamp : timestamp.Faithful .plain Timestamp.Readable := faithful_ofText

theorem faithful_uuid : uuid.Faithful .plain fun _ => True :=
  faithful_ofText.mono fun u _ => u.ofText_text

theorem faithful_parties : (listOf nodeId).Faithful (.list .plain) fun _ => True :=
  faithful_nodeId.listOf.mono fun _ _ _ _ => trivial

theorem faithful_text_option : text.option.Faithful .plain fun _ => True :=
  (faithful_text.option solid_text).mono fun _ _ _ _ => trivial

theorem faithful_bytes_option : bytes.option.Faithful (.list .plain) fun _ => True :=
  (faithful_bytes.option (solid_listOf uint8)).mono fun _ _ _ _ => trivial

theorem faithful_uint8_option : uint8.option.Faithful .plain fun _ => True :=
  (faithful_uint8.option solid_uint8).mono fun _ _ _ _ => trivial

theorem faithful_uint32_option : uint32.option.Faithful .plain fun _ => True :=
  (faithful_uint32.option solid_uint32).mono fun _ _ _ _ => trivial

theorem faithful_uint64_option : uint64.option.Faithful .plain fun _ => True :=
  (faithful_uint64.option solid_uint64).mono fun _ _ _ _ => trivial

theorem faithful_timestamp_option :
    timestamp.option.Faithful .plain fun o => ∀ t ∈ o, t.Readable :=
  faithful_timestamp.option (solid_ofText _ _)

def nodeSchema : Schema := .object [("id", .plain), ("address", .plain), ("load", .plain),
  ("status", .plain), ("last_seen", .plain), ("active_tasks", .plain)]

structure ReadableLoad (x : Load) : Prop where
  finite : x.isFinite = true
  legible : (Numeral.real x).Legible

theorem faithful_load : binary64.Faithful .plain ReadableLoad :=
  faithful_binary64.mono fun _ readable => readable.finite

structure ReadableNode (n : Node) : Prop where
  load : ReadableLoad n.load
  seen : n.lastSeen.Readable

theorem faithful_node : node.Faithful nodeSchema ReadableNode := by
  rintro n ⟨load, readable⟩ j varies
  obtain ⟨found, read, id, address, load, status, seen, tasks, -⟩ :=
    Varies.read [
      faithful_nodeId.slot false "id" trivial, faithful_text.slot false "address" trivial,
      faithful_load.slot false "load" load, faithful_nodeStatus.slot false "status" trivial,
      faithful_timestamp.slot false "last_seen" readable,
      faithful_uint32.slot false "active_tasks" trivial] varies rfl (by decide)
  exact bind_of_ok read <| bind_of_ok (Faithful.required id) <|
    bind_of_ok (Faithful.required address) <| bind_of_ok (Faithful.required load) <|
    bind_of_ok (Faithful.required status) <| bind_of_ok (Faithful.required seen) <|
    bind_of_ok (Faithful.required tasks) rfl

def nodeListSchema : Schema := .object [("nodes", .list nodeSchema), ("total", .plain),
  ("online", .plain)]

theorem faithful_nodeList :
    nodeList.Faithful nodeListSchema fun l => ∀ n ∈ l.nodes, ReadableNode n := by
  rintro l readable j varies
  obtain ⟨found, read, nodes, total, online, -⟩ :=
    Varies.read [
      faithful_node.listOf.slot false "nodes" readable, faithful_uint64.slot false "total" trivial,
      faithful_uint64.slot false "online" trivial] varies rfl (by decide)
  exact bind_of_ok read <| bind_of_ok (Faithful.required nodes) <|
    bind_of_ok (Faithful.required total) <| bind_of_ok (Faithful.required online) rfl

def walletSchema : Schema := .object [("session_id", .plain), ("parties", .list .plain),
  ("share_data", .plain), ("public_address", .plain)]

theorem faithful_wallet : wallet.Faithful walletSchema fun _ => True := by
  rintro w - j varies
  obtain ⟨found, read, session, parties, share, address, -⟩ :=
    Varies.read [
      faithful_sessionId.slot false "session_id" trivial,
      faithful_parties.slot false "parties" trivial, faithful_text.slot false "share_data" trivial,
      faithful_text.slot false "public_address" trivial] varies rfl (by decide)
  exact bind_of_ok read <| bind_of_ok (Faithful.required session) <|
    bind_of_ok (Faithful.required parties) <| bind_of_ok (Faithful.required share) <|
    bind_of_ok (Faithful.required address) rfl

def signatureSchema : Schema := .object [("session_id", .plain), ("parties", .list .plain),
  ("signature", .list .plain), ("recovery_id", .plain)]

theorem faithful_signature : signature.Faithful signatureSchema fun _ => True := by
  rintro s - j varies
  obtain ⟨found, read, session, parties, bytes, recovery, -⟩ :=
    Varies.read [
      faithful_sessionId.slot false "session_id" trivial,
      faithful_parties.slot false "parties" trivial, faithful_bytes.slot false "signature" trivial,
      faithful_uint8_option.slot false "recovery_id" trivial] varies rfl (by decide)
  exact bind_of_ok read <| bind_of_ok (Faithful.required session) <|
    bind_of_ok (Faithful.required parties) <| bind_of_ok (Faithful.required bytes) <|
    bind_of_ok (Faithful.optional recovery) rfl

structure ReadableRecord (r : Session.Record) : Prop where
  started : r.startedAt.Readable
  dispatched : ∀ t ∈ r.dispatchedAt, t.Readable
  finished : ∀ t ∈ r.finishedAt, t.Readable

def recordSchema : Schema := .object [("session_id", .plain), ("action", .plain),
  ("total_nodes", .plain), ("threshold", .plain), ("parties", .list .plain), ("state", .plain),
  ("error", .plain), ("started_at", .plain), ("dispatched_at", .plain), ("finished_at", .plain)]

theorem faithful_sessionRecord : sessionRecord.Faithful recordSchema ReadableRecord := by
  rintro r ⟨started, dispatched, finished⟩ j varies
  obtain ⟨found, read, session, action, total, threshold, parties, state, error, start, dispatch,
    finish, -⟩ :=
    Varies.read [
      faithful_sessionId.slot false "session_id" trivial,
      faithful_action.slot false "action" trivial, faithful_uint32.slot false "total_nodes" trivial,
      faithful_uint32.slot false "threshold" trivial, faithful_parties.slot false "parties" trivial,
      faithful_sessionState.slot false "state" trivial,
      faithful_text_option.slot false "error" trivial,
      faithful_timestamp.slot false "started_at" started,
      faithful_timestamp_option.slot false "dispatched_at" dispatched,
      faithful_timestamp_option.slot false "finished_at" finished] varies rfl (by decide)
  exact bind_of_ok read <| bind_of_ok (Faithful.required session) <|
    bind_of_ok (Faithful.required action) <| bind_of_ok (Faithful.required total) <|
    bind_of_ok (Faithful.required threshold) <| bind_of_ok (Faithful.required parties) <|
    bind_of_ok (Faithful.required state) <| bind_of_ok (Faithful.optional error) <|
    bind_of_ok (Faithful.required start) <| bind_of_ok (Faithful.optional dispatch) <|
    bind_of_ok (Faithful.optional finish) rfl

def recordListSchema : Schema := .object [("sessions", .list recordSchema), ("active", .plain)]

theorem faithful_sessionList :
    sessionList.Faithful recordListSchema fun l => ∀ r ∈ l.sessions, ReadableRecord r := by
  rintro l readable j varies
  obtain ⟨found, read, sessions, active, -⟩ :=
    Varies.read [
      faithful_sessionRecord.listOf.slot false "sessions" readable,
      faithful_uint64.slot false "active" trivial] varies rfl (by decide)
  exact bind_of_ok read <| bind_of_ok (Faithful.required sessions) <|
    bind_of_ok (Faithful.required active) rfl

def nodeHealthSchema : Schema := .object [("node_id", .plain), ("endpoint", .plain),
  ("is_healthy", .plain), ("latency_ms", .plain), ("last_check", .plain),
  ("consecutive_failures", .plain)]

theorem faithful_nodeHealth :
    nodeHealth.Faithful nodeHealthSchema fun h => h.lastCheck.Readable := by
  rintro h readable j varies
  obtain ⟨found, read, node, endpoint, healthy, latency, check, failures, -⟩ :=
    Varies.read [
      faithful_nodeId.slot false "node_id" trivial, faithful_text.slot false "endpoint" trivial,
      faithful_bool.slot false "is_healthy" trivial,
      faithful_uint64_option.slot false "latency_ms" trivial,
      faithful_timestamp.slot false "last_check" readable,
      faithful_uint32.slot false "consecutive_failures" trivial] varies rfl (by decide)
  exact bind_of_ok read <| bind_of_ok (Faithful.required node) <|
    bind_of_ok (Faithful.required endpoint) <| bind_of_ok (Faithful.required healthy) <|
    bind_of_ok (Faithful.optional latency) <| bind_of_ok (Faithful.required check) <|
    bind_of_ok (Faithful.required failures) rfl

def errorSchema : Schema := .object [("error", .plain), ("error_code", .plain)]

theorem faithful_errorBody : errorBody.Faithful errorSchema fun _ => True := by
  rintro b - j varies
  obtain ⟨found, read, error, code, -⟩ :=
    Varies.read [
      faithful_text.slot false "error" trivial,
      faithful_text.slot false "error_code" trivial] varies rfl (by decide)
  exact bind_of_ok read <| bind_of_ok (Faithful.required error) <|
    bind_of_ok (Faithful.required code) rfl

def registerSchema : Schema := .object [("id", .plain), ("address", .plain)]

theorem faithful_registerRequest : registerRequest.Faithful registerSchema fun _ => True := by
  rintro r - j varies
  obtain ⟨found, read, id, address, -⟩ :=
    Varies.read [
      faithful_uint64.slot false "id" trivial,
      faithful_text.slot false "address" trivial] varies rfl (by decide)
  exact bind_of_ok read <| bind_of_ok (Faithful.required id) <|
    bind_of_ok (Faithful.required address) rfl

def heartbeatSchema : Schema := .object [("load", .plain), ("status", .plain)]

theorem faithful_heartbeatRequest :
    heartbeatRequest.Faithful heartbeatSchema fun r => ReadableLoad r.load := by
  rintro r load j varies
  obtain ⟨found, read, load, status, -⟩ :=
    Varies.read [
      faithful_load.slot false "load" load,
      faithful_nodeStatus.slot true "status" trivial] varies rfl (by decide)
  exact bind_of_ok read <| bind_of_ok (Faithful.required load) <|
    bind_of_ok (Faithful.withDefault status .online) rfl

def walletRequestSchema : Schema := .object [("identity", .plain), ("total_nodes", .plain),
  ("threshold", .plain)]

theorem faithful_walletRequest : walletRequest.Faithful walletRequestSchema fun _ => True := by
  rintro r - j varies
  obtain ⟨found, read, identity, total, threshold, -⟩ :=
    Varies.read [
      faithful_text.slot false "identity" trivial,
      faithful_uint32_option.slot true "total_nodes" trivial,
      faithful_uint32_option.slot true "threshold" trivial] varies rfl (by decide)
  exact bind_of_ok read <| bind_of_ok (Faithful.required identity) <|
    bind_of_ok (Faithful.optional total) <| bind_of_ok (Faithful.optional threshold) rfl

def signRequestSchema : Schema := .object [("message_hash", .plain), ("share_data", .plain),
  ("total_nodes", .plain), ("threshold", .plain)]

theorem faithful_signRequest : signRequest.Faithful signRequestSchema fun _ => True := by
  rintro r - j varies
  obtain ⟨found, read, hash, share, total, threshold, -⟩ :=
    Varies.read [
      faithful_text.slot false "message_hash" trivial,
      faithful_text.slot false "share_data" trivial,
      faithful_uint32_option.slot true "total_nodes" trivial,
      faithful_uint32_option.slot true "threshold" trivial] varies rfl (by decide)
  exact bind_of_ok read <| bind_of_ok (Faithful.required hash) <|
    bind_of_ok (Faithful.required share) <| bind_of_ok (Faithful.optional total) <|
    bind_of_ok (Faithful.optional threshold) rfl

def healthReportSchema : Schema := .object [("status", .plain), ("online_nodes", .plain),
  ("active_sessions", .plain)]

theorem faithful_healthReport : healthReport.Faithful healthReportSchema fun _ => True := by
  rintro r - j varies
  obtain ⟨found, read, status, online, active, -⟩ :=
    Varies.read [
      faithful_text.slot false "status" trivial, faithful_uint64.slot false "online_nodes" trivial,
      faithful_uint64.slot false "active_sessions" trivial] varies rfl (by decide)
  exact bind_of_ok read <| bind_of_ok (Faithful.required status) <|
    bind_of_ok (Faithful.required online) <| bind_of_ok (Faithful.required active) rfl

def noticeSchema : Schema := .object [("session_id", .plain), ("parties", .list .plain),
  ("threshold", .plain), ("action", .plain), ("identity", .plain), ("msg_hash", .list .plain),
  ("share_data", .list .plain)]

def noticeSlots (n : Notice) : List Slot := [
  faithful_sessionId.slot false "session_id" (a := n.session) trivial,
  faithful_parties.slot false "parties" (a := n.parties) trivial,
  faithful_uint32.slot false "threshold" (a := n.threshold) trivial,
  faithful_action.slot false "action" (a := n.action) trivial,
  faithful_text_option.slot? true "identity" (o := n.identity) trivial,
  faithful_bytes_option.slot? true "msg_hash" (o := n.messageHash) trivial,
  faithful_bytes_option.slot? true "share_data" (o := n.shareData) trivial]

theorem encode_notice (n : Notice) :
    notice.encode n = .object ((noticeSlots n).flatMap Slot.members) := by
  obtain ⟨session, parties, threshold, action, identity, messageHash, shareData⟩ := n
  cases identity <;> cases messageHash <;> cases shareData <;> rfl

theorem faithful_notice : notice.Faithful noticeSchema fun _ => True := by
  rintro n - j varies
  rw [encode_notice] at varies
  obtain ⟨found, read, session, parties, threshold, action, identity, hash, share, -⟩ :=
    Varies.read (noticeSlots n) varies rfl (by decide)
  exact bind_of_ok read <| bind_of_ok (Faithful.required session) <|
    bind_of_ok (Faithful.required parties) <| bind_of_ok (Faithful.required threshold) <|
    bind_of_ok (Faithful.required action) <| bind_of_ok (Faithful.optional? identity) <|
    bind_of_ok (Faithful.optional? hash) <| bind_of_ok (Faithful.optional? share) rfl

def ackSchema : Schema := .object [("session_id", .plain), ("accepted", .plain),
  ("message", .plain)]

def ackSlots (a : Ack) : List Slot := [
  faithful_sessionId.slot false "session_id" (a := a.session) trivial,
  faithful_bool.slot false "accepted" (a := a.accepted) trivial,
  faithful_text_option.slot? true "message" (o := a.message) trivial]

theorem encode_ack (a : Ack) : ack.encode a = .object ((ackSlots a).flatMap Slot.members) := by
  obtain ⟨session, accepted, message⟩ := a
  cases message <;> rfl

theorem faithful_ack : ack.Faithful ackSchema fun _ => True := by
  rintro a - j varies
  rw [encode_ack] at varies
  obtain ⟨found, read, session, accepted, message, -⟩ :=
    Varies.read (ackSlots a) varies rfl (by decide)
  exact bind_of_ok read <| bind_of_ok (Faithful.required session) <|
    bind_of_ok (Faithful.required accepted) <| bind_of_ok (Faithful.optional? message) rfl

def signResponseSchema : Schema := .object [("session_id", .plain), ("parties", .list .plain),
  ("signature", .plain), ("recovery_id", .plain)]

def signResponseSlots (s : Api.SignResponse) : List Slot := [
  faithful_sessionId.slot false "session_id" (a := s.session) trivial,
  faithful_parties.slot false "parties" (a := s.parties) trivial,
  faithful_text.slot false "signature" (a := s.signature) trivial,
  faithful_uint8_option.slot? false "recovery_id" (o := s.recoveryId) trivial]

theorem encode_signResponse (s : Api.SignResponse) :
    signResponse.encode s = .object ((signResponseSlots s).flatMap Slot.members) := by
  obtain ⟨session, parties, signature, recoveryId⟩ := s
  cases recoveryId <;> rfl

theorem faithful_signResponse : signResponse.Faithful signResponseSchema fun _ => True := by
  rintro s - j varies
  rw [encode_signResponse] at varies
  obtain ⟨found, read, session, parties, signature, recovery, -⟩ :=
    Varies.read (signResponseSlots s) varies rfl (by decide)
  exact bind_of_ok read <| bind_of_ok (Faithful.required session) <|
    bind_of_ok (Faithful.required parties) <| bind_of_ok (Faithful.required signature) <|
    bind_of_ok (Faithful.optional? recovery) rfl

def durationSchema : Schema := .record (fun _ => false) [("secs", .plain), ("nanos", .plain)]

theorem ofParts_parts (d : Duration) : Duration.ofParts? d.seconds d.nanos = some d := by
  have fits := d.fits
  have seconds : d.seconds.toNat = d.nanoseconds / 1000000000 := by
    rw [Duration.seconds, UInt64.toNat_ofNat', Nat.mod_eq_of_lt (by omega)]
  have nanos : d.nanos.toNat = d.nanoseconds % 1000000000 := by
    rw [Duration.nanos, UInt32.toNat_ofNat', Nat.mod_eq_of_lt (by omega)]
  have whole : d.seconds.toNat * 1000000000 + d.nanos.toNat = d.nanoseconds := by
    rw [seconds, nanos]
    omega
  simp only [Duration.ofParts?, whole, fits, dite_true]

theorem faithful_duration : duration.Faithful durationSchema fun _ => True := by
  rintro d - j varies
  cases varies with
  | record known unknown order =>
      obtain ⟨found, read, seconds, nanos, -⟩ := fromMembers_read [
          faithful_uint64.slot false "secs" trivial, faithful_uint32.slot false "nanos" trivial]
        .refused known rfl (by decide) (fun m hm => nomatch (unknown m hm).2) order
      refine bind_of_ok read <| bind_of_ok (Faithful.required seconds) <|
        bind_of_ok (Faithful.required nanos) ?_
      simp only [ofParts_parts]
      rfl

def configSchema : Schema := .object [("selection_policy", .plain),
  ("dispatch_timeout", durationSchema), ("result_timeout", durationSchema),
  ("health_check_interval", durationSchema), ("health_check_timeout", durationSchema),
  ("max_consecutive_failures", .plain), ("session_retention", durationSchema),
  ("reaper_interval", durationSchema)]

theorem faithful_config : config.Faithful configSchema fun _ => True := by
  rintro c - j varies
  obtain ⟨found, read, policy, dispatch, result, interval, timeout, failures, retention,
    reaper, -⟩ :=
    Varies.read [
      faithful_policy.slot false "selection_policy" trivial,
      faithful_duration.slot false "dispatch_timeout" trivial,
      faithful_duration.slot false "result_timeout" trivial,
      faithful_duration.slot false "health_check_interval" trivial,
      faithful_duration.slot false "health_check_timeout" trivial,
      faithful_uint32.slot false "max_consecutive_failures" trivial,
      faithful_duration.slot false "session_retention" trivial,
      faithful_duration.slot false "reaper_interval" trivial] varies rfl (by decide)
  exact bind_of_ok read <| bind_of_ok (Faithful.required policy) <|
    bind_of_ok (Faithful.required dispatch) <| bind_of_ok (Faithful.required result) <|
    bind_of_ok (Faithful.required interval) <| bind_of_ok (Faithful.required timeout) <|
    bind_of_ok (Faithful.required failures) <| bind_of_ok (Faithful.required retention) <|
    bind_of_ok (Faithful.required reaper) rfl

end Wire

end Conclave

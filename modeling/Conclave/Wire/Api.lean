import Conclave.Api.Context
import Conclave.Client
import Conclave.Usage
import Conclave.Wire.Session

namespace Conclave.Api

structure RegisterRequest where
  id : UInt64
  address : String
  deriving DecidableEq, Repr

structure HeartbeatRequest where
  load : Load
  status : NodeStatus
  deriving DecidableEq, Repr

structure NodeList where
  nodes : List Node
  total : UInt64
  online : UInt64
  deriving DecidableEq, Repr

structure WalletRequest where
  identity : String
  totalNodes : Option UInt32
  threshold : Option UInt32
  deriving DecidableEq, Repr

structure SignRequest where
  messageHash : String
  shareData : String
  totalNodes : Option UInt32
  threshold : Option UInt32
  deriving DecidableEq, Repr

structure SignResponse where
  session : SessionId
  parties : List NodeId
  signature : String
  recoveryId : Option UInt8
  deriving DecidableEq, Repr

structure SessionList where
  sessions : List Session.Record
  active : UInt64
  deriving DecidableEq, Repr

structure UsageReport where
  organization : Uuid
  counts : UsageCounts
  deriving DecidableEq, Repr

structure HealthReport where
  status : String
  onlineNodes : UInt64
  activeSessions : UInt64
  deriving DecidableEq, Repr

end Conclave.Api

namespace Conclave.Wire

open Codec

def permission : Codec Api.Permission := named Api.Permission.name Api.Permission.ofName?

def registerRequest : Codec Api.RegisterRequest where
  encode r := .object [("id", uint64.encode r.id), ("address", text.encode r.address)]
  decode j := do
    let r ← j.toRecord [uint64.field "id", text.field "address"]
    return { id := ← r.required "id" uint64, address := ← r.required "address" text }

def heartbeatRequest : Codec Api.HeartbeatRequest where
  encode r := .object [("load", binary64.encode r.load), ("status", nodeStatus.encode r.status)]
  decode j := do
    let r ← j.toRecord [binary64.field "load", nodeStatus.omissible "status"]
    return {
      load := ← r.required "load" binary64
      status := ← r.withDefault "status" nodeStatus .online }

def nodeList : Codec Api.NodeList where
  encode l := .object [
    ("nodes", (listOf node).encode l.nodes),
    ("total", uint64.encode l.total),
    ("online", uint64.encode l.online)]
  decode j := do
    let r ← j.toRecord [(listOf node).field "nodes", uint64.field "total", uint64.field "online"]
    return {
      nodes := ← r.required "nodes" (listOf node)
      total := ← r.required "total" uint64
      online := ← r.required "online" uint64 }

def walletRequest : Codec Api.WalletRequest where
  encode r := .object [
    ("identity", text.encode r.identity),
    ("total_nodes", uint32.option.encode r.totalNodes),
    ("threshold", uint32.option.encode r.threshold)]
  decode j := do
    let r ← j.toRecord [text.field "identity", uint32.option.omissible "total_nodes",
      uint32.option.omissible "threshold"]
    return {
      identity := ← r.required "identity" text
      totalNodes := ← r.optional "total_nodes" uint32
      threshold := ← r.optional "threshold" uint32 }

def wallet : Codec Wallet where
  encode w := .object [
    ("session_id", sessionId.encode w.session),
    ("parties", (listOf nodeId).encode w.parties),
    ("share_data", text.encode w.shareData),
    ("public_address", text.encode w.publicAddress)]
  decode j := do
    let r ← j.toRecord [sessionId.field "session_id", (listOf nodeId).field "parties",
      text.field "share_data", text.field "public_address"]
    return {
      session := ← r.required "session_id" sessionId
      parties := ← r.required "parties" (listOf nodeId)
      shareData := ← r.required "share_data" text
      publicAddress := ← r.required "public_address" text }

def signature : Codec Signature where
  encode s := .object [
    ("session_id", sessionId.encode s.session),
    ("parties", (listOf nodeId).encode s.parties),
    ("signature", bytes.encode s.bytes),
    ("recovery_id", uint8.option.encode s.recoveryId)]
  decode j := do
    let r ← j.toRecord [sessionId.field "session_id", (listOf nodeId).field "parties",
      bytes.field "signature", uint8.option.field "recovery_id"]
    return {
      session := ← r.required "session_id" sessionId
      parties := ← r.required "parties" (listOf nodeId)
      bytes := ← r.required "signature" bytes
      recoveryId := ← r.optional "recovery_id" uint8 }

def signRequest : Codec Api.SignRequest where
  encode r := .object [
    ("message_hash", text.encode r.messageHash),
    ("share_data", text.encode r.shareData),
    ("total_nodes", uint32.option.encode r.totalNodes),
    ("threshold", uint32.option.encode r.threshold)]
  decode j := do
    let r ← j.toRecord [text.field "message_hash", text.field "share_data",
      uint32.option.omissible "total_nodes", uint32.option.omissible "threshold"]
    return {
      messageHash := ← r.required "message_hash" text
      shareData := ← r.required "share_data" text
      totalNodes := ← r.optional "total_nodes" uint32
      threshold := ← r.optional "threshold" uint32 }

def signResponse : Codec Api.SignResponse where
  encode s := .object ([
    ("session_id", sessionId.encode s.session),
    ("parties", (listOf nodeId).encode s.parties),
    ("signature", text.encode s.signature)]
    ++ uint8.present "recovery_id" s.recoveryId)
  decode j := do
    let r ← j.toRecord [sessionId.field "session_id", (listOf nodeId).field "parties",
      text.field "signature", uint8.option.field "recovery_id"]
    return {
      session := ← r.required "session_id" sessionId
      parties := ← r.required "parties" (listOf nodeId)
      signature := ← r.required "signature" text
      recoveryId := ← r.optional "recovery_id" uint8 }

def sessionList : Codec Api.SessionList where
  encode l := .object [
    ("sessions", (listOf sessionRecord).encode l.sessions),
    ("active", uint64.encode l.active)]
  decode j := do
    let r ← j.toRecord [(listOf sessionRecord).field "sessions", uint64.field "active"]
    return {
      sessions := ← r.required "sessions" (listOf sessionRecord)
      active := ← r.required "active" uint64 }

def usageCountFields : List Json.Field :=
  [uint64.field "wallets_created", uint64.field "signatures_produced",
    uint64.field "ceremonies_failed"]

def usageCountsOf (r : Json.Found) : Except Fault UsageCounts := do
  return {
    walletsCreated := ← r.required "wallets_created" uint64
    signaturesProduced := ← r.required "signatures_produced" uint64
    ceremoniesFailed := ← r.required "ceremonies_failed" uint64 }

def usageCountMembers (c : UsageCounts) : List (String × Json) :=
  [("wallets_created", uint64.encode c.walletsCreated),
    ("signatures_produced", uint64.encode c.signaturesProduced),
    ("ceremonies_failed", uint64.encode c.ceremoniesFailed)]

def usageCounts : Codec UsageCounts where
  encode c := .object (usageCountMembers c)
  decode j := do usageCountsOf (← j.toRecord usageCountFields)

def usageReport : Codec Api.UsageReport where
  encode r := .object (("organization_id", uuid.encode r.organization) :: usageCountMembers r.counts)
  decode
    | .object members => do
        let own := members.filter (·.1 = "organization_id")
        let others := members.filter (·.1 ≠ "organization_id")
        let r ← Json.fromMembers .passed [uuid.field "organization_id"] [] own
        others.forM fun m => keep m.2
        return {
          organization := ← r.required "organization_id" uuid
          counts := ← usageCountsOf (← Json.fromMembers .passed usageCountFields [] others) }
    | j => .error j.otherKind

def healthReport : Codec Api.HealthReport where
  encode r := .object [
    ("status", text.encode r.status),
    ("online_nodes", uint64.encode r.onlineNodes),
    ("active_sessions", uint64.encode r.activeSessions)]
  decode j := do
    let r ← j.toRecord [text.field "status", uint64.field "online_nodes",
      uint64.field "active_sessions"]
    return {
      status := ← r.required "status" text
      onlineNodes := ← r.required "online_nodes" uint64
      activeSessions := ← r.required "active_sessions" uint64 }

end Conclave.Wire

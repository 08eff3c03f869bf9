import Conclave.Ceremony
import Conclave.Json.Codec

namespace Conclave.Wire

open Codec

def nodeId : Codec NodeId := uint64.map NodeId.mk NodeId.number

def sessionId : Codec SessionId := text.map SessionId.mk SessionId.text

def nodeStatus : Codec NodeStatus := named NodeStatus.name NodeStatus.ofName?

def action : Codec Action := named Action.name Action.ofName?

def node : Codec Node where
  encode n := .object [
    ("id", nodeId.encode n.id),
    ("address", text.encode n.address),
    ("load", binary64.encode n.load),
    ("status", nodeStatus.encode n.status),
    ("last_seen", timestamp.encode n.lastSeen),
    ("active_tasks", uint32.encode n.activeTasks)]
  decode j := do
    let r ← j.toRecord [nodeId.field "id", text.field "address", binary64.field "load",
      nodeStatus.field "status", timestamp.field "last_seen", uint32.field "active_tasks"]
    return {
      id := ← r.required "id" nodeId
      address := ← r.required "address" text
      load := ← r.required "load" binary64
      status := ← r.required "status" nodeStatus
      lastSeen := ← r.required "last_seen" timestamp
      activeTasks := ← r.required "active_tasks" uint32 }

def notice : Codec Notice where
  encode n := .object ([
    ("session_id", sessionId.encode n.session),
    ("parties", (listOf nodeId).encode n.parties),
    ("threshold", uint32.encode n.threshold),
    ("action", action.encode n.action)]
    ++ text.present "identity" n.identity
    ++ bytes.present "msg_hash" n.messageHash
    ++ bytes.present "share_data" n.shareData)
  decode j := do
    let r ← j.toRecord [sessionId.field "session_id", (listOf nodeId).field "parties",
      uint32.field "threshold", action.field "action", text.option.omissible "identity",
      bytes.option.omissible "msg_hash", bytes.option.omissible "share_data"]
    return {
      session := ← r.required "session_id" sessionId
      parties := ← r.required "parties" (listOf nodeId)
      threshold := ← r.required "threshold" uint32
      action := ← r.required "action" action
      identity := ← r.optional "identity" text
      messageHash := ← r.optional "msg_hash" bytes
      shareData := ← r.optional "share_data" bytes }

def ack : Codec Ack where
  encode a := .object ([
    ("session_id", sessionId.encode a.session),
    ("accepted", bool.encode a.accepted)]
    ++ text.present "message" a.message)
  decode j := do
    let r ← j.toRecord [sessionId.field "session_id", bool.field "accepted",
      text.option.omissible "message"]
    return {
      session := ← r.required "session_id" sessionId
      accepted := ← r.required "accepted" bool
      message := ← r.optional "message" text }

inductive ResultKind where
  | keygen
  | signature
  deriving DecidableEq, Repr

def ResultKind.ofName? : String → Option ResultKind
  | "keygen" => some .keygen
  | "signature" => some .signature
  | _ => none

def resultKind : Codec ResultKind := ofText
  (fun
    | .keygen => "keygen"
    | .signature => "signature")
  ResultKind.ofName?

def resultFields : ResultKind → List Json.Field
  | .keygen => [text.field "share_data", text.field "public_address"]
  | .signature => [bytes.field "signature", uint8.option.omissible "recovery_id"]

def resultOf (found : Json.Found) : ResultKind → Except Fault CeremonyResult
  | .keygen => do
      return .keygen (← found.required "share_data" text) (← found.required "public_address" text)
  | .signature => do
      return .signature (← found.required "signature" bytes) (← found.optional "recovery_id" uint8)

/-- How many arrays and objects may lie inside one another below a value that is kept for later. -/
def keptDepth : Nat := 126

def keep (j : Json) : Except Fault Unit :=
  if j.soundTo keptDepth then .ok () else .error .malformed

def partTag (tag : String) :
    Option ResultKind → List (String × Json) →
      Except Fault (Option ResultKind × List (String × Json))
  | kind, [] => .ok (kind, [])
  | kind, (key, value) :: rest =>
      if key = tag then
        if kind.isSome then .error .mismatched
        else do
          let k ← resultKind.decode value
          partTag tag (some k) rest
      else do
        keep value
        let (kind, others) ← partTag tag kind rest
        return (kind, (key, value) :: others)

def ceremonyResult : Codec CeremonyResult where
  encode
    | .keygen shareData publicAddress => .object [
        ("kind", resultKind.encode .keygen),
        ("share_data", text.encode shareData),
        ("public_address", text.encode publicAddress)]
    | .signature bs recoveryId => .object ([
        ("kind", resultKind.encode .signature),
        ("signature", bytes.encode bs)]
        ++ uint8.present "recovery_id" recoveryId)
  decode
    | .object members => do
        match ← partTag "kind" none members with
        | (none, _) => throw .mismatched
        | (some kind, others) =>
            resultOf (← Json.fromMembers .passed (resultFields kind) [] others) kind
    | .array [] => .error .mismatched
    | .array (tag :: items) => do
        let kind ← resultKind.decode tag
        items.forM keep
        resultOf (← Json.fromItems .mismatched (resultFields kind) items) kind
    | j => .error j.otherKind

end Conclave.Wire

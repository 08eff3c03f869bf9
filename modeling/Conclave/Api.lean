import Conclave.Api.Route
import Conclave.Http.MediaType
import Conclave.Text.Base64
import Conclave.Text.Percent
import Conclave.Wire.Api

namespace Conclave

namespace Api

structure Defaults where
  totalNodes : UInt32
  threshold : UInt32
  deriving DecidableEq, Repr

def Defaults.standard : Defaults := ⟨3, 2⟩

inductive CallKind where
  | wallet
  | signature
  deriving DecidableEq, Repr

structure Call where
  kind : CallKind
  organization : Uuid
  request : Session.Request
  deriving DecidableEq, Repr

end Api

structure App where
  coordinator : Coordinator
  usage : Usage
  defaults : Api.Defaults

namespace Api

def rejection (status : Nat) : Response := ⟨status, none⟩

def ok (body : Json) : Response := ⟨200, some body⟩

abbrev Answered := Except Response

def orRefuse {α : Type} : Except Error α → Answered α
  | .ok a => .ok a
  | .error e => .error e.response

def contextOf (r : Http.Request) : Answered Context := orRefuse (Context.ofHeaders r.headers)

def pathText (raw : String) : Answered String :=
  match Text.percentDecode? raw with
  | some s => .ok s
  | none => .error (rejection 400)

def pathNumber (raw : String) : Answered UInt64 := do
  match Text.readUInt64 (← pathText raw) with
  | .ok n => .ok n
  | .error _ => .error (rejection 400)

def bodyLimit : Nat := 2097152

def bodyOf {α : Type} (c : Codec α) (r : Http.Request) : Answered α :=
  if Http.hasJsonBody r then
    if bodyLimit < r.body.utf8ByteSize then .error (rejection 413)
    else match c.decode (Json.read r.body).1 with
      | .ok a => .ok a
      | .error .malformed => .error (rejection 400)
      | .error .mismatched => .error (rejection 422)
  else .error (rejection 415)

def registerNode (now : Timestamp) (id : UInt64) (address : String) (r : Registry) :
    Except Error (Node × Registry) :=
  if id = 0 then .error (.badRequest "Node IDs start at 1")
  else
    let address := Text.trim address
    if Text.startsWith "http://" address || Text.startsWith "https://" address then
      let r := r.register now ⟨id⟩ (Text.dropSlashes address)
      match r.get? ⟨id⟩ with
      | some node => .ok (node, r)
      | none => .error (.failure (.unknownNode ⟨id⟩))
    else
      .error (.badRequest s!"Node address must be an http(s) URL, got {Text.quoted address}")

def getNode (id : UInt64) (r : Registry) : Except Error Node :=
  match r.get? ⟨id⟩ with
  | some node => .ok node
  | none => .error (.failure (.unknownNode ⟨id⟩))

def heartbeat (now : Timestamp) (id : UInt64) (load : Load) (status : NodeStatus) (r : Registry) :
    Except Error (Node × Registry) :=
  match r.report now ⟨id⟩ load status with
  | (false, _) => .error (.failure (.unknownNode ⟨id⟩))
  | (true, r) => (getNode id r).map fun node => (node, r)

def deregisterNode (id : UInt64) (r : Registry) : Except Error Registry :=
  match r.deregister ⟨id⟩ with
  | (true, r) => .ok r
  | (false, _) => .error (.failure (.unknownNode ⟨id⟩))

def publishResult (session : String) (result : CeremonyResult) (b : Bus) : Except Error Bus :=
  match b.publish ⟨session⟩ result with
  | (true, b) => .ok b
  | (false, _) => .error (.noSubscriber session)

def readDigest (s : String) : Except Error (List UInt8) :=
  let t := Text.trim s
  let digits := if Text.startsWith "0x" t then String.ofList (t.toList.drop 2) else t
  match Text.readHex digits with
  | .error f => .error (.badRequest s!"message_hash is not valid hex: {f.message}")
  | .ok [] => .error (.badRequest "message_hash must not be empty")
  | .ok bytes => .ok bytes

def readShare (s : String) : Except Error (List UInt8) :=
  match Text.readBase64 (Text.trim s) with
  | some bytes => .ok bytes
  | none => .error (.badRequest "share_data is not valid base64")

def walletCall (d : Defaults) (c : Context) (r : WalletRequest) : Except Error Call := do
  c.require .walletsCreate
  let identity := Text.trim r.identity
  if identity.isEmpty then throw (.badRequest "identity must not be empty")
  return ⟨.wallet, c.organization,
    .keygen identity (r.totalNodes.getD d.totalNodes) (r.threshold.getD d.threshold)⟩

def signCall (d : Defaults) (c : Context) (r : SignRequest) : Except Error Call := do
  c.require .transactionsSign
  let digest ← readDigest r.messageHash
  let share ← readShare r.shareData
  return ⟨.signature, c.organization,
    .sign digest share (r.totalNodes.getD d.totalNodes) (r.threshold.getD d.threshold)⟩

def Call.finish (call : Call) (outcome : Except Failure Finished) : UsageEvent × Response :=
  match call.kind with
  | .wallet =>
      match outcome >>= Finished.wallet with
      | .ok w => (.walletCreated, ⟨201, some (Wire.wallet.encode w)⟩)
      | .error f => (.ceremonyFailed, (Error.failure f).response)
  | .signature =>
      match outcome >>= Finished.signature with
      | .ok s => (.signatureProduced, ok (Wire.signResponse.encode
          ⟨s.session, s.parties, Text.hex s.bytes, s.recoveryId⟩))
      | .error f => (.ceremonyFailed, (Error.failure f).response)

end Api

namespace App

open Api

def new (coordinator : Coordinator) (defaults : Defaults) : App := ⟨coordinator, .empty, defaults⟩

def setRegistry (a : App) (r : Registry) : App :=
  { a with coordinator := { a.coordinator with registry := r } }

def setBus (a : App) (b : Bus) : App := { a with coordinator := { a.coordinator with bus := b } }

inductive Served where
  | response (app : App) (r : Response)
  | ceremony (call : Call)

def health (a : App) : HealthReport :=
  ⟨"ok", UInt64.ofNat a.coordinator.registry.online.length,
    UInt64.ofNat a.coordinator.docket.activeCount⟩

def nodeList (a : App) : NodeList :=
  let nodes := a.coordinator.registry.toList
  ⟨nodes, UInt64.ofNat nodes.length, UInt64.ofNat (nodes.countP Node.isOnline)⟩

def sessionList (a : App) : SessionList :=
  ⟨a.coordinator.docket.list, UInt64.ofNat a.coordinator.docket.activeCount⟩

def serve (now : Timestamp) (a : App) (r : Http.Request) : Route → Answered Served
  | .health => return .response a (ok (Wire.healthReport.encode a.health))
  | .listNodes => return .response a (ok (Wire.nodeList.encode a.nodeList))
  | .registerNode => do
      let c ← contextOf r
      let body ← bodyOf Wire.registerRequest r
      orRefuse (c.require .nodesManage)
      let (node, registry) ← orRefuse (registerNode now body.id body.address a.coordinator.registry)
      return .response (a.setRegistry registry) ⟨201, some (Wire.node.encode node)⟩
  | .getNode raw => do
      let id ← pathNumber raw
      return .response a (ok (Wire.node.encode (← orRefuse (getNode id a.coordinator.registry))))
  | .deregisterNode raw => do
      let c ← contextOf r
      let id ← pathNumber raw
      orRefuse (c.require .nodesManage)
      let registry ← orRefuse (deregisterNode id a.coordinator.registry)
      return .response (a.setRegistry registry) (rejection 204)
  | .heartbeat raw => do
      let id ← pathNumber raw
      let body ← bodyOf Wire.heartbeatRequest r
      let (node, registry) ←
        orRefuse (heartbeat now id body.load body.status a.coordinator.registry)
      return .response (a.setRegistry registry) (ok (Wire.node.encode node))
  | .createWallet => do
      let c ← contextOf r
      let body ← bodyOf Wire.walletRequest r
      return .ceremony (← orRefuse (walletCall a.defaults c body))
  | .sign => do
      let c ← contextOf r
      let body ← bodyOf Wire.signRequest r
      return .ceremony (← orRefuse (signCall a.defaults c body))
  | .listSessions => do
      let _ ← contextOf r
      return .response a (ok (Wire.sessionList.encode a.sessionList))
  | .getSession raw => do
      let _ ← contextOf r
      let id ← pathText raw
      match a.coordinator.session ⟨id⟩ with
      | .ok record => return .response a (ok (Wire.sessionRecord.encode record))
      | .error f => throw (Error.failure f).response
  | .usage => do
      let c ← contextOf r
      return .response a (ok (Wire.usageReport.encode
        ⟨c.organization, a.usage.countsFor c.organization⟩))
  | .publishResult raw => do
      let session ← pathText raw
      let result ← bodyOf Wire.ceremonyResult r
      let bus ← orRefuse (publishResult session result a.coordinator.bus)
      return .response (a.setBus bus) (rejection 202)

def Served.headOnly : Served → Served
  | .response a r => .response a (rejection r.status)
  | .ceremony call => .ceremony call

def begin (now : Timestamp) (a : App) (r : Http.Request) : Served :=
  let served := match Route.find r.method r.target with
    | .error status => Served.response a (rejection status)
    | .ok route =>
        match a.serve now r route with
        | .ok served => served
        | .error response => .response a response
  if r.method = "HEAD" then served.headOnly else served

def record (a : App) (organization : Uuid) (event : UsageEvent) : App :=
  { a with usage := a.usage.record organization event }

end App

end Conclave

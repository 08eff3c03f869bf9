import Conclave.Failure

namespace Conclave.Session

structure Request where
  action : Action
  totalNodes : UInt32
  threshold : UInt32
  identity : Option String
  messageHash : Option (List UInt8)
  shareData : Option (List UInt8)
  deriving DecidableEq, Repr

namespace Request

def keygen (identity : String) (totalNodes threshold : UInt32) : Request :=
  ⟨.keygen, totalNodes, threshold, some identity, none, none⟩

def sign (messageHash shareData : List UInt8) (totalNodes threshold : UInt32) : Request :=
  ⟨.sign, totalNodes, threshold, none, some messageHash, some shareData⟩

def isBlank (bytes : Option (List UInt8)) : Bool := (bytes.getD []).isEmpty

def validate (r : Request) : Except Failure Unit :=
  if r.threshold = 0 then .error .zeroThreshold
  else if r.totalNodes < r.threshold then
    .error (.invalidThreshold
      s!"threshold {r.threshold.toNat} cannot exceed total_nodes {r.totalNodes.toNat}")
  else match r.action with
    | .keygen => .ok ()
    | .sign =>
        if isBlank r.messageHash then
          .error (.invalidRequest "signing requires a message digest")
        else if isBlank r.shareData then
          .error (.invalidRequest "signing requires the caller's key share")
        else .ok ()

def notice (r : Request) (session : SessionId) (parties : List NodeId) : Notice :=
  ⟨session, parties, r.threshold, r.action, r.identity, r.messageHash, r.shareData⟩

end Request

inductive State where
  | created
  | dispatched
  | completed
  | failed
  deriving DecidableEq, Repr

namespace State

def name : State → String
  | .created => "created"
  | .dispatched => "dispatched"
  | .completed => "completed"
  | .failed => "failed"

def all : List State := [.created, .dispatched, .completed, .failed]

def ofName? (s : String) : Option State := all.find? (·.name = s)

def isTerminal : State → Bool
  | .completed => true
  | .failed => true
  | _ => false

end State

structure Record where
  session : SessionId
  action : Action
  totalNodes : UInt32
  threshold : UInt32
  parties : List NodeId
  state : State
  error : Option String
  startedAt : Timestamp
  dispatchedAt : Option Timestamp
  finishedAt : Option Timestamp
  deriving DecidableEq, Repr

namespace Record

def fresh (now : Timestamp) (session : SessionId) (r : Request) : Record :=
  ⟨session, r.action, r.totalNodes, r.threshold, [], .created, none, now, none, none⟩

def dispatch (now : Timestamp) (parties : List NodeId) (r : Record) : Record :=
  if r.state = .created then
    { r with state := .dispatched, parties := parties, dispatchedAt := some now }
  else r

def finish (now : Timestamp) (failure : Option Failure) (r : Record) : Record :=
  if r.state.isTerminal then r
  else { r with
    state := if failure.isSome then .failed else .completed
    error := failure.map Failure.message
    finishedAt := some now }

def isExpired (cutoff : Timestamp) (r : Record) : Bool :=
  r.state.isTerminal && match r.finishedAt with
    | none => false
    | some t => !cutoff.before t

def newer (a b : Record) : Bool := !a.startedAt.before b.startedAt

end Record

end Conclave.Session

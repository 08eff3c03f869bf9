import Conclave.Node

namespace Conclave

structure SessionId where
  text : String
  deriving DecidableEq, Repr

inductive Action where
  | keygen
  | sign
  deriving DecidableEq, Repr

namespace Action

def name : Action → String
  | .keygen => "init_keygen"
  | .sign => "init_sign"

def all : List Action := [.keygen, .sign]

def ofName? (s : String) : Option Action := all.find? (·.name = s)

end Action

inductive CeremonyResult where
  | keygen (shareData publicAddress : String)
  | signature (bytes : List UInt8) (recoveryId : Option UInt8)
  deriving DecidableEq, Repr

def CeremonyResult.matches : CeremonyResult → Action → Bool
  | .keygen _ _, .keygen => true
  | .signature _ _, .sign => true
  | _, _ => false

structure Notice where
  session : SessionId
  parties : List NodeId
  threshold : UInt32
  action : Action
  identity : Option String
  messageHash : Option (List UInt8)
  shareData : Option (List UInt8)
  deriving DecidableEq, Repr

structure Ack where
  session : SessionId
  accepted : Bool
  message : Option String
  deriving DecidableEq, Repr

end Conclave

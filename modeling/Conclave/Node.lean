import Conclave.Binary64
import Conclave.Timestamp
import Conclave.Text.Case

namespace Conclave

structure NodeId where
  number : UInt64
  deriving DecidableEq, Repr

namespace NodeId

def text (id : NodeId) : String := s!"node-{id.number.toNat}"

def le (a b : NodeId) : Bool := decide (a.number.toNat ≤ b.number.toNat)

end NodeId

inductive NodeStatus where
  | online
  | offline
  | maintenance
  deriving DecidableEq, Repr

namespace NodeStatus

def name : NodeStatus → String
  | .online => "online"
  | .offline => "offline"
  | .maintenance => "maintenance"

def all : List NodeStatus := [.online, .offline, .maintenance]

def ofName? (s : String) : Option NodeStatus := all.find? (·.name = s)

def parse (s : String) : Except String NodeStatus :=
  let t := Text.lower (Text.trim s)
  match ofName? t with
  | some status => .ok status
  | none => .error t

def unknownMessage (s : String) : String := s!"Invalid node status: {s}"

end NodeStatus

abbrev Load := Binary64

def taskLimit : Nat := 0xffffffff

structure Node where
  id : NodeId
  address : String
  load : Load
  status : NodeStatus
  lastSeen : Timestamp
  activeTasks : UInt32
  deriving DecidableEq, Repr

namespace Node

def fresh (now : Timestamp) (id : NodeId) (address : String) : Node :=
  ⟨id, address, .zero, .online, now, 0⟩

def isOnline (n : Node) : Bool := n.status = .online

end Node

end Conclave

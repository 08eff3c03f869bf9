import Conclave.Keyed
import Conclave.Node

namespace Conclave

inductive ProbeVerdict where
  | reachable (load : Option Load)
  | unreachable
  deriving DecidableEq, Repr

structure Registry where
  nodes : Keyed NodeId Node

namespace Registry

def empty : Registry := ⟨.empty⟩

def get? (r : Registry) (id : NodeId) : Option Node := r.nodes.get? id

def register (now : Timestamp) (id : NodeId) (address : String) (r : Registry) : Registry :=
  let tasks := ((r.get? id).map Node.activeTasks).getD 0
  ⟨r.nodes.insert id { Node.fresh now id address with activeTasks := tasks }⟩

def deregister (id : NodeId) (r : Registry) : Bool × Registry :=
  (r.nodes.contains id, ⟨r.nodes.erase id⟩)

def change (id : NodeId) (applies : Node → Bool) (f : Node → Node) (r : Registry) :
    Bool × Registry :=
  match r.get? id with
  | none => (false, r)
  | some node => if applies node then (true, ⟨r.nodes.modify id f⟩) else (false, r)

def report (now : Timestamp) (id : NodeId) (load : Load) (status : NodeStatus) (r : Registry) :
    Bool × Registry :=
  r.change id (fun _ => true) fun n =>
    { n with load := load.clampUnit, status := status, lastSeen := now }

def probeApplies (observed : Timestamp) (n : Node) : Bool :=
  !(n.status = .maintenance || observed.before n.lastSeen)

def applyVerdict (now : Timestamp) (n : Node) : ProbeVerdict → Node
  | .reachable load =>
      { n with
        load := (load.map Binary64.clampUnit).getD n.load
        status := .online
        lastSeen := now }
  | .unreachable => { n with status := .offline }

def applyProbe (now : Timestamp) (id : NodeId) (observed : Timestamp) (verdict : ProbeVerdict)
    (r : Registry) : Bool × Registry :=
  r.change id (probeApplies observed) fun n => applyVerdict now n verdict

def countUp (n : UInt32) : UInt32 := if n.toNat < taskLimit then n + 1 else n

def markBusy (id : NodeId) (r : Registry) : Bool × Registry :=
  r.change id (fun _ => true) fun n => { n with activeTasks := countUp n.activeTasks }

def markIdle (id : NodeId) (r : Registry) : Bool × Registry :=
  r.change id (fun n => decide (0 < n.activeTasks)) fun n =>
    { n with activeTasks := n.activeTasks - 1 }

def size (r : Registry) : Nat := r.nodes.size

def idOrder (a b : Node) : Bool := a.id.le b.id

def toList (r : Registry) : List Node := r.nodes.values.mergeSort idOrder

def online (r : Registry) : List Node := r.toList.filter Node.isOnline

def countByStatus (r : Registry) : List (NodeStatus × Nat) :=
  (NodeStatus.all.map fun s => (s, r.nodes.values.countP (·.status = s))).filter (·.2 ≠ 0)

end Registry

end Conclave

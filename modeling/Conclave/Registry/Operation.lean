import Conclave.Registry

namespace Conclave.Registry

inductive Operation where
  | register (id : NodeId) (address : String)
  | deregister (id : NodeId)
  | report (id : NodeId) (load : Load) (status : NodeStatus)
  | probe (id : NodeId) (observed : Timestamp) (verdict : ProbeVerdict)
  | busy (id : NodeId)
  | idle (id : NodeId)
  deriving DecidableEq, Repr

def apply (now : Timestamp) (r : Registry) : Operation → Bool × Registry
  | .register id address => (true, r.register now id address)
  | .deregister id => r.deregister id
  | .report id load status => r.report now id load status
  | .probe id observed verdict => r.applyProbe now id observed verdict
  | .busy id => r.markBusy id
  | .idle id => r.markIdle id

def markAll : List NodeId → Registry → List NodeId × Registry
  | [], r => ([], r)
  | id :: rest, r =>
      let (applied, r) := r.markBusy id
      let (marked, r) := markAll rest r
      (if applied then id :: marked else marked, r)

def releaseAll : List NodeId → Registry → Registry
  | [], r => r
  | id :: rest, r => releaseAll rest (r.markIdle id).2

end Conclave.Registry

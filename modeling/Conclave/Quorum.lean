import Conclave.Digest
import Conclave.Failure
import Conclave.Registry

namespace Conclave

inductive Policy where
  | roundRobin
  | loadBased
  | availabilityBased
  | random
  deriving DecidableEq, Repr

namespace Policy

def name : Policy → String
  | .roundRobin => "round_robin"
  | .loadBased => "load_based"
  | .availabilityBased => "availability_based"
  | .random => "random"

def all : List Policy := [.roundRobin, .loadBased, .availabilityBased, .random]

def ofName? (s : String) : Option Policy := all.find? (·.name = s)

def dashToUnderscore (c : Char) : Char := if c = '-' then '_' else c

def parse (s : String) : Except Failure Policy :=
  let t := (Text.lower (Text.trim s)).map dashToUnderscore
  match ofName? t with
  | some policy => .ok policy
  | none => .error (.config s!"Unknown selection policy: {t}")

end Policy

abbrev Draws := Nat → Nat

namespace Quorum

def loadOrder (a b : Node) : Bool :=
  decide (a.load.rank < b.load.rank) || (decide (a.load.rank = b.load.rank) && a.id.le b.id)

def taskOrder (a b : Node) : Bool :=
  decide (a.activeTasks < b.activeTasks) ||
    (decide (a.activeTasks = b.activeTasks) && a.id.le b.id)

def firstIds (order : Node → Node → Bool) (count : Nat) (nodes : List Node) : List NodeId :=
  ((nodes.mergeSort order).take count).map Node.id

def sample (draws : Draws) : Nat → Nat → List NodeId → List NodeId
  | _, 0, _ => []
  | _, _, [] => []
  | drawn, wanted + 1, first :: rest =>
      let i := draws drawn % (rest.length + 1)
      (first :: rest).getD i first
        :: sample draws (drawn + 1) wanted ((first :: rest).eraseIdx i)

def offset (session : SessionId) (total : Nat) : Nat :=
  ((Digest.sha256 session.text.toUTF8.toList).headD 0).toNat % total

def consecutive (start total count : Nat) : List NodeId :=
  (List.range count).map fun i => ⟨UInt64.ofNat ((start + i) % total + 1)⟩

def select (policy : Policy) (nodes : List Node) (total threshold : Nat) (session : SessionId)
    (draws : Draws) : Except Failure (List NodeId) :=
  let online := nodes.filter Node.isOnline
  if threshold = 0 then .error .zeroThreshold
  else if online.length < threshold then
    .error (.insufficientNodes online.length threshold)
  else match policy with
    | .roundRobin =>
        if total = 0 ∨ total < threshold then
          .error (.invalidThreshold
            s!"threshold {threshold} must be within total_nodes {total}")
        else .ok (consecutive (offset session total) total threshold)
    | .loadBased => .ok (firstIds loadOrder threshold online)
    | .availabilityBased => .ok (firstIds taskOrder threshold online)
    | .random =>
        .ok (sample draws 0 threshold ((online.mergeSort Registry.idOrder).map Node.id))

end Quorum

end Conclave

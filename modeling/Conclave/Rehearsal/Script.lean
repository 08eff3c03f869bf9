import Conclave.Coordinator

namespace Conclave.Rehearsal

structure Publication where
  only : Option Action
  result : CeremonyResult
  delay : Option Nat
  deriving DecidableEq, Repr

inductive Reaction where
  | acknowledge (accepted : Bool) (message : Option String) (session : Option SessionId)
  | refuse (f : Failure)
  | silence
  deriving DecidableEq, Repr

structure Script where
  during : List Registry.Operation
  publications : List Publication
  delay : Nat
  reaction : Reaction
  deriving DecidableEq, Repr

def Publication.concerns (a : Action) (p : Publication) : Bool :=
  match p.only with
  | none => true
  | some b => b = a

def Reaction.reply? (s : SessionId) : Reaction → Option Reply
  | .acknowledge accepted message session => some (.ack ⟨session.getD s, accepted, message⟩)
  | .refuse f => some (.failed f)
  | .silence => none

namespace Script

def accepting : Script := ⟨[], [], 0, .acknowledge true none none⟩

def atOnce (a : Action) (s : Script) : List CeremonyResult :=
  (s.publications.filter (·.concerns a)).filterMap fun p =>
    if p.delay.isNone then some p.result else none

def later (a : Action) (s : Script) : List (Nat × CeremonyResult) :=
  (s.publications.filter (·.concerns a)).filterMap fun p => p.delay.map fun d => (d, p.result)

end Script

end Conclave.Rehearsal

import Conclave.Keyed
import Conclave.Session.Record

namespace Conclave.Session

structure Docket where
  records : Keyed SessionId Record

inductive PruneFault where
  | beforeEarliest
  deriving DecidableEq, Repr

namespace Docket

def empty : Docket := ⟨.empty⟩

def get? (d : Docket) (s : SessionId) : Option Record := d.records.get? s

def create (now : Timestamp) (s : SessionId) (r : Request) (d : Docket) : Docket :=
  ⟨d.records.insert s (.fresh now s r)⟩

def markDispatched (now : Timestamp) (s : SessionId) (parties : List NodeId) (d : Docket) :
    Docket :=
  ⟨d.records.modify s (Record.dispatch now parties)⟩

def finish (now : Timestamp) (s : SessionId) (failure : Option Failure) (d : Docket) : Docket :=
  ⟨d.records.modify s (Record.finish now failure)⟩

def list (d : Docket) : List Record := d.records.values.reverse.mergeSort Record.newer

def activeCount (d : Docket) : Nat := d.records.values.countP fun r => !r.state.isTerminal

def longestAge : Nat := 0x7fffffffffffffff * 1000000

def cutoff (now : Timestamp) (age : Duration) : Except PruneFault (Option Timestamp) :=
  if longestAge < age.nanoseconds then .ok none
  else match now.ago? age with
    | none => .error .beforeEarliest
    | some t => .ok (some t)

def removeExpired (cutoff : Timestamp) (d : Docket) : Docket :=
  ⟨d.records.filter fun e => !e.2.isExpired cutoff⟩

def prune (now : Timestamp) (age : Duration) (d : Docket) : Except PruneFault (Nat × Docket) :=
  (cutoff now age).map fun
    | none => (0, d)
    | some t =>
        let kept := d.removeExpired t
        (d.records.size - kept.records.size, kept)

end Docket

end Conclave.Session

import Conclave.Keyed
import Conclave.Uuid

namespace Conclave

inductive UsageEvent where
  | walletCreated
  | signatureProduced
  | ceremonyFailed
  deriving DecidableEq, Repr

structure UsageCounts where
  walletsCreated : UInt64
  signaturesProduced : UInt64
  ceremoniesFailed : UInt64
  deriving DecidableEq, Repr

namespace UsageCounts

def zero : UsageCounts := ⟨0, 0, 0⟩

def add (c : UsageCounts) : UsageEvent → UsageCounts
  | .walletCreated => { c with walletsCreated := c.walletsCreated + 1 }
  | .signatureProduced => { c with signaturesProduced := c.signaturesProduced + 1 }
  | .ceremonyFailed => { c with ceremoniesFailed := c.ceremoniesFailed + 1 }

end UsageCounts

structure Usage where
  counts : Keyed Uuid UsageCounts

namespace Usage

def empty : Usage := ⟨.empty⟩

def countsFor (u : Usage) (organization : Uuid) : UsageCounts :=
  (u.counts.get? organization).getD .zero

def record (organization : Uuid) (event : UsageEvent) (u : Usage) : Usage :=
  ⟨u.counts.insert organization ((u.countsFor organization).add event)⟩

end Usage

end Conclave

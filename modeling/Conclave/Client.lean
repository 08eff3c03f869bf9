import Conclave.Coordinator

namespace Conclave

structure Wallet where
  session : SessionId
  parties : List NodeId
  shareData : String
  publicAddress : String
  deriving DecidableEq, Repr

structure Signature where
  session : SessionId
  parties : List NodeId
  bytes : List UInt8
  recoveryId : Option UInt8
  deriving DecidableEq, Repr

structure Finished where
  session : SessionId
  parties : List NodeId
  result : CeremonyResult
  deriving DecidableEq, Repr

namespace Finished

def wallet (f : Finished) : Except Failure Wallet :=
  match f.result with
  | .keygen shareData publicAddress =>
      .ok ⟨f.session, f.parties, shareData, Text.lower publicAddress⟩
  | .signature _ _ =>
      .error (.internal s!"Session {f.session.text} returned a signature for a keygen request")

def signature (f : Finished) : Except Failure Signature :=
  match f.result with
  | .signature bytes recoveryId => .ok ⟨f.session, f.parties, bytes, recoveryId⟩
  | .keygen _ _ =>
      .error
        (.internal s!"Session {f.session.text} returned key material for a signing request")

end Finished

end Conclave

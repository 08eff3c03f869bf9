import Conclave.Ceremony

namespace Conclave

inductive Failure where
  | insufficientNodes (available required : Nat)
  | dispatchFailed (reason : String)
  | timeout (session : SessionId)
  | cancelled (session : SessionId)
  | unknownNode (id : NodeId)
  | invalidThreshold (reason : String)
  | invalidRequest (reason : String)
  | resultChannelClosed (session : SessionId)
  | sessionNotFound (session : SessionId)
  | config (reason : String)
  | internal (reason : String)
  deriving DecidableEq, Repr

namespace Failure

def message : Failure → String
  | .insufficientNodes available required =>
      s!"Insufficient nodes available: {available} < {required}"
  | .dispatchFailed reason => s!"Dispatch failed: {reason}"
  | .timeout s => s!"Timeout waiting for result of session {s.text}, outcome unknown"
  | .cancelled s => s!"Session {s.text} cancelled by caller"
  | .unknownNode id => s!"Unknown node: {id.text}"
  | .invalidThreshold reason => s!"Invalid threshold: {reason}"
  | .invalidRequest reason => s!"Invalid request: {reason}"
  | .resultChannelClosed s => s!"Result channel closed for session {s.text}"
  | .sessionNotFound s => s!"Session not found: {s.text}"
  | .config reason => s!"Configuration error: {reason}"
  | .internal reason => s!"Internal error: {reason}"

def isRetryable : Failure → Bool
  | .insufficientNodes _ _ => true
  | .dispatchFailed _ => true
  | .timeout _ => true
  | _ => false

def zeroThreshold : Failure := .invalidThreshold "threshold must be at least 1"

end Failure

end Conclave

import Conclave.Api
import Conclave.Rehearsal.Script

namespace Conclave.Rehearsal

inductive Errand where
  | start
  | wait
  | run
  | wallet
  | signature
  | call (c : Api.Call)
  deriving DecidableEq, Repr

inductive Answer where
  | refused (f : Failure)
  | started (session : SessionId) (parties : List NodeId) (action : Action)
  | finished (f : Finished)
  | result (r : CeremonyResult)
  | wallet (w : Wallet)
  | signature (s : Signature)
  | response (r : Api.Response)

def Answer.ofExcept {α : Type} (f : α → Answer) : Except Failure α → Answer
  | .ok a => f a
  | .error e => .refused e

def Errand.answer (outcome : Except Failure Finished) : Errand → Answer
  | .wait => .ofExcept .result (outcome.map Finished.result)
  | .wallet => .ofExcept .wallet (outcome >>= Finished.wallet)
  | .signature => .ofExcept .signature (outcome >>= Finished.signature)
  | .call c => .response (c.finish outcome).2
  | _ => .ofExcept .finished outcome

def Errand.record (outcome : Except Failure Finished) (a : App) : Errand → App
  | .call c => a.record c.organization (c.finish outcome).1
  | _ => a

inductive Stage where
  | dispatching
  | receiving
  | ended (a : Answer)

structure Caller where
  errand : Errand
  session : SessionId
  parties : List NodeId
  action : Action
  deadline : Duration
  attended : Bool
  stage : Stage

namespace Caller

def isReceiving (c : Caller) : Bool :=
  match c.stage with
  | .receiving => true
  | _ => false

def waitsOn (s : SessionId) (c : Caller) : Bool :=
  match c.stage with
  | .ended _ => false
  | _ => c.session = s

end Caller

end Conclave.Rehearsal

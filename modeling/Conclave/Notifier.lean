import Conclave.Coordinator
import Conclave.Http
import Conclave.Wire.Ceremony

namespace Conclave

structure Notifier where
  endpoint : String
  deriving DecidableEq, Repr

namespace Notifier

def new (endpoint : String) : Notifier := ⟨Text.dropSlashes endpoint⟩

def url (n : Notifier) : String := n.endpoint ++ "/internal/notify-action"

def body (notice : Notice) : Json := Wire.notice.encode notice

def malformed : Failure := .dispatchFailed "Malformed acknowledgement: "

def outcome (n : Notifier) : Http.Delivery → Except Failure Ack
  | .unreachable reason => .error (.dispatchFailed s!"{n.url} unreachable: {reason}")
  | .answered status body =>
      if !Http.isSuccess status then
        .error (.dispatchFailed s!"{n.url} answered HTTP {Http.statusText status}")
      else match body with
        | none => .error malformed
        | some t =>
            match Wire.ack.decode (Json.ofText t) with
            | .ok a => .ok a
            | .error _ => .error malformed

def reply (n : Notifier) (d : Http.Delivery) : Reply :=
  match n.outcome d with
  | .ok a => .ack a
  | .error f => .failed f

end Notifier

end Conclave

import Conclave.Failure
import Conclave.Json.Codec

namespace Conclave.Api

inductive Error where
  | badRequest (text : String)
  | unauthorized (text : String)
  | forbidden (text : String)
  | notFound (text : String)
  | noSubscriber (session : String)
  | failure (f : Failure)
  | internal (text : String)
  deriving DecidableEq, Repr

structure ErrorBody where
  error : String
  errorCode : String
  deriving DecidableEq, Repr

structure Response where
  status : Nat
  body : Option Json

namespace Error

def message : Error → String
  | .badRequest t => t
  | .unauthorized t => t
  | .forbidden t => t
  | .notFound t => t
  | .noSubscriber s => s!"No subscriber for session {s}"
  | .failure f => f.message
  | .internal t => t

def failureStatus : Failure → Nat × String
  | .insufficientNodes _ _ => (503, "INSUFFICIENT_NODES")
  | .dispatchFailed _ => (502, "DISPATCH_FAILED")
  | .timeout _ => (504, "CEREMONY_TIMEOUT")
  | .cancelled _ => (409, "SESSION_CANCELLED")
  | .invalidThreshold _ => (400, "INVALID_THRESHOLD")
  | .invalidRequest _ => (400, "INVALID_REQUEST")
  | .sessionNotFound _ => (404, "SESSION_NOT_FOUND")
  | .unknownNode _ => (404, "NODE_NOT_FOUND")
  | .resultChannelClosed _ => (500, "INTERNAL_ERROR")
  | .config _ => (500, "INTERNAL_ERROR")
  | .internal _ => (500, "INTERNAL_ERROR")

def statusAndCode : Error → Nat × String
  | .badRequest _ => (400, "INVALID_REQUEST")
  | .unauthorized _ => (401, "UNAUTHORIZED")
  | .forbidden _ => (403, "INSUFFICIENT_PERMISSIONS")
  | .notFound _ => (404, "NOT_FOUND")
  | .noSubscriber _ => (404, "NO_SUBSCRIBER")
  | .failure f => failureStatus f
  | .internal _ => (500, "INTERNAL_ERROR")

def publicMessage : Error → String
  | .internal _ => "Internal server error"
  | .failure (.internal _) => "Internal server error"
  | .failure (.config _) => "Internal server error"
  | e => e.message

def body (e : Error) : ErrorBody := ⟨e.publicMessage, e.statusAndCode.2⟩

end Error

end Conclave.Api

namespace Conclave.Wire

open Codec

def errorBody : Codec Api.ErrorBody where
  encode b := .object [("error", text.encode b.error), ("error_code", text.encode b.errorCode)]
  decode j := do
    let r ← j.toRecord [text.field "error", text.field "error_code"]
    return { error := ← r.required "error" text, errorCode := ← r.required "error_code" text }

end Conclave.Wire

namespace Conclave.Api

def Error.response (e : Error) : Response :=
  ⟨e.statusAndCode.1, some (Wire.errorBody.encode e.body)⟩

end Conclave.Api

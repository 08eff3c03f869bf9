import Conclave.Health
import Conclave.Http
import Conclave.Wire.Ceremony

namespace Conclave.Wire

open Codec

def nodeHealth : Codec NodeHealth where
  encode h := .object [
    ("node_id", nodeId.encode h.node),
    ("endpoint", text.encode h.endpoint),
    ("is_healthy", bool.encode h.isHealthy),
    ("latency_ms", uint64.option.encode h.latencyMillis),
    ("last_check", timestamp.encode h.lastCheck),
    ("consecutive_failures", uint32.encode h.consecutiveFailures)]
  decode j := do
    let r ← j.toRecord [nodeId.field "node_id", text.field "endpoint", bool.field "is_healthy",
      uint64.option.field "latency_ms", timestamp.field "last_check",
      uint32.field "consecutive_failures"]
    return {
      node := ← r.required "node_id" nodeId
      endpoint := ← r.required "endpoint" text
      isHealthy := ← r.required "is_healthy" bool
      latencyMillis := ← r.optional "latency_ms" uint64
      lastCheck := ← r.required "last_check" timestamp
      consecutiveFailures := ← r.required "consecutive_failures" uint32 }

def reportedLoad (body : String) : Option Load :=
  let report : Except Fault (Option Load) := do
    let r ← (Json.ofText body).toRecord [binary64.option.field "load"]
    r.optional "load" binary64
  match report with
  | .ok load => load
  | .error _ => none

def probeOutcome (latencyMillis : UInt64) : Http.Delivery → ProbeOutcome
  | .answered status body =>
      if Http.isSuccess status then .healthy latencyMillis (body.bind reportedLoad) else .failed
  | .unreachable _ => .failed

end Conclave.Wire

import Conclave.Config
import Conclave.Session.Record
import Conclave.Wire.Ceremony

namespace Conclave.Wire

open Codec

def sessionState : Codec Session.State := named Session.State.name Session.State.ofName?

def policy : Codec Policy := named Policy.name Policy.ofName?

def sessionRecord : Codec Session.Record where
  encode r := .object [
    ("session_id", sessionId.encode r.session),
    ("action", action.encode r.action),
    ("total_nodes", uint32.encode r.totalNodes),
    ("threshold", uint32.encode r.threshold),
    ("parties", (listOf nodeId).encode r.parties),
    ("state", sessionState.encode r.state),
    ("error", text.option.encode r.error),
    ("started_at", timestamp.encode r.startedAt),
    ("dispatched_at", timestamp.option.encode r.dispatchedAt),
    ("finished_at", timestamp.option.encode r.finishedAt)]
  decode j := do
    let r ← j.toRecord [sessionId.field "session_id", action.field "action",
      uint32.field "total_nodes", uint32.field "threshold", (listOf nodeId).field "parties",
      sessionState.field "state", text.option.field "error", timestamp.field "started_at",
      timestamp.option.field "dispatched_at", timestamp.option.field "finished_at"]
    return {
      session := ← r.required "session_id" sessionId
      action := ← r.required "action" action
      totalNodes := ← r.required "total_nodes" uint32
      threshold := ← r.required "threshold" uint32
      parties := ← r.required "parties" (listOf nodeId)
      state := ← r.required "state" sessionState
      error := ← r.optional "error" text
      startedAt := ← r.required "started_at" timestamp
      dispatchedAt := ← r.optional "dispatched_at" timestamp
      finishedAt := ← r.optional "finished_at" timestamp }

def config : Codec Config where
  encode c := .object [
    ("selection_policy", policy.encode c.selectionPolicy),
    ("dispatch_timeout", duration.encode c.dispatchTimeout),
    ("result_timeout", duration.encode c.resultTimeout),
    ("health_check_interval", duration.encode c.healthCheckInterval),
    ("health_check_timeout", duration.encode c.healthCheckTimeout),
    ("max_consecutive_failures", uint32.encode c.maxConsecutiveFailures),
    ("session_retention", duration.encode c.sessionRetention),
    ("reaper_interval", duration.encode c.reaperInterval)]
  decode j := do
    let r ← j.toRecord [policy.field "selection_policy", duration.field "dispatch_timeout",
      duration.field "result_timeout", duration.field "health_check_interval",
      duration.field "health_check_timeout", uint32.field "max_consecutive_failures",
      duration.field "session_retention", duration.field "reaper_interval"]
    return {
      selectionPolicy := ← r.required "selection_policy" policy
      dispatchTimeout := ← r.required "dispatch_timeout" duration
      resultTimeout := ← r.required "result_timeout" duration
      healthCheckInterval := ← r.required "health_check_interval" duration
      healthCheckTimeout := ← r.required "health_check_timeout" duration
      maxConsecutiveFailures := ← r.required "max_consecutive_failures" uint32
      sessionRetention := ← r.required "session_retention" duration
      reaperInterval := ← r.required "reaper_interval" duration }

end Conclave.Wire

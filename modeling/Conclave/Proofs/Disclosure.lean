import Conclave.Proofs.Ceremonies
import Conclave.Proofs.Readings

namespace Conclave

open Api

structure Server where
  app : App
  calls : Keyed SessionId Call

namespace Server

def new (app : App) : Server := ⟨app, .empty⟩

inductive Input where
  | request (s : SessionId) (draws : Draws) (q : Http.Request)
  | turn (event : Coordinator.Event)

def ceremonies (σ : Server) : Ceremonies Call := ⟨σ.app.coordinator, σ.calls⟩

def proceed (σ : Server) (out : Option (Ended Call) × Ceremonies Call) : Option Response × Server :=
  let app := { σ.app with coordinator := out.2.coordinator }
  match out.1 with
  | some e =>
      let (event, response) := e.call.finish e.outcome
      (some response, ⟨app.record e.call.organization event, out.2.running⟩)
  | none => (none, ⟨app, out.2.running⟩)

def step (now : Timestamp) (σ : Server) : Input → Option Response × Server
  | .request s draws q =>
      match σ.app.begin now q with
      | .response app response => (some response, { σ with app := app })
      | .ceremony call => σ.proceed (σ.ceremonies.step now (.call s draws call.request call))
  | .turn event => σ.proceed (σ.ceremonies.step now (.turn event))

def disclosed (σ : Server) : Input → List (Option String)
  | .request _ _ q => σ.app.shown q
  | .turn (.answer s (.failed f)) =>
      if f.isWithheld && σ.app.coordinator.awaits s && σ.calls.contains s then [some f.message] else []
  | .turn _ => []

def exchanges (σ : Server) :
    List (Timestamp × Input) → List (List (Option String) × Option Response)
  | [] => []
  | (now, input) :: rest =>
      (σ.disclosed input, (σ.step now input).1) :: (σ.step now input).2.exchanges rest

end Server

namespace Api

theorem Call.finish_error (call : Call) (f : Failure) :
    call.finish (.error f) = (.ceremonyFailed, (Error.failure f).response) := by
  unfold Call.finish
  cases call.kind <;> rfl

theorem Error.response_reworded {f f' : Failure} (reworded : f.Reworded f') :
    (Error.failure f').response = (Error.failure f).response := by
  cases reworded <;> rfl

theorem Error.response_dispatchFailed_iff {text text' : String} :
    (Error.failure (.dispatchFailed text')).response = (Error.failure (.dispatchFailed text)).response ↔
      text' = text := by
  constructor
  · intro h
    simp only [Error.response, Response.mk.injEq, Option.some.injEq, Wire.errorBody,
      Json.object.injEq, List.cons.injEq, Prod.mk.injEq] at h
    have hmessage : "Dispatch failed: " ++ text' = "Dispatch failed: " ++ text :=
      Json.string.inj h.2.1.2
    simpa using hmessage
  · rintro rfl
    rfl

end Api

namespace Server

structure Alike (σ σ' : Server) : Prop where
  app : σ'.app.hush = σ.app.hush
  calls : σ'.calls = σ.calls

inductive Input.Reworded : Input → Input → Prop
  | request (s : SessionId) (draws : Draws) (q : Http.Request) :
      Reworded (.request s draws q) (.request s draws q)
  | turn {event event' : Coordinator.Event} (reworded : event.Reworded event') :
      Reworded (.turn event) (.turn event')

structure Matched (exchange exchange' : List (Option String) × Option Response) : Prop where
  status : exchange'.2.map Response.status = exchange.2.map Response.status
  same_iff : exchange'.2 = exchange.2 ↔ exchange'.1 = exchange.1

theorem matched_of_eq {texts : List (Option String)} (response : Option Response) :
    Matched (texts, response) (texts, response) :=
  ⟨rfl, fun _ => rfl, fun _ => rfl⟩

section Pair

variable {σ σ' : Server}

theorem Alike.ceremonies (alike : Alike σ σ') : Ceremonies.Alike σ.ceremonies σ'.ceremonies :=
  ⟨congrArg (fun a => a.coordinator) alike.app, alike.calls⟩

theorem Alike.setCoordinator (alike : Alike σ σ') {c c' : Coordinator} (same : c'.hush = c.hush) :
    App.hush { σ'.app with coordinator := c' } = App.hush { σ.app with coordinator := c } := by
  simp only [App.hush, same, App.usage_of_hush alike.app, App.defaults_of_hush alike.app]

section Proceed

variable {out out' : Option (Ended Call) × Ceremonies Call}

theorem Alike.proceed (alike : Alike σ σ') (after : Ceremonies.Alike out.2 out'.2)
    (same : out'.1 = out.1) :
    (σ'.proceed out').1 = (σ.proceed out).1 ∧ Alike (σ.proceed out).2 (σ'.proceed out').2 := by
  have app := alike.setCoordinator after.coordinator
  simp only [Server.proceed, same]
  cases out.1 with
  | none => exact ⟨rfl, app, after.running⟩
  | some e =>
      have counted := congrArg (·.record e.call.organization (e.call.finish e.outcome).1) app
      exact ⟨rfl, counted, after.running⟩

theorem Alike.proceed_failed (alike : Alike σ σ') (after : Ceremonies.Alike out.2 out'.2)
    {s : SessionId} {call : Call} {f f' : Failure} (failed : out.1 = some ⟨s, call, .error f⟩)
    (failed' : out'.1 = some ⟨s, call, .error f'⟩) :
    (σ.proceed out).1 = some (Error.failure f).response ∧
      (σ'.proceed out').1 = some (Error.failure f').response ∧
      Alike (σ.proceed out).2 (σ'.proceed out').2 := by
  have app := alike.setCoordinator after.coordinator
  have counted := congrArg (·.record call.organization .ceremonyFailed) app
  simp only [Server.proceed, failed, failed', Call.finish_error, true_and]
  exact ⟨counted, after.running⟩

end Proceed

theorem step_request (alike : Alike σ σ') (now : Timestamp) (s : SessionId) (draws : Draws)
    (q : Http.Request) :
    Alike (σ.step now (.request s draws q)).2 (σ'.step now (.request s draws q)).2 ∧
      Matched (σ.app.shown q, (σ.step now (.request s draws q)).1)
        (σ'.app.shown q, (σ'.step now (.request s draws q)).1) := by
  have told := App.begin_told alike.app now q
  simp only [step]
  generalize σ.app.begin now q = served at told
  generalize σ'.app.begin now q = served' at told
  cases told with
  | response same response response' status same_iff =>
      exact ⟨⟨same, alike.calls⟩, congrArg some status, by simpa using same_iff⟩
  | ceremony call nothing =>
      obtain ⟨ended, after⟩ := alike.ceremonies.step now (.call s draws call.request call)
      obtain ⟨response, after⟩ := alike.proceed after ended
      rw [nothing.1, nothing.2]
      exact ⟨after, response ▸ matched_of_eq _⟩

theorem step_same (alike : Alike σ σ') (now : Timestamp) (event : Coordinator.Event) :
    (σ'.step now (.turn event)).1 = (σ.step now (.turn event)).1 ∧
      Alike (σ.step now (.turn event)).2 (σ'.step now (.turn event)).2 := by
  obtain ⟨ended, after⟩ := alike.ceremonies.step now (.turn event)
  exact alike.proceed after ended

theorem disclosed_of_withheld (σ : Server) (s : SessionId) {f : Failure}
    (withheld : f.isWithheld = true) :
    σ.disclosed (.turn (.answer s (.failed f))) =
      if (σ.ceremonies.answered? s).isSome then [some f.message] else [] := by
  have answered : σ.ceremonies.answered? s =
      if σ.app.coordinator.awaits s then σ.calls.get? s else none := rfl
  simp only [answered, disclosed, withheld, Bool.true_and, Keyed.contains]
  cases σ.app.coordinator.awaits s <;> rfl

theorem step_failed (alike : Alike σ σ') (now : Timestamp) (s : SessionId) {f f' : Failure}
    (reworded : f.Reworded f') :
    Alike (σ.step now (.turn (.answer s (.failed f)))).2
        (σ'.step now (.turn (.answer s (.failed f')))).2 ∧
      Matched
        (σ.disclosed (.turn (.answer s (.failed f))), (σ.step now (.turn (.answer s (.failed f)))).1)
        (σ'.disclosed (.turn (.answer s (.failed f'))),
          (σ'.step now (.turn (.answer s (.failed f')))).1) := by
  obtain ⟨withheld, withheld'⟩ := reworded.isWithheld
  have after := alike.ceremonies.step_failed now s reworded
  have ended := (σ.ceremonies.step_withheld now s withheld).1
  have ended' := (σ'.ceremonies.step_withheld now s withheld').1
  rw [alike.ceremonies.answered] at ended'
  rw [disclosed_of_withheld σ s withheld, disclosed_of_withheld σ' s withheld',
    alike.ceremonies.answered]
  cases answered : σ.ceremonies.answered? s with
  | none =>
      rw [answered] at ended ended'
      obtain ⟨response, after⟩ := alike.proceed after (ended'.trans ended.symm)
      exact ⟨after, response ▸ matched_of_eq _⟩
  | some call =>
      rw [answered] at ended ended'
      obtain ⟨response, response', after⟩ := alike.proceed_failed after ended ended'
      simp only [step, response, response']
      refine ⟨after, rfl, ?_⟩
      simp only [Option.some.injEq, Error.response_dispatchFailed_iff, Option.isSome_some, if_true,
        List.cons.injEq, and_true]

theorem step_turn (alike : Alike σ σ') (now : Timestamp) {event event' : Coordinator.Event}
    (reworded : event.Reworded event') :
    Alike (σ.step now (.turn event)).2 (σ'.step now (.turn event')).2 ∧
      Matched (σ.disclosed (.turn event), (σ.step now (.turn event)).1)
        (σ'.disclosed (.turn event'), (σ'.step now (.turn event')).1) := by
  cases reworded with
  | same event =>
      obtain ⟨response, after⟩ := step_same alike now event
      have disclosed : σ'.disclosed (.turn event) = σ.disclosed (.turn event) := by
        cases event with
        | answer s reply =>
            have awaits := alike.ceremonies.awaits s
            simp only [ceremonies] at awaits
            cases reply <;> simp only [Server.disclosed, awaits, alike.calls]
        | _ => rfl
      rw [response, disclosed]
      exact ⟨after, matched_of_eq _⟩
  | answer s reworded => exact step_failed alike now s reworded

theorem step_alike (alike : Alike σ σ') (now : Timestamp) {input input' : Input}
    (reworded : input.Reworded input') :
    Alike (σ.step now input).2 (σ'.step now input').2 ∧
      Matched (σ.disclosed input, (σ.step now input).1) (σ'.disclosed input', (σ'.step now input').1) := by
  cases reworded with
  | request s draws q => exact step_request alike now s draws q
  | turn reworded => exact step_turn alike now reworded

theorem responses_differ_iff_disclosed (alike : Alike σ σ') {inputs inputs' : List (Timestamp × Input)}
    (reworded : List.Forall₂ (fun e e' => e'.1 = e.1 ∧ e.2.Reworded e'.2) inputs inputs') :
    List.Forall₂ Matched (σ.exchanges inputs) (σ'.exchanges inputs') ∧
      (∀ (call : Call) f f', f.Reworded f' → call.finish (.error f') = call.finish (.error f)) ∧
      ∀ text text', (Error.internal text').response = (Error.internal text).response := by
  refine ⟨?_, fun call f f' h => ?_, fun text text' => rfl⟩
  · induction reworded generalizing σ σ' with
    | nil => exact .nil
    | @cons e e' rest rest' head _ ih =>
        obtain ⟨now, input⟩ := e
        obtain ⟨now', input'⟩ := e'
        obtain ⟨rfl, head⟩ : now' = now ∧ input.Reworded input' := head
        obtain ⟨after, matched⟩ := step_alike alike now' head
        exact .cons matched (ih after)
  · rw [Call.finish_error, Call.finish_error, Error.response_reworded h]

end Pair

def order : Http.Request :=
  ⟨"POST", "/api/v1/wallets",
    [⟨"x-principal-id", ascii "alice"⟩,
      ⟨"x-organization-id", ascii "00000000-0000-0000-0000-000000000001"⟩,
      ⟨"x-permissions", ascii "wallets:create"⟩, ⟨"content-type", ascii "application/json"⟩],
    "\x7b\"identity\":\"alice\",\"total_nodes\":1,\"threshold\":1\x7d"⟩

def troubled (reason : String) : List (Timestamp × Input) :=
  [(⟨1, 0⟩, .request ⟨"S1"⟩ (fun _ => 0) order),
    (⟨2, 0⟩, .turn (.answer ⟨"S1"⟩ (.failed (.internal reason))))]

theorem contextOf_order : contextOf order = .ok ⟨"alice", ⟨1⟩, [.walletsCreate]⟩ := by
  have principal : Http.Leads order.headers "x-principal-id" "alice" :=
    .here rfl (by decide +kernel) (by decide +kernel)
  have organization : Http.Leads order.headers "x-organization-id"
      "00000000-0000-0000-0000-000000000001" :=
    .there (by decide +kernel) (.here rfl (by decide +kernel) (by decide +kernel))
  have permissions : Http.Leads order.headers "x-permissions" "wallets:create" :=
    .there (by decide +kernel) (.there (by decide +kernel)
      (.here rfl (by decide +kernel) (by decide +kernel)))
  have value : ∀ {name text}, Http.Leads order.headers name text → Text.trim text = text →
      text ≠ "" → Context.headerValue? order.headers name = some text :=
    fun leads trimmed full => Context.headerValue?_eq_some.2 ⟨_, leads, trimmed, full⟩
  have uuid : Uuid.ofText? "00000000-0000-0000-0000-000000000001" = some ⟨1⟩ := by decide +kernel
  have granted : ((Text.split ',' "wallets:create").filterMap Permission.parse?).eraseDups =
      [.walletsCreate] := by decide +kernel
  simp only [contextOf, Context.ofHeaders, Context.permissionsOf,
    value principal (by decide +kernel) (by decide), value organization (by decide +kernel) (by decide),
    value permissions (by decide +kernel) (by decide), uuid, granted, orRefuse]

theorem bodyOf_order : bodyOf Wire.walletRequest order = .ok ⟨"alice", some 1, some 1⟩ := by
  have type : Http.Leads order.headers "content-type" "application/json" :=
    .there (by decide +kernel) (.there (by decide +kernel) (.there (by decide +kernel)
      (.here rfl (by decide +kernel) (by decide +kernel))))
  have media : Http.MediaType.ofText? "application/json" = some ⟨"application", "json", none⟩ := by
    decide +kernel
  have json : Http.hasJsonBody order = true := by
    simp only [Http.hasJsonBody, Http.headerText?_eq_some.2 type, Option.bind_some, media]
    decide
  have read : Wire.walletRequest.decode (Json.read order.body).1 = .ok ⟨"alice", some 1, some 1⟩ := by
    decide +kernel
  have within : ¬ bodyLimit < order.body.utf8ByteSize := by decide +kernel
  rw [bodyOf, if_pos json, if_neg within, read]

theorem begin_order (c : Coordinator) (now : Timestamp) :
    (App.new c .standard).begin now order =
      .ceremony ⟨.wallet, ⟨1⟩, .keygen "alice" 1 1⟩ := by
  have found : Route.find order.method order.target = .ok .createWallet := by decide +kernel
  have called : walletCall .standard ⟨"alice", ⟨1⟩, [.walletsCreate]⟩ ⟨"alice", some 1, some 1⟩ =
      .ok ⟨.wallet, ⟨1⟩, .keygen "alice" 1 1⟩ := by decide +kernel
  rw [App.begin_eq, App.routed, found]
  simp only [App.serve, contextOf_order, bodyOf_order, App.new, bind, Except.bind, called, orRefuse]
  exact App.reply_ceremony _ _ _

theorem responses_troubled (reason : String) :
    ((new (.new .oneNode .standard)).exchanges (troubled reason)).map Prod.snd =
      [none, some (Error.failure (.dispatchFailed (Failure.internal reason).message)).response] := by
  obtain ⟨c, started, awaits⟩ : ∃ c,
      Coordinator.oneNode.start ⟨1, 0⟩ ⟨"S1"⟩ (fun _ => 0) (.keygen "alice" 1 1) =
        (.ok (Session.Request.notice (.keygen "alice" 1 1) ⟨"S1"⟩ [⟨1⟩]), c) ∧
        c.awaits ⟨"S1"⟩ = true :=
    ⟨_, Prod.ext (by decide +kernel) rfl, by decide +kernel⟩
  let call : Call := ⟨.wallet, ⟨1⟩, .keygen "alice" 1 1⟩
  let opened : Server := ⟨.new c .standard, Keyed.empty.insert ⟨"S1"⟩ call⟩
  have opens : (new (.new .oneNode .standard)).step ⟨1, 0⟩ (.request ⟨"S1"⟩ (fun _ => 0) order) =
      (none, opened) := by
    simp only [step, new, begin_order]
    simp only [ceremonies, App.new, Ceremonies.step, Ceremonies.enter, started]
    rfl
  have answered : opened.ceremonies.answered? ⟨"S1"⟩ = some call := by
    rw [Ceremonies.answered?, if_pos (by exact awaits), ceremonies, Keyed.get?_insert, if_pos rfl]
  have ended := (opened.ceremonies.step_withheld ⟨2, 0⟩ ⟨"S1"⟩ (f := .internal reason) rfl).1
  rw [answered] at ended
  have responds : (opened.step ⟨2, 0⟩ (.turn (.answer ⟨"S1"⟩ (.failed (.internal reason))))).1 =
      some (Error.failure (.dispatchFailed (Failure.internal reason).message)).response := by
    simp only [step, proceed, ended, Option.map_some, Call.finish_error]
  simp only [troubled, exchanges, opens, responds, List.map_cons, List.map_nil]

theorem responses_differ_iff_disclosed_troubled :
    List.Forall₂ (fun e e' => e'.1 = e.1 ∧ e.2.Reworded e'.2) (troubled "key vault unreachable")
        (troubled "disk full") ∧
      List.Forall₂ Matched
        ((new (.new .oneNode .standard)).exchanges (troubled "key vault unreachable"))
        ((new (.new .oneNode .standard)).exchanges (troubled "disk full")) := by
  have reworded : List.Forall₂ (fun e e' => e'.1 = e.1 ∧ e.2.Reworded e'.2)
      (troubled "key vault unreachable") (troubled "disk full") :=
    .cons ⟨rfl, .request _ _ _⟩ (.cons ⟨rfl, .turn (.answer _ (.internal _ _))⟩ .nil)
  exact ⟨reworded, (responses_differ_iff_disclosed ⟨rfl, rfl⟩ reworded).1⟩

theorem internal_text_reaches_caller :
    List.Forall₂ (fun e e' => e'.1 = e.1 ∧ e.2.Reworded e'.2) (troubled "key vault unreachable")
        (troubled "disk full") ∧
      ((new (.new .oneNode .standard)).exchanges (troubled "key vault unreachable")).map Prod.snd ≠
        ((new (.new .oneNode .standard)).exchanges (troubled "disk full")).map Prod.snd := by
  refine ⟨.cons ⟨rfl, .request _ _ _⟩ (.cons ⟨rfl, .turn (.answer _ (.internal _ _))⟩ .nil), ?_⟩
  rw [responses_troubled, responses_troubled]
  intro same
  have h := Option.some.inj (List.cons.inj (List.cons.inj same).2).1
  revert h
  rw [Error.response_dispatchFailed_iff]
  decide +kernel

end Server

end Conclave

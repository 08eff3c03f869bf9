import Conclave.Proofs.Headers
import Conclave.Proofs.Keyed
import Conclave.Rehearsal

namespace Conclave

namespace Api

open Http

def Route.permission? : Route → Option Permission
  | .registerNode => some .nodesManage
  | .deregisterNode _ => some .nodesManage
  | .createWallet => some .walletsCreate
  | .sign => some .transactionsSign
  | _ => none

inductive Demands : String → List String → Permission → Prop
  | register : Demands "POST" ["api", "v1", "nodes"] .nodesManage
  | deregister (id : String) (named : id.isEmpty = false) :
      Demands "DELETE" ["api", "v1", "nodes", id] .nodesManage
  | wallet : Demands "POST" ["api", "v1", "wallets"] .walletsCreate
  | sign : Demands "POST" ["api", "v1", "signatures"] .transactionsSign

theorem Demands.find {method target : String} {p : Permission}
    (h : Demands method (Route.segments target) p) :
    method ≠ "HEAD" ∧ ∃ route, Route.find method target = .ok route ∧ route.permission? = some p := by
  generalize hs : Route.segments target = segments at h
  cases h with
  | register => exact ⟨by decide, .registerNode, by simp [Route.find, hs, Route.ofSegments], rfl⟩
  | deregister id named =>
      refine ⟨by decide, .deregisterNode id, ?_, rfl⟩
      simp [Route.find, hs, Route.ofSegments, named]
  | wallet => exact ⟨by decide, .createWallet, by simp [Route.find, hs, Route.ofSegments], rfl⟩
  | sign => exact ⟨by decide, .sign, by simp [Route.find, hs, Route.ofSegments], rfl⟩

section Answers

variable {α β : Type} {q : Http.Request} {p : Permission} {ok : Nat → Prop}

def Refusing (ok : Nat → Prop) (x : Answered α) : Prop :=
  ∀ response, x = .error response → ok response.status

theorem refusing_ok (a : α) : Refusing ok (.ok a : Answered α) := by
  intro response h
  cases h

theorem refusing_error {response : Response} (h : ok response.status) :
    Refusing ok (.error response : Answered α) := by
  rintro _ ⟨⟩
  exact h

theorem Refusing.bind {x : Answered α} {k : α → Answered β} (first : Refusing ok x)
    (next : ∀ a, x = .ok a → Refusing ok (k a)) : Refusing ok (x >>= k) := by
  cases x with
  | error r => exact refusing_error (first r rfl)
  | ok a => exact next a rfl

theorem refusing_orRefuse {x : Except Error α} (h : ∀ e, x = .error e → ok e.statusAndCode.1) :
    Refusing ok (orRefuse x) := by
  cases x with
  | ok a => exact refusing_ok a
  | error e => exact refusing_error (h e rfl)

theorem refusing_pathNumber (h : ok 400) (raw : String) : Refusing ok (pathNumber raw) := by
  refine Refusing.bind ?_ fun text _ => ?_
  · unfold pathText
    split
    · exact refusing_ok _
    · exact refusing_error h
  · split
    · exact refusing_ok _
    · exact refusing_error h

theorem refusing_bodyOf (malformed : ok 400) (vast : ok 413) (unsupported : ok 415)
    (mismatched : ok 422) (c : Codec α) (q : Http.Request) : Refusing ok (bodyOf c q) := by
  unfold bodyOf
  split
  · split
    · exact refusing_error vast
    · split
      · exact refusing_ok _
      · exact refusing_error malformed
      · exact refusing_error mismatched
  · exact refusing_error unsupported

theorem refusing_contextOf (unidentified : ¬ Identified q.headers → ok 401) :
    Refusing ok (contextOf q) := by
  refine refusing_orRefuse fun e h => ?_
  by_cases identified : Identified q.headers
  · obtain ⟨c, hc, -⟩ := Context.ofHeaders_of_identified identified
    cases hc.symm.trans h
  · obtain ⟨t, ht⟩ := Context.ofHeaders_of_unidentified identified
    cases ht.symm.trans h
    exact unidentified identified

theorem contextOf_eq_ok {c : Context} (h : contextOf q = .ok c) :
    Identified q.headers ∧ ∀ p, c.hasPermission p = true ↔ Permitted p q.headers := by
  have hc : Context.ofHeaders q.headers = .ok c := by
    unfold contextOf at h
    cases hh : Context.ofHeaders q.headers with
    | error e => simp [hh, orRefuse] at h
    | ok c' => simpa [hh, orRefuse] using h
  have identified := Context.identified_of_ofHeaders hc
  obtain ⟨c', hc', same⟩ := Context.ofHeaders_of_identified identified
  obtain rfl := Except.ok.inj (hc.symm.trans hc')
  exact ⟨identified, Context.hasPermission_iff same⟩

theorem Context.require_eq_ok {c : Context} : c.require p = .ok () ↔ c.hasPermission p = true := by
  unfold require
  split <;> simp_all

theorem Context.status_of_require {c : Context} {e : Error} (h : c.require p = .error e) :
    c.hasPermission p = false ∧ e.statusAndCode.1 = 403 := by
  unfold require at h
  split at h
  · cases h
  · cases h
    exact ⟨by simp_all, rfl⟩

theorem status_of_registerNode {now : Timestamp} {id : UInt64} {address : String} {r : Registry}
    {e : Error} (h : registerNode now id address r = .error e) :
    e.statusAndCode.1 = 400 ∨ e.statusAndCode.1 = 404 := by
  unfold registerNode at h
  split at h
  · cases h
    exact Or.inl rfl
  · dsimp only at h
    split at h
    · split at h
      · cases h
      · cases h
        exact Or.inr rfl
    · cases h
      exact Or.inl rfl

theorem status_of_deregisterNode {id : UInt64} {r : Registry} {e : Error}
    (h : deregisterNode id r = .error e) : e.statusAndCode.1 = 404 := by
  unfold deregisterNode at h
  split at h
  · cases h
  · cases h
    rfl

theorem badRequest_of_readDigest {s : String} {e : Error} (h : readDigest s = .error e) :
    ∃ text, e = .badRequest text := by
  unfold readDigest at h
  dsimp only at h
  split at h
  · exact ⟨_, (Except.error.inj h).symm⟩
  · exact ⟨_, (Except.error.inj h).symm⟩
  · cases h

theorem badRequest_of_readShare {s : String} {e : Error} (h : readShare s = .error e) :
    ∃ text, e = .badRequest text := by
  unfold readShare at h
  split at h
  · cases h
  · exact ⟨_, (Except.error.inj h).symm⟩

theorem error_of_required {c : Context} {x : Except Error α} {e : Error}
    (own : ∀ e, x = .error e → ∃ text, e = .badRequest text)
    (h : (do c.require p; x) = .error e) :
    (∃ text, e = .badRequest text) ∨ c.hasPermission p = false ∧ e.statusAndCode.1 = 403 := by
  cases required : c.require p with
  | error e' =>
      rw [required] at h
      cases h
      exact .inr (Context.status_of_require required)
  | ok _ =>
      rw [required] at h
      exact .inl (own e h)

theorem error_of_walletCall {d : Defaults} {c : Context} {w : WalletRequest} {e : Error}
    (h : walletCall d c w = .error e) : (∃ text, e = .badRequest text) ∨
      c.hasPermission .walletsCreate = false ∧ e.statusAndCode.1 = 403 := by
  refine error_of_required (fun e h => ?_) h
  cases blank : (Text.trim w.identity).isEmpty with
  | true =>
      simp only [blank, if_true] at h
      cases h
      exact ⟨_, rfl⟩
  | false =>
      simp only [blank] at h
      cases h

theorem error_of_signCall {d : Defaults} {c : Context} {w : SignRequest} {e : Error}
    (h : signCall d c w = .error e) : (∃ text, e = .badRequest text) ∨
      c.hasPermission .transactionsSign = false ∧ e.statusAndCode.1 = 403 := by
  refine error_of_required (fun e h => ?_) h
  cases digest : readDigest w.messageHash with
  | error e' =>
      rw [digest] at h
      cases h
      exact badRequest_of_readDigest digest
  | ok bytes =>
      rw [digest] at h
      cases share : readShare w.shareData with
      | error e' =>
          rw [share] at h
          cases h
          exact badRequest_of_readShare share
      | ok bytes' =>
          rw [share] at h
          cases h

end Answers

section Serve

variable {q : Http.Request} {p : Permission} {route : Route}

def Refusal (p : Permission) (headers : List Http.Header) (status : Nat) : Prop :=
  status ∈ [400, 404, 413, 415, 422] ∨ (¬ Identified headers ∧ status = 401) ∨
    (¬ Permitted p headers ∧ status = 403)

theorem refusal_of_require {c : Context} {e : Error} (hc : contextOf q = .ok c)
    (h : c.hasPermission p = false ∧ e.statusAndCode.1 = 403) :
    Refusal p q.headers e.statusAndCode.1 := by
  refine Or.inr (Or.inr ⟨fun permitted => ?_, h.2⟩)
  rw [((contextOf_eq_ok hc).2 p).2 permitted] at h
  cases h.1

theorem refusal_of_serve (now : Timestamp) (a : App) (gated : route.permission? = some p) :
    Refusing (Refusal p q.headers) (a.serve now q route) := by
  have own : ∀ n ∈ [400, 404, 413, 415, 422], Refusal p q.headers n := fun n h => Or.inl h
  have context : Refusing (Refusal p q.headers) (contextOf q) :=
    refusing_contextOf fun unidentified => Or.inr (Or.inl ⟨unidentified, rfl⟩)
  have body : ∀ {α : Type} (c : Codec α), Refusing (Refusal p q.headers) (bodyOf c q) :=
    fun c => refusing_bodyOf (own 400 (by simp)) (own 413 (by simp)) (own 415 (by simp))
      (own 422 (by simp)) c q
  have called : ∀ {c : Context} {e : Error}, contextOf q = .ok c → (∃ text, e = .badRequest text) ∨
      c.hasPermission p = false ∧ e.statusAndCode.1 = 403 → Refusal p q.headers e.statusAndCode.1 := by
    rintro c e hc (⟨text, rfl⟩ | unpermitted)
    · exact own 400 (by simp)
    · exact refusal_of_require hc unpermitted
  cases route with
  | registerNode =>
      obtain rfl := Option.some.inj gated
      refine context.bind fun c hc => (body _).bind fun w _ => ?_
      refine Refusing.bind (refusing_orRefuse fun e h => ?_) fun _ _ => ?_
      · exact refusal_of_require hc (Context.status_of_require h)
      · refine Refusing.bind (refusing_orRefuse fun e h => ?_) fun _ _ => refusing_ok _
        rcases status_of_registerNode h with h | h
        · exact own _ (by simp [h])
        · exact own _ (by simp [h])
  | deregisterNode raw =>
      obtain rfl := Option.some.inj gated
      refine context.bind fun c hc => (refusing_pathNumber (own 400 (by simp)) raw).bind fun id _ => ?_
      refine Refusing.bind (refusing_orRefuse fun e h => ?_) fun _ _ => ?_
      · exact refusal_of_require hc (Context.status_of_require h)
      · refine Refusing.bind (refusing_orRefuse fun e h => ?_) fun _ _ => refusing_ok _
        exact own _ (by simp [status_of_deregisterNode h])
  | createWallet =>
      obtain rfl := Option.some.inj gated
      refine context.bind fun c hc => (body _).bind fun w _ => ?_
      refine Refusing.bind (refusing_orRefuse fun e h => ?_) fun _ _ => refusing_ok _
      exact called hc (error_of_walletCall h)
  | sign =>
      obtain rfl := Option.some.inj gated
      refine context.bind fun c hc => (body _).bind fun w _ => ?_
      refine Refusing.bind (refusing_orRefuse fun e h => ?_) fun _ _ => refusing_ok _
      exact called hc (error_of_signCall h)
  | health => cases gated
  | listNodes => cases gated
  | getNode raw => cases gated
  | heartbeat raw => cases gated
  | listSessions => cases gated
  | getSession raw => cases gated
  | usage => cases gated
  | publishResult raw => cases gated

theorem bind_eq_ok {α β : Type} {x : Answered α} {k : α → Answered β} {b : β} :
    x >>= k = .ok b ↔ ∃ a, x = .ok a ∧ k a = .ok b := by
  cases x with
  | error r => simp [bind, Except.bind]
  | ok a => simp [bind, Except.bind]

theorem orRefuse_eq_ok {α : Type} {x : Except Error α} {a : α} :
    orRefuse x = .ok a ↔ x = .ok a := by
  cases x <;> simp [orRefuse]

theorem walletCall_eq_ok {d : Defaults} {c : Context} {w : WalletRequest} {call : Call} :
    walletCall d c w = .ok call ↔ c.hasPermission .walletsCreate = true ∧
      (Text.trim w.identity).isEmpty = false ∧
        call = ⟨.wallet, c.organization, .keygen (Text.trim w.identity)
          (w.totalNodes.getD d.totalNodes) (w.threshold.getD d.threshold)⟩ := by
  rw [← Context.require_eq_ok]
  unfold walletCall
  cases c.require .walletsCreate with
  | error e => simp [bind, Except.bind]
  | ok _ =>
      simp only [bind, Except.bind, pure, Except.pure, throw, throwThe, MonadExceptOf.throw]
      cases (Text.trim w.identity).isEmpty <;> simp [@eq_comm _ call]

theorem signCall_eq_ok {d : Defaults} {c : Context} {w : SignRequest} {call : Call} :
    signCall d c w = .ok call ↔ c.hasPermission .transactionsSign = true ∧
      ∃ digest share, readDigest w.messageHash = .ok digest ∧ readShare w.shareData = .ok share ∧
        call = ⟨.signature, c.organization, .sign digest share
          (w.totalNodes.getD d.totalNodes) (w.threshold.getD d.threshold)⟩ := by
  rw [← Context.require_eq_ok]
  unfold signCall
  cases c.require .transactionsSign with
  | error e => simp [bind, Except.bind]
  | ok _ =>
      cases readDigest w.messageHash with
      | error e => simp [bind, Except.bind]
      | ok digest =>
          cases readShare w.shareData with
          | error e => simp [bind, Except.bind]
          | ok share => simp [bind, Except.bind, pure, Except.pure, @eq_comm _ call]

theorem granted_of_serve {now : Timestamp} {a : App} {served : App.Served}
    (gated : route.permission? = some p) (h : a.serve now q route = .ok served) :
    Identified q.headers ∧ Permitted p q.headers ∧
      ∀ b response, served = .response b response → Http.isSuccess response.status = true := by
  cases route with
  | registerNode =>
      obtain rfl := Option.some.inj gated
      obtain ⟨c, hc, h⟩ := bind_eq_ok.1 h
      obtain ⟨w, -, h⟩ := bind_eq_ok.1 h
      obtain ⟨_, required, h⟩ := bind_eq_ok.1 h
      obtain ⟨node, -, h⟩ := bind_eq_ok.1 h
      obtain ⟨identified, permitted⟩ := contextOf_eq_ok hc
      refine ⟨identified, (permitted _).1 (Context.require_eq_ok.1 (orRefuse_eq_ok.1 required)), ?_⟩
      rintro b response rfl
      cases h
      rfl
  | deregisterNode raw =>
      obtain rfl := Option.some.inj gated
      obtain ⟨c, hc, h⟩ := bind_eq_ok.1 h
      obtain ⟨id, -, h⟩ := bind_eq_ok.1 h
      obtain ⟨_, required, h⟩ := bind_eq_ok.1 h
      obtain ⟨r, -, h⟩ := bind_eq_ok.1 h
      obtain ⟨identified, permitted⟩ := contextOf_eq_ok hc
      refine ⟨identified, (permitted _).1 (Context.require_eq_ok.1 (orRefuse_eq_ok.1 required)), ?_⟩
      rintro b response rfl
      cases h
      rfl
  | createWallet =>
      obtain rfl := Option.some.inj gated
      obtain ⟨c, hc, h⟩ := bind_eq_ok.1 h
      obtain ⟨w, -, h⟩ := bind_eq_ok.1 h
      obtain ⟨call, hcall, h⟩ := bind_eq_ok.1 h
      obtain ⟨identified, permitted⟩ := contextOf_eq_ok hc
      refine ⟨identified, (permitted _).1 (walletCall_eq_ok.1 (orRefuse_eq_ok.1 hcall)).1, ?_⟩
      rintro b response rfl
      cases h
  | sign =>
      obtain rfl := Option.some.inj gated
      obtain ⟨c, hc, h⟩ := bind_eq_ok.1 h
      obtain ⟨w, -, h⟩ := bind_eq_ok.1 h
      obtain ⟨call, hcall, h⟩ := bind_eq_ok.1 h
      obtain ⟨identified, permitted⟩ := contextOf_eq_ok hc
      refine ⟨identified, (permitted _).1 (signCall_eq_ok.1 (orRefuse_eq_ok.1 hcall)).1, ?_⟩
      rintro b response rfl
      cases h
  | health => cases gated
  | listNodes => cases gated
  | getNode raw => cases gated
  | heartbeat raw => cases gated
  | listSessions => cases gated
  | getSession raw => cases gated
  | usage => cases gated
  | publishResult raw => cases gated

def Route.asksWho : Route → Bool
  | .registerNode => true
  | .deregisterNode _ => true
  | .createWallet => true
  | .sign => true
  | .listSessions => true
  | .getSession _ => true
  | .usage => true
  | _ => false

theorem Route.asksWho_of_permission (gated : route.permission? = some p) : route.asksWho = true := by
  cases route <;> first | rfl | cases gated

theorem unidentified_of_serve (now : Timestamp) (asks : route.asksWho = true)
    (unidentified : ¬ Identified q.headers) :
    ∃ response, response.status = 401 ∧ ∀ a : App, a.serve now q route = .error response := by
  obtain ⟨t, ht⟩ := Context.ofHeaders_of_unidentified unidentified
  have context : contextOf q = .error (Error.unauthorized t).response := by
    rw [contextOf, ht]
    rfl
  have absorbed : ∀ k : Context → Answered App.Served,
      (contextOf q >>= k) = .error (Error.unauthorized t).response := by
    intro k
    rw [context]
    rfl
  refine ⟨(Error.unauthorized t).response, rfl, fun a => ?_⟩
  cases route with
  | registerNode => exact absorbed _
  | deregisterNode raw => exact absorbed _
  | createWallet => exact absorbed _
  | sign => exact absorbed _
  | listSessions => exact absorbed _
  | getSession raw => exact absorbed _
  | usage => exact absorbed _
  | health => cases asks
  | listNodes => cases asks
  | getNode raw => cases asks
  | heartbeat raw => cases asks
  | publishResult raw => cases asks

theorem serve_congr {q' : Http.Request} (now : Timestamp) (a : App) (body : q'.body = q.body)
    (same : ∀ name, Http.headerText? q'.headers name = Http.headerText? q.headers name) :
    a.serve now q' route = a.serve now q route := by
  have value : ∀ name, Context.headerValue? q'.headers name = Context.headerValue? q.headers name := by
    intro name
    rw [Context.headerValue?, same, Context.headerValue?]
  have context : contextOf q' = contextOf q := by
    simp only [contextOf, Context.ofHeaders, Context.permissionsOf, value]
  have read : ∀ {α : Type} (c : Codec α), bodyOf c q' = bodyOf c q := by
    intro α c
    have json : Http.hasJsonBody q' = Http.hasJsonBody q := by
      simp only [Http.hasJsonBody, same]
    rw [bodyOf, bodyOf, json, body]
  cases route <;> simp only [App.serve, context, read]

end Serve

theorem begin_congr {q q' : Http.Request} (now : Timestamp) (a : App) (method : q'.method = q.method)
    (target : q'.target = q.target) (body : q'.body = q.body)
    (same : ∀ name, Http.headerText? q'.headers name = Http.headerText? q.headers name) :
    a.begin now q' = a.begin now q := by
  simp only [App.begin, method, target, serve_congr now a body same]

end Api

namespace App

open Api

def routed (now : Timestamp) (a : App) (q : Http.Request) : Answered Served :=
  match Route.find q.method q.target with
  | .error status => .error (rejection status)
  | .ok route => a.serve now q route

def reply (a : App) (q : Http.Request) (x : Answered Served) : Served :=
  let served := match x with
    | .ok served => served
    | .error response => .response a response
  if q.method = "HEAD" then served.headOnly else served

theorem begin_eq (now : Timestamp) (a : App) (q : Http.Request) :
    a.begin now q = a.reply q (a.routed now q) := by
  unfold begin reply routed
  cases Route.find q.method q.target <;> rfl

theorem reply_response (a b : App) (q : Http.Request) (response : Response) :
    a.reply q (.ok (.response b response)) =
      .response b (if q.method = "HEAD" then rejection response.status else response) := by
  by_cases head : q.method = "HEAD" <;> simp [reply, head, Served.headOnly]

theorem reply_error (a : App) (q : Http.Request) (response : Response) :
    a.reply q (.error response) =
      .response a (if q.method = "HEAD" then rejection response.status else response) :=
  reply_response a a q response

theorem reply_ceremony (a : App) (q : Http.Request) (call : Call) :
    a.reply q (.ok (.ceremony call)) = .ceremony call := by
  by_cases head : q.method = "HEAD" <;> simp [reply, head, Served.headOnly]

end App

namespace Rehearsal

def Resting (m : Moment) (r : Rehearsal) : Prop :=
  r.agenda.due m.clock = [] ∧ ∀ s ∈ r.receiving, (r.coordinator.receive m.wall s).1 = none

theorem pollAll_of_quiet {m : Moment} {r : Rehearsal}
    (quiet : ∀ s ∈ r.receiving, (r.coordinator.receive m.wall s).1 = none) : r.pollAll m = r := by
  have hpoll : ∀ s ∈ r.receiving, r.poll m s = r := by
    intro s hs
    have hnone := quiet s hs
    unfold poll
    split
    · rfl
    · rename_i outcome c hreceive
      rw [hreceive] at hnone
      cases hnone
  unfold pollAll
  generalize r.receiving = sessions at hpoll
  induction sessions with
  | nil => rfl
  | cons s rest ih =>
      rw [List.foldl_cons, hpoll s List.mem_cons_self]
      exact ih fun s hs => hpoll s (List.mem_cons_of_mem _ hs)

theorem settle_of_resting {m : Moment} {r : Rehearsal} (resting : r.Resting m) : r.settle m = r := by
  obtain ⟨undue, quiet⟩ := resting
  have hlater : r.agenda.later m.clock = r.agenda := by
    have hfilter : r.agenda.entries.filter (fun e => decide (e.1 ≤ m.clock)) = [] := by
      simpa [Agenda.due] using undue
    have hall : ∀ e ∈ r.agenda.entries, decide (m.clock < e.1) = true := by
      intro e he
      have := List.filter_eq_nil_iff.1 hfilter e he
      simpa using this
    rw [Agenda.later, List.filter_eq_self.2 hall]
  rw [settle, undue, hlater, List.foldl_nil]
  exact pollAll_of_quiet quiet

def answered (response : Api.Response) : Caller :=
  ⟨.wait, ⟨""⟩, [], .keygen, .zero, true, .ended (.response response)⟩

theorem resting_enroll {m : Moment} {r : Rehearsal} (resting : r.Resting m)
    (response : Api.Response) : (r.enroll (answered response)).2.Resting m := by
  refine ⟨resting.1, fun s hs => resting.2 s ?_⟩
  simp only [receiving, Keyed.values, List.mem_map, List.mem_filter] at hs ⊢
  obtain ⟨c, ⟨⟨⟨ticket, _⟩, hentry, rfl⟩, hreceiving⟩, rfl⟩ := hs
  have hfound := Keyed.mem_entries_iff.1 hentry
  simp only [enroll, Keyed.get?_insert] at hfound
  split at hfound
  · cases hfound
    cases hreceiving
  · exact ⟨_, ⟨⟨_, Keyed.mem_entries_iff.2 hfound, rfl⟩, hreceiving⟩, rfl⟩

theorem request_of_response {m : Moment} {q : Http.Request} {r : Rehearsal} {app : App}
    {response : Api.Response} (h : r.app.begin m.wall q = .response app response) :
    r.request m q = (({ r with app := app }.enroll (answered response)).1,
      ({ r with app := app }.enroll (answered response)).2.settle m) := by
  rw [request, h]
  rfl

end Rehearsal

namespace Api

open Http

structure Gated (now : Timestamp) (a : App) (q : Http.Request) (p : Permission) : Prop where
  shut : ¬ Authorized p q.headers → ∃ response, a.begin now q = .response a response ∧
    isSuccess response.status = false ∧ (¬ Identified q.headers → response.status = 401)
  opened : Authorized p q.headers → ∀ b response, a.begin now q = .response b response →
    response.status ≠ 401 ∧ response.status ≠ 403

theorem begin_of_route {now : Timestamp} {a : App} {q : Http.Request} {route : Route}
    (method : q.method ≠ "HEAD") (found : Route.find q.method q.target = .ok route) :
    a.begin now q = match a.serve now q route with
      | .ok served => served
      | .error response => .response a response := by
  rw [App.begin_eq, App.routed, found]
  exact if_neg method

theorem refused_status {p : Permission} {headers : List Header} {status : Nat}
    (h : Refusal p headers status) : isSuccess status = false := by
  rcases h with h | ⟨-, rfl⟩ | ⟨-, rfl⟩
  · simp only [List.mem_cons, List.not_mem_nil, or_false] at h
    rcases h with rfl | rfl | rfl | rfl | rfl <;> rfl
  · rfl
  · rfl

theorem gated {q : Http.Request} {p : Permission}
    (demands : Demands q.method (Route.segments q.target) p) (now : Timestamp) (a : App) :
    Gated now a q p := by
  obtain ⟨method, route, found, permission⟩ := demands.find
  have hbegin : a.begin now q = _ := begin_of_route method found
  have refusal := refusal_of_serve (q := q) now a permission
  constructor
  · intro unauthorized
    cases served : a.serve now q route with
    | ok s =>
        obtain ⟨identified, permitted, -⟩ := granted_of_serve permission served
        exact absurd ⟨identified, permitted⟩ unauthorized
    | error response =>
        rw [served] at hbegin
        refine ⟨response, hbegin, refused_status (refusal response served), fun unidentified => ?_⟩
        obtain ⟨response', hstatus, hserve⟩ :=
          unidentified_of_serve now (Route.asksWho_of_permission permission) unidentified
        obtain rfl := Except.error.inj (served.symm.trans (hserve a))
        exact hstatus
  · intro authorized b response h
    cases served : a.serve now q route with
    | ok s =>
        obtain ⟨-, -, success⟩ := granted_of_serve permission served
        rw [served] at hbegin
        have hsuccess := success b response (hbegin.symm.trans h)
        constructor <;>
        · intro hstatus
          rw [hstatus] at hsuccess
          cases hsuccess
    | error response' =>
        rw [served] at hbegin
        obtain ⟨-, rfl⟩ := App.Served.response.inj (hbegin.symm.trans h)
        rcases refusal response' served with own | ⟨unidentified, -⟩ | ⟨unpermitted, -⟩
        · constructor <;>
          · intro hstatus
            rw [hstatus] at own
            simp at own
        · exact absurd authorized.identified unidentified
        · exact absurd authorized.permitted unpermitted

theorem unauthorized_changes_nothing {q : Http.Request} {p : Permission}
    (demands : Demands q.method (Route.segments q.target) p) :
    (∀ now a, Gated now a q p) ∧
      (¬ Authorized p q.headers → ∀ m (r : Rehearsal), ∃ response,
        isSuccess response.status = false ∧ (¬ Identified q.headers → response.status = 401) ∧
        r.request m q = ((r.enroll (Rehearsal.answered response)).1,
          (r.enroll (Rehearsal.answered response)).2.settle m) ∧
        (r.Resting m → r.request m q = r.enroll (Rehearsal.answered response))) ∧
      (∀ now (a : App) headers, Recased q.headers headers →
        a.begin now { q with headers := headers } = a.begin now q) ∧
      ∀ now (a : App) before g after, q.headers = before ++ after →
        (∃ h ∈ before, sameName h.name g.name = true) →
        a.begin now { q with headers := before ++ g :: after } = a.begin now q := by
  refine ⟨gated demands, fun unauthorized m r => ?_, fun now a headers recased => ?_,
    fun now a before g after hheaders repeated => ?_⟩
  · obtain ⟨response, hbegin, failed, unidentified⟩ := (gated demands m.wall r.app).shut unauthorized
    have hrequest := Rehearsal.request_of_response hbegin
    refine ⟨response, failed, unidentified, hrequest, fun resting => ?_⟩
    rw [hrequest]
    exact Prod.ext rfl (Rehearsal.settle_of_resting (Rehearsal.resting_enroll resting response))
  · exact begin_congr now a rfl rfl rfl (headerText?_recased recased)
  · refine begin_congr now a rfl rfl rfl fun name => ?_
    rw [headerText?_insert repeated, hheaders]

def ascii (s : String) : List UInt8 := s.toList.map fun c => UInt8.ofNat c.toNat

def carol : List Header :=
  [⟨"X-Principal-Id", ascii "carol"⟩,
    ⟨"x-organization-id", ascii "00000000-0000-0000-0000-000000000001"⟩,
    ⟨"x-permissions", ascii "wallets:create"⟩, ⟨"X-PERMISSIONS", ascii "*"⟩]

def registration : Http.Request := ⟨"POST", "/api/v1/nodes?x=1", carol, ""⟩

theorem unauthorized_changes_nothing_registration :
    Demands registration.method (Route.segments registration.target) .nodesManage ∧
      Identified carol ∧ ¬ Authorized .nodesManage carol ∧
      ∀ m (a : App), ∃ response, isSuccess response.status = false ∧
        (Rehearsal.new a .accepting).request m registration =
          (Rehearsal.new a .accepting).enroll (Rehearsal.answered response) := by
  have segments : Route.segments registration.target = ["api", "v1", "nodes"] := by decide +kernel
  have demands : Demands registration.method (Route.segments registration.target) .nodesManage := by
    rw [segments]
    exact .register
  have principal : Leads carol "x-principal-id" "carol" :=
    .here (by decide +kernel) (by decide +kernel) (by decide +kernel)
  have organization :
      Leads carol "x-organization-id" "00000000-0000-0000-0000-000000000001" :=
    .there (by decide +kernel)
      (.here (by decide +kernel) (by decide +kernel) (by decide +kernel))
  have permissions : Leads carol "x-permissions" "wallets:create" :=
    .there (by decide +kernel) (.there (by decide +kernel)
      (.here (by decide +kernel) (by decide +kernel) (by decide +kernel)))
  have identified : Identified carol :=
    ⟨⟨_, principal, by decide +kernel⟩, ⟨_, ⟨1⟩, organization, by decide +kernel⟩⟩
  have unauthorized : ¬ Authorized .nodesManage carol := by
    rintro ⟨-, t, leads, part, hpart, hname⟩
    rw [← headerText?_eq_some] at permissions leads
    obtain rfl := Option.some.inj (permissions.symm.trans leads)
    have hpieces : Text.split ',' "wallets:create" = ["wallets:create"] := by decide +kernel
    rw [hpieces, List.mem_singleton] at hpart
    subst hpart
    revert hname
    decide +kernel
  refine ⟨demands, identified, unauthorized, fun m a => ?_⟩
  obtain ⟨response, failed, -, -, resting⟩ :=
    (unauthorized_changes_nothing demands).2.1 unauthorized m (.new a .accepting)
  exact ⟨response, failed, resting ⟨rfl, fun s hs => by cases hs⟩⟩

end Api

end Conclave

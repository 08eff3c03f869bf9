import Conclave.Proofs.Gate
import Conclave.Proofs.Rewording

namespace Conclave

namespace Wire

open Session

theorem encode_record_iff {r r' : Record} (same : r'.hush = r.hush) :
    sessionRecord.encode r' = sessionRecord.encode r ↔ r'.error = r.error := by
  constructor
  · intro h
    simp only [sessionRecord, Json.object.injEq, List.cons.injEq, Prod.mk.injEq] at h
    obtain ⟨-, -, -, -, -, -, ⟨-, herror⟩, -⟩ := h
    cases he : r.error with
    | none =>
        cases he' : r'.error with
        | none => rfl
        | some text => simp [he, he', Codec.option, Codec.text] at herror
    | some text =>
        cases he' : r'.error with
        | none => simp [he, he', Codec.option, Codec.text] at herror
        | some text' => simpa [he, he', Codec.option, Codec.text] using herror
  · intro herror
    have hr : r' = r := by
      cases r
      cases r'
      simp_all [Record.hush]
    rw [hr]

theorem encode_records_iff {l l' : List Record} (same : l'.map Record.hush = l.map Record.hush) :
    l'.map sessionRecord.encode = l.map sessionRecord.encode ↔
      l'.map Record.error = l.map Record.error := by
  induction l generalizing l' with
  | nil => simp [List.map_eq_nil_iff.1 same]
  | cons r l ih =>
      cases l' with
      | nil => simp at same
      | cons r' l' =>
          obtain ⟨hhead, htail⟩ := List.cons.inj same
          simp only [List.map_cons, List.cons.injEq, encode_record_iff hhead, ih htail]

theorem encode_sessionList_iff {l l' : Api.SessionList} (active : l'.active = l.active)
    (same : l'.sessions.map Record.hush = l.sessions.map Record.hush) :
    sessionList.encode l' = sessionList.encode l ↔
      l'.sessions.map Record.error = l.sessions.map Record.error := by
  rw [← encode_records_iff same]
  simp [sessionList, Codec.listOf, active]

end Wire

namespace App

open Api

def hush (a : App) : App := { a with coordinator := a.coordinator.hush }

def asked (a : App) (q : Http.Request) : List (Option String) :=
  match Route.find q.method q.target, contextOf q with
  | .ok .listSessions, .ok _ => a.coordinator.docket.list.map Session.Record.error
  | .ok (.getSession raw), .ok _ =>
      match pathText raw with
      | .ok id => (a.coordinator.docket.get? ⟨id⟩).toList.map Session.Record.error
      | .error _ => []
  | _, _ => []

def shown (a : App) (q : Http.Request) : List (Option String) :=
  if q.method = "HEAD" then [] else a.asked q

inductive Echo : Answered Served → Answered Served → Prop
  | refused (response : Response) : Echo (.error response) (.error response)
  | answered {b b' : App} (same : b'.hush = b.hush) (response : Response) :
      Echo (.ok (.response b response)) (.ok (.response b' response))
  | ceremony (call : Call) : Echo (.ok (.ceremony call)) (.ok (.ceremony call))

theorem Echo.bind {α : Type} (x : Answered α) {k k' : α → Answered Served}
    (next : ∀ v, Echo (k v) (k' v)) : Echo (x >>= k) (x >>= k') := by
  cases x with
  | error response => exact .refused response
  | ok v => exact next v

section Pair

variable {a a' : App} {q : Http.Request} {now : Timestamp}

theorem registry_of_hush (same : a'.hush = a.hush) :
    a'.coordinator.registry = a.coordinator.registry :=
  congrArg (fun b => b.coordinator.registry) same

theorem bus_of_hush (same : a'.hush = a.hush) : a'.coordinator.bus = a.coordinator.bus :=
  congrArg (fun b => b.coordinator.bus) same

theorem usage_of_hush (same : a'.hush = a.hush) : a'.usage = a.usage :=
  congrArg (fun b => b.usage) same

theorem defaults_of_hush (same : a'.hush = a.hush) : a'.defaults = a.defaults :=
  congrArg (fun b => b.defaults) same

theorem docket_of_hush (same : a'.hush = a.hush) :
    a'.coordinator.docket.hush = a.coordinator.docket.hush :=
  congrArg (fun b => b.coordinator.docket) same

theorem hush_setRegistry (same : a'.hush = a.hush) (registry : Registry) :
    (a'.setRegistry registry).hush = (a.setRegistry registry).hush :=
  congrArg (fun b => b.setRegistry registry) same

theorem hush_setBus (same : a'.hush = a.hush) (bus : Bus) :
    (a'.setBus bus).hush = (a.setBus bus).hush :=
  congrArg (fun b => b.setBus bus) same

theorem activeCount_of_hush (same : a'.hush = a.hush) :
    a'.coordinator.docket.activeCount = a.coordinator.docket.activeCount := by
  rw [← Session.Docket.activeCount_hush, docket_of_hush same, Session.Docket.activeCount_hush]

theorem list_of_hush (same : a'.hush = a.hush) :
    a'.coordinator.docket.list.map Session.Record.hush =
      a.coordinator.docket.list.map Session.Record.hush := by
  rw [← Session.Docket.list_hush, docket_of_hush same, Session.Docket.list_hush]

theorem record_of_hush (same : a'.hush = a.hush) (s : SessionId) :
    (a'.coordinator.docket.get? s).map Session.Record.hush =
      (a.coordinator.docket.get? s).map Session.Record.hush := by
  rw [← Session.Docket.get?_hush, docket_of_hush same, Session.Docket.get?_hush]

def readsRecords : Route → Bool
  | .listSessions => true
  | .getSession _ => true
  | _ => false

theorem serve_echo (same : a'.hush = a.hush) {route : Route} (reads : readsRecords route = false) :
    Echo (a.serve now q route) (a'.serve now q route) := by
  have registry := registry_of_hush same
  cases route with
  | health =>
      have hhealth : a'.health = a.health := by
        rw [health, health, registry, activeCount_of_hush same]
      simp only [serve, hhealth]
      exact .answered same _
  | listNodes =>
      have hlist : a'.nodeList = a.nodeList := by
        simp only [nodeList, registry]
      simp only [serve, hlist]
      exact .answered same _
  | registerNode =>
      refine Echo.bind _ fun c => Echo.bind _ fun body => Echo.bind _ fun _ => ?_
      rw [registry]
      exact Echo.bind _ fun answer => .answered (hush_setRegistry same _) _
  | getNode raw =>
      refine Echo.bind _ fun id => ?_
      rw [registry]
      exact Echo.bind _ fun node => .answered same _
  | deregisterNode raw =>
      refine Echo.bind _ fun c => Echo.bind _ fun id => Echo.bind _ fun _ => ?_
      rw [registry]
      exact Echo.bind _ fun answer => .answered (hush_setRegistry same _) _
  | heartbeat raw =>
      refine Echo.bind _ fun id => Echo.bind _ fun body => ?_
      rw [registry]
      exact Echo.bind _ fun answer => .answered (hush_setRegistry same _) _
  | createWallet =>
      refine Echo.bind _ fun c => Echo.bind _ fun body => ?_
      rw [defaults_of_hush same]
      exact Echo.bind _ fun call => .ceremony call
  | sign =>
      refine Echo.bind _ fun c => Echo.bind _ fun body => ?_
      rw [defaults_of_hush same]
      exact Echo.bind _ fun call => .ceremony call
  | usage =>
      refine Echo.bind _ fun c => ?_
      rw [usage_of_hush same]
      exact .answered same _
  | publishResult raw =>
      refine Echo.bind _ fun session => Echo.bind _ fun result => ?_
      rw [bus_of_hush same]
      exact Echo.bind _ fun bus => .answered (hush_setBus same _) _
  | listSessions => cases reads
  | getSession raw => cases reads

theorem asked_of_unread {route : Route} (found : Route.find q.method q.target = .ok route)
    (unread : readsRecords route = false) (a : App) : a.asked q = [] := by
  unfold asked
  rw [found]
  cases route <;> first
    | rfl
    | cases unread

theorem asked_of_refused {response : Response} (refused : contextOf q = .error response) (a : App) :
    a.asked q = [] := by
  unfold asked
  rw [refused]
  split <;> simp_all

theorem getSession_cases (same : a'.hush = a.hush) (now : Timestamp) {raw : String} {c : Context}
    (found : Route.find q.method q.target = .ok (.getSession raw)) (context : contextOf q = .ok c) :
    (Echo (a.serve now q (.getSession raw)) (a'.serve now q (.getSession raw)) ∧ a.asked q = [] ∧
        a'.asked q = []) ∨
      ∃ j j', a.serve now q (.getSession raw) = .ok (.response a (ok j)) ∧
        a'.serve now q (.getSession raw) = .ok (.response a' (ok j')) ∧
        (j' = j ↔ a'.asked q = a.asked q) := by
  cases path : pathText raw with
  | error response =>
      have refused : ∀ b : App, b.serve now q (.getSession raw) = .error response := by
        intro b
        simp only [serve, context, path]
        rfl
      have nothing : ∀ b : App, b.asked q = [] := by
        intro b
        simp only [asked, found, context, path]
      rw [refused, refused]
      exact Or.inl ⟨.refused response, nothing a, nothing a'⟩
  | ok id =>
      have missing : ∀ b : App, b.coordinator.docket.get? ⟨id⟩ = none →
          b.serve now q (.getSession raw) =
            .error (Error.failure (.sessionNotFound ⟨id⟩)).response := by
        intro b record
        simp only [serve, context, path, bind, Except.bind, Coordinator.session, record]
        rfl
      have served : ∀ (b : App) r, b.coordinator.docket.get? ⟨id⟩ = some r →
          b.serve now q (.getSession raw) =
            .ok (.response b (ok (Wire.sessionRecord.encode r))) := by
        intro b r record
        simp only [serve, context, path, bind, Except.bind, Coordinator.session, record]
        rfl
      have asks : ∀ b : App, b.asked q =
          (b.coordinator.docket.get? ⟨id⟩).toList.map Session.Record.error := by
        intro b
        simp only [asked, found, context, path]
      have hrecord := record_of_hush same ⟨id⟩
      rw [asks, asks]
      cases record : a.coordinator.docket.get? ⟨id⟩ with
      | none =>
          rw [record, Option.map_none, Option.map_eq_none_iff] at hrecord
          rw [missing a record, missing a' hrecord, hrecord]
          exact Or.inl ⟨.refused _, rfl, rfl⟩
      | some r =>
          rw [record, Option.map_some, Option.map_eq_some_iff] at hrecord
          obtain ⟨r', record', hush⟩ := hrecord
          rw [served a r record, served a' r' record', record']
          exact Or.inr ⟨_, _, rfl, rfl, by simp [Wire.encode_record_iff hush]⟩

theorem routed_cases (same : a'.hush = a.hush) (now : Timestamp) (q : Http.Request) :
    (Echo (a.routed now q) (a'.routed now q) ∧ a.asked q = [] ∧ a'.asked q = []) ∨
      ∃ j j', a.routed now q = .ok (.response a (ok j)) ∧
        a'.routed now q = .ok (.response a' (ok j')) ∧ (j' = j ↔ a'.asked q = a.asked q) := by
  unfold routed
  cases found : Route.find q.method q.target with
  | error status =>
      exact Or.inl ⟨.refused _, by simp only [asked, found], by simp only [asked, found]⟩
  | ok route =>
      cases reads : readsRecords route with
      | false =>
          exact Or.inl ⟨serve_echo same reads, asked_of_unread found reads a,
            asked_of_unread found reads a'⟩
      | true =>
          cases context : contextOf q with
          | error response =>
              have hnone := asked_of_refused context
              refine Or.inl ⟨?_, hnone a, hnone a'⟩
              cases route with
              | listSessions =>
                  simp only [serve, context]
                  exact .refused response
              | getSession raw =>
                  simp only [serve, context]
                  exact .refused response
              | _ => cases reads
          | ok c =>
              cases route with
              | listSessions =>
                  refine Or.inr ⟨_, _, by simp only [serve, context]; rfl,
                    by simp only [serve, context]; rfl, ?_⟩
                  have active : a'.sessionList.active = a.sessionList.active := by
                    rw [sessionList, sessionList, activeCount_of_hush same]
                  simp only [asked, found, context]
                  exact Wire.encode_sessionList_iff active (list_of_hush same)
              | getSession raw => exact getSession_cases same now found context
              | _ => cases reads

inductive Told (texts texts' : List (Option String)) : Served → Served → Prop
  | ceremony (call : Call) (nothing : texts = [] ∧ texts' = []) :
      Told texts texts' (.ceremony call) (.ceremony call)
  | response {b b' : App} (same : b'.hush = b.hush) (response response' : Response)
      (status : response'.status = response.status)
      (same_iff : response' = response ↔ texts' = texts) :
      Told texts texts' (.response b response) (.response b' response')

theorem begin_told (same : a'.hush = a.hush) (now : Timestamp) (q : Http.Request) :
    Told (a.shown q) (a'.shown q) (a.begin now q) (a'.begin now q) := by
  rw [begin_eq, begin_eq]
  rcases routed_cases same now q with ⟨echo, nothing, nothing'⟩ | ⟨j, j', served, served', hiff⟩
  · have hshown : a.shown q = [] := by simp [shown, nothing]
    have hshown' : a'.shown q = [] := by simp [shown, nothing']
    rw [hshown, hshown']
    generalize a.routed now q = x at echo
    generalize a'.routed now q = x' at echo
    cases echo with
    | refused response =>
        rw [reply_error, reply_error]
        exact .response same _ _ rfl ⟨fun _ => rfl, fun _ => rfl⟩
    | answered after response =>
        rw [reply_response, reply_response]
        exact .response after _ _ rfl ⟨fun _ => rfl, fun _ => rfl⟩
    | ceremony call =>
        rw [reply_ceremony, reply_ceremony]
        exact .ceremony call ⟨rfl, rfl⟩
  · rw [served, served', reply_response, reply_response]
    by_cases head : q.method = "HEAD"
    · simp only [if_pos head, shown]
      exact .response same _ _ rfl ⟨fun _ => rfl, fun _ => rfl⟩
    · simp only [if_neg head, shown]
      refine .response same _ _ rfl ?_
      rw [← hiff]
      simp [ok]

end Pair

end App

end Conclave

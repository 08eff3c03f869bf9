import Conclave.Proofs.Gate
import Conclave.Proofs.Paths
import Conclave.Proofs.Run

namespace Conclave

namespace App

open Api

structure Renamed (f : SessionId → SessionId) (a a' : App) : Prop where
  config : a'.coordinator.config = a.coordinator.config
  registry : a'.coordinator.registry = a.coordinator.registry
  usage : a'.usage = a.usage
  defaults : a'.defaults = a.defaults
  records : List.Forall₂
    (fun e e' => e'.1 = f e.1 ∧
      ∃ text, e'.2 = { e.2 with session := f e.2.session, error := text })
    a.coordinator.docket.records.entries a'.coordinator.docket.records.entries
  topics : a'.coordinator.bus.topics.entries =
    a.coordinator.bus.topics.entries.map fun e => (f e.1, e.2)
  channels : a'.coordinator.bus.channels.entries =
    a.coordinator.bus.channels.entries.map fun e => (e.1, { e.2 with session := f e.2.session })
  next : a'.coordinator.bus.next = a.coordinator.bus.next

section

variable {f : SessionId → SessionId} {a a' : App}

theorem Renamed.activeCount (renamed : Renamed f a a') :
    a'.coordinator.docket.activeCount = a.coordinator.docket.activeCount := by
  have hrecords := renamed.records
  simp only [Session.Docket.activeCount, Keyed.values, List.countP_map]
  generalize a.coordinator.docket.records.entries = entries at hrecords ⊢
  generalize a'.coordinator.docket.records.entries = entries' at hrecords ⊢
  induction hrecords with
  | nil => rfl
  | cons head _ ih =>
      obtain ⟨-, text, h⟩ := head
      simp only [List.countP_cons, Function.comp_apply, h, ih]

theorem setRegistry_self (a : App) : a.setRegistry a.coordinator.registry = a := rfl

theorem Renamed.setRegistry (renamed : Renamed f a a') (registry : Registry) :
    Renamed f (a.setRegistry registry) (a'.setRegistry registry) where
  config := renamed.config
  registry := rfl
  usage := renamed.usage
  defaults := renamed.defaults
  records := renamed.records
  topics := renamed.topics
  channels := renamed.channels
  next := renamed.next

inductive Alike (a a' : App) : Answered Served → Answered Served → Prop
  | refused (response : Response) : Alike a a' (.error response) (.error response)
  | answered (registry : Registry) (response : Response) :
      Alike a a' (.ok (.response (a.setRegistry registry) response))
        (.ok (.response (a'.setRegistry registry) response))

theorem Alike.bind {α : Type} (x : Answered α) {k k' : α → Answered Served}
    (next : ∀ v, x = .ok v → Alike a a' (k v) (k' v)) : Alike a a' (x >>= k) (x >>= k') := by
  cases x with
  | error response => exact .refused response
  | ok v => exact next v rfl

def Elsewhere (target : String) (b : Bus) : Prop :=
  ∀ s, b.isSubscribed s = true →
    Text.percentDecode? (Route.pathOf target) ≠ some ("/internal/results/" ++ s.text)

theorem publishResult_elsewhere {method target raw session : String} {b : Bus}
    (found : Route.find method target = .ok (.publishResult raw))
    (decoded : pathText raw = .ok session) (elsewhere : Elsewhere target b)
    (result : CeremonyResult) : publishResult session result b = .error (.noSubscriber session) := by
  have hdecoded : Text.percentDecode? raw = some session := by
    unfold pathText at decoded
    split at decoded
    · rename_i s hs
      cases decoded
      exact hs
    · cases decoded
  have hnone : b.topics.get? ⟨session⟩ = none := by
    by_contra htopic
    have hsubscribed : b.isSubscribed ⟨session⟩ = true :=
      Option.isSome_iff_ne_none.2 htopic
    exact elsewhere _ hsubscribed (Route.decoded_of_publishResult found hdecoded)
  simp only [publishResult, Bus.publish, Bus.find, hnone]

variable {q : Http.Request}

theorem serve_alike (renamed : Renamed f a a') (anonymous : ¬ Identified q.headers)
    (elsewhere : Elsewhere q.target a.coordinator.bus)
    (elsewhere' : Elsewhere q.target a'.coordinator.bus) (now : Timestamp) {method : String}
    {route : Route} (found : Route.find method q.target = .ok route) :
    Alike a a' (a.serve now q route) (a'.serve now q route) := by
  have registry := renamed.registry
  have unchanged : ∀ response, Alike a a' (.ok (.response a response))
      (.ok (.response a' response)) := by
    intro response
    have h : Alike a a' _ _ := .answered a.coordinator.registry response
    rwa [← registry, setRegistry_self, registry, setRegistry_self] at h
  have asking : route.asksWho = true → Alike a a' (a.serve now q route) (a'.serve now q route) := by
    intro asks
    obtain ⟨response, -, refused⟩ := unidentified_of_serve now asks anonymous
    rw [refused, refused]
    exact .refused response
  cases route with
  | health =>
      have hhealth : a'.health = a.health := by
        rw [health, health, registry, renamed.activeCount]
      simp only [serve, hhealth]
      exact unchanged _
  | listNodes =>
      have hlist : a'.nodeList = a.nodeList := by
        simp only [nodeList, registry]
      simp only [serve, hlist]
      exact unchanged _
  | getNode raw =>
      refine Alike.bind _ fun id _ => ?_
      rw [registry]
      exact Alike.bind _ fun node _ => unchanged _
  | heartbeat raw =>
      refine Alike.bind _ fun id _ => Alike.bind _ fun body _ => ?_
      rw [registry]
      exact Alike.bind _ fun answer _ => .answered answer.2 _
  | publishResult raw =>
      refine Alike.bind _ fun session hsession => Alike.bind _ fun result _ => ?_
      rw [publishResult_elsewhere found hsession elsewhere,
        publishResult_elsewhere found hsession elsewhere']
      exact .refused _
  | registerNode => exact asking rfl
  | deregisterNode raw => exact asking rfl
  | createWallet => exact asking rfl
  | sign => exact asking rfl
  | listSessions => exact asking rfl
  | getSession raw => exact asking rfl
  | usage => exact asking rfl

theorem routed_alike (renamed : Renamed f a a') (anonymous : ¬ Identified q.headers)
    (elsewhere : Elsewhere q.target a.coordinator.bus)
    (elsewhere' : Elsewhere q.target a'.coordinator.bus) (now : Timestamp) :
    Alike a a' (a.routed now q) (a'.routed now q) := by
  unfold routed
  cases found : Route.find q.method q.target with
  | error status => exact .refused _
  | ok route => exact serve_alike renamed anonymous elsewhere elsewhere' now found

theorem sessions_not_enumerable (renamed : Renamed f a a') (anonymous : ¬ Identified q.headers)
    (elsewhere : Elsewhere q.target a.coordinator.bus)
    (elsewhere' : Elsewhere q.target a'.coordinator.bus) (now : Timestamp) :
    ∃ registry response,
      a.begin now q = .response (a.setRegistry registry) response ∧
      a'.begin now q = .response (a'.setRegistry registry) response ∧
      Renamed f (a.setRegistry registry) (a'.setRegistry registry) := by
  have same : a'.setRegistry a.coordinator.registry = a' := by
    rw [← renamed.registry, setRegistry_self]
  have alike := routed_alike renamed anonymous elsewhere elsewhere' now
  rw [begin_eq, begin_eq]
  generalize a.routed now q = answer at alike
  generalize a'.routed now q = answer' at alike
  cases alike with
  | refused response =>
      refine ⟨a.coordinator.registry, _, reply_error a q response, ?_, renamed.setRegistry _⟩
      rw [same]
      exact reply_error a' q response
  | answered registry response =>
      exact ⟨registry, _, reply_response a _ q response, reply_response a' _ q response,
        renamed.setRegistry _⟩

def occupied (s : SessionId) : App :=
  .new { Coordinator.oneNode with
    docket := Session.Docket.empty.create ⟨0, 0⟩ s (.keygen "alice" 1 1)
    bus := ⟨Keyed.empty.insert s ⟨0⟩, Keyed.empty.insert ⟨0⟩ ⟨s, none, 0⟩, 1⟩ } .standard

def look : Http.Request := ⟨"GET", "/api/v1/sessions/S1", [], ""⟩

theorem sessions_not_enumerable_look :
    Renamed (fun _ => ⟨"S2"⟩) (occupied ⟨"S1"⟩) (occupied ⟨"S2"⟩) ∧ ¬ Identified look.headers ∧
      Elsewhere look.target (occupied ⟨"S1"⟩).coordinator.bus ∧
      Elsewhere look.target (occupied ⟨"S2"⟩).coordinator.bus ∧
      ∃ registry response,
        (occupied ⟨"S1"⟩).begin ⟨1, 0⟩ look =
          .response ((occupied ⟨"S1"⟩).setRegistry registry) response ∧
        (occupied ⟨"S2"⟩).begin ⟨1, 0⟩ look =
          .response ((occupied ⟨"S2"⟩).setRegistry registry) response := by
  have renamed : Renamed (fun _ => ⟨"S2"⟩) (occupied ⟨"S1"⟩) (occupied ⟨"S2"⟩) :=
    ⟨rfl, rfl, rfl, rfl, .cons ⟨rfl, none, rfl⟩ .nil, rfl, rfl, rfl⟩
  have anonymous : ¬ Identified look.headers := by
    rintro ⟨⟨t, ⟨before, h, after, hheaders, -⟩, -⟩, -⟩
    simp [look] at hheaders
  have elsewhere : ∀ s, (s = "S1" ∨ s = "S2") → Elsewhere look.target (occupied ⟨s⟩).coordinator.bus := by
    intro s hs t ht hdecoded
    have htopic : t = ⟨s⟩ := by
      by_contra hne
      simp [occupied, App.new, Bus.isSubscribed, Keyed.contains, hne] at ht
    rw [Text.percentDecode?_eq_some, htopic] at hdecoded
    rcases hs with rfl | rfl <;> revert hdecoded <;> decide +kernel
  obtain ⟨registry, response, h, h', -⟩ := sessions_not_enumerable renamed anonymous
    (elsewhere _ (Or.inl rfl)) (elsewhere _ (Or.inr rfl)) ⟨1, 0⟩
  exact ⟨renamed, anonymous, elsewhere _ (Or.inl rfl), elsewhere _ (Or.inr rfl), registry, response,
    h, h'⟩

end

end App

end Conclave

import Conclave.Proofs.Gate
import Conclave.Proofs.Scenes

namespace Conclave

namespace Api

def publication? (q : Http.Request) : Option (SessionId × CeremonyResult) :=
  match Route.find q.method q.target with
  | .ok (.publishResult raw) =>
      match pathText raw, bodyOf Wire.ceremonyResult q with
      | .ok session, .ok result => some (⟨session⟩, result)
      | _, _ => none
  | _ => none

inductive Leaves (q : Http.Request) (c c' : Coordinator) : Prop
  | administers (registry : Registry) (silent : publication? q = none)
      (after : c' = { c with registry := registry })
  | publishes (s : SessionId) (result : CeremonyResult)
      (published : publication? q = some (s, result)) (after : c' = (c.publish s result).2)
  | misses (s : SessionId) (result : CeremonyResult)
      (published : publication? q = some (s, result)) (refused : (c.publish s result).1 = false)
      (after : c' = c)

theorem publication?_of_route {q : Http.Request} {route : Route}
    (found : Route.find q.method q.target = .ok route) (other : ∀ raw, route ≠ .publishResult raw) :
    publication? q = none := by
  unfold publication?
  rw [found]
  cases route <;> first | rfl | exact absurd rfl (other _)

theorem publishResult_eq (session : String) (result : CeremonyResult) (c : Coordinator) :
    (∃ e, publishResult session result c.bus = .error e ∧
        (c.publish ⟨session⟩ result).1 = false) ∨
      publishResult session result c.bus = .ok (c.publish ⟨session⟩ result).2.bus := by
  unfold publishResult Coordinator.publish
  cases c.bus.publish ⟨session⟩ result with
  | mk taken bus => cases taken <;> simp

theorem leaves_of_publishResult (now : Timestamp) (a : App) {q : Http.Request} {raw : String}
    (found : Route.find q.method q.target = .ok (.publishResult raw)) :
    (∀ b response, a.serve now q (.publishResult raw) = .ok (.response b response) →
        Leaves q a.coordinator b.coordinator) ∧
      ((∃ r, a.serve now q (.publishResult raw) = .error r) →
        Leaves q a.coordinator a.coordinator) ∧
      ∀ call, a.serve now q (.publishResult raw) ≠ .ok (.ceremony call) := by
  simp only [App.serve]
  cases hpath : pathText raw with
  | error _ =>
      refine ⟨fun _ _ h => ?_, fun _ => .administers _ ?_ rfl, fun _ h => ?_⟩
      · cases h
      · simp only [publication?, found, hpath]
      · cases h
  | ok session =>
      cases hbody : bodyOf Wire.ceremonyResult q with
      | error _ =>
          refine ⟨fun _ _ h => ?_, fun _ => .administers _ ?_ rfl, fun _ h => ?_⟩
          · cases h
          · simp only [publication?, found, hpath, hbody]
          · cases h
      | ok result =>
          have published : publication? q = some (⟨session⟩, result) := by
            simp only [publication?, found, hpath, hbody]
          rcases publishResult_eq session result a.coordinator with ⟨e, hrefused, hmissed⟩ | htaken
          · simp only [bind, Except.bind, hrefused, orRefuse]
            refine ⟨fun _ _ h => ?_, fun _ => .misses _ result published hmissed rfl, fun _ h => ?_⟩
            · cases h
            · cases h
          · simp only [bind, Except.bind, htaken, orRefuse]
            refine ⟨fun b response h => ?_, fun refused => ?_, fun _ h => ?_⟩
            · cases h
              exact .publishes _ result published rfl
            · obtain ⟨_, h⟩ := refused
              cases h
            · cases h

theorem leaves_of_route {now : Timestamp} {a b : App} {q : Http.Request} {route : Route}
    {response : Response} (found : Route.find q.method q.target = .ok route)
    (other : ∀ raw, route ≠ .publishResult raw)
    (served : a.serve now q route = .ok (.response b response)) :
    Leaves q a.coordinator b.coordinator := by
  have silent := publication?_of_route found other
  cases route with
  | health =>
      cases served
      exact .administers _ silent rfl
  | listNodes =>
      cases served
      exact .administers _ silent rfl
  | registerNode =>
      obtain ⟨_, -, h⟩ := bind_eq_ok.1 served
      obtain ⟨_, -, h⟩ := bind_eq_ok.1 h
      obtain ⟨_, -, h⟩ := bind_eq_ok.1 h
      obtain ⟨_, -, h⟩ := bind_eq_ok.1 h
      cases h
      exact .administers _ silent rfl
  | getNode raw =>
      obtain ⟨_, -, h⟩ := bind_eq_ok.1 served
      obtain ⟨_, -, h⟩ := bind_eq_ok.1 h
      cases h
      exact .administers _ silent rfl
  | deregisterNode raw =>
      obtain ⟨_, -, h⟩ := bind_eq_ok.1 served
      obtain ⟨_, -, h⟩ := bind_eq_ok.1 h
      obtain ⟨_, -, h⟩ := bind_eq_ok.1 h
      obtain ⟨_, -, h⟩ := bind_eq_ok.1 h
      cases h
      exact .administers _ silent rfl
  | heartbeat raw =>
      obtain ⟨_, -, h⟩ := bind_eq_ok.1 served
      obtain ⟨_, -, h⟩ := bind_eq_ok.1 h
      obtain ⟨_, -, h⟩ := bind_eq_ok.1 h
      cases h
      exact .administers _ silent rfl
  | createWallet =>
      obtain ⟨_, -, h⟩ := bind_eq_ok.1 served
      obtain ⟨_, -, h⟩ := bind_eq_ok.1 h
      obtain ⟨_, -, h⟩ := bind_eq_ok.1 h
      cases h
  | sign =>
      obtain ⟨_, -, h⟩ := bind_eq_ok.1 served
      obtain ⟨_, -, h⟩ := bind_eq_ok.1 h
      obtain ⟨_, -, h⟩ := bind_eq_ok.1 h
      cases h
  | listSessions =>
      obtain ⟨_, -, h⟩ := bind_eq_ok.1 served
      cases h
      exact .administers _ silent rfl
  | getSession raw =>
      obtain ⟨_, -, h⟩ := bind_eq_ok.1 served
      obtain ⟨id, -, h⟩ := bind_eq_ok.1 h
      cases hrecord : a.coordinator.session ⟨id⟩ with
      | error _ =>
          rw [hrecord] at h
          cases h
      | ok _ =>
          rw [hrecord] at h
          cases h
          exact .administers _ silent rfl
  | usage =>
      obtain ⟨_, -, h⟩ := bind_eq_ok.1 served
      cases h
      exact .administers _ silent rfl
  | publishResult raw => exact absurd rfl (other raw)

theorem leaves_of_begin {now : Timestamp} {a b : App} {q : Http.Request} {response : Response}
    (h : a.begin now q = .response b response) : Leaves q a.coordinator b.coordinator := by
  rw [App.begin_eq] at h
  have unserved : ∀ r, a.routed now q = .error r → b = a := by
    intro r hr
    rw [hr, App.reply_error] at h
    cases h
    rfl
  have served : ∀ s, a.routed now q = .ok s → ∃ r, s = .response b r := by
    intro s hs
    rw [hs] at h
    cases s with
    | ceremony call =>
        rw [App.reply_ceremony] at h
        cases h
    | response b' r =>
        rw [App.reply_response] at h
        cases h
        exact ⟨r, rfl⟩
  unfold App.routed at unserved served
  cases found : Route.find q.method q.target with
  | error status =>
      rw [unserved (rejection status) (by simp only [found])]
      exact .administers _ (by simp only [publication?, found]) rfl
  | ok route =>
      simp only [found] at unserved served
      by_cases other : ∀ raw, route ≠ .publishResult raw
      · cases hs : a.serve now q route with
        | error r =>
            rw [unserved r hs]
            exact .administers _ (publication?_of_route found other) rfl
        | ok s =>
            obtain ⟨r, rfl⟩ := served s hs
            exact leaves_of_route found other hs
      · push Not at other
        obtain ⟨raw, rfl⟩ := other
        obtain ⟨told, refused, -⟩ := leaves_of_publishResult now a found
        cases hs : a.serve now q (.publishResult raw) with
        | error r =>
            rw [unserved r hs]
            exact refused ⟨r, hs⟩
        | ok s =>
            obtain ⟨r, rfl⟩ := served s hs
            exact told b r hs

theorem publication?_of_ceremony {now : Timestamp} {a : App} {q : Http.Request} {call : Call}
    (h : a.begin now q = .ceremony call) : publication? q = none := by
  rw [App.begin_eq] at h
  have served : ∃ call, a.routed now q = .ok (.ceremony call) := by
    cases hr : a.routed now q with
    | error r =>
        rw [hr, App.reply_error] at h
        cases h
    | ok s =>
        cases s with
        | ceremony call => exact ⟨call, rfl⟩
        | response b r =>
            rw [hr, App.reply_response] at h
            cases h
  obtain ⟨call, hcall⟩ := served
  unfold App.routed at hcall
  cases found : Route.find q.method q.target with
  | error status => simp only [publication?, found]
  | ok route =>
      simp only [found] at hcall
      refine publication?_of_route found fun raw hroute => ?_
      subst hroute
      exact (leaves_of_publishResult now a found).2.2 call hcall

end Api

end Conclave

namespace Conclave.Rehearsal

def named (n : Nat) : SessionId := ⟨s!"S{n}"⟩

theorem toList_named (n : Nat) : (named n).text.toList = 'S' :: Nat.toDigits 10 n := by
  simp [named]
  rfl

theorem named_injective {i j : Nat} (h : named i = named j) : i = j := by
  have digits : Nat.toDigits 10 i = Nat.toDigits 10 j :=
    (List.cons.inj ((toList_named i).symm.trans (h ▸ toList_named j))).2
  have read : Function.LeftInverse (fun l => Nat.ofDigitChars 10 l 0) (Nat.toDigits 10) :=
    fun _ => Nat.ofDigitChars_ten_toDigits
  exact read.injective digits

theorem named_ne_nameless (n : Nat) : named n ≠ ⟨""⟩ := by
  intro h
  have text := toList_named n
  rw [h] at text
  cases text

structure Scene.Blank (σ : Scene) : Prop where
  standing : σ.standing = none
  dues : σ.dues.entries = []
  callers : ∀ e ∈ σ.callers, ∃ a, e.2.stage = .ended a ∧
    ∀ s parties action, a ≠ .started s parties action

def Unheard (r : Rehearsal) : Prop :=
  ∀ n, r.minted < n → (r.scene (named n)).Blank ∧ named n ∉ r.held

structure Orderly (m : Moment) (r : Rehearsal) : Prop where
  sane : r.Sane
  attended : r.Attended
  ahead : r.Ahead m
  unheard : r.Unheard

namespace Scene

theorem Blank.not_received {σ : Scene} (blank : σ.Blank) : σ.isReceived = false := by
  rw [isReceived, List.any_eq_false]
  intro e he
  obtain ⟨a, ended, -⟩ := blank.callers e he
  simp [Caller.isReceiving, ended]

theorem Blank.rests {σ : Scene} (blank : σ.Blank) (u : SessionId) : σ.Rests u := by
  intro hreceived
  rw [blank.not_received] at hreceived
  cases hreceived

theorem later_of_ahead {σ : Scene} {clock : Nat} (ahead : ∀ e ∈ σ.dues.entries, clock < e.1) :
    σ.dues.due clock = [] ∧ σ.dues.later clock = σ.dues := by
  constructor
  · rw [Agenda.due, List.filter_eq_nil_iff.2, List.map_nil]
    intro e he
    simpa using ahead e he
  · rw [Agenda.later, List.filter_eq_self.2]
    intro e he
    simpa using ahead e he

theorem settle_of_ahead {σ : Scene} {clock : Nat} (ahead : ∀ e ∈ σ.dues.entries, clock < e.1)
    (u : SessionId) (budget : Duration) : σ.settle u budget clock = σ.attend u := by
  obtain ⟨undue, later⟩ := later_of_ahead ahead
  rw [settle, undue, later]
  rfl

theorem Blank.settle {σ : Scene} (blank : σ.Blank) (u : SessionId) (budget : Duration)
    (clock : Nat) : (σ.settle u budget clock).Blank := by
  rw [settle_of_ahead (by simp [blank.dues]), attend_of_rests (blank.rests u)]
  exact blank

theorem Blank.of_callers {σ σ' : Scene} (blank : σ.Blank) (standing : σ'.standing = none)
    (dues : σ'.dues = σ.dues) (callers : σ'.callers = σ.callers) : σ'.Blank :=
  ⟨standing, dues ▸ blank.dues, callers ▸ blank.callers⟩

theorem Blank.deliver {σ : Scene} (blank : σ.Blank) (result : CeremonyResult) :
    (σ.deliver result).Blank :=
  blank.of_callers (by simp [Scene.deliver, blank.standing]) rfl rfl

theorem Blank.close {σ : Scene} (blank : σ.Blank) : σ.close.Blank :=
  blank.of_callers (by simp [Scene.close, blank.standing]) rfl rfl

def refuse (ticket : Nat) (c : Caller) (f : Failure) (σ : Scene) : Scene :=
  (σ.enter ticket c).setStage ticket (.ended (c.told (.error f)))

theorem Blank.refuse {σ : Scene} (blank : σ.Blank) (ticket : Nat) (c : Caller) (f : Failure) :
    (σ.refuse ticket c f).Blank := by
  refine ⟨blank.standing, blank.dues, fun e' he' => ?_⟩
  obtain ⟨e, he, rfl⟩ := List.mem_map.1 he'
  by_cases same : e.1 = ticket
  · exact ⟨_, by rw [Keyed.touch, if_pos same], c.told_ne_started (.error f)⟩
  · rw [touch_ne _ same]
    rcases List.mem_append.1 he with hold | hnew
    · exact blank.callers e hold
    · obtain rfl := List.mem_singleton.1 hnew
      exact absurd rfl same

end Scene

section Steps

variable {b : Nat} {change : SessionId → Scene → Scene} {m : Moment} {r r' : Rehearsal}
  {s : SessionId} {f : Scene → Scene}

theorem Unheard.of_becomes (unheard : r.Unheard) (h : Becomes b change r r')
    (blank : ∀ n, r.minted < n → ∀ σ, σ.Blank → (change (named n) σ).Blank) : r'.Unheard := by
  intro n hn
  rw [h.minted] at hn
  rw [h.scenes, h.held]
  exact ⟨blank n hn _ (unheard n hn).1, (unheard n hn).2⟩

theorem Unheard.of_here (unheard : r.Unheard) (h : Becomes b (only s f) r r')
    (blank : (∀ n, r.minted < n → s ≠ named n) ∨ ∀ σ : Scene, σ.Blank → (f σ).Blank) :
    r'.Unheard := by
  refine unheard.of_becomes h fun n hn σ hσ => ?_
  unfold only
  split
  · rename_i hs
    rcases blank with other | keeps
    · exact absurd hs.symm (other n hn)
    · exact keeps σ hσ
  · exact hσ

theorem Becomes.rooted (h : Becomes b change r r')
    (rooted : ∀ e ∈ r.agenda.entries, Rooted e) : ∀ e ∈ r'.agenda.entries, Rooted e := by
  intro e he
  rcases h.agenda e he with hold | hnew
  · exact rooted e hold
  · exact hnew.2

theorem orderly_settle (sane : r.Sane) (rooted : ∀ e ∈ r.agenda.entries, Rooted e)
    (unheard : r.Unheard) :
    (r.settle m).Orderly m ∧ (r.settle m).coordinator.config = r.coordinator.config ∧
      (r.settle m).minted = r.minted ∧
      ∀ u, (r.settle m).scene u =
        (r.scene u).settle u r.coordinator.config.dispatchTimeout m.clock := by
  obtain ⟨settled, attended, ahead⟩ := becomes_settle (m := m) sane rooted
  exact ⟨⟨settled.sane, attended, ahead,
    unheard.of_becomes settled fun _ _ _ blank => blank.settle _ _ _⟩,
    settled.config, settled.minted, settled.scenes⟩

theorem Orderly.dues (orderly : r.Orderly m) (u : SessionId) :
    ∀ e ∈ (r.scene u).dues.entries, m.clock < e.1 :=
  fun e he => (orderly.ahead e (List.mem_filter.1 he).1).1

theorem becomes_of_parts (sane : r.Sane) (app : r'.app = r.app) (agenda : r'.agenda = r.agenda)
    (callers : r'.callers = r.callers) (held : r'.held = r.held) (minted : r'.minted = r.minted) :
    Becomes b (fun _ σ => σ) r r' := by
  have coordinator : r'.coordinator = r.coordinator := congrArg App.coordinator app
  refine ⟨⟨?_, ?_, ?_⟩, fun u => ?_, ?_, held, minted, fun e he => Or.inl ?_⟩
  · rw [coordinator]
    exact sane.linked
  · rw [callers]
    exact sane.tickets
  · rw [callers]
    exact sane.told
  · rw [scene, coordinator, callers, agenda]
    rfl
  · rw [coordinator]
  · exact agenda ▸ he

end Steps

namespace Scene

def deliverAll (results : List CeremonyResult) (σ : Scene) : Scene :=
  results.foldl (fun σ result => σ.deliver result) σ

def awaitReply (s : SessionId) (budget : Duration) (clock : Nat) (script : Script) (σ : Scene) :
    Scene :=
  match script.reaction.reply? s with
  | none => σ.remind (clock + budget.millis) (.reply s .overdue)
  | some reply =>
      if script.delay = 0 then σ.answer s budget clock reply
      else (σ.remind (clock + script.delay) (.reply s reply)).remind (clock + budget.millis)
        (.reply s .overdue)

def foresee (s : SessionId) (clock : Nat) (later : List (Nat × CeremonyResult)) (σ : Scene) :
    Scene :=
  later.foldl (fun σ p => σ.remind (clock + p.1) (.publication s p.2)) σ

def launch (s : SessionId) (budget : Duration) (clock : Nat) (script : Script) (ticket : Nat)
    (c : Caller) (σ : Scene) : Scene :=
  ((({ σ with standing := some (.opened c.action) }.enter ticket c).deliverAll
    (script.atOnce c.action)).awaitReply s budget clock script).foresee s clock
      (script.later c.action)

end Scene

section Launch

variable {b : Nat} {m : Moment} {r : Rehearsal} {s : SessionId}

theorem becomes_operate (sane : r.Sane) (op : Registry.Operation) :
    Becomes b (fun _ σ => σ) r (r.operate m op).2 :=
  becomes_setCoordinator_of_same sane rfl rfl rfl

theorem becomes_notify (sane : r.Sane) {n : Notice} (session : n.session = s) :
    Becomes b (only s (Scene.deliverAll (r.script.atOnce n.action))) r (r.notify m n) := by
  have during : ∀ (ops : List Registry.Operation) (r : Rehearsal), r.Sane →
      Becomes b (fun _ σ => σ) r (ops.foldl (fun r op => (r.operate m op).2) r) ∧
        (ops.foldl (fun r op => (r.operate m op).2) r).script = r.script := by
    intro ops
    induction ops with
    | nil => exact fun r sane => ⟨.refl sane, rfl⟩
    | cons op rest ih =>
        intro r sane
        have hop := becomes_operate (b := b) (m := m) sane op
        obtain ⟨hrest, hscript⟩ := ih _ hop.sane
        exact ⟨hop.trans hrest, hscript⟩
  have atOnce : ∀ (results : List CeremonyResult) (r : Rehearsal), r.Sane →
      Becomes b (only s (Scene.deliverAll results)) r (results.foldl (fun r result =>
        { (r.publish n.session result).2 with
          deliveries := (r.publish n.session result).2.deliveries ++
            [(r.publish n.session result).1] }) r) := by
    intro results
    induction results with
    | nil => exact fun r sane => .still sane rfl
    | cons result rest ih =>
        intro r sane
        have hpublish := becomes_publish (b := b) (s := s) sane result
        rw [← session] at hpublish ⊢
        have hnote : Becomes b (fun _ σ => σ) (r.publish n.session result).2
            { (r.publish n.session result).2 with
              deliveries := (r.publish n.session result).2.deliveries ++
                [(r.publish n.session result).1] } :=
          becomes_of_parts hpublish.sane rfl rfl rfl rfl rfl
        have hrest := ih _ hnote.sane
        rw [← session] at hrest
        exact (hpublish.trans hnote).then_here hrest
  have hnotice : Becomes b (fun _ σ => σ) r { r with notices := r.notices ++ [n] } :=
    becomes_of_parts sane rfl rfl rfl rfl rfl
  obtain ⟨hduring, hscript⟩ := during r.script.during _ hnotice.sane
  have hatOnce := atOnce (r.script.atOnce n.action) _ hduring.sane
  rw [notify]
  simp only [hscript]
  exact (hnotice.trans hduring).trans hatOnce

theorem becomes_awaitReply (sane : r.Sane) (script : Script) :
    Becomes m.clock
      (only s (Scene.awaitReply s r.coordinator.config.dispatchTimeout m.clock script)) r
      (r.awaitReply m s script) := by
  unfold awaitReply
  cases hreply : script.reaction.reply? s with
  | none =>
      exact (becomes_remind sane rfl (Nat.le_add_right _ _)).of_here (by
        simp only [Scene.awaitReply, hreply])
  | some reply =>
      by_cases hdelay : script.delay = 0
      · simp only [hdelay, if_true]
        exact ((becomes_answer sane reply).mono (Nat.le_succ _)).of_here (by
          simp only [Scene.awaitReply, hreply, hdelay, if_true])
      · simp only [hdelay, if_false]
        have hremind := becomes_remind (s := s) (b := m.clock) (t := m.clock + script.delay)
          (e := .reply s reply) sane rfl (Nat.le_add_right _ _)
        exact (hremind.then_here (becomes_remind hremind.sane rfl (Nat.le_add_right _ _))).of_here
          (by simp only [Scene.awaitReply, hreply, hdelay, if_false])

theorem becomes_foresee (sane : r.Sane) {n : Notice} (session : n.session = s) (script : Script) :
    Becomes m.clock (only s (Scene.foresee s m.clock (script.later n.action))) r
      (r.foresee m n script) := by
  unfold foresee
  rw [session]
  induction script.later n.action generalizing r with
  | nil => exact .still sane rfl
  | cons p rest ih =>
      have hremind := becomes_remind (s := s) (b := m.clock) (t := m.clock + p.1)
        (e := .publication s p.2) sane rfl (Nat.le_add_right _ _)
      exact hremind.then_here (ih hremind.sane)

def Caller.launching (errand : Errand) (s : SessionId) (request : Session.Request)
    (deadline : Duration) (parties : List NodeId) : Caller :=
  ⟨errand, s, parties, request.action, deadline, true, .dispatching⟩

def next (r : Rehearsal) : Rehearsal := { r with minted := r.minted + 1 }

theorem sane_next (sane : r.Sane) : r.next.Sane := ⟨sane.linked, sane.tickets, sane.told⟩

theorem unheard_next (unheard : r.Unheard) : r.next.Unheard :=
  fun n hn => unheard n (Nat.lt_of_succ_lt hn)

theorem mint_eq (r : Rehearsal) (request : Session.Request) :
    r.mint request = r ∨ r.mint request = r.next := by
  unfold mint
  split
  · exact Or.inr rfl
  · exact Or.inl rfl

theorem sane_mint (sane : r.Sane) (request : Session.Request) :
    (r.mint request).Sane ∧ (r.mint request).coordinator = r.coordinator ∧
      (r.mint request).callers = r.callers := by
  rcases r.mint_eq request with same | next
  · rw [same]
    exact ⟨sane, rfl, rfl⟩
  · rw [next]
    exact ⟨sane_next sane, rfl, rfl⟩

theorem named_ne_next {n : Nat} (hn : n ≤ r.minted) : named n ≠ r.nextSession := by
  intro same
  have := named_injective same
  omega

theorem launch_of_chosen (sane : r.Sane) (unheard : r.Unheard) (errand : Errand)
    {request : Session.Request} (deadline : Duration) {parties : List NodeId}
    (valid : request.validate = .ok ())
    (chosen : r.coordinator.chosen r.nextSession (fun _ => 0) request = .ok parties) :
    ∃ r', r.launch m errand request deadline = (r.callers.size, r'.settle m) ∧
      Becomes m.clock
        (only r.nextSession (Scene.launch r.nextSession r.coordinator.config.dispatchTimeout m.clock
          r.script r.callers.size
          (Caller.launching errand r.nextSession request deadline parties))) r.next r' := by
  have gone : r.coordinator.standing r.nextSession = none :=
    (unheard (r.minted + 1) (Nat.lt_succ_self _)).1.standing
  obtain ⟨channel, bus, open'⟩ := Coordinator.subscribe_of_gone sane.linked gone
  have result := Coordinator.start_of_chosen m.wall valid chosen open'
  have hset := becomes_setCoordinator (b := m.clock) (s := r.nextSession)
    (f := fun _ => some (.opened request.action)) (sane_next sane)
    (c := r.coordinator.launch m.wall r.nextSession request parties channel bus)
    (Coordinator.linked_launch sane.linked open') rfl
    (Coordinator.standing_launch sane.linked open')
  have henroll := hset.then_here (becomes_enroll (s := r.nextSession)
    (c := Caller.launching errand r.nextSession request deadline parties) hset.sane rfl
    fun _ _ _ h => by cases h)
  have hnotify := henroll.then_here (becomes_notify (m := m)
    (n := request.notice r.nextSession parties) henroll.sane rfl)
  have hawait := hnotify.then_here (becomes_awaitReply hnotify.sane r.script)
  have hforesee := hawait.then_here (becomes_foresee (m := m)
    (n := request.notice r.nextSession parties) hawait.sane rfl r.script)
  refine ⟨_, ?_, hforesee.of_here ?_⟩
  · simp only [launch, result, mint, valid, Except.isOk, Except.toBool, if_true]
    rfl
  · rw [hnotify.config]
    rfl

theorem launch_of_refused (sane : r.Sane) (errand : Errand) {request : Session.Request}
    (deadline : Duration) {f : Failure} {c : Coordinator}
    (refused : r.coordinator.start m.wall r.nextSession (fun _ => 0) request = (.error f, c)) :
    Becomes b
      (only r.nextSession (Scene.refuse r.callers.size
        (Caller.launching errand r.nextSession request deadline []) f))
      (r.mint request) (r.launch m errand request deadline).2 := by
  obtain ⟨hmint, coordinator, callers⟩ := sane_mint sane request
  obtain ⟨leases, bus, config⟩ := Coordinator.kept_of_start refused
  have size : ((r.mint request).setCoordinator c).callers.size = r.callers.size :=
    congrArg Keyed.size callers
  have hset := becomes_setCoordinator_of_same (b := b) (c := c) hmint
    (by rw [coordinator, leases]) (by rw [coordinator, bus]) (by rw [coordinator, config])
  have henroll := becomes_enroll (b := b) (s := r.nextSession)
    (c := Caller.launching errand r.nextSession request deadline []) hset.sane rfl
    fun _ _ _ h => by cases h
  have entry : (((r.mint request).setCoordinator c).callers.size,
      Caller.launching errand r.nextSession request deadline []) ∈
      (((r.mint request).setCoordinator c).enroll
        (Caller.launching errand r.nextSession request deadline [])).2.callers.entries := by
    rw [entries_enroll hset.sane]
    exact List.mem_append_right _ (List.mem_singleton.2 rfl)
  have hall := hset.trans (henroll.then_here (becomes_tell henroll.sane entry rfl (.error f)))
  have launched : (r.launch m errand request deadline).2 =
      (((r.mint request).setCoordinator c).enroll (Caller.launching errand r.nextSession request
        deadline [])).2.conclude ((r.mint request).setCoordinator c).callers.size
          (Caller.launching errand r.nextSession request deadline []) (.error f) := by
    rw [launch, refused]
    cases hvalid : request.validate.isOk <;> simp only [mint, hvalid] <;> rfl
  rw [launched]
  rw [size] at hall ⊢
  exact hall

end Launch

theorem answerTo?_eq_some {r : Rehearsal} {ticket : Nat} {a : Answer} :
    r.answerTo? ticket = some a ↔
      ∃ c, (ticket, c) ∈ r.callers.entries ∧ c.stage = .ended a := by
  unfold answerTo?
  simp only [Keyed.mem_entries_iff]
  cases found : r.callers.get? ticket with
  | none => simp
  | some c => cases hstage : c.stage <;> simp [hstage]

theorem wait_of_held {m : Moment} {r : Rehearsal} {s : SessionId} (sane : r.Sane)
    (held : r.held.contains s = true) (deadline : Duration) (patience : Option Nat) :
    ∃ c r', c.errand = .wait ∧ c.session = s ∧ c.stage = .receiving ∧
      r.wait m s deadline patience = some (r.callers.size, r'.settle m) ∧
      Becomes m.clock
        (only s fun σ => (σ.enter r.callers.size c).watch s m.clock deadline patience)
        { r with held := r.held.erase s } r' := by
  have hlet : ({ r with held := r.held.erase s } : Rehearsal).Sane :=
    ⟨sane.linked, sane.tickets, sane.told⟩
  have enter : ∀ c : Caller, c.session = s → c.stage = .receiving →
      Becomes m.clock
        (only s fun σ => (σ.enter r.callers.size c).watch s m.clock deadline patience)
        { r with held := r.held.erase s }
        (({ r with held := r.held.erase s }.enroll c).2.watch m s deadline patience) := by
    intro c session stage
    have henroll := becomes_enroll (b := m.clock) hlet session fun _ _ _ h => by
      rw [stage] at h
      cases h
    exact henroll.then_here ((becomes_watch henroll.sane deadline patience).mono (Nat.le_succ _))
  unfold wait
  rw [if_pos held]
  cases r.coordinator.leases.get? s with
  | none => exact ⟨_, _, rfl, rfl, rfl, rfl, enter _ rfl rfl⟩
  | some lease => exact ⟨_, _, rfl, rfl, rfl, rfl, enter _ rfl rfl⟩

inductive Deed where
  | cast (script : Script)
  | launch (errand : Errand) (request : Session.Request) (deadline : Duration)
  | wait (s : SessionId) (deadline : Duration) (patience : Option Nat)
  | request (q : Http.Request)
  | hold (ticket : Nat)
  | abort (ticket : Nat)
  | neglect (ticket : Nat)
  | drop (s : SessionId)
  | publish (s : SessionId) (result : CeremonyResult)
  | closeAll
  | operate (op : Registry.Operation)
  | prune (age : Duration)
  | equip (reaper : Reaper)
  | startReaper
  | stopReaper

namespace Deed

def perform (m : Moment) (r : Rehearsal) : Deed → Rehearsal
  | .cast script => { r with script := script }
  | .launch errand q deadline => (r.launch m errand q deadline).2
  | .wait s deadline patience => ((r.wait m s deadline patience).map Prod.snd).getD r
  | .request q => (r.request m q).2
  | .hold ticket => ((r.answerTo? ticket).map r.hold).getD r
  | .abort ticket => (r.abort m ticket).2
  | .neglect ticket => r.neglect m ticket
  | .drop s => (r.drop m s).2
  | .publish s result => (r.publish s result).2.settle m
  | .closeAll => (r.setCoordinator r.coordinator.closeAll).settle m
  | .operate op => (r.operate m op).2.settle m
  | .prune age => (r.setCoordinator (r.coordinator.prune m.wall age).2).settle m
  | .equip reaper => r.equip reaper
  | .startReaper => (r.startReaper m).settle m
  | .stopReaper => { r with stopping := true }

def disturbs (s : SessionId) (r : Rehearsal) : Deed → Prop
  | .wait k _ _ => k = s
  | .drop k => k = s
  | .abort ticket => ∃ c, (ticket, c) ∈ r.callers.entries ∧ c.session = s
  | .neglect ticket => ∃ c, (ticket, c) ∈ r.callers.entries ∧ c.session = s
  | _ => False

inductive Word where
  | publication (s : SessionId) (result : CeremonyResult)
  | closing

def word? : Deed → Option Word
  | .publish s result => some (.publication s result)
  | .request q => (Api.publication? q).map fun p => .publication p.1 p.2
  | .closeAll => some .closing
  | _ => none

end Deed

def Scene.hear (s : SessionId) (d : Deed) (σ : Scene) : Scene :=
  match d.word? with
  | none => σ
  | some (.publication k result) => only k (Scene.deliver result) s σ
  | some .closing => σ.close

structure Acts (d : Deed) (m : Moment) (r r' : Rehearsal) : Prop where
  orderly : r'.Orderly m
  config : r'.coordinator.config = r.coordinator.config
  minted : r.minted ≤ r'.minted
  scenes : ∀ n ≤ r.minted, ¬ d.disturbs (named n) r →
    r'.scene (named n) = ((r.scene (named n)).hear (named n) d).attend (named n)

section Acts

variable {m : Moment} {r r₁ r' : Rehearsal} {s : SessionId} {f : Scene → Scene}
  {change : SessionId → Scene → Scene} {d : Deed}

theorem Scene.parts_hear (s : SessionId) (d : Deed) (σ : Scene) :
    (σ.hear s d).dues = σ.dues ∧ (σ.hear s d).callers = σ.callers := by
  unfold Scene.hear only
  split
  · exact ⟨rfl, rfl⟩
  · split <;> exact ⟨rfl, rfl⟩
  · exact ⟨rfl, rfl⟩

structure Alike (r r₁ : Rehearsal) : Prop where
  sane : r₁.Sane
  scenes : ∀ u, r₁.scene u = r.scene u
  config : r₁.coordinator.config = r.coordinator.config
  agenda : r₁.agenda = r.agenda
  minted : r.minted ≤ r₁.minted

theorem Alike.refl (sane : r.Sane) : Alike r r := ⟨sane, fun _ => rfl, rfl, rfl, Nat.le_refl _⟩

theorem acts_of_settle (orderly : r.Orderly m) (alike : Alike r r₁)
    (h : Becomes m.clock change r₁ r') (unheard : r'.Unheard)
    (scenes : ∀ n ≤ r.minted, ¬ d.disturbs (named n) r →
      change (named n) (r.scene (named n)) = (r.scene (named n)).hear (named n) d) :
    Acts d m r (r'.settle m) := by
  have rooted := h.rooted fun e he => (orderly.ahead e (alike.agenda ▸ he)).2
  obtain ⟨horderly, hconfig, hminted, hscenes⟩ := orderly_settle (m := m) h.sane rooted unheard
  refine ⟨horderly, by rw [hconfig, h.config, alike.config],
    by rw [hminted, h.minted]; exact alike.minted, fun n hn spared => ?_⟩
  rw [hscenes, h.scenes, alike.scenes, scenes n hn spared]
  refine Scene.settle_of_ahead ?_ _ _
  rw [(Scene.parts_hear _ _ _).1]
  exact orderly.dues (named n)

theorem acts_of_alike (orderly : r.Orderly m) (alike : Alike r r') (unheard : r'.Unheard)
    (silent : ∀ s σ, Scene.hear s d σ = σ) : Acts d m r r' := by
  refine ⟨⟨alike.sane, fun u => ?_, fun e he => orderly.ahead e (alike.agenda ▸ he), unheard⟩,
    alike.config, alike.minted, fun n hn _ => ?_⟩
  · rw [alike.scenes]
    exact orderly.attended u
  · rw [alike.scenes, silent, Scene.attend_of_rests (orderly.attended _)]

theorem Alike.of_parts (sane : r.Sane) (app : r'.app = r.app) (agenda : r'.agenda = r.agenda)
    (callers : r'.callers = r.callers) (minted : r.minted ≤ r'.minted) : Alike r r' := by
  have h : Becomes 0 (fun _ σ => σ) r { r' with held := r.held, minted := r.minted } :=
    becomes_of_parts sane app agenda callers rfl rfl
  exact ⟨⟨h.sane.linked, h.sane.tickets, h.sane.told⟩, h.scenes, h.config, agenda, minted⟩

theorem Unheard.of_alike (unheard : r.Unheard) (alike : Alike r r')
    (held : ∀ n, r.minted < n → named n ∈ r'.held → named n ∈ r.held) : r'.Unheard := by
  intro n hn
  have hn : r.minted < n := Nat.lt_of_le_of_lt alike.minted hn
  rw [alike.scenes]
  exact ⟨(unheard n hn).1, fun h => (unheard n hn).2 (held n hn h)⟩

theorem acts_publication (orderly : r.Orderly m) (result : CeremonyResult)
    (heard : ∀ u σ, Scene.hear u d σ = only s (Scene.deliver result) u σ)
    (h : Becomes m.clock (only s (Scene.deliver result)) r r') : Acts d m r (r'.settle m) :=
  acts_of_settle orderly (.refl orderly.sane) h
    (orderly.unheard.of_here h (Or.inr fun _ blank => blank.deliver result))
    fun _ _ _ => (heard _ _).symm

theorem acts_nothing (orderly : r.Orderly m) (silent : ∀ u σ, Scene.hear u d σ = σ)
    (h : Becomes m.clock (fun _ σ => σ) r r') : Acts d m r (r'.settle m) :=
  acts_of_settle orderly (.refl orderly.sane) h
    (orderly.unheard.of_becomes h fun _ _ _ blank => blank) fun _ _ _ => (silent _ _).symm

theorem acts_chosen (orderly : r.Orderly m) (errand : Errand) {request : Session.Request}
    (deadline : Duration) {parties : List NodeId} (valid : request.validate = .ok ())
    (chosen : r.coordinator.chosen r.nextSession (fun _ => 0) request = .ok parties)
    (silent : ∀ u σ, Scene.hear u d σ = σ) :
    Acts d m r (r.launch m errand request deadline).2 := by
  obtain ⟨r', hlaunch, h⟩ :=
    launch_of_chosen (m := m) orderly.sane orderly.unheard errand deadline valid chosen
  have alike : Alike r r.next := .of_parts orderly.sane rfl rfl rfl (Nat.le_succ _)
  rw [hlaunch]
  refine acts_of_settle orderly alike h ?_ fun n hn _ => ?_
  · refine (unheard_next orderly.unheard).of_here h (Or.inl fun n hn same => ?_)
    have : n = r.minted + 1 := (named_injective same).symm
    have : r.minted + 1 < n := hn
    omega
  · rw [only, if_neg (named_ne_next hn), silent]

theorem acts_refused (orderly : r.Orderly m) (errand : Errand) {request : Session.Request}
    (deadline : Duration) {f : Failure} {c : Coordinator}
    (refused : r.coordinator.start m.wall r.nextSession (fun _ => 0) request = (.error f, c))
    (silent : ∀ u σ, Scene.hear u d σ = σ) :
    Acts d m r (r.launch m errand request deadline).2 := by
  have h := launch_of_refused (b := m.clock + 1) (m := m) orderly.sane errand deadline refused
  have minted : Alike r (r.mint request) ∧ (r.mint request).Unheard := by
    rcases r.mint_eq request with same | next
    · rw [same]
      exact ⟨.refl orderly.sane, orderly.unheard⟩
    · rw [next]
      exact ⟨.of_parts orderly.sane rfl rfl rfl (Nat.le_succ _), unheard_next orderly.unheard⟩
  obtain ⟨alike, unheard⟩ := minted
  have scenes := fun u => (h.scenes u).trans (congrArg _ (alike.scenes u))
  refine ⟨⟨h.sane, fun u => ?_, fun e he => ?_,
    unheard.of_here h (Or.inr fun _ blank => blank.refuse _ _ f)⟩,
    h.config.trans alike.config, h.minted ▸ alike.minted, fun n hn _ => ?_⟩
  · rw [scenes, only]
    split
    · rename_i hu
      rw [hu]
      exact ((orderly.unheard _ (Nat.lt_succ_self _)).1.refuse _ _ f).rests _
    · exact orderly.attended u
  · rcases h.agenda e he with hold | hnew
    · exact orderly.ahead e (alike.agenda ▸ hold)
    · exact hnew
  · rw [scenes, only, if_neg (named_ne_next hn), silent,
      Scene.attend_of_rests (orderly.attended _)]

theorem acts_launch (orderly : r.Orderly m) (errand : Errand) (request : Session.Request)
    (deadline : Duration) (silent : ∀ u σ, Scene.hear u d σ = σ) :
    Acts d m r (r.launch m errand request deadline).2 := by
  cases result : r.coordinator.start m.wall r.nextSession (fun _ => 0) request with
  | mk outcome c =>
      cases outcome with
      | ok notice =>
          obtain ⟨parties, valid, chosen⟩ := Coordinator.chosen_of_start result
          exact acts_chosen orderly errand deadline valid chosen silent
      | error f => exact acts_refused orderly errand deadline result silent

theorem becomes_closeAll {b : Nat} (sane : r.Sane) :
    Becomes b (fun _ σ => σ.close) r (r.setCoordinator r.coordinator.closeAll) := by
  refine ⟨⟨Coordinator.linked_closeAll sane.linked, sane.tickets, sane.told⟩, fun u => ?_, rfl, rfl,
    rfl, fun _ he => Or.inl he⟩
  have coordinator : (r.setCoordinator r.coordinator.closeAll).coordinator =
      r.coordinator.closeAll := rfl
  rw [scene, coordinator, Coordinator.standing_closeAll]
  rfl

theorem becomes_begin (sane : r.Sane) {q : Http.Request} {app : App} {response : Api.Response}
    (h : r.app.begin m.wall q = .response app response) :
    Becomes m.clock (fun u σ => σ.hear u (.request q)) r { r with app := app } := by
  have set : ∀ {c : Coordinator} {change : SessionId → Scene → Scene}, app.coordinator = c →
      Becomes m.clock change r (r.setCoordinator c) → Becomes m.clock change r { r with app := app } := by
    intro c change same hset
    exact hset.trans (becomes_setApp hset.sane same)
  cases Api.leaves_of_begin h with
  | administers registry silent after =>
      refine (set after (becomes_setCoordinator_of_same sane rfl rfl rfl)).congr fun u => ?_
      simp only [Scene.hear, Deed.word?, silent, Option.map_none]
  | publishes s result published after =>
      refine (set after (becomes_publish sane result)).congr fun u => ?_
      simp only [Scene.hear, Deed.word?, published, Option.map_some]
  | misses s result published refused after =>
      refine (set after (becomes_setCoordinator_of_same sane rfl rfl rfl)).congr fun u => ?_
      simp only [Scene.hear, Deed.word?, published, Option.map_some, only]
      split
      · rename_i hu
        rw [hu, Scene.deliver, scene, Coordinator.deliver_of_refused sane.linked refused]
      · rfl

theorem Scene.Blank.hear {σ : Scene} (blank : σ.Blank) (u : SessionId) (d : Deed) :
    (σ.hear u d).Blank := by
  unfold Scene.hear only
  split
  · exact blank
  · split
    · exact blank.deliver _
    · exact blank
  · exact blank.close

theorem acts_request (orderly : r.Orderly m) (q : Http.Request) :
    Acts (.request q) m r (r.request m q).2 := by
  cases hbegin : r.app.begin m.wall q with
  | ceremony call =>
      have silent := Api.publication?_of_ceremony hbegin
      rw [request, hbegin]
      exact acts_launch orderly _ _ _ fun u σ => by
        simp only [Scene.hear, Deed.word?, silent, Option.map_none]
  | response app response =>
      have h := becomes_begin orderly.sane hbegin
      have henroll := h.trans (becomes_enroll (s := ⟨""⟩) (c := answered response) h.sane rfl
        fun _ _ _ h => by cases h)
      rw [request_of_response hbegin]
      refine acts_of_settle orderly (.refl orderly.sane) henroll ?_ fun n _ _ => ?_
      · refine orderly.unheard.of_becomes henroll fun n _ σ blank => ?_
        rw [only, if_neg (named_ne_nameless n)]
        exact blank.hear _ _
      · rw [only, if_neg (named_ne_nameless n)]

theorem acts_hold (orderly : r.Orderly m) (silent : ∀ u σ, Scene.hear u d σ = σ) {ticket : Nat}
    {a : Answer} (answer : r.answerTo? ticket = some a) : Acts d m r (r.hold a) := by
  obtain ⟨c, entry, stage⟩ := answerTo?_eq_some.1 answer
  cases a with
  | started s parties action =>
      have alike : Alike r (r.hold (.started s parties action)) :=
        .of_parts orderly.sane rfl rfl rfl (Nat.le_refl _)
      refine acts_of_alike orderly alike (orderly.unheard.of_alike alike fun n hn held => ?_) silent
      rcases List.mem_append.1 held with hold | hnew
      · exact hold
      · obtain rfl : named n = s := List.mem_singleton.1 hnew
        have session := orderly.sane.told _ entry _ _ _ stage
        obtain ⟨a, ended, other⟩ := (orderly.unheard n hn).1.callers (ticket, c)
          (List.mem_filter.2 ⟨entry, decide_eq_true session.symm⟩)
        exact absurd (Stage.ended.inj (ended.symm.trans stage)) (other _ _ _)
  | _ => exact acts_of_alike orderly (.refl orderly.sane) orderly.unheard silent

theorem acts_here (orderly : r.Orderly m) (silent : ∀ u σ, Scene.hear u d σ = σ)
    (alike : Alike r r₁) (held : ∀ n, r.minted < n → named n ∈ r₁.held → named n ∈ r.held)
    (h : Becomes m.clock (only s f) r₁ r') (heard : ∀ n, r.minted < n → s ≠ named n)
    (about : d.disturbs s r) : Acts d m r (r'.settle m) := by
  refine acts_of_settle orderly alike h ?_ fun n hn spared => ?_
  · exact (orderly.unheard.of_alike alike held).of_here h
      (Or.inl fun n hn => heard n (Nat.lt_of_le_of_lt alike.minted hn))
  · rw [only, if_neg, silent]
    rintro rfl
    exact spared about

theorem Orderly.ne_of_waiting (orderly : r.Orderly m) {ticket : Nat} {c : Caller}
    (entry : (ticket, c) ∈ r.callers.entries)
    (stage : ∀ a, c.stage = .ended a → ∃ s parties action, a = .started s parties action) {n : Nat}
    (hn : r.minted < n) : c.session ≠ named n := by
  intro session
  obtain ⟨a, ended, other⟩ := (orderly.unheard n hn).1.callers (ticket, c)
    (List.mem_filter.2 ⟨entry, decide_eq_true session⟩)
  obtain ⟨s, parties, action, started⟩ := stage a ended
  exact other s parties action started

theorem Orderly.ne_of_held (orderly : r.Orderly m) (held : r.held.contains s = true) {n : Nat}
    (hn : r.minted < n) : s ≠ named n := fun same =>
  (orderly.unheard n hn).2 (same ▸ List.contains_iff_mem.1 held)

theorem acts_drop (orderly : r.Orderly m) (s : SessionId) :
    Acts (.drop s) m r (r.drop m s).2 := by
  unfold drop
  by_cases held : r.held.contains s = true
  · rw [if_pos held]
    have alike : Alike r { r with held := r.held.erase s } :=
      .of_parts orderly.sane rfl rfl rfl (Nat.le_refl _)
    exact acts_here orderly (fun _ _ => rfl) alike (fun n _ h => List.mem_of_mem_erase h)
      (becomes_cancel alike.sane) (fun n hn => orderly.ne_of_held held hn) rfl
  · rw [if_neg held]
    exact acts_of_alike orderly (.refl orderly.sane) orderly.unheard fun _ _ => rfl

theorem acts_wait (orderly : r.Orderly m) (s : SessionId) (deadline : Duration)
    (patience : Option Nat) :
    Acts (.wait s deadline patience) m r
      (((r.wait m s deadline patience).map Prod.snd).getD r) := by
  by_cases held : r.held.contains s = true
  · obtain ⟨c, r', -, -, -, hwait, h⟩ := wait_of_held orderly.sane held deadline patience
    rw [hwait]
    have alike : Alike r { r with held := r.held.erase s } :=
      .of_parts orderly.sane rfl rfl rfl (Nat.le_refl _)
    exact acts_here orderly (fun _ _ => rfl) alike (fun n _ h => List.mem_of_mem_erase h) h
      (fun n hn => orderly.ne_of_held held hn) rfl
  · rw [wait, if_neg held]
    exact acts_of_alike orderly (.refl orderly.sane) orderly.unheard fun _ _ => rfl

theorem acts_abort (orderly : r.Orderly m) (ticket : Nat) :
    Acts (.abort ticket) m r (r.abort m ticket).2 := by
  unfold abort
  cases answer : r.answerTo? ticket with
  | some a => exact acts_hold orderly (fun _ _ => rfl) answer
  | none =>
      cases found : r.callers.get? ticket with
      | none => exact acts_of_alike orderly (.refl orderly.sane) orderly.unheard fun _ _ => rfl
      | some c =>
          have entry := Keyed.mem_entries_iff.2 found
          have hstage := becomes_setStage (b := m.clock) orderly.sane entry rfl
            (.ended (.refused cutOff)) fun _ _ _ h => by cases h
          refine acts_here orderly (fun _ _ => rfl) (.refl orderly.sane) (fun _ _ h => h)
            (hstage.then_here (becomes_cancel hstage.sane))
            (fun n hn => orderly.ne_of_waiting entry (fun a ended => ?_) hn) ⟨c, entry, rfl⟩
          cases answer.symm.trans (answerTo?_eq_some.2 ⟨c, entry, ended⟩)

theorem Scene.isReceived_forget (ticket : Nat) (σ : Scene) :
    (σ.modify ticket fun c => { c with attended := false }).isReceived = σ.isReceived := by
  simp only [isReceived, modify, List.any_map]
  congr 1
  funext e
  simp only [Function.comp_apply, Keyed.touch]
  split <;> rfl

theorem Scene.Blank.forget {σ : Scene} (blank : σ.Blank) (ticket : Nat) :
    (σ.modify ticket fun c => { c with attended := false }).Blank := by
  refine ⟨blank.standing, blank.dues, fun e' he' => ?_⟩
  obtain ⟨e, he, rfl⟩ := List.mem_map.1 he'
  unfold Keyed.touch
  split
  · exact blank.callers e he
  · exact blank.callers e he

theorem acts_forget (orderly : r.Orderly m) (ticket : Nat) :
    Acts (.neglect ticket) m r
      { r with callers := r.callers.modify ticket fun c => { c with attended := false } } := by
  cases found : r.callers.get? ticket with
  | none =>
      have same : (r.callers.modify ticket fun c => { c with attended := false }) = r.callers :=
        Keyed.eq_of_entries ((List.map_congr_left fun e he =>
          touch_ne _ (Keyed.ne_of_mem_entries found he)).trans (List.map_id' _))
      rw [same]
      exact acts_of_alike orderly (.refl orderly.sane) orderly.unheard fun _ _ => rfl
  | some c =>
      have entry := Keyed.mem_entries_iff.2 found
      have h := becomes_modify (b := 0) (f := fun c => { c with attended := false })
        orderly.sane entry rfl (fun _ => rfl) (orderly.sane.told (ticket, c) entry)
      refine ⟨⟨h.sane, fun u => ?_, orderly.ahead,
        orderly.unheard.of_here h (Or.inr fun _ blank => blank.forget ticket)⟩, h.config,
        Nat.le_refl _, fun n hn spared => ?_⟩
      · rw [h.scenes, only]
        split
        · rw [Scene.Rests, Scene.isReceived_forget]
          exact orderly.attended u
        · exact orderly.attended u
      · rw [h.scenes, only, if_neg fun same => spared ⟨c, entry, same.symm⟩]
        exact (Scene.attend_of_rests (orderly.attended _)).symm

theorem acts_neglect (orderly : r.Orderly m) (ticket : Nat) :
    Acts (.neglect ticket) m r (r.neglect m ticket) := by
  have forget := acts_forget orderly ticket
  unfold neglect
  cases answer : r.answerTo? ticket with
  | none => exact forget
  | some a =>
      cases a with
      | started s parties action =>
          obtain ⟨c, entry, stage⟩ := answerTo?_eq_some.1 answer
          obtain rfl : s = c.session := orderly.sane.told _ entry _ _ _ stage
          refine acts_here orderly (fun _ _ => rfl) (.refl orderly.sane) (fun _ _ h => h)
            (becomes_cancel orderly.sane)
            (fun n hn => orderly.ne_of_waiting entry (fun a ended => ?_) hn) ⟨c, entry, rfl⟩
          exact ⟨_, _, _, Stage.ended.inj (ended.symm.trans stage)⟩
      | _ => exact forget

theorem acts_of_parts (orderly : r.Orderly m) (silent : ∀ u σ, Scene.hear u d σ = σ)
    (app : r'.app = r.app) (agenda : r'.agenda = r.agenda) (callers : r'.callers = r.callers)
    (held : r'.held = r.held) (minted : r'.minted = r.minted) : Acts d m r r' := by
  have alike : Alike r r' := .of_parts orderly.sane app agenda callers (Nat.le_of_eq minted.symm)
  exact acts_of_alike orderly alike (orderly.unheard.of_alike alike fun _ _ h => held ▸ h) silent

theorem acts_perform (orderly : r.Orderly m) (d : Deed) : Acts d m r (d.perform m r) := by
  cases d with
  | cast script => exact acts_of_parts orderly (fun _ _ => rfl) rfl rfl rfl rfl rfl
  | launch errand request deadline =>
      exact acts_launch orderly errand request deadline fun _ _ => rfl
  | wait s deadline patience => exact acts_wait orderly s deadline patience
  | request q => exact acts_request orderly q
  | hold ticket =>
      rw [Deed.perform]
      cases answer : r.answerTo? ticket with
      | none => exact acts_of_alike orderly (.refl orderly.sane) orderly.unheard fun _ _ => rfl
      | some a => exact acts_hold orderly (fun _ _ => rfl) answer
  | abort ticket => exact acts_abort orderly ticket
  | neglect ticket => exact acts_neglect orderly ticket
  | drop s => exact acts_drop orderly s
  | publish s result =>
      exact acts_publication orderly result (fun _ _ => rfl) (becomes_publish orderly.sane result)
  | closeAll =>
      have h := becomes_closeAll (b := m.clock) orderly.sane
      exact acts_of_settle orderly (.refl orderly.sane) h
        (orderly.unheard.of_becomes h fun _ _ _ blank => blank.close) fun _ _ _ => rfl
  | operate op => exact acts_nothing orderly (fun _ _ => rfl) (becomes_operate orderly.sane op)
  | prune age =>
      refine acts_nothing orderly (fun _ _ => rfl)
        (becomes_setCoordinator_of_same orderly.sane ?_ ?_ ?_)
      all_goals unfold Coordinator.prune; split <;> rfl
  | equip reaper => exact acts_of_parts orderly (fun _ _ => rfl) rfl rfl rfl rfl rfl
  | startReaper =>
      refine acts_nothing orderly (fun _ _ => rfl) ?_
      unfold startReaper
      split
      · exact .refl orderly.sane
      · split
        · exact .refl orderly.sane
        · exact (becomes_sweep orderly.sane _ (Nat.le_refl _)).mono (Nat.le_succ _)
  | stopReaper => exact acts_of_parts orderly (fun _ _ => rfl) rfl rfl rfl rfl rfl

end Acts

end Conclave.Rehearsal

import Conclave.Proofs.Coincidence
import Conclave.Proofs.Notices
import Conclave.Proofs.Retiming
import Conclave.Reaper

namespace Conclave

theorem Timestamp.nanoseconds_ofNanoseconds (n : Int) : (ofNanoseconds n).nanoseconds = n := by
  have hrest : 0 ≤ n.fmod 1000000000 := Int.fmod_nonneg_of_pos n (by decide)
  have hsum := Int.mul_fdiv_add_fmod n 1000000000
  simp only [nanoseconds, ofNanoseconds, Int.toNat_of_nonneg hrest]
  omega

theorem Timestamp.nanoseconds_of_ago? {now t : Timestamp} {age : Duration} (h : now.ago? age = some t) :
    t.nanoseconds = now.nanoseconds - age.nanoseconds := by
  simp only [ago?] at h
  split at h
  · cases h
  · rw [← Option.some.inj h, nanoseconds_ofNanoseconds]

namespace Session

section Thinned

variable {T : Timestamp → Timestamp → Prop} {now now' t t' : Timestamp} {r r' : Record}
  {o o' : Option Record} {d d' : Docket}

def Record.Alike (T : Timestamp → Timestamp → Prop) (r r' : Record) : Prop :=
  ∃ started dispatched finished, T r.startedAt started ∧ Option.Rel T r.dispatchedAt dispatched ∧
    Option.Rel T r.finishedAt finished ∧
    r' = { r with startedAt := started, dispatchedAt := dispatched, finishedAt := finished }

inductive Record.Thinned (T : Timestamp → Timestamp → Prop) : Option Record → Option Record → Prop
  | missing : Thinned T none none
  | kept {r r' : Record} (alike : r.Alike T r') : Thinned T (some r) (some r')
  | swept {r : Record} (ended : r.state.isTerminal = true) : Thinned T (some r) none

namespace Record

theorem Alike.fresh (moment : T now now') (s : SessionId) (request : Request) :
    (Record.fresh now s request).Alike T (Record.fresh now' s request) :=
  ⟨now', none, none, moment, .none, .none, rfl⟩

theorem Alike.dispatch (h : r.Alike T r') (moment : T now now') (parties : List NodeId) :
    (r.dispatch now parties).Alike T (r'.dispatch now' parties) := by
  obtain ⟨started, dispatched, finished, hstarted, hdispatched, hfinished, rfl⟩ := h
  simp only [Record.dispatch]
  split
  · exact ⟨started, some now', finished, hstarted, .some moment, hfinished, rfl⟩
  · exact ⟨started, dispatched, finished, hstarted, hdispatched, hfinished, rfl⟩

theorem Alike.finish (h : r.Alike T r') (moment : T now now') (failure : Option Failure) :
    (r.finish now failure).Alike T (r'.finish now' failure) := by
  obtain ⟨started, dispatched, finished, hstarted, hdispatched, hfinished, rfl⟩ := h
  simp only [Record.finish]
  split
  · exact ⟨started, dispatched, finished, hstarted, hdispatched, hfinished, rfl⟩
  · exact ⟨started, dispatched, some now', hstarted, hdispatched, .some moment, rfl⟩

theorem Alike.isExpired (h : r.Alike T r') (inStep : Timestamp.InStep T) (moment : T t t') :
    r'.isExpired t' = r.isExpired t := by
  obtain ⟨started, dispatched, finished, -, -, hfinished, rfl⟩ := h
  simp only [Record.isExpired]
  cases hf : r.finishedAt with
  | none =>
      rw [hf] at hfinished
      cases hfinished
      rfl
  | some f =>
      rw [hf] at hfinished
      cases hfinished with
      | some related => simp only [inStep t t' f _ moment related]

theorem Thinned.map (h : Thinned T o o') {f f' : Record → Record}
    (alike : ∀ r r', r.Alike T r' → (f r).Alike T (f' r'))
    (ended : ∀ r, r.state.isTerminal = true → (f r).state.isTerminal = true) :
    Thinned T (o.map f) (o'.map f') := by
  cases h with
  | missing => exact .missing
  | kept related => exact .kept (alike _ _ related)
  | swept terminal => exact .swept (ended _ terminal)

theorem Thinned.filter (h : Thinned T o o') {p p' : Record → Bool}
    (same : ∀ r r', r.Alike T r' → p' r' = p r) :
    Thinned T (o.filter p) (o'.filter p') := by
  cases h with
  | missing => exact .missing
  | @kept r r' alike =>
      rw [Option.filter_some, Option.filter_some, same r r' alike]
      split
      · exact .kept alike
      · exact .missing
  | @swept r terminal =>
      rw [Option.filter_some, Option.filter_none]
      split
      · exact .swept terminal
      · exact .missing

theorem Alike.state (h : r.Alike T r') : r'.state = r.state := by
  obtain ⟨started, dispatched, finished, -, -, -, rfl⟩ := h
  rfl

theorem Thinned.drop (h : Thinned T o (some r)) (ended : r.state.isTerminal = true) :
    Thinned T o none := by
  cases h with
  | kept alike => exact .swept (alike.state ▸ ended)

theorem Thinned.active_iff (h : Thinned T o o') :
    (∃ r, o = some r ∧ r.state.isTerminal = false) ↔
      ∃ r, o' = some r ∧ r.state.isTerminal = false := by
  cases h with
  | missing => simp
  | kept alike => simp [alike.state]
  | swept ended => simp [ended]

end Record

namespace Docket

def Thinned (T : Timestamp → Timestamp → Prop) (d d' : Docket) : Prop :=
  ∀ s, Record.Thinned T (d.get? s) (d'.get? s)

def SameReach (T : Timestamp → Timestamp → Prop) (now now' : Timestamp) (age age' : Duration) : Prop :=
  (∃ f, cutoff now age = .error f ∧ cutoff now' age' = .error f) ∨
    ∃ t t', cutoff now age = .ok t ∧ cutoff now' age' = .ok t' ∧ Option.Rel T t t'

theorem Thinned.create (h : Thinned T d d') (moment : T now now') (s : SessionId)
    (request : Request) : Thinned T (d.create now s request) (d'.create now' s request) := by
  intro k
  rw [get?_create, get?_create]
  split
  · exact .kept (.fresh moment s request)
  · exact h k

theorem Thinned.markDispatched (h : Thinned T d d') (moment : T now now') (s : SessionId)
    (parties : List NodeId) :
    Thinned T (d.markDispatched now s parties) (d'.markDispatched now' s parties) := by
  intro k
  rw [get?_markDispatched, get?_markDispatched]
  split
  · refine (h k).map (fun r r' alike => alike.dispatch moment parties) fun r ended => ?_
    rw [Record.dispatch_of_terminal ended]
    exact ended
  · exact h k

theorem Thinned.finish (h : Thinned T d d') (moment : T now now') (s : SessionId)
    (failure : Option Failure) : Thinned T (d.finish now s failure) (d'.finish now' s failure) := by
  intro k
  rw [get?_finish, get?_finish]
  split
  · exact (h k).map (fun r r' alike => alike.finish moment failure) fun r _ =>
      Record.terminal_finish now failure r
  · exact h k

theorem get?_removeExpired (t : Timestamp) (d : Docket) (s : SessionId) :
    (d.removeExpired t).get? s = (d.get? s).filter fun r => !r.isExpired t :=
  Keyed.get?_filter d.records _ s

theorem Thinned.removeExpired (h : Thinned T d d') (inStep : Timestamp.InStep T) (moment : T t t') :
    Thinned T (d.removeExpired t) (d'.removeExpired t') := by
  intro s
  rw [get?_removeExpired, get?_removeExpired]
  exact (h s).filter fun r r' alike => by rw [alike.isExpired inStep moment]

theorem Thinned.swept (h : Thinned T d d') {age : Duration} {n : Nat} {kept : Docket}
    (pruned : d'.prune now age = .ok (n, kept)) : Thinned T d kept := by
  intro s
  rcases get?_prune pruned s with hsame | ⟨hgone, r, hr, ended⟩
  · exact hsame ▸ h s
  · rw [hgone]
    exact (hr ▸ h s).drop ended

theorem Thinned.activeCount (h : Thinned T d d') : d'.activeCount = d.activeCount := by
  have hsize : ∀ d : Docket, (∀ s, (∃ r, d'.get? s = some r ∧ r.state.isTerminal = false) ↔
      ∃ r, d.get? s = some r ∧ r.state.isTerminal = false) →
      d.activeCount = (d'.records.filter fun e => !e.2.state.isTerminal).size := by
    intro d same
    refine activeCount_eq_size fun s => (same s).symm.trans ?_
    rw [Keyed.contains_iff, Keyed.get?_filter]
    simp [get?]
  rw [hsize d' fun _ => Iff.rfl, hsize d fun s => (h s).active_iff.symm]

end Docket

end Thinned

section Expired

variable {now t : Timestamp} {age : Duration} {r : Record}

theorem Record.isExpired_iff :
    r.isExpired t = true ↔
      r.state.isTerminal = true ∧ ∃ finished, r.finishedAt = some finished ∧ finished ≤ t := by
  rw [isExpired, Bool.and_eq_true]
  cases r.finishedAt with
  | none => simp
  | some finished => simp [LE.le]

theorem Docket.prune_of_ago? (small : age.nanoseconds ≤ longestAge) (ago : now.ago? age = some t)
    (d : Docket) :
    d.prune now age =
      .ok (d.records.size - (d.removeExpired t).records.size, d.removeExpired t) := by
  have hcutoff : cutoff now age = .ok (some t) := by
    rw [cutoff, if_neg (Nat.not_lt_of_le small), ago]
  rw [prune, hcutoff]
  rfl

theorem Docket.size_removeExpired_le (t : Timestamp) (d : Docket) :
    (d.removeExpired t).records.size ≤ d.records.size := List.length_filter_le _ _

end Expired

end Session

namespace Coordinator

def Answer.told? : Answer → Option Answer
  | .pruned _ => none
  | a => some a

def told (past : List Turn) : List Answer := past.filterMap fun t => t.answer.told?

structure Thinned (T : Timestamp → Timestamp → Prop) (c c' : Coordinator) : Prop where
  config : c'.config = c.config
  registry : Registry.Alike T c.registry c'.registry
  bus : c'.bus = c.bus
  docket : Session.Docket.Thinned T c.docket c'.docket
  leases : c'.leases = c.leases

inductive Event.Alike (T : Timestamp → Timestamp → Prop) (now now' : Timestamp) : Event → Event → Prop
  | start (s : SessionId) (draws : Draws) (request : Session.Request) :
      Alike T now now' (.start s draws request) (.start s draws request)
  | answer (s : SessionId) (reply : Reply) : Alike T now now' (.answer s reply) (.answer s reply)
  | attend (s : SessionId) (overdue : Bool) : Alike T now now' (.attend s overdue) (.attend s overdue)
  | cancel (s : SessionId) : Alike T now now' (.cancel s) (.cancel s)
  | prune {age age' : Duration} (reach : Session.Docket.SameReach T now now' age age') :
      Alike T now now' (.prune age) (.prune age')
  | operate {op op' : Registry.Operation} (alike : op.Alike T op') :
      Alike T now now' (.operate op) (.operate op')
  | deliver (op : Bus.Operation) : Alike T now now' (.deliver op) (.deliver op)

section Thinned

variable {T : Timestamp → Timestamp → Prop} {c c' : Coordinator} {now now' : Timestamp}

theorem Thinned.conclude (h : Thinned T c c') (moment : T now now') (s : SessionId)
    (failure : Option Failure) : Thinned T (c.conclude now s failure) (c'.conclude now' s failure) := by
  simp only [Coordinator.conclude, h.leases]
  cases c.leases.get? s with
  | none => exact h
  | some lease =>
      exact {
        config := h.config
        registry := h.registry.releaseAll lease.marked
        bus := by rw [h.bus]
        docket := h.docket.finish moment s failure
        leases := rfl }

theorem Thinned.refuse (h : Thinned T c c') (moment : T now now') (s : SessionId)
    (request : Session.Request) (f : Failure) :
    Thinned T (c.refuse now s request f) (c'.refuse now' s request f) :=
  { h with docket := (h.docket.create moment s request).finish moment s (some f) }

theorem Thinned.start (h : Thinned T c c') (moment : T now now') (s : SessionId) (draws : Draws)
    (request : Session.Request) :
    (c'.start now' s draws request).1 = (c.start now s draws request).1 ∧
      Thinned T (c.start now s draws request).2 (c'.start now' s draws request).2 := by
  have hchosen : c'.chosen s draws request = c.chosen s draws request := by
    rw [chosen, chosen, h.config]
    exact h.registry.select _ _ _ _ _
  cases started now s draws request c with
  | invalid f invalid result =>
      have result' : c'.start now' s draws request = (.error f, c') := by
        simp only [Coordinator.start, invalid]
      rw [result, result']
      exact ⟨rfl, h⟩
  | unchosen f valid unchosen result =>
      have unchosen' : c'.chosen s draws request = .error f := hchosen.trans unchosen
      have result' : c'.start now' s draws request = (.error f, c'.refuse now' s request f) := by
        simp only [Coordinator.start, valid, unchosen', Coordinator.refuse]
      rw [result, result']
      exact ⟨rfl, h.refuse moment s request f⟩
  | taken f parties valid selected taken result =>
      have selected' : c'.chosen s draws request = .ok parties := hchosen.trans selected
      have result' : c'.start now' s draws request = (.error f, c'.refuse now' s request f) := by
        simp only [Coordinator.start, valid, selected', h.bus, taken, Coordinator.refuse]
      rw [result, result']
      exact ⟨rfl, h.refuse moment s request f⟩
  | launched parties channel bus valid selected subscribed result =>
      have selected' : c'.chosen s draws request = .ok parties := hchosen.trans selected
      have result' : c'.start now' s draws request =
          (.ok (request.notice s parties), c'.launch now' s request parties channel bus) := by
        simp only [Coordinator.start, valid, selected', h.bus, subscribed, launch]
      obtain ⟨hmarked, hregistry⟩ := h.registry.markAll parties
      rw [result, result']
      exact ⟨rfl, {
        config := h.config
        registry := hregistry
        bus := rfl
        docket := h.docket.create moment s request
        leases := by rw [launch, launch, hmarked, h.leases] }⟩

theorem Thinned.answer (h : Thinned T c c') (moment : T now now') (s : SessionId) (reply : Reply) :
    (c'.answer now' s reply).1 = (c.answer now s reply).1 ∧
      Thinned T (c.answer now s reply).2 (c'.answer now' s reply).2 := by
  simp only [Coordinator.answer, h.leases, h.config]
  cases c.leases.get? s with
  | none => exact ⟨rfl, h⟩
  | some lease =>
      simp only
      split
      · exact ⟨rfl, h⟩
      · cases reply.outcome c.config.dispatchTimeout with
        | error f => exact ⟨rfl, h.conclude moment s (some f)⟩
        | ok _ =>
            exact ⟨rfl, {
              config := rfl
              registry := h.registry
              bus := h.bus
              docket := h.docket.markDispatched moment s lease.parties
              leases := rfl }⟩

theorem Thinned.attend (h : Thinned T c c') (moment : T now now') (s : SessionId) (overdue : Bool) :
    (c'.attend now' s overdue).1 = (c.attend now s overdue).1 ∧
      Thinned T (c.attend now s overdue).2 (c'.attend now' s overdue).2 := by
  cases live : c.leases.get? s with
  | none =>
      rw [attend_of_gone now overdue live, attend_of_gone now' overdue (h.leases ▸ live)]
      exact ⟨rfl, h⟩
  | some lease =>
      rw [attend_of_live now overdue live, attend_of_live now' overdue (h.leases ▸ live), h.bus]
      cases heard s overdue lease c.bus with
      | none => exact ⟨rfl, h⟩
      | some outcome => exact ⟨rfl, h.conclude moment s (failure? outcome)⟩

theorem Thinned.cancel (h : Thinned T c c') (moment : T now now') (s : SessionId) :
    (c'.cancel now' s).1 = (c.cancel now s).1 ∧
      Thinned T (c.cancel now s).2 (c'.cancel now' s).2 := by
  cases live : c.leases.get? s with
  | none =>
      rw [cancel_of_gone now live, cancel_of_gone now' (h.leases ▸ live)]
      exact ⟨rfl, h⟩
  | some lease =>
      rw [cancel_of_live now live, cancel_of_live now' (h.leases ▸ live)]
      exact ⟨rfl, h.conclude moment s (some (.cancelled s))⟩

theorem Thinned.swept (h : Thinned T c c') (now' : Timestamp) (age : Duration) :
    Thinned T c (c'.prune now' age).2 := by
  rw [prune]
  cases pruned : c'.docket.prune now' age with
  | error f => exact h
  | ok kept => exact { h with docket := h.docket.swept pruned }

theorem Thinned.prune (h : Thinned T c c') (inStep : Timestamp.InStep T) {age age' : Duration}
    (reach : Session.Docket.SameReach T now now' age age') :
    Thinned T (c.prune now age).2 (c'.prune now' age').2 := by
  simp only [Coordinator.prune, Session.Docket.prune]
  rcases reach with ⟨f, hcutoff, hcutoff'⟩ | ⟨t, t', hcutoff, hcutoff', related⟩
  · rw [hcutoff, hcutoff']
    exact h
  · rw [hcutoff, hcutoff']
    cases related with
    | none => exact h
    | some moment => exact { h with docket := h.docket.removeExpired inStep moment }

theorem Thinned.step (h : Thinned T c c') (inStep : Timestamp.InStep T) (moment : T now now')
    {event event' : Event} (alike : event.Alike T now now' event') :
    (c'.step now' event').1.told? = (c.step now event).1.told? ∧
      Thinned T (c.step now event).2 (c'.step now' event').2 := by
  cases alike with
  | start s draws request =>
      obtain ⟨hanswer, hafter⟩ := h.start moment s draws request
      exact ⟨congrArg (Answer.told? ∘ .started) hanswer, hafter⟩
  | answer s reply =>
      obtain ⟨hanswer, hafter⟩ := h.answer moment s reply
      exact ⟨congrArg (Answer.told? ∘ .acknowledged) hanswer, hafter⟩
  | attend s overdue =>
      obtain ⟨hanswer, hafter⟩ := h.attend moment s overdue
      exact ⟨congrArg (Answer.told? ∘ .ended) hanswer, hafter⟩
  | cancel s =>
      obtain ⟨hanswer, hafter⟩ := h.cancel moment s
      exact ⟨congrArg (Answer.told? ∘ .withdrawn) hanswer, hafter⟩
  | prune reach => exact ⟨rfl, h.prune inStep reach⟩
  | operate same =>
      obtain ⟨hanswer, hregistry⟩ := h.registry.apply inStep moment same
      exact ⟨congrArg (Answer.told? ∘ .applied) hanswer, { h with registry := hregistry }⟩
  | deliver op =>
      refine ⟨congrArg (fun b => Answer.told? (.delivered (Bus.apply b op).1)) h.bus, ?_⟩
      exact { h with bus := congrArg (fun b => (Bus.apply b op).2) h.bus }

end Thinned

inductive Woven (T : Timestamp → Timestamp → Prop) (retention : Duration) :
    List (Timestamp × Event) → List (Timestamp × Event) → Prop
  | nil : Woven T retention [] []
  | turn {events events' : List (Timestamp × Event)} (woven : Woven T retention events events')
      {now now' : Timestamp} (moment : T now now') {event event' : Event}
      (alike : event.Alike T now now' event') :
      Woven T retention ((now, event) :: events) ((now', event') :: events')
  | sweep {events events' : List (Timestamp × Event)} (woven : Woven T retention events events')
      (now' : Timestamp) : Woven T retention events ((now', .prune retention) :: events')

section Woven

variable {T : Timestamp → Timestamp → Prop} {first first' : Coordinator} {retention : Duration}
  {events events' : List (Timestamp × Event)}

theorem told_replay (first : Coordinator) (now : Timestamp) (event : Event)
    (rest : List (Timestamp × Event)) :
    told (replay first ((now, event) :: rest)).1 =
      ((((replay first rest).2.step now event).1.told?).toList ++ told (replay first rest).1) := by
  simp only [told, replay, List.filterMap_cons, Turn.answer]
  cases ((replay first rest).2.step now event).1.told? <;> rfl

theorem Woven.agree (woven : Woven T retention events events') (inStep : Timestamp.InStep T)
    (h : Thinned T first first') :
    told (replay first' events').1 = told (replay first events).1 ∧
      Thinned T (replay first events).2 (replay first' events').2 := by
  induction woven with
  | nil => exact ⟨rfl, h⟩
  | turn _ moment alike ih =>
      obtain ⟨hanswer, hafter⟩ := ih.2.step inStep moment alike
      refine ⟨?_, hafter⟩
      rw [told_replay, told_replay, hanswer, ih.1]
  | sweep _ now' ih => exact ⟨ih.1, ih.2.swept now' retention⟩

theorem notices_eq_told (past : List Turn) :
    notices past = (told past).filterMap fun
      | .started (.ok notice) => some notice
      | _ => none := by
  rw [notices, told, List.filterMap_filterMap]
  refine List.filterMap_congr fun t _ => ?_
  rw [Turn.notice?]
  cases t.answer <;> rfl

end Woven

theorem sweep_of_ago? {reaper : Reaper} {now t : Timestamp}
    (small : reaper.retention.nanoseconds ≤ Session.Docket.longestAge)
    (ago : now.ago? reaper.retention = some t) (c : Coordinator) :
    ∃ n d, reaper.sweep now c = (.ok n, { c with docket := d }) ∧
      n + d.records.size = c.docket.records.size ∧
      ∀ s, d.get? s = (c.docket.get? s).filter fun r => !r.isExpired t := by
  refine ⟨c.docket.records.size - (c.docket.removeExpired t).records.size,
    c.docket.removeExpired t, ?_, ?_, Session.Docket.get?_removeExpired t c.docket⟩
  · rw [Reaper.sweep, prune, Session.Docket.prune_of_ago? small ago]
  · exact Nat.sub_add_cancel (Session.Docket.size_removeExpired_le t c.docket)

theorem sweeps_disturb_nothing {T : Timestamp → Timestamp → Prop} (inStep : Timestamp.InStep T)
    {config : Config} {registry registry' : Registry} (alike : Registry.Alike T registry registry')
    {reaper : Reaper} {events events' : List (Timestamp × Event)}
    (woven : Woven T reaper.retention events events') :
    let one := replay (.new config registry) events
    let two := replay (.new config registry') events'
    (told two.1 = told one.1 ∧ notices two.1 = notices one.1 ∧
      (∀ s draws request, two.2.chosen s draws request = one.2.chosen s draws request) ∧
      Registry.Alike T one.2.registry two.2.registry ∧ two.2.bus = one.2.bus ∧
      two.2.docket.activeCount = one.2.docket.activeCount ∧
      ∀ s, Session.Record.Thinned T (one.2.docket.get? s) (two.2.docket.get? s)) ∧
    (∀ (now t : Timestamp) (c : Coordinator),
      reaper.retention.nanoseconds ≤ Session.Docket.longestAge →
      now.ago? reaper.retention = some t →
      t.nanoseconds = now.nanoseconds - reaper.retention.nanoseconds ∧
      ∃ n d, reaper.sweep now c = (.ok n, { c with docket := d }) ∧
        n + d.records.size = c.docket.records.size ∧
        ∀ s, (c.docket.get? s = none → d.get? s = none) ∧
          ∀ r, c.docket.get? s = some r →
            (d.get? s = none ∨ d.get? s = some r) ∧
            (d.get? s = none ↔ r.state.isTerminal = true ∧
              ∃ finished, r.finishedAt = some finished ∧ finished ≤ t)) ∧
    ∀ (turn : Turn) (s : SessionId) (r : Session.Record), turn.before.docket.get? s = some r →
      turn.after.docket.get? s = none →
      r.state.isTerminal = true ∧ ∃ age, turn.event = .prune age := by
  intro one two
  have hfirst : Thinned T (.new config registry) (.new config registry') :=
    ⟨rfl, alike, rfl, fun _ => .missing, rfl⟩
  obtain ⟨htold, hthinned⟩ := woven.agree inStep hfirst
  refine ⟨⟨htold, ?_, ?_, hthinned.registry, hthinned.bus, hthinned.docket.activeCount,
    hthinned.docket⟩, ?_, ?_⟩
  · rw [notices_eq_told, notices_eq_told, htold]
  · intro s draws request
    rw [chosen, chosen, hthinned.config]
    exact hthinned.registry.select _ _ _ _ _
  · intro now t c small ago
    obtain ⟨n, d, hsweep, hcount, hget⟩ := sweep_of_ago? small ago c
    refine ⟨Timestamp.nanoseconds_of_ago? ago, n, d, hsweep, hcount, fun s => ⟨?_, ?_⟩⟩
    · intro hnone
      rw [hget, hnone]
      rfl
    · intro r hr
      rw [hget, hr, ← Session.Record.isExpired_iff]
      cases he : r.isExpired t <;> simp [he]
  · intro turn s r record gone
    cases turn.writes s with
    | nothing same => cases record.symm.trans (same.symm.trans gone)
    | creates _ _ _ _ after => cases after.symm.trans gone
    | refuses _ _ _ _ _ after => cases after.symm.trans gone
    | dispatches _ _ _ after => simp [record, gone] at after
    | finishes _ _ _ _ after => simp [record, gone] at after
    | prunes age _ event found ended _ =>
        cases record.symm.trans found
        exact ⟨ended, age, event⟩

def Doubled (a a' : Timestamp) : Prop := a' = ⟨2 * a.second, a.nano⟩

theorem doubled (a : Timestamp) : Doubled a ⟨2 * a.second, a.nano⟩ := rfl

theorem inStep_doubled : Timestamp.InStep Doubled := by
  rintro a _ b _ rfl rfl
  have hsecond : 2 * a.second = 2 * b.second ↔ a.second = b.second := by omega
  simp [Timestamp.before, hsecond]

def twoSessions : List (Timestamp × Event) :=
  [(⟨9, 0⟩, .start ⟨"S2"⟩ (fun _ => 0) (.keygen "alice" 1 1)),
    (⟨4, 0⟩, .attend ⟨"S1"⟩ false),
    (⟨3, 0⟩, .deliver (.publish ⟨"S1"⟩ (.keygen "c2hhcmU=" "0xabc"))),
    (⟨2, 0⟩, .answer ⟨"S1"⟩ (.ack ⟨⟨"S1"⟩, true, none⟩)),
    (⟨1, 0⟩, .start ⟨"S1"⟩ (fun _ => 0) (.keygen "alice" 1 1)),
    (⟨0, 0⟩, .operate (.register ⟨1⟩ "http://node1:8080"))]

def briskReaper : Reaper := ⟨.ofSeconds 5, .ofSeconds 1, rfl⟩

def twoSessionsSwept : List (Timestamp × Event) :=
  [(⟨18, 0⟩, .start ⟨"S2"⟩ (fun _ => 0) (.keygen "alice" 1 1)),
    (⟨16, 0⟩, .prune briskReaper.retention),
    (⟨8, 0⟩, .attend ⟨"S1"⟩ false),
    (⟨7, 0⟩, .prune briskReaper.retention),
    (⟨6, 0⟩, .deliver (.publish ⟨"S1"⟩ (.keygen "c2hhcmU=" "0xabc"))),
    (⟨4, 0⟩, .answer ⟨"S1"⟩ (.ack ⟨⟨"S1"⟩, true, none⟩)),
    (⟨2, 0⟩, .start ⟨"S1"⟩ (fun _ => 0) (.keygen "alice" 1 1)),
    (⟨0, 0⟩, .operate (.register ⟨1⟩ "http://node1:8080"))]

theorem woven_twoSessions : Woven Doubled briskReaper.retention twoSessions twoSessionsSwept := by
  refine .turn (.sweep ?_ _) (doubled _) (.start _ _ _)
  refine .turn (.sweep ?_ _) (doubled _) (.attend _ _)
  refine .turn ?_ (doubled _) (.deliver _)
  refine .turn ?_ (doubled _) (.answer _ _)
  refine .turn ?_ (doubled _) (.start _ _ _)
  exact .turn .nil (doubled _) (.operate (.register _ _))

theorem sweeps_disturb_nothing_two_sessions :
    let one := replay (.new .standard .empty) twoSessions
    let two := replay (.new .standard .empty) twoSessionsSwept
    told two.1 = told one.1 ∧ notices two.1 = notices one.1 ∧
      (notices one.1).map Notice.session = [⟨"S2"⟩, ⟨"S1"⟩] ∧
      two.2.docket.activeCount = one.2.docket.activeCount ∧
      (one.2.docket.records.keys, two.2.docket.records.keys) = ([⟨"S1"⟩, ⟨"S2"⟩], [⟨"S2"⟩]) ∧
      one.2.docket.activeCount = 1 := by
  have empty : Registry.Alike Doubled .empty .empty := ⟨rfl, fun _ => .none⟩
  obtain ⟨⟨told, notices, -, -, -, active, -⟩, -⟩ :=
    sweeps_disturb_nothing inStep_doubled empty woven_twoSessions
  exact ⟨told, notices, by decide +kernel, active, by decide +kernel, by decide +kernel⟩

end Coordinator

end Conclave

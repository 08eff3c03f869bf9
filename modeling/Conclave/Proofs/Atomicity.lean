import Conclave.Proofs.Conservation
import Conclave.Proofs.Records
import Conclave.Proofs.Restoration

namespace Conclave

theorem Session.Request.kind_of_invalid {request : Session.Request} {f : Failure}
    (invalid : request.validate = .error f) :
    ∃ reason, f = .invalidThreshold reason ∨ f = .invalidRequest reason := by
  unfold validate at invalid
  split at invalid
  · cases invalid
    exact ⟨_, Or.inl rfl⟩
  · split at invalid
    · cases invalid
      exact ⟨_, Or.inl rfl⟩
    · split at invalid
      · cases invalid
      · split at invalid
        · cases invalid
          exact ⟨_, Or.inr rfl⟩
        · split at invalid
          · cases invalid
            exact ⟨_, Or.inr rfl⟩
          · cases invalid

namespace Reply

variable {budget : Duration} {reply : Reply}

theorem outcome_eq_ok :
    reply.outcome budget = .ok () ↔ ∃ ack, reply = .ack ack ∧ ack.accepted = true := by
  cases reply with
  | ack ack => cases h : ack.accepted <;> simp [outcome, h]
  | failed f => cases f <;> simp [outcome]
  | overdue => simp [outcome]

theorem kind_of_error {f : Failure} (h : reply.outcome budget = .error f) :
    ∃ reason, f = .dispatchFailed reason := by
  cases reply with
  | ack ack =>
      rw [outcome] at h
      split at h
      · cases h
      · cases h
        exact ⟨_, rfl⟩
  | failed e =>
      cases e <;>
      · cases h
        exact ⟨_, rfl⟩
  | overdue =>
      cases h
      exact ⟨_, rfl⟩

theorem failed_iff : (∃ reason, reply.outcome budget = .error (.dispatchFailed reason)) ↔
    ∀ ack, reply = .ack ack → ack.accepted = false := by
  constructor
  · rintro ⟨reason, failed⟩ ack hack
    cases accepted : ack.accepted with
    | false => rfl
    | true => cases failed.symm.trans (outcome_eq_ok.2 ⟨ack, hack, accepted⟩)
  · intro unaccepted
    cases h : reply.outcome budget with
    | ok _ =>
        obtain ⟨ack, hack, accepted⟩ := outcome_eq_ok.1 h
        rw [unaccepted ack hack] at accepted
        cases accepted
    | error f =>
        obtain ⟨reason, rfl⟩ := kind_of_error h
        exact ⟨reason, rfl⟩

end Reply

theorem map_eq_error {α β : Type} {x : Except Failure α} {g : α → β} {f : Failure} :
    x.map g = .error f ↔ x = .error f := by
  cases x <;> simp [Except.map]

namespace Coordinator

def Event.concerns (s : SessionId) : Event → Bool
  | .start k _ _ => decide (k = s)
  | .answer k _ => decide (k = s)
  | .attend k _ => decide (k = s)
  | .cancel k => decide (k = s)
  | _ => false

namespace Turn

theorem concerns_of_ending {t : Turn} {s : SessionId} {outcome : Except Failure CeremonyResult}
    (ending : t.ending = some (s, outcome)) : t.event.concerns s = true := by
  rcases event_of_ending ending with ⟨starts, -⟩ | ⟨reply, f, event, -⟩ | ⟨overdue, event⟩ | ⟨event, -⟩
  · cases event : t.event <;> simp_all [Turn.starts, Event.started?, Event.concerns]
  · simp [event, Event.concerns]
  · simp [event, Event.concerns]
  · simp [event, Event.concerns]

theorem config_same (t : Turn) : t.after.config = t.before.config := by
  cases t.effect with
  | idle same => rw [same]
  | concluded _ _ _ _ _ live after => rw [after, conclude_of_live _ _ live]
  | refused _ _ _ _ _ _ after => rw [after]
  | opened _ _ _ _ _ _ _ _ _ _ after => rw [after]
  | acknowledged _ _ _ _ _ _ _ after => rw [after]
  | pruned _ _ _ _ _ after => rw [after]
  | operated _ _ after => rw [after]
  | delivered _ _ _ after => rw [after]

theorem lease_same {t : Turn} {s : SessionId} (other : t.event.concerns s = false) :
    t.after.leases.get? s = t.before.leases.get? s := by
  have hne : ∀ k, t.event.concerns k = true → s ≠ k := by
    rintro k hk rfl
    rw [other] at hk
    cases hk
  cases t.effect with
  | idle same => rw [same]
  | refused _ _ _ _ _ _ after => rw [after]
  | opened k _ _ _ _ _ event _ _ _ after =>
      rw [after, Keyed.get?_insert, if_neg (hne k (by simp [event, Event.concerns]))]
  | acknowledged k _ _ event _ _ _ after =>
      rw [after, Keyed.get?_modify, if_neg (hne k (by simp [event, Event.concerns]))]
  | concluded k _ _ _ ending live after =>
      rw [after, conclude_of_live _ _ live, Keyed.get?_erase,
        if_neg (hne k (concerns_of_ending ending))]
  | pruned _ _ _ _ _ after => rw [after]
  | operated _ _ after => rw [after]
  | delivered _ _ _ after => rw [after]

end Turn

theorem replay_same (first : Coordinator) {s : SessionId} {events : List (Timestamp × Event)}
    (others : ∀ e ∈ events, e.2.concerns s = false) :
    (replay first events).2.config = first.config ∧
      (replay first events).2.leases.get? s = first.leases.get? s := by
  induction events with
  | nil => exact ⟨rfl, rfl⟩
  | cons e rest ih =>
      obtain ⟨config, lease⟩ := ih fun e he => others e (List.mem_cons_of_mem _ he)
      exact ⟨(Turn.config_same _).trans config,
        (Turn.lease_same (others e List.mem_cons_self)).trans lease⟩

theorem answer_of_waiting (now : Timestamp) {s : SessionId} (reply : Reply) {c : Coordinator}
    {lease : Lease} (live : c.leases.get? s = some lease) (waiting : lease.acknowledged = false) :
    (c.answer now s reply).1 = some (reply.outcome c.config.dispatchTimeout) ∧
      ∀ f, reply.outcome c.config.dispatchTimeout = .error f →
        (c.answer now s reply).2 = c.conclude now s (some f) := by
  cases ho : reply.outcome c.config.dispatchTimeout with
  | ok _ => simp [answer, live, waiting, ho]
  | error f => simp [answer, live, waiting, ho]

structure Call where
  outcome : Option (Except Failure Notice)
  sent : List Notice
  after : Coordinator

def call (now later : Timestamp) (s : SessionId) (draws : Draws) (request : Session.Request)
    (notifier : Notice → Reply) (meanwhile : List (Timestamp × Event)) (c : Coordinator) : Call :=
  match c.start now s draws request with
  | (.error f, after) => ⟨some (.error f), [], after⟩
  | (.ok notice, waiting) =>
      let (outcome, after) := (replay waiting meanwhile).2.answer later s (notifier notice)
      ⟨outcome.map (Except.map fun _ => notice), [notice], after⟩

theorem replay_snoc (first : Coordinator) (events : List (Timestamp × Event)) (now : Timestamp)
    (event : Event) :
    (replay first (events ++ [(now, event)])).2 =
      (replay (Turn.after ⟨now, first, event⟩) events).2 := by
  induction events with
  | nil => rfl
  | cons e rest ih =>
      rw [List.cons_append, replay, replay]
      simp only [ih]

theorem after_call {now : Timestamp} {s : SessionId} {draws : Draws} {request : Session.Request}
    {notice : Notice} {c : Coordinator} (launched : (c.start now s draws request).1 = .ok notice)
    (later : Timestamp) (notifier : Notice → Reply) (meanwhile : List (Timestamp × Event)) :
    (c.call now later s draws request notifier meanwhile).after =
      (replay c ((later, .answer s (notifier notice)) ::
        (meanwhile ++ [(now, .start s draws request)]))).2 := by
  have hstart : c.start now s draws request = (.ok notice, (c.start now s draws request).2) :=
    Prod.ext launched rfl
  rw [call, hstart, replay]
  simp only [replay_snoc]
  rfl

def shortage (request : Session.Request) (c : Coordinator) : Failure :=
  .insufficientNodes c.registry.online.length request.threshold.toNat

section Call

variable {now later : Timestamp} {s : SessionId} {draws : Draws} {request : Session.Request}
  {c : Coordinator}

theorem chosen_of_few (valid : request.validate = .ok ())
    (few : c.registry.online.length < request.threshold.toNat) :
    c.chosen s draws request = .error (c.shortage request) := by
  obtain ⟨hpos, -⟩ := Session.Request.bounds_of_valid valid
  rw [Registry.length_online] at few
  rw [chosen, Quorum.select_of_few (by omega) few, shortage, Registry.length_online]

theorem chosen_of_enough (s : SessionId) (draws : Draws) (valid : request.validate = .ok ())
    (enough : request.threshold.toNat ≤ c.registry.online.length) :
    ∃ parties, c.chosen s draws request = .ok parties := by
  obtain ⟨hpos, hle⟩ := Session.Request.bounds_of_valid valid
  rw [Registry.length_online] at enough
  exact ⟨_, Quorum.select_of_enough (by omega) enough fun _ => hle⟩

theorem conclude_launch {parties : List NodeId} {channel : ChannelId} {bus : Bus}
    (nodup : parties.Nodup) (below : BelowLimit c)
    (subscribed : c.bus.subscribe s = .ok (channel, bus)) (failure : Option Failure) :
    ((c.launch now s request parties channel bus).conclude later s failure).registry = c.registry ∧
      ((c.launch now s request parties channel bus).conclude later s failure).bus.topics =
        c.bus.topics := by
  rw [conclude_of_live _ _ (live_of_launch parties channel bus)]
  refine ⟨Registry.releaseAll_markAll nodup fun id n hn => ?_, Bus.topics_drop_subscribe subscribed⟩
  exact below (id, n) (Keyed.mem_entries_iff.2 hn)

theorem entries_refuse (new : c.docket.get? s = none) (f : Failure) :
    (c.refuse now s request f).docket.records.entries = c.docket.records.entries ++
      [(s, { Session.Record.fresh now s request with
        state := .failed, error := some f.message, finishedAt := some now })] := by
  have hrecord : (Session.Record.fresh now s request).finish now (some f) =
      { Session.Record.fresh now s request with
        state := .failed, error := some f.message, finishedAt := some now } :=
    Session.Record.finish_of_active rfl now (some f)
  rw [← hrecord]
  exact Keyed.entries_modify_insert _ _ new

end Call

inductive Called (now later : Timestamp) (s : SessionId) (draws : Draws) (request : Session.Request)
    (notifier : Notice → Reply) (meanwhile : List (Timestamp × Event)) (c : Coordinator)
    (call : Call) : Prop
  | invalid (f : Failure) (invalid : request.validate = .error f)
      (result : call = ⟨some (.error f), [], c⟩)
  | short (valid : request.validate = .ok ())
      (few : c.registry.online.length < request.threshold.toNat)
      (result : call = ⟨some (.error (c.shortage request)), [],
        c.refuse now s request (c.shortage request)⟩)
  | notified (parties : List NodeId) (channel : ChannelId) (bus : Bus)
      (valid : request.validate = .ok ())
      (enough : request.threshold.toNat ≤ c.registry.online.length)
      (selected : c.chosen s draws request = .ok parties)
      (subscribed : c.bus.subscribe s = .ok (channel, bus))
      (outcome : call.outcome = some (((notifier (request.notice s parties)).outcome
        c.config.dispatchTimeout).map fun _ => request.notice s parties))
      (sent : call.sent = [request.notice s parties])
      (undone : meanwhile = [] → ∀ f, call.outcome = some (.error f) →
        call.after = (c.launch now s request parties channel bus).conclude later s (some f))

structure Call.Tells (now : Timestamp) (s : SessionId) (request : Session.Request)
    (notifier : Notice → Reply) (c : Coordinator) (call : Call) : Prop where
  returns : ∃ outcome, call.outcome = some outcome
  invalid_iff : (∃ reason, call.outcome = some (.error (.invalidThreshold reason)) ∨
      call.outcome = some (.error (.invalidRequest reason))) ↔ ∃ f, request.validate = .error f
  invalid : ∀ f, request.validate = .error f →
    call.outcome = some (.error f) ∧ call.sent = [] ∧ call.after = c
  short_iff : (∃ available required,
      call.outcome = some (.error (.insufficientNodes available required))) ↔
    request.validate = .ok () ∧ c.registry.online.length < request.threshold.toNat
  short : ∀ available required,
    call.outcome = some (.error (.insufficientNodes available required)) →
      available = c.registry.online.length ∧ required = request.threshold.toNat ∧ call.sent = [] ∧
      call.after = { c with docket := call.after.docket } ∧
      call.after.docket.records.entries = c.docket.records.entries ++
        [(s, { Session.Record.fresh now s request with
          state := .failed
          error := some (Failure.insufficientNodes available required).message
          finishedAt := some now })]
  undelivered_iff : (∃ reason, call.outcome = some (.error (.dispatchFailed reason))) ↔
    ∃ parties, call.sent = [request.notice s parties] ∧
      ∀ ack, notifier (request.notice s parties) = .ack ack → ack.accepted = false
  kinds : ∀ f, call.outcome = some (.error f) →
    (∃ reason, f = .invalidThreshold reason ∨ f = .invalidRequest reason) ∨
      (∃ available required, f = .insufficientNodes available required) ∨
      ∃ reason, f = .dispatchFailed reason

section Called

variable {now later : Timestamp} {s : SessionId} {draws : Draws} {request : Session.Request}
  {notifier : Notice → Reply} {meanwhile : List (Timestamp × Event)} {c : Coordinator} {call : Call}

theorem called (now later : Timestamp) (draws : Draws) (request : Session.Request)
    (notifier : Notice → Reply) (untaken : c.bus.isSubscribed s = false)
    (others : ∀ e ∈ meanwhile, e.2.concerns s = false) :
    Called now later s draws request notifier meanwhile c
      (c.call now later s draws request notifier meanwhile) := by
  cases started now s draws request c with
  | invalid f invalid result => exact .invalid f invalid (by simp only [Coordinator.call, result])
  | unchosen f valid unchosen result =>
      rcases Nat.lt_or_ge c.registry.online.length request.threshold.toNat with few | enough
      · rw [chosen_of_few valid few] at unchosen
        obtain rfl := Except.error.inj unchosen
        exact .short valid few (by simp only [Coordinator.call, result])
      · obtain ⟨parties, selected⟩ := chosen_of_enough s draws valid enough
        cases unchosen.symm.trans selected
  | taken f parties _ _ taken =>
      rw [Bus.subscribe, untaken] at taken
      cases taken
  | launched parties channel bus valid selected subscribed result =>
      have enough : request.threshold.toNat ≤ c.registry.online.length := by
        rw [Registry.length_online]
        exact (Quorum.select_eq_ok selected).1
      obtain ⟨config, lease⟩ :=
        replay_same (c.launch now s request parties channel bus) others
      obtain ⟨answered, ended⟩ := answer_of_waiting later (notifier (request.notice s parties))
        (lease.trans (live_of_launch parties channel bus)) rfl
      refine .notified parties channel bus valid enough selected subscribed ?_ ?_ ?_
      · simp only [Coordinator.call, result, answered, config, Option.map_some]
        rfl
      · simp only [Coordinator.call, result]
      · rintro rfl f outcome
        simp only [Coordinator.call, result, answered] at outcome ⊢
        exact ended f (map_eq_error.1 (Option.some.inj outcome))

theorem Called.tells (h : Called now later s draws request notifier meanwhile c call)
    (new : c.docket.get? s = none) : call.Tells now s request notifier c := by
  cases h with
  | invalid f invalid result =>
      obtain ⟨reason, kind⟩ := Session.Request.kind_of_invalid invalid
      subst result
      exact {
        returns := ⟨_, rfl⟩
        invalid_iff := ⟨fun _ => ⟨f, invalid⟩, fun _ => ⟨reason, by simpa using kind⟩⟩
        invalid := by
          rintro g hg
          cases invalid.symm.trans hg
          exact ⟨rfl, rfl, rfl⟩
        short_iff := by rcases kind with rfl | rfl <;> simp [invalid]
        short := by rcases kind with rfl | rfl <;> simp
        undelivered_iff := by rcases kind with rfl | rfl <;> simp
        kinds := by
          rintro g hg
          cases hg
          exact Or.inl ⟨reason, kind⟩ }
  | short valid few result =>
      subst result
      exact {
        returns := ⟨_, rfl⟩
        invalid_iff := by simp [shortage, valid]
        invalid := by simp [valid]
        short_iff := by simp [shortage, valid, few]
        short := by
          rintro available required hkind
          obtain ⟨rfl, rfl⟩ : available = c.registry.online.length ∧
              required = request.threshold.toNat := by simpa [shortage, eq_comm] using hkind
          exact ⟨rfl, rfl, rfl, rfl, entries_refuse new _⟩
        undelivered_iff := by simp [shortage]
        kinds := by
          rintro g hg
          cases hg
          exact Or.inr (Or.inl ⟨_, _, rfl⟩) }
  | notified parties channel bus valid enough selected subscribed outcome sent =>
      have failed : ∀ f, call.outcome = some (.error f) ↔
          (notifier (request.notice s parties)).outcome c.config.dispatchTimeout = .error f := by
        intro f
        rw [outcome, Option.some.injEq, map_eq_error]
      have kinds : ∀ f, call.outcome = some (.error f) → ∃ reason, f = .dispatchFailed reason :=
        fun f h => Reply.kind_of_error ((failed f).1 h)
      have sends : ∀ parties', call.sent = [request.notice s parties'] →
          request.notice s parties' = request.notice s parties := by
        intro parties' h
        simpa using (h.symm.trans sent)
      exact {
        returns := ⟨_, outcome⟩
        invalid_iff := by
          constructor
          · rintro ⟨reason, h | h⟩
            · obtain ⟨_, hk⟩ := kinds _ h
              cases hk
            · obtain ⟨_, hk⟩ := kinds _ h
              cases hk
          · simp [valid]
        invalid := by simp [valid]
        short_iff := by
          constructor
          · rintro ⟨available, required, h⟩
            obtain ⟨_, hk⟩ := kinds _ h
            cases hk
          · rintro ⟨-, few⟩
            omega
        short := by
          intro available required h
          obtain ⟨_, hk⟩ := kinds _ h
          cases hk
        undelivered_iff := by
          simp only [failed, Reply.failed_iff]
          constructor
          · exact fun h => ⟨parties, sent, h⟩
          · rintro ⟨parties', h, hack⟩
            rwa [sends parties' h] at hack
        kinds := fun f h => Or.inr (Or.inr (kinds f h)) }

end Called

theorem start_fails_atomically {config : Config} {ops : List (Timestamp × Registry.Operation)}
    {past : List Turn} {c : Coordinator}
    (run : Run Fresh (.new config (Registry.empty.after ops)) past c) (below : BelowLimit c)
    (now later : Timestamp) (s : SessionId) (draws : Draws) (request : Session.Request)
    (fresh : Fresh past ⟨now, c, .start s draws request⟩) (untaken : c.bus.isSubscribed s = false)
    (notifier : Notice → Reply) (meanwhile : List (Timestamp × Event))
    (others : ∀ e ∈ meanwhile, e.2.concerns s = false) :
    (c.call now later s draws request notifier meanwhile).Tells now s request notifier c ∧
    (∀ f, (c.call now later s draws request notifier []).outcome = some (.error f) →
      (c.call now later s draws request notifier []).after.registry = c.registry ∧
      (c.call now later s draws request notifier []).after.bus.topics = c.bus.topics) ∧
    ((c.start now s draws request).2.cancel later s).2.registry = c.registry ∧
    ((c.start now s draws request).2.cancel later s).2.bus.topics = c.bus.topics := by
  have starts : Turn.starts s ⟨now, c, .start s draws request⟩ = true := Turn.starts_of_event rfl
  have gone : c.leases.get? s = none := run.gone_of_start fresh starts
  have named : c.registry.Named := run.named (Registry.named_after Registry.named_empty)
  have new : c.docket.get? s = none := run.unrecorded_of_start fresh starts
  refine ⟨(called now later draws request notifier untaken others).tells new, ?_, ?_⟩
  · intro f failed
    have alone : ∀ e ∈ ([] : List (Timestamp × Event)), e.2.concerns s = false := by simp
    cases called now later draws request notifier untaken alone with
    | invalid _ _ result =>
        rw [result]
        exact ⟨rfl, rfl⟩
    | short _ _ result =>
        rw [result]
        exact ⟨rfl, rfl⟩
    | notified parties channel bus _ _ selected subscribed _ _ undone =>
        rw [undone rfl f failed]
        exact conclude_launch (nodup_chosen named selected) below subscribed (some f)
  · cases started now s draws request c with
    | invalid _ _ result =>
        rw [result, cancel_of_gone later gone]
        exact ⟨rfl, rfl⟩
    | unchosen f _ _ result =>
        rw [result, cancel_of_gone later (c := c.refuse now s request f) gone]
        exact ⟨rfl, rfl⟩
    | taken f _ _ _ _ result =>
        rw [result, cancel_of_gone later (c := c.refuse now s request f) gone]
        exact ⟨rfl, rfl⟩
    | launched parties channel bus _ selected subscribed result =>
        rw [result, cancel_of_live later (live_of_launch parties channel bus)]
        exact conclude_launch (nodup_chosen named selected) below subscribed _

def engagedEvents : List (Timestamp × Event) :=
  [(⟨1, 0⟩, .start ⟨"S1"⟩ (fun _ => 0) (.keygen "alice" 1 1))]

def engaged : Coordinator := (replay oneNode engagedEvents).2

def unreached : Call :=
  engaged.call ⟨2, 0⟩ ⟨3, 0⟩ ⟨"S2"⟩ (fun _ => 0) (.keygen "bob" 1 1)
    (fun _ => .failed (.config "no endpoint")) []

theorem start_fails_atomically_unreached :
    Admits Fresh oneNode engagedEvents ∧ BelowLimit engaged ∧
      unreached.Tells ⟨2, 0⟩ ⟨"S2"⟩ (.keygen "bob" 1 1) (fun _ => .failed (.config "no endpoint"))
        engaged ∧
      unreached.outcome = some (.error (.dispatchFailed "Configuration error: no endpoint")) ∧
      unreached.after.registry = engaged.registry ∧ engaged.registry.tasks ⟨1⟩ = 1 := by
  have admitted : Admits Fresh oneNode engagedEvents := by decide +kernel
  have below : BelowLimit engaged := by decide +kernel
  have outcome : unreached.outcome =
      some (.error (.dispatchFailed "Configuration error: no endpoint")) := by decide +kernel
  obtain ⟨tells, restored, -⟩ := start_fails_atomically (run_replay admitted) below ⟨2, 0⟩ ⟨3, 0⟩
    ⟨"S2"⟩ (fun _ => 0) (.keygen "bob" 1 1) (by decide +kernel) (by decide +kernel)
    (fun _ => .failed (.config "no endpoint")) [] (by simp)
  exact ⟨admitted, below, tells, outcome, (restored _ outcome).1, by decide +kernel⟩

end Coordinator

end Conclave

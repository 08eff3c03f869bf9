import Conclave.Proofs.Agreement
import Conclave.Proofs.Delivery

namespace Conclave.Session

theorem Record.terminal_finish (now : Timestamp) (failure : Option Failure) (r : Record) :
    (r.finish now failure).state.isTerminal = true := by
  cases h : r.state.isTerminal with
  | true => rw [Record.finish_of_terminal h, h]
  | false =>
      rw [Record.finish_of_active h]
      cases failure <;> rfl

theorem Docket.activeCount_eq_size {ν : Type} {d : Docket} {m : Keyed SessionId ν}
    (h : ∀ s, (∃ r, d.get? s = some r ∧ r.state.isTerminal = false) ↔ m.contains s = true) :
    d.activeCount = m.size := by
  have hcount : d.activeCount = d.records.count fun _ r => !r.state.isTerminal := by
    rw [activeCount, Keyed.values, List.countP_map, Keyed.count]
    rfl
  rw [hcount]
  refine Keyed.count_eq_size fun s => ?_
  simpa [get?] using h s

end Conclave.Session

namespace Conclave.Coordinator

def Event.closes : Event → Bool
  | .deliver .closeAll => true
  | _ => false

def Unclosed (past : List Turn) (t : Turn) : Prop := Private past t ∧ t.event.closes = false

instance (past : List Turn) (t : Turn) : Decidable (Unclosed past t) :=
  inferInstanceAs (Decidable (_ ∧ _))

section Coincidence

variable {config : Config} {registry : Registry} {past : List Turn} {c : Coordinator}

theorem Run.live_of_active {rule : List Turn → Turn → Prop}
    (run : Run rule (.new config registry) past c) {s : SessionId} {r : Session.Record}
    (record : c.docket.get? s = some r) (active : r.state.isTerminal = false) :
    ∃ lease, c.leases.get? s = some lease := by
  induction run generalizing r with
  | begin => cases record
  | @next past c run now event allowed ih =>
      cases Turn.bears ⟨now, c, event⟩ s with
      | nothing same lease =>
          rw [same] at record
          rw [lease]
          exact ih record active
      | refuses _ _ _ _ _ after =>
          obtain rfl := Option.some.inj (after.symm.trans record)
          rw [Session.Record.terminal_finish] at active
          cases active
      | opens _ _ given _ _ _ _ after => exact ⟨given, after⟩
      | acknowledges held _ _ _ _ after => exact ⟨_, after⟩
      | concludes _ _ _ _ _ after =>
          obtain ⟨old, -, rfl⟩ := Option.map_eq_some_iff.1 (after.symm.trans record)
          rw [Session.Record.terminal_finish] at active
          cases active
      | prunes _ _ _ _ _ gone => cases gone.symm.trans record

theorem Turn.topic_of_live {t : Turn} {past : List Turn}
    (wired : ∀ s, Wired past t.before s)
    (topics : ∀ s lease, t.before.leases.get? s = some lease →
      t.before.bus.topics.get? s = some lease.channel)
    (allowed : Unclosed past t) {s : SessionId} {lease : Lease}
    (live : t.after.leases.get? s = some lease) :
    t.after.bus.topics.get? s = some lease.channel := by
  cases t.effect with
  | idle same =>
      rw [same] at live ⊢
      exact topics s lease live
  | refused _ _ _ _ _ _ after =>
      rw [after] at live ⊢
      exact topics s lease live
  | opened k draws request parties channel bus _ _ _ subscribed after =>
      obtain ⟨-, -, rfl⟩ := Bus.subscribe_eq_ok subscribed
      rw [after] at live ⊢
      rw [Keyed.get?_insert] at live ⊢
      split
      · rename_i hs
        rw [if_pos hs] at live
        obtain rfl := Option.some.inj live
        rfl
      · rename_i hs
        rw [if_neg hs] at live
        exact topics s lease live
  | acknowledged k _ _ _ _ _ _ after =>
      rw [after] at live ⊢
      rw [Keyed.get?_modify] at live
      split at live
      · obtain ⟨old, hold, rfl⟩ := Option.map_eq_some_iff.1 live
        exact topics s old hold
      · exact topics s lease live
  | concluded k held _ _ _ held_live after =>
      rw [conclude_of_live _ _ held_live] at after
      rw [after, Keyed.get?_erase] at live
      split at live
      · cases live
      · rename_i hs
        obtain ⟨ch, hch, hsession, -⟩ := (wired k).channel _ (channel?_of_live held_live)
        have hother : (t.before.bus.channels.get? held.channel).map Channel.session ≠ some s := by
          rw [hch, Option.map_some, hsession]
          exact fun h => hs (Option.some.inj h).symm
        rw [after, Bus.drop_topics, if_neg hother]
        exact topics s lease live
  | pruned _ _ _ _ _ after =>
      rw [after] at live ⊢
      exact topics s lease live
  | operated _ _ after =>
      rw [after] at live ⊢
      exact topics s lease live
  | delivered op event _ after =>
      have houtside := allowed.1.2
      have hunclosed := allowed.2
      rw [event] at houtside hunclosed
      rw [after] at live ⊢
      cases op with
      | subscribe k => cases houtside
      | receive k => cases houtside
      | drop k => cases houtside
      | closeAll => cases hunclosed
      | publish k r =>
          have htopics : (t.before.bus.apply (.publish k r)).2.topics = t.before.bus.topics :=
            Bus.publish_topics k r t.before.bus
          rw [htopics]
          exact topics s lease live

theorem Run.topic_of_live (run : Run Unclosed (.new config registry) past c) {s : SessionId}
    {lease : Lease} (live : c.leases.get? s = some lease) :
    c.bus.topics.get? s = some lease.channel := by
  induction run generalizing s lease with
  | begin => cases live
  | @next past c run now event allowed ih =>
      have wired := (run.mono fun _ _ h => h.1).wired
      exact Turn.topic_of_live wired (fun s lease => ih) allowed live

theorem Run.isSubscribed_eq (run : Run Unclosed (.new config registry) past c) (s : SessionId) :
    c.bus.isSubscribed s = c.leases.contains s := by
  have wired := (run.mono fun _ _ h => h.1).wired s
  rw [Bool.eq_iff_iff, Bus.isSubscribed, Keyed.contains_iff, Keyed.contains_iff]
  constructor
  · rintro ⟨k, topic⟩
    obtain ⟨lease, live, -⟩ := Option.map_eq_some_iff.1 (wired.topic k topic)
    exact ⟨lease, live⟩
  · rintro ⟨lease, live⟩
    exact ⟨lease.channel, run.topic_of_live live⟩

theorem Run.active_iff {rule : List Turn → Turn → Prop}
    (fresh : ∀ past t, rule past t → Fresh past t)
    (run : Run rule (.new config registry) past c) (s : SessionId) :
    (∃ r, c.docket.get? s = some r ∧ r.state.isTerminal = false) ↔
      c.leases.contains s = true := by
  rw [Keyed.contains_iff]
  constructor
  · rintro ⟨r, record, active⟩
    exact run.live_of_active record active
  · rintro ⟨lease, live⟩
    obtain ⟨r, record, tracks⟩ := run.tracked fresh live
    exact ⟨r, record, tracks.active⟩

end Coincidence

theorem live_sessions_coincide {config : Config} {registry : Registry} {past : List Turn}
    {c : Coordinator} (run : Run Unclosed (.new config registry) past c) :
    (∀ s, ((∃ r, c.docket.get? s = some r ∧ r.state.isTerminal = false) ↔
        c.bus.isSubscribed s = true) ∧
      (c.bus.isSubscribed s = true ↔ c.leases.contains s = true) ∧
      (c.leases.contains s = true ↔ pending s past = true)) ∧
    c.docket.activeCount = c.bus.topicCount ∧ c.docket.activeCount = c.leases.size := by
  have fresh : ∀ past t, Unclosed past t → Fresh past t := fun _ _ h => h.1.1
  have hleases : ∀ s, (∃ r, c.docket.get? s = some r ∧ r.state.isTerminal = false) ↔
      c.leases.contains s = true := run.active_iff fresh
  have htopics : ∀ s, (∃ r, c.docket.get? s = some r ∧ r.state.isTerminal = false) ↔
      c.bus.isSubscribed s = true := fun s => run.isSubscribed_eq s ▸ hleases s
  refine ⟨fun s => ⟨htopics s, ?_, ?_⟩, Session.Docket.activeCount_eq_size htopics,
    Session.Docket.activeCount_eq_size hleases⟩
  · rw [run.isSubscribed_eq s]
  · rw [run.contains_eq_pending fresh s]

def relayEvents : List (Timestamp × Event) :=
  [(⟨7, 0⟩, .prune .zero),
    (⟨6, 0⟩, .attend ⟨"S1"⟩ false),
    (⟨5, 0⟩, .deliver (.publish ⟨"S1"⟩ (.keygen "c2hhcmU=" "0xabc"))),
    (⟨4, 0⟩, .operate (.deregister ⟨1⟩)),
    (⟨3, 0⟩, .start ⟨"S2"⟩ (fun _ => 0) (.keygen "alice" 1 1)),
    (⟨2, 0⟩, .answer ⟨"S1"⟩ (.ack ⟨⟨"S1"⟩, true, none⟩)),
    (⟨1, 0⟩, .start ⟨"S1"⟩ (fun _ => 0) (.keygen "alice" 1 1))]

def relayRun : List Turn × Coordinator := replay oneNode relayEvents

theorem live_sessions_coincide_relay :
    Admits Unclosed oneNode relayEvents ∧
      (∀ s, ((∃ r, relayRun.2.docket.get? s = some r ∧ r.state.isTerminal = false) ↔
          relayRun.2.bus.isSubscribed s = true) ∧
        (relayRun.2.bus.isSubscribed s = true ↔ relayRun.2.leases.contains s = true) ∧
        (relayRun.2.leases.contains s = true ↔ pending s relayRun.1 = true)) ∧
      relayRun.2.docket.activeCount = relayRun.2.bus.topicCount ∧
      ([⟨"S1"⟩, ⟨"S2"⟩] : List SessionId).map relayRun.2.bus.isSubscribed = [false, true] ∧
      (relayRun.2.docket.records.keys, relayRun.2.bus.topicCount) = ([⟨"S2"⟩], 1) := by
  have unclosed : Admits Unclosed oneNode relayEvents := by decide +kernel
  obtain ⟨coincide, counts, -⟩ := live_sessions_coincide (run_replay unclosed)
  exact ⟨unclosed, coincide, counts, by decide +kernel, by decide +kernel⟩

end Conclave.Coordinator

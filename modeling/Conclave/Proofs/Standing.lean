import Conclave.Proofs.Run

namespace Conclave.Coordinator

structure Standing where
  action : Action
  acknowledged : Bool
  mail : Option CeremonyResult
  reachable : Bool
  deriving DecidableEq, Repr

namespace Standing

def opened (action : Action) : Standing := ⟨action, false, none, true⟩

def acknowledge (st : Standing) : Standing := { st with acknowledged := true }

def deliver (result : CeremonyResult) (st : Standing) : Standing :=
  if st.reachable = true ∧ st.mail = none then { st with mail := some result } else st

def close (st : Standing) : Standing := { st with reachable := false }

def tidings (s : SessionId) (st : Standing) : Option (Except Failure CeremonyResult) :=
  match st.mail with
  | some result => some (resultOutcome s st.action result)
  | none => if st.reachable then none else some (.error (.resultChannelClosed s))

def news (s : SessionId) (st : Standing) : Option (Except Failure CeremonyResult) :=
  if st.acknowledged then st.tidings s else none

theorem tidings_deliver (s : SessionId) (result : CeremonyResult) (st : Standing) :
    (st.deliver result).tidings s =
      ((st.tidings s).orElse fun _ => some (resultOutcome s st.action result)) := by
  obtain ⟨action, acknowledged, mail, reachable⟩ := st
  cases mail <;> cases reachable <;> rfl

theorem tidings_close (s : SessionId) (st : Standing) :
    st.close.tidings s =
      ((st.tidings s).orElse fun _ => some (.error (.resultChannelClosed s))) := by
  obtain ⟨action, acknowledged, mail, reachable⟩ := st
  cases mail <;> cases reachable <;> rfl

theorem action_deliver (result : CeremonyResult) (st : Standing) :
    (st.deliver result).action = st.action := by
  unfold deliver
  split <;> rfl

theorem acknowledged_deliver (result : CeremonyResult) (st : Standing) :
    (st.deliver result).acknowledged = st.acknowledged := by
  unfold deliver
  split <;> rfl

end Standing

structure Linked (c : Coordinator) : Prop where
  mailbox : ∀ s lease, c.leases.get? s = some lease →
    ∃ buffer, c.bus.channels.get? lease.channel = some ⟨s, buffer, 0⟩
  topics : ∀ s k, c.bus.topics.get? s = some k →
    ∃ lease, c.leases.get? s = some lease ∧ lease.channel = k
  numbered : ∀ k ch, c.bus.channels.get? k = some ch → k.number < c.bus.next

def standing (s : SessionId) (c : Coordinator) : Option Standing :=
  (c.leases.get? s).map fun lease =>
    ⟨lease.action, lease.acknowledged, (c.bus.channels.get? lease.channel).bind Channel.buffer,
      decide (c.bus.topics.get? s = some lease.channel)⟩

section Standing

variable {c : Coordinator} {s u : SessionId}

theorem standing_of_gone (h : c.leases.get? s = none) : c.standing s = none := by
  rw [standing, h, Option.map_none]

theorem standing_eq_none : c.standing s = none ↔ c.leases.get? s = none := Option.map_eq_none_iff

theorem standing_congr {c c' : Coordinator} (leases : c'.leases.get? s = c.leases.get? s)
    (channels : ∀ lease, c.leases.get? s = some lease →
      c'.bus.channels.get? lease.channel = c.bus.channels.get? lease.channel)
    (topics : c'.bus.topics.get? s = c.bus.topics.get? s) : c'.standing s = c.standing s := by
  unfold standing
  rw [leases, topics]
  cases live : c.leases.get? s with
  | none => rfl
  | some lease => rw [Option.map_some, Option.map_some, channels lease live]

theorem Linked.congr {c c' : Coordinator} (linked : c.Linked) (leases : c'.leases = c.leases)
    (bus : c'.bus = c.bus) : c'.Linked := by
  refine ⟨?_, ?_, ?_⟩
  · rw [leases, bus]
    exact linked.mailbox
  · rw [leases, bus]
    exact linked.topics
  · rw [bus]
    exact linked.numbered

theorem linked_new (config : Config) (registry : Registry) : (new config registry).Linked := by
  constructor <;> intro _ _ h <;> cases h

theorem Linked.channel_ne (linked : c.Linked) {lease lease' : Lease}
    (live : c.leases.get? s = some lease) (live' : c.leases.get? u = some lease') (hu : u ≠ s) :
    lease'.channel ≠ lease.channel := by
  intro same
  obtain ⟨_, hs⟩ := linked.mailbox s lease live
  obtain ⟨_, hu'⟩ := linked.mailbox u lease' live'
  rw [same, hs] at hu'
  cases hu'
  exact hu rfl

theorem Linked.topic_ne (linked : c.Linked) {lease : Lease} (live : c.leases.get? s = some lease)
    (hu : u ≠ s) : c.bus.topics.get? u ≠ some lease.channel := by
  intro topic
  obtain ⟨lease', live', same⟩ := linked.topics u _ topic
  exact linked.channel_ne live live' hu same

theorem linked_conclude (linked : c.Linked) (now : Timestamp) (s : SessionId)
    (failure : Option Failure) : (c.conclude now s failure).Linked := by
  cases live : c.leases.get? s with
  | none => simpa only [conclude, live] using linked
  | some lease =>
      obtain ⟨buffer, box⟩ := linked.mailbox s lease live
      rw [conclude_of_live now failure live]
      constructor
      · intro u lease' live'
        simp only [Keyed.get?_erase] at live'
        split at live'
        · cases live'
        · rename_i hu
          simp only [Bus.drop_channels, if_neg (linked.channel_ne live live' hu)]
          exact linked.mailbox u lease' live'
      · intro u k topic
        simp only [Bus.drop_topics, box, Option.map_some, Option.some.injEq] at topic
        split at topic
        · cases topic
        · rename_i hu
          simp only [Keyed.get?_erase, if_neg (Ne.symm hu)]
          exact linked.topics u k topic
      · intro k ch found
        simp only [Bus.drop_channels] at found
        split at found
        · cases found
        · simp only [Bus.drop_next]
          exact linked.numbered k ch found

theorem standing_conclude (linked : c.Linked) (now : Timestamp) (s : SessionId)
    (failure : Option Failure) (u : SessionId) :
    (c.conclude now s failure).standing u = if u = s then none else c.standing u := by
  cases live : c.leases.get? s with
  | none =>
      simp only [conclude, live]
      split
      · rename_i hu
        rw [hu, standing_of_gone live]
      · rfl
  | some lease =>
      obtain ⟨buffer, box⟩ := linked.mailbox s lease live
      rw [conclude_of_live now failure live]
      by_cases hu : u = s
      · rw [if_pos hu]
        exact standing_of_gone (by simp [hu])
      · rw [if_neg hu]
        refine standing_congr ?_ ?_ ?_
        · simp only [Keyed.get?_erase, if_neg hu]
        · intro lease' live'
          simp only [Bus.drop_channels, if_neg (linked.channel_ne live live' hu)]
        · simp only [Bus.drop_topics, box, Option.map_some, Option.some.injEq,
            if_neg (Ne.symm hu)]

theorem config_conclude (now : Timestamp) (s : SessionId) (failure : Option Failure) :
    (c.conclude now s failure).config = c.config := by
  unfold conclude
  split <;> rfl

theorem receive_eq_attend (now : Timestamp) (s : SessionId) (c : Coordinator) :
    c.receive now s = c.attend now s false := by
  unfold attend
  cases h : c.receive now s with
  | mk outcome c' =>
      cases outcome with
      | some _ => rfl
      | none =>
          unfold receive at h
          repeat' split at h
          all_goals cases h
          all_goals rfl

theorem heard_of_linked (linked : c.Linked) {lease : Lease} (live : c.leases.get? s = some lease) :
    heard s false lease c.bus = (c.standing s).bind (Standing.news s) := by
  obtain ⟨buffer, box⟩ := linked.mailbox s lease live
  simp only [heard, standing, live, Option.map_some, Option.bind_some, Standing.news,
    Standing.tidings, box, Bus.receive]
  cases buffer with
  | some result => simp
  | none =>
      by_cases topic : c.bus.topics.get? s = some lease.channel <;> simp [Bus.isOpen, topic]

theorem receive_of_quiet (linked : c.Linked) (now : Timestamp)
    (quiet : (c.standing s).bind (Standing.news s) = none) : c.receive now s = (none, c) := by
  rw [receive_eq_attend]
  cases live : c.leases.get? s with
  | none => exact attend_of_gone now false live
  | some lease =>
      rw [attend_of_live now false live]
      simp only [heard_of_linked linked live, quiet]

theorem receive_of_news (linked : c.Linked) (now : Timestamp)
    {outcome : Except Failure CeremonyResult}
    (news : (c.standing s).bind (Standing.news s) = some outcome) :
    c.receive now s = (some outcome, c.conclude now s (failure? outcome)) := by
  rw [receive_eq_attend]
  cases live : c.leases.get? s with
  | none =>
      rw [standing_of_gone live] at news
      cases news
  | some lease =>
      rw [attend_of_live now false live]
      simp only [heard_of_linked linked live, news]

theorem expire_of_acknowledged (now : Timestamp) {st : Standing} (stands : c.standing s = some st)
    (acknowledged : st.acknowledged = true) :
    c.expire now s = (some (.timeout s), c.conclude now s (some (.timeout s))) := by
  obtain ⟨lease, live, rfl⟩ := Option.map_eq_some_iff.1 stands
  have hack : lease.acknowledged = true := acknowledged
  simp [expire, live, hack]

theorem expire_of_waiting (now : Timestamp)
    (waiting : ∀ st, c.standing s = some st → st.acknowledged = false) :
    c.expire now s = (none, c) := by
  cases live : c.leases.get? s with
  | none => simp only [expire, live]
  | some lease =>
      have hack : lease.acknowledged = false :=
        waiting _ (by rw [standing, live, Option.map_some])
      simp [expire, live, hack]

theorem cancel_of_standing (now : Timestamp) {st : Standing} (stands : c.standing s = some st) :
    c.cancel now s = (some (.cancelled s), c.conclude now s (some (.cancelled s))) := by
  obtain ⟨lease, live, -⟩ := Option.map_eq_some_iff.1 stands
  exact cancel_of_live now live

def acknowledge (now : Timestamp) (s : SessionId) (parties : List NodeId) (c : Coordinator) :
    Coordinator :=
  { c with
    docket := c.docket.markDispatched now s parties
    leases := c.leases.modify s fun l => { l with acknowledged := true } }

theorem answer_of_deaf (now : Timestamp) (reply : Reply)
    (deaf : ∀ st, c.standing s = some st → st.acknowledged = true) :
    c.answer now s reply = (none, c) := by
  cases live : c.leases.get? s with
  | none => simp only [answer, live]
  | some lease =>
      have hack : lease.acknowledged = true :=
        deaf _ (by rw [standing, live, Option.map_some])
      simp only [answer, live, hack, if_true]

theorem answer_of_refusal (now : Timestamp) {reply : Reply} {st : Standing} {f : Failure}
    (stands : c.standing s = some st) (waiting : st.acknowledged = false)
    (refusal : reply.outcome c.config.dispatchTimeout = .error f) :
    c.answer now s reply = (some (.error f), c.conclude now s (some f)) := by
  obtain ⟨lease, live, rfl⟩ := Option.map_eq_some_iff.1 stands
  have hack : lease.acknowledged = false := waiting
  simp [answer, live, hack, refusal]

theorem answer_of_acceptance (now : Timestamp) {reply : Reply} {st : Standing}
    (stands : c.standing s = some st) (waiting : st.acknowledged = false)
    (acceptance : reply.outcome c.config.dispatchTimeout = .ok ()) :
    ∃ parties, c.answer now s reply = (some (.ok ()), c.acknowledge now s parties) := by
  obtain ⟨lease, live, rfl⟩ := Option.map_eq_some_iff.1 stands
  have hack : lease.acknowledged = false := waiting
  exact ⟨lease.parties, by simp [answer, live, hack, acceptance, acknowledge]⟩

theorem linked_acknowledge (linked : c.Linked) (now : Timestamp) (s : SessionId)
    (parties : List NodeId) : (c.acknowledge now s parties).Linked := by
  constructor
  · intro u lease live
    simp only [acknowledge, Keyed.get?_modify] at live ⊢
    split at live
    · obtain ⟨old, hold, rfl⟩ := Option.map_eq_some_iff.1 live
      exact linked.mailbox u old hold
    · exact linked.mailbox u lease live
  · intro u k topic
    obtain ⟨lease, live, same⟩ := linked.topics u k topic
    simp only [acknowledge, Keyed.get?_modify, live]
    by_cases hu : u = s
    · exact ⟨{ lease with acknowledged := true }, by rw [if_pos hu, Option.map_some], same⟩
    · exact ⟨lease, by rw [if_neg hu], same⟩
  · exact linked.numbered

theorem standing_acknowledge (now : Timestamp) (s : SessionId) (parties : List NodeId)
    (u : SessionId) :
    (c.acknowledge now s parties).standing u =
      if u = s then (c.standing u).map Standing.acknowledge else c.standing u := by
  simp only [standing, acknowledge, Keyed.get?_modify]
  by_cases hu : u = s
  · cases c.leases.get? u <;> simp [hu, Standing.acknowledge]
  · rw [if_neg hu, if_neg hu]
    rfl

theorem linked_publish (linked : c.Linked) (s : SessionId) (result : CeremonyResult) :
    (c.publish s result).2.Linked := by
  constructor
  · intro u lease live
    obtain ⟨buffer, box⟩ := linked.mailbox u lease live
    simp only [publish, Bus.publish_channels, box, Option.map_some, Bus.fill]
    split
    · exact ⟨some result, rfl⟩
    · exact ⟨buffer, rfl⟩
  · intro u k topic
    simp only [publish, Bus.publish_topics] at topic
    exact linked.topics u k topic
  · intro k ch found
    simp only [publish, Bus.publish_channels] at found
    obtain ⟨old, hold, -⟩ := Option.map_eq_some_iff.1 found
    simp only [publish, Bus.publish_next]
    exact linked.numbered k old hold

theorem standing_publish (linked : c.Linked) (s : SessionId) (result : CeremonyResult)
    (u : SessionId) :
    (c.publish s result).2.standing u =
      if u = s then (c.standing u).map (Standing.deliver result) else c.standing u := by
  simp only [standing, publish, Bus.publish_topics, Bus.publish_channels]
  cases live : c.leases.get? u with
  | none => simp
  | some lease =>
      obtain ⟨buffer, box⟩ := linked.mailbox u lease live
      by_cases hu : u = s
      · subst hu
        by_cases topic : c.bus.topics.get? u = some lease.channel <;>
          cases buffer <;> simp [box, Bus.fill, topic, Standing.deliver]
      · have topic := linked.topic_ne live (Ne.symm hu)
        simp [box, Bus.fill, topic, hu]

theorem deliver_of_refused (linked : c.Linked) {result : CeremonyResult}
    (refused : (c.publish s result).1 = false) :
    (c.standing s).map (Standing.deliver result) = c.standing s := by
  cases live : c.leases.get? s with
  | none => rw [standing_of_gone live, Option.map_none]
  | some lease =>
      obtain ⟨buffer, box⟩ := linked.mailbox s lease live
      simp only [standing, live, box, Option.map_some, Option.bind_some, Standing.deliver]
      rw [if_neg]
      rintro ⟨topic, empty⟩
      have accepted : (c.bus.publish s result).1 = true :=
        Bus.publish_accepted.2 ⟨_, _, of_decide_eq_true topic, box, empty⟩
      exact absurd (accepted.symm.trans refused) (by decide)

theorem linked_closeAll (linked : c.Linked) : c.closeAll.Linked := by
  refine ⟨linked.mailbox, ?_, linked.numbered⟩
  intro s k topic
  cases topic

theorem standing_closeAll (u : SessionId) :
    c.closeAll.standing u = (c.standing u).map Standing.close := by
  simp only [standing, closeAll, Bus.closeAll, Keyed.get?_empty]
  cases c.leases.get? u <;> simp [Standing.close]

theorem linked_launch (linked : c.Linked) {now : Timestamp} {request : Session.Request}
    {parties : List NodeId} {channel : ChannelId} {bus : Bus}
    (subscribed : c.bus.subscribe s = .ok (channel, bus)) :
    (c.launch now s request parties channel bus).Linked := by
  obtain ⟨-, rfl, rfl⟩ := Bus.subscribe_eq_ok subscribed
  have old : ∀ {k ch}, c.bus.channels.get? k = some ch → k ≠ ⟨c.bus.next⟩ := by
    rintro k ch found rfl
    exact Nat.lt_irrefl _ (linked.numbered _ ch found)
  constructor
  · intro u lease live
    simp only [launch, Keyed.get?_insert] at live ⊢
    split at live
    · rename_i hu
      cases live
      exact ⟨none, by rw [if_pos rfl, hu]⟩
    · obtain ⟨buffer, box⟩ := linked.mailbox u lease live
      exact ⟨buffer, by rw [if_neg (old box), box]⟩
  · intro u k topic
    simp only [launch, Keyed.get?_insert] at topic ⊢
    split at topic
    · rename_i hu
      cases topic
      exact ⟨_, by rw [if_pos hu], rfl⟩
    · rename_i hu
      rw [if_neg hu]
      exact linked.topics u k topic
  · intro k ch found
    simp only [launch, Keyed.get?_insert] at found ⊢
    split at found
    · rename_i hk
      rw [hk]
      exact Nat.lt_succ_self _
    · exact Nat.lt_succ_of_lt (linked.numbered k ch found)

theorem standing_launch (linked : c.Linked) {now : Timestamp} {request : Session.Request}
    {parties : List NodeId} {channel : ChannelId} {bus : Bus}
    (subscribed : c.bus.subscribe s = .ok (channel, bus)) (u : SessionId) :
    (c.launch now s request parties channel bus).standing u =
      if u = s then some (.opened request.action) else c.standing u := by
  obtain ⟨-, rfl, rfl⟩ := Bus.subscribe_eq_ok subscribed
  by_cases hu : u = s
  · simp [standing, launch, hu, Standing.opened]
  · rw [if_neg hu]
    refine standing_congr ?_ ?_ ?_
    · simp [launch, hu]
    · intro lease live
      obtain ⟨buffer, box⟩ := linked.mailbox u lease live
      have hne : lease.channel ≠ ⟨c.bus.next⟩ := by
        intro same
        rw [same] at box
        exact Nat.lt_irrefl _ (linked.numbered _ _ box)
      simp [launch, hne]
    · simp [launch, hu]

theorem subscribe_of_gone (linked : c.Linked) (gone : c.standing s = none) :
    ∃ channel bus, c.bus.subscribe s = .ok (channel, bus) := by
  have absent : c.bus.isSubscribed s = false := by
    rw [Bus.isSubscribed, Keyed.contains_eq_false]
    cases topic : c.bus.topics.get? s with
    | none => rfl
    | some k =>
        obtain ⟨lease, live, -⟩ := linked.topics s k topic
        rw [standing_eq_none, live] at gone
        cases gone
  simp only [Bus.subscribe, absent, Bool.false_eq_true, if_false]
  exact ⟨_, _, rfl⟩

end Standing

section Start

variable {now : Timestamp} {s : SessionId} {draws : Draws} {request : Session.Request}
  {c c' : Coordinator}

theorem start_of_chosen (now : Timestamp) {parties : List NodeId} {channel : ChannelId} {bus : Bus}
    (valid : request.validate = .ok ()) (chosen : c.chosen s draws request = .ok parties)
    (subscribed : c.bus.subscribe s = .ok (channel, bus)) :
    c.start now s draws request =
      (.ok (request.notice s parties), c.launch now s request parties channel bus) := by
  cases started now s draws request c with
  | invalid f invalid => cases valid.symm.trans invalid
  | unchosen f _ unchosen => cases chosen.symm.trans unchosen
  | taken f _ _ _ taken => cases subscribed.symm.trans taken
  | launched parties' channel' bus' _ chosen' subscribed' result =>
      cases chosen.symm.trans chosen'
      cases subscribed.symm.trans subscribed'
      exact result

theorem start_of_refused (now : Timestamp) {f : Failure}
    (refused : request.validate = .error f ∨
      request.validate = .ok () ∧ c.chosen s draws request = .error f) :
    ∃ c', c.start now s draws request = (.error f, c') := by
  rcases refused with invalid | ⟨valid, unchosen⟩
  · exact ⟨c, by simp only [start, invalid]⟩
  · exact ⟨c.refuse now s request f, by simp only [start, valid, unchosen, refuse]⟩

theorem chosen_of_start {notice : Notice} (h : c.start now s draws request = (.ok notice, c')) :
    ∃ parties, request.validate = .ok () ∧ c.chosen s draws request = .ok parties := by
  cases started now s draws request c with
  | invalid f _ refused => cases h.symm.trans refused
  | unchosen f _ _ refused => cases h.symm.trans refused
  | taken f _ _ _ _ refused => cases h.symm.trans refused
  | launched parties _ _ valid chosen _ _ => exact ⟨parties, valid, chosen⟩

theorem kept_of_start {f : Failure} (h : c.start now s draws request = (.error f, c')) :
    c'.leases = c.leases ∧ c'.bus = c.bus ∧ c'.config = c.config := by
  cases started now s draws request c with
  | invalid f _ result =>
      cases h.symm.trans result
      exact ⟨rfl, rfl, rfl⟩
  | unchosen f _ _ result =>
      cases h.symm.trans result
      exact ⟨rfl, rfl, rfl⟩
  | taken f _ _ _ _ result =>
      cases h.symm.trans result
      exact ⟨rfl, rfl, rfl⟩
  | launched _ _ _ _ _ _ result => cases h.symm.trans result

end Start

end Conclave.Coordinator

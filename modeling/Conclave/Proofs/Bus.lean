import Conclave.Bus
import Conclave.Proofs.Keyed

namespace Conclave.Bus

inductive Operation where
  | subscribe (s : SessionId)
  | publish (s : SessionId) (result : CeremonyResult)
  | receive (c : ChannelId)
  | drop (c : ChannelId)
  | closeAll
  deriving DecidableEq, Repr

inductive Answer where
  | subscribed (outcome : Except Failure ChannelId)
  | accepted (taken : Bool)
  | received (what : Received)
  | done

def apply (b : Bus) : Operation → Answer × Bus
  | .subscribe s =>
      match b.subscribe s with
      | .ok (c, b) => (.subscribed (.ok c), b)
      | .error f => (.subscribed (.error f), b)
  | .publish s result => ((b.publish s result).map .accepted id)
  | .receive c => ((b.receive c).map .received id)
  | .drop c => (.done, b.drop c)
  | .closeAll => (.done, b.closeAll)

theorem subscribe_eq_ok {s : SessionId} {b b' : Bus} {c : ChannelId}
    (h : b.subscribe s = .ok (c, b')) :
    b.topics.get? s = none ∧ c = ⟨b.next⟩ ∧
      b' = ⟨b.topics.insert s c, b.channels.insert c ⟨s, none, 0⟩, b.next + 1⟩ := by
  unfold subscribe at h
  split at h
  · cases h
  · rename_i hs
    cases h
    exact ⟨Keyed.contains_eq_false.1 (by simpa [isSubscribed] using hs), rfl, rfl⟩

theorem publish_topics (s : SessionId) (r : CeremonyResult) (b : Bus) :
    (b.publish s r).2.topics = b.topics := by
  unfold publish find
  cases b.topics.get? s <;> rfl

theorem publish_next (s : SessionId) (r : CeremonyResult) (b : Bus) :
    (b.publish s r).2.next = b.next := by
  unfold publish find
  cases b.topics.get? s <;> rfl

def fill (s : SessionId) (r : CeremonyResult) (b : Bus) (c : ChannelId) (ch : Channel) : Channel :=
  if b.topics.get? s = some c ∧ ch.buffer = none then { ch with buffer := some r } else ch

theorem publish_channels (s : SessionId) (r : CeremonyResult) (b : Bus) (c : ChannelId) :
    (b.publish s r).2.channels.get? c = (b.channels.get? c).map (fill s r b c) := by
  unfold publish find fill
  cases ht : b.topics.get? s with
  | none => simp
  | some t =>
      simp only [send, Keyed.get?_modify]
      by_cases hc : c = t
      · subst hc
        cases b.channels.get? c with
        | none => simp
        | some ch =>
            cases hb : ch.buffer with
            | none => simp [hb]
            | some taken =>
                obtain ⟨session, buffer, senders⟩ := ch
                obtain rfl : buffer = some taken := hb
                simp
      · have : ¬ t = c := fun h => hc h.symm
        simp [hc, this]

theorem publish_accepted {s : SessionId} {r : CeremonyResult} {b : Bus} :
    (b.publish s r).1 = true ↔
      ∃ c ch, b.topics.get? s = some c ∧ b.channels.get? c = some ch ∧ ch.buffer = none := by
  unfold publish find
  cases ht : b.topics.get? s with
  | none => simp
  | some t =>
      simp only [send, Keyed.get?_modify, if_true]
      cases hch : b.channels.get? t with
      | none => simp [hch]
      | some ch => simp [hch]

theorem receive_topics (c : ChannelId) (b : Bus) : (b.receive c).2.topics = b.topics := by
  unfold receive
  split
  · rfl
  · split <;> rfl

theorem receive_next (c : ChannelId) (b : Bus) : (b.receive c).2.next = b.next := by
  unfold receive
  split
  · rfl
  · split <;> rfl

theorem receive_channels (c k : ChannelId) (b : Bus) :
    (b.receive c).2.channels.get? k =
      if k = c then (b.channels.get? k).map fun ch => { ch with buffer := none }
      else b.channels.get? k := by
  unfold receive
  by_cases hk : k = c
  · subst hk
    split
    · rename_i hc
      simp [hc]
    · rename_i ch hc
      split
      · rename_i r hr
        simp
      · rename_i hr
        rw [if_pos rfl, hc]
        simp only [Option.map_some, Option.some.injEq]
        cases ch
        simp_all
  · split
    · simp [hk]
    · split
      · simp [hk]
      · simp [hk]

theorem drop_topics (c : ChannelId) (s : SessionId) (b : Bus) :
    (b.drop c).topics.get? s =
      if (b.channels.get? c).map Channel.session = some s then none else b.topics.get? s := by
  unfold drop
  cases hc : b.channels.get? c with
  | none => simp
  | some ch =>
      simp only [Keyed.get?_erase, Option.map_some, Option.some.injEq]
      by_cases hs : s = ch.session
      · simp [hs]
      · have : ¬ ch.session = s := fun h => hs h.symm
        simp [hs, this]

theorem drop_next (c : ChannelId) (b : Bus) : (b.drop c).next = b.next := by
  unfold drop
  split <;> rfl

theorem drop_channels (c k : ChannelId) (b : Bus) :
    (b.drop c).channels.get? k = if k = c then none else b.channels.get? k := by
  unfold drop
  split
  · rename_i hc
    by_cases hk : k = c
    · rw [hk, hc, if_pos rfl]
    · rw [if_neg hk]
  · exact Keyed.get?_erase _ _ _

theorem drop_receive (c : ChannelId) (b : Bus) : (b.receive c).2.drop c = b.drop c := by
  unfold receive
  split
  · rfl
  · rename_i ch hc
    split
    · simp only [drop, Keyed.get?_modify, hc, if_true, Option.map_some, Keyed.erase_modify]
    · rfl

def Owned (b : Bus) (s : SessionId) (c : ChannelId) : Prop :=
  c.number < b.next ∧ ∀ ch, b.channels.get? c = some ch → ch.session = s

structure Sound (b : Bus) : Prop where
  topics : ∀ s c, b.topics.get? s = some c → b.Owned s c
  channels : ∀ c ch, b.channels.get? c = some ch → c.number < b.next

theorem owned_subscribe {b b' : Bus} {s t : SessionId} {c d : ChannelId}
    (h : b.subscribe t = .ok (d, b')) (ho : b.Owned s c) : b'.Owned s c := by
  obtain ⟨-, rfl, rfl⟩ := subscribe_eq_ok h
  refine ⟨Nat.lt_succ_of_lt ho.1, fun ch hch => ?_⟩
  have hne : c ≠ ⟨b.next⟩ := by
    rintro rfl
    exact Nat.lt_irrefl _ ho.1
  simp only [Keyed.get?_insert, hne, if_false] at hch
  exact ho.2 ch hch

theorem owned_drop {b : Bus} {s : SessionId} {c d : ChannelId} (ho : b.Owned s c) :
    (b.drop d).Owned s c := by
  refine ⟨(drop_next d b).symm ▸ ho.1, fun ch hch => ?_⟩
  rw [drop_channels] at hch
  split at hch
  · cases hch
  · exact ho.2 ch hch

theorem owned_apply {b : Bus} {s : SessionId} {c : ChannelId} (op : Operation) (ho : b.Owned s c) :
    (b.apply op).2.Owned s c := by
  cases op with
  | subscribe t =>
      simp only [apply]
      split
      · rename_i h
        exact owned_subscribe h ho
      · exact ho
  | publish t r =>
      refine ⟨(publish_next t r b).symm ▸ ho.1, fun ch hch => ?_⟩
      obtain ⟨old, hold, rfl⟩ := Option.map_eq_some_iff.1 ((publish_channels t r b c).symm.trans hch)
      unfold fill
      split <;> exact ho.2 old hold
  | receive d =>
      refine ⟨(receive_next d b).symm ▸ ho.1, fun ch hch => ?_⟩
      have hold := (receive_channels d c b).symm.trans hch
      split at hold
      · obtain ⟨old, hc, rfl⟩ := Option.map_eq_some_iff.1 hold
        exact ho.2 old hc
      · exact ho.2 ch hold
  | drop d => exact owned_drop ho
  | closeAll => exact ho

theorem owned_new {b b' : Bus} {s : SessionId} {c : ChannelId} (h : b.subscribe s = .ok (c, b')) :
    b'.Owned s c := by
  obtain ⟨-, rfl, rfl⟩ := subscribe_eq_ok h
  refine ⟨Nat.lt_succ_self _, fun ch hch => ?_⟩
  simp only [Keyed.get?_insert, if_true, Option.some.injEq] at hch
  exact hch ▸ rfl

theorem sound_empty : empty.Sound := by
  constructor
  · intro s c h
    cases h
  · intro c ch h
    cases h

theorem sound_subscribe {b b' : Bus} {s : SessionId} {c : ChannelId}
    (h : b.subscribe s = .ok (c, b')) (hb : b.Sound) : b'.Sound := by
  have hnew := owned_new h
  have hold := fun t d => owned_subscribe (s := t) (c := d) h
  obtain ⟨-, rfl, rfl⟩ := subscribe_eq_ok h
  constructor
  · intro t d ht
    simp only [Keyed.get?_insert] at ht
    split at ht
    · rename_i hts
      subst hts
      cases ht
      exact hnew
    · exact hold t d (hb.topics t d ht)
  · intro d ch hd
    simp only [Keyed.get?_insert] at hd
    split at hd
    · rename_i hc
      rw [hc]
      exact Nat.lt_succ_self _
    · exact Nat.lt_succ_of_lt (hb.channels d ch hd)

theorem sound_drop {b : Bus} (c : ChannelId) (hb : b.Sound) : (b.drop c).Sound := by
  constructor
  · intro s d hs
    rw [drop_topics] at hs
    split at hs
    · cases hs
    · exact owned_drop (hb.topics s d hs)
  · intro d ch hd
    rw [drop_next]
    rw [drop_channels] at hd
    split at hd
    · cases hd
    · exact hb.channels d ch hd

theorem sound_apply {b : Bus} (op : Operation) (hb : b.Sound) : (b.apply op).2.Sound := by
  cases op with
  | subscribe s =>
      simp only [apply]
      split
      · rename_i h
        exact sound_subscribe h hb
      · exact hb
  | publish s r =>
      constructor
      · intro t d ht
        have ht' : b.topics.get? t = some d := by
          rw [← publish_topics s r b]
          exact ht
        exact owned_apply (.publish s r) (hb.topics t d ht')
      · intro d ch hd
        obtain ⟨old, hold, -⟩ := Option.map_eq_some_iff.1 ((publish_channels s r b d).symm.trans hd)
        exact (publish_next s r b).symm ▸ hb.channels d old hold
  | receive c =>
      constructor
      · intro t d ht
        have ht' : b.topics.get? t = some d := by
          rw [← receive_topics c b]
          exact ht
        exact owned_apply (.receive c) (hb.topics t d ht')
      · intro d ch hd
        have hold := (receive_channels c d b).symm.trans hd
        refine (receive_next c b).symm ▸ ?_
        split at hold
        · obtain ⟨old, hc, -⟩ := Option.map_eq_some_iff.1 hold
          exact hb.channels d old hc
        · exact hb.channels d ch hold
  | drop c => exact sound_drop c hb
  | closeAll =>
      refine ⟨fun t d ht => ?_, hb.channels⟩
      cases ht

theorem receive_result {b : Bus} {c : ChannelId} {r : CeremonyResult} :
    (b.receive c).1 = .result r ↔ ∃ ch, b.channels.get? c = some ch ∧ ch.buffer = some r := by
  unfold receive
  cases hc : b.channels.get? c with
  | none => simp
  | some ch =>
      cases hb : ch.buffer with
      | none =>
          cases ho : b.isOpen c ch <;> simp [hb, ho]
      | some result => simp [hb]

theorem buffer_apply {b : Bus} (hb : b.Sound) {op : Operation} {c : ChannelId} {ch : Channel}
    {r : CeremonyResult} (h : (b.apply op).2.channels.get? c = some ch)
    (hr : ch.buffer = some r) :
    (∃ old, b.channels.get? c = some old ∧ old.session = ch.session ∧ old.buffer = some r) ∨
      (op = .publish ch.session r ∧ (b.apply op).1 = .accepted true) := by
  cases op with
  | subscribe s =>
      simp only [apply] at h
      split at h
      · rename_i hs
        obtain ⟨-, rfl, rfl⟩ := subscribe_eq_ok hs
        simp only [Keyed.get?_insert] at h
        split at h
        · cases h
          cases hr
        · exact Or.inl ⟨ch, h, rfl, hr⟩
      · exact Or.inl ⟨ch, h, rfl, hr⟩
  | publish s result =>
      obtain ⟨old, hold, rfl⟩ := Option.map_eq_some_iff.1 ((publish_channels s result b c).symm.trans h)
      unfold fill at hr ⊢
      split at hr
      · rename_i hfill
        cases hr
        have hs : old.session = s := (hb.topics s c hfill.1).2 old hold
        have haccepted : (b.publish s r).1 = true :=
          publish_accepted.2 ⟨c, old, hfill.1, hold, hfill.2⟩
        refine Or.inr ⟨?_, ?_⟩
        · rw [if_pos hfill, ← hs]
        · exact congrArg Answer.accepted haccepted
      · rename_i hfill
        exact Or.inl ⟨old, hold, by rw [if_neg hfill], hr⟩
  | receive d =>
      have hold := (receive_channels d c b).symm.trans h
      split at hold
      · obtain ⟨old, -, rfl⟩ := Option.map_eq_some_iff.1 hold
        cases hr
      · exact Or.inl ⟨ch, hold, rfl, hr⟩
  | drop d =>
      have hold := (drop_channels d c b).symm.trans h
      split at hold
      · cases hold
      · exact Or.inl ⟨ch, hold, rfl, hr⟩
  | closeAll => exact Or.inl ⟨ch, h, rfl, hr⟩

end Conclave.Bus

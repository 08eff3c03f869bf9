import Conclave.Proofs.Topics

namespace Conclave.Bus

def buffered (b : Bus) (c : ChannelId) : Option CeremonyResult :=
  (b.channels.get? c).bind Channel.buffer

def takes (b : Bus) (c : ChannelId) : Step → Option CeremonyResult
  | .send d r => if d = c ∧ (b.send d r).1 = true then some r else none
  | _ => none

def gives (b : Bus) (c : ChannelId) : Step → Option CeremonyResult
  | .receive d =>
      match (b.receive d).1 with
      | .result r => if d = c then some r else none
      | _ => none
  | _ => none

def taken (c : ChannelId) : List Step → List CeremonyResult
  | [] => []
  | e :: past => taken c past ++ ((reached past).takes c e).toList

def received (c : ChannelId) : List Step → List CeremonyResult
  | [] => []
  | e :: past => received c past ++ ((reached past).gives c e).toList

def maker? (c : ChannelId) : List Step → Option SessionId
  | [] => none
  | .subscribe s :: past =>
      if topic? s past = none ∧ c = ⟨(reached past).next⟩ then some s else maker? c past
  | _ :: past => maker? c past

section Bus

variable {b : Bus} {c d : ChannelId} {r : CeremonyResult}

theorem send_accepted :
    (b.send c r).1 = true ↔ ∃ ch, b.channels.get? c = some ch ∧ ch.buffer = none := by
  unfold send
  cases b.channels.get? c with
  | none => simp
  | some ch => simp

theorem subscribe_refused_iff {s : SessionId} :
    (∃ f, b.subscribe s = .error f) ↔ ∃ c, b.topics.get? s = some c := by
  cases h : b.topics.get? s with
  | none => simp [subscribe_of_absent h]
  | some c => simp [subscribe_of_present h]

theorem buffered_eq_some : b.buffered c = some r ↔ (b.receive c).1 = .result r := by
  rw [receive_result, buffered, Option.bind_eq_some_iff]

theorem gives_receive (b : Bus) (c : ChannelId) : b.gives c (.receive c) = b.buffered c := by
  simp only [gives, if_true]
  cases h : b.buffered c with
  | some r => rw [buffered_eq_some.1 h]
  | none =>
      split
      · rename_i r hr
        rw [← buffered_eq_some, h] at hr
        exact hr.symm
      · rfl

theorem gives_receive_ne (h : d ≠ c) : b.gives c (.receive d) = none := by
  simp only [gives, if_neg h]
  split <;> rfl

theorem buffered_of_absent (h : b.session? c = none) : b.buffered c = none := by
  rw [buffered, Option.map_eq_none_iff.1 h, Option.bind_none]

theorem buffered_step (b : Bus) (e : Step) (c : ChannelId) :
    (b.step e).buffered c =
      match e with
      | .subscribe k => if b.topics.get? k = none ∧ c = ⟨b.next⟩ then none else b.buffered c
      | .send d r => if d = c ∧ (b.send d r).1 = true then some r else b.buffered c
      | .receive d => if d = c then none else b.buffered c
      | .drop d => if d = c then none else b.buffered c
      | _ => b.buffered c := by
  cases e with
  | subscribe k =>
      cases h : b.topics.get? k with
      | none =>
          by_cases hc : c = ⟨b.next⟩
          · simp [step, buffered, subscribe_of_absent h, h, hc]
          · simp [step, buffered, subscribe_of_absent h, h, hc]
      | some t => simp [step, subscribe_of_present h, h]
  | look k =>
      simp only [step, find, buffered]
      cases b.topics.get? k with
      | none => rfl
      | some t =>
          rw [Keyed.get?_modify]
          split
          · rename_i hc
            rw [hc, Option.bind_map]
            rfl
          · rfl
  | send d r =>
      by_cases hd : d = c
      · subst hd
        simp only [step, send, buffered, Keyed.get?_modify, if_true, true_and]
        cases b.channels.get? d with
        | none => simp
        | some ch => cases hb : ch.buffer <;> simp [hb]
      · have hc : c ≠ d := Ne.symm hd
        simp [step, send, buffered, hd, hc]
  | receive d =>
      simp only [step, buffered, receive_channels]
      by_cases hd : d = c
      · subst hd
        cases b.channels.get? d <;> simp
      · have hc : c ≠ d := Ne.symm hd
        simp [hd, hc]
  | drop d =>
      simp only [step, buffered, drop_channels]
      by_cases hd : d = c
      · simp [hd]
      · have hc : c ≠ d := Ne.symm hd
        simp [hd, hc]
  | closeAll => rfl

theorem balance_step {e : Step} (made : c.number < b.next) (kept : e ≠ .drop c) :
    (b.buffered c).toList ++ (b.takes c e).toList =
      (b.gives c e).toList ++ ((b.step e).buffered c).toList := by
  rw [buffered_step]
  cases e with
  | subscribe k =>
      have hold : ¬ (b.topics.get? k = none ∧ c = ⟨b.next⟩) := by
        rintro ⟨-, rfl⟩
        exact Nat.lt_irrefl _ made
      simp [takes, gives, hold]
  | send d r =>
      by_cases htakes : d = c ∧ (b.send d r).1 = true
      · obtain ⟨rfl, haccepted⟩ := htakes
        obtain ⟨ch, hch, hempty⟩ := send_accepted.1 haccepted
        have hbuffered : b.buffered d = none := by rw [buffered, hch, Option.bind_some, hempty]
        simp [takes, gives, haccepted, hbuffered]
      · simp [takes, gives, htakes]
  | receive d =>
      by_cases hd : d = c
      · subst hd
        simp [takes, gives_receive]
      · simp [takes, gives_receive_ne hd, hd]
  | drop d =>
      have hd : d ≠ c := fun h => kept (h ▸ rfl)
      simp [takes, gives, hd]
  | look k => simp [takes, gives]
  | closeAll => simp [takes, gives]

theorem idle_of_absent (h : b.session? c = none) (e : Step) :
    b.takes c e = none ∧ b.gives c e = none := by
  have hbuffered := buffered_of_absent h
  cases e with
  | send d r =>
      refine ⟨if_neg ?_, rfl⟩
      rintro ⟨rfl, haccepted⟩
      obtain ⟨ch, hch, -⟩ := send_accepted.1 haccepted
      rw [session?, hch] at h
      cases h
  | receive d =>
      refine ⟨rfl, ?_⟩
      by_cases hd : d = c
      · rw [hd, gives_receive, hbuffered]
      · exact gives_receive_ne hd
  | _ => exact ⟨rfl, rfl⟩

end Bus

section History

variable {s : SessionId} {c : ChannelId} {past : List Step}

theorem idle_of_unmade (h : (reached past).next ≤ c.number) :
    taken c past = [] ∧ received c past = [] := by
  induction past with
  | nil => exact ⟨rfl, rfl⟩
  | cons e past ih =>
      have hnext : (reached past).next ≤ c.number := Nat.le_trans (next_le_next e past) h
      have habsent : (reached past).session? c = none := by
        cases hs : (reached past).session? c with
        | none => rfl
        | some k => exact absurd (number_lt_of_session? hs) (Nat.not_lt.2 hnext)
      obtain ⟨htaken, hreceived⟩ := ih hnext
      obtain ⟨htakes, hgives⟩ := idle_of_absent habsent e
      rw [taken, received, htaken, hreceived, htakes, hgives]
      exact ⟨rfl, rfl⟩

theorem taken_of_alive (alive : Alive s c past) :
    taken c past = received c past ++ ((reached past).buffered c).toList := by
  induction past with
  | nil => cases alive
  | cons e past ih =>
      rcases alive with ⟨rfl, opens⟩ | ⟨alive, kept⟩
      · obtain ⟨habsent, rfl⟩ := opens_iff.1 opens
        have hidle := @idle_of_unmade ⟨(reached past).next⟩ past (Nat.le_refl _)
        obtain ⟨htaken, hreceived⟩ := hidle
        have hbuffered : (reached (.subscribe s :: past)).buffered ⟨(reached past).next⟩ = none := by
          rw [reached, buffered_step]
          exact if_pos ⟨habsent, rfl⟩
        rw [taken, received, htaken, hreceived, hbuffered]
        rfl
      · have hstep := balance_step (number_lt_of_session? (alive_iff.1 alive)) kept
        rw [taken, received, reached, ih alive, List.append_assoc, hstep, List.append_assoc]

theorem taken_eq (c : ChannelId) (past : List Step) :
    ∃ left : Option CeremonyResult, taken c past = received c past ++ left.toList ∧
      ∀ s, Alive s c past → (reached past).buffered c = left := by
  induction past with
  | nil => exact ⟨none, rfl, nofun⟩
  | cons e past ih =>
      -- `left` is what the subscription left behind, and stays so: a channel without a living
      -- subscription neither takes nor gives, and a drop does neither.
      by_cases hlives : ∃ s, Alive s c (e :: past)
      · obtain ⟨s, alive⟩ := hlives
        exact ⟨_, taken_of_alive alive, fun _ _ => rfl⟩
      · obtain ⟨left, hleft, -⟩ := ih
        have hidle : (reached past).takes c e = none ∧ (reached past).gives c e = none := by
          cases hs : (reached past).session? c with
          | none => exact idle_of_absent hs e
          | some s =>
              have hdrop : e = .drop c := by
                by_contra hkept
                exact hlives ⟨s, Or.inr ⟨alive_iff.2 hs, hkept⟩⟩
              rw [hdrop]
              exact ⟨rfl, rfl⟩
        refine ⟨left, ?_, fun s alive => absurd ⟨s, alive⟩ hlives⟩
        rw [taken, received, hidle.1, hidle.2, hleft]
        simp

theorem number_lt_of_maker? (h : maker? c past = some s) : c.number < (reached past).next := by
  induction past with
  | nil => cases h
  | cons e past ih =>
      cases e with
      | subscribe k =>
          rw [maker?] at h
          split at h
          · rename_i hnew
            rw [reached, next_step, hnew.2]
            simp only [topic?] at hnew
            simp [hnew.1]
          · exact Nat.lt_of_lt_of_le (ih h) (next_le_next _ past)
      | _ => exact Nat.lt_of_lt_of_le (ih h) (next_le_next _ past)

theorem maker?_cons (e : Step) (h : maker? c past = some s) : maker? c (e :: past) = some s := by
  cases e with
  | subscribe k =>
      rw [maker?, if_neg, h]
      rintro ⟨-, rfl⟩
      exact Nat.lt_irrefl _ (number_lt_of_maker? h)
  | _ => exact h

theorem maker?_append (later : List Step) (h : maker? c past = some s) :
    maker? c (later ++ past) = some s := by
  induction later with
  | nil => exact h
  | cons e later ih => exact maker?_cons e ih

theorem maker?_of_alive (alive : Alive s c past) : maker? c past = some s := by
  induction past with
  | nil => cases alive
  | cons e past ih =>
      rcases alive with ⟨rfl, opens⟩ | ⟨alive, -⟩
      · exact if_pos (opens_iff.1 opens)
      · exact maker?_cons e (ih alive)

theorem closed_only_vacated (h : ((reached past).receive c).1 = .closed) :
    (reached past).buffered c = none ∧ ∀ s, topic? s past ≠ some c := by
  constructor
  · cases hr : (reached past).buffered c with
    | none => rfl
    | some r => cases (buffered_eq_some.1 hr).symm.trans h
  · intro s topic
    have hsession := alive_iff.1 (alive_of_topic topic)
    obtain ⟨ch, hch, rfl⟩ := Option.map_eq_some_iff.1 hsession
    have hopen : (reached past).isOpen c ch = true := by
      have htopic : (reached past).topics.get? ch.session = some c := topic
      simp [isOpen, htopic]
    unfold receive at h
    rw [hch] at h
    cases hb : ch.buffer with
    | none => simp [hb, hopen] at h
    | some r => simp [hb] at h

end History

end Conclave.Bus

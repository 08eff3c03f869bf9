import Conclave.Proofs.Bus

namespace Conclave.Bus

inductive Step where
  | subscribe (s : SessionId)
  | look (s : SessionId)
  | send (c : ChannelId) (result : CeremonyResult)
  | receive (c : ChannelId)
  | drop (c : ChannelId)
  | closeAll
  deriving DecidableEq, Repr

def step (b : Bus) : Step → Bus
  | .subscribe s =>
      match b.subscribe s with
      | .ok (_, b') => b'
      | .error _ => b
  | .look s => (b.find s).2
  | .send c result => (b.send c result).2
  | .receive c => (b.receive c).2
  | .drop c => b.drop c
  | .closeAll => b.closeAll

def reached : List Step → Bus
  | [] => empty
  | e :: past => (reached past).step e

def topic? (s : SessionId) (past : List Step) : Option ChannelId := (reached past).topics.get? s

def Opens (s : SessionId) (c : ChannelId) (past : List Step) : Prop :=
  ∃ b, (reached past).subscribe s = .ok (c, b)

def Alive (s : SessionId) (c : ChannelId) : List Step → Prop
  | [] => False
  | e :: past => e = .subscribe s ∧ Opens s c past ∨ Alive s c past ∧ e ≠ .drop c

def session? (b : Bus) (c : ChannelId) : Option SessionId := (b.channels.get? c).map Channel.session

theorem publish_eq_steps (s : SessionId) (r : CeremonyResult) (b : Bus) :
    (b.publish s r).2 =
      match b.topics.get? s with
      | none => b.step (.look s)
      | some c => (b.step (.look s)).step (.send c r) := by
  unfold publish
  simp only [step]
  unfold find
  cases b.topics.get? s <;> rfl

theorem subscribe_of_absent {b : Bus} {s : SessionId} (h : b.topics.get? s = none) :
    b.subscribe s =
      .ok (⟨b.next⟩, ⟨b.topics.insert s ⟨b.next⟩, b.channels.insert ⟨b.next⟩ ⟨s, none, 0⟩,
        b.next + 1⟩) := by
  have habsent : b.isSubscribed s = false := Keyed.contains_eq_false.2 h
  simp [subscribe, habsent]

theorem subscribe_of_present {b : Bus} {s : SessionId} {c : ChannelId}
    (h : b.topics.get? s = some c) : b.subscribe s = .error (alreadySubscribed s) := by
  have hpresent : b.isSubscribed s = true := Keyed.contains_iff.2 ⟨c, h⟩
  simp [subscribe, hpresent]

theorem opens_iff {s : SessionId} {c : ChannelId} {past : List Step} :
    Opens s c past ↔ topic? s past = none ∧ c = ⟨(reached past).next⟩ := by
  constructor
  · rintro ⟨b, h⟩
    obtain ⟨habsent, hc, -⟩ := subscribe_eq_ok h
    exact ⟨habsent, hc⟩
  · rintro ⟨habsent, rfl⟩
    exact ⟨_, subscribe_of_absent habsent⟩

theorem next_step (b : Bus) (e : Step) :
    (b.step e).next =
      match e with
      | .subscribe s => if b.topics.get? s = none then b.next + 1 else b.next
      | _ => b.next := by
  cases e with
  | subscribe s =>
      cases h : b.topics.get? s with
      | none => simp [step, subscribe_of_absent h, h]
      | some c => simp [step, subscribe_of_present h, h]
  | look s =>
      simp only [step, find]
      cases b.topics.get? s <;> rfl
  | send c r => rfl
  | receive c => exact receive_next c b
  | drop c => exact drop_next c b
  | closeAll => rfl

theorem topics_step (b : Bus) (e : Step) (s : SessionId) :
    (b.step e).topics.get? s =
      match e with
      | .subscribe k =>
          if b.topics.get? k = none ∧ s = k then some ⟨b.next⟩ else b.topics.get? s
      | .drop c => if b.session? c = some s then none else b.topics.get? s
      | .closeAll => none
      | _ => b.topics.get? s := by
  cases e with
  | subscribe k =>
      cases h : b.topics.get? k with
      | none => simp [step, subscribe_of_absent h, h]
      | some c => simp [step, subscribe_of_present h, h]
  | look k =>
      simp only [step, find]
      cases b.topics.get? k <;> rfl
  | send c r => rfl
  | receive c => rw [step, receive_topics]
  | drop c => exact drop_topics c s b
  | closeAll => rfl

theorem session?_step (b : Bus) (e : Step) (c : ChannelId) :
    (b.step e).session? c =
      match e with
      | .subscribe k =>
          if b.topics.get? k = none ∧ c = ⟨b.next⟩ then some k else b.session? c
      | .drop d => if c = d then none else b.session? c
      | _ => b.session? c := by
  cases e with
  | subscribe k =>
      cases h : b.topics.get? k with
      | none =>
          by_cases hc : c = ⟨b.next⟩
          · simp [step, session?, subscribe_of_absent h, h, hc]
          · simp [step, session?, subscribe_of_absent h, h, hc]
      | some t => simp [step, subscribe_of_present h, h]
  | look k =>
      simp only [step, find, session?]
      cases b.topics.get? k with
      | none => rfl
      | some t =>
          rw [Keyed.get?_modify]
          split
          · rename_i hc
            rw [hc, Option.map_map]
            rfl
          · rfl
  | send d r =>
      simp only [step, send, session?, Keyed.get?_modify]
      split
      · rename_i hc
        rw [hc, Option.map_map]
        rfl
      · rfl
  | receive d =>
      simp only [step, session?, receive_channels]
      split
      · rw [Option.map_map]
        rfl
      · rfl
  | drop d =>
      simp only [step, session?, drop_channels]
      split <;> rfl
  | closeAll => rfl

section History

variable {s : SessionId} {c : ChannelId} {past : List Step}

theorem number_lt_of_session? (h : (reached past).session? c = some s) :
    c.number < (reached past).next := by
  induction past with
  | nil => cases h
  | cons e past ih =>
      rw [reached, session?_step] at h
      rw [reached, next_step]
      cases e with
      | subscribe k =>
          simp only at h ⊢
          cases hk : (reached past).topics.get? k with
          | none =>
              rw [if_pos rfl]
              by_cases hc : c = ⟨(reached past).next⟩
              · rw [hc]
                exact Nat.lt_succ_self _
              · rw [if_neg fun hand => hc hand.2] at h
                exact Nat.lt_succ_of_lt (ih h)
          | some t =>
              rw [hk] at h
              simp only [reduceCtorEq, false_and, if_false] at h ⊢
              exact ih h
      | drop d =>
          simp only at h
          split at h
          · cases h
          · exact ih h
      | look k => exact ih h
      | send d r => exact ih h
      | receive d => exact ih h
      | closeAll => exact ih h

theorem alive_iff : Alive s c past ↔ (reached past).session? c = some s := by
  induction past with
  | nil => simp [Alive, reached, session?, empty]
  | cons e past ih =>
      rw [Alive, ih, reached, session?_step]
      cases e with
      | subscribe k =>
          have hold := @number_lt_of_session? s c past
          simp only [opens_iff, topic?, Step.subscribe.injEq]
          by_cases hnew : (reached past).topics.get? k = none ∧ c = ⟨(reached past).next⟩
          · obtain ⟨habsent, rfl⟩ := hnew
            rw [if_pos ⟨habsent, rfl⟩]
            constructor
            · rintro (⟨rfl, -⟩ | ⟨hs, -⟩)
              · rfl
              · exact absurd (hold hs) (Nat.lt_irrefl _)
            · intro hk
              cases hk
              exact Or.inl ⟨rfl, habsent, rfl⟩
          · rw [if_neg hnew]
            constructor
            · rintro (⟨rfl, hopens⟩ | ⟨hs, -⟩)
              · exact absurd hopens hnew
              · exact hs
            · intro hs
              exact Or.inr ⟨hs, by simp⟩
      | drop d =>
          by_cases hd : c = d
          · simp [hd]
          · have hdc : d ≠ c := fun h => hd h.symm
            simp [hd, hdc]
      | look k => simp
      | send d r => simp
      | receive d => simp
      | closeAll => simp

theorem alive_of_topic (h : topic? s past = some c) : Alive s c past := by
  rw [alive_iff]
  induction past with
  | nil => cases h
  | cons e past ih =>
      rw [topic?, reached, topics_step] at h
      rw [reached, session?_step]
      cases e with
      | subscribe k =>
          simp only at h ⊢
          split at h
          · rename_i hnew
            obtain ⟨habsent, rfl⟩ := hnew
            obtain rfl := Option.some.inj h
            rw [if_pos ⟨habsent, rfl⟩]
          · have hs := ih h
            have hlt := number_lt_of_session? hs
            have hold : c ≠ ⟨(reached past).next⟩ := by
              rintro rfl
              exact Nat.lt_irrefl _ hlt
            rw [if_neg fun hand => hold hand.2, hs]
      | drop d =>
          simp only at h ⊢
          split at h
          · cases h
          · rename_i hother
            have hs := ih h
            have hne : c ≠ d := by
              rintro rfl
              exact hother hs
            rw [if_neg hne, hs]
      | look k => exact ih h
      | send d r => exact ih h
      | receive d => exact ih h
      | closeAll => cases h

theorem Opens.topic (opens : Opens s c past) : topic? s (.subscribe s :: past) = some c := by
  obtain ⟨habsent, rfl⟩ := opens_iff.1 opens
  rw [topic?, reached, topics_step]
  exact if_pos ⟨habsent, rfl⟩

theorem Opens.not_alive (opens : Opens s c past) : ¬ Alive s c past := by
  intro alive
  obtain ⟨-, rfl⟩ := opens_iff.1 opens
  exact Nat.lt_irrefl _ (number_lt_of_session? (alive_iff.1 alive))

theorem topic_kept_iff (h : topic? s past = some c) (e : Step) :
    topic? s (e :: past) = some c ↔ e ≠ .closeAll ∧ ∀ d, e = .drop d → ¬ Alive s d past := by
  have h' : (reached past).topics.get? s = some c := h
  rw [topic?, reached, topics_step]
  cases e with
  | subscribe k =>
      have hstays : ¬ ((reached past).topics.get? k = none ∧ s = k) := by
        rintro ⟨habsent, rfl⟩
        rw [h'] at habsent
        cases habsent
      simp [hstays, h']
  | drop d =>
      by_cases hd : (reached past).session? d = some s
      · simp [hd, alive_iff]
      · simp [hd, alive_iff, h']
  | look k => simp [h']
  | send d r => simp [h']
  | receive d => simp [h']
  | closeAll => simp

theorem next_le_next (e : Step) (past : List Step) :
    (reached past).next ≤ (reached (e :: past)).next := by
  rw [reached, next_step]
  cases e with
  | subscribe k =>
      simp only
      split
      · exact Nat.le_succ _
      · exact Nat.le_refl _
  | _ => exact Nat.le_refl _

theorem topic_ne (made : c.number < (reached past).next) (h : topic? s past ≠ some c) (e : Step) :
    topic? s (e :: past) ≠ some c := by
  rw [topic?, reached, topics_step]
  cases e with
  | subscribe k =>
      simp only
      split
      · intro hc
        obtain rfl := Option.some.inj hc
        exact Nat.lt_irrefl _ made
      · exact h
  | drop d =>
      simp only
      split
      · intro hc
        cases hc
      · exact h
  | look k => exact h
  | send d r => exact h
  | receive d => exact h
  | closeAll =>
      intro hc
      cases hc

theorem closed_of_stale {d : ChannelId} (alive : Alive s d past) (lost : topic? s past ≠ some d) :
    ∃ newer older k, past = newer ++ .closeAll :: older ∧ Alive s k older := by
  induction past generalizing d with
  | nil => cases alive
  | cons e past ih =>
      rcases alive with ⟨rfl, opens⟩ | ⟨alive, kept⟩
      · exact absurd opens.topic lost
      · by_cases htopic : topic? s past = some d
        · have hlost := mt (topic_kept_iff htopic e).2 lost
          cases e with
          | closeAll => exact ⟨[], past, d, rfl, alive⟩
          | drop k =>
              by_cases halive : Alive s k past
              · have hother : topic? s past ≠ some k := by
                  intro hk
                  obtain rfl := Option.some.inj (htopic.symm.trans hk)
                  exact kept rfl
                obtain ⟨newer, older, j, rfl, hj⟩ := ih halive hother
                exact ⟨_ :: newer, older, j, rfl, hj⟩
              · refine absurd ⟨nofun, fun j hj => ?_⟩ hlost
                cases hj
                exact halive
          | _ => exact absurd ⟨nofun, fun j hj => nomatch hj⟩ hlost
        · obtain ⟨newer, older, k, rfl, hk⟩ := ih alive htopic
          exact ⟨e :: newer, older, k, rfl, hk⟩

end History

section Lifetime

variable {s : SessionId} {c : ChannelId} {earlier : List Step}

theorem Opens.made (opens : Opens s c earlier) (later : List Step) :
    c.number < (reached (later ++ .subscribe s :: earlier)).next := by
  induction later with
  | nil => exact number_lt_of_session? (alive_iff.1 (alive_of_topic opens.topic))
  | cons e later ih => exact Nat.lt_of_lt_of_le ih (next_le_next e _)

theorem Opens.topic_iff (opens : Opens s c earlier) (later : List Step) :
    topic? s (later ++ .subscribe s :: earlier) = some c ↔
      .closeAll ∉ later ∧ ∀ newer d older, later = newer ++ .drop d :: older →
        ¬ Alive s d (older ++ .subscribe s :: earlier) := by
  induction later with
  | nil => simpa using opens.topic
  | cons e later ih =>
      have hsplit : (∀ newer d older, e :: later = newer ++ .drop d :: older →
            ¬ Alive s d (older ++ .subscribe s :: earlier)) ↔
          (∀ d, e = .drop d → ¬ Alive s d (later ++ .subscribe s :: earlier)) ∧
            ∀ newer d older, later = newer ++ .drop d :: older →
              ¬ Alive s d (older ++ .subscribe s :: earlier) := by
        constructor
        · intro h
          refine ⟨fun d hd => h [] d later (by rw [hd]; rfl), fun newer d older hl => ?_⟩
          exact h (e :: newer) d older (by rw [hl]; rfl)
        · rintro ⟨hhead, htail⟩ newer d older hl
          cases newer with
          | nil =>
              obtain ⟨rfl, rfl⟩ := List.cons.inj hl
              exact hhead d rfl
          | cons f newer => exact htail newer d older (List.cons.inj hl).2
      rw [hsplit, List.mem_cons, not_or]
      by_cases htopic : topic? s (later ++ .subscribe s :: earlier) = some c
      · obtain ⟨hopen, hkept⟩ := ih.1 htopic
        rw [List.cons_append, topic_kept_iff htopic e]
        constructor
        · rintro ⟨hclose, hdrop⟩
          exact ⟨⟨Ne.symm hclose, hopen⟩, hdrop, hkept⟩
        · rintro ⟨⟨hclose, -⟩, hdrop, -⟩
          exact ⟨Ne.symm hclose, hdrop⟩
      · constructor
        · intro h
          exact absurd h (topic_ne (opens.made later) htopic e)
        · rintro ⟨⟨-, hopen⟩, -, hkept⟩
          exact absurd (ih.2 ⟨hopen, hkept⟩) htopic

theorem Opens.alone (opens : Opens s c earlier) (alone : ∀ d, ¬ Alive s d earlier)
    {later : List Step} (unclosed : .closeAll ∉ later) (held : .drop c ∉ later) :
    topic? s (later ++ .subscribe s :: earlier) = some c ∧
      ∀ d, Alive s d (later ++ .subscribe s :: earlier) → d = c := by
  induction later with
  | nil =>
      refine ⟨opens.topic, fun d alive => ?_⟩
      rcases alive with ⟨-, opens'⟩ | ⟨alive, -⟩
      · exact (opens_iff.1 opens').2.trans (opens_iff.1 opens).2.symm
      · exact absurd alive (alone d)
  | cons e later ih =>
      rw [List.mem_cons, not_or] at unclosed held
      obtain ⟨topic, only⟩ := ih unclosed.2 held.2
      constructor
      · refine (topic_kept_iff topic e).2 ⟨Ne.symm unclosed.1, fun d hd alive => ?_⟩
        obtain rfl := only d alive
        exact held.1 hd.symm
      · intro d alive
        rcases alive with ⟨-, opens'⟩ | ⟨alive, -⟩
        · cases topic.symm.trans (opens_iff.1 opens').1
        · exact only d alive

end Lifetime

theorem topic_lasts_iff_alone {s : SessionId} {c : ChannelId} {earlier : List Step}
    (opens : Opens s c earlier) :
    ((∀ later, .closeAll ∉ later → .drop c ∉ later →
        topic? s (later ++ .subscribe s :: earlier) = some c) ↔ ∀ d, ¬ Alive s d earlier) ∧
    (∀ later, topic? s (later ++ .subscribe s :: earlier) = some c ↔
      .closeAll ∉ later ∧ ∀ newer d older, later = newer ++ .drop d :: older →
        ¬ Alive s d (older ++ .subscribe s :: earlier)) ∧
    (∀ d, Alive s d earlier → ∃ newer older k, earlier = newer ++ .closeAll :: older ∧
      Alive s k older) := by
  refine ⟨⟨fun lasts d alive => ?_, fun alone later unclosed held => ?_⟩, opens.topic_iff,
    fun d alive => ?_⟩
  · have hne : c ≠ d := by
      rintro rfl
      exact opens.not_alive alive
    have hlasts := lasts [.drop d] (by simp) (by simpa using hne)
    have hdropped := ((opens.topic_iff [.drop d]).1 hlasts).2 [] d [] rfl
    exact hdropped (Or.inr ⟨alive, nofun⟩)
  · exact (opens.alone alone unclosed held).1
  · refine closed_of_stale alive ?_
    rw [(opens_iff.1 opens).1]
    exact nofun

def vacated : List Step := [.drop ⟨0⟩, .closeAll, .subscribe ⟨"S1"⟩]

theorem topic_lasts_iff_alone_vacated :
    Opens ⟨"S1"⟩ ⟨1⟩ vacated ∧ ∀ later, .closeAll ∉ later → .drop ⟨1⟩ ∉ later →
      topic? ⟨"S1"⟩ (later ++ .subscribe ⟨"S1"⟩ :: vacated) = some ⟨1⟩ := by
  have opens : Opens ⟨"S1"⟩ ⟨1⟩ vacated := ⟨_, rfl⟩
  have alone : ∀ d, ¬ Alive ⟨"S1"⟩ d vacated := fun d alive => nomatch alive_iff.1 alive
  exact ⟨opens, (topic_lasts_iff_alone opens).1.2 alone⟩

theorem topic_closed_by_other :
    Opens ⟨"S1"⟩ ⟨1⟩ [.closeAll, .subscribe ⟨"S1"⟩] ∧
      topic? ⟨"S1"⟩ [.subscribe ⟨"S1"⟩, .closeAll, .subscribe ⟨"S1"⟩] = some ⟨1⟩ ∧
      Alive ⟨"S1"⟩ ⟨1⟩ [.drop ⟨0⟩, .subscribe ⟨"S1"⟩, .closeAll, .subscribe ⟨"S1"⟩] ∧
      topic? ⟨"S1"⟩ [.drop ⟨0⟩, .subscribe ⟨"S1"⟩, .closeAll, .subscribe ⟨"S1"⟩] = none :=
  ⟨⟨_, rfl⟩, rfl, alive_iff.2 rfl, rfl⟩

end Conclave.Bus

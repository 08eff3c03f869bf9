import Conclave.Proofs.Receipts

namespace Conclave.Bus

structure Publication where
  session : SessionId
  result : CeremonyResult
  channel : ChannelId
  deriving DecidableEq, Repr

inductive Move where
  | subscribe (s : SessionId)
  | look (s : SessionId) (result : CeremonyResult)
  | send (number : Nat)
  | receive (c : ChannelId)
  | drop (c : ChannelId)
  | closeAll
  deriving DecidableEq, Repr

structure Traffic where
  steps : List Step
  underway : Nat → Option Publication

namespace Traffic

def bus (t : Traffic) : Bus := reached t.steps

def step? (t : Traffic) : Move → Option Step
  | .subscribe s => some (.subscribe s)
  | .look s _ => some (.look s)
  | .send n => (t.underway n).map fun p => .send p.channel p.result
  | .receive c => some (.receive c)
  | .drop c => some (.drop c)
  | .closeAll => some .closeAll

def onward (t : Traffic) (count : Nat) : Move → Nat → Option Publication
  | .look s r, k => if k = count then (topic? s t.steps).map (⟨s, r, ·⟩) else t.underway k
  | .send n, k => if k = n then none else t.underway k
  | _, k => t.underway k

def returned? (t : Traffic) : Move → Option Bool
  | .look s _ => if topic? s t.steps = none then some false else none
  | .send n => (t.underway n).map fun p => (t.bus.send p.channel p.result).1
  | _ => none

def accepts (t : Traffic) (c : ChannelId) : Move → Option (Nat × Publication)
  | .send n =>
      match t.underway n with
      | none => none
      | some p => if p.channel = c ∧ t.returned? (.send n) = some true then some (n, p) else none
  | _ => none

end Traffic

def traffic : List Move → Traffic
  | [] => ⟨[], fun _ => none⟩
  | m :: past =>
      ⟨((traffic past).step? m).toList ++ (traffic past).steps, (traffic past).onward past.length m⟩

def accepted (c : ChannelId) : List Move → List (Nat × Publication)
  | [] => []
  | m :: past => accepted c past ++ ((traffic past).accepts c m).toList

theorem bus_send (n : Nat) (past : List Move) :
    (traffic (.send n :: past)).bus =
      match (traffic past).underway n with
      | none => (traffic past).bus
      | some p => (traffic past).bus.step (.send p.channel p.result) := by
  rw [Traffic.bus, traffic, Traffic.step?]
  cases (traffic past).underway n <;> rfl

theorem publish_eq_moves (s : SessionId) (r : CeremonyResult) (past : List Move) :
    let looked := .look s r :: past
    ((traffic past).bus.publish s r).1 =
        (((traffic past).returned? (.look s r)).or
          ((traffic looked).returned? (.send past.length))).getD false ∧
      ((traffic past).bus.publish s r).2 = (traffic (.send past.length :: looked)).bus := by
  intro looked
  have hbus : (traffic looked).bus = ((traffic past).bus.find s).2 := rfl
  have hpublish := publish_eq_steps s r (traffic past).bus
  have hunderway : (traffic looked).underway past.length =
      (topic? s (traffic past).steps).map (⟨s, r, ·⟩) := if_pos rfl
  cases htopic : topic? s (traffic past).steps with
  | none =>
      have habsent : (traffic past).bus.topics.get? s = none := htopic
      rw [htopic] at hunderway
      rw [habsent] at hpublish
      constructor
      · simp [publish, find, habsent, Traffic.returned?, htopic]
      · rw [hpublish, bus_send, hunderway]
        rfl
  | some c =>
      have hpresent : (traffic past).bus.topics.get? s = some c := htopic
      rw [htopic] at hunderway
      rw [hpresent] at hpublish
      constructor
      · simp [publish, Traffic.returned?, htopic, hunderway, hbus, find, hpresent]
      · rw [hpublish, bus_send, hunderway]
        rfl

section Moves

variable {s : SessionId} {c d : ChannelId} {n : Nat} {p : Publication} {m : Move} {past : List Move}

theorem accepts_eq_some {t : Traffic} :
    t.accepts c m = some (n, p) ↔
      m = .send n ∧ t.underway n = some p ∧ p.channel = c ∧ t.returned? (.send n) = some true := by
  cases m with
  | send k =>
      rw [Traffic.accepts]
      cases h : t.underway k with
      | none =>
          constructor
          · exact nofun
          · rintro ⟨hk, hp, -⟩
            cases hk
            cases h.symm.trans hp
      | some q =>
          simp only
          split
          · rename_i hq
            constructor
            · intro he
              cases he
              exact ⟨rfl, h, hq⟩
            · rintro ⟨hk, hp, -⟩
              cases hk
              cases h.symm.trans hp
              rfl
          · rename_i hq
            constructor
            · exact nofun
            · rintro ⟨hk, hp, hrest⟩
              cases hk
              cases h.symm.trans hp
              exact absurd hrest hq
  | _ => exact ⟨nofun, fun h => nomatch h.1⟩

theorem mem_accepted_cons {a : Nat × Publication} :
    a ∈ accepted c (m :: past) ↔ a ∈ accepted c past ∨ (traffic past).accepts c m = some a := by
  rw [accepted, List.mem_append, Option.mem_toList]

theorem underway_of_onward {t : Traffic} {count : Nat} (h : t.onward count m n = some p) :
    t.underway n = some p ∨
      n = count ∧ m = .look p.session p.result ∧ topic? p.session t.steps = some p.channel := by
  cases m with
  | look s r =>
      rw [Traffic.onward] at h
      split at h
      · rename_i hn
        obtain ⟨c, hc, rfl⟩ := Option.map_eq_some_iff.1 h
        exact Or.inr ⟨hn, rfl, hc⟩
      · exact Or.inl h
  | send k =>
      rw [Traffic.onward] at h
      split at h
      · cases h
      · exact Or.inl h
  | _ => exact Or.inl h

theorem looked_of_underway (h : (traffic past).underway n = some p) :
    ∃ newer older, past = newer ++ .look p.session p.result :: older ∧ older.length = n ∧
      topic? p.session (traffic older).steps = some p.channel := by
  induction past with
  | nil => cases h
  | cons m past ih =>
      rcases underway_of_onward h with hold | ⟨rfl, rfl, htopic⟩
      · obtain ⟨newer, older, rfl, hrest⟩ := ih hold
        exact ⟨m :: newer, older, rfl, hrest⟩
      · exact ⟨[], past, rfl, rfl, htopic⟩

theorem number_lt_of_underway (h : (traffic past).underway n = some p) : n < past.length := by
  obtain ⟨newer, older, rfl, rfl, -⟩ := looked_of_underway h
  simp only [List.length_append, List.length_cons]
  omega

theorem looked_unique {q : Publication} {newer older newer' older' : List Move}
    (h : newer ++ .look p.session p.result :: older = newer' ++ .look q.session q.result :: older')
    (hlength : older.length = older'.length)
    (hp : topic? p.session (traffic older).steps = some p.channel)
    (hq : topic? q.session (traffic older').steps = some q.channel) : p = q := by
  obtain ⟨-, htail⟩ := List.append_inj' h (by simpa using hlength)
  obtain ⟨hmove, rfl⟩ := List.cons.inj htail
  obtain ⟨session, result, channel⟩ := p
  obtain ⟨session', result', channel'⟩ := q
  cases hmove
  cases hp.symm.trans hq
  rfl

theorem underway_of_accepted (h : (n, p) ∈ accepted c past) :
    p.channel = c ∧ ∃ newer older, past = newer ++ .send n :: older ∧
      (traffic older).underway n = some p := by
  induction past with
  | nil => cases h
  | cons m past ih =>
      rcases mem_accepted_cons.1 h with hold | haccepts
      · obtain ⟨hchannel, newer, older, rfl, hunderway⟩ := ih hold
        exact ⟨hchannel, m :: newer, older, rfl, hunderway⟩
      · obtain ⟨rfl, hunderway, hchannel, -⟩ := accepts_eq_some.1 haccepts
        exact ⟨hchannel, [], past, rfl, hunderway⟩

theorem looked_of_accepted (h : (n, p) ∈ accepted c past) :
    ∃ newer older, past = newer ++ .look p.session p.result :: older ∧ older.length = n ∧
      topic? p.session (traffic older).steps = some c := by
  obtain ⟨rfl, newer, older, rfl, hunderway⟩ := underway_of_accepted h
  obtain ⟨newer', older', rfl, hlooked⟩ := looked_of_underway hunderway
  exact ⟨newer ++ .send n :: newer', older', by simp, hlooked⟩

theorem channel_unique {q : Publication} (hp : (n, p) ∈ accepted c past)
    (hq : (n, q) ∈ accepted d past) : d = c := by
  obtain ⟨rfl, -⟩ := underway_of_accepted hp
  obtain ⟨rfl, -⟩ := underway_of_accepted hq
  obtain ⟨newer, older, hpast, rfl, htopic⟩ := looked_of_accepted hp
  obtain ⟨newer', older', hpast', hlength, htopic'⟩ := looked_of_accepted hq
  rw [looked_unique (hpast.symm.trans hpast') hlength.symm htopic htopic']

theorem over_of_accepted (h : (n, p) ∈ accepted c past) :
    n < past.length ∧ (traffic past).underway n = none := by
  induction past with
  | nil => cases h
  | cons m past ih =>
      rcases mem_accepted_cons.1 h with hold | haccepts
      · obtain ⟨hlt, hover⟩ := ih hold
        refine ⟨Nat.lt_succ_of_lt hlt, ?_⟩
        cases hnext : (traffic (m :: past)).underway n with
        | none => rfl
        | some q =>
            rcases underway_of_onward hnext with hunderway | ⟨rfl, -⟩
            · cases hover.symm.trans hunderway
            · exact absurd hlt (Nat.lt_irrefl _)
      · obtain ⟨rfl, hunderway, -⟩ := accepts_eq_some.1 haccepts
        exact ⟨Nat.lt_succ_of_lt (number_lt_of_underway hunderway), if_pos rfl⟩

theorem nodup_accepted (c : ChannelId) (past : List Move) :
    ((accepted c past).map Prod.fst).Nodup := by
  induction past with
  | nil => exact .nil
  | cons m past ih =>
      rw [accepted]
      cases haccepts : (traffic past).accepts c m with
      | none => simpa using ih
      | some a =>
          obtain ⟨n, p⟩ := a
          obtain ⟨-, hunderway, -⟩ := accepts_eq_some.1 haccepts
          have hnew : n ∉ (accepted c past).map Prod.fst := by
            intro hmem
            obtain ⟨⟨k, q⟩, hq, rfl⟩ := List.mem_map.1 hmem
            cases (over_of_accepted hq).2.symm.trans hunderway
          rw [List.map_append, List.nodup_append]
          refine ⟨ih, by simp, ?_⟩
          intro k hk j hj
          obtain rfl : j = n := by simpa using hj
          rintro rfl
          exact hnew hk

theorem steps_append (newer older : List Move) :
    ∃ later, (traffic (newer ++ older)).steps = later ++ (traffic older).steps := by
  induction newer with
  | nil => exact ⟨[], rfl⟩
  | cons m newer ih =>
      obtain ⟨later, hlater⟩ := ih
      refine ⟨((traffic (newer ++ older)).step? m).toList ++ later, ?_⟩
      rw [List.cons_append, traffic, hlater, List.append_assoc]

theorem maker?_of_looked {older : List Move} {r : CeremonyResult} (newer : List Move)
    (h : topic? s (traffic older).steps = some c) :
    maker? c (traffic (newer ++ .look s r :: older)).steps = some s := by
  obtain ⟨later, hlater⟩ := steps_append newer (.look s r :: older)
  rw [hlater]
  exact maker?_append later (maker?_cons (.look s) (maker?_of_alive (alive_of_topic h)))

theorem maker?_of_underway (h : (traffic past).underway n = some p) :
    maker? p.channel (traffic past).steps = some p.session := by
  obtain ⟨newer, older, rfl, -, htopic⟩ := looked_of_underway h
  exact maker?_of_looked newer htopic

theorem maker?_of_accepted (h : (n, p) ∈ accepted c past) :
    maker? c (traffic past).steps = some p.session := by
  obtain ⟨newer, older, rfl, -, htopic⟩ := looked_of_accepted h
  exact maker?_of_looked newer htopic

theorem accepts_takes (t : Traffic) (c : ChannelId) (m : Move) :
    (t.accepts c m).map (fun a => a.2.result) = (t.step? m).bind (t.bus.takes c) := by
  cases m with
  | send n =>
      rw [Traffic.accepts, Traffic.step?, Traffic.returned?]
      cases t.underway n with
      | none => rfl
      | some p =>
          simp only [takes, Option.map_some, Option.bind_some, Option.some.injEq]
          split <;> rfl
  | _ => rfl

theorem results_accepted (c : ChannelId) (past : List Move) :
    (accepted c past).map (fun a => a.2.result) = taken c (traffic past).steps := by
  induction past with
  | nil => rfl
  | cons m past ih =>
      have hmap : ((traffic past).accepts c m).toList.map (fun a => a.2.result) =
          (((traffic past).accepts c m).map fun a => a.2.result).toList := by
        cases (traffic past).accepts c m <;> rfl
      rw [accepted, List.map_append, ih, hmap, accepts_takes, traffic]
      cases (traffic past).step? m with
      | none => simp
      | some e => rfl

theorem accepted_of_alive (alive : Alive s c (traffic past).steps) :
    (accepted c past).map (fun a => a.2.result) =
      received c (traffic past).steps ++ ((traffic past).bus.buffered c).toList :=
  (results_accepted c past).trans (taken_of_alive alive)

theorem length_accepted (alive : Alive s c (traffic past).steps) :
    (accepted c past).length = (received c (traffic past).steps).length +
      ((traffic past).bus.buffered c).toList.length := by
  have h := congrArg List.length (accepted_of_alive alive)
  rwa [List.length_map, List.length_append] at h

theorem returned_true_iff (h : (traffic past).underway n = some p) :
    (traffic past).returned? (.send n) = some true ↔
      Alive p.session p.channel (traffic past).steps ∧
        (accepted p.channel past).length = (received p.channel (traffic past).steps).length := by
  rw [Traffic.returned?, h, Option.map_some, Option.some.injEq, send_accepted]
  constructor
  · rintro ⟨ch, hch, hempty⟩
    have halive : Alive ch.session p.channel (traffic past).steps := by
      rw [alive_iff, session?]
      exact congrArg _ hch
    have hsession : some ch.session = some p.session :=
      (maker?_of_alive halive).symm.trans (maker?_of_underway h)
    have hbuffered : (traffic past).bus.buffered p.channel = none := by
      rw [buffered, hch, Option.bind_some, hempty]
    have hlength := length_accepted halive
    rw [hbuffered] at hlength
    exact ⟨Option.some.inj hsession ▸ halive, hlength⟩
  · rintro ⟨halive, hlength⟩
    obtain ⟨ch, hch, -⟩ := Option.map_eq_some_iff.1 (alive_iff.1 halive)
    have hall := length_accepted halive
    have hbuffered : (traffic past).bus.buffered p.channel = none := by
      cases hb : (traffic past).bus.buffered p.channel with
      | none => rfl
      | some r =>
          rw [hb, hlength] at hall
          simp at hall
    refine ⟨ch, hch, ?_⟩
    have hch' : (traffic past).bus.channels.get? p.channel = some ch := hch
    rwa [buffered, hch', Option.bind_some] at hbuffered

theorem accepted_grows (c : ChannelId) (newer older : List Move) :
    accepted c older <+: accepted c (newer ++ older) := by
  induction newer with
  | nil => exact List.prefix_refl _
  | cons m newer ih => exact ih.trans (List.prefix_append _ _)

theorem length_accepted_send (hunderway : (traffic past).underway n = some p)
    (htrue : (traffic past).returned? (.send n) = some true) :
    (accepted p.channel (.send n :: past)).length = (accepted p.channel past).length + 1 := by
  rw [accepted, accepts_eq_some.2 ⟨rfl, hunderway, rfl, htrue⟩, List.length_append]
  rfl

theorem two_le_length_accepted (hunderway : (traffic past).underway n = some p)
    (alive : Alive p.session p.channel (traffic past).steps)
    (hreceived : received p.channel (traffic past).steps ≠ []) :
    2 ≤ (accepted p.channel (.send n :: past)).length := by
  have hpos := List.length_pos_iff.2 hreceived
  have hall := length_accepted alive
  have hle := (accepted_grows p.channel [.send n] past).length_le
  rw [List.singleton_append] at hle
  -- If all that was accepted has been received, this one is accepted too; else two were before.
  by_cases hlength : (accepted p.channel past).length =
      (received p.channel (traffic past).steps).length
  · have htrue := (returned_true_iff hunderway).2 ⟨alive, hlength⟩
    rw [length_accepted_send hunderway htrue]
    omega
  · omega

theorem length_accepted_le_one (unreceived : ∀ newer n older p, past = newer ++ .send n :: older →
      (traffic older).underway n = some p → p.channel = c →
      Alive p.session c (traffic older).steps → received c (traffic older).steps = []) :
    (accepted c past).length ≤ 1 := by
  induction past with
  | nil => exact Nat.zero_le _
  | cons m past ih =>
      have hold : (accepted c past).length ≤ 1 := ih fun newer n older p hpast =>
        unreceived (m :: newer) n older p (by rw [hpast]; rfl)
      cases haccepts : (traffic past).accepts c m with
      | none => simpa [accepted, haccepts] using hold
      | some a =>
          obtain ⟨n, p⟩ := a
          obtain ⟨rfl, hunderway, rfl, htrue⟩ := accepts_eq_some.1 haccepts
          obtain ⟨alive, hlength⟩ := (returned_true_iff hunderway).1 htrue
          have hfirst := unreceived [] n past p rfl hunderway rfl alive
          rw [length_accepted_send hunderway htrue, hlength, hfirst]
          exact Nat.le_refl _

theorem buffered_look (s : SessionId) (r : CeremonyResult) (past : List Move) (c : ChannelId) :
    (traffic (.look s r :: past)).bus.buffered c = (traffic past).bus.buffered c :=
  (buffered_step (traffic past).bus (.look s) c).trans rfl

theorem buffered_of_refused (h : (traffic past).returned? m = some false) (c : ChannelId) :
    (traffic (m :: past)).bus.buffered c = (traffic past).bus.buffered c := by
  cases m with
  | look s r => exact buffered_look s r past c
  | send n =>
      obtain ⟨p, hp, hrefused⟩ := Option.map_eq_some_iff.1 h
      rw [bus_send, hp]
      simp only [buffered_step]
      refine if_neg fun htaken => ?_
      cases hrefused.symm.trans htaken.2
  | _ => cases h

end Moves

theorem accepted_are_received (past : List Move) :
    (∀ s c, maker? c (traffic past).steps = some s →
      (∃ left : Option CeremonyResult,
        (accepted c past).map (fun a => a.2.result) =
            received c (traffic past).steps ++ left.toList ∧
          (Alive s c (traffic past).steps → (traffic past).bus.buffered c = left)) ∧
      ((accepted c past).map Prod.fst).Nodup ∧
      ∀ n p, (n, p) ∈ accepted c past → p.session = s ∧
        (∃ newer older, past = newer ++ .look s p.result :: older ∧ older.length = n ∧
          topic? s (traffic older).steps = some c) ∧
        ∀ d q, (n, q) ∈ accepted d past → d = c) ∧
    (∀ c, ((traffic past).bus.receive c).1 = .closed →
      (traffic past).bus.buffered c = none ∧ ∀ s, topic? s (traffic past).steps ≠ some c) ∧
    (∀ s, (∃ f, (traffic past).bus.subscribe s = .error f) ↔
      ∃ c, topic? s (traffic past).steps = some c) ∧
    ∀ m, (∃ s r, m = .look s r) ∨ (traffic past).returned? m = some false →
      ∀ c, (traffic (m :: past)).bus.buffered c = (traffic past).bus.buffered c := by
  refine ⟨fun s c made => ⟨?_, nodup_accepted c past, fun n p h => ?_⟩,
    fun c => closed_only_vacated, fun s => ?_, fun m h c => ?_⟩
  · obtain ⟨left, htaken, hleft⟩ := taken_eq c (traffic past).steps
    exact ⟨left, (results_accepted c past).trans htaken, hleft s⟩
  · obtain rfl : p.session = s := Option.some.inj ((maker?_of_accepted h).symm.trans made)
    exact ⟨rfl, looked_of_accepted h, fun d q => channel_unique h⟩
  · exact subscribe_refused_iff
  · rcases h with ⟨s, r, rfl⟩ | hrefused
    · exact buffered_look s r past c
    · exact buffered_of_refused hrefused c

def lateSender : List Move :=
  [.receive ⟨0⟩, .send 1, .subscribe ⟨"S1"⟩, .closeAll, .look ⟨"S1"⟩ (.signature [1] none),
    .subscribe ⟨"S1"⟩]

theorem accepted_are_received_lateSender :
    maker? ⟨0⟩ (traffic lateSender).steps = some ⟨"S1"⟩ ∧
      maker? ⟨1⟩ (traffic lateSender).steps = some ⟨"S1"⟩ ∧
      (∀ n p, (n, p) ∈ accepted ⟨0⟩ lateSender → p.session = ⟨"S1"⟩ ∧
        ∀ d q, (n, q) ∈ accepted d lateSender → d = ⟨0⟩) ∧
      received ⟨0⟩ (traffic lateSender).steps = [.signature [1] none] ∧
      accepted ⟨1⟩ lateSender = [] := by
  have hmade : maker? ⟨0⟩ (traffic lateSender).steps = some ⟨"S1"⟩ := rfl
  have hfirst := (accepted_are_received lateSender).1 ⟨"S1"⟩ ⟨0⟩ hmade
  exact ⟨hmade, rfl, fun n p h => ⟨(hfirst.2.2 n p h).1, (hfirst.2.2 n p h).2.2⟩, rfl, rfl⟩

theorem accepted_once_iff_unreceived (past : List Move) (c : ChannelId) :
    ((accepted c past).length ≤ 1 ↔
      ∀ newer n older p, past = newer ++ .send n :: older →
        (traffic older).underway n = some p → p.channel = c →
        Alive p.session c (traffic older).steps → received c (traffic older).steps = []) ∧
    ∀ n p, (traffic past).underway n = some p →
      ((traffic past).returned? (.send n) = some true ↔
        Alive p.session p.channel (traffic past).steps ∧
          (accepted p.channel past).length = (received p.channel (traffic past).steps).length) := by
  refine ⟨⟨?_, length_accepted_le_one⟩, fun n p => returned_true_iff⟩
  rintro once newer n older p rfl hunderway rfl alive
  by_contra hreceived
  have htwo := two_le_length_accepted hunderway alive hreceived
  have hle := (accepted_grows p.channel newer (.send n :: older)).length_le
  omega

def rivals : List Move :=
  [.send 4, .look ⟨"S1"⟩ (.signature [2] none), .receive ⟨0⟩, .send 1,
    .look ⟨"S1"⟩ (.signature [1] none), .subscribe ⟨"S1"⟩]

theorem accepted_twice_after_receipt :
    accepted ⟨0⟩ rivals =
        [(1, ⟨⟨"S1"⟩, .signature [1] none, ⟨0⟩⟩), (4, ⟨⟨"S1"⟩, .signature [2] none, ⟨0⟩⟩)] ∧
      Alive ⟨"S1"⟩ ⟨0⟩ (traffic rivals).steps ∧ ¬ (accepted ⟨0⟩ rivals).length ≤ 1 :=
  ⟨rfl, alive_iff.2 rfl, by decide⟩

theorem accepted_once_iff_unreceived_rivals :
    (traffic rivals.tail).underway 4 = some ⟨⟨"S1"⟩, .signature [2] none, ⟨0⟩⟩ ∧
      (accepted ⟨0⟩ rivals.tail).length = 1 ∧
      (traffic rivals.tail).returned? (.send 4) = some true := by
  have hunderway :
      (traffic rivals.tail).underway 4 = some ⟨⟨"S1"⟩, .signature [2] none, ⟨0⟩⟩ := rfl
  have hreturned := (accepted_once_iff_unreceived rivals.tail ⟨0⟩).2 4 _ hunderway
  exact ⟨hunderway, rfl, hreturned.2 ⟨alive_iff.2 rfl, rfl⟩⟩

end Conclave.Bus

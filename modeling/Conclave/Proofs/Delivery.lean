import Conclave.Proofs.Ending
import Conclave.Proofs.Results
import Mathlib.Control.Monad.Basic

namespace Conclave.Coordinator

def Event.outside : Event → Bool
  | .deliver (.publish _ _) => true
  | .deliver .closeAll => true
  | .deliver _ => false
  | _ => true

def Private (past : List Turn) (t : Turn) : Prop := Fresh past t ∧ t.event.outside = true

instance (past : List Turn) (t : Turn) : Decidable (Private past t) :=
  inferInstanceAs (Decidable (_ ∧ _))

def channel? (s : SessionId) (c : Coordinator) : Option ChannelId :=
  (c.leases.get? s).map Lease.channel

theorem channel?_of_live {s : SessionId} {c : Coordinator} {lease : Lease}
    (live : c.leases.get? s = some lease) : c.channel? s = some lease.channel := by
  rw [channel?, live]
  rfl

structure Wired (past : List Turn) (c : Coordinator) (s : SessionId) : Prop where
  topic : ∀ k, c.bus.topics.get? s = some k → c.channel? s = some k
  channel : ∀ k, c.channel? s = some k → ∃ ch, c.bus.channels.get? k = some ch ∧
    ch.session = s ∧ ∀ r, ch.buffer = some r ↔ Published s r past
  started : ∀ r, Published s r past → ∃ u ∈ past, u.starts s = true

theorem Wired.first {past : List Turn} {c : Coordinator} {s : SessionId} {r : CeremonyResult}
    (wired : Wired past c s) (taken : (c.bus.publish s r).1 = true) (r' : CeremonyResult) :
    ¬ Published s r' past := by
  intro hpast
  obtain ⟨d, ch, ht, hch, hempty⟩ := Bus.publish_accepted.1 taken
  obtain ⟨ch', hch', -, hbuffer⟩ := wired.channel d (wired.topic d ht)
  obtain rfl : ch' = ch := Option.some.inj (hch'.symm.trans hch)
  rw [(hbuffer r').2 hpast] at hempty
  cases hempty

theorem Wired.heard_published {past : List Turn} {c : Coordinator} {s : SessionId} {lease : Lease}
    {r : CeremonyResult} (wired : Wired past c s) (live : c.leases.get? s = some lease)
    (acknowledged : lease.acknowledged = true) (published : Published s r past) (overdue : Bool) :
    heard s overdue lease c.bus = some (resultOutcome s lease.action r) := by
  obtain ⟨ch, hch, -, hbuffer⟩ := wired.channel _ (channel?_of_live live)
  have hreceived : (c.bus.receive lease.channel).1 = .result r :=
    Bus.receive_result.2 ⟨ch, hch, (hbuffer r).2 published⟩
  rw [heard, if_pos acknowledged, hreceived]

theorem Wired.heard_unpublished {past : List Turn} {c : Coordinator} {s : SessionId}
    {lease : Lease} {overdue : Bool} {outcome : Except Failure CeremonyResult}
    (wired : Wired past c s) (live : c.leases.get? s = some lease)
    (unpublished : ∀ r, ¬ Published s r past)
    (h : heard s overdue lease c.bus = some outcome) :
    outcome = .error (.resultChannelClosed s) ∨ overdue = true ∧ outcome = .error (.timeout s) := by
  unfold heard at h
  split at h
  · split at h
    · rename_i r hreceived
      obtain ⟨ch, hch, hr⟩ := Bus.receive_result.1 hreceived
      obtain ⟨ch', hch', -, hbuffer⟩ := wired.channel _ (channel?_of_live live)
      obtain rfl : ch' = ch := Option.some.inj (hch'.symm.trans hch)
      exact absurd ((hbuffer r).1 hr) (unpublished r)
    · exact Or.inl (Option.some.inj h).symm
    · split at h
      · rename_i hoverdue
        exact Or.inr ⟨hoverdue, (Option.some.inj h).symm⟩
      · cases h
  · cases h

theorem Wired.distinct {past : List Turn} {c : Coordinator} {s s' : SessionId}
    (wired : Wired past c s) (wired' : Wired past c s') {k : ChannelId}
    (h : c.channel? s = some k) (h' : c.channel? s' = some k) : s = s' := by
  obtain ⟨ch, hch, hs, -⟩ := wired.channel k h
  obtain ⟨ch', hch', hs', -⟩ := wired'.channel k h'
  obtain rfl : ch = ch' := Option.some.inj (hch.symm.trans hch')
  exact hs.symm.trans hs'

namespace Turn

theorem wired_of_same {t : Turn} {past : List Turn} {s : SessionId}
    (wired : Wired past t.before s) (accepted : ∀ r, t.accepted? ≠ some (s, r))
    (topic : ∀ k, t.after.bus.topics.get? s = some k → t.before.bus.topics.get? s = some k)
    (held : t.after.channel? s = t.before.channel? s)
    (channel : ∀ k, t.before.channel? s = some k →
      t.after.bus.channels.get? k = t.before.bus.channels.get? k) :
    Wired (t :: past) t.after s := by
  have hpublished : ∀ r, Published s r (t :: past) ↔ Published s r past := by
    intro r
    rw [published_cons]
    exact or_iff_right (accepted r)
  constructor
  · intro k hk
    rw [held]
    exact wired.topic k (topic k hk)
  · intro k hk
    rw [held] at hk
    obtain ⟨ch, hch, hs, hbuffer⟩ := wired.channel k hk
    refine ⟨ch, (channel k hk).trans hch, hs, fun r => ?_⟩
    rw [hpublished]
    exact hbuffer r
  · intro r hr
    obtain ⟨u, hu, hstarts⟩ := wired.started r ((hpublished r).1 hr)
    exact ⟨u, List.mem_cons_of_mem _ hu, hstarts⟩

theorem not_accepted {t : Turn} (quiet : t.event.delivers = false) (s : SessionId)
    (r : CeremonyResult) : t.accepted? ≠ some (s, r) := by
  intro haccepted
  rw [(accepted?_eq_some.1 haccepted).1] at quiet
  cases quiet

theorem quiet_of_ending {t : Turn} {s : SessionId} {outcome : Except Failure CeremonyResult}
    (h : t.ending = some (s, outcome)) : t.event.delivers = false := by
  cases event : t.event with
  | deliver op =>
      simp only [ending, event] at h
      cases h
  | _ => rfl

theorem wired_of_quiet {t : Turn} {past : List Turn} {s : SessionId}
    (wired : Wired past t.before s) (quiet : t.event.delivers = false)
    (bus : t.after.bus = t.before.bus) (held : t.after.channel? s = t.before.channel? s) :
    Wired (t :: past) t.after s := by
  refine wired_of_same wired (not_accepted quiet s) (fun k hk => ?_) held fun k _ => ?_
  · rw [bus] at hk
    exact hk
  · rw [bus]

theorem wired_of_opened (lease : Lease) {t : Turn} {past : List Turn} {s k : SessionId} {bus : Bus}
    (wired : Wired past t.before s) (quiet : t.event.delivers = false)
    (started : t.starts k = true) (new : ∀ u ∈ past, u.starts k = false)
    (owned : ∀ old, t.before.leases.get? s = some old → t.before.bus.Owned s old.channel)
    (subscribed : t.before.bus.subscribe k = .ok (lease.channel, bus))
    (bus_after : t.after.bus = bus)
    (leases : t.after.leases = t.before.leases.insert k lease) :
    Wired (t :: past) t.after s := by
  obtain ⟨-, hchannel, rfl⟩ := Bus.subscribe_eq_ok subscribed
  by_cases hs : s = k
  · subst hs
    have hnone : ∀ r, ¬ Published s r (t :: past) := by
      intro r hr
      rcases published_cons.1 hr with haccepted | hpast
      · exact not_accepted quiet s r haccepted
      · obtain ⟨u, hu, hstarts⟩ := wired.started r hpast
        rw [new u hu] at hstarts
        cases hstarts
    have held : t.after.channel? s = some lease.channel := by
      rw [channel?, leases, Keyed.get?_insert, if_pos rfl]
      rfl
    refine ⟨fun d hd => ?_, fun d hd => ?_, fun r hr => absurd hr (hnone r)⟩
    · rw [bus_after, Keyed.get?_insert, if_pos rfl] at hd
      rw [held, hd]
    · obtain rfl : lease.channel = d := Option.some.inj (held.symm.trans hd)
      refine ⟨⟨s, none, 0⟩, ?_, rfl, fun r => ?_⟩
      · rw [bus_after, Keyed.get?_insert, if_pos rfl]
      · exact ⟨fun h => (by cases h), fun h => absurd h (hnone r)⟩
  · refine wired_of_same wired (not_accepted quiet s) (fun d hd => ?_) ?_ fun d hd => ?_
    · rw [bus_after, Keyed.get?_insert, if_neg hs] at hd
      exact hd
    · rw [channel?, leases, Keyed.get?_insert, if_neg hs]
      rfl
    · obtain ⟨old, live, rfl⟩ := Option.map_eq_some_iff.1 hd
      have hlt := (owned old live).1
      have hne : old.channel ≠ lease.channel := by
        intro h
        rw [h, hchannel] at hlt
        exact Nat.lt_irrefl _ hlt
      rw [bus_after, Keyed.get?_insert, if_neg hne]

theorem wired_of_concluded {t : Turn} {past : List Turn} {s k : SessionId} {lease : Lease}
    (wired : ∀ s, Wired past t.before s) (quiet : t.event.delivers = false)
    (live : t.before.leases.get? k = some lease)
    (bus_after : t.after.bus = t.before.bus.drop lease.channel)
    (leases : t.after.leases = t.before.leases.erase k) : Wired (t :: past) t.after s := by
  obtain ⟨ch, hch, hsession, -⟩ := (wired k).channel _ (channel?_of_live live)
  have topics : ∀ s, t.after.bus.topics.get? s =
      if k = s then none else t.before.bus.topics.get? s := by
    intro s
    rw [bus_after, Bus.drop_topics, hch, Option.map_some, hsession]
    simp only [Option.some.injEq]
  by_cases hs : s = k
  · subst hs
    have hgone : t.after.channel? s = none := by
      rw [channel?, leases, Keyed.get?_erase, if_pos rfl]
      rfl
    constructor
    · intro d hd
      rw [topics, if_pos rfl] at hd
      cases hd
    · intro d hd
      rw [hgone] at hd
      cases hd
    · intro r hr
      rcases published_cons.1 hr with haccepted | hpast
      · exact absurd haccepted (not_accepted quiet s r)
      · obtain ⟨u, hu, hstarts⟩ := (wired s).started r hpast
        exact ⟨u, List.mem_cons_of_mem _ hu, hstarts⟩
  · refine wired_of_same (wired s) (not_accepted quiet s) (fun d hd => ?_) ?_ fun d hd => ?_
    · rw [topics, if_neg (Ne.symm hs)] at hd
      exact hd
    · rw [channel?, leases, Keyed.get?_erase, if_neg hs]
      rfl
    · have hne : d ≠ lease.channel := by
        rintro rfl
        exact hs ((wired s).distinct (wired k) hd (channel?_of_live live))
      rw [bus_after, Bus.drop_channels, if_neg hne]

theorem wired_of_taken {t : Turn} {past : List Turn} {s : SessionId} {r : CeremonyResult}
    (wired : Wired past t.before s) (event : t.event = .deliver (.publish s r))
    (live : ∀ d, t.before.channel? s = some d → ∃ u ∈ past, u.starts s = true)
    (taken : (t.before.bus.publish s r).1 = true)
    (bus_after : t.after.bus = (t.before.bus.publish s r).2)
    (held : t.after.channel? s = t.before.channel? s) : Wired (t :: past) t.after s := by
  obtain ⟨d, ch, ht, hch, hempty⟩ := Bus.publish_accepted.1 taken
  have haccepted : t.accepted? = some (s, r) := accepted?_eq_some.2 ⟨event, taken⟩
  have hd := wired.topic d ht
  obtain ⟨ch', hch', hsession, hbuffer⟩ := wired.channel d hd
  obtain rfl : ch' = ch := Option.some.inj (hch'.symm.trans hch)
  have hfirst := wired.first taken
  constructor
  · intro k hk
    rw [bus_after, Bus.publish_topics] at hk
    rw [held]
    exact wired.topic k hk
  · intro k hk
    obtain rfl : d = k := Option.some.inj (hd.symm.trans (held.symm.trans hk))
    refine ⟨{ ch' with buffer := some r }, ?_, hsession, fun r' => ?_⟩
    · rw [bus_after, Bus.publish_channels, hch, Option.map_some, Bus.fill, if_pos ⟨ht, hempty⟩]
    · rw [published_cons, haccepted, or_iff_left (hfirst r')]
      simp
  · intro r' hr'
    obtain ⟨u, hu, hstarts⟩ := live d hd
    exact ⟨u, List.mem_cons_of_mem _ hu, hstarts⟩

theorem wired_of_refused {t : Turn} {past : List Turn} {s k : SessionId} {r : CeremonyResult}
    (wired : ∀ s, Wired past t.before s) (event : t.event = .deliver (.publish k r))
    (refused : k = s → (t.before.bus.publish k r).1 = false)
    (bus_after : t.after.bus = (t.before.bus.publish k r).2)
    (held : t.after.channel? s = t.before.channel? s) : Wired (t :: past) t.after s := by
  refine wired_of_same (wired s) (fun r' haccepted => ?_) (fun d hd => ?_) held fun d hd => ?_
  · obtain ⟨event', taken⟩ := accepted?_eq_some.1 haccepted
    cases event.symm.trans event'
    rw [refused rfl] at taken
    cases taken
  · rw [bus_after, Bus.publish_topics] at hd
    exact hd
  · obtain ⟨ch, hch, -⟩ := (wired s).channel d hd
    rw [bus_after, Bus.publish_channels, hch, Option.map_some, Bus.fill]
    split
    · rename_i hfill
      have hks : k = s := (wired k).distinct (wired s) ((wired k).topic d hfill.1) hd
      have htaken : (t.before.bus.publish k r).1 = true :=
        Bus.publish_accepted.2 ⟨d, ch, hfill.1, hch, hfill.2⟩
      rw [refused hks] at htaken
      cases htaken
    · rfl

theorem wired_of_publish {t : Turn} {past : List Turn} {s k : SessionId} {r : CeremonyResult}
    (wired : ∀ s, Wired past t.before s) (event : t.event = .deliver (.publish k r))
    (live : ∀ d, t.before.channel? s = some d → ∃ u ∈ past, u.starts s = true)
    (bus_after : t.after.bus = (t.before.bus.publish k r).2)
    (held : t.after.channel? s = t.before.channel? s) : Wired (t :: past) t.after s := by
  by_cases hs : k = s
  · subst hs
    cases htaken : (t.before.bus.publish k r).1 with
    | false => exact wired_of_refused wired event (fun _ => htaken) bus_after held
    | true => exact wired_of_taken (wired k) event live htaken bus_after held
  · exact wired_of_refused wired event (fun h => absurd h hs) bus_after held

end Turn

section Delivery

variable {config : Config} {registry : Registry} {past : List Turn} {c : Coordinator}

theorem Run.wired (run : Run Private (.new config registry) past c) (s : SessionId) :
    Wired past c s := by
  induction run generalizing s with
  | begin =>
      constructor
      · intro k hk
        cases hk
      · intro k hk
        cases hk
      · intro r hr
        obtain ⟨p, hp, -⟩ := hr
        cases hp
  | @next past c run now event allowed ih =>
      cases Turn.effect ⟨now, c, event⟩ with
      | idle same _ inside =>
          exact Turn.wired_of_quiet (ih s) inside (by rw [same]) (by rw [same])
      | refused k draws request f hevent _ after =>
          have quiet : event.delivers = false := congrArg Event.delivers hevent
          exact Turn.wired_of_quiet (ih s) quiet (by rw [after]) (by rw [after]; rfl)
      | opened k draws request parties channel bus hevent _ _ subscribed after =>
          have quiet : event.delivers = false := congrArg Event.delivers hevent
          have started := Turn.starts_of_event hevent
          have new : ∀ u ∈ past, u.starts k = false :=
            fun u hu => allowed.1.not_started started hu
          exact Turn.wired_of_opened
            ⟨request.action, parties, (c.registry.markAll parties).1, channel, false⟩ (ih s) quiet
            started new (fun _ => run.owned) subscribed (by rw [after]) (by rw [after])
      | acknowledged k reply lease hevent _ _ _ after =>
          have quiet : event.delivers = false := congrArg Event.delivers hevent
          refine Turn.wired_of_quiet (ih s) quiet (by rw [after]) ?_
          rw [after, channel?, channel?, Keyed.get?_modify]
          split
          · rw [Option.map_map]
            rfl
          · rfl
      | concluded k lease outcome _ ending live after =>
          rw [conclude_of_live _ _ live] at after
          exact Turn.wired_of_concluded ih (Turn.quiet_of_ending ending) live
            (by rw [after]) (by rw [after])
      | pruned age count docket hevent _ after =>
          have quiet : event.delivers = false := congrArg Event.delivers hevent
          exact Turn.wired_of_quiet (ih s) quiet (by rw [after]) (by rw [after]; rfl)
      | operated op hevent after =>
          have quiet : event.delivers = false := congrArg Event.delivers hevent
          exact Turn.wired_of_quiet (ih s) quiet (by rw [after]) (by rw [after]; rfl)
      | delivered op hevent _ after =>
          have outside := allowed.2
          simp only at hevent
          subst hevent
          cases op with
          | subscribe k => cases outside
          | receive k => cases outside
          | drop k => cases outside
          | publish k r =>
              refine Turn.wired_of_publish ih rfl (fun d hd => ?_) (by rw [after]; rfl)
                (by rw [after]; rfl)
              obtain ⟨lease, live, -⟩ := Option.map_eq_some_iff.1 hd
              exact run.started live
          | closeAll =>
              refine Turn.wired_of_same (ih s) (fun r haccepted => ?_) (fun d hd => ?_)
                (by rw [after]; rfl) fun d _ => ?_
              · cases (Turn.accepted?_eq_some.1 haccepted).1
              · rw [after] at hd
                cases hd
              · rw [after]
                rfl

theorem Run.accepts_once (run : Run Private (.new config registry) past c) (s : SessionId) :
    past.countP (Turn.accepts s) ≤ 1 := by
  refine run.countP_le_one fun past t before _ taken u hu => ?_
  obtain ⟨r, haccepted⟩ := Turn.accepts_iff.1 taken
  have htaken := (Turn.accepted?_eq_some.1 haccepted).2
  by_contra hother
  rw [Bool.not_eq_false] at hother
  obtain ⟨r', hr'⟩ := Turn.accepts_iff.1 hother
  exact (before.wired s).first htaken r' ⟨u, hu, hr'⟩

theorem Private.fresh (past : List Turn) (t : Turn) (h : Private past t) : Fresh past t := h.1

theorem Run.outcome_of_published {t : Turn}
    (run : Run Private (.new config registry) past t.before) {s : SessionId} {overdue : Bool}
    {outcome : Except Failure CeremonyResult} (event : t.event = .attend s overdue)
    (ending : t.ending = some (s, outcome)) {u : Turn} (hu : u ∈ past) {draws : Draws}
    {request : Session.Request} (start : u.event = .start s draws request) {r : CeremonyResult}
    (published : Published s r past) : outcome = resultOutcome s request.action r := by
  obtain ⟨lease, live, hheard, acknowledged⟩ := Turn.heard_of_attend event ending
  have hexpected := (run.wired s).heard_published live acknowledged published overdue
  rw [run.action_of_start Private.fresh live hu start] at hexpected
  exact Option.some.inj (hheard.symm.trans hexpected)

theorem Run.outcome_of_unpublished {t : Turn}
    (run : Run Private (.new config registry) past t.before) {s : SessionId} {overdue : Bool}
    {outcome : Except Failure CeremonyResult} (event : t.event = .attend s overdue)
    (ending : t.ending = some (s, outcome)) (unpublished : ∀ r, ¬ Published s r past) :
    outcome = .error (.resultChannelClosed s) ∨
      overdue = true ∧ outcome = .error (.timeout s) := by
  obtain ⟨lease, live, hheard, -⟩ := Turn.heard_of_attend event ending
  exact (run.wired s).heard_unpublished live unpublished hheard

theorem Run.live_of_accepted {p : Turn} (run : Run Private (.new config registry) past p.before)
    {s : SessionId} {r : CeremonyResult} (accepted : p.accepted? = some (s, r)) :
    ∃ lease, p.before.leases.get? s = some lease ∧ p.after.leases.get? s = some lease := by
  obtain ⟨event, taken⟩ := Turn.accepted?_eq_some.1 accepted
  obtain ⟨d, ch, ht, -⟩ := Bus.publish_accepted.1 taken
  obtain ⟨lease, live, -⟩ := Option.map_eq_some_iff.1 ((run.wired s).topic d ht)
  refine ⟨lease, live, ?_⟩
  rw [Turn.after, event]
  exact live

end Delivery

theorem accepted_results_delivered {config : Config} {registry : Registry} {past : List Turn}
    {c : Coordinator} (run : Run Private (.new config registry) past c) :
    (∀ s, past.countP (Turn.accepts s) ≤ 1) ∧
    (∀ later t earlier, past = later ++ t :: earlier → ∀ s overdue outcome,
      t.event = .attend s overdue → t.ending = some (s, outcome) →
      ∃ u ∈ earlier, ∃ draws request, u.event = .start s draws request ∧
        (∀ r, Published s r earlier → outcome = resultOutcome s request.action r) ∧
        (∀ r, outcome = .ok r → Published s r earlier) ∧
        ((∀ r, ¬ Published s r earlier) → outcome = .error (.resultChannelClosed s) ∨
          overdue = true ∧ outcome = .error (.timeout s))) ∧
    (∀ later p earlier, past = later ++ p :: earlier → ∀ s r, p.accepted? = some (s, r) →
      ∃ u ∈ earlier, ∃ draws request, u.event = .start s draws request ∧
        ((∃ lease, c.leases.get? s = some lease ∧ ∀ now,
          (lease.acknowledged = true → ∀ overdue, Turn.ending ⟨now, c, .attend s overdue⟩ =
            some (s, resultOutcome s request.action r)) ∧
          (lease.acknowledged = false → ∀ reply,
            reply.outcome c.config.dispatchTimeout = .ok () →
            (Turn.after ⟨now, c, .answer s reply⟩).leases.get? s =
              some { lease with acknowledged := true })) ∨
        ∃ newer t older, later = newer ++ t :: older ∧
          ((∃ overdue, t.event = .attend s overdue ∧
            t.ending = some (s, resultOutcome s request.action r)) ∨
          (t.event = .cancel s ∧ t.ending = some (s, .error (.cancelled s))) ∨
          ∃ reply f, t.event = .answer s reply ∧ t.ending = some (s, .error f)))) := by
  refine ⟨run.accepts_once, ?_, ?_⟩
  · rintro later t earlier rfl s overdue outcome event ending
    obtain ⟨before, -, -⟩ := run.cut
    obtain ⟨lease, live, -⟩ := Turn.heard_of_attend event ending
    obtain ⟨u, hu, draws, request, start⟩ := before.start_of_live live
    have hpublished : ∀ r, Published s r earlier → outcome = resultOutcome s request.action r :=
      fun r published => before.outcome_of_published event ending hu start published
    refine ⟨u, hu, draws, request, start, hpublished, fun r hok => ?_,
      before.outcome_of_unpublished event ending⟩
    by_cases hany : ∃ r', Published s r' earlier
    · obtain ⟨r', published⟩ := hany
      have houtcome := (hpublished r' published).symm.trans hok
      obtain ⟨rfl, -⟩ := resultOutcome_eq_ok.1 houtcome
      exact published
    · rcases before.outcome_of_unpublished event ending (fun r' h => hany ⟨r', h⟩) with h | ⟨-, h⟩
      · cases hok.symm.trans h
      · cases hok.symm.trans h
  · rintro later p earlier rfl s r accepted
    obtain ⟨before, -, -⟩ := run.cut
    obtain ⟨lease, live, hafter⟩ := before.live_of_accepted accepted
    obtain ⟨u, hu, draws, request, start⟩ := before.start_of_live live
    refine ⟨u, hu, draws, request, start, ?_⟩
    rcases run.live_or_ended Private.fresh hafter with
      ⟨held, hlive⟩ | ⟨newer, t, older, outcome, rfl, hstarts, hending⟩
    · have published : Published s r (later ++ p :: earlier) := ⟨p, by simp, accepted⟩
      have haction : held.action = request.action :=
        run.action_of_start Private.fresh hlive (by simp [hu]) start
      refine Or.inl ⟨held, hlive, fun now => ⟨fun acknowledged overdue => ?_, ?_⟩⟩
      · have hheard := (run.wired s).heard_published hlive acknowledged published overdue
        rw [Turn.ending_attend rfl, hlive, Option.bind_some, hheard, haction]
        rfl
      · intro waiting reply accepting
        simp [Turn.after, step, answer, hlive, waiting, accepting]
    · refine Or.inr ⟨newer, t, older, rfl, ?_⟩
      rcases Turn.event_of_ending hending with
        ⟨started, -⟩ | ⟨reply, f, event, rfl⟩ | ⟨overdue, event⟩ | ⟨event, rfl⟩
      · rw [hstarts] at started
        cases started
      · exact Or.inr (Or.inr ⟨reply, f, event, hending⟩)
      · rw [List.append_assoc, List.cons_append] at run
        obtain ⟨reached, -, -⟩ := run.cut
        have published : Published s r (older ++ p :: earlier) := ⟨p, by simp, accepted⟩
        obtain rfl := reached.outcome_of_published event hending (by simp [hu]) start published
        exact Or.inl ⟨overdue, event, hending⟩
      · exact Or.inr (Or.inl ⟨event, hending⟩)

def earlyEvents : List (Timestamp × Event) :=
  [(⟨5, 0⟩, .attend ⟨"S1"⟩ true),
    (⟨4, 0⟩, .deliver .closeAll),
    (⟨3, 0⟩, .answer ⟨"S1"⟩ (.ack ⟨⟨"S1"⟩, true, none⟩)),
    (⟨2, 0⟩, .deliver (.publish ⟨"S1"⟩ (.keygen "c2hhcmU=" "0xabc"))),
    (⟨1, 0⟩, .start ⟨"S1"⟩ (fun _ => 0) (.keygen "alice" 1 1))]

def earlyWait : Turn := ⟨⟨5, 0⟩, (replay oneNode earlyEvents.tail).2, .attend ⟨"S1"⟩ true⟩

theorem accepted_results_delivered_early :
    Admits Private oneNode earlyEvents ∧
      earlyWait.ending = some (⟨"S1"⟩, .ok (.keygen "c2hhcmU=" "0xabc")) ∧
      Published ⟨"S1"⟩ (.keygen "c2hhcmU=" "0xabc") (replay oneNode earlyEvents.tail).1 := by
  have admitted : Admits Private oneNode earlyEvents := by decide +kernel
  have ended : earlyWait.ending = some (⟨"S1"⟩, .ok (.keygen "c2hhcmU=" "0xabc")) := by
    decide +kernel
  obtain ⟨u, hu, draws, request, start, -, published, -⟩ :=
    (accepted_results_delivered (run_replay admitted)).2.1 [] earlyWait
      (replay oneNode earlyEvents.tail).1 rfl ⟨"S1"⟩ true _ rfl ended
  exact ⟨admitted, ended, published _ rfl⟩

end Conclave.Coordinator

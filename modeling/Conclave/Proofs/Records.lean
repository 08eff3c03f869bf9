import Conclave.Proofs.Agreement
import Conclave.Proofs.Clock

namespace Conclave.Session

inductive State.Moves : State → State → Prop
  | dispatch : Moves .created .dispatched
  | refuse : Moves .created .failed
  | complete : Moves .dispatched .completed
  | fail : Moves .dispatched .failed

structure Record.WellFormed (r : Record) : Prop where
  threshold_pos : 1 ≤ r.threshold.toNat
  threshold_le : r.threshold.toNat ≤ r.totalNodes.toNat
  finished_iff : r.finishedAt.isSome = true ↔ r.state.isTerminal = true
  error_iff : r.error.isSome = true ↔ r.state = .failed
  dispatched_iff : r.dispatchedAt.isSome = true ↔ r.parties ≠ []
  quorum : r.parties ≠ [] → r.parties.length = r.threshold.toNat ∧ r.parties.Nodup
  created : r.state = .created → r.dispatchedAt = none
  dispatched : r.state = .dispatched ∨ r.state = .completed → r.dispatchedAt.isSome = true
  started_le_dispatched : ∀ d ∈ r.dispatchedAt, r.startedAt ≤ d
  started_le_finished : ∀ f ∈ r.finishedAt, r.startedAt ≤ f
  dispatched_le_finished : ∀ d ∈ r.dispatchedAt, ∀ f ∈ r.finishedAt, d ≤ f

structure Record.Stems (now : Timestamp) (s : SessionId) (request : Request) (r : Record) : Prop where
  session : r.session = s
  action : r.action = request.action
  totalNodes : r.totalNodes = request.totalNodes
  threshold : r.threshold = request.threshold
  startedAt : r.startedAt = now

theorem Request.bounds_of_valid {request : Request} (valid : request.validate = .ok ()) :
    1 ≤ request.threshold.toNat ∧ request.threshold.toNat ≤ request.totalNodes.toNat := by
  unfold validate at valid
  split at valid
  · cases valid
  · rename_i hpos
    split at valid
    · cases valid
    · rename_i hle
      have hne : request.threshold.toNat ≠ 0 := fun h => hpos (UInt32.toNat_inj.1 h)
      rw [UInt32.lt_iff_toNat_lt] at hle
      omega

namespace Record

variable {now : Timestamp} {s : SessionId} {request : Request} {r : Record}

theorem stems_fresh : (fresh now s request).Stems now s request := ⟨rfl, rfl, rfl, rfl, rfl⟩

theorem Stems.dispatch {start : Timestamp} (h : r.Stems start s request) (now : Timestamp)
    (parties : List NodeId) : (r.dispatch now parties).Stems start s request := by
  unfold Record.dispatch
  split
  · exact ⟨h.session, h.action, h.totalNodes, h.threshold, h.startedAt⟩
  · exact h

theorem Stems.finish {start : Timestamp} (h : r.Stems start s request) (now : Timestamp)
    (failure : Option Failure) : (r.finish now failure).Stems start s request := by
  unfold Record.finish
  split
  · exact h
  · exact ⟨h.session, h.action, h.totalNodes, h.threshold, h.startedAt⟩

theorem wellFormed_fresh (now : Timestamp) (s : SessionId) (valid : request.validate = .ok ()) :
    (fresh now s request).WellFormed := by
  obtain ⟨hpos, hle⟩ := Request.bounds_of_valid valid
  constructor <;> simp [fresh, State.isTerminal, hpos, hle]

theorem dispatch_of_created (created : r.state = .created) (now : Timestamp)
    (parties : List NodeId) :
    r.dispatch now parties =
      { r with state := .dispatched, parties := parties, dispatchedAt := some now } := by
  rw [Record.dispatch, if_pos created]

theorem WellFormed.dispatch (h : r.WellFormed) (state : r.state = .created) {parties : List NodeId}
    (length : parties.length = r.threshold.toNat) (nodup : parties.Nodup)
    (started : r.startedAt ≤ now) : (r.dispatch now parties).WellFormed := by
  have hparties : parties ≠ [] := by
    rintro rfl
    have := h.threshold_pos
    simp at length
    omega
  have herror : r.error.isSome = false := by simpa [state] using h.error_iff
  have hfinished : r.finishedAt = none := by simpa [state, State.isTerminal] using h.finished_iff
  rw [dispatch_of_created state]
  exact {
    threshold_pos := h.threshold_pos
    threshold_le := h.threshold_le
    finished_iff := by simp [hfinished, State.isTerminal]
    error_iff := by simp [herror]
    dispatched_iff := by simp [hparties]
    quorum := fun _ => ⟨length, nodup⟩
    created := by
      intro h
      cases h
    dispatched := fun _ => rfl
    started_le_dispatched := by simpa using started
    started_le_finished := by simp [hfinished]
    dispatched_le_finished := by simp [hfinished] }

theorem WellFormed.finish (h : r.WellFormed) (active : r.state.isTerminal = false)
    {failure : Option Failure} (reached : failure = none → r.state = .dispatched)
    (started : r.startedAt ≤ now) (dispatched : ∀ d ∈ r.dispatchedAt, d ≤ now) :
    (r.finish now failure).WellFormed := by
  rw [finish_of_active active]
  exact {
    threshold_pos := h.threshold_pos
    threshold_le := h.threshold_le
    finished_iff := by cases failure <;> simp [State.isTerminal]
    error_iff := by cases failure <;> simp
    dispatched_iff := h.dispatched_iff
    quorum := h.quorum
    created := by cases failure <;> simp
    dispatched := by
      cases failure with
      | none => exact fun _ => h.dispatched (Or.inl (reached rfl))
      | some f => simp
    started_le_dispatched := h.started_le_dispatched
    started_le_finished := by simpa using started
    dispatched_le_finished := by simpa using dispatched }

end Record

end Conclave.Session

namespace Conclave.Coordinator

open Session (Record State)

theorem Turn.after_of_invalid {t : Turn} {s : SessionId} {draws : Draws}
    {request : Session.Request} {f : Failure} (event : t.event = .start s draws request)
    (invalid : request.validate = .error f) : t.after = t.before := by
  obtain ⟨-, after⟩ := Turn.of_start event
  cases started t.now s draws request t.before with
  | invalid _ _ result => rw [after, result]
  | unchosen _ valid => cases invalid.symm.trans valid
  | taken _ _ valid => cases invalid.symm.trans valid
  | launched _ _ _ valid => cases invalid.symm.trans valid

inductive Turn.Writes (s : SessionId) (t : Turn) : Prop
  | nothing (same : t.after.docket.get? s = t.before.docket.get? s)
  | creates (draws : Draws) (request : Session.Request) (event : t.event = .start s draws request)
      (valid : request.validate = .ok ())
      (record : t.after.docket.get? s = some (.fresh t.now s request))
  | refuses (draws : Draws) (request : Session.Request) (f : Failure)
      (event : t.event = .start s draws request) (valid : request.validate = .ok ())
      (record : t.after.docket.get? s = some ((Record.fresh t.now s request).finish t.now (some f)))
  | dispatches (held : Lease) (live : t.before.leases.get? s = some held)
      (waiting : held.acknowledged = false)
      (record : t.after.docket.get? s =
        (t.before.docket.get? s).map (Record.dispatch t.now held.parties))
  | finishes (held : Lease) (outcome : Except Failure CeremonyResult)
      (ending : t.ending = some (s, outcome)) (live : t.before.leases.get? s = some held)
      (record : t.after.docket.get? s =
        (t.before.docket.get? s).map (Record.finish t.now (failure? outcome)))
  | prunes (age : Duration) (r : Record) (event : t.event = .prune age)
      (found : t.before.docket.get? s = some r) (ended : r.state.isTerminal = true)
      (gone : t.after.docket.get? s = none)

theorem Turn.writes (t : Turn) (s : SessionId) : t.Writes s := by
  cases t.bears s with
  | nothing same => exact .nothing same
  | refuses draws request f event _ record =>
      cases valid : request.validate with
      | error f => exact .nothing (by rw [after_of_invalid event valid])
      | ok _ => exact .refuses draws request f event valid record
  | opens draws request given event _ _ record =>
      cases valid : request.validate with
      | error f => exact .nothing (by rw [after_of_invalid event valid])
      | ok _ => exact .creates draws request event valid record
  | acknowledges held _ live waiting record => exact .dispatches held live waiting record
  | concludes held outcome _ ending live record => exact .finishes held outcome ending live record
  | prunes age r event found ended gone => exact .prunes age r event found ended gone

section Records

variable {rule : List Turn → Turn → Prop} {config : Config} {registry : Registry}
  {past : List Turn} {c : Coordinator} {s : SessionId} {r : Record}

theorem Run.stems (run : Run rule (.new config registry) past c)
    (record : c.docket.get? s = some r) :
    ∃ u ∈ past, ∃ draws request, u.event = .start s draws request ∧
      request.validate = .ok () ∧ r.Stems u.now s request := by
  induction run generalizing r with
  | begin => cases record
  | @next past c run now event allowed ih =>
      have older : ∀ {old : Record}, c.docket.get? s = some old →
          ∃ u ∈ (⟨now, c, event⟩ : Turn) :: past, ∃ draws request,
            u.event = .start s draws request ∧ request.validate = .ok () ∧
              old.Stems u.now s request := by
        intro old hold
        obtain ⟨u, hu, draws, request, hevent, valid, stems⟩ := ih hold
        exact ⟨u, List.mem_cons_of_mem _ hu, draws, request, hevent, valid, stems⟩
      cases Turn.writes ⟨now, c, event⟩ s with
      | nothing same => exact older (same.symm.trans record)
      | creates draws request hevent valid after =>
          obtain rfl := Option.some.inj (after.symm.trans record)
          exact ⟨_, List.mem_cons_self, draws, request, hevent, valid, Record.stems_fresh⟩
      | refuses draws request f hevent valid after =>
          obtain rfl := Option.some.inj (after.symm.trans record)
          exact ⟨_, List.mem_cons_self, draws, request, hevent, valid,
            Record.stems_fresh.finish now _⟩
      | dispatches held _ _ after =>
          obtain ⟨old, hold, rfl⟩ := Option.map_eq_some_iff.1 (after.symm.trans record)
          obtain ⟨u, hu, draws, request, hevent, valid, stems⟩ := older hold
          exact ⟨u, hu, draws, request, hevent, valid, stems.dispatch now _⟩
      | finishes held _ _ _ after =>
          obtain ⟨old, hold, rfl⟩ := Option.map_eq_some_iff.1 (after.symm.trans record)
          obtain ⟨u, hu, draws, request, hevent, valid, stems⟩ := older hold
          exact ⟨u, hu, draws, request, hevent, valid, stems.finish now _⟩
      | prunes _ _ _ _ _ gone => cases gone.symm.trans record

theorem Run.started_of_record (run : Run rule (.new config registry) past c)
    (record : c.docket.get? s = some r) : ∃ u ∈ past, u.starts s = true := by
  obtain ⟨u, hu, draws, request, event, -⟩ := run.stems record
  exact ⟨u, hu, Turn.starts_of_event event⟩

theorem Run.unrecorded_of_start (run : Run rule (.new config registry) past c) {t : Turn}
    (fresh : Fresh past t) (starts : t.starts s = true) : c.docket.get? s = none := by
  cases record : c.docket.get? s with
  | none => rfl
  | some r =>
      obtain ⟨u, hu, started⟩ := run.started_of_record record
      rw [fresh.not_started starts hu] at started
      cases started

theorem Run.dispatchedAt_mem (run : Run rule (.new config registry) past c)
    (record : c.docket.get? s = some r) {d : Timestamp} (dispatched : d ∈ r.dispatchedAt) :
    ∃ u ∈ past, u.now = d := by
  induction run generalizing r with
  | begin => cases record
  | @next past c run now event allowed ih =>
      have older : ∀ {old : Record}, c.docket.get? s = some old → d ∈ old.dispatchedAt →
          ∃ u ∈ (⟨now, c, event⟩ : Turn) :: past, u.now = d := by
        intro old hold hd
        obtain ⟨u, hu, hnow⟩ := ih hold hd
        exact ⟨u, List.mem_cons_of_mem _ hu, hnow⟩
      cases Turn.writes ⟨now, c, event⟩ s with
      | nothing same => exact older (same.symm.trans record) dispatched
      | creates _ _ _ _ after =>
          obtain rfl := Option.some.inj (after.symm.trans record)
          cases dispatched
      | refuses _ _ _ _ _ after =>
          obtain rfl := Option.some.inj (after.symm.trans record)
          cases dispatched
      | dispatches held _ _ after =>
          obtain ⟨old, hold, rfl⟩ := Option.map_eq_some_iff.1 (after.symm.trans record)
          unfold Record.dispatch at dispatched
          split at dispatched
          · obtain rfl := Option.some.inj dispatched
            exact ⟨_, List.mem_cons_self, rfl⟩
          · exact older hold dispatched
      | finishes _ _ _ _ after =>
          obtain ⟨old, hold, rfl⟩ := Option.map_eq_some_iff.1 (after.symm.trans record)
          refine older hold ?_
          unfold Record.finish at dispatched
          split at dispatched
          · exact dispatched
          · exact dispatched
      | prunes _ _ _ _ _ gone => cases gone.symm.trans record

theorem Run.quorum (named : registry.Named) (fresh : ∀ past t, rule past t → Fresh past t)
    (run : Run rule (.new config registry) past c) {lease : Lease}
    (live : c.leases.get? s = some lease) (record : c.docket.get? s = some r) :
    lease.parties.length = r.threshold.toNat ∧ lease.parties.Nodup := by
  obtain ⟨t, ht, given, opens, continues⟩ := run.opened live
  obtain ⟨u, hu, _, request', event', _, stems⟩ := run.stems record
  obtain rfl : t = u :=
    run.start_unique fresh ht hu opens.starts (Turn.starts_of_event event')
  obtain ⟨later, earlier, rfl⟩ := List.append_of_mem ht
  obtain ⟨before, -, -⟩ := run.cut
  obtain ⟨_, _, _, event, selected, _⟩ := opens
  cases event.symm.trans event'
  rw [continues.parties, stems.threshold]
  exact ⟨Quorum.length_select selected, nodup_chosen (before.named named) selected⟩

theorem Run.tracks (fresh : ∀ past t, rule past t → Fresh past t)
    (run : Run rule (.new config registry) past c) {lease : Lease}
    (live : c.leases.get? s = some lease) (record : c.docket.get? s = some r) :
    Tracks s lease r := by
  obtain ⟨tracked, htracked, tracks⟩ := run.tracked fresh live
  obtain rfl : r = tracked := Option.some.inj (record.symm.trans htracked)
  exact tracks

theorem Tracks.created {lease : Lease} (tracks : Tracks s lease r)
    (waiting : lease.acknowledged = false) : r.state = .created := by
  rw [tracks.state, waiting]
  rfl

theorem Tracks.dispatched {lease : Lease} (tracks : Tracks s lease r) {t : Turn}
    {result : CeremonyResult} (live : t.before.leases.get? s = some lease)
    (ending : t.ending = some (s, .ok result)) : r.state = .dispatched := by
  obtain ⟨_, held, _, live', acknowledged, -⟩ := Turn.of_ending_ok ending
  obtain rfl : lease = held := Option.some.inj (live.symm.trans live')
  rw [tracks.state, acknowledged]
  rfl

theorem Run.wellFormed (named : registry.Named) (run : Run Timely (.new config registry) past c)
    (record : c.docket.get? s = some r) : r.WellFormed := by
  induction run generalizing r with
  | begin => cases record
  | @next past c run now event allowed ih =>
      have started : ∀ {old : Record}, c.docket.get? s = some old → old.startedAt ≤ now := by
        intro old hold
        obtain ⟨u, hu, _, _, _, _, stems⟩ := run.stems hold
        exact stems.startedAt ▸ run.now_le allowed hu
      have dispatched : ∀ {old : Record}, c.docket.get? s = some old →
          ∀ d ∈ old.dispatchedAt, d ≤ now := by
        intro old hold d hd
        obtain ⟨u, hu, rfl⟩ := run.dispatchedAt_mem hold hd
        exact run.now_le allowed hu
      cases Turn.writes ⟨now, c, event⟩ s with
      | nothing same => exact ih (same.symm.trans record)
      | creates draws request _ valid after =>
          obtain rfl := Option.some.inj (after.symm.trans record)
          exact Record.wellFormed_fresh now s valid
      | refuses draws request f _ valid after =>
          obtain rfl := Option.some.inj (after.symm.trans record)
          exact (Record.wellFormed_fresh now s valid).finish rfl nofun (le_refl now) nofun
      | dispatches held live waiting after =>
          obtain ⟨old, hold, rfl⟩ := Option.map_eq_some_iff.1 (after.symm.trans record)
          have hcreated := (run.tracks Timely.fresh live hold).created waiting
          obtain ⟨hlength, hnodup⟩ := run.quorum named Timely.fresh live hold
          exact (ih hold).dispatch hcreated hlength hnodup (started hold)
      | finishes held outcome ending live after =>
          obtain ⟨old, hold, rfl⟩ := Option.map_eq_some_iff.1 (after.symm.trans record)
          have tracks := run.tracks Timely.fresh live hold
          refine (ih hold).finish tracks.active (fun hnone => ?_) (started hold) (dispatched hold)
          cases outcome with
          | error f => cases hnone
          | ok result => exact tracks.dispatched live ending
      | prunes _ _ _ _ _ gone => cases gone.symm.trans record

inductive Turn.Revises (s : SessionId) (t : Turn) : Prop
  | keeps (same : t.after.docket.get? s = t.before.docket.get? s)
  | creates (request : Session.Request) (new : t.before.docket.get? s = none)
      (record : t.after.docket.get? s = some (.fresh t.now s request))
  | refuses (request : Session.Request) (f : Failure) (new : t.before.docket.get? s = none)
      (record : t.after.docket.get? s = some ((Record.fresh t.now s request).finish t.now (some f)))
  | moves (old new : Record) (before : t.before.docket.get? s = some old)
      (after : t.after.docket.get? s = some new) (moves : State.Moves old.state new.state)
  | prunes (age : Duration) (r : Record) (event : t.event = .prune age)
      (before : t.before.docket.get? s = some r) (ended : r.state.isTerminal = true)
      (after : t.after.docket.get? s = none)

theorem Run.revises {t : Turn} (run : Run rule (.new config registry) past t.before)
    (fresh : ∀ past t, rule past t → Fresh past t) (allowed : rule past t) (s : SessionId) :
    t.Revises s := by
  have new : t.starts s = true → t.before.docket.get? s = none :=
    run.unrecorded_of_start (fresh _ _ allowed)
  cases t.writes s with
  | nothing same => exact .keeps same
  | creates draws request event _ record =>
      exact .creates request (new (Turn.starts_of_event event)) record
  | refuses draws request f event _ record =>
      exact .refuses request f (new (Turn.starts_of_event event)) record
  | dispatches held live waiting record =>
      obtain ⟨old, hold, tracks⟩ := run.tracked fresh live
      rw [hold, Option.map_some, Record.dispatch_of_created (tracks.created waiting)] at record
      refine .moves old _ hold record ?_
      rw [tracks.created waiting]
      exact .dispatch
  | finishes held outcome ending live record =>
      obtain ⟨old, hold, tracks⟩ := run.tracked fresh live
      rw [hold, Option.map_some, Record.finish_of_active tracks.active] at record
      refine .moves old _ hold record ?_
      cases outcome with
      | ok result =>
          rw [tracks.dispatched live ending]
          exact .complete
      | error f =>
          rw [tracks.state]
          cases held.acknowledged with
          | true => exact .fail
          | false => exact .refuse
  | prunes age r event found ended gone => exact .prunes age r event found ended gone

end Records

theorem records_well_formed {config : Config} {ops : List (Timestamp × Registry.Operation)}
    {past : List Turn} {c : Coordinator}
    (run : Run Timely (.new config (Registry.empty.after ops)) past c) :
    (∀ t ∈ past, ∀ s, t.Revises s) ∧
    (∀ later t earlier, past = later ++ t :: earlier → ∀ s r, t.after.docket.get? s = some r →
      r.state.isTerminal = true → c.docket.get? s = some r ∨
        ∃ v ∈ later, (∃ age, v.event = .prune age) ∧ v.before.docket.get? s = some r ∧
          v.after.docket.get? s = none) ∧
    (∀ s r, c.docket.get? s = some r → r.WellFormed) := by
  refine ⟨?_, ?_, ?_⟩
  · intro t ht s
    obtain ⟨later, earlier, rfl⟩ := List.append_of_mem ht
    obtain ⟨before, allowed, -⟩ := run.cut
    exact before.revises Timely.fresh allowed s
  · rintro later t earlier rfl s r record ended
    obtain ⟨-, -, after⟩ := run.cut
    obtain ⟨u, hu, started⟩ := after.started_of_record record
    exact run.kept Timely.fresh record ended hu started
  · intro s r record
    exact run.wellFormed (Registry.named_after Registry.named_empty) record

def fourStatesEvents : List (Timestamp × Event) :=
  [(⟨7, 0⟩, .attend ⟨"S1"⟩ false),
    (⟨6, 0⟩, .start ⟨"S4"⟩ (fun _ => 0) (.keygen "alice" 3 2)),
    (⟨6, 0⟩, .start ⟨"S3"⟩ (fun _ => 0) (.keygen "alice" 1 1)),
    (⟨5, 0⟩, .answer ⟨"S2"⟩ (.ack ⟨⟨"S2"⟩, true, none⟩)),
    (⟨4, 0⟩, .start ⟨"S2"⟩ (fun _ => 0) (.keygen "alice" 1 1)),
    (⟨3, 0⟩, .deliver (.publish ⟨"S1"⟩ (.keygen "c2hhcmU=" "0xabc"))),
    (⟨2, 0⟩, .answer ⟨"S1"⟩ (.ack ⟨⟨"S1"⟩, true, none⟩)),
    (⟨1, 0⟩, .start ⟨"S1"⟩ (fun _ => 0) (.keygen "alice" 1 1))]

def fourStatesRun : List Turn × Coordinator := replay oneNode fourStatesEvents

theorem records_well_formed_four_states :
    Admits Timely oneNode fourStatesEvents ∧
      (∀ s r, fourStatesRun.2.docket.get? s = some r → r.WellFormed) ∧
      fourStatesRun.2.docket.records.values.map Record.state =
        [.completed, .dispatched, .created, .failed] := by
  have timely : Admits Timely oneNode fourStatesEvents := by decide +kernel
  exact ⟨timely, (records_well_formed (run_replay timely)).2.2, by decide +kernel⟩

end Conclave.Coordinator

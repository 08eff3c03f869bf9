import Conclave.Client
import Conclave.Proofs.Ending
import Conclave.Proofs.Results
import Mathlib.Control.Monad.Basic

namespace Conclave.Coordinator

def Turn.finished (s : SessionId) (outcome : Except Failure CeremonyResult) (t : Turn) :
    Except Failure Finished :=
  outcome.map fun result =>
    ⟨s, ((t.before.leases.get? s).map Lease.parties).getD [], result⟩

def Agrees (r : Session.Record) : Except Failure CeremonyResult → Prop
  | .ok result => r.state = .completed ∧ r.error = none ∧ result.matches r.action = true
  | .error f => r.state = .failed ∧ r.error = some f.message

structure Tracks (s : SessionId) (lease : Lease) (r : Session.Record) : Prop where
  session : r.session = s
  action : r.action = lease.action
  state : r.state = if lease.acknowledged then .dispatched else .created
  parties : r.parties = if lease.acknowledged then lease.parties else []
  error : r.error = none

theorem Tracks.active {s : SessionId} {lease : Lease} {r : Session.Record}
    (h : Tracks s lease r) : r.state.isTerminal = false := by
  rw [h.state]
  cases lease.acknowledged <;> rfl

section Agreement

variable {rule : List Turn → Turn → Prop} {config : Config} {registry : Registry}
  {past : List Turn} {c : Coordinator}

theorem Run.tracked (fresh : ∀ past t, rule past t → Fresh past t)
    (run : Run rule (.new config registry) past c) {s : SessionId} {lease : Lease}
    (live : c.leases.get? s = some lease) :
    ∃ r, c.docket.get? s = some r ∧ Tracks s lease r := by
  induction run generalizing lease with
  | begin => cases live
  | @next past c run now event allowed ih =>
      cases Turn.bears ⟨now, c, event⟩ s with
      | nothing record same =>
          rw [same] at live
          rw [record]
          exact ih live
      | refuses draws request f hevent _ _ same =>
          rw [same] at live
          have hgone := run.gone_of_start (fresh _ _ allowed) (Turn.starts_of_event hevent)
          cases hgone.symm.trans live
      | opens draws request given _ action waiting record given_after =>
          obtain rfl : given = lease := Option.some.inj (given_after.symm.trans live)
          exact ⟨_, record, rfl, action.symm, by simp [waiting, Session.Record.fresh],
            by simp [waiting, Session.Record.fresh], rfl⟩
      | acknowledges held _ before waiting record held_after =>
          obtain rfl : { held with acknowledged := true } = lease :=
            Option.some.inj (held_after.symm.trans live)
          obtain ⟨r, hr, tracked⟩ := ih before
          have hcreated : r.state = .created := by simp [tracked.state, waiting]
          refine ⟨r.dispatch now held.parties, ?_, ?_⟩
          · rw [record, hr]
            rfl
          · rw [Session.Record.dispatch, if_pos hcreated]
            exact ⟨tracked.session, tracked.action, rfl, rfl, tracked.error⟩
      | concludes _ _ _ _ _ _ gone =>
          rw [gone] at live
          cases live
      | prunes _ r _ found ended _ same =>
          rw [same] at live
          obtain ⟨r', hr', tracked⟩ := ih live
          obtain rfl : r = r' := Option.some.inj (found.symm.trans hr')
          rw [tracked.active] at ended
          cases ended

theorem Run.kept (fresh : ∀ past t, rule past t → Fresh past t) {later earlier : List Turn}
    {t : Turn} (run : Run rule (.new config registry) (later ++ t :: earlier) c) {s : SessionId}
    {r : Session.Record} (record : t.after.docket.get? s = some r)
    (ended : r.state.isTerminal = true) {u : Turn} (hu : u ∈ t :: earlier)
    (started : u.starts s = true) :
    c.docket.get? s = some r ∨ ∃ v ∈ later, (∃ age, v.event = .prune age) ∧
      v.before.docket.get? s = some r ∧ v.after.docket.get? s = none := by
  induction later generalizing c with
  | nil =>
      cases run with
      | next run now event allowed => exact Or.inl record
  | cons v later ih =>
      cases run with
      | next run now event allowed =>
          rcases ih run with hr | ⟨w, hw, hpruned⟩
          · have hfresh := fresh _ _ allowed
            have hold : u ∈ later ++ t :: earlier := List.mem_append_right _ hu
            cases Turn.bears ⟨now, _, event⟩ s with
            | nothing same => exact Or.inl (same.trans hr)
            | refuses _ _ _ hevent =>
                rw [hfresh.not_started (Turn.starts_of_event hevent) hold] at started
                cases started
            | opens _ _ _ hevent =>
                rw [hfresh.not_started (Turn.starts_of_event hevent) hold] at started
                cases started
            | acknowledges held _ _ _ after =>
                refine Or.inl ?_
                rw [after, hr, Option.map_some, Session.Record.dispatch_of_terminal ended]
            | concludes _ _ _ _ _ after =>
                refine Or.inl ?_
                rw [after, hr, Option.map_some, Session.Record.finish_of_terminal ended]
            | prunes age r' hevent found _ gone =>
                exact Or.inr ⟨_, List.mem_cons_self, ⟨age, hevent⟩, hr, gone⟩
          · exact Or.inr ⟨w, List.mem_cons_of_mem _ hw, hpruned⟩

theorem Run.agrees (fresh : ∀ past t, rule past t → Fresh past t) {t : Turn}
    (run : Run rule (.new config registry) past t.before) {s : SessionId}
    {outcome : Except Failure CeremonyResult} (h : t.ending = some (s, outcome)) :
    ∃ r, t.after.docket.get? s = some r ∧ r.session = s ∧ Agrees r outcome ∧
      ∀ result, outcome = .ok result →
        t.finished s outcome = .ok ⟨r.session, r.parties, result⟩ ∧
          Published s result past := by
  rcases Turn.of_ending h with ⟨draws, request, f, event, rfl, record⟩ | ⟨held, live, record⟩
  · exact ⟨_, record, rfl, ⟨rfl, rfl⟩, fun _ hok => by cases hok⟩
  · obtain ⟨r, hr, tracked⟩ := run.tracked fresh live
    rw [hr, Option.map_some, Session.Record.finish_of_active tracked.active] at record
    refine ⟨_, record, tracked.session, ?_, ?_⟩
    · cases outcome with
      | error f => exact ⟨rfl, rfl⟩
      | ok result =>
          obtain ⟨_, lease, _, live', _, _, hmatches⟩ := Turn.of_ending_ok h
          obtain rfl : held = lease := Option.some.inj (live.symm.trans live')
          exact ⟨rfl, rfl, tracked.action ▸ hmatches⟩
    · rintro result rfl
      obtain ⟨_, lease, _, live', acknowledged, received, _⟩ := Turn.of_ending_ok h
      obtain rfl : held = lease := Option.some.inj (live.symm.trans live')
      have hparties : r.parties = held.parties := by simp [tracked.parties, acknowledged]
      have hsession : r.session = s := tracked.session
      refine ⟨?_, ?_⟩
      · simp [Turn.finished, Except.map, live, hparties, hsession]
      · obtain ⟨ch, hch, hbuffer⟩ := Bus.receive_result.1 received
        exact (run.owned live).2 ch hch ▸ run.sourced hch hbuffer

theorem Run.fits (fresh : ∀ past t, rule past t → Fresh past t) {t : Turn}
    (run : Run rule (.new config registry) past t.before) {s : SessionId}
    {result : CeremonyResult} (h : t.ending = some (s, .ok result)) {u : Turn}
    (hu : u ∈ t :: past) {draws : Draws} {request : Session.Request}
    (event : u.event = .start s draws request) : result.matches request.action = true := by
  obtain ⟨_, lease, attends, live, -, -, hmatches⟩ := Turn.of_ending_ok h
  have hpast : u ∈ past := by
    rcases List.mem_cons.1 hu with rfl | hpast
    · cases event.symm.trans attends
    · exact hpast
  exact run.action_of_start fresh live hpast event ▸ hmatches

theorem Run.ended_started {t : Turn} (run : Run rule (.new config registry) past t.before)
    {s : SessionId} {outcome : Except Failure CeremonyResult}
    (h : t.ending = some (s, outcome)) : ∃ u ∈ t :: past, u.starts s = true := by
  rcases Turn.of_ending h with ⟨draws, request, f, event, -⟩ | ⟨held, live, -⟩
  · exact ⟨t, List.mem_cons_self, Turn.starts_of_event event⟩
  · obtain ⟨u, hu, started⟩ := run.started live
    exact ⟨u, List.mem_cons_of_mem _ hu, started⟩

end Agreement

theorem caller_agrees_with_record {config : Config} {registry : Registry} {past : List Turn}
    {c : Coordinator} (run : Run Fresh (.new config registry) past c) :
    (∀ later t earlier, past = later ++ t :: earlier → ∀ s outcome, t.ending = some (s, outcome) →
      ∃ r, t.after.docket.get? s = some r ∧ r.session = s ∧ Agrees r outcome ∧
        (c.docket.get? s = some r ∨ ∃ v ∈ later, (∃ age, v.event = .prune age) ∧
          v.before.docket.get? s = some r ∧ v.after.docket.get? s = none) ∧
        (∀ u ∈ t :: earlier, ∀ draws identity total threshold,
          u.event = .start s draws (.keygen identity total threshold) →
          (∃ shareData address, outcome = .ok (.keygen shareData address) ∧
            (t.finished s outcome >>= Finished.wallet) =
              .ok ⟨r.session, r.parties, shareData, Text.lower address⟩ ∧
            Published s (.keygen shareData address) earlier) ∨
          ∃ f, outcome = .error f ∧ (t.finished s outcome >>= Finished.wallet) = .error f) ∧
        (∀ u ∈ t :: earlier, ∀ draws message share total threshold,
          u.event = .start s draws (.sign message share total threshold) →
          (∃ bytes recoveryId, outcome = .ok (.signature bytes recoveryId) ∧
            (t.finished s outcome >>= Finished.signature) =
              .ok ⟨r.session, r.parties, bytes, recoveryId⟩ ∧
            Published s (.signature bytes recoveryId) earlier) ∨
          ∃ f, outcome = .error f ∧ (t.finished s outcome >>= Finished.signature) = .error f)) ∧
    (∀ t ∈ past, ∀ s, t.event = .cancel s → t.before.leases.contains s = true →
      t.ending = some (s, .error (.cancelled s))) ∧
    (∀ t ∈ past, ∀ s draws request f, t.event = .start s draws request →
      t.answer = .started (.error f) → t.ending = some (s, .error f) ∨ t.after = t.before) := by
  have fresh : ∀ past t, Fresh past t → Fresh past t := fun _ _ h => h
  refine ⟨?_, ?_, ?_⟩
  · rintro later t earlier rfl s outcome h
    obtain ⟨before, -, -⟩ := run.cut
    obtain ⟨r, hr, hsession, hagrees, hresult⟩ := before.agrees fresh h
    refine ⟨r, hr, hsession, hagrees, ?_, ?_, ?_⟩
    · obtain ⟨u, hu, started⟩ := before.ended_started h
      refine run.kept fresh hr ?_ hu started
      cases outcome with
      | ok result => rw [hagrees.1]; rfl
      | error f => rw [hagrees.1]; rfl
    · intro u hu draws identity total threshold event
      cases outcome with
      | error f => exact Or.inr ⟨f, rfl, rfl⟩
      | ok result =>
          obtain ⟨hfinished, hpublished⟩ := hresult result rfl
          have hfits := before.fits fresh h hu event
          cases result with
          | signature bytes recoveryId => cases hfits
          | keygen shareData address =>
              exact Or.inl ⟨shareData, address, rfl, by rw [hfinished]; rfl, hpublished⟩
    · intro u hu draws message share total threshold event
      cases outcome with
      | error f => exact Or.inr ⟨f, rfl, rfl⟩
      | ok result =>
          obtain ⟨hfinished, hpublished⟩ := hresult result rfl
          have hfits := before.fits fresh h hu event
          cases result with
          | keygen shareData address => cases hfits
          | signature bytes recoveryId =>
              exact Or.inl ⟨bytes, recoveryId, rfl, by rw [hfinished]; rfl, hpublished⟩
  · intro t _ s event live
    rw [Turn.ending_cancel event, if_pos live]
  · intro t _ s draws request f event answer
    exact Turn.of_start_error event answer

def walletEvents : List (Timestamp × Event) :=
  [(⟨4, 0⟩, .attend ⟨"S1"⟩ true),
    (⟨3, 0⟩, .deliver (.publish ⟨"S1"⟩ (.keygen "c2hhcmU=" "0xABC"))),
    (⟨2, 0⟩, .answer ⟨"S1"⟩ (.ack ⟨⟨"S1"⟩, true, none⟩)),
    (⟨1, 0⟩, .start ⟨"S1"⟩ (fun _ => 0) (.keygen "alice" 1 1))]

def walletWait : Turn := ⟨⟨4, 0⟩, (replay oneNode walletEvents.tail).2, .attend ⟨"S1"⟩ true⟩

theorem caller_agrees_with_record_wallet :
    Admits Fresh oneNode walletEvents ∧
      walletWait.ending = some (⟨"S1"⟩, .ok (.keygen "c2hhcmU=" "0xABC")) ∧
      ∃ r, (replay oneNode walletEvents).2.docket.get? ⟨"S1"⟩ = some r ∧
        Agrees r (.ok (.keygen "c2hhcmU=" "0xABC")) := by
  have fresh : Admits Fresh oneNode walletEvents := by decide +kernel
  have ended : walletWait.ending = some (⟨"S1"⟩, .ok (.keygen "c2hhcmU=" "0xABC")) := by
    decide +kernel
  obtain ⟨r, hr, -, hagrees, -⟩ := (caller_agrees_with_record (run_replay fresh)).1 []
    walletWait (replay oneNode walletEvents.tail).1 rfl ⟨"S1"⟩ _ ended
  exact ⟨fresh, ended, r, hr, hagrees⟩

end Conclave.Coordinator

import Conclave.Proofs.Agreement
import Conclave.Proofs.Rewording

namespace Conclave

namespace Coordinator.Turn

def told? (t : Turn) : Option (SessionId × Except Failure Finished) :=
  match t.event, t.ending with
  | .answer _ _, some (s, outcome) => some (s, t.finished s outcome)
  | .attend _ _, some (s, outcome) => some (s, t.finished s outcome)
  | _, _ => none

theorem told_congr {t t' : Turn} (now : t'.now = t.now) (same : t'.before.hush = t.before.hush)
    (event : t'.event = t.event) : t'.told? = t.told? := by
  have ending := ending_congr event (answer_congr now same event)
  have leases : t'.before.leases = t.before.leases := congrArg (fun c => c.leases) same
  have finished : ∀ s outcome, t'.finished s outcome = t.finished s outcome := by
    intro s outcome
    rw [Turn.finished, Turn.finished, leases]
  unfold told?
  rw [event, ending]
  simp only [finished]

theorem told_of_withheld {t : Turn} {s : SessionId} {f : Failure} (withheld : f.isWithheld = true)
    (event : t.event = .answer s (.failed f)) :
    t.told? = if t.before.awaits s then some (s, .error (.dispatchFailed f.message)) else none := by
  unfold told?
  rw [event, ending_of_withheld withheld event]
  cases t.before.awaits s <;> rfl

end Coordinator.Turn

variable {κ : Type}

structure Ended (κ : Type) where
  session : SessionId
  call : κ
  outcome : Except Failure Finished

structure Ceremonies (κ : Type) where
  coordinator : Coordinator
  running : Keyed SessionId κ

namespace Ceremonies

inductive Act (κ : Type) where
  | call (s : SessionId) (draws : Draws) (request : Session.Request) (k : κ)
  | turn (event : Coordinator.Event)

def Act.event : Act κ → Coordinator.Event
  | .call s draws request _ => .start s draws request
  | .turn event => event

def Act.comes? : Act κ → Option (SessionId × κ)
  | .call s _ _ k => some (s, k)
  | .turn _ => none

def enter (now : Timestamp) (s : SessionId) (draws : Draws) (request : Session.Request) (k : κ)
    (σ : Ceremonies κ) : Option (Ended κ) × Ceremonies κ :=
  match σ.coordinator.start now s draws request with
  | (.error f, c) => (some ⟨s, k, .error f⟩, ⟨c, σ.running⟩)
  | (.ok _, c) => (none, ⟨c, σ.running.insert s k⟩)

def turn (now : Timestamp) (event : Coordinator.Event) (σ : Ceremonies κ) :
    Option (Ended κ) × Ceremonies κ :=
  let t : Coordinator.Turn := ⟨now, σ.coordinator, event⟩
  match t.told? with
  | some (s, outcome) =>
      ((σ.running.get? s).map fun k => ⟨s, k, outcome⟩, ⟨t.after, σ.running.erase s⟩)
  | none =>
      match event with
      | .cancel s => (none, ⟨t.after, σ.running.erase s⟩)
      | _ => (none, ⟨t.after, σ.running⟩)

def step (now : Timestamp) (σ : Ceremonies κ) : Act κ → Option (Ended κ) × Ceremonies κ
  | .call s draws request k => σ.enter now s draws request k
  | .turn event => σ.turn now event

theorem coordinator_step (now : Timestamp) (σ : Ceremonies κ) (act : Act κ) :
    (σ.step now act).2.coordinator = (Coordinator.Turn.mk now σ.coordinator act.event).after := by
  cases act with
  | call s draws request k =>
      have after := (Coordinator.Turn.of_start
        (t := ⟨now, σ.coordinator, .start s draws request⟩) rfl).2
      rw [Act.event, after, step, enter]
      split
      · rename_i f c started
        rw [started]
      · rename_i notice c started
        rw [started]
  | turn event =>
      simp only [step, turn]
      split
      · rfl
      · split <;> rfl

theorem subperm_step (now : Timestamp) (σ : Ceremonies κ) (act : Act κ) :
    (((σ.step now act).1.toList.map fun e => (e.session, e.call)) ++
      (σ.step now act).2.running.entries).Subperm (σ.running.entries ++ act.comes?.toList) := by
  have kept : ∀ running : Keyed SessionId κ, running.entries.Sublist σ.running.entries →
      running.entries.Subperm (σ.running.entries ++ []) := by
    intro running sublist
    rw [List.append_nil]
    exact sublist.subperm
  cases act with
  | call s draws request k =>
      have comes : ([(s, k)] ++ σ.running.entries).Subperm (σ.running.entries ++ [(s, k)]) :=
        List.perm_append_comm.subperm
      simp only [step, enter]
      split
      · exact comes
      · refine (σ.running.perm_entries_insert s k).subperm.trans ?_
        exact ((List.subperm_cons _).2 List.filter_sublist.subperm).trans comes
  | turn event =>
      simp only [step, turn]
      split
      · rename_i s outcome _
        cases runs : σ.running.get? s with
        | none => exact kept _ List.filter_sublist
        | some k => exact (Keyed.perm_entries_erase runs).subperm.trans (kept _ (List.Sublist.refl _))
      · split
        · exact kept _ List.filter_sublist
        · exact kept _ (List.Sublist.refl _)

structure Alike (σ σ' : Ceremonies κ) : Prop where
  coordinator : σ'.coordinator.hush = σ.coordinator.hush
  running : σ'.running = σ.running

variable {σ σ' : Ceremonies κ}

theorem Alike.step (alike : Alike σ σ') (now : Timestamp) (act : Act κ) :
    (σ'.step now act).1 = (σ.step now act).1 ∧ Alike (σ.step now act).2 (σ'.step now act).2 := by
  cases act with
  | call s draws request k =>
      obtain ⟨answer, after⟩ := Coordinator.start_congr alike.coordinator now s draws request
      simp only [Ceremonies.step, enter, alike.running]
      generalize σ.coordinator.start now s draws request = started at answer after
      generalize σ'.coordinator.start now s draws request = started' at answer after
      obtain ⟨result, c⟩ := started
      obtain ⟨result', c'⟩ := started'
      obtain rfl : result' = result := answer
      cases result' with
      | error f => exact ⟨rfl, after, rfl⟩
      | ok notice => exact ⟨rfl, after, rfl⟩
  | turn event =>
      have after := Coordinator.hush_reworded alike.coordinator (.same event) now
      have told : (Coordinator.Turn.mk now σ'.coordinator event).told? =
          (Coordinator.Turn.mk now σ.coordinator event).told? :=
        Coordinator.Turn.told_congr rfl alike.coordinator rfl
      simp only [Ceremonies.step, turn, told, alike.running]
      split
      · exact ⟨rfl, after, rfl⟩
      · split
        · exact ⟨rfl, after, rfl⟩
        · exact ⟨rfl, after, rfl⟩

def answered? (s : SessionId) (σ : Ceremonies κ) : Option κ :=
  if σ.coordinator.awaits s then σ.running.get? s else none

theorem step_withheld (σ : Ceremonies κ) (now : Timestamp) (s : SessionId) {f : Failure}
    (withheld : f.isWithheld = true) :
    (σ.step now (.turn (.answer s (.failed f)))).1 =
        (σ.answered? s).map (fun k => ⟨s, k, .error (.dispatchFailed f.message)⟩) ∧
      (σ.step now (.turn (.answer s (.failed f)))).2.running =
        if σ.coordinator.awaits s then σ.running.erase s else σ.running := by
  have told := Coordinator.Turn.told_of_withheld
    (t := ⟨now, σ.coordinator, .answer s (.failed f)⟩) withheld rfl
  simp only [step, turn, told, answered?]
  cases σ.coordinator.awaits s <;> exact ⟨rfl, rfl⟩

theorem Alike.awaits (alike : Alike σ σ') (s : SessionId) :
    σ'.coordinator.awaits s = σ.coordinator.awaits s := by
  rw [← Coordinator.awaits_hush, alike.coordinator, Coordinator.awaits_hush]

theorem Alike.answered (alike : Alike σ σ') (s : SessionId) : σ'.answered? s = σ.answered? s := by
  rw [answered?, alike.awaits, alike.running, answered?]

theorem Alike.step_failed (alike : Alike σ σ') (now : Timestamp) (s : SessionId) {f f' : Failure}
    (reworded : f.Reworded f') :
    Alike (σ.step now (.turn (.answer s (.failed f)))).2
      (σ'.step now (.turn (.answer s (.failed f')))).2 := by
  obtain ⟨withheld, withheld'⟩ := reworded.isWithheld
  constructor
  · rw [coordinator_step, coordinator_step]
    exact Coordinator.hush_reworded alike.coordinator (.answer s reworded) now
  · rw [(σ.step_withheld now s withheld).2, (σ'.step_withheld now s withheld').2, alike.awaits,
      alike.running]

end Ceremonies

end Conclave

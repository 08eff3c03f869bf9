import Conclave.Proofs.Retiming
import Conclave.Proofs.Run

namespace Conclave

namespace Keyed

variable {κ ν μ : Type}

def mapValues (f : ν → μ) (m : Keyed κ ν) : Keyed κ μ :=
  ⟨m.entries.map fun e => (e.1, f e.2), by rw [List.map_map]; exact m.distinct⟩

theorem keys_mapValues (f : ν → μ) (m : Keyed κ ν) : (m.mapValues f).keys = m.keys := by
  rw [keys, mapValues, List.map_map, keys]
  rfl

theorem values_mapValues (f : ν → μ) (m : Keyed κ ν) : (m.mapValues f).values = m.values.map f := by
  rw [values, mapValues, List.map_map, values, List.map_map]
  rfl

theorem mapValues_filter {f : ν → μ} {p : κ × ν → Bool} {p' : κ × μ → Bool}
    (h : ∀ k v, p' (k, f v) = p (k, v)) (m : Keyed κ ν) :
    (m.filter p).mapValues f = (m.mapValues f).filter p' := by
  apply eq_of_entries
  change (m.entries.filter p).map (fun e => (e.1, f e.2)) =
    (m.entries.map fun e => (e.1, f e.2)).filter p'
  rw [List.filter_map]
  exact congrArg _ (List.filter_congr fun e _ => (h e.1 e.2).symm)

variable [DecidableEq κ]

theorem get?_mapValues (f : ν → μ) (m : Keyed κ ν) (k : κ) :
    (m.mapValues f).get? k = (m.get? k).map f := by
  have h : ∀ l : List (κ × ν), lookup k (l.map fun e => (e.1, f e.2)) = (lookup k l).map f := by
    intro l
    induction l with
    | nil => rfl
    | cons e rest ih =>
        rw [List.map_cons, lookup, lookup, ih]
        split <;> rfl
  exact h m.entries

theorem mapValues_insert (f : ν → μ) (m : Keyed κ ν) (k : κ) (v : ν) :
    (m.insert k v).mapValues f = (m.mapValues f).insert k (f v) := by
  refine eq_of_get? ?_ fun j => ?_
  · rw [keys_mapValues, keys_insert, keys_insert, keys_mapValues, get?_mapValues, Option.isSome_map]
  · rw [get?_mapValues, get?_insert, get?_insert, get?_mapValues]
    split <;> rfl

theorem mapValues_modify {f : ν → μ} {g : ν → ν} {g' : μ → μ} (h : ∀ v, f (g v) = g' (f v))
    (m : Keyed κ ν) (k : κ) : (m.modify k g).mapValues f = (m.mapValues f).modify k g' := by
  refine eq_of_get? ?_ fun j => ?_
  · rw [keys_mapValues, keys_modify, keys_modify, keys_mapValues]
  · simp only [get?_mapValues, get?_modify]
    split
    · rw [Option.map_map, Option.map_map]
      exact congrArg (fun u => (m.get? _).map u) (funext h)
    · rfl

end Keyed

namespace Session

def Record.hush (r : Record) : Record := { r with error := none }

namespace Docket

def hush (d : Docket) : Docket := ⟨d.records.mapValues Record.hush⟩

variable {now : Timestamp} {s : SessionId} {d : Docket}

theorem get?_hush (d : Docket) (s : SessionId) : d.hush.get? s = (d.get? s).map Record.hush :=
  Keyed.get?_mapValues _ _ _

theorem hush_create (request : Request) :
    (d.create now s request).hush = d.hush.create now s request :=
  congrArg Docket.mk (Keyed.mapValues_insert _ _ _ _)

theorem hush_markDispatched (parties : List NodeId) :
    (d.markDispatched now s parties).hush = d.hush.markDispatched now s parties := by
  refine congrArg Docket.mk (Keyed.mapValues_modify (fun r => ?_) _ _)
  by_cases h : r.state = .created <;> simp [Record.dispatch, Record.hush, h]

theorem hush_finish {failure failure' : Option Failure} (same : failure'.isSome = failure.isSome) :
    (d.hush.finish now s failure').hush = (d.finish now s failure).hush := by
  refine congrArg Docket.mk ?_
  have hhush : ∀ r : Record, (r.finish now failure).hush = (r.hush.finish now failure').hush := by
    intro r
    by_cases h : r.state.isTerminal <;> simp [Record.finish, Record.hush, same, h]
  refine Keyed.eq_of_get? ?_ fun j => ?_
  · simp only [Keyed.keys_mapValues, Keyed.keys_modify, hush, finish]
  · simp only [hush, finish, Keyed.get?_mapValues, Keyed.get?_modify]
    split
    · rw [Option.map_map, Option.map_map, Option.map_map]
      exact congrArg (fun u => (d.records.get? _).map u) (funext fun r => (hhush r).symm)
    · rw [Option.map_map]
      rfl

theorem hush_hush (d : Docket) : d.hush.hush = d.hush := by
  refine congrArg Docket.mk (Keyed.eq_of_entries ?_)
  simp only [hush, Keyed.mapValues, List.map_map]
  rfl

theorem hush_prune {age : Duration} :
    d.hush.prune now age = (d.prune now age).map fun kept => (kept.1, kept.2.hush) := by
  have hremoved : ∀ t, d.hush.removeExpired t = (d.removeExpired t).hush := fun t =>
    congrArg Docket.mk (Keyed.mapValues_filter (f := Record.hush) (fun _ _ => rfl) d.records).symm
  have hsize : ∀ d : Docket, d.hush.records.size = d.records.size := fun d => List.length_map _
  rw [prune, prune]
  cases cutoff now age with
  | error f => rfl
  | ok t =>
      cases t with
      | none => rfl
      | some t => simp only [Except.map, hremoved, hsize]

theorem activeCount_hush (d : Docket) : d.hush.activeCount = d.activeCount := by
  rw [activeCount, hush, Keyed.values_mapValues, List.countP_map]
  rfl

theorem list_hush (d : Docket) : d.hush.list = d.list.map Record.hush := by
  rw [list, hush, Keyed.values_mapValues, ← List.map_reverse]
  exact (List.map_mergeSort (f := Record.hush) fun a _ b _ => rfl).symm

end Docket

end Session

namespace Coordinator

def hush (c : Coordinator) : Coordinator := { c with docket := c.docket.hush }

variable {now : Timestamp} {s : SessionId} {c : Coordinator}

theorem hush_conclude {failure failure' : Option Failure} (same : failure'.isSome = failure.isSome) :
    (c.hush.conclude now s failure').hush = (c.conclude now s failure).hush := by
  simp only [conclude, hush]
  cases c.leases.get? s with
  | none => simp only [Session.Docket.hush_hush]
  | some lease => simp only [Session.Docket.hush_finish same]

theorem hush_hush (c : Coordinator) : c.hush.hush = c.hush := by
  simp only [hush, Session.Docket.hush_hush]

theorem hush_start (now : Timestamp) (s : SessionId) (draws : Draws) (request : Session.Request)
    (c : Coordinator) :
    (c.hush.start now s draws request).1 = (c.start now s draws request).1 ∧
      (c.hush.start now s draws request).2.hush = (c.start now s draws request).2.hush := by
  have refused : ∀ f, (c.hush.refuse now s request f).hush = (c.refuse now s request f).hush := by
    intro f
    simp only [refuse, hush, ← Session.Docket.hush_create, Session.Docket.hush_finish rfl]
  cases started now s draws request c with
  | invalid f invalid result =>
      have result' : c.hush.start now s draws request = (.error f, c.hush) := by
        simp only [start, invalid]
      rw [result, result']
      exact ⟨rfl, hush_hush c⟩
  | unchosen f valid unchosen result =>
      have result' : c.hush.start now s draws request = (.error f, c.hush.refuse now s request f) := by
        have unchosen' : c.hush.chosen s draws request = .error f := unchosen
        simp only [start, valid, unchosen', refuse]
      rw [result, result']
      exact ⟨rfl, refused f⟩
  | taken f parties valid selected taken result =>
      have result' : c.hush.start now s draws request = (.error f, c.hush.refuse now s request f) := by
        have selected' : c.hush.chosen s draws request = .ok parties := selected
        have taken' : c.hush.bus.subscribe s = .error f := taken
        simp only [start, valid, selected', taken', refuse]
      rw [result, result']
      exact ⟨rfl, refused f⟩
  | launched parties channel bus valid selected subscribed result =>
      have result' : c.hush.start now s draws request =
          (.ok (request.notice s parties), c.hush.launch now s request parties channel bus) := by
        have selected' : c.hush.chosen s draws request = .ok parties := selected
        have subscribed' : c.hush.bus.subscribe s = .ok (channel, bus) := subscribed
        simp only [start, valid, selected', subscribed', launch]
      rw [result, result']
      simp only [launch, hush, ← Session.Docket.hush_create, Session.Docket.hush_hush, and_self]

theorem hush_attend (now : Timestamp) (s : SessionId) (overdue : Bool) (c : Coordinator) :
    (c.hush.attend now s overdue).1 = (c.attend now s overdue).1 ∧
      (c.hush.attend now s overdue).2.hush = (c.attend now s overdue).2.hush := by
  cases live : c.leases.get? s with
  | none =>
      rw [attend_of_gone now overdue live, attend_of_gone now overdue (c := c.hush) live]
      exact ⟨rfl, hush_hush c⟩
  | some lease =>
      rw [attend_of_live now overdue live, attend_of_live now overdue (c := c.hush) live]
      have same : c.hush.bus = c.bus := rfl
      rw [same]
      cases heard s overdue lease c.bus with
      | none => exact ⟨rfl, hush_hush c⟩
      | some outcome => exact ⟨rfl, hush_conclude rfl⟩

theorem hush_cancel (now : Timestamp) (s : SessionId) (c : Coordinator) :
    (c.hush.cancel now s).1 = (c.cancel now s).1 ∧
      (c.hush.cancel now s).2.hush = (c.cancel now s).2.hush := by
  cases live : c.leases.get? s with
  | none =>
      rw [cancel_of_gone now live, cancel_of_gone now (c := c.hush) live]
      exact ⟨rfl, hush_hush c⟩
  | some lease =>
      rw [cancel_of_live now live, cancel_of_live now (c := c.hush) live]
      exact ⟨rfl, hush_conclude rfl⟩

theorem hush_answer (now : Timestamp) (s : SessionId) (reply : Reply) (c : Coordinator) :
    (c.hush.answer now s reply).1 = (c.answer now s reply).1 ∧
      (c.hush.answer now s reply).2.hush = (c.answer now s reply).2.hush := by
  have same : c.hush.leases = c.leases := rfl
  have budget : c.hush.config = c.config := rfl
  simp only [answer, same, budget]
  cases c.leases.get? s with
  | none => exact ⟨rfl, hush_hush c⟩
  | some lease =>
      simp only
      split
      · exact ⟨rfl, hush_hush c⟩
      · cases reply.outcome c.config.dispatchTimeout with
        | error f => exact ⟨rfl, hush_conclude rfl⟩
        | ok _ =>
            simp only [hush, ← Session.Docket.hush_markDispatched, Session.Docket.hush_hush, and_self]

theorem hush_prune (now : Timestamp) (age : Duration) (c : Coordinator) :
    (c.hush.prune now age).1 = (c.prune now age).1 ∧
      (c.hush.prune now age).2.hush = (c.prune now age).2.hush := by
  simp only [prune, hush, Session.Docket.hush_prune]
  cases c.docket.prune now age with
  | error f => exact ⟨rfl, hush_hush c⟩
  | ok kept => exact ⟨rfl, by simp only [Except.map, Session.Docket.hush_hush]⟩

theorem hush_step (now : Timestamp) (c : Coordinator) (event : Event) :
    (c.hush.step now event).1 = (c.step now event).1 ∧
      (c.hush.step now event).2.hush = (c.step now event).2.hush := by
  cases event with
  | start s draws request =>
      obtain ⟨hanswer, hafter⟩ := hush_start now s draws request c
      exact ⟨congrArg Answer.started hanswer, hafter⟩
  | answer s reply =>
      obtain ⟨hanswer, hafter⟩ := hush_answer now s reply c
      exact ⟨congrArg Answer.acknowledged hanswer, hafter⟩
  | attend s overdue =>
      obtain ⟨hanswer, hafter⟩ := hush_attend now s overdue c
      exact ⟨congrArg Answer.ended hanswer, hafter⟩
  | cancel s =>
      obtain ⟨hanswer, hafter⟩ := hush_cancel now s c
      exact ⟨congrArg Answer.withdrawn hanswer, hafter⟩
  | prune age =>
      obtain ⟨hanswer, hafter⟩ := hush_prune now age c
      exact ⟨congrArg Answer.pruned hanswer, hafter⟩
  | operate op => exact ⟨rfl, by simp only [step, operate, Prod.map, hush, id, Session.Docket.hush_hush]⟩
  | deliver op => exact ⟨rfl, by simp only [step, hush, Session.Docket.hush_hush]⟩

end Coordinator

inductive Failure.Reworded : Failure → Failure → Prop
  | internal (text text' : String) : Reworded (.internal text) (.internal text')
  | config (text text' : String) : Reworded (.config text) (.config text')

def Failure.isWithheld : Failure → Bool
  | .internal _ => true
  | .config _ => true
  | _ => false

theorem Failure.Reworded.isWithheld {f f' : Failure} (h : f.Reworded f') :
    f.isWithheld = true ∧ f'.isWithheld = true := by
  cases h <;> exact ⟨rfl, rfl⟩

theorem Reply.outcome_of_withheld {f : Failure} (h : f.isWithheld = true) (budget : Duration) :
    (Reply.failed f).outcome budget = .error (.dispatchFailed f.message) := by
  cases f <;> first
    | rfl
    | cases h

namespace Coordinator

inductive Event.Reworded : Event → Event → Prop
  | same (event : Event) : Reworded event event
  | answer (s : SessionId) {f f' : Failure} (reworded : f.Reworded f') :
      Reworded (.answer s (.failed f)) (.answer s (.failed f'))

def awaits (s : SessionId) (c : Coordinator) : Bool :=
  match c.leases.get? s with
  | none => false
  | some lease => !lease.acknowledged

theorem answer_of_withheld (now : Timestamp) (s : SessionId) {f : Failure}
    (withheld : f.isWithheld = true) (c : Coordinator) :
    c.answer now s (.failed f) =
      if c.awaits s then
        (some (.error (.dispatchFailed f.message)),
          c.conclude now s (some (.dispatchFailed f.message)))
      else (none, c) := by
  unfold answer awaits
  cases c.leases.get? s with
  | none => rfl
  | some lease =>
      cases h : lease.acknowledged with
      | true => simp [h]
      | false => simp [h, Reply.outcome_of_withheld withheld]

theorem awaits_hush (s : SessionId) (c : Coordinator) : c.hush.awaits s = c.awaits s := rfl

section Pair

variable {c c' : Coordinator}

theorem start_congr (same : c'.hush = c.hush) (now : Timestamp) (s : SessionId) (draws : Draws)
    (request : Session.Request) :
    (c'.start now s draws request).1 = (c.start now s draws request).1 ∧
      (c'.start now s draws request).2.hush = (c.start now s draws request).2.hush := by
  obtain ⟨hanswer, hafter⟩ := hush_start now s draws request c
  obtain ⟨hanswer', hafter'⟩ := hush_start now s draws request c'
  rw [← hanswer, ← hafter, ← hanswer', ← hafter', same]
  exact ⟨rfl, rfl⟩

theorem hush_reworded (same : c'.hush = c.hush) {event event' : Event}
    (reworded : event.Reworded event') (now : Timestamp) :
    (c'.step now event').2.hush = (c.step now event).2.hush := by
  have along : ∀ event, (c'.step now event).2.hush = (c.step now event).2.hush := by
    intro event
    rw [← (hush_step now c' event).2, ← (hush_step now c event).2, same]
  cases reworded with
  | same event => exact along event
  | @answer s f f' reworded =>
      obtain ⟨withheld, withheld'⟩ := reworded.isWithheld
      rw [along]
      simp only [step, Prod.map, answer_of_withheld now s withheld,
        answer_of_withheld now s withheld']
      split
      · exact (hush_conclude rfl).symm.trans (hush_conclude rfl)
      · rfl

namespace Turn

variable {t t' : Turn}

theorem ending_congr (event : t'.event = t.event) (answer : t'.answer = t.answer) :
    t'.ending = t.ending := by
  unfold ending
  rw [event, answer]

theorem answer_congr (now : t'.now = t.now) (same : t'.before.hush = t.before.hush)
    (event : t'.event = t.event) : t'.answer = t.answer := by
  rw [answer, answer, ← (hush_step _ _ _).1, ← (hush_step t.now _ _).1, same, now, event]

theorem ending_of_withheld {s : SessionId} {f : Failure} (withheld : f.isWithheld = true)
    (event : t.event = .answer s (.failed f)) :
    t.ending = if t.before.awaits s then some (s, .error (.dispatchFailed f.message)) else none := by
  have hanswer : t.answer = .acknowledged (t.before.answer t.now s (.failed f)).1 := by
    simp [answer, event, step]
  unfold ending
  rw [event, hanswer, answer_of_withheld t.now s withheld]
  cases t.before.awaits s <;> rfl

end Turn

end Pair

end Coordinator

end Conclave

import Conclave.Proofs.Accounting
import Conclave.Proofs.Ending
import Mathlib.Data.List.Perm.Subperm

namespace Conclave

namespace Keyed

variable {κ ν : Type} [DecidableEq κ]

def sum (f : ν → Nat) (m : Keyed κ ν) : Nat := (m.entries.map fun e => f e.2).sum

theorem sum_insert (f : ν → Nat) (m : Keyed κ ν) (k : κ) (v : ν) :
    (m.insert k v).sum f = f v + (m.erase k).sum f := by
  rw [sum, ((m.perm_entries_insert k v).map fun e => f e.2).sum_nat, List.map_cons, List.sum_cons, sum]

theorem sum_erase {f : ν → Nat} {m : Keyed κ ν} {k : κ} {v : ν} (h : m.get? k = some v) :
    m.sum f = f v + (m.erase k).sum f := by
  rw [sum, ← ((perm_entries_erase h).map fun e => f e.2).sum_nat, List.map_cons, List.sum_cons, sum]

end Keyed

def UsageCounts.sum (c : UsageCounts) : Nat :=
  c.walletsCreated.toNat + c.signaturesProduced.toNat + c.ceremoniesFailed.toNat

theorem UsageCounts.sum_add {c : UsageCounts} (below : c.sum + 1 < 2 ^ 64) (event : UsageEvent) :
    (c.add event).sum = c.sum + 1 := by
  have next : ∀ n : UInt64, n.toNat + 1 < 2 ^ 64 → (n + 1).toNat = n.toNat + 1 := by
    intro n h
    rw [UInt64.toNat_add, UInt64.toNat_one, Nat.mod_eq_of_lt h]
  unfold sum at below ⊢
  cases event <;> simp only [add] <;> rw [next _ (by omega)] <;> omega

namespace Usage

def total (u : Usage) : Nat := u.counts.sum UsageCounts.sum

theorem total_eq (u : Usage) (organization : Uuid) :
    u.total = (u.countsFor organization).sum + (u.counts.erase organization).sum UsageCounts.sum := by
  unfold countsFor
  cases h : u.counts.get? organization with
  | none =>
      rw [Keyed.erase_of_missing h, total]
      show _ = 0 + _
      rw [Nat.zero_add]
  | some c => exact Keyed.sum_erase h

theorem total_record {u : Usage} (below : u.total + 1 < 2 ^ 64) (organization : Uuid)
    (event : UsageEvent) : (u.record organization event).total = u.total + 1 := by
  have parts := u.total_eq organization
  have sum : ((u.countsFor organization).add event).sum = (u.countsFor organization).sum + 1 :=
    UsageCounts.sum_add (by omega) event
  rw [record, total, Keyed.sum_insert, sum, parts]
  omega

theorem total_recordAll (events : List (Uuid × UsageEvent)) {u : Usage}
    (below : u.total + events.length < 2 ^ 64) :
    (u.recordAll events).total = u.total + events.length := by
  induction events generalizing u with
  | nil => rfl
  | cons e rest ih =>
      rw [List.length_cons] at below ⊢
      have step := total_record (u := u) (by omega) e.1 e.2
      show ((u.record e.1 e.2).recordAll rest).total = _
      rw [ih (by omega), step]
      omega

end Usage

open Api

def Api.Visit.runs (d : Defaults) (v : Visit) : Bool :=
  match v.call d with
  | .ok call => call.request.validate.isOk
  | .error _ => false

namespace Api.Visit

variable {d : Defaults} {v : Visit}

theorem runs_of_call {call : Call} (made : v.call d = .ok call) :
    v.runs d = call.request.validate.isOk := by
  simp only [Visit.runs, made]

theorem runs_of_refusal {e : Error} (refused : v.call d = .error e) : v.runs d = false := by
  simp only [Visit.runs, refused]

theorem passes_of_runs (runs : v.runs d = true) : v.passes = true := by
  rw [← v.isOk_call d]
  cases made : v.call d with
  | error e =>
      rw [runs_of_refusal made] at runs
      cases runs
  | ok call => rfl

end Api.Visit

namespace Desk

variable {d : Defaults}

def Act.named? : Act → Option SessionId
  | .call s _ _ => some s
  | .turn event => event.started?
  | .record _ => none

def Act.visit? : Act → Option (SessionId × Visit)
  | .call s _ visit => some (s, visit)
  | _ => none

def opened? (now : Timestamp) (act : Act) (σ : Desk d) : Option SessionId :=
  match act.visit? with
  | some (s, _) =>
      if (σ.coordinator.docket.get? s).isNone &&
        ((σ.step now act).2.coordinator.docket.get? s).isSome then some s else none
  | none => none

def created (σ : Desk d) : List (Timestamp × Act) → List SessionId
  | [] => []
  | (now, act) :: rest => (σ.opened? now act).toList ++ (σ.step now act).2.created rest

def visits (acts : List (Timestamp × Act)) : List (SessionId × Visit) :=
  acts.filterMap fun e => e.2.visit?

def named (acts : List (Timestamp × Act)) : List SessionId := acts.filterMap fun e => e.2.named?

end Desk

theorem Coordinator.Turn.unknown_after {t : Turn} {s : SessionId} (other : t.starts s = false)
    (unknown : t.before.docket.get? s = none) : t.after.docket.get? s = none := by
  have absent : ∀ draws request, t.event ≠ .start s draws request := by
    intro draws request event
    rw [Turn.starts_of_event event] at other
    cases other
  cases t.bears s with
  | nothing record => rw [record, unknown]
  | refuses draws request f event => exact absurd event (absent draws request)
  | opens draws request given event => exact absurd event (absent draws request)
  | acknowledges held _ _ _ record => rw [record, unknown, Option.map_none]
  | concludes held outcome _ _ _ record => rw [record, unknown, Option.map_none]
  | prunes age r event found => cases unknown.symm.trans found

theorem Coordinator.Turn.known_after_start {t : Turn} {s : SessionId} {draws : Draws}
    {request : Session.Request} (event : t.event = .start s draws request)
    (unknown : t.before.docket.get? s = none) :
    (t.after.docket.get? s).isSome = request.validate.isOk := by
  rw [(of_start event).2]
  cases started t.now s draws request t.before with
  | invalid f invalid result => simp [result, unknown, invalid, Except.isOk, Except.toBool]
  | unchosen f valid _ result =>
      simp [result, valid, refuse, Session.Docket.get?_finish, Session.Docket.get?_create,
        Except.isOk, Except.toBool]
  | taken f _ valid _ _ result =>
      simp [result, valid, refuse, Session.Docket.get?_finish, Session.Docket.get?_create,
        Except.isOk, Except.toBool]
  | launched parties channel bus valid _ _ result =>
      simp [result, valid, launch, Session.Docket.get?_create, Except.isOk, Except.toBool]

namespace Desk

variable {d : Defaults} {σ : Desk d}

theorem unknown_move {now : Timestamp} {act : Act} {out : Option Return × Desk d}
    (move : Move now σ act out) {s : SessionId} (other : act.named? ≠ some s)
    (unknown : σ.coordinator.docket.get? s = none) : out.2.coordinator.docket.get? s = none := by
  have proceeds : ∀ act : Ceremonies.Act (Running d), act.event.started? ≠ some s →
      (σ.proceed (σ.toCeremonies.step now act)).2.coordinator.docket.get? s = none := by
    intro act other
    rw [proceed_toCeremonies, Ceremonies.coordinator_step]
    exact Coordinator.Turn.unknown_after (decide_eq_false other) unknown
  cases move with
  | refuse => exact unknown
  | call => exact proceeds _ other
  | turn => exact proceeds _ other
  | record => exact unknown
  | idle => exact unknown

theorem known_move {now : Timestamp} {s : SessionId} {draws : Draws} {visit : Visit}
    {out : Option Return × Desk d} (move : Move now σ (.call s draws visit) out)
    (unknown : σ.coordinator.docket.get? s = none) :
    (out.2.coordinator.docket.get? s).isSome = visit.runs d := by
  cases move with
  | refuse _ _ _ e refused =>
      rw [unknown, Visit.runs_of_refusal refused]
      rfl
  | call _ _ r =>
      rw [proceed_toCeremonies, Ceremonies.coordinator_step, Visit.runs_of_call r.made]
      exact Coordinator.Turn.known_after_start rfl unknown

theorem opened_call {now : Timestamp} {s : SessionId} {draws : Draws} {visit : Visit}
    (unknown : σ.coordinator.docket.get? s = none) :
    σ.opened? now (.call s draws visit) = if visit.runs d then some s else none := by
  simp only [opened?, Act.visit?, unknown, known_move (move_step now σ _) unknown, Option.isNone_none,
    Bool.true_and]

theorem named_cons (now : Timestamp) (act : Act) (rest : List (Timestamp × Act)) :
    named ((now, act) :: rest) = act.named?.toList ++ named rest := by
  rw [named, List.filterMap_cons]
  cases act.named? <;> rfl

theorem created_eq {acts : List (Timestamp × Act)} (distinct : (named acts).Nodup)
    (unknown : ∀ s ∈ named acts, σ.coordinator.docket.get? s = none) :
    σ.created acts = ((visits acts).filter fun v => v.2.runs d).map Prod.fst := by
  induction acts generalizing σ with
  | nil => rfl
  | cons e rest ih =>
      obtain ⟨now, act⟩ := e
      rw [named_cons] at distinct unknown
      have later : (σ.step now act).2.created rest =
          ((visits rest).filter fun v => v.2.runs d).map Prod.fst := by
        obtain ⟨-, distinct, apart⟩ := List.nodup_append.1 distinct
        refine ih distinct fun s hs =>
          unknown_move (move_step now σ act) ?_ (unknown s (List.mem_append_right _ hs))
        intro same
        exact apart s (by simp [same]) s hs rfl
      rw [created, later]
      cases act with
      | call s draws visit =>
          rw [opened_call (unknown s (List.mem_append_left _ List.mem_cons_self))]
          cases hruns : visit.runs d <;> simp [visits, Act.visit?, hruns]
      | turn event => rfl
      | record i => rfl

def present (σ : Desk d) : List (SessionId × Visit) :=
  σ.running.entries.map fun e => (e.1, e.2.visit)

end Desk

def Api.Return.entry (r : Return) : SessionId × Visit := (r.session, r.visit)

namespace Desk

variable {d : Defaults} {σ τ ρ : Desk d}

def Serves (σ τ : Desk d) (returned : List Return) (came : List (SessionId × Visit)) : Prop :=
  (returned.map Return.entry ++ τ.present).Subperm (σ.present ++ came)

theorem Serves.trans {first second : List Return} {came came' : List (SessionId × Visit)}
    (h : Serves σ τ first came) (h' : Serves τ ρ second came') :
    Serves σ ρ (first ++ second) (came ++ came') := by
  have left := (List.subperm_append_left (first.map Return.entry)).2 h'
  have right := (List.subperm_append_right came').2 h
  have both := left.trans (by simpa using right)
  simpa [Serves] using both

theorem serves_of_kept (kept : τ.present.Subperm σ.present) : Serves σ τ [] [] := by
  simpa [Serves] using kept

theorem entries_proceed (σ : Desk d) (out : Option (Ended (Running d)) × Ceremonies (Running d)) :
    (σ.proceed out).1.toList.map Return.entry =
      out.1.toList.map fun e => (e.session, e.call.visit) := by
  unfold proceed
  split
  · rename_i s r outcome ended
    rw [ended]
    rfl
  · rename_i ended
    rw [ended]
    rfl

theorem serves_proceed (now : Timestamp) (σ : Desk d) (act : Ceremonies.Act (Running d)) :
    Serves σ (σ.proceed (σ.toCeremonies.step now act)).2
      (σ.proceed (σ.toCeremonies.step now act)).1.toList
      (act.comes?.toList.map fun e => (e.1, e.2.visit)) := by
  obtain ⟨l, perm, sublist⟩ := σ.toCeremonies.subperm_step now act
  have left := perm.map fun e => (e.1, e.2.visit)
  have right := sublist.map fun e => (e.1, e.2.visit)
  rw [List.map_append, List.map_map] at left
  rw [List.map_append] at right
  rw [Serves, entries_proceed, present, proceed_toCeremonies]
  exact ⟨_, left, right⟩

theorem serves_move {now : Timestamp} {act : Act} {out : Option Return × Desk d}
    (move : Move now σ act out) : Serves σ out.2 out.1.toList act.visit?.toList := by
  cases move with
  | refuse s draws visit e => exact List.perm_append_comm.subperm
  | call s draws r => exact serves_proceed now σ (.call s draws r.call.request r)
  | turn event => exact serves_proceed now σ (.turn event)
  | record => exact serves_of_kept (List.Subperm.refl _)
  | idle => exact serves_of_kept (List.Subperm.refl _)

theorem serves_after (σ : Desk d) (acts : List (Timestamp × Act)) :
    Serves σ (σ.after acts) (σ.returns acts) (visits acts) := by
  induction acts generalizing σ with
  | nil => exact serves_of_kept (List.Subperm.refl _)
  | cons e rest ih =>
      have visits_cons : visits (e :: rest) = e.2.visit?.toList ++ visits rest := by
        rw [visits, List.filterMap_cons]
        cases e.2.visit? <;> rfl
      rw [visits_cons]
      exact (serves_move (move_step e.1 σ e.2)).trans (ih _)

theorem event_isSome_of_move {now : Timestamp} {act : Act} {out : Option Return × Desk d}
    (move : Move now σ act out) {r : Return} (returned : r ∈ out.1) :
    r.event?.isSome = r.visit.passes := by
  have proceeds : ∀ out : Option (Ended (Running d)) × Ceremonies (Running d),
      r ∈ (σ.proceed out).1 → r.event?.isSome = r.visit.passes := by
    intro out returned
    unfold proceed at returned
    split at returned
    · rename_i s running outcome _
      obtain rfl := Option.some.inj returned
      rw [Return.event_of_call running.made, ← running.visit.isOk_call d, running.made]
      rfl
    · cases returned
  cases move with
  | refuse s draws visit e refused =>
      obtain rfl := Option.some.inj returned
      rw [Return.event_of_refusal refused, ← visit.isOk_call d, refused]
      rfl
  | call => exact proceeds _ returned
  | turn => exact proceeds _ returned
  | _ => cases returned

theorem event_isSome_of_returned {acts : List (Timestamp × Act)} {r : Return}
    (returned : r ∈ σ.returns acts) : r.event?.isSome = r.visit.passes := by
  induction acts generalizing σ with
  | nil => cases returned
  | cons e rest ih =>
      rcases List.mem_append.1 returned with h | h
      · exact event_isSome_of_move (move_step e.1 σ e.2) (Option.mem_toList.1 h)
      · exact ih h

theorem length_returns_le (σ : Desk d) (acts : List (Timestamp × Act)) :
    (σ.returns acts).length ≤ acts.length := by
  induction acts generalizing σ with
  | nil => exact Nat.le_refl _
  | cons e rest ih =>
      have head : (σ.step e.1 e.2).1.toList.length ≤ 1 := by
        cases (σ.step e.1 e.2).1 <;> simp
      have tail := ih (σ.step e.1 e.2).2
      rw [returns, List.length_append, List.length_cons]
      omega

theorem total_after {c : Coordinator} {acts : List (Timestamp × Act)}
    (recorded : ((new c : Desk d).after acts).unrecorded = []) (below : acts.length < 2 ^ 64) :
    ((new c : Desk d).after acts).usage.total =
      ((new c : Desk d).returns acts).countP fun r => r.visit.passes := by
  obtain ⟨events, usage, perm⟩ := owes_after (new c : Desk d) acts
  rw [recorded, List.append_nil] at perm
  have length : events.length = ((new c : Desk d).returns acts).countP fun r => r.visit.passes := by
    rw [perm.length_eq]
    show (List.filterMap _ _).length = _
    rw [List.length_filterMap_eq_countP]
    exact List.countP_congr fun r returned => by rw [event_isSome_of_returned returned]
  have few := length_returns_le (new c : Desk d) acts
  have counted := List.countP_le_length (p := fun r : Return => r.visit.passes)
    (l := (new c : Desk d).returns acts)
  have empty : (new c : Desk d).usage.total = 0 := rfl
  rw [usage, Usage.total_recordAll _ (by omega), empty, Nat.zero_add, length]

theorem visits_sublist (acts : List (Timestamp × Act)) :
    ((visits acts).map Prod.fst).Sublist (named acts) := by
  induction acts with
  | nil => exact .slnil
  | cons e rest ih =>
      obtain ⟨now, act⟩ := e
      rw [named_cons]
      cases act with
      | call s draws visit => exact ih.cons_cons s
      | turn event => exact ih.trans (List.sublist_append_right _ _)
      | record i => exact ih

theorem perm_of_complete {c : Coordinator} {acts : List (Timestamp × Act)}
    (complete : ((new c : Desk d).returns acts).length = (visits acts).length) :
    (((new c : Desk d).returns acts).map Return.entry).Perm (visits acts) := by
  have served : (((new c : Desk d).returns acts).map Return.entry).Subperm (visits acts) :=
    (List.sublist_append_left _ _).subperm.trans (serves_after (new c : Desk d) acts)
  exact served.perm_of_length_le (by rw [List.length_map, complete])

theorem created_perm {c : Coordinator} {acts : List (Timestamp × Act)} (distinct : (named acts).Nodup)
    (unknown : ∀ s ∈ named acts, c.docket.get? s = none)
    (complete : ((new c : Desk d).returns acts).length = (visits acts).length) :
    ((new c : Desk d).created acts).Perm
      ((((new c : Desk d).returns acts).filter fun r => r.visit.runs d).map Return.session) := by
  have all := ((perm_of_complete complete).symm.filter fun v => v.2.runs d).map Prod.fst
  rw [created_eq distinct unknown]
  simpa [List.filter_map, Function.comp_def, Return.entry] using all

theorem countP_passes (returned : List Return) :
    returned.countP (fun r => r.visit.passes) =
      returned.countP (fun r => r.visit.runs d) +
        returned.countP (fun r => r.visit.passes && !r.visit.runs d) := by
  induction returned with
  | nil => rfl
  | cons r rest ih =>
      rw [List.countP_cons, List.countP_cons, List.countP_cons, ih]
      cases runs : r.visit.runs d with
      | true =>
          rw [Visit.passes_of_runs runs]
          simp
          omega
      | false =>
          cases r.visit.passes
          · simp
          · simp [Nat.add_assoc]

theorem counted_iff_recorded (d : Defaults) (c : Coordinator) (acts : List (Timestamp × Act))
    (distinct : (named acts).Nodup) (unknown : ∀ s ∈ named acts, c.docket.get? s = none)
    (complete : ((new c : Desk d).returns acts).length = (visits acts).length)
    (recorded : ((new c : Desk d).after acts).unrecorded = []) (below : acts.length < 2 ^ 64) :
    let total := ((new c : Desk d).after acts).usage.total
    let returned := (new c : Desk d).returns acts
    let created := (new c : Desk d).created acts
    created.Nodup ∧
      created.Perm ((returned.filter fun r => r.visit.runs d).map Return.session) ∧
      total = created.length + returned.countP (fun r => r.visit.passes && !r.visit.runs d) ∧
      (total = created.length ↔ ∀ r ∈ returned, r.visit.passes = true → r.visit.runs d = true) ∧
      (created.Perm ((returned.filter fun r => r.event?.isSome).map Return.session) ↔
        ∀ r ∈ returned, r.visit.passes = true → r.visit.runs d = true) := by
  intro total returned created
  have perm : created.Perm _ := created_perm distinct unknown complete
  have counted : total = created.length +
      returned.countP (fun r => r.visit.passes && !r.visit.runs d) := by
    rw [perm.length_eq, List.length_map, ← List.countP_eq_length_filter, ← countP_passes]
    exact total_after recorded below
  have exactly : total = created.length ↔
      ∀ r ∈ returned, r.visit.passes = true → r.visit.runs d = true := by
    rw [counted, Nat.add_eq_left, List.countP_eq_zero]
    simp
  refine ⟨?_, perm, counted, exactly, ?_, ?_⟩
  · show ((new c : Desk d).created acts).Nodup
    rw [created_eq distinct unknown]
    exact distinct.sublist ((List.filter_sublist.map _).trans (visits_sublist acts))
  · intro each
    rw [← exactly, each.length_eq, List.length_map, ← List.countP_eq_length_filter]
    exact (total_after recorded below).trans (List.countP_congr fun r hr => by
      rw [event_isSome_of_returned hr])
  · intro runs
    have same : (returned.filter fun r => r.event?.isSome) =
        returned.filter fun r => r.visit.runs d := by
      refine List.filter_congr fun r hr => ?_
      rw [event_isSome_of_returned hr]
      exact Bool.eq_iff_iff.2 ⟨runs r hr, Visit.passes_of_runs⟩
    rw [same]
    exact perm

theorem counted_iff_recorded_overlap :
    (named overlap).Nodup ∧ ((new .oneNode : Desk .standard).after overlap).usage.total =
      ((new .oneNode : Desk .standard).created overlap).length := by
  have distinct : (named overlap).Nodup := by decide +kernel
  have exactly := (counted_iff_recorded .standard .oneNode overlap distinct (by decide +kernel)
    (by decide +kernel) (by decide +kernel) (by decide)).2.2.2.1
  exact ⟨distinct, exactly.2 (by decide +kernel)⟩

def refused : List (Timestamp × Act) :=
  [(⟨1, 0⟩, .call ⟨"S1"⟩ (fun _ => 0) ⟨alice, .wallet ⟨"alice", some 1, some 0⟩⟩),
    (⟨2, 0⟩, .record 0)]

theorem refused_call_counted :
    (named refused).Nodup ∧ (∀ s ∈ named refused, Coordinator.oneNode.docket.get? s = none) ∧
      ((new .oneNode : Desk .standard).returns refused).length = (visits refused).length ∧
      ((new .oneNode : Desk .standard).after refused).unrecorded = [] ∧
      ((new .oneNode : Desk .standard).after refused).usage.total ≠
        ((new .oneNode : Desk .standard).created refused).length := by
  decide +kernel

end Desk

end Conclave

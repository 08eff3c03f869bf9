import Conclave.Proofs.Ceremonies
import Conclave.Proofs.Gate

namespace Conclave

namespace Api

inductive Order where
  | wallet (r : WalletRequest)
  | signature (r : SignRequest)
  deriving DecidableEq, Repr

def Order.kind : Order → CallKind
  | .wallet _ => .wallet
  | .signature _ => .signature

structure Visit where
  caller : Context
  order : Order
  deriving DecidableEq, Repr

namespace Visit

def call (d : Defaults) (v : Visit) : Except Error Call :=
  match v.order with
  | .wallet r => walletCall d v.caller r
  | .signature r => signCall d v.caller r

def passes (v : Visit) : Bool :=
  match v.order with
  | .wallet r => v.caller.hasPermission .walletsCreate && !(Text.trim r.identity).isEmpty
  | .signature r =>
      v.caller.hasPermission .transactionsSign && (readDigest r.messageHash).isOk &&
        (readShare r.shareData).isOk

end Visit

inductive Product where
  | wallet (w : Wallet)
  | signature (s : Signature)
  deriving DecidableEq, Repr

def Call.result (call : Call) (outcome : Except Failure Finished) : Except Error Product :=
  match call.kind with
  | .wallet =>
      match outcome >>= Finished.wallet with
      | .ok w => .ok (.wallet w)
      | .error f => .error (.failure f)
  | .signature =>
      match outcome >>= Finished.signature with
      | .ok s => .ok (.signature s)
      | .error f => .error (.failure f)

structure Return where
  session : SessionId
  visit : Visit
  result : Except Error Product

namespace Return

def organization (r : Return) : Uuid := r.visit.caller.organization

def succeeds (kind : CallKind) (organization : Uuid) (r : Return) : Bool :=
  r.organization = organization && r.visit.order.kind = kind && r.result.isOk

def fails (organization : Uuid) (r : Return) : Bool :=
  r.organization = organization && r.visit.passes && !r.result.isOk

end Return

def CallKind.success : CallKind → UsageEvent
  | .wallet => .walletCreated
  | .signature => .signatureProduced

def Return.event? (r : Return) : Option (Uuid × UsageEvent) :=
  match r.result with
  | .ok _ => some (r.organization, r.visit.order.kind.success)
  | .error _ => if r.visit.passes then some (r.organization, .ceremonyFailed) else none

theorem Context.require_isOk (c : Context) (p : Permission) :
    (c.require p).isOk = c.hasPermission p := by
  unfold Context.require
  cases c.hasPermission p <;> rfl

theorem Visit.isOk_call (d : Defaults) (v : Visit) : (v.call d).isOk = v.passes := by
  obtain ⟨caller, order⟩ := v
  cases order with
  | wallet r =>
      simp only [call, passes, walletCall, ← Context.require_isOk]
      cases caller.require .walletsCreate with
      | error e => rfl
      | ok _ => cases (Text.trim r.identity).isEmpty <;> rfl
  | signature r =>
      simp only [call, passes, signCall, ← Context.require_isOk]
      cases caller.require .transactionsSign with
      | error e => rfl
      | ok _ =>
          cases readDigest r.messageHash with
          | error e => rfl
          | ok digest => cases readShare r.shareData <;> rfl

theorem Visit.of_call {d : Defaults} {v : Visit} {call : Call} (made : v.call d = .ok call) :
    call.organization = v.caller.organization ∧ call.kind = v.order.kind := by
  obtain ⟨caller, order⟩ := v
  cases order with
  | wallet r =>
      obtain ⟨-, -, rfl⟩ := walletCall_eq_ok.1 made
      exact ⟨rfl, rfl⟩
  | signature r =>
      obtain ⟨-, digest, share, -, -, rfl⟩ := signCall_eq_ok.1 made
      exact ⟨rfl, rfl⟩

theorem Call.finish_eq (call : Call) (outcome : Except Failure Finished) :
    call.finish outcome =
      match call.result outcome with
      | .ok (.wallet w) => (call.kind.success, ⟨201, some (Wire.wallet.encode w)⟩)
      | .ok (.signature s) => (call.kind.success, ok (Wire.signResponse.encode
          ⟨s.session, s.parties, Text.hex s.bytes, s.recoveryId⟩))
      | .error e => (.ceremonyFailed, e.response) := by
  unfold Call.finish Call.result
  cases call.kind with
  | wallet =>
      dsimp only
      cases outcome >>= Finished.wallet <;> rfl
  | signature =>
      dsimp only
      cases outcome >>= Finished.signature <;> rfl

theorem Call.event_of_finish (call : Call) (outcome : Except Failure Finished) :
    (call.finish outcome).1 =
      if (call.result outcome).isOk then call.kind.success else .ceremonyFailed := by
  rw [Call.finish_eq]
  cases call.result outcome with
  | error e => rfl
  | ok product => cases product <;> rfl

theorem Return.event_of_call {d : Defaults} {v : Visit} {call : Call} (made : v.call d = .ok call)
    (s : SessionId) (outcome : Except Failure Finished) :
    (Return.mk s v (call.result outcome)).event? =
      some (call.organization, (call.finish outcome).1) := by
  obtain ⟨organization, kind⟩ := Visit.of_call made
  have passes : v.passes = true := by
    rw [← v.isOk_call d, made]
    rfl
  rw [Call.event_of_finish, organization, kind]
  unfold Return.event?
  cases call.result outcome with
  | ok product => rfl
  | error e => simp [passes, Return.organization, Except.isOk, Except.toBool]

theorem Return.event_of_refusal {d : Defaults} {v : Visit} {e : Error} (refused : v.call d = .error e)
    (s : SessionId) : (Return.mk s v (.error e)).event? = none := by
  have passes : v.passes = false := by
    rw [← v.isOk_call d, refused]
    rfl
  simp [event?, passes]

end Api

open Api

structure Running (d : Defaults) where
  visit : Visit
  call : Call
  made : visit.call d = .ok call

structure Desk (d : Defaults) extends Ceremonies (Running d) where
  usage : Usage
  unrecorded : List (Uuid × UsageEvent)

namespace Desk

variable {d : Defaults}

def new (c : Coordinator) : Desk d := ⟨⟨c, .empty⟩, .empty, []⟩

inductive Act where
  | call (s : SessionId) (draws : Draws) (visit : Visit)
  | turn (event : Coordinator.Event)
  | record (i : Nat)

def proceed (σ : Desk d) (out : Option (Ended (Running d)) × Ceremonies (Running d)) :
    Option Return × Desk d :=
  match out.1 with
  | some ⟨s, r, outcome⟩ =>
      (some ⟨s, r.visit, r.call.result outcome⟩, { σ with
        toCeremonies := out.2
        unrecorded := σ.unrecorded ++ [(r.call.organization, (r.call.finish outcome).1)] })
  | none => (none, { σ with toCeremonies := out.2 })

def order (now : Timestamp) (s : SessionId) (draws : Draws) (visit : Visit) (σ : Desk d) :
    Option Return × Desk d :=
  match made : visit.call d with
  | .error e => (some ⟨s, visit, .error e⟩, σ)
  | .ok call => σ.proceed (σ.toCeremonies.step now (.call s draws call.request ⟨visit, call, made⟩))

def record (i : Nat) (σ : Desk d) : Desk d :=
  match σ.unrecorded[i]? with
  | some (organization, event) => { σ with
      usage := σ.usage.record organization event
      unrecorded := σ.unrecorded.eraseIdx i }
  | none => σ

def step (now : Timestamp) (σ : Desk d) : Act → Option Return × Desk d
  | .call s draws visit => σ.order now s draws visit
  | .turn event => σ.proceed (σ.toCeremonies.step now (.turn event))
  | .record i => (none, σ.record i)

def after (σ : Desk d) : List (Timestamp × Act) → Desk d
  | [] => σ
  | (now, act) :: rest => (σ.step now act).2.after rest

def returns (σ : Desk d) : List (Timestamp × Act) → List Return
  | [] => []
  | (now, act) :: rest => (σ.step now act).1.toList ++ (σ.step now act).2.returns rest

inductive Move (now : Timestamp) (σ : Desk d) : Act → Option Return × Desk d → Prop
  | refuse (s : SessionId) (draws : Draws) (visit : Visit) (e : Error)
      (refused : visit.call d = .error e) :
      Move now σ (.call s draws visit) (some ⟨s, visit, .error e⟩, σ)
  | call (s : SessionId) (draws : Draws) (r : Running d) :
      Move now σ (.call s draws r.visit)
        (σ.proceed (σ.toCeremonies.step now (.call s draws r.call.request r)))
  | turn (event : Coordinator.Event) :
      Move now σ (.turn event) (σ.proceed (σ.toCeremonies.step now (.turn event)))
  | record (i : Nat) (e : Uuid × UsageEvent) (waits : σ.unrecorded[i]? = some e) :
      Move now σ (.record i) (none, { σ with
        usage := σ.usage.record e.1 e.2
        unrecorded := σ.unrecorded.eraseIdx i })
  | idle (i : Nat) : Move now σ (.record i) (none, σ)

theorem move_step (now : Timestamp) (σ : Desk d) (act : Act) : Move now σ act (σ.step now act) := by
  cases act with
  | call s draws visit =>
      simp only [step, order]
      split
      · rename_i e refused
        exact .refuse s draws visit e refused
      · rename_i call made
        exact .call s draws ⟨visit, call, made⟩
  | turn event => exact .turn event
  | record i =>
      simp only [step, record]
      split
      · rename_i organization event waits
        exact .record i (organization, event) waits
      · exact .idle i

@[simp] theorem proceed_toCeremonies (σ : Desk d)
    (out : Option (Ended (Running d)) × Ceremonies (Running d)) :
    (σ.proceed out).2.toCeremonies = out.2 := by
  unfold proceed
  split <;> rfl

@[simp] theorem proceed_usage (σ : Desk d)
    (out : Option (Ended (Running d)) × Ceremonies (Running d)) :
    (σ.proceed out).2.usage = σ.usage := by
  unfold proceed
  split <;> rfl

end Desk

def UsageCounts.of (c : UsageCounts) : UsageEvent → UInt64
  | .walletCreated => c.walletsCreated
  | .signatureProduced => c.signaturesProduced
  | .ceremonyFailed => c.ceremoniesFailed

theorem UsageCounts.of_add (c : UsageCounts) (event event' : UsageEvent) :
    (c.add event).of event' = if event = event' then c.of event' + 1 else c.of event' := by
  cases event <;> cases event' <;> rfl

@[simp] theorem UsageCounts.of_zero (event : UsageEvent) : zero.of event = 0 := by
  cases event <;> rfl

namespace Usage

theorem of_countsFor_record (e : Uuid × UsageEvent) (u : Usage) (organization : Uuid)
    (event : UsageEvent) :
    ((u.record e.1 e.2).countsFor organization).of event =
      (u.countsFor organization).of event +
        UInt64.ofNat (if e == (organization, event) then 1 else 0) := by
  obtain ⟨organization', event'⟩ := e
  simp only [record, countsFor, Keyed.get?_insert]
  by_cases horganization : organization = organization'
  · subst horganization
    by_cases hevent : event' = event
    · simp [UsageCounts.of_add, hevent]
    · simp [UsageCounts.of_add, hevent]
  · have hne : ¬ organization' = organization := fun h => horganization h.symm
    simp [horganization, hne]

def recordAll (events : List (Uuid × UsageEvent)) (u : Usage) : Usage :=
  events.foldl (fun u e => u.record e.1 e.2) u

theorem of_recordAll (events : List (Uuid × UsageEvent)) (u : Usage) (organization : Uuid)
    (event : UsageEvent) :
    ((u.recordAll events).countsFor organization).of event =
      (u.countsFor organization).of event + UInt64.ofNat (events.count (organization, event)) := by
  induction events generalizing u with
  | nil => simp [recordAll]
  | cons e rest ih =>
      show (((u.record e.1 e.2).recordAll rest).countsFor organization).of event = _
      rw [ih, of_countsFor_record, List.count_cons, UInt64.ofNat_add]
      ac_rfl

theorem recordAll_append (l l' : List (Uuid × UsageEvent)) (u : Usage) :
    u.recordAll (l ++ l') = (u.recordAll l).recordAll l' :=
  List.foldl_append

end Usage

namespace Desk

variable {d : Defaults} {σ τ ρ : Desk d}

def Owes (σ τ : Desk d) (returned : List Return) : Prop :=
  ∃ recorded, τ.usage = σ.usage.recordAll recorded ∧
    (recorded ++ τ.unrecorded).Perm (σ.unrecorded ++ returned.filterMap Return.event?)

theorem owes_of_quiet (usage : τ.usage = σ.usage) (unrecorded : τ.unrecorded = σ.unrecorded) :
    Owes σ τ [] :=
  ⟨[], usage, by simp [unrecorded]⟩

theorem Owes.trans {first second : List Return} (h : Owes σ τ first) (h' : Owes τ ρ second) :
    Owes σ ρ (first ++ second) := by
  obtain ⟨recorded, usage, perm⟩ := h
  obtain ⟨recorded', usage', perm'⟩ := h'
  refine ⟨recorded ++ recorded', by rw [usage', usage, Usage.recordAll_append], ?_⟩
  have both := (perm'.append_left recorded).trans
    (by simpa using perm.append_right (second.filterMap Return.event?))
  simpa using both

theorem owes_proceed (σ : Desk d) (out : Option (Ended (Running d)) × Ceremonies (Running d)) :
    Owes σ (σ.proceed out).2 (σ.proceed out).1.toList := by
  unfold proceed
  split
  · rename_i s r outcome _
    exact ⟨[], rfl, by simp [Return.event_of_call r.made]⟩
  · exact owes_of_quiet rfl rfl

theorem owes_move {now : Timestamp} {act : Act} {out : Option Return × Desk d}
    (move : Move now σ act out) : Owes σ out.2 out.1.toList := by
  cases move with
  | refuse s draws visit e refused => exact ⟨[], rfl, by simp [Return.event_of_refusal refused]⟩
  | call => exact owes_proceed _ _
  | turn => exact owes_proceed _ _
  | record i e waits =>
      obtain ⟨hi, waits⟩ := List.getElem?_eq_some_iff.1 waits
      refine ⟨[e], rfl, ?_⟩
      simpa [← waits] using List.getElem_cons_eraseIdx_perm hi
  | idle => exact owes_of_quiet rfl rfl

theorem owes_after (σ : Desk d) (acts : List (Timestamp × Act)) :
    Owes σ (σ.after acts) (σ.returns acts) := by
  induction acts generalizing σ with
  | nil => exact owes_of_quiet rfl rfl
  | cons e rest ih => exact (owes_move (move_step e.1 σ e.2)).trans (ih _)

end Desk

namespace Api.Return

variable {r : Return} {organization : Uuid}

theorem event_eq_success (kind : CallKind) :
    r.event? = some (organization, kind.success) ↔ r.succeeds kind organization = true := by
  have injective : ∀ kind' : CallKind, kind'.success = kind.success ↔ kind' = kind := by
    intro kind'
    cases kind <;> cases kind' <;> simp [CallKind.success]
  have distinct : .ceremonyFailed ≠ kind.success := by cases kind <;> simp [CallKind.success]
  obtain ⟨s, visit, result⟩ := r
  cases result with
  | ok product => simp [event?, succeeds, injective, Except.isOk, Except.toBool]
  | error e => simp [event?, succeeds, distinct, Except.isOk, Except.toBool]

theorem event_eq_failed :
    r.event? = some (organization, .ceremonyFailed) ↔ r.fails organization = true := by
  have distinct : ∀ kind : CallKind, kind.success ≠ .ceremonyFailed := by
    intro kind
    cases kind <;> simp [CallKind.success]
  obtain ⟨s, visit, result⟩ := r
  cases result with
  | ok product => simp [event?, fails, distinct, Except.isOk, Except.toBool]
  | error e => simp [event?, fails, Except.isOk, Except.toBool, and_comm]

theorem organization_of_event {e : Uuid × UsageEvent} (h : r.event? = some e) :
    r.organization = e.1 := by
  unfold event? at h
  split at h
  · rw [← Option.some.inj h]
  · split at h
    · rw [← Option.some.inj h]
    · cases h

end Api.Return

namespace Desk

variable {d : Defaults} {c : Coordinator}

theorem of_countsFor_after {acts : List (Timestamp × Act)}
    (recorded : ((new c : Desk d).after acts).unrecorded = []) (organization : Uuid)
    (event : UsageEvent) :
    (((new c : Desk d).after acts).usage.countsFor organization).of event =
      UInt64.ofNat (((new c : Desk d).returns acts).countP
        fun r => r.event? == some (organization, event)) := by
  obtain ⟨events, usage, perm⟩ := owes_after (new c : Desk d) acts
  rw [recorded, List.append_nil] at perm
  have count : events.count (organization, event) =
      (((new c : Desk d).returns acts).filterMap Return.event?).count (organization, event) :=
    perm.count_eq _
  have fresh : ((new c : Desk d).usage.countsFor organization).of event = 0 :=
    UsageCounts.of_zero event
  rw [usage, Usage.of_recordAll, fresh, UInt64.zero_add, count, List.count_filterMap]

theorem records_of_changed {now : Timestamp} {act : Act} {σ : Desk d} {out : Option Return × Desk d}
    (move : Move now σ act out) {organization : Uuid}
    (changed : out.2.usage.countsFor organization ≠ σ.usage.countsFor organization) :
    ∃ i event, act = .record i ∧ (organization, event) ∈ σ.unrecorded := by
  cases move with
  | record i e waits =>
      simp only [Usage.countsFor, Usage.record, Keyed.get?_insert] at changed
      split at changed
      · rename_i same
        exact ⟨i, e.2, rfl, same ▸ List.mem_of_getElem? waits⟩
      · exact absurd rfl changed
  | call => exact absurd (by rw [proceed_usage]) changed
  | turn => exact absurd (by rw [proceed_usage]) changed
  | _ => exact absurd rfl changed

theorem changes_of_step (earlier : List (Timestamp × Act)) (now : Timestamp)
    (act : Act) (organization : Uuid)
    (changed : (((new c : Desk d).after earlier).step now act).2.usage.countsFor organization ≠
      ((new c : Desk d).after earlier).usage.countsFor organization) :
    (∃ i, act = .record i) ∧ ∃ r ∈ (new c : Desk d).returns earlier,
      r.organization = organization ∧ r.event?.isSome = true := by
  obtain ⟨events, -, perm⟩ := owes_after (new c : Desk d) earlier
  obtain ⟨i, event, hact, waits⟩ := records_of_changed (move_step now _ act) changed
  obtain ⟨r, returned, hevent⟩ :=
    List.mem_filterMap.1 (perm.subset (List.mem_append_right _ waits))
  exact ⟨⟨i, hact⟩, r, returned, Return.organization_of_event hevent, by simp [hevent]⟩

theorem toNat_countsFor_after {acts : List (Timestamp × Act)}
    (recorded : ((new c : Desk d).after acts).unrecorded = []) {organization : Uuid}
    {event : UsageEvent} {p : Return → Bool}
    (counted : ∀ r : Return, r.event? = some (organization, event) ↔ p r = true) :
    ((((new c : Desk d).after acts).usage.countsFor organization).of event).toNat =
      ((new c : Desk d).returns acts).countP p % 2 ^ 64 := by
  rw [of_countsFor_after recorded, UInt64.toNat_ofNat']
  congr 1
  exact List.countP_congr fun r _ => by rw [beq_iff_eq, counted r]

theorem counts_tell_what_calls_returned (d : Defaults) (c : Coordinator)
    (acts : List (Timestamp × Act)) (recorded : ((new c : Desk d).after acts).unrecorded = [])
    (organization : Uuid) :
    let counts := ((new c : Desk d).after acts).usage.countsFor organization
    let returned := (new c : Desk d).returns acts
    counts.walletsCreated.toNat = returned.countP (·.succeeds .wallet organization) % 2 ^ 64 ∧
      counts.signaturesProduced.toNat =
        returned.countP (·.succeeds .signature organization) % 2 ^ 64 ∧
      counts.ceremoniesFailed.toNat = returned.countP (·.fails organization) % 2 ^ 64 ∧
      ∀ earlier now act later, acts = earlier ++ (now, act) :: later →
        (((new c : Desk d).after earlier).step now act).2.usage.countsFor organization ≠
          ((new c : Desk d).after earlier).usage.countsFor organization →
        (∃ i, act = .record i) ∧ ∃ r ∈ (new c : Desk d).returns earlier,
          r.organization = organization ∧ r.event?.isSome = true := by
  refine ⟨?_, ?_, ?_, ?_⟩
  · exact toNat_countsFor_after recorded fun r => r.event_eq_success .wallet
  · exact toNat_countsFor_after recorded fun r => r.event_eq_success .signature
  · exact toNat_countsFor_after recorded fun r => Return.event_eq_failed
  · intro earlier now act later _ changed
    exact changes_of_step earlier now act organization changed

def alice : Context := ⟨"alice", ⟨1⟩, [.walletsCreate]⟩

def bob : Context := ⟨"bob", ⟨2⟩, [.transactionsSign]⟩

def overlap : List (Timestamp × Act) :=
  [(⟨1, 0⟩, .call ⟨"S1"⟩ (fun _ => 0) ⟨alice, .wallet ⟨"alice", some 1, some 1⟩⟩),
    (⟨2, 0⟩, .call ⟨"S2"⟩ (fun _ => 0) ⟨bob, .signature ⟨"0xAB", "AQ==", some 1, some 1⟩⟩),
    (⟨3, 0⟩, .turn (.answer ⟨"S2"⟩ (.ack ⟨⟨"S2"⟩, false, none⟩))),
    (⟨4, 0⟩, .turn (.answer ⟨"S1"⟩ (.ack ⟨⟨"S1"⟩, true, none⟩))),
    (⟨5, 0⟩, .turn (.deliver (.publish ⟨"S1"⟩ (.keygen "c2hhcmU=" "0xABC")))),
    (⟨6, 0⟩, .turn (.attend ⟨"S1"⟩ false)),
    (⟨7, 0⟩, .call ⟨"S3"⟩ (fun _ => 0) ⟨bob, .wallet ⟨"bob", none, none⟩⟩),
    (⟨8, 0⟩, .record 1),
    (⟨9, 0⟩, .record 0)]

theorem counts_tell_what_calls_returned_overlap :
    ((new .oneNode : Desk .standard).after overlap).unrecorded = [] ∧
      (((new .oneNode : Desk .standard).after overlap).usage.countsFor ⟨1⟩).walletsCreated.toNat = 1 ∧
      (((new .oneNode : Desk .standard).after overlap).usage.countsFor ⟨2⟩).ceremoniesFailed.toNat =
        1 := by
  have recorded : ((new .oneNode : Desk .standard).after overlap).unrecorded = [] := by
    decide +kernel
  have first := counts_tell_what_calls_returned .standard .oneNode overlap recorded ⟨1⟩
  have second := counts_tell_what_calls_returned .standard .oneNode overlap recorded ⟨2⟩
  have wallets : ((new .oneNode : Desk .standard).returns overlap).countP
      (·.succeeds .wallet ⟨1⟩) = 1 := by decide +kernel
  have failures : ((new .oneNode : Desk .standard).returns overlap).countP (·.fails ⟨2⟩) = 1 := by
    decide +kernel
  exact ⟨recorded, first.1.trans (by rw [wallets]; rfl),
    second.2.2.1.trans (by rw [failures]; rfl)⟩

end Desk

end Conclave

import Conclave.Proofs.Clock
import Conclave.Proofs.FailureLimit
import Mathlib.Data.Fintype.EquivFin

namespace Conclave

theorem Timestamp.before_of_before_of_le {a b c : Timestamp} (hab : a.before b = true) (hbc : b ≤ c) :
    a.before c = true := by
  rw [le_iff] at hbc
  simp only [before, Bool.or_eq_true, Bool.and_eq_true, decide_eq_true_eq] at hab ⊢
  omega

theorem HealthChecker.countFailure_of_not_le {limit failures : UInt32}
    (below : ¬ limit ≤ countFailure failures) :
    (countFailure failures).toNat = failures.toNat + 1 ∧ failures.toNat + 1 < limit.toNat := by
  have hlimit := limit.toNat_lt
  rw [UInt32.le_iff_toNat_le] at below
  rw [countFailure_toNat] at below ⊢
  omega

namespace Watch

def status? (id : NodeId) (w : Watch) : Option NodeStatus := (w.registry.get? id).map Node.status

def Fells (id : NodeId) (now : Timestamp) (round : Nat) (outcome : ProbeOutcome) (w : Watch) : Prop :=
  w.status? id ≠ some .offline ∧
    (w.step now (.settle round id outcome)).status? id = some .offline

instance (id : NodeId) (now : Timestamp) (round : Nat) (outcome : ProbeOutcome) (w : Watch) :
    Decidable (Fells id now round outcome w) := inferInstanceAs (Decidable (_ ∧ _))

def Stays (id : NodeId) (now : Timestamp) (later : List (Timestamp × Event)) : Prop :=
  ∀ e ∈ later, now ≤ e.1 ∧ e.2 ≠ .operate (.deregister id)

instance (id : NodeId) (now : Timestamp) (later : List (Timestamp × Event)) :
    Decidable (Stays id now later) := inferInstanceAs (Decidable (∀ e ∈ later, _ ∧ _))

def Earned (id : NodeId) (now : Timestamp) (entered : Watch) : Prop :=
  ∀ later, Stays id now later → ∀ t round outcome, now ≤ t →
    Fells id t round outcome (reached entered later) →
      entered.checker.maxConsecutiveFailures.toNat ≤
        failuresInRow (heard id entered ((t, .settle round id outcome) :: later))

section Fells

variable {id : NodeId} {now : Timestamp} {round : Nat} {outcome : ProbeOutcome} {w : Watch} {n : Node}

theorem status?_of_get? (h : w.registry.get? id = some n) : w.status? id = some n.status := by
  rw [status?, h]
  rfl

theorem Fells.cause (fells : Fells id now round outcome w) :
    outcome = .failed ∧
      w.checker.maxConsecutiveFailures ≤ HealthChecker.countFailure (w.checker.failuresOf id) ∧
      ∃ c n, w.copy? round id = some c ∧ w.registry.get? id = some n ∧
        c.lastSeen.before n.lastSeen = false := by
  obtain ⟨hbefore, hafter⟩ := fells
  cases hcopied : w.copy? round id with
  | none =>
      simp only [step, hcopied] at hafter
      exact absurd hafter hbefore
  | some c =>
      obtain ⟨-, rfl⟩ := copy?_eq_some hcopied
      have hregistry : (w.step now (.settle round c.id outcome)).registry =
          (w.checker.settle now c outcome w.registry).2 := by
        simp only [step, hcopied]
      have hwritten : ∀ verdict, (w.checker.settle now c outcome w.registry).2 =
          (w.registry.applyProbe now c.id c.lastSeen verdict).2 →
          ∃ n, w.registry.get? c.id = some n ∧ c.lastSeen.before n.lastSeen = false ∧
            (Registry.applyVerdict now n verdict).status = .offline := by
        intro verdict hwrites
        rw [status?, hregistry, hwrites] at hafter
        cases applied : (w.registry.applyProbe now c.id c.lastSeen verdict).1 with
        | false =>
            rw [Registry.applyProbe, Registry.change_of_refused applied] at hafter
            exact absurd hafter hbefore
        | true =>
            obtain ⟨n, hn, happlies⟩ := Registry.change_applied.1 applied
            rw [Registry.get?_applyProbe applied hn] at hafter
            exact ⟨n, hn, (Registry.probeApplies_iff.1 happlies).2, Option.some.inj hafter⟩
      cases outcome with
      | healthy latency load =>
          obtain ⟨n, -, -, hstatus⟩ := hwritten (.reachable load) rfl
          cases hstatus
      | failed =>
          by_cases hlimit : w.checker.maxConsecutiveFailures ≤
              HealthChecker.countFailure (w.checker.failuresOf c.id) ∧ c.status ≠ .offline
          · obtain ⟨n, hn, hseen, -⟩ := hwritten .unreachable
              (by rw [HealthChecker.settle_failed, if_pos hlimit])
            exact ⟨rfl, hlimit.1, c, n, rfl, hn, hseen⟩
          · rw [status?, hregistry, HealthChecker.settle_failed, if_neg hlimit] at hafter
            exact absurd hafter hbefore

end Fells

section Seen

variable {id : NodeId} {now : Timestamp} {e : Event} {w : Watch} {n : Node}
  {past later : List (Timestamp × Event)}

theorem seen_step (h : (w.step now e).registry.get? id = some n) :
    n.lastSeen = now ∨ ∃ m, w.registry.get? id = some m ∧ m.lastSeen = n.lastSeen := by
  rcases registry_step now w e with hsame | ⟨op, hop⟩
  · exact Or.inr ⟨n, hsame ▸ h, rfl⟩
  · rcases Registry.seen_apply (hop ▸ h) with ⟨-, -, hnow⟩ | ⟨-, hold⟩
    · exact Or.inl hnow
    · exact Or.inr hold

theorem mem_times_of_get? {checker : HealthChecker}
    (h : (reached (new checker) past).registry.get? id = some n) :
    n.lastSeen ∈ past.map Prod.fst := by
  induction past generalizing n with
  | nil => cases h
  | cons e past ih =>
      rw [List.map_cons]
      rcases seen_step h with hnow | ⟨m, hm, hseen⟩
      · exact hnow ▸ List.mem_cons_self
      · exact List.mem_cons_of_mem _ (hseen ▸ ih hm)

theorem mem_times_of_copy {checker : HealthChecker} {round : Nat}
    (h : n ∈ (reached (new checker) past).copies round) : n.lastSeen ∈ past.map Prod.fst := by
  induction past with
  | nil => cases h
  | cons e past ih =>
      rw [List.map_cons]
      refine List.mem_cons_of_mem _ ?_
      cases bears n.id e.1 e.2 (reached (new checker) past) with
      | nothing _ _ _ _ copies => exact ih ((copies round n rfl).1 h)
      | writes _ _ _ _ copies => exact ih ((copies round n rfl).1 h)
      | copies k _ _ _ _ copies =>
          have hmem := (copies round n rfl).1 h
          split at hmem
          · obtain ⟨⟨id, hn⟩, -⟩ := HealthChecker.mem_targets.1 hmem
            exact mem_times_of_get? hn
          · exact ih hmem
      | hears _ _ _ _ _ _ _ copies => exact ih ((copies round n rfl).1 h).2
      | forgets _ _ _ _ _ _ _ copies => exact ih ((copies round n rfl).1 h)

theorem le_lastSeen (times : ∀ e ∈ later, now ≤ e.1)
    (first : ∀ m, w.registry.get? id = some m → now ≤ m.lastSeen)
    (h : (reached w later).registry.get? id = some n) : now ≤ n.lastSeen := by
  induction later generalizing n with
  | nil => exact first n h
  | cons e later ih =>
      obtain ⟨htime, htimes⟩ := List.forall_mem_cons.1 times
      rcases seen_step h with hnow | ⟨m, hm, hseen⟩
      · exact hnow ▸ htime
      · exact hseen ▸ ih htimes hm

end Seen

section Counted

variable {id : NodeId} {now : Timestamp} {w : Watch} {later : List (Timestamp × Event)}

theorem failuresOf_le (uncounted : w.checker.failuresOf id = 0)
    (unprobed : ∀ round, ∀ c ∈ w.copies round, c.id ≠ id) (later : List (Timestamp × Event)) :
    ((reached w later).checker.failuresOf id).toNat ≤ failuresInRow (heard id w later) := by
  induction later with
  | nil =>
      rw [reached, uncounted]
      exact Nat.zero_le _
  | cons turn later ih =>
      obtain ⟨t, e⟩ := turn
      have kept : (reached w ((t, e) :: later)).checker.history.get? id =
          (reached w later).checker.history.get? id →
          heard id w ((t, e) :: later) = heard id w later →
          ((reached w ((t, e) :: later)).checker.failuresOf id).toNat ≤
            failuresInRow (heard id w ((t, e) :: later)) := by
        intro history hheard
        rw [HealthChecker.failuresOf, history, hheard]
        exact ih
      cases bears id t e (reached w later) with
      | nothing silent _ _ history => exact kept history (heard_of_silent silent)
      | writes _ event _ history => exact kept history (by rw [event]; rfl)
      | copies _ event _ _ history => exact kept history (by rw [event]; rfl)
      | hears round outcome c event copied _ history =>
          subst event
          obtain ⟨-, rfl⟩ := copy?_eq_some copied
          rw [reached, HealthChecker.failuresOf_of_get? history, heard_settle unprobed copied]
          cases outcome with
          | healthy latency load => exact Nat.zero_le _
          | failed =>
              rw [HealthChecker.assess, HealthChecker.countFailure_toNat, failuresInRow]
              omega
      | forgets _ _ _ _ _ _ history =>
          rw [reached, HealthChecker.failuresOf_of_none history]
          exact Nat.zero_le _

theorem earned_of_untainted (uncounted : w.checker.failuresOf id = 0)
    (unprobed : ∀ round, ∀ c ∈ w.copies round, c.id ≠ id) : Earned id now w := by
  intro later _ t round outcome _ fells
  obtain ⟨rfl, hlimit, c, n, hcopied, -⟩ := fells.cause
  have hcount := failuresOf_le uncounted unprobed later
  rw [limit_reached, UInt32.le_iff_toNat_le, HealthChecker.countFailure_toNat] at hlimit
  rw [heard_settle unprobed hcopied, failuresInRow]
  omega

theorem earned_of_one (single : w.checker.maxConsecutiveFailures = 1)
    (came : ∀ n, w.registry.get? id = some n → now ≤ n.lastSeen)
    (old : ∀ round, ∀ c ∈ w.copies round, c.lastSeen.before now = true) : Earned id now w := by
  intro later stays t round outcome _ fells
  obtain ⟨rfl, -, c, n, hcopied, hn, hseen⟩ := fells.cause
  have hbegan : began w round later = true := by
    by_contra hold
    have hmem := mem_copies_of_old (Bool.eq_false_iff.2 hold) (copy?_eq_some hcopied).1
    have hstale := Timestamp.before_of_before_of_le (old round c hmem)
      (le_lastSeen (fun e he => (stays e he).1) came hn)
    rw [hseen] at hstale
    cases hstale
  rw [single, heard, if_pos ⟨rfl, hbegan, by rw [hcopied]; rfl⟩, failuresInRow]
  exact Nat.le_add_left 1 _

end Counted

section Tainted

variable {id : NodeId} {now : Timestamp} {w : Watch} {later : List (Timestamp × Event)} {n : Node}

theorem exists_new_round (w : Watch) : ∃ round, w.rounds.contains round = false := by
  obtain ⟨round, hround⟩ := Infinite.exists_notMem_finset (w.rounds.keys.toFinset)
  refine ⟨round, Keyed.contains_eq_false.2 (Keyed.lookup_eq_none.2 fun hmem => hround ?_)⟩
  exact List.mem_toFinset.2 hmem

theorem exists_copy? {round : Nat} (h : n ∈ w.copies round) : ∃ c, w.copy? round n.id = some c := by
  rw [← Option.isSome_iff_exists, copy?, List.find?_isSome]
  exact ⟨n, h, by simp⟩

theorem copy?_begin {t : Timestamp} {round : Nat} (new : w.rounds.contains round = false)
    (named : w.registry.Named) (stands : w.registry.get? id = some n)
    (present : n.status ≠ .maintenance) :
    (w.step t (.begin round)).copy? round id = some n := by
  obtain rfl : n.id = id := named id n stands
  have hcopies : (w.step t (.begin round)).copies round = HealthChecker.targets w.registry := by
    rw [copies_begin new, if_pos rfl]
  have htarget : n ∈ (w.step t (.begin round)).copies round :=
    hcopies ▸ HealthChecker.mem_targets.2 ⟨⟨n.id, stands⟩, present⟩
  obtain ⟨c, hcopied⟩ := exists_copy? htarget
  obtain ⟨hmem, hid⟩ := copy?_eq_some hcopied
  rw [hcopied, ← stands, ← hid, HealthChecker.get?_of_mem_targets named (hcopies ▸ hmem)]

theorem Stays.nil : Stays id now [] := List.forall_mem_nil _

theorem Stays.next {e : Event} (stays : Stays id now later) (calm : e ≠ .operate (.deregister id)) :
    Stays id now ((now, e) :: later) := by
  intro turn hturn
  rcases List.mem_cons.1 hturn with rfl | hturn
  · exact ⟨le_refl now, calm⟩
  · exact stays turn hturn

theorem another_failure (now : Timestamp) (named : w.registry.Named)
    (stands : (reached w later).registry.get? id = some n) (present : n.status ≠ .maintenance) :
    ∃ round,
      let begun := (now, Event.begin round) :: later
      let failed := (now, Event.settle round id .failed) :: begun
      (reached w begun).registry = (reached w later).registry ∧
      (reached w failed).registry.get? id = some (HealthChecker.judge now
        w.checker.maxConsecutiveFailures ((reached w later).checker.failuresOf id) n .failed) ∧
      (reached w failed).checker.failuresOf id =
        HealthChecker.countFailure ((reached w later).checker.failuresOf id) ∧
      heard id w failed = .failed :: heard id w later := by
  obtain ⟨round, new⟩ := exists_new_round (reached w later)
  refine ⟨round, ?_⟩
  intro begun failed
  obtain rfl : n.id = id := named_reached named id n stands
  have hidle : (reached w begun).registry = (reached w later).registry ∧
      (reached w begun).checker = (reached w later).checker := by
    simp only [begun, reached, step, new, Bool.false_eq_true, if_false, and_self]
  have hcopied : (reached w begun).copy? round n.id = some n :=
    copy?_begin new (named_reached named) stands present
  have hbegan : began w round begun = true := by
    simp [begun, began, new]
  have hfailed : reached w failed = (reached w begun).step now (.settle round n.id .failed) := rfl
  refine ⟨hidle.1, ?_, ?_, ?_⟩
  · have hsettled := HealthChecker.registry_settle now .failed (reached w begun).checker
      (hidle.1 ▸ stands) rfl rfl present
    rw [limit_reached, hidle.2] at hsettled
    simpa only [hfailed, step, hcopied, hidle.2] using hsettled
  · have hnoted : (reached w failed).checker.history.get? n.id =
        some ((reached w begun).checker.assess now n .failed) := by
      simp only [hfailed, step, hcopied, HealthChecker.history_settle, if_true]
    rw [HealthChecker.failuresOf_of_get? hnoted, hidle.2]
    rfl
  · rw [heard, if_pos ⟨rfl, hbegan, by rw [hcopied]; rfl⟩]
    rfl

theorem not_earned_of_ahead (named : w.registry.Named) (stays : Stays id now later)
    (stands : (reached w later).registry.get? id = some n) (online : n.status = .online)
    (ahead : failuresInRow (heard id w later) < ((reached w later).checker.failuresOf id).toNat)
    (early : failuresInRow (heard id w later) + 1 < w.checker.maxConsecutiveFailures.toNat) :
    ¬ Earned id now w := by
  intro earned
  -- the induction is on the failures that the count leaves room for: another failed round adds one
  -- to the count and one to what was heard, so the count stays ahead until it reaches the limit
  generalize hroom : w.checker.maxConsecutiveFailures.toNat -
    ((reached w later).checker.failuresOf id).toNat = room
  induction room using Nat.strongRecOn generalizing later n with
  | ind room ih =>
      obtain ⟨round, hbegun, hjudged, hcount, hheard⟩ :=
        another_failure now named stands (by rw [online]; decide)
      have hstays := stays.next (e := .begin round) (by simp)
      by_cases hlimit : w.checker.maxConsecutiveFailures ≤
          HealthChecker.countFailure ((reached w later).checker.failuresOf id)
      · rw [HealthChecker.judge, if_pos hlimit] at hjudged
        have hfells : Fells id now round .failed (reached w ((now, .begin round) :: later)) := by
          refine ⟨?_, status?_of_get? hjudged⟩
          rw [status?, hbegun, stands, Option.map_some, online]
          decide
        have henough := earned _ hstays now round .failed (le_refl now) hfells
        rw [hheard, failuresInRow] at henough
        omega
      · rw [HealthChecker.judge, if_neg hlimit] at hjudged
        obtain ⟨hmore, hbelow⟩ := HealthChecker.countFailure_of_not_le hlimit
        refine ih _ ?_ (hstays.next (e := .settle round id .failed) (by simp)) hjudged online ?_ ?_ rfl
        · rw [hcount, hmore]
          omega
        · rw [hcount, hmore, hheard, failuresInRow]
          omega
        · rw [hheard, failuresInRow]
          omega

end Tainted

theorem not_earned_of_copy {id : NodeId} {now : Timestamp} {w : Watch} {n c : Node} {round : Nat}
    (named : w.registry.Named) (stands : w.registry.get? id = some n) (online : n.status = .online)
    (limit : 1 < w.checker.maxConsecutiveFailures.toNat) (uncounted : w.checker.failuresOf id = 0)
    (probed : c ∈ w.copies round) (copy : c.id = id) : ¬ Earned id now w := by
  subst copy
  obtain ⟨c', hcopied⟩ := exists_copy? probed
  obtain ⟨-, hid⟩ := copy?_eq_some hcopied
  have hcount : (HealthChecker.countFailure (w.checker.failuresOf c.id)).toNat = 1 := by
    rw [uncounted]
    rfl
  have hfew : ¬ w.checker.maxConsecutiveFailures ≤
      HealthChecker.countFailure (w.checker.failuresOf c.id) := by
    rw [UInt32.le_iff_toNat_le, hcount]
    exact Nat.not_le_of_lt limit
  let failed : List (Timestamp × Event) := [(now, .settle round c.id .failed)]
  have hregistry : (reached w failed).registry = w.registry := by
    simp only [failed, reached, step, hcopied, HealthChecker.settle_failed, hid]
    exact if_neg fun hboth => hfew hboth.1
  have hnoted : (reached w failed).checker.history.get? c.id =
      some (w.checker.assess now c' .failed) := by
    simp only [failed, reached, step, hcopied, HealthChecker.history_settle, hid, if_true]
  have hfailures : ((reached w failed).checker.failuresOf c.id).toNat = 1 := by
    rw [HealthChecker.failuresOf_of_get? hnoted, HealthChecker.assess, hid, hcount]
  have hheard : heard c.id w failed = [] := by
    rw [heard, if_neg (by rintro ⟨-, hbegan, -⟩; cases hbegan)]
    rfl
  have hstays : Stays c.id now failed := Stays.nil.next (by simp)
  refine not_earned_of_ahead named hstays (hregistry ▸ stands) online ?_ ?_
  · rw [hheard, hfailures]
    exact Nat.one_pos
  · rw [hheard]
    exact limit

theorem untainted_of_round {id : NodeId} {w : Watch} {round : Nat} (now : Timestamp)
    (outcome : Node → ProbeOutcome) (named : w.registry.Named)
    (absent : w.registry.contains id = false) (unprobed : ∀ round, ∀ c ∈ w.copies round, c.id ≠ id)
    (new : w.rounds.get? round = none) :
    let after := reached w (uninterrupted now round (HealthChecker.targets w.registry) outcome)
    after.checker.failuresOf id = 0 ∧ ∀ round, ∀ c ∈ after.copies round, c.id ≠ id := by
  intro after
  obtain ⟨hround, hrounds⟩ := reached_uninterrupted now outcome named new
  have hchecker : after.checker = (HealthChecker.settleAll now outcome
      (HealthChecker.targets w.registry) w.checker w.registry).1.forgetDeparted
        (HealthChecker.settleAll now outcome (HealthChecker.targets w.registry) w.checker
          w.registry).2 := congrArg Prod.fst hround
  constructor
  · refine HealthChecker.failuresOf_of_none ?_
    rw [hchecker, HealthChecker.history_forgetDeparted, HealthChecker.contains_settleAll, absent]
    rfl
  · intro k c hc
    rw [copies_of_same (hrounds k)] at hc
    exact unprobed k c hc

theorem offline_earned_iff {h : HealthChecker} {past : List (Timestamp × Event)} {now : Timestamp}
    {id : NodeId} (address : String) (limit : 1 ≤ h.maxConsecutiveFailures)
    (clock : ∀ e ∈ past, e.1.before now = true) :
    let entered := reached (new h) ((now, .operate (.register id address)) :: past)
    Earned id now entered ↔
      h.maxConsecutiveFailures = 1 ∨
        (entered.checker.failuresOf id = 0 ∧ ∀ round, ∀ c ∈ entered.copies round, c.id ≠ id) := by
  intro entered
  have hnode : entered.registry.get? id =
      some { Node.fresh now id address with
        activeTasks := (((reached (new h) past).registry.get? id).map Node.activeTasks).getD 0 } :=
    (Registry.get?_register ..).trans (if_pos rfl)
  have hlimit : entered.checker.maxConsecutiveFailures = h.maxConsecutiveFailures :=
    limit_reached (new h) ((now, .operate (.register id address)) :: past)
  have hnamed : (reached (new h) ((now, .operate (.register id address)) :: past)).registry.Named :=
    named_reached Registry.named_empty
  constructor
  · intro earned
    refine or_iff_not_imp_left.2 fun several => ?_
    have hseveral : 1 < entered.checker.maxConsecutiveFailures.toNat := by
      have hpos := UInt32.le_iff_toNat_le.1 limit
      have hone : h.maxConsecutiveFailures.toNat ≠ 1 := fun hone => several (UInt32.toNat_inj.1 hone)
      rw [hlimit]
      exact lt_of_le_of_ne hpos (Ne.symm hone)
    have huncounted : entered.checker.failuresOf id = 0 := by
      by_contra hcounted
      have hahead : 0 < (entered.checker.failuresOf id).toNat :=
        Nat.pos_of_ne_zero fun hzero => hcounted (UInt32.toNat_inj.1 hzero)
      exact not_earned_of_ahead hnamed .nil hnode rfl hahead hseveral earned
    exact ⟨huncounted, fun round c hc hid =>
      not_earned_of_copy hnamed hnode rfl hseveral huncounted hc hid earned⟩
  · rintro (single | ⟨uncounted, unprobed⟩)
    · refine earned_of_one (hlimit.trans single) ?_ ?_
      · intro n hn
        cases hnode.symm.trans hn
        exact le_refl now
      · intro round c hc
        have hold : c ∈ (reached (new h) past).copies round := hc
        obtain ⟨e, he, htime⟩ := List.mem_map.1 (mem_times_of_copy hold)
        exact htime ▸ clock e he
    · exact earned_of_untainted uncounted unprobed

def lenient : HealthChecker := ⟨.ofSeconds 10, .ofSeconds 5, 2, .empty⟩

def failedAndLeft : List (Timestamp × Event) :=
  [(⟨6, 0⟩, .operate (.deregister ⟨1⟩)),
    (⟨5, 0⟩, .close 1), (⟨4, 0⟩, .survey 1), (⟨3, 0⟩, .settle 1 ⟨1⟩ .failed), (⟨2, 0⟩, .begin 1),
    (⟨1, 0⟩, .operate (.register ⟨1⟩ "http://127.0.0.1:9"))]

def away : Watch := reached (new lenient) failedAndLeft

def returned : Watch :=
  reached (new lenient)
    ((⟨7, 0⟩, .operate (.register ⟨1⟩ "http://127.0.0.1:9")) :: failedAndLeft)

theorem offline_after_one_of_two :
    away.registry.contains ⟨1⟩ = false ∧
      Fells ⟨1⟩ ⟨9, 0⟩ 2 .failed (reached returned [(⟨8, 0⟩, .begin 2)]) ∧
      heard ⟨1⟩ returned [(⟨9, 0⟩, .settle 2 ⟨1⟩ .failed), (⟨8, 0⟩, .begin 2)] = [.failed] ∧
      ¬ Earned ⟨1⟩ ⟨7, 0⟩ returned := by
  have hfells : Fells ⟨1⟩ ⟨9, 0⟩ 2 .failed (reached returned [(⟨8, 0⟩, .begin 2)]) := by decide +kernel
  have hheard : heard ⟨1⟩ returned [(⟨9, 0⟩, .settle 2 ⟨1⟩ .failed), (⟨8, 0⟩, .begin 2)] =
      [.failed] := by decide +kernel
  refine ⟨by decide +kernel, hfells, hheard, fun earned => ?_⟩
  have hstays : Stays ⟨1⟩ ⟨7, 0⟩ [(⟨8, 0⟩, .begin 2)] := by decide
  have henough := earned _ hstays ⟨9, 0⟩ 2 .failed (by decide) hfells
  rw [hheard] at henough
  exact absurd henough (by decide +kernel)

theorem offline_earned_iff_forgotten :
    Earned ⟨1⟩ ⟨8, 0⟩ (reached (new lenient)
      ((⟨8, 0⟩, .operate (.register ⟨1⟩ "http://127.0.0.1:9")) ::
        (uninterrupted ⟨7, 0⟩ 2 (HealthChecker.targets away.registry) (fun _ => .failed) ++
          failedAndLeft))) := by
  have named : away.registry.Named := named_reached Registry.named_empty
  have rest : away.atRest = true := by decide +kernel
  have new : away.rounds.get? 2 = none := by decide +kernel
  have untainted := untainted_of_round ⟨7, 0⟩ (fun _ => .failed) named (by decide +kernel)
    (unprobed_of_atRest rest ⟨1⟩) new
  refine (offline_earned_iff "http://127.0.0.1:9" (by decide) (by decide +kernel)).2 (Or.inr ?_)
  rw [reached, reached_append]
  exact untainted

end Watch

end Conclave

import Conclave.Proofs.Rounds

namespace Conclave

namespace Binary64

theorem rank_zeros : negativeZero.rank = -1 ∧ one.rank = oneMagnitude := by decide

theorem clampUnit_eq (x : Binary64) :
    x.clampUnit =
      if x.isFinite = false then one
      else if x.rank < negativeZero.rank then zero
      else if one.rank < x.rank then one
      else x := by
  rw [rank_zeros.1, rank_zeros.2, clampUnit]
  cases x.isFinite with
  | false => rfl
  | true =>
      rw [if_pos rfl, if_neg (show ¬ true = false by decide)]
      cases hnegative : x.isNegative with
      | true =>
          have hrank : x.rank = -(x.magnitude : Int) - 1 := if_pos hnegative
          have hone : ¬ (oneMagnitude : Int) < x.rank := by omega
          rw [if_pos rfl, if_neg hone]
          by_cases hzero : x.magnitude = 0
          · have hbelow : ¬ x.rank < -1 := by omega
            rw [if_pos hzero, if_neg hbelow]
          · have hbelow : x.rank < -1 := by omega
            rw [if_neg hzero, if_pos hbelow]
      | false =>
          have hrank : x.rank = x.magnitude := if_neg (by rw [hnegative]; decide)
          have hzero : ¬ x.rank < -1 := by omega
          rw [if_neg (show ¬ false = true by decide), if_neg hzero, hrank]
          exact if_congr Int.ofNat_lt.symm rfl rfl

end Binary64

namespace ProbeOutcome

def isHealthy : ProbeOutcome → Bool
  | .healthy _ _ => true
  | .failed => false

def load? : ProbeOutcome → Option Load
  | .healthy _ load => load
  | .failed => none

end ProbeOutcome

def failuresInRow : List ProbeOutcome → Nat
  | .failed :: rest => failuresInRow rest + 1
  | _ => 0

def lastLoad? (outcomes : List ProbeOutcome) : Option Load := outcomes.findSome? ProbeOutcome.load?

def standing (limit : UInt32) (outcomes : List ProbeOutcome) : NodeStatus :=
  if limit.toNat ≤ failuresInRow outcomes then .offline else .online

theorem standing_of_le {limit : UInt32} {outcomes : List ProbeOutcome}
    (h : limit.toNat ≤ failuresInRow outcomes) : standing limit outcomes = .offline :=
  if_pos h

theorem standing_of_lt {limit : UInt32} {outcomes : List ProbeOutcome}
    (h : failuresInRow outcomes < limit.toNat) : standing limit outcomes = .online :=
  if_neg (Nat.not_le_of_lt h)

theorem standing_ne_maintenance (limit : UInt32) (outcomes : List ProbeOutcome) :
    standing limit outcomes ≠ .maintenance := by
  unfold standing
  split <;> decide

namespace Registry

def Operation.disturbs (id : NodeId) : Operation → Bool
  | .register k _ => decide (k = id)
  | .deregister k => decide (k = id)
  | .report k _ _ => decide (k = id)
  | .probe k _ _ => decide (k = id)
  | .busy _ => false
  | .idle _ => false

theorem get?_apply_of_calm {now : Timestamp} {op : Operation} {r : Registry} {id : NodeId} {n : Node}
    (calm : op.disturbs id = false) (h : r.get? id = some n) :
    ∃ tasks, (r.apply now op).2.get? id = some { n with activeTasks := tasks } := by
  have aside : ∀ {k : NodeId} {applies : Node → Bool} {f : Node → Node}, k ≠ id →
      (r.change k applies f).2.get? id = some n := by
    intro k applies f hk
    rw [get?_change, if_neg (Ne.symm hk), h]
  have marked : ∀ (k : NodeId) (applies : Node → Bool) (f : UInt32 → UInt32), ∃ tasks,
      (r.change k applies fun n => { n with activeTasks := f n.activeTasks }).2.get? id =
        some { n with activeTasks := tasks } := by
    intro k applies f
    by_cases hk : k = id
    · subst hk
      rw [get?_change, if_pos rfl, h, Option.map_some]
      split
      · exact ⟨_, rfl⟩
      · exact ⟨n.activeTasks, rfl⟩
    · exact ⟨n.activeTasks, aside hk⟩
  cases op with
  | register k address =>
      refine ⟨n.activeTasks, ?_⟩
      rw [apply, get?_register, if_neg (Ne.symm (of_decide_eq_false calm)), h]
  | deregister k =>
      refine ⟨n.activeTasks, ?_⟩
      rw [apply, get?_deregister, if_neg (Ne.symm (of_decide_eq_false calm)), h]
  | report k load status => exact ⟨n.activeTasks, aside (of_decide_eq_false calm)⟩
  | probe k observed verdict => exact ⟨n.activeTasks, aside (of_decide_eq_false calm)⟩
  | busy k => exact marked k _ countUp
  | idle k => exact marked k _ fun tasks => tasks - 1

end Registry

namespace HealthChecker

def judge (now : Timestamp) (limit failures : UInt32) (n : Node) : ProbeOutcome → Node
  | .healthy _ load => Registry.applyVerdict now n (.reachable load)
  | .failed => if limit ≤ countFailure failures then { n with status := .offline } else n

theorem registry_settle (now : Timestamp) {c n : Node} (outcome : ProbeOutcome) (h : HealthChecker)
    {r : Registry} (stands : r.get? c.id = some n) (seen : c.lastSeen = n.lastSeen)
    (status : c.status = n.status) (present : n.status ≠ .maintenance) :
    (h.settle now c outcome r).2.get? c.id =
      some (judge now h.maxConsecutiveFailures (h.failuresOf c.id) n outcome) := by
  have applied : ∀ verdict, (r.applyProbe now c.id c.lastSeen verdict).1 = true := by
    intro verdict
    refine Registry.change_applied.2 ⟨n, stands, Registry.probeApplies_iff.2 ⟨present, ?_⟩⟩
    rw [seen, Timestamp.not_before_self]
  cases outcome with
  | healthy latency load => exact Registry.get?_applyProbe (applied _) stands
  | failed =>
      rw [settle_failed, judge]
      by_cases hlimit : h.maxConsecutiveFailures ≤ countFailure (h.failuresOf c.id)
      · by_cases hoffline : n.status = .offline
        · rw [if_neg (fun hboth => hboth.2 (status.trans hoffline)), if_pos hlimit, stands,
            ← hoffline]
        · rw [if_pos ⟨hlimit, fun hc => hoffline (status.symm.trans hc)⟩, if_pos hlimit]
          exact Registry.get?_applyProbe (applied _) stands
      · rw [if_neg (fun hboth => hlimit hboth.1), if_neg hlimit, stands]

def Notes (id : NodeId) (outcomes : List ProbeOutcome) (h : HealthChecker) : Prop :=
  (h.history.get? id).map (fun health => (health.isHealthy, health.consecutiveFailures.toNat)) =
    outcomes.head?.map fun outcome => (outcome.isHealthy, min (failuresInRow outcomes) 0xffffffff)

theorem Notes.failuresOf {h : HealthChecker} {id : NodeId} {outcomes : List ProbeOutcome}
    (notes : h.Notes id outcomes) :
    (h.failuresOf id).toNat = min (failuresInRow outcomes) 0xffffffff := by
  rw [HealthChecker.failuresOf]
  cases outcomes with
  | nil =>
      rw [Notes, List.head?_nil, Option.map_none, Option.map_eq_none_iff] at notes
      rw [notes]
      rfl
  | cons outcome rest =>
      obtain ⟨health, hhealth, heq⟩ := Option.map_eq_some_iff.1 notes
      rw [hhealth]
      exact congrArg Prod.snd heq

section Judge

variable {limit failures : UInt32} {outcomes : List ProbeOutcome} {n : Node}

theorem le_countFailure_iff (counted : failures.toNat = min (failuresInRow outcomes) 0xffffffff) :
    limit ≤ countFailure failures ↔ limit.toNat ≤ failuresInRow outcomes + 1 := by
  have hlimit := limit.toNat_lt
  rw [UInt32.le_iff_toNat_le, countFailure_toNat, counted]
  omega

theorem status_judge (now : Timestamp) (outcome : ProbeOutcome) (positive : 0 < limit.toNat)
    (counted : failures.toNat = min (failuresInRow outcomes) 0xffffffff)
    (status : n.status = standing limit outcomes) :
    (judge now limit failures n outcome).status = standing limit (outcome :: outcomes) := by
  cases outcome with
  | healthy latency load =>
      have hrow : failuresInRow (.healthy latency load :: outcomes) < limit.toNat := positive
      exact (standing_of_lt hrow).symm
  | failed =>
      rw [judge]
      by_cases hlimit : limit ≤ countFailure failures
      · have hrow : limit.toNat ≤ failuresInRow (.failed :: outcomes) :=
          (le_countFailure_iff counted).1 hlimit
        rw [if_pos hlimit, standing_of_le hrow]
      · have hrow : failuresInRow (.failed :: outcomes) < limit.toNat :=
          Nat.lt_of_not_le fun h => hlimit ((le_countFailure_iff counted).2 h)
        rw [if_neg hlimit, status, standing_of_lt (Nat.lt_of_succ_lt hrow), standing_of_lt hrow]

theorem load_judge (now : Timestamp) (limit failures : UInt32) (outcome : ProbeOutcome)
    {initial : Load} (load : n.load = (lastLoad? outcomes).elim initial Binary64.clampUnit) :
    (judge now limit failures n outcome).load =
      (lastLoad? (outcome :: outcomes)).elim initial Binary64.clampUnit := by
  cases outcome with
  | healthy latency reported =>
      cases reported with
      | none => exact load
      | some x => rfl
  | failed =>
      rw [judge]
      split <;> exact load

theorem assess_noted {h : HealthChecker} (now : Timestamp) (outcome : ProbeOutcome)
    (counted : (h.failuresOf n.id).toNat = min (failuresInRow outcomes) 0xffffffff) :
    (h.assess now n outcome).isHealthy = outcome.isHealthy ∧
      (h.assess now n outcome).consecutiveFailures.toNat =
        min (failuresInRow (outcome :: outcomes)) 0xffffffff := by
  cases outcome with
  | healthy latency load => exact ⟨rfl, rfl⟩
  | failed =>
      refine ⟨rfl, ?_⟩
      rw [assess, countFailure_toNat, counted, failuresInRow]
      omega

end Judge

end HealthChecker

namespace Watch

def Event.begins : Event → Bool
  | .begin _ => true
  | _ => false

def Event.disturbs (id : NodeId) : Event → Bool
  | .operate op => op.disturbs id
  | _ => false

def atRest (w : Watch) : Bool := w.rounds.entries.isEmpty

def Sequential (w : Watch) : List (Timestamp × Event) → Prop
  | [] => True
  | (_, e) :: later => Sequential w later ∧ (e.begins = true → (reached w later).atRest = true)

instance decidableSequential (w : Watch) :
    (later : List (Timestamp × Event)) → Decidable (Sequential w later)
  | [] => isTrue trivial
  | (_, _) :: later =>
      have := decidableSequential w later
      inferInstanceAs (Decidable (_ ∧ _))

def Undisturbed (id : NodeId) (later : List (Timestamp × Event)) : Prop :=
  ∀ e ∈ later, e.2.disturbs id = false

instance (id : NodeId) (later : List (Timestamp × Event)) : Decidable (Undisturbed id later) :=
  inferInstanceAs (Decidable (∀ e ∈ later, _))

def roundsBegun (later : List (Timestamp × Event)) : Nat := later.countP fun e => e.2.begins

section AtRest

variable {w : Watch} {later : List (Timestamp × Event)} {k : Nat}

theorem get?_of_atRest (rest : w.atRest = true) : w.rounds.get? k = none := by
  rw [Keyed.get?, List.isEmpty_iff.1 rest]
  rfl

theorem copies_of_atRest (rest : w.atRest = true) : w.copies k = [] := by
  rw [copies, get?_of_atRest rest]
  rfl

theorem unprobed_of_atRest (rest : w.atRest = true) (id : NodeId) :
    ∀ round, ∀ c ∈ w.copies round, c.id ≠ id := by
  intro round c hc
  rw [copies_of_atRest rest] at hc
  cases hc

theorem one_round (rest : w.atRest = true) (sequential : Sequential w later) {k' : Nat}
    (h : (reached w later).rounds.contains k = true)
    (h' : (reached w later).rounds.contains k' = true) : k = k' := by
  induction later with
  | nil =>
      rw [reached, Keyed.contains, get?_of_atRest rest] at h
      cases h
  | cons e later ih =>
      have alone : ∀ {i j : Nat}, e.2 = .begin i →
          (reached w later).rounds.contains j = true → False := by
        intro i j event hj
        have hrest := sequential.2 (by rw [event]; rfl)
        rw [Keyed.contains, get?_of_atRest hrest] at hj
        cases hj
      rcases contains_step h with hold | event
      · rcases contains_step h' with hold' | event'
        · exact ih sequential.1 hold hold'
        · exact (alone event' hold).elim
      · rcases contains_step h' with hold' | event'
        · exact (alone event hold').elim
        · exact Event.begin.inj (event.symm.trans event')

end AtRest

structure Obeys (id : NodeId) (node : Node) (w : Watch) (later : List (Timestamp × Event)) : Prop where
  standing : ∃ n, (reached w later).registry.get? id = some n ∧
    n.status = standing w.checker.maxConsecutiveFailures (heard id w later) ∧
    n.load = (lastLoad? (heard id w later)).elim node.load Binary64.clampUnit ∧
    ∀ k, ∀ c ∈ (reached w later).copies k, c.id = id →
      c.status = n.status ∧ c.lastSeen = n.lastSeen
  noted : (reached w later).checker.Notes id (heard id w later)
  known : ∀ k known, (reached w later).rounds.get? k = some (.surveyed known) →
    known.contains id = true
  waiting : ∀ k, ∀ c ∈ (reached w later).copies k, c.id = id →
    (heard id w later).length + 1 = roundsBegun later
  settled : (∀ k, ∀ c ∈ (reached w later).copies k, c.id ≠ id) →
    (heard id w later).length = roundsBegun later

section Obeys

variable {w : Watch} {later : List (Timestamp × Event)} {id : NodeId} {node : Node}
  {now : Timestamp} {e : Event}

theorem Obeys.nil (limit : 0 < w.checker.maxConsecutiveFailures.toNat) (rest : w.atRest = true)
    (registered : w.registry.get? id = some node) (online : node.status = .online)
    (unnoted : w.checker.history.get? id = none) : Obeys id node w [] := by
  have hcopies := unprobed_of_atRest rest id
  have hrow : failuresInRow (heard id w []) < w.checker.maxConsecutiveFailures.toNat := limit
  refine ⟨⟨node, registered, ?_, rfl, ?_⟩, ?_, ?_, ?_, fun _ => rfl⟩
  · exact online.trans (standing_of_lt hrow).symm
  · exact fun k c hc hid => absurd hid (hcopies k c hc)
  · rw [reached, HealthChecker.Notes, unnoted]
    rfl
  · intro k known hknown
    rw [reached, get?_of_atRest rest] at hknown
    cases hknown
  · exact fun k c hc hid => absurd hid (hcopies k c hc)

theorem Obeys.surveyed (obeys : Obeys id node w later) (k : Nat) (known : Registry)
    (h : (reached w ((now, e) :: later)).rounds.get? k = some (.surveyed known)) :
    known.contains id = true := by
  rcases surveyed_step h with hold | rfl
  · exact obeys.known k known hold
  · obtain ⟨n, hn, -⟩ := obeys.standing
    exact Registry.contains_iff.2 ⟨n, hn⟩

theorem roundsBegun_cons (now : Timestamp) (e : Event) (later : List (Timestamp × Event)) :
    roundsBegun ((now, e) :: later) = roundsBegun later + e.begins.toNat := by
  rw [roundsBegun, roundsBegun, List.countP_cons]
  cases e.begins <;> rfl

theorem Obeys.aside (obeys : Obeys id node w later) (calm : e.begins = false)
    (unheard : heard id w ((now, e) :: later) = heard id w later)
    (registry : ∀ n, (reached w later).registry.get? id = some n → ∃ tasks,
      (reached w ((now, e) :: later)).registry.get? id = some { n with activeTasks := tasks })
    (history : (reached w ((now, e) :: later)).checker.history.get? id =
      (reached w later).checker.history.get? id)
    (copies : ∀ k n, n.id = id →
      (n ∈ (reached w ((now, e) :: later)).copies k ↔ n ∈ (reached w later).copies k)) :
    Obeys id node w ((now, e) :: later) := by
  have hbegun : roundsBegun ((now, e) :: later) = roundsBegun later := by
    rw [roundsBegun_cons, calm]
    rfl
  obtain ⟨n, hn, hstatus, hload, hcopies⟩ := obeys.standing
  obtain ⟨tasks, hafter⟩ := registry n hn
  refine ⟨⟨_, hafter, ?_, ?_, ?_⟩, ?_, obeys.surveyed, ?_, ?_⟩
  · rw [unheard]
    exact hstatus
  · rw [unheard]
    exact hload
  · exact fun k c hc hid => hcopies k c ((copies k c hid).1 hc) hid
  · rw [HealthChecker.Notes, history, unheard]
    exact obeys.noted
  · intro k c hc hid
    rw [unheard, hbegun]
    exact obeys.waiting k c ((copies k c hid).1 hc) hid
  · intro hnone
    rw [unheard, hbegun]
    exact obeys.settled fun k c hc hid => hnone k c ((copies k c hid).2 hc) hid

theorem Obeys.begins (obeys : Obeys id node w later) (named : (reached w later).registry.Named)
    {round : Nat} (rest : (reached w later).atRest = true)
    (registry : (reached w ((now, .begin round) :: later)).registry.get? id =
      (reached w later).registry.get? id)
    (history : (reached w ((now, .begin round) :: later)).checker.history.get? id =
      (reached w later).checker.history.get? id)
    (copies : ∀ k n, n.id = id → (n ∈ (reached w ((now, .begin round) :: later)).copies k ↔
      if k = round then n ∈ HealthChecker.targets (reached w later).registry
      else n ∈ (reached w later).copies k)) :
    Obeys id node w ((now, .begin round) :: later) := by
  obtain ⟨n, hn, hstatus, hload, hcopies⟩ := obeys.standing
  have hid : n.id = id := named id n hn
  have hnone := unprobed_of_atRest rest id
  have htarget : n ∈ HealthChecker.targets (reached w later).registry :=
    HealthChecker.mem_targets.2 ⟨⟨id, hn⟩, by rw [hstatus]; exact standing_ne_maintenance _ _⟩
  have hself : ∀ k, ∀ c ∈ (reached w ((now, .begin round) :: later)).copies k, c.id = id → c = n := by
    intro k c hc hcid
    have hmem := (copies k c hcid).1 hc
    by_cases hk : k = round
    · rw [if_pos hk] at hmem
      have hc := HealthChecker.get?_of_mem_targets named hmem
      rw [hcid, hn] at hc
      exact (Option.some.inj hc).symm
    · rw [if_neg hk] at hmem
      exact absurd hcid (hnone k c hmem)
  refine ⟨⟨n, registry.trans hn, hstatus, hload, ?_⟩, ?_, obeys.surveyed, ?_, ?_⟩
  · intro k c hc hcid
    rw [hself k c hc hcid]
    exact ⟨rfl, rfl⟩
  · rw [HealthChecker.Notes, history]
    exact obeys.noted
  · intro k c _ _
    rw [roundsBegun_cons, ← obeys.settled hnone]
    rfl
  · intro hafter
    exact absurd hid (hafter round n ((copies round n hid).2 (by rwa [if_pos rfl])))

theorem Obeys.hears (limit : 0 < w.checker.maxConsecutiveFailures.toNat)
    (obeys : Obeys id node w later) {round : Nat} {outcome : ProbeOutcome} {c : Node}
    (alone : ∀ k, (reached w later).rounds.contains k = true → k = round)
    (copied : (reached w later).copy? round id = some c)
    (hheard : heard id w ((now, .settle round id outcome) :: later) = outcome :: heard id w later)
    (registry : (reached w ((now, .settle round id outcome) :: later)).registry =
      ((reached w later).checker.settle now c outcome (reached w later).registry).2)
    (history : (reached w ((now, .settle round id outcome) :: later)).checker.history.get? id =
      some ((reached w later).checker.assess now c outcome))
    (copies : ∀ k m, m.id = id → (m ∈ (reached w ((now, .settle round id outcome) :: later)).copies k ↔
      k ≠ round ∧ m ∈ (reached w later).copies k)) :
    Obeys id node w ((now, .settle round id outcome) :: later) := by
  obtain ⟨hmem, rfl⟩ := copy?_eq_some copied
  obtain ⟨n, hn, hstatus, hload, hcopies⟩ := obeys.standing
  obtain ⟨hcstatus, hcseen⟩ := hcopies round c hmem rfl
  have hfailures := obeys.noted.failuresOf
  have hnone : ∀ k, ∀ m ∈ (reached w ((now, .settle round c.id outcome) :: later)).copies k,
      m.id ≠ c.id := by
    intro k m hm hid
    obtain ⟨hk, hold⟩ := (copies k m hid).1 hm
    obtain ⟨stage, hstage⟩ := get?_of_mem hold
    exact hk (alone k (Keyed.contains_iff.2 ⟨stage, hstage⟩))
  have hafter := HealthChecker.registry_settle now outcome (reached w later).checker hn hcseen
    hcstatus (by rw [hstatus]; exact standing_ne_maintenance _ _)
  rw [limit_reached, ← registry] at hafter
  refine ⟨⟨_, hafter, ?_, ?_, fun k m hm hid => absurd hid (hnone k m hm)⟩, ?_, obeys.surveyed,
    fun k m hm hid => absurd hid (hnone k m hm), fun _ => ?_⟩
  · rw [hheard]
    exact HealthChecker.status_judge now outcome limit hfailures hstatus
  · rw [hheard]
    exact HealthChecker.load_judge now _ _ outcome hload
  · obtain ⟨hhealthy, hcount⟩ := HealthChecker.assess_noted now outcome hfailures
    rw [HealthChecker.Notes, history, hheard, Option.map_some, hhealthy, hcount]
    rfl
  · rw [hheard, roundsBegun_cons]
    exact obeys.waiting round c hmem rfl

theorem obeys (limit : 0 < w.checker.maxConsecutiveFailures.toNat) (named : w.registry.Named)
    (rest : w.atRest = true) (registered : w.registry.get? id = some node)
    (online : node.status = .online) (unnoted : w.checker.history.get? id = none)
    (sequential : Sequential w later) (undisturbed : Undisturbed id later) :
    Obeys id node w later := by
  have unprobed := unprobed_of_atRest rest id
  induction later with
  | nil => exact .nil limit rest registered online unnoted
  | cons turn later ih =>
      obtain ⟨now, e⟩ := turn
      have before := ih sequential.1 fun e he => undisturbed e (List.mem_cons_of_mem _ he)
      cases bears id now e (reached w later) with
      | nothing silent running registry history copies =>
          -- a round that is under way cannot begin again, since none is under way when one begins
          have calm : e.begins = false := by
            cases e with
            | begin round =>
                have hrest := get?_of_atRest (k := round) (sequential.2 rfl)
                have hrunning := running round rfl
                rw [Keyed.contains, hrest] at hrunning
                cases hrunning
            | _ => rfl
          exact before.aside calm (heard_of_silent silent)
            (fun n hn => ⟨n.activeTasks, registry.trans hn⟩) history copies
      | writes op event registry history copies =>
          subst event
          refine before.aside rfl rfl (fun n hn => ?_) history copies
          rw [reached, registry]
          exact Registry.get?_apply_of_calm (undisturbed _ List.mem_cons_self) hn
      | copies round event new registry history copies =>
          subst event
          exact before.begins (named_reached named) (sequential.2 rfl) registry history copies
      | hears round outcome c event copied registry history copies =>
          subst event
          have hround : (reached w later).rounds.contains round = true :=
            Keyed.contains_iff.2 (get?_of_mem (copy?_eq_some copied).1)
          exact before.hears limit (fun k hk => one_round rest sequential.1 hk hround) copied
            (heard_settle unprobed copied) registry history copies
      | forgets round known event surveyed missing =>
          rw [before.known round known surveyed] at missing
          cases missing

end Obeys

theorem failure_limit_automaton {w : Watch} {id : NodeId} {node : Node}
    {past : List (Timestamp × Event)} (limit : 1 ≤ w.checker.maxConsecutiveFailures)
    (named : w.registry.Named) (rest : w.atRest = true)
    (registered : w.registry.get? id = some node) (online : node.status = .online)
    (unnoted : w.checker.history.get? id = none) (sequential : Sequential w past)
    (undisturbed : Undisturbed id past) (ended : (reached w past).atRest = true)
    (probed : 0 < roundsBegun past) :
    (heard id w past).length = roundsBegun past ∧
    ∃ health n,
      (reached w past).checker.history.get? id = some health ∧
      (reached w past).registry.get? id = some n ∧
      health.consecutiveFailures.toNat = min (failuresInRow (heard id w past)) 0xffffffff ∧
      (health.isHealthy = true ↔
        ∃ latency load, (heard id w past).head? = some (.healthy latency load)) ∧
      (n.status = .offline ↔
        w.checker.maxConsecutiveFailures.toNat ≤ failuresInRow (heard id w past)) ∧
      (n.status = .online ↔
        failuresInRow (heard id w past) < w.checker.maxConsecutiveFailures.toNat) ∧
      n.load =
        match lastLoad? (heard id w past) with
        | none => node.load
        | some x =>
            if x.isFinite = false then .one
            else if x.rank < Binary64.negativeZero.rank then .zero
            else if Binary64.one.rank < x.rank then .one
            else x := by
  have hobeys := obeys (UInt32.le_iff_toNat_le.1 limit) named rest registered online unnoted
    sequential undisturbed
  have hlength := hobeys.settled (unprobed_of_atRest ended id)
  obtain ⟨n, hn, hstatus, hload, -⟩ := hobeys.standing
  obtain ⟨outcome, outcomes, hheard⟩ := List.exists_cons_of_length_pos (hlength ▸ probed)
  have hnoted := hobeys.noted
  rw [HealthChecker.Notes, hheard, List.head?_cons, Option.map_some] at hnoted
  obtain ⟨health, hhealth, hassessed⟩ := Option.map_eq_some_iff.1 hnoted
  obtain ⟨hhealthy, hcount⟩ := Prod.mk.inj hassessed
  refine ⟨hlength, health, n, hhealth, hn, hheard ▸ hcount, ?_, ?_, ?_, ?_⟩
  · rw [hhealthy, hheard, List.head?_cons]
    cases outcome <;> simp [ProbeOutcome.isHealthy]
  · rw [hstatus, Conclave.standing]
    split <;> simp_all
  · rw [hstatus, Conclave.standing]
    split <;> simp_all
  · rw [hload]
    cases lastLoad? (heard id w past) with
    | none => rfl
    | some x => exact Binary64.clampUnit_eq x

def untried (limit : UInt32) : Watch :=
  ⟨⟨.ofSeconds 10, .ofSeconds 5, limit, .empty⟩,
    (Registry.empty.apply ⟨0, 0⟩ (.register ⟨1⟩ "http://node1:8080")).2, .empty⟩

def threeRounds : List (Timestamp × Event) :=
  [(⟨33, 0⟩, .close 3), (⟨33, 0⟩, .survey 3), (⟨32, 0⟩, .settle 3 ⟨1⟩ .failed),
    (⟨31, 0⟩, .operate (.busy ⟨1⟩)), (⟨30, 0⟩, .begin 3),
    (⟨23, 0⟩, .close 2), (⟨23, 0⟩, .survey 2), (⟨22, 0⟩, .settle 2 ⟨1⟩ .failed),
    (⟨20, 0⟩, .begin 2),
    (⟨13, 0⟩, .close 1), (⟨13, 0⟩, .survey 1),
    (⟨12, 0⟩, .settle 1 ⟨1⟩ (.healthy 7 (some ⟨0x3ff8000000000000⟩))), (⟨10, 0⟩, .begin 1)]

theorem failure_limit_automaton_three_rounds :
    Sequential (untried 2) threeRounds ∧ Undisturbed ⟨1⟩ threeRounds ∧
      ∃ health n,
        (reached (untried 2) threeRounds).checker.history.get? ⟨1⟩ = some health ∧
        (reached (untried 2) threeRounds).registry.get? ⟨1⟩ = some n ∧
        health.consecutiveFailures.toNat = 2 ∧ n.status = .offline ∧ n.load = .one := by
  have sequential : Sequential (untried 2) threeRounds := by decide +kernel
  have undisturbed : Undisturbed ⟨1⟩ threeRounds := by decide
  have hheard : heard ⟨1⟩ (untried 2) threeRounds =
      [.failed, .failed, .healthy 7 (some ⟨0x3ff8000000000000⟩)] := by decide +kernel
  have registered : (untried 2).registry.get? ⟨1⟩ =
      some (.fresh ⟨0, 0⟩ ⟨1⟩ "http://node1:8080") := rfl
  obtain ⟨-, health, n, hhealth, hn, hfailures, -, hoffline, -, hload⟩ :=
    failure_limit_automaton (by decide) (Registry.named_apply Registry.named_empty) rfl registered
      rfl rfl sequential undisturbed (by decide +kernel) (by decide)
  rw [hheard] at hfailures hoffline hload
  exact ⟨sequential, undisturbed, health, n, hhealth, hn, hfailures, hoffline.2 (by decide),
    hload.trans (by decide)⟩

end Watch

end Conclave

import Conclave.Health
import Conclave.Proofs.Probes

namespace Conclave

inductive Round where
  | probing (copies : List Node)
  | surveyed (known : Registry)

def Round.copies : Round → List Node
  | .probing copies => copies
  | .surveyed _ => []

structure Watch where
  checker : HealthChecker
  registry : Registry
  rounds : Keyed Nat Round

namespace HealthChecker

section Settle

variable {now : Timestamp} {n m : Node} {outcome : ProbeOutcome} {h : HealthChecker} {r : Registry}
  {k : NodeId}

def assess (now : Timestamp) (n : Node) (h : HealthChecker) : ProbeOutcome → NodeHealth
  | .healthy latency _ => ⟨n.id, n.address, true, some latency, now, 0⟩
  | .failed => ⟨n.id, n.address, false, none, now, countFailure (h.failuresOf n.id)⟩

theorem countFailure_toNat (n : UInt32) : (countFailure n).toNat = min (n.toNat + 1) 0xffffffff :=
  Registry.countUp_toNat n

theorem failuresOf_of_get? {health : NodeHealth} (found : h.history.get? k = some health) :
    h.failuresOf k = health.consecutiveFailures := by
  rw [failuresOf, found]
  rfl

theorem failuresOf_of_none (missing : h.history.get? k = none) : h.failuresOf k = 0 := by
  rw [failuresOf, missing]
  rfl

theorem history_settle (k : NodeId) :
    (h.settle now n outcome r).1.history.get? k =
      if k = n.id then some (h.assess now n outcome) else h.history.get? k := by
  cases outcome <;> exact Keyed.get?_insert _ _ _ _

theorem limit_settle :
    (h.settle now n outcome r).1.maxConsecutiveFailures = h.maxConsecutiveFailures := by
  cases outcome <;> rfl

theorem settle_failed :
    (h.settle now n .failed r).2 =
      if h.maxConsecutiveFailures ≤ countFailure (h.failuresOf n.id) ∧ n.status ≠ .offline then
        (r.applyProbe now n.id n.lastSeen .unreachable).2
      else r := rfl

theorem settle_writes (now : Timestamp) (n : Node) (outcome : ProbeOutcome) (h : HealthChecker)
    (r : Registry) :
    (h.settle now n outcome r).2 = r ∨ ∃ verdict,
      (h.settle now n outcome r).2 = (r.apply now (.probe n.id n.lastSeen verdict)).2 := by
  cases outcome with
  | healthy latency load => exact Or.inr ⟨.reachable load, rfl⟩
  | failed =>
      rw [settle_failed]
      split
      · exact Or.inr ⟨.unreachable, rfl⟩
      · exact Or.inl rfl

theorem contains_settleAll (now : Timestamp) (outcome : Node → ProbeOutcome) (targets : List Node)
    (h : HealthChecker) (r : Registry) (k : NodeId) :
    (settleAll now outcome targets h r).2.contains k = r.contains k := by
  induction targets generalizing h r with
  | nil => rfl
  | cons n rest ih =>
      have hstep : (h.settle now n (outcome n) r).2.contains k = r.contains k := by
        rcases settle_writes now n (outcome n) h r with hsame | ⟨verdict, hprobe⟩
        · rw [hsame]
        · rw [hprobe]
          exact Registry.contains_change _ _ _ _ _
      exact (ih _ _).trans hstep

theorem registry_settle_ne (hk : k ≠ n.id) : (h.settle now n outcome r).2.get? k = r.get? k := by
  rcases settle_writes now n outcome h r with hsame | ⟨verdict, hprobe⟩
  · rw [hsame]
  · rw [hprobe]
    exact Registry.get?_applyProbe_ne hk

theorem history_forgetDeparted (k : NodeId) :
    (h.forgetDeparted r).history.get? k = if r.contains k then h.history.get? k else none := by
  rw [forgetDeparted, Keyed.get?_filter, Registry.contains]
  cases h.history.get? k with
  | none => simp
  | some health => cases hk : r.nodes.contains k <;> simp [hk]

end Settle

theorem mem_targets {r : Registry} {n : Node} :
    n ∈ targets r ↔ (∃ id, r.get? id = some n) ∧ n.status ≠ .maintenance := by
  rw [targets, List.mem_filter, Registry.toList, List.mem_mergeSort, Keyed.mem_values_iff]
  simp [Registry.get?]

theorem get?_of_mem_targets {r : Registry} {n : Node} (named : r.Named) (h : n ∈ targets r) :
    r.get? n.id = some n := by
  obtain ⟨⟨id, hn⟩, -⟩ := mem_targets.1 h
  rw [named id n hn, hn]

theorem nodup_targets {r : Registry} (named : r.Named) : ((targets r).map Node.id).Nodup :=
  (((List.mergeSort_perm r.nodes.values Registry.idOrder).map Node.id).nodup_iff.2
    (Registry.nodup_ids named)).sublist (List.filter_sublist.map _)

end HealthChecker

namespace Watch

inductive Event where
  | operate (op : Registry.Operation)
  | begin (round : Nat)
  | settle (round : Nat) (id : NodeId) (outcome : ProbeOutcome)
  | survey (round : Nat)
  | close (round : Nat)
  deriving DecidableEq

def new (checker : HealthChecker) : Watch := ⟨checker, .empty, .empty⟩

def copies (round : Nat) (w : Watch) : List Node :=
  ((w.rounds.get? round).map Round.copies).getD []

def copy? (round : Nat) (id : NodeId) (w : Watch) : Option Node :=
  (w.copies round).find? fun n => decide (n.id = id)

def step (now : Timestamp) (w : Watch) : Event → Watch
  | .operate op => { w with registry := (w.registry.apply now op).2 }
  | .begin round =>
      if w.rounds.contains round then w
      else { w with
        rounds := w.rounds.insert round (.probing (HealthChecker.targets w.registry)) }
  | .settle round id outcome =>
      match w.copy? round id with
      | none => w
      | some n =>
          ⟨(w.checker.settle now n outcome w.registry).1,
            (w.checker.settle now n outcome w.registry).2,
            w.rounds.insert round
              (.probing ((w.copies round).filter fun n => !decide (n.id = id)))⟩
  | .survey round =>
      match w.rounds.get? round with
      | some (.probing []) => { w with rounds := w.rounds.insert round (.surveyed w.registry) }
      | _ => w
  | .close round =>
      match w.rounds.get? round with
      | some (.surveyed known) =>
          { w with checker := w.checker.forgetDeparted known, rounds := w.rounds.erase round }
      | _ => w

def reached (first : Watch) : List (Timestamp × Event) → Watch
  | [] => first
  | (now, e) :: past => (reached first past).step now e

theorem reached_append (first : Watch) (later earlier : List (Timestamp × Event)) :
    reached first (later ++ earlier) = reached (reached first earlier) later := by
  induction later with
  | nil => rfl
  | cons e later ih => rw [List.cons_append, reached, reached, ih]

section Copies

variable {w : Watch} {round : Nat} {id : NodeId} {n : Node}

theorem copies_of_get? {stage : Round} (h : w.rounds.get? round = some stage) :
    w.copies round = stage.copies := by
  rw [copies, h]
  rfl

theorem get?_of_mem (h : n ∈ w.copies round) : ∃ stage, w.rounds.get? round = some stage := by
  cases hround : w.rounds.get? round with
  | none => simp [copies, hround] at h
  | some stage => exact ⟨stage, rfl⟩

theorem copies_insert (checker : HealthChecker) (registry : Registry) (stage : Round) (k : Nat) :
    copies k ⟨checker, registry, w.rounds.insert round stage⟩ =
      if k = round then stage.copies else w.copies k := by
  rw [copies, Keyed.get?_insert]
  split <;> rfl

theorem copy?_eq_some (h : w.copy? round id = some n) : n ∈ w.copies round ∧ n.id = id := by
  rw [copy?] at h
  exact ⟨List.mem_of_find?_eq_some h, by simpa using List.find?_some h⟩

end Copies

inductive Advances (k : Nat) (now : Timestamp) (e : Event) (w : Watch) : Prop
  | stays (same : (w.step now e).rounds.get? k = w.rounds.get? k)
  | begins (event : e = .begin k) (before : w.rounds.get? k = none)
      (after : (w.step now e).rounds.get? k =
        some (.probing (HealthChecker.targets w.registry)))
  | settles (id : NodeId) (outcome : ProbeOutcome) (n : Node) (event : e = .settle k id outcome)
      (copied : w.copy? k id = some n)
      (after : (w.step now e).rounds.get? k =
        some (.probing ((w.copies k).filter fun n => !decide (n.id = id))))
  | surveys (event : e = .survey k) (before : w.rounds.get? k = some (.probing []))
      (after : (w.step now e).rounds.get? k = some (.surveyed w.registry))
  | closes (known : Registry) (event : e = .close k)
      (before : w.rounds.get? k = some (.surveyed known))
      (after : (w.step now e).rounds.get? k = none)

theorem advances (k : Nat) (now : Timestamp) (e : Event) (w : Watch) : Advances k now e w := by
  have inserted : ∀ {round : Nat} (stage : Round), k ≠ round →
      (w.rounds.insert round stage).get? k = w.rounds.get? k := by
    intro round stage hk
    rw [Keyed.get?_insert, if_neg hk]
  cases e with
  | operate op => exact .stays rfl
  | begin round =>
      cases new : w.rounds.contains round with
      | true => exact .stays (by simp [step, new])
      | false =>
          by_cases hk : k = round
          · subst hk
            exact .begins rfl (Keyed.contains_eq_false.1 new) (by simp [step, new])
          · exact .stays (by simp [step, new, hk])
  | settle round id outcome =>
      cases copied : w.copy? round id with
      | none => exact .stays (by simp [step, copied])
      | some n =>
          by_cases hk : k = round
          · subst hk
            exact .settles id outcome n rfl copied (by simp [step, copied])
          · exact .stays (by simp [step, copied, hk])
  | survey round =>
      cases hround : w.rounds.get? round with
      | none => exact .stays (by simp [step, hround])
      | some stage =>
          by_cases hk : k = round
          · subst hk
            cases stage with
            | probing copies =>
                cases copies with
                | nil => exact .surveys rfl hround (by simp [step, hround])
                | cons n rest => exact .stays (by simp [step, hround])
            | surveyed known => exact .stays (by simp [step, hround])
          · refine .stays ?_
            simp only [step, hround]
            split
            · exact inserted _ hk
            · rfl
  | close round =>
      cases hround : w.rounds.get? round with
      | none => exact .stays (by simp [step, hround])
      | some stage =>
          cases stage with
          | probing copies => exact .stays (by simp [step, hround])
          | surveyed known =>
              by_cases hk : k = round
              · subst hk
                exact .closes known rfl hround (by simp [step, hround])
              · exact .stays (by simp [step, hround, hk])

section Stages

variable {w : Watch} {now : Timestamp} {e : Event} {round k : Nat} {id : NodeId} {n : Node}
  {outcome : ProbeOutcome}

theorem copies_of_same {w w' : Watch} (same : w'.rounds.get? k = w.rounds.get? k) :
    w'.copies k = w.copies k := by
  rw [copies, same, copies]

theorem copies_begin (new : w.rounds.contains round = false) (k : Nat) :
    (w.step now (.begin round)).copies k =
      if k = round then HealthChecker.targets w.registry else w.copies k := by
  rw [step, if_neg (by rw [new]; decide), copies_insert]
  rfl

theorem copies_settle (copied : w.copy? round id = some n) (k : Nat) :
    (w.step now (.settle round id outcome)).copies k =
      if k = round then (w.copies k).filter fun n => !decide (n.id = id) else w.copies k := by
  simp only [step, copied]
  rw [copies_insert]
  by_cases hk : k = round
  · rw [if_pos hk, if_pos hk, hk, Round.copies]
  · rw [if_neg hk, if_neg hk]

theorem copies_survey (round k : Nat) : (w.step now (.survey round)).copies k = w.copies k := by
  cases advances k now (.survey round) w with
  | stays same => exact copies_of_same same
  | begins event => cases event
  | settles _ _ _ event => cases event
  | surveys _ before after => rw [copies_of_get? before, copies_of_get? after]; rfl
  | closes _ event => cases event

theorem copies_close (round k : Nat) : (w.step now (.close round)).copies k = w.copies k := by
  cases advances k now (.close round) w with
  | stays same => exact copies_of_same same
  | begins event => cases event
  | settles _ _ _ event => cases event
  | surveys event => cases event
  | closes _ _ before after =>
      rw [copies_of_get? before, copies, after]
      rfl

theorem contains_step (h : (w.step now e).rounds.contains k = true) :
    w.rounds.contains k = true ∨ e = .begin k := by
  have standing : ∀ {stage : Round}, w.rounds.get? k = some stage →
      w.rounds.contains k = true := fun hround => Keyed.contains_iff.2 ⟨_, hround⟩
  cases advances k now e w with
  | stays same => exact Or.inl (by rwa [Keyed.contains, same] at h)
  | begins event => exact Or.inr event
  | settles _ _ _ _ copied =>
      obtain ⟨stage, hround⟩ := get?_of_mem (copy?_eq_some copied).1
      exact Or.inl (standing hround)
  | surveys _ before => exact Or.inl (standing before)
  | closes _ _ before => exact Or.inl (standing before)

theorem surveyed_step {known : Registry}
    (h : (w.step now e).rounds.get? k = some (.surveyed known)) :
    w.rounds.get? k = some (.surveyed known) ∨ known = w.registry := by
  cases advances k now e w with
  | stays same => exact Or.inl (same.symm.trans h)
  | begins _ _ after => cases after.symm.trans h
  | settles _ _ _ _ _ after => cases after.symm.trans h
  | surveys _ _ after =>
      cases after.symm.trans h
      exact Or.inr rfl
  | closes _ _ _ after => cases after.symm.trans h

end Stages

def uninterrupted (now : Timestamp) (round : Nat) (targets : List Node)
    (outcome : Node → ProbeOutcome) : List (Timestamp × Event) :=
  (now, .close round) :: (now, .survey round) ::
    ((targets.map fun n => (now, Event.settle round n.id (outcome n))).reverse ++
      [(now, .begin round)])

section Uninterrupted

variable {w : Watch} {round : Nat}

theorem reached_settles (now : Timestamp) (outcome : Node → ProbeOutcome) {copies : List Node}
    (probing : w.rounds.get? round = some (.probing copies))
    (distinct : (copies.map Node.id).Nodup) :
    let after := reached w
      (copies.map fun n => (now, Event.settle round n.id (outcome n))).reverse
    (after.checker, after.registry) =
      HealthChecker.settleAll now outcome copies w.checker w.registry ∧
    after.rounds.get? round = some (.probing []) ∧
    ∀ k, k ≠ round → after.rounds.get? k = w.rounds.get? k := by
  induction copies generalizing w with
  | nil => exact ⟨rfl, probing, fun _ _ => rfl⟩
  | cons n rest ih =>
      obtain ⟨hn, hrest⟩ := List.nodup_cons.1 distinct
      have hcopies : w.copies round = n :: rest := copies_of_get? probing
      have hcopied : w.copy? round n.id = some n := by
        rw [copy?, hcopies, List.find?_cons_of_pos (by simp)]
      have hleft : (n :: rest).filter (fun m => !decide (m.id = n.id)) = rest := by
        rw [List.filter_cons_of_neg (by simp), List.filter_eq_self]
        intro m hm
        have : m.id ≠ n.id := fun heq => hn (heq ▸ List.mem_map_of_mem hm)
        simpa using this
      have hstep : w.step now (.settle round n.id (outcome n)) =
          ⟨(w.checker.settle now n (outcome n) w.registry).1,
            (w.checker.settle now n (outcome n) w.registry).2,
            w.rounds.insert round (.probing rest)⟩ := by
        simp only [step, hcopied, hcopies, hleft]
      obtain ⟨hsettled, hprobing, hothers⟩ :=
        ih (w := w.step now (.settle round n.id (outcome n))) (by simp [hstep]) hrest
      rw [List.map_cons, List.reverse_cons, reached_append]
      refine ⟨hsettled.trans ?_, hprobing, fun k hk => (hothers k hk).trans ?_⟩
      · rw [hstep, HealthChecker.settleAll]
      · rw [hstep, Keyed.get?_insert, if_neg hk]

theorem reached_uninterrupted (now : Timestamp) (outcome : Node → ProbeOutcome)
    (named : w.registry.Named) (new : w.rounds.get? round = none) :
    let targets := HealthChecker.targets w.registry
    let after := reached w (uninterrupted now round targets outcome)
    (after.checker, after.registry) =
      HealthChecker.finishRound now targets outcome w.checker w.registry ∧
    ∀ k, after.rounds.get? k = w.rounds.get? k := by
  intro targets after
  have hbegin : w.step now (.begin round) =
      { w with rounds := w.rounds.insert round (.probing targets) } := by
    rw [step, if_neg (by rw [Keyed.contains, new]; decide)]
  have hbegun : (w.step now (.begin round)).rounds.get? round = some (.probing targets) := by
    rw [hbegin, Keyed.get?_insert, if_pos rfl]
  obtain ⟨hsettled, hprobing, hothers⟩ :=
    reached_settles now outcome hbegun (HealthChecker.nodup_targets named)
  have hafter : after = ((reached (w.step now (.begin round))
      (targets.map fun n => (now, Event.settle round n.id (outcome n))).reverse).step now
        (.survey round)).step now (.close round) := by
    simp only [after, uninterrupted, reached, reached_append]
  generalize reached (w.step now (.begin round)) _ = settled at hsettled hprobing hothers hafter
  have hend : after =
      ⟨settled.checker.forgetDeparted settled.registry, settled.registry,
        (settled.rounds.insert round (.surveyed settled.registry)).erase round⟩ := by
    simp [hafter, step, hprobing]
  rw [hbegin] at hsettled hothers
  refine ⟨?_, fun k => ?_⟩
  · rw [hend, HealthChecker.finishRound, ← hsettled]
  · by_cases hk : k = round
    · rw [hend, hk, Keyed.get?_erase, if_pos rfl, new]
    · rw [hend, Keyed.get?_erase, if_neg hk, Keyed.get?_insert, if_neg hk, hothers k hk,
        Keyed.get?_insert, if_neg hk]

end Uninterrupted

inductive Bears (id : NodeId) (now : Timestamp) (e : Event) (w : Watch) : Prop
  | nothing (silent : ∀ round outcome, e = .settle round id outcome → w.copy? round id = none)
      (running : ∀ round, e = .begin round → w.rounds.contains round = true)
      (registry : (w.step now e).registry.get? id = w.registry.get? id)
      (history : (w.step now e).checker.history.get? id = w.checker.history.get? id)
      (copies : ∀ round n, n.id = id → (n ∈ (w.step now e).copies round ↔ n ∈ w.copies round))
  | writes (op : Registry.Operation) (event : e = .operate op)
      (registry : (w.step now e).registry = (w.registry.apply now op).2)
      (history : (w.step now e).checker.history.get? id = w.checker.history.get? id)
      (copies : ∀ round n, n.id = id → (n ∈ (w.step now e).copies round ↔ n ∈ w.copies round))
  | copies (round : Nat) (event : e = .begin round) (new : w.rounds.contains round = false)
      (registry : (w.step now e).registry.get? id = w.registry.get? id)
      (history : (w.step now e).checker.history.get? id = w.checker.history.get? id)
      (copies : ∀ k n, n.id = id → (n ∈ (w.step now e).copies k ↔
        if k = round then n ∈ HealthChecker.targets w.registry else n ∈ w.copies k))
  | hears (round : Nat) (outcome : ProbeOutcome) (n : Node) (event : e = .settle round id outcome)
      (copied : w.copy? round id = some n)
      (registry : (w.step now e).registry = (w.checker.settle now n outcome w.registry).2)
      (history : (w.step now e).checker.history.get? id = some (w.checker.assess now n outcome))
      (copies : ∀ k m, m.id = id → (m ∈ (w.step now e).copies k ↔ k ≠ round ∧ m ∈ w.copies k))
  | forgets (round : Nat) (known : Registry) (event : e = .close round)
      (surveyed : w.rounds.get? round = some (.surveyed known))
      (missing : known.contains id = false)
      (registry : (w.step now e).registry.get? id = w.registry.get? id)
      (history : (w.step now e).checker.history.get? id = none)
      (copies : ∀ round n, n.id = id → (n ∈ (w.step now e).copies round ↔ n ∈ w.copies round))

theorem bears_settle (id : NodeId) (now : Timestamp) (w : Watch) (round : Nat) (k : NodeId)
    (outcome : ProbeOutcome) : Bears id now (.settle round k outcome) w := by
  have running : ∀ j, Event.settle round k outcome = .begin j → w.rounds.contains j = true := by
    intro _ event
    cases event
  cases copied : w.copy? round k with
  | none =>
      have hidle : w.step now (.settle round k outcome) = w := by simp only [step, copied]
      refine .nothing ?_ running (by rw [hidle]) (by rw [hidle]) fun _ _ _ => by rw [hidle]
      intro _ _ event
      cases event
      exact copied
  | some n =>
      have hid : n.id = k := (copy?_eq_some copied).2
      have hstep : (w.step now (.settle round k outcome)).checker =
            (w.checker.settle now n outcome w.registry).1 ∧
          (w.step now (.settle round k outcome)).registry =
            (w.checker.settle now n outcome w.registry).2 := by
        simp only [step, copied, and_self]
      by_cases hk : id = k
      · subst hk
        refine .hears round outcome n rfl copied hstep.2 ?_ ?_
        · rw [hstep.1, HealthChecker.history_settle, if_pos hid.symm]
        · intro j m hm
          rw [copies_settle copied]
          by_cases hj : j = round <;> simp [hj, hm]
      · have hne : id ≠ n.id := fun h => hk (h.trans hid)
        refine .nothing ?_ running ?_ ?_ ?_
        · intro _ _ event
          cases event
          exact absurd rfl hk
        · rw [hstep.2, HealthChecker.registry_settle_ne hne]
        · rw [hstep.1, HealthChecker.history_settle, if_neg hne]
        · intro j m hm
          rw [copies_settle copied]
          have hmk : m.id ≠ k := fun h => hk (hm.symm.trans h)
          by_cases hj : j = round <;> simp [hj, hmk]

theorem bears_begin (id : NodeId) (now : Timestamp) (w : Watch) (round : Nat) :
    Bears id now (.begin round) w := by
  cases new : w.rounds.contains round with
  | true =>
      have hidle : w.step now (.begin round) = w := by simp [step, new]
      refine .nothing ?_ ?_ (by rw [hidle]) (by rw [hidle]) fun _ _ _ => by rw [hidle]
      · intro _ _ event
        cases event
      · intro _ event
        cases event
        exact new
  | false =>
      refine .copies round rfl new (by simp [step, new]) (by simp [step, new]) ?_
      intro k n _
      rw [copies_begin new]
      split <;> rfl

theorem bears_close (id : NodeId) (now : Timestamp) (w : Watch) (round : Nat) :
    Bears id now (.close round) w := by
  have hregistry : (w.step now (.close round)).registry = w.registry := by
    simp only [step]
    split <;> rfl
  have hcopies : ∀ k n, n.id = id →
      (n ∈ (w.step now (.close round)).copies k ↔ n ∈ w.copies k) := fun _ _ _ => by
    rw [copies_close]
  have kept : (w.step now (.close round)).checker.history.get? id =
      w.checker.history.get? id → Bears id now (.close round) w := by
    intro history
    refine .nothing ?_ ?_ (by rw [hregistry]) history hcopies
    · intro _ _ event
      cases event
    · intro _ event
      cases event
  cases hround : w.rounds.get? round with
  | none => exact kept (by simp [step, hround])
  | some stage =>
      cases stage with
      | probing copies => exact kept (by simp [step, hround])
      | surveyed known =>
          have hhistory : (w.step now (.close round)).checker.history.get? id =
              if known.contains id then w.checker.history.get? id else none := by
            simp only [step, hround, HealthChecker.history_forgetDeparted]
          cases hknown : known.contains id with
          | true => exact kept (by rw [hhistory, hknown, if_pos rfl])
          | false =>
              exact .forgets round known rfl hround hknown (by rw [hregistry])
                (by simp [hhistory, hknown]) hcopies

theorem bears (id : NodeId) (now : Timestamp) (e : Event) (w : Watch) : Bears id now e w := by
  cases e with
  | operate op => exact .writes op rfl rfl rfl fun _ _ _ => Iff.rfl
  | begin round => exact bears_begin id now w round
  | settle round k outcome => exact bears_settle id now w round k outcome
  | survey round =>
      have hkept : (w.step now (.survey round)).registry = w.registry ∧
          (w.step now (.survey round)).checker = w.checker := by
        simp only [step]
        split <;> exact ⟨rfl, rfl⟩
      refine .nothing ?_ ?_ (by rw [hkept.1]) (by rw [hkept.2]) fun _ _ _ => by rw [copies_survey]
      · intro _ _ event
        cases event
      · intro _ event
        cases event
  | close round => exact bears_close id now w round

theorem limit_step (now : Timestamp) (w : Watch) (e : Event) :
    (w.step now e).checker.maxConsecutiveFailures = w.checker.maxConsecutiveFailures := by
  cases e with
  | operate op => rfl
  | begin round =>
      simp only [step]
      split <;> rfl
  | settle round id outcome =>
      simp only [step]
      split
      · rfl
      · exact HealthChecker.limit_settle
  | survey round =>
      simp only [step]
      split <;> rfl
  | close round =>
      simp only [step]
      split <;> rfl

theorem registry_step (now : Timestamp) (w : Watch) (e : Event) :
    (w.step now e).registry = w.registry ∨
      ∃ op, (w.step now e).registry = (w.registry.apply now op).2 := by
  cases e with
  | operate op => exact Or.inr ⟨op, rfl⟩
  | begin round =>
      simp only [step]
      split <;> exact Or.inl rfl
  | settle round id outcome =>
      simp only [step]
      split
      · exact Or.inl rfl
      · rename_i n _
        rcases HealthChecker.settle_writes now n outcome w.checker w.registry with hsame | ⟨_, hprobe⟩
        · exact Or.inl hsame
        · exact Or.inr ⟨_, hprobe⟩
  | survey round =>
      simp only [step]
      split <;> exact Or.inl rfl
  | close round =>
      simp only [step]
      split <;> exact Or.inl rfl

theorem named_step {now : Timestamp} {w : Watch} {e : Event} (named : w.registry.Named) :
    (w.step now e).registry.Named := by
  rcases registry_step now w e with hsame | ⟨op, hop⟩
  · rwa [hsame]
  · rw [hop]
    exact Registry.named_apply named

section Reached

variable {w : Watch} {later : List (Timestamp × Event)} {id : NodeId}

theorem limit_reached (w : Watch) (later : List (Timestamp × Event)) :
    (reached w later).checker.maxConsecutiveFailures = w.checker.maxConsecutiveFailures := by
  induction later with
  | nil => rfl
  | cons e later ih => exact (limit_step _ _ _).trans ih

theorem named_reached (named : w.registry.Named) : (reached w later).registry.Named := by
  induction later with
  | nil => exact named
  | cons e later ih => exact named_step ih

def began (w : Watch) (round : Nat) : List (Timestamp × Event) → Bool
  | [] => false
  | (_, .begin k) :: later =>
      decide (k = round) && !(reached w later).rounds.contains round || began w round later
  | _ :: later => began w round later

def heard (id : NodeId) (w : Watch) : List (Timestamp × Event) → List ProbeOutcome
  | [] => []
  | (_, .settle round k outcome) :: later =>
      if k = id ∧ began w round later = true ∧ ((reached w later).copy? round id).isSome then
        outcome :: heard id w later
      else heard id w later
  | _ :: later => heard id w later

theorem heard_of_silent {now : Timestamp} {e : Event}
    (silent : ∀ round outcome, e = .settle round id outcome →
      (reached w later).copy? round id = none) :
    heard id w ((now, e) :: later) = heard id w later := by
  cases e with
  | settle round k outcome =>
      rw [heard, if_neg]
      rintro ⟨rfl, -, hcopied⟩
      rw [silent round outcome rfl] at hcopied
      cases hcopied
  | _ => rfl

theorem mem_copies_of_old {round : Nat} {n : Node} (old : began w round later = false)
    (h : n ∈ (reached w later).copies round) : n ∈ w.copies round := by
  induction later with
  | nil => exact h
  | cons e later ih =>
      obtain ⟨now, e⟩ := e
      have hbefore : began w round later = false := by
        cases e with
        | begin k => exact (Bool.or_eq_false_iff.1 old).2
        | _ => exact old
      cases bears n.id now e (reached w later) with
      | nothing _ _ _ _ copies => exact ih hbefore ((copies round n rfl).1 h)
      | writes _ _ _ _ copies => exact ih hbefore ((copies round n rfl).1 h)
      | copies k event new _ _ copies =>
          have hmem := (copies round n rfl).1 h
          subst event
          have hk : ¬ round = k := by
            rintro rfl
            simp [began, new] at old
          rw [if_neg hk] at hmem
          exact ih hbefore hmem
      | hears k _ _ _ _ _ _ copies => exact ih hbefore ((copies round n rfl).1 h).2
      | forgets _ _ _ _ _ _ _ copies => exact ih hbefore ((copies round n rfl).1 h)

theorem heard_settle {now : Timestamp} {round : Nat} {outcome : ProbeOutcome} {n : Node}
    (unprobed : ∀ round, ∀ n ∈ w.copies round, n.id ≠ id)
    (copied : (reached w later).copy? round id = some n) :
    heard id w ((now, .settle round id outcome) :: later) = outcome :: heard id w later := by
  obtain ⟨hmem, hid⟩ := copy?_eq_some copied
  have hbegan : began w round later = true := by
    by_contra hold
    exact unprobed round n (mem_copies_of_old (Bool.eq_false_iff.2 hold) hmem) hid
  rw [heard, if_pos ⟨rfl, hbegan, by rw [copied]; rfl⟩]

end Reached

end Watch

end Conclave

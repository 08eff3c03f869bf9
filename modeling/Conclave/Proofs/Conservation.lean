import Conclave.Proofs.Ending
import Conclave.Proofs.Marks

namespace Conclave.Coordinator

namespace Turn

def gains (s : SessionId) (t : Turn) : Bool :=
  !t.before.leases.contains s && t.after.leases.contains s

def loses (s : SessionId) (t : Turn) : Bool :=
  t.before.leases.contains s && !t.after.leases.contains s

theorem contains_changes {t : Turn} {id : NodeId}
    (h : t.after.registry.contains id ≠ t.before.registry.contains id) :
    (∃ address, t.event = .operate (.register id address)) ∨
      t.event = .operate (.deregister id) := by
  cases t.booking with
  | keeps _ registry =>
      rcases registry with same | ⟨op, event, after⟩
      · exact absurd (by rw [same]) h
      · rw [after] at h
        rcases Registry.contains_apply h with ⟨address, rfl⟩ | rfl
        · exact Or.inl ⟨address, event⟩
        · exact Or.inr event
  | opens s lease _ _ _ registry =>
      rw [registry] at h
      exact absurd (Registry.contains_markAll _ _ _) h
  | closes s lease _ _ _ registry =>
      rw [registry] at h
      exact absurd (Registry.contains_releaseAll _ _ _) h

theorem opens_of_gains {t : Turn} {s : SessionId} (h : t.gains s = true) :
    ∃ lease, t.after.leases.get? s = some lease ∧ t.Opens s lease := by
  simp only [gains, Bool.and_eq_true, Bool.not_eq_true'] at h
  obtain ⟨lease, hlease⟩ := Keyed.contains_iff.1 h.2
  rcases live_before hlease with hopens | ⟨old, hold, -⟩
  · exact ⟨lease, hlease, hopens⟩
  · rw [Keyed.contains_eq_false.1 h.1] at hold
    cases hold

end Turn

theorem Run.starts_once {rule : List Turn → Turn → Prop} {first c : Coordinator} {past : List Turn}
    (fresh : ∀ past t, rule past t → Fresh past t) (run : Run rule first past c) (s : SessionId) :
    past.countP (Turn.starts s) ≤ 1 :=
  run.countP_le_one fun past t _ allowed started _ hu => (fresh past t allowed).not_started started hu

theorem Run.gains_once {rule : List Turn → Turn → Prop} {first c : Coordinator} {past : List Turn}
    (fresh : ∀ past t, rule past t → Fresh past t) (run : Run rule first past c) (s : SessionId) :
    past.countP (Turn.gains s) ≤ 1 := by
  refine Nat.le_trans (List.countP_mono_left fun t _ h => ?_) (run.starts_once fresh s)
  obtain ⟨lease, -, hopens⟩ := Turn.opens_of_gains h
  exact hopens.starts

theorem Run.gains_eq {rule : List Turn → Turn → Prop} {config : Config} {registry : Registry}
    {past : List Turn} {c : Coordinator} (run : Run rule (.new config registry) past c)
    (s : SessionId) :
    past.countP (Turn.gains s) =
      past.countP (Turn.loses s) + (c.leases.contains s).toNat := by
  induction run with
  | begin => rfl
  | @next past c run now event allowed ih =>
      rw [List.countP_cons, List.countP_cons, ih]
      simp only [Turn.gains, Turn.loses]
      by_cases hbefore : c.leases.contains s = true
      · by_cases hafter : (Turn.after ⟨now, c, event⟩).leases.contains s = true
        · simp [hbefore, hafter]
        · simp [hbefore, hafter]
      · by_cases hafter : (Turn.after ⟨now, c, event⟩).leases.contains s = true
        · simp [hbefore, hafter]
        · simp [hbefore, hafter]

def Turn.settled (t : Turn) : Bool :=
  match t.event with
  | .operate (.register id _) =>
      t.before.registry.contains id || decide (t.before.liveMarks id = 0)
  | _ => true

def BelowLimit (c : Coordinator) : Prop :=
  ∀ e ∈ c.registry.nodes.entries, e.2.activeTasks.toNat < taskLimit

instance (c : Coordinator) : Decidable (BelowLimit c) :=
  inferInstanceAs (Decidable (∀ e ∈ c.registry.nodes.entries, e.2.activeTasks.toNat < taskLimit))

def Orderly (past : List Turn) (t : Turn) : Prop :=
  Marking past t ∧ t.settled = true ∧ BelowLimit t.after

instance (past : List Turn) (t : Turn) : Decidable (Orderly past t) :=
  inferInstanceAs (Decidable (_ ∧ _ ∧ _))

theorem BelowLimit.tasks_lt {c : Coordinator} (h : BelowLimit c) (id : NodeId) :
    c.registry.tasks id < taskLimit := by
  cases hn : c.registry.get? id with
  | none =>
      rw [Registry.tasks, hn]
      exact Nat.pos_of_ne_zero (by decide)
  | some n =>
      rw [Registry.tasks_of_get? hn]
      exact h (id, n) (Keyed.mem_entries_iff.2 hn)

section Orderly

variable {config : Config} {registry : Registry} {past : List Turn} {c : Coordinator}

theorem Run.startedIn_of_marked (run : Run Orderly (.new config registry) past c) {id : NodeId}
    {s : SessionId} {lease : Lease} (known : c.registry.contains id = true)
    (live : c.leases.get? s = some lease) (marked : id ∈ lease.marked) :
    startedIn id past s = true := by
  induction run generalizing lease with
  | begin => cases live
  | @next past c run now event allowed ih =>
      have stays : Turn.departs id ⟨now, c, event⟩ = false := by simp [Turn.departs, known]
      rcases Turn.live_before live with hopens | ⟨old, hold, hsame⟩
      · simp [startedIn, stays, hopens.starts]
      · rw [hsame.marked] at marked
        have hbefore : c.registry.contains id = true := by
          by_contra hc
          rw [Bool.not_eq_true] at hc
          have hchange : (Turn.after ⟨now, c, event⟩).registry.contains id ≠
              c.registry.contains id := by simp [known, hc]
          rcases Turn.contains_changes hchange with ⟨address, hevent⟩ | hevent
          · have hsettled := allowed.2.1
            simp only at hevent
            simp only [Turn.settled, hevent, hc, Bool.false_or, decide_eq_true_eq] at hsettled
            exact absurd hsettled (Nat.ne_of_gt (marksOf_pos hold marked rfl))
          · simp only at hevent
            rw [hevent] at known
            simp [Turn.after, step, operate, Registry.apply, Registry.contains_deregister] at known
        simp [startedIn, stays, ih hbefore hold marked]

theorem Turn.tasks_of_opened {t : Turn} {id : NodeId} (named : t.before.registry.Named)
    (h : t.opened id ≠ 0) :
    t.after.registry.tasks id = min (t.before.registry.tasks id + 1) taskLimit := by
  cases t.booking with
  | keeps keeps _ => exact absurd (keeps.opened id) h
  | closes s lease _ _ leases _ => exact absurd (Turn.opened_of_erase leases id) h
  | opens s lease opens _ leases registry =>
      have hid : id ∈ lease.marked := by
        by_contra hid
        refine h (marksOf_eq_zero fun k l hk hmarked => ?_)
        rw [leases, Keyed.get?_insert] at hk
        split at hk
        · cases hk
          exact absurd hmarked hid
        · simp [Keyed.contains, hk]
      obtain ⟨_, request, _, _, selected, _, marked, _⟩ := opens
      have hparties := nodup_chosen named selected
      rw [registry, Registry.tasks_markAll id _ hparties, ← marked, if_pos hid]

theorem Run.tallies (named : registry.Named) (run : Run Orderly (.new config registry) past c)
    (id : NodeId) :
    tally id (strays id) past = 0 ∧ tally id (overflows id) past = 0 ∧
      tally id (misses id) past = 0 := by
  induction run with
  | begin => exact ⟨rfl, rfl, rfl⟩
  | @next past c run now event allowed ih =>
      obtain ⟨hstrays, hoverflows, hmisses⟩ := ih
      have hstray : strays id past ⟨now, c, event⟩ = 0 := by
        unfold strays
        split
        · rename_i hpos
          refine marksOf_eq_zero fun s lease hs hid => ?_
          have known : c.registry.contains id = true := by
            by_contra hc
            rw [Bool.not_eq_true] at hc
            simp [Registry.tasks_of_unknown hc] at hpos
          simp [run.startedIn_of_marked known hs hid]
        · rfl
      have hoverflow : overflows id past ⟨now, c, event⟩ = 0 := by
        unfold overflows
        split
        · rename_i hlimit
          by_contra hopened
          have htasks := Turn.tasks_of_opened (run.named named) hopened
          have hbelow := allowed.2.2.tasks_lt id
          rw [htasks, hlimit] at hbelow
          omega
        · rfl
      have hmiss : misses id past ⟨now, c, event⟩ = 0 := by
        unfold misses
        split
        · rename_i hzero
          have hbalanced := (run.mono fun _ _ h => h.1).balanced named id
          simp only [Balanced, hstrays, hoverflows, hmisses] at hbalanced
          have hpresent : presentMarks id past c = 0 := by
            have : c.registry.tasks id = 0 := hzero
            omega
          refine marksOf_eq_zero fun s lease hs hid => ?_
          cases hstay : startedIn id past s with
          | false => simp
          | true => exact absurd hpresent (Nat.ne_of_gt (marksOf_pos hs hid hstay))
        · rfl
      simp [tally, hstrays, hoverflows, hmisses, hstray, hoverflow, hmiss]

theorem Run.presentMarks_eq (run : Run Orderly (.new config registry) past c) {id : NodeId}
    (known : c.registry.contains id = true) : presentMarks id past c = c.liveMarks id :=
  marksOf_congr fun _ _ live marked => run.startedIn_of_marked known live marked

theorem Run.tasks_eq (named : registry.Named) (run : Run Orderly (.new config registry) past c)
    {id : NodeId} (known : c.registry.contains id = true) :
    c.registry.tasks id = openingCount registry id past + c.liveMarks id := by
  have hbalanced := (run.mono fun _ _ h => h.1).balanced named id
  obtain ⟨hstrays, hoverflows, hmisses⟩ := run.tallies named id
  simp only [Balanced, hstrays, hoverflows, hmisses] at hbalanced
  rw [← run.presentMarks_eq known]
  omega

theorem Turn.marks_of_gains {t : Turn} {s : SessionId} (named : t.before.registry.Named)
    (below : BelowLimit t.after) (h : t.gains s = true) :
    ∃ lease, t.Opens s lease ∧ lease.marked = lease.parties.filter t.before.registry.contains ∧
      ∀ id, t.after.registry.tasks id =
        t.before.registry.tasks id + (decide (id ∈ lease.marked)).toNat := by
  simp only [gains, Bool.and_eq_true, Bool.not_eq_true'] at h
  obtain ⟨gone, live⟩ := h
  cases t.booking with
  | keeps keeps _ => simp [keeps.live, gone] at live
  | closes k lease _ _ leases _ =>
      rw [leases, Keyed.contains, Keyed.get?_erase] at live
      rw [Keyed.contains] at gone
      split at live
      · cases live
      · simp [gone] at live
  | opens k lease opens _ leases registry =>
      have hks : s = k := by
        by_contra hne
        rw [leases, Keyed.contains, Keyed.get?_insert, if_neg hne] at live
        rw [Keyed.contains, live] at gone
        cases gone
      subst hks
      refine ⟨lease, opens, ?_, fun id => ?_⟩
      · obtain ⟨_, _, _, _, _, _, marked, _⟩ := opens
        rw [marked, Registry.markAll_fst]
      · have hbelow := below.tasks_lt id
        obtain ⟨_, request, _, _, selected, _, marked, _⟩ := opens
        have hparties := nodup_chosen named selected
        rw [registry, Registry.tasks_markAll id _ hparties, ← marked] at hbelow ⊢
        by_cases hid : id ∈ lease.marked
        · simp only [hid, if_true, decide_true, Bool.toNat_true] at hbelow ⊢
          omega
        · simp [hid]

theorem Turn.closes_of_loses {t : Turn} {s : SessionId} {lease : Lease} (h : t.loses s = true)
    (live : t.before.leases.get? s = some lease) :
    (∀ k, t.starts k = false) ∧ t.after.leases = t.before.leases.erase s ∧
      t.after.registry = t.before.registry.releaseAll lease.marked := by
  simp only [loses, Bool.and_eq_true, Bool.not_eq_true'] at h
  obtain ⟨-, hlost⟩ := h
  cases t.booking with
  | keeps keeps _ =>
      rw [keeps.live, Keyed.contains, live] at hlost
      cases hlost
  | opens k l _ _ leases _ =>
      rw [leases, Keyed.contains, Keyed.get?_insert] at hlost
      split at hlost
      · cases hlost
      · simp [live] at hlost
  | closes k l starts hk leases registry =>
      have hks : s = k := by
        by_contra hne
        rw [leases, Keyed.contains, Keyed.get?_erase, if_neg hne, live] at hlost
        cases hlost
      subst hks
      obtain rfl : l = lease := Option.some.inj (hk.symm.trans live)
      exact ⟨starts, leases, registry⟩

theorem Turn.marks_of_loses {t : Turn} {s : SessionId} {lease : Lease} (h : t.loses s = true)
    (live : t.before.leases.get? s = some lease) (nodup : lease.marked.Nodup) (id : NodeId) :
    t.after.registry.contains id = t.before.registry.contains id ∧
      t.after.registry.tasks id =
        t.before.registry.tasks id - (decide (id ∈ lease.marked)).toNat := by
  obtain ⟨-, -, registry⟩ := closes_of_loses h live
  rw [registry]
  exact ⟨Registry.contains_releaseAll _ _ _, Registry.tasks_releaseAll id _ nodup⟩

end Orderly

theorem Run.loses_of_ends {config : Config} {registry : Registry} {past : List Turn} {c : Coordinator}
    (run : Run Orderly (.new config registry) past c) {t : Turn} (ht : t ∈ past) {s : SessionId}
    (ends : t.ends s = true) : t.loses s = t.before.leases.contains s := by
  obtain ⟨later, earlier, rfl⟩ := List.append_of_mem ht
  obtain ⟨before, allowed, -⟩ := run.cut
  have gone : t.after.leases.contains s = false :=
    Turn.gone_of_ends ends (before.gone_of_start allowed.1.1)
  rw [Turn.loses, gone, Bool.not_false, Bool.and_true]

theorem busy_marks_conserved {config : Config} {ops : List (Timestamp × Registry.Operation)}
    {past : List Turn} {c : Coordinator}
    (run : Run Orderly (.new config (Registry.empty.after ops)) past c) :
    (∀ id node, c.registry.get? id = some node →
      node.activeTasks.toNat =
        openingCount (Registry.empty.after ops) id past + c.liveMarks id) ∧
    (∀ s, past.countP (Turn.gains s) ≤ 1 ∧
      past.countP (Turn.gains s) =
        past.countP (Turn.loses s) + (c.leases.contains s).toNat) ∧
    (∀ s, c.leases.contains s = pending s past) ∧
    (∀ t ∈ past, ∀ s, t.ends s = true → t.loses s = t.before.leases.contains s) ∧
    (∀ t ∈ past, ∀ s, t.gains s = true → ∃ lease, t.Opens s lease ∧
      lease.marked = lease.parties.filter t.before.registry.contains ∧
      ∀ id, t.after.registry.tasks id =
        t.before.registry.tasks id + (decide (id ∈ lease.marked)).toNat) ∧
    (∀ t ∈ past, ∀ s, t.loses s = true → ∃ lease, t.before.leases.get? s = some lease ∧
      (∃ u ∈ past, ∃ given, u.Opens s given ∧ Turn.Continues given lease) ∧
      ∀ id, t.after.registry.contains id = true →
        t.after.registry.tasks id + (decide (id ∈ lease.marked)).toNat =
          t.before.registry.tasks id) := by
  have named : (Registry.empty.after ops).Named := Registry.named_after Registry.named_empty
  refine ⟨?_, ?_, run.contains_eq_pending fun _ _ h => h.1.1, fun t ht s => run.loses_of_ends ht,
    ?_, ?_⟩
  · intro id node h
    rw [← Registry.tasks_of_get? h]
    exact run.tasks_eq named (Registry.contains_iff.2 ⟨node, h⟩)
  · intro s
    exact ⟨run.gains_once (fun _ _ h => h.1.1) s, run.gains_eq s⟩
  · intro t ht s h
    obtain ⟨later, earlier, rfl⟩ := List.append_of_mem ht
    obtain ⟨before, allowed, -⟩ := run.cut
    exact Turn.marks_of_gains (before.named named) allowed.2.2 h
  · intro t ht s h
    obtain ⟨later, earlier, rfl⟩ := List.append_of_mem ht
    obtain ⟨before, allowed, -⟩ := run.cut
    obtain ⟨lease, live⟩ := Keyed.contains_iff.1 (Bool.and_eq_true_iff.1 h).1
    refine ⟨lease, live, ?_, ?_⟩
    · obtain ⟨u, hu, given, opens, continues⟩ := before.opened live
      exact ⟨u, by simp [hu], given, opens, continues⟩
    · intro id known
      obtain ⟨hknown, htasks⟩ :=
        Turn.marks_of_loses h live (before.nodup_marked named live) id
      by_cases hid : id ∈ lease.marked
      · have hcount := before.tasks_eq named (hknown ▸ known)
        have hpos : 0 < t.before.liveMarks id := marksOf_pos live hid rfl
        simp only [hid, decide_true, Bool.toNat_true] at htasks ⊢
        omega
      · simpa [hid] using htasks

def overlapTable : Registry :=
  Registry.empty.after
    [(⟨0, 0⟩, .register ⟨1⟩ "http://node1:8080"), (⟨0, 0⟩, .busy ⟨1⟩),
      (⟨0, 0⟩, .register ⟨2⟩ "http://node2:8080")]

def overlapStart : Coordinator :=
  .new { Config.standard with selectionPolicy := .roundRobin } overlapTable

def overlapEvents : List (Timestamp × Event) :=
  [(⟨4, 0⟩, .cancel ⟨"S2"⟩),
    (⟨3, 0⟩, .start ⟨"S3"⟩ (fun _ => 0) (.keygen "alice" 3 2)),
    (⟨2, 0⟩, .operate (.register ⟨3⟩ "http://node3:8080")),
    (⟨1, 0⟩, .start ⟨"S2"⟩ (fun _ => 0) (.keygen "alice" 3 2))]

def overlapRun : List Turn × Coordinator := replay overlapStart overlapEvents

theorem busy_marks_conserved_overlap :
    Admits Orderly overlapStart overlapEvents ∧
      (∀ id node, overlapRun.2.registry.get? id = some node →
        node.activeTasks.toNat =
          openingCount overlapTable id overlapRun.1 + overlapRun.2.liveMarks id) ∧
      (∀ s, overlapRun.2.leases.contains s = pending s overlapRun.1) ∧
      ([⟨"S2"⟩, ⟨"S3"⟩] : List SessionId).map overlapRun.2.leases.contains = [false, true] ∧
      ([⟨1⟩, ⟨2⟩, ⟨3⟩] : List NodeId).map overlapRun.2.registry.tasks = [2, 0, 1] := by
  have orderly : Admits Orderly overlapStart overlapEvents := by decide +kernel
  obtain ⟨counts, -, leases, -⟩ := busy_marks_conserved (run_replay orderly)
  exact ⟨orderly, counts, leases, by decide +kernel, by decide +kernel⟩

theorem Turn.uncovers_iff {t : Turn} {s : SessionId} {lease : Lease} {past : List Turn}
    (h : t.loses s = true) (live : t.before.leases.get? s = some lease)
    (nodup : lease.marked.Nodup) {id : NodeId}
    (covered : presentMarks id past t.before ≤ t.before.registry.tasks id) :
    t.after.registry.tasks id < presentMarks id (t :: past) t.after ↔
      id ∈ lease.marked ∧ startedIn id past s = false ∧ 0 < t.before.registry.tasks id ∧
        presentMarks id past t.before = t.before.registry.tasks id := by
  obtain ⟨hknown, htasks⟩ := marks_of_loses h live nodup id
  obtain ⟨starts, leases, -⟩ := closes_of_loses h live
  have stays : t.departs id = false := by simp [departs, hknown]
  have hpresent := presentMarks_closes past stays starts live leases
  by_cases hid : id ∈ lease.marked
  · cases hstay : startedIn id past s with
    | true =>
        simp only [hid, hstay, decide_true, Bool.and_true, Bool.toNat_true] at htasks hpresent
        constructor
        · intro hless
          omega
        · rintro ⟨-, hfalse, -⟩
          cases hfalse
    | false =>
        simp only [hid, hstay, decide_true, Bool.and_false, Bool.toNat_true, Bool.toNat_false]
          at htasks hpresent
        constructor
        · intro hless
          exact ⟨hid, rfl, by omega, by omega⟩
        · rintro ⟨-, -, hpos, hequal⟩
          omega
  · simp only [hid, decide_false, Bool.false_and, Bool.toNat_false] at htasks hpresent
    constructor
    · intro hless
      omega
    · rintro ⟨hmarked, -⟩
      exact absurd hmarked hid

theorem present_marks_covered_iff {config : Config}
    {ops : List (Timestamp × Registry.Operation)} {past : List Turn} {c : Coordinator}
    (run : Run Marking (.new config (Registry.empty.after ops)) past c) :
    (∀ id node, c.registry.get? id = some node →
      (presentMarks id past c ≤ node.activeTasks.toNat ↔
        tally id (strays id) past + tally id (overflows id) past ≤
          openingCount (Registry.empty.after ops) id past + tally id (misses id) past)) ∧
    (∀ later t earlier, past = later ++ t :: earlier → ∀ s lease, t.loses s = true →
      t.before.leases.get? s = some lease → ∀ id,
      presentMarks id earlier t.before ≤ t.before.registry.tasks id →
      (t.after.registry.tasks id < presentMarks id (t :: earlier) t.after ↔
        id ∈ lease.marked ∧ startedIn id earlier s = false ∧ 0 < t.before.registry.tasks id ∧
          presentMarks id earlier t.before = t.before.registry.tasks id)) := by
  have named : (Registry.empty.after ops).Named := Registry.named_after Registry.named_empty
  constructor
  · intro id node h
    have hbalanced := run.balanced named id
    rw [Balanced, Registry.tasks_of_get? h] at hbalanced
    omega
  · rintro later t earlier rfl s lease loses live id covered
    obtain ⟨before, -, -⟩ := run.cut
    exact Turn.uncovers_iff loses live (before.nodup_marked named live) covered

def returnEvents : List (Timestamp × Event) :=
  [(⟨5, 0⟩, .cancel ⟨"S1"⟩),
    (⟨4, 0⟩, .start ⟨"S2"⟩ (fun _ => 0) (.keygen "alice" 1 1)),
    (⟨3, 0⟩, .operate (.register ⟨1⟩ "http://node1:8080")),
    (⟨2, 0⟩, .operate (.deregister ⟨1⟩)),
    (⟨1, 0⟩, .start ⟨"S1"⟩ (fun _ => 0) (.keygen "alice" 1 1))]

def returnRun : List Turn × Coordinator := replay oneNode returnEvents

theorem present_marks_covered_iff_return :
    Admits Marking oneNode returnEvents ∧
      ∀ id node, returnRun.2.registry.get? id = some node →
        (presentMarks id returnRun.1 returnRun.2 ≤ node.activeTasks.toNat ↔
          tally id (strays id) returnRun.1 + tally id (overflows id) returnRun.1 ≤
            openingCount oneNode.registry id returnRun.1 + tally id (misses id) returnRun.1) := by
  have marking : Admits Marking oneNode returnEvents := by decide +kernel
  exact ⟨marking, (present_marks_covered_iff (run_replay marking)).1⟩

theorem mark_uncovered_return :
    Admits Marking oneNode returnEvents ∧
      ∃ node, returnRun.2.registry.get? ⟨1⟩ = some node ∧ node.activeTasks.toNat = 0 ∧
        presentMarks ⟨1⟩ returnRun.1 returnRun.2 = 1 := by
  have found : (returnRun.2.registry.get? ⟨1⟩).map (fun node => node.activeTasks.toNat) =
      some 0 := by decide +kernel
  obtain ⟨node, hnode, htasks⟩ := Option.map_eq_some_iff.1 found
  exact ⟨by decide +kernel, node, hnode, htasks, by decide +kernel⟩

end Conclave.Coordinator

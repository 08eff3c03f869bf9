import Conclave.Proofs.Run

namespace Conclave.Coordinator

def marksOf (id : NodeId) (p : SessionId → Bool) (c : Coordinator) : Nat :=
  c.leases.count fun s lease => decide (id ∈ lease.marked) && p s

def liveMarks (id : NodeId) (c : Coordinator) : Nat := c.marksOf id fun _ => true

namespace Turn

def departs (id : NodeId) (t : Turn) : Bool :=
  t.before.registry.contains id && !t.after.registry.contains id

def opened (id : NodeId) (t : Turn) : Nat :=
  t.after.marksOf id fun s => !t.before.leases.contains s

def closed (id : NodeId) (p : SessionId → Bool) (t : Turn) : Nat :=
  t.before.marksOf id fun s => !t.after.leases.contains s && p s

end Turn

def startedIn (id : NodeId) (past : List Turn) (s : SessionId) : Bool :=
  match past with
  | [] => false
  | t :: past => !t.departs id && (t.starts s || startedIn id past s)

def openingCount (first : Registry) (id : NodeId) : List Turn → Nat
  | [] => first.tasks id
  | t :: past => if t.departs id then 0 else openingCount first id past

def presentMarks (id : NodeId) (past : List Turn) (c : Coordinator) : Nat :=
  c.marksOf id (startedIn id past)

def tally (id : NodeId) (counts : List Turn → Turn → Nat) : List Turn → Nat
  | [] => 0
  | t :: past => if t.departs id then 0 else tally id counts past + counts past t

def strays (id : NodeId) (past : List Turn) (t : Turn) : Nat :=
  if 0 < t.before.registry.tasks id then t.closed id fun s => !startedIn id past s else 0

def misses (id : NodeId) (past : List Turn) (t : Turn) : Nat :=
  if t.before.registry.tasks id = 0 then t.closed id (startedIn id past) else 0

def overflows (id : NodeId) (_ : List Turn) (t : Turn) : Nat :=
  if t.before.registry.tasks id = taskLimit then t.opened id else 0

theorem marksOf_congr {id : NodeId} {p q : SessionId → Bool} {c : Coordinator}
    (h : ∀ s lease, c.leases.get? s = some lease → id ∈ lease.marked → p s = q s) :
    c.marksOf id p = c.marksOf id q := by
  refine Keyed.count_congr fun s lease hs => ?_
  by_cases hid : id ∈ lease.marked
  · rw [h s lease hs hid]
  · simp [hid]

theorem marksOf_eq_zero {id : NodeId} {p : SessionId → Bool} {c : Coordinator}
    (h : ∀ s lease, c.leases.get? s = some lease → id ∈ lease.marked → p s = false) :
    c.marksOf id p = 0 := by
  rw [marksOf_congr (q := fun _ => false) h, marksOf]
  simp [Keyed.count]

theorem marksOf_pos {id : NodeId} {p : SessionId → Bool} {c : Coordinator} {s : SessionId}
    {lease : Lease} (live : c.leases.get? s = some lease) (marked : id ∈ lease.marked)
    (h : p s = true) : 0 < c.marksOf id p :=
  Keyed.count_pos live (by simp [marked, h])

theorem marksOf_insert {id : NodeId} {p : SessionId → Bool} {c c' : Coordinator} {s : SessionId}
    {lease : Lease} (h : c.leases.get? s = none) (h' : c'.leases = c.leases.insert s lease) :
    c'.marksOf id p = c.marksOf id p + (decide (id ∈ lease.marked) && p s).toNat := by
  rw [marksOf, h', Keyed.count_insert lease h]
  rfl

theorem marksOf_erase {id : NodeId} {p : SessionId → Bool} {c c' : Coordinator} {s : SessionId}
    {lease : Lease} (h : c.leases.get? s = some lease) (h' : c'.leases = c.leases.erase s) :
    c'.marksOf id p + (decide (id ∈ lease.marked) && p s).toNat = c.marksOf id p := by
  rw [marksOf, h', marksOf, ← Keyed.count_erase h]

structure Turn.Keeps (t : Turn) : Prop where
  marks : ∀ id p, t.after.marksOf id p = t.before.marksOf id p
  live : ∀ s, t.after.leases.contains s = t.before.leases.contains s

theorem Turn.keeps_of_leases {t : Turn} (h : t.after.leases = t.before.leases) : t.Keeps := by
  refine ⟨fun id p => ?_, fun s => by rw [h]⟩
  rw [marksOf, marksOf, h]

theorem Turn.keeps_of_modify {t : Turn} {s : SessionId} {f : Lease → Lease}
    (h : t.after.leases = t.before.leases.modify s f) (hf : ∀ l, (f l).marked = l.marked) :
    t.Keeps := by
  constructor
  · intro id p
    rw [marksOf, marksOf, h]
    exact Keyed.count_modify fun l => by rw [hf]
  · intro k
    rw [h, Keyed.contains, Keyed.contains, Keyed.get?_modify]
    split
    · rename_i hk
      rw [hk, Option.isSome_map]
    · rfl

theorem Turn.Keeps.opened {t : Turn} (h : t.Keeps) (id : NodeId) : t.opened id = 0 := by
  refine marksOf_eq_zero fun s lease hs _ => ?_
  rw [← h.live, Keyed.contains_iff.2 ⟨lease, hs⟩]
  rfl

theorem Turn.Keeps.closed {t : Turn} (h : t.Keeps) (id : NodeId) (p : SessionId → Bool) :
    t.closed id p = 0 := by
  refine marksOf_eq_zero fun s lease hs _ => ?_
  rw [h.live, Keyed.contains_iff.2 ⟨lease, hs⟩]
  rfl

section Opening

variable {t : Turn} {s : SessionId} {lease : Lease}

theorem Turn.opened_of_insert (hs : t.before.leases.get? s = none)
    (h : t.after.leases = t.before.leases.insert s lease) (id : NodeId) :
    t.opened id = (decide (id ∈ lease.marked)).toNat := by
  have hold : t.before.marksOf id (fun k => !t.before.leases.contains k) = 0 :=
    marksOf_eq_zero fun k l hk _ => by simp [Keyed.contains, hk]
  rw [Turn.opened, marksOf_insert hs h, hold]
  simp [Keyed.contains, hs]

theorem Turn.closed_of_insert (h : t.after.leases = t.before.leases.insert s lease) (id : NodeId)
    (p : SessionId → Bool) : t.closed id p = 0 := by
  refine marksOf_eq_zero fun k l hk _ => ?_
  rw [h, Keyed.contains, Keyed.get?_insert]
  split
  · rfl
  · simp [hk]

theorem Turn.opened_of_erase (h : t.after.leases = t.before.leases.erase s) (id : NodeId) :
    t.opened id = 0 := by
  refine marksOf_eq_zero fun k l hk _ => ?_
  rw [h, Keyed.get?_erase] at hk
  split at hk
  · cases hk
  · simp [Keyed.contains, hk]

theorem Turn.closed_of_erase (hs : t.before.leases.get? s = some lease)
    (h : t.after.leases = t.before.leases.erase s) (id : NodeId) (p : SessionId → Bool) :
    t.closed id p = (decide (id ∈ lease.marked) && p s).toNat := by
  have hleft : t.after.marksOf id (fun k => !t.after.leases.contains k && p k) = 0 :=
    marksOf_eq_zero fun k l hk _ => by simp [Keyed.contains, hk]
  rw [Turn.closed, ← marksOf_erase hs h, hleft]
  simp [Keyed.contains, h]

end Opening

inductive Turn.Booking (t : Turn) : Prop
  | keeps (keeps : t.Keeps)
      (registry : t.after.registry = t.before.registry ∨ ∃ op, t.event = .operate op ∧
        t.after.registry = (t.before.registry.apply t.now op).2)
  | opens (s : SessionId) (lease : Lease) (opens : t.Opens s lease)
      (starts : ∀ k, t.starts k = decide (k = s))
      (leases : t.after.leases = t.before.leases.insert s lease)
      (registry : t.after.registry = (t.before.registry.markAll lease.parties).2)
  | closes (s : SessionId) (lease : Lease) (starts : ∀ k, t.starts k = false)
      (live : t.before.leases.get? s = some lease)
      (leases : t.after.leases = t.before.leases.erase s)
      (registry : t.after.registry = t.before.registry.releaseAll lease.marked)

theorem Turn.booking (t : Turn) : t.Booking := by
  cases t.effect with
  | idle same => exact .keeps (keeps_of_leases (by rw [same])) (Or.inl (by rw [same]))
  | refused _ _ _ _ _ _ after =>
      exact .keeps (keeps_of_leases (by rw [after])) (Or.inl (by rw [after]))
  | opened s draws request parties channel bus event _ selected subscribed after =>
      have starts : ∀ k, t.starts k = decide (k = s) := by
        intro k
        simp [Turn.starts, event, Event.started?, eq_comm]
      exact .opens s _ ⟨draws, request, bus, event, selected, rfl, rfl, subscribed, by rw [after]⟩
        starts (by rw [after]) (by rw [after])
  | acknowledged s _ _ _ _ _ _ after =>
      have leases : t.after.leases =
          t.before.leases.modify s fun l => { l with acknowledged := true } := by rw [after]
      exact .keeps (keeps_of_modify leases fun _ => rfl) (Or.inl (by rw [after]))
  | concluded s lease _ starts _ live after =>
      rw [conclude_of_live _ _ live] at after
      exact .closes s lease starts live (by rw [after]) (by rw [after])
  | pruned _ _ _ _ _ after =>
      exact .keeps (keeps_of_leases (by rw [after])) (Or.inl (by rw [after]))
  | operated op event after =>
      exact .keeps (keeps_of_leases (by rw [after])) (Or.inr ⟨op, event, by rw [after]⟩)
  | delivered _ _ _ after =>
      exact .keeps (keeps_of_leases (by rw [after])) (Or.inl (by rw [after]))

def Event.marks : Event → Bool
  | .operate op => op.marks
  | _ => false

def Marking (past : List Turn) (t : Turn) : Prop := Fresh past t ∧ t.event.marks = false

instance (past : List Turn) (t : Turn) : Decidable (Marking past t) :=
  inferInstanceAs (Decidable (_ ∧ _))

section Books

variable {config : Config} {registry : Registry} {past : List Turn} {c : Coordinator}

theorem Run.nodup_marked {rule : List Turn → Turn → Prop} (named : registry.Named)
    (run : Run rule (.new config registry) past c) {s : SessionId} {lease : Lease}
    (h : c.leases.get? s = some lease) : lease.marked.Nodup := by
  induction run generalizing lease with
  | begin => cases h
  | @next past c run now event allowed ih =>
      rcases Turn.live_before h with hs | ⟨old, hold, hsame⟩
      · obtain ⟨draws, request, bus, -, selected, -, marked, -⟩ := hs
        have hparties := nodup_chosen (run.named named) selected
        rw [marked, Registry.markAll_fst]
        exact hparties.filter _
      · exact hsame.marked ▸ ih hold

def Balanced (registry : Registry) (id : NodeId) (past : List Turn) (c : Coordinator) : Prop :=
  c.registry.tasks id + tally id (strays id) past + tally id (overflows id) past =
    openingCount registry id past + presentMarks id past c + tally id (misses id) past

theorem presentMarks_next {t : Turn} {id : NodeId} {c : Coordinator} (stays : t.departs id = false)
    (old : ∀ s lease, c.leases.get? s = some lease → t.starts s = false) :
    presentMarks id (t :: past) c = presentMarks id past c := by
  refine marksOf_congr fun s lease hs _ => ?_
  simp [startedIn, stays, old s lease hs]

theorem presentMarks_closes (past : List Turn) {t : Turn} {id : NodeId} {s : SessionId} {lease : Lease}
    (stays : t.departs id = false) (starts : ∀ k, t.starts k = false)
    (live : t.before.leases.get? s = some lease)
    (leases : t.after.leases = t.before.leases.erase s) :
    presentMarks id (t :: past) t.after +
        (decide (id ∈ lease.marked) && startedIn id past s).toNat =
      presentMarks id past t.before := by
  rw [presentMarks_next stays fun k _ _ => starts k]
  exact marksOf_erase live leases

theorem balanced_departure {t : Turn} {id : NodeId} (leaves : t.departs id = true) :
    Balanced registry id (t :: past) t.after := by
  have hgone : t.after.registry.contains id = false := by
    simp only [Turn.departs, Bool.and_eq_true, Bool.not_eq_true'] at leaves
    exact leaves.2
  have hpresent : presentMarks id (t :: past) t.after = 0 :=
    marksOf_eq_zero fun s lease _ _ => by simp [startedIn, leaves]
  simp [Balanced, tally, openingCount, leaves, hpresent, Registry.tasks_of_unknown hgone]

theorem balanced_keeps {t : Turn} {id : NodeId} (balanced : Balanced registry id past t.before)
    (stays : t.departs id = false) (keeps : t.Keeps)
    (old : ∀ s lease, t.after.leases.get? s = some lease → t.starts s = false)
    (tasks : t.after.registry.tasks id = t.before.registry.tasks id) :
    Balanced registry id (t :: past) t.after := by
  have hpresent : presentMarks id (t :: past) t.after = presentMarks id past t.before :=
    (presentMarks_next stays old).trans (keeps.marks _ _)
  unfold Balanced at balanced ⊢
  simp only [tally, openingCount, stays, strays, misses, overflows, keeps.opened, keeps.closed,
    hpresent, tasks, ite_self, Nat.add_zero, Bool.false_eq_true, if_false]
  exact balanced

theorem balanced_opens {t : Turn} {id : NodeId} {s : SessionId} {lease : Lease}
    (balanced : Balanced registry id past t.before) (stays : t.departs id = false)
    (starts : ∀ k, t.starts k = decide (k = s)) (gone : t.before.leases.get? s = none)
    (leases : t.after.leases = t.before.leases.insert s lease)
    (tasks : t.after.registry.tasks id =
      if id ∈ lease.marked then min (t.before.registry.tasks id + 1) taskLimit
      else t.before.registry.tasks id) :
    Balanced registry id (t :: past) t.after := by
  have hold : presentMarks id (t :: past) t.before = presentMarks id past t.before := by
    refine presentMarks_next stays fun k l hk => ?_
    rw [starts]
    by_cases hks : k = s
    · rw [hks, gone] at hk
      cases hk
    · simp [hks]
  have hnew : startedIn id (t :: past) s = true := by simp [startedIn, stays, starts]
  have hpresent : presentMarks id (t :: past) t.after =
      presentMarks id past t.before + (decide (id ∈ lease.marked)).toNat := by
    rw [presentMarks, marksOf_insert gone leases, hnew, Bool.and_true]
    exact congrArg (· + _) hold
  have hle := Registry.tasks_le t.before.registry id
  unfold Balanced at balanced ⊢
  simp only [tally, openingCount, stays, strays, misses, overflows, tasks, hpresent,
    Turn.opened_of_insert gone leases, Turn.closed_of_insert leases, ite_self, Nat.add_zero,
    Bool.false_eq_true, if_false]
  -- the limit is a large numeral, of which only the bound is of use
  generalize taskLimit = limit at hle ⊢
  by_cases hid : id ∈ lease.marked
  · by_cases hlimit : t.before.registry.tasks id = limit
    · simp only [hid, hlimit, if_true, decide_true, Bool.toNat_true] at balanced ⊢
      omega
    · simp only [hid, hlimit, if_true, if_false, decide_true, Bool.toNat_true]
      omega
  · simp only [hid, if_false, decide_false, Bool.toNat_false, ite_self]
    omega

theorem balanced_closes {t : Turn} {id : NodeId} {s : SessionId} {lease : Lease}
    (balanced : Balanced registry id past t.before) (stays : t.departs id = false)
    (starts : ∀ k, t.starts k = false) (live : t.before.leases.get? s = some lease)
    (leases : t.after.leases = t.before.leases.erase s)
    (tasks : t.after.registry.tasks id =
      t.before.registry.tasks id - (decide (id ∈ lease.marked)).toNat) :
    Balanced registry id (t :: past) t.after := by
  have hpresent := presentMarks_closes past stays starts live leases
  unfold Balanced at balanced ⊢
  simp only [tally, openingCount, stays, strays, misses, overflows, tasks,
    Turn.opened_of_erase leases, Turn.closed_of_erase live leases, ite_self, Nat.add_zero,
    Bool.false_eq_true, if_false]
  by_cases hid : id ∈ lease.marked
  · -- a mark of this stay is missed if the count is zero, one of an earlier stay is taken if not
    rcases Nat.eq_zero_or_pos (t.before.registry.tasks id) with hzero | hpos
    · cases hstay : startedIn id past s
      · simp [hid, hstay, hzero] at hpresent ⊢
        omega
      · simp [hid, hstay, hzero] at hpresent ⊢
        omega
    · have hne : t.before.registry.tasks id ≠ 0 := Nat.ne_of_gt hpos
      cases hstay : startedIn id past s
      · simp [hid, hstay, hpos, hne] at hpresent ⊢
        omega
      · simp [hid, hstay, hpos, hne] at hpresent ⊢
        omega
  · simp [hid] at hpresent ⊢
    omega

theorem tasks_of_keeps {t : Turn} {id : NodeId} (marking : Marking past t)
    (stays : t.departs id = false)
    (registry : t.after.registry = t.before.registry ∨ ∃ op, t.event = .operate op ∧
      t.after.registry = (t.before.registry.apply t.now op).2) :
    t.after.registry.tasks id = t.before.registry.tasks id := by
  rcases registry with same | ⟨op, event, after⟩
  · rw [same]
  · have htasks : t.after.registry.tasks id =
        if op = .deregister id then 0 else t.before.registry.tasks id := by
      rw [after]
      have hop := marking.2
      rw [event] at hop
      exact Registry.tasks_apply hop
    by_cases hop : op = .deregister id
    · have habsent : t.before.registry.contains id = false := by
        simp only [Turn.departs, after, hop, Registry.apply, Registry.contains_deregister] at stays
        simpa using stays
      rw [htasks, if_pos hop, Registry.tasks_of_unknown habsent]
    · rw [htasks, if_neg hop]

theorem Run.balanced (named : registry.Named) (run : Run Marking (.new config registry) past c)
    (id : NodeId) : Balanced registry id past c := by
  induction run with
  | begin => rfl
  | @next past c run now event allowed ih =>
      have hgone := fun s => run.gone_of_start (s := s) allowed.1
      cases hd : Turn.departs id ⟨now, c, event⟩ with
      | true => exact balanced_departure hd
      | false =>
          cases Turn.booking ⟨now, c, event⟩ with
          | keeps keeps registry =>
              refine balanced_keeps ih hd keeps ?_ (tasks_of_keeps allowed hd registry)
              intro s lease hs
              have hlive := keeps.live s
              rw [Keyed.contains_iff.2 ⟨lease, hs⟩] at hlive
              cases hstart : Turn.starts s ⟨now, c, event⟩ with
              | false => rfl
              | true => rw [Keyed.contains_eq_false.2 (hgone s hstart)] at hlive; cases hlive
          | opens s lease opens starts leases registry =>
              refine balanced_opens ih hd starts (hgone s opens.starts) leases ?_
              obtain ⟨_, request, _, _, selected, _, marked, _⟩ := opens
              rw [registry, marked]
              refine Registry.tasks_markAll id c.registry ?_
              exact nodup_chosen (run.named named) selected
          | closes s lease starts live leases registry =>
              refine balanced_closes ih hd starts live leases ?_
              rw [registry]
              exact Registry.tasks_releaseAll id c.registry (run.nodup_marked named live)

end Books

end Conclave.Coordinator

import Conclave.Proofs.Clock
import Conclave.Proofs.Loads

namespace Conclave.Registry

def Steady (past : List (Timestamp × Operation)) : Prop :=
  past.Pairwise fun newer older => older.1 ≤ newer.1

instance (past : List (Timestamp × Operation)) : Decidable (Steady past) :=
  inferInstanceAs (Decidable (List.Pairwise _ _))

def Operation.target : Operation → NodeId
  | .register id _ => id
  | .deregister id => id
  | .report id _ _ => id
  | .probe id _ _ => id
  | .busy id => id
  | .idle id => id

def Operation.registers : Operation → Bool
  | .register _ _ => true
  | _ => false

structure Sound (now : Timestamp) (r : Registry) : Prop where
  named : r.Named
  loads : r.EveryLoad Binary64.InUnit
  seen : ∀ id n, r.get? id = some n → n.lastSeen ≤ now

structure Lawful (now : Timestamp) (op : Operation) (r : Registry) : Prop where
  appears : ∀ id, r.contains id = false → (r.apply now op).2.contains id = true →
    ∃ address, op = .register id address
  disappears : ∀ id, r.contains id = true → (r.apply now op).2.contains id = false →
    op = .deregister id
  unknown : op.registers = false → r.contains op.target = false → r.apply now op = (false, r)
  elsewhere : ∀ id, id ≠ op.target → (r.apply now op).2.get? id = r.get? id
  marked : op.marks = true → ∀ n, r.get? op.target = some n →
    ∃ count, (r.apply now op).2.get? op.target = some { n with activeTasks := count }
  unmarked : op.marks = false → ∀ id n m, r.get? id = some n →
    (r.apply now op).2.get? id = some m → m.activeTasks = n.activeTasks
  seen : ∀ id n m, r.get? id = some n → (r.apply now op).2.get? id = some m →
    n.lastSeen ≤ m.lastSeen

section Step

variable {r : Registry} {now : Timestamp} {op : Operation} {id : NodeId} {n m : Node}

theorem change_of_unknown (missing : r.contains id = false) (applies : Node → Bool) (f : Node → Node) :
    r.change id applies f = (false, r) := by
  have hget : r.get? id = none := Keyed.contains_eq_false.1 missing
  rw [change, hget]

theorem apply_of_unknown (known : op.registers = false) (missing : r.contains op.target = false) :
    r.apply now op = (false, r) := by
  cases op with
  | register id address => cases known
  | deregister id =>
      have hget : r.nodes.get? id = none := Keyed.contains_eq_false.1 missing
      exact Prod.ext missing (congrArg Registry.mk (Keyed.erase_of_missing hget))
  | report id load status => exact change_of_unknown missing _ _
  | probe id observed verdict => exact change_of_unknown missing _ _
  | busy id => exact change_of_unknown missing _ _
  | idle id => exact change_of_unknown missing _ _

theorem get?_apply_ne (h : id ≠ op.target) : (r.apply now op).2.get? id = r.get? id := by
  cases op with
  | register k address => exact (get?_register now k id address r).trans (if_neg h)
  | deregister k => exact (get?_deregister k id r).trans (if_neg h)
  | report k load status => exact (get?_change k id _ _ r).trans (if_neg h)
  | probe k observed verdict => exact (get?_change k id _ _ r).trans (if_neg h)
  | busy k => exact (get?_change k id _ _ r).trans (if_neg h)
  | idle k => exact (get?_change k id _ _ r).trans (if_neg h)

theorem get?_apply_of_marks (marks : op.marks = true) (h : r.get? op.target = some n) :
    ∃ count, (r.apply now op).2.get? op.target = some { n with activeTasks := count } := by
  cases op with
  | register id address => cases marks
  | deregister id => cases marks
  | report id load status => cases marks
  | probe id observed verdict => cases marks
  | busy id =>
      rw [Operation.target] at h ⊢
      rw [apply, markBusy, get?_change, if_pos rfl, h]
      exact ⟨_, rfl⟩
  | idle id =>
      rw [Operation.target] at h ⊢
      rw [apply, markIdle, get?_change, if_pos rfl, h, Option.map_some]
      split
      · exact ⟨_, rfl⟩
      · exact ⟨n.activeTasks, rfl⟩

theorem activeTasks_apply (unmarked : op.marks = false) (h : r.get? id = some n)
    (h' : (r.apply now op).2.get? id = some m) : m.activeTasks = n.activeTasks := by
  have htasks : (r.apply now op).2.tasks id = if op = .deregister id then 0 else r.tasks id :=
    tasks_apply unmarked
  rw [tasks_of_get? h', tasks_of_get? h, if_neg] at htasks
  · exact UInt32.toNat_inj.1 htasks
  · rintro rfl
    rw [apply, get?_deregister, if_pos rfl] at h'
    cases h'

theorem lastSeen_apply (sound : r.Sound now) (h : r.get? id = some n)
    (h' : (r.apply now op).2.get? id = some m) : n.lastSeen ≤ m.lastSeen := by
  rcases seen_apply h' with ⟨-, -, hnow⟩ | ⟨-, old, hold, hseen⟩
  · exact hnow ▸ sound.seen id n h
  · cases h.symm.trans hold
    exact hseen ▸ le_refl _

theorem Sound.lawful (sound : r.Sound now) : Lawful now op r where
  appears id missing there := by
    refine (contains_apply (by rw [missing, there]; decide)).resolve_right ?_
    rintro rfl
    rw [apply, contains_deregister, decide_eq_true rfl] at there
    cases there
  disappears id there missing := by
    refine (contains_apply (by rw [missing, there]; decide)).resolve_left ?_
    rintro ⟨address, rfl⟩
    rw [apply, contains_register, decide_eq_true rfl] at missing
    cases missing
  unknown := apply_of_unknown
  elsewhere _ := get?_apply_ne
  marked marks _ := get?_apply_of_marks marks
  unmarked unmarked _ _ _ := activeTasks_apply unmarked
  seen _ _ _ := lastSeen_apply sound

end Step

section Run

variable {past : List (Timestamp × Operation)} {now : Timestamp} {id : NodeId} {n : Node}

theorem lastSeen_le (steady : Steady past) (latest : ∀ e ∈ past.head?, e.1 ≤ now)
    (h : (reached past).get? id = some n) : n.lastSeen ≤ now := by
  induction past generalizing now n with
  | nil => cases h
  | cons e past ih =>
      obtain ⟨holder, hsteady⟩ := List.pairwise_cons.1 steady
      have hnow : e.1 ≤ now := latest e rfl
      rcases seen_apply h with ⟨-, -, hseen⟩ | ⟨-, old, hold, hseen⟩
      · exact hseen ▸ hnow
      · have hle := ih hsteady (fun u hu => holder u (List.mem_of_mem_head? hu)) hold
        exact hseen ▸ hle.trans hnow

theorem sound_reached (steady : Steady past) (latest : ∀ e ∈ past.head?, e.1 ≤ now) :
    (reached past).Sound now :=
  ⟨named_reached past, inUnit_reached past, fun _ _ => lastSeen_le steady latest⟩

theorem tenure {later earlier : List (Timestamp × Operation)} (steady : Steady (later ++ earlier))
    (stays : ∀ e ∈ later, e.2 ≠ .deregister id) (h : (reached earlier).get? id = some n) :
    ∃ m, (reached (later ++ earlier)).get? id = some m ∧ n.lastSeen ≤ m.lastSeen ∧
      ((∀ e ∈ later, e.2.marks = true → e.2.target ≠ id) → m.activeTasks = n.activeTasks) := by
  induction later with
  | nil => exact ⟨n, h, le_refl _, fun _ => rfl⟩
  | cons e later ih =>
      obtain ⟨hstay, hstays⟩ := List.forall_mem_cons.1 stays
      obtain ⟨holder, hsteady⟩ := List.pairwise_cons.1 steady
      obtain ⟨m, hm, hseen, htasks⟩ := ih hsteady hstays
      have sound : (reached (later ++ earlier)).Sound e.1 :=
        sound_reached hsteady fun u hu => holder u (List.mem_of_mem_head? hu)
      have lawful : Lawful e.1 e.2 (reached (later ++ earlier)) := sound.lawful
      have there : ((reached (later ++ earlier)).apply e.1 e.2).2.contains id = true :=
        Bool.eq_true_of_not_eq_false fun gone =>
          hstay (lawful.disappears id (contains_iff.2 ⟨m, hm⟩) gone)
      obtain ⟨m', hm'⟩ := contains_iff.1 there
      refine ⟨m', hm', hseen.trans (lawful.seen id m m' hm hm'), fun untouched => ?_⟩
      obtain ⟨hlast, hlater⟩ := List.forall_mem_cons.1 untouched
      refine Eq.trans ?_ (htasks hlater)
      cases marks : e.2.marks with
      | true =>
          have hsame := (lawful.elsewhere id (hlast marks).symm).symm.trans hm'
          exact congrArg Node.activeTasks (Option.some.inj (hsame.symm.trans hm))
      | false => exact lawful.unmarked marks id m m' hm hm'

end Run

theorem table_kept_in_order {past : List (Timestamp × Operation)} (steady : Steady past) :
    (∀ now, (∀ e ∈ past.head?, e.1 ≤ now) →
      (reached past).Sound now ∧ ∀ op, Lawful now op (reached past)) ∧
    (∀ later earlier id n, past = later ++ earlier → (∀ e ∈ later, e.2 ≠ .deregister id) →
      (reached earlier).get? id = some n →
      ∃ m, (reached past).get? id = some m ∧ n.lastSeen ≤ m.lastSeen ∧
        ((∀ e ∈ later, e.2.marks = true → e.2.target ≠ id) → m.activeTasks = n.activeTasks)) := by
  refine ⟨fun now latest => ?_, fun later earlier id n hpast stays h => ?_⟩
  · have sound := sound_reached steady latest
    exact ⟨sound, fun _ => sound.lawful⟩
  · subst hpast
    exact tenure steady stays h

def unruly : List (Timestamp × Operation) :=
  [(⟨6, 0⟩, .report ⟨1⟩ (.ofParts true 0x7ff8000000000000) .online), (⟨5, 0⟩, .idle ⟨2⟩),
    (⟨4, 0⟩, .register ⟨1⟩ "http://new"), (⟨3, 0⟩, .report ⟨1⟩ .negativeZero .maintenance),
    (⟨2, 0⟩, .busy ⟨1⟩), (⟨1, 0⟩, .register ⟨1⟩ "http://old")]

theorem table_kept_in_order_unruly :
    Steady unruly ∧ (reached unruly).Sound ⟨6, 0⟩ ∧
      (∃ n, (reached unruly).get? ⟨1⟩ = some n ∧ n.load = .one ∧ n.activeTasks = 1) ∧
      (reached unruly).apply ⟨7, 0⟩ (.busy ⟨2⟩) = (false, reached unruly) := by
  have steady : Steady unruly := by decide
  have order := table_kept_in_order steady
  obtain ⟨sound, lawful⟩ := order.1 ⟨6, 0⟩ (by decide)
  exact ⟨steady, sound, ⟨_, rfl, by decide, by decide⟩,
    ((order.1 ⟨7, 0⟩ (by decide)).2 (.busy ⟨2⟩)).unknown rfl (by decide)⟩

end Conclave.Registry

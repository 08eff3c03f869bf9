import Conclave.Proofs.Atomicity
import Conclave.Proofs.Ranking
import Conclave.Proofs.Rewording
import Mathlib.Data.List.Permutation

namespace Conclave

namespace Registry

def status? (r : Registry) (id : NodeId) : Option NodeStatus := (r.get? id).map Node.status

def statuses (r : Registry) : List (NodeId × NodeStatus) := (r.nodes.mapValues Node.status).entries

def spread (r : Registry) : Nat :=
  let counts := r.online.map fun n => n.activeTasks.toNat
  counts.max?.getD 0 - counts.min?.getD 0

def Within (d : Nat) (r : Registry) : Prop :=
  ∀ i j, r.status? i = some .online → r.status? j = some .online → r.tasks i ≤ r.tasks j + d

section Spread

variable {r r' : Registry} {d : Nat} {id : NodeId} {n : Node}

theorem mem_online_iff : n ∈ r.online ↔ (∃ id, r.get? id = some n) ∧ n.status = .online := by
  rw [online, List.mem_filter, toList, List.mem_mergeSort, Keyed.mem_values_iff, Node.isOnline,
    decide_eq_true_iff]
  rfl

theorem status?_eq_online : r.status? id = some .online ↔ ∃ n ∈ r.online, r.get? id = some n := by
  rw [status?, Option.map_eq_some_iff]
  constructor
  · rintro ⟨n, hn, honline⟩
    exact ⟨n, mem_online_iff.2 ⟨⟨id, hn⟩, honline⟩, hn⟩
  · rintro ⟨n, honline, hn⟩
    exact ⟨n, hn, (mem_online_iff.1 honline).2⟩

theorem within_iff :
    r.Within d ↔ ∀ a ∈ r.online, ∀ b ∈ r.online, a.activeTasks.toNat ≤ b.activeTasks.toNat + d := by
  constructor
  · intro within a ha b hb
    obtain ⟨i, hi⟩ := (mem_online_iff.1 ha).1
    obtain ⟨j, hj⟩ := (mem_online_iff.1 hb).1
    rw [← tasks_of_get? hi, ← tasks_of_get? hj]
    exact within i j (status?_eq_online.2 ⟨a, ha, hi⟩) (status?_eq_online.2 ⟨b, hb, hj⟩)
  · intro within i j hi hj
    obtain ⟨a, ha, hia⟩ := status?_eq_online.1 hi
    obtain ⟨b, hb, hjb⟩ := status?_eq_online.1 hj
    rw [tasks_of_get? hia, tasks_of_get? hjb]
    exact within a ha b hb

theorem spread_le_iff : r.spread ≤ d ↔ r.Within d := by
  rw [within_iff, spread]
  constructor
  · intro hspread a ha b hb
    have hmax := List.le_max?_getD_of_mem (k := 0)
      (List.mem_map_of_mem (f := fun n : Node => n.activeTasks.toNat) ha)
    have hmin := List.min?_getD_le_of_mem (k := 0)
      (List.mem_map_of_mem (f := fun n : Node => n.activeTasks.toNat) hb)
    omega
  · intro within
    cases hmax : (r.online.map fun n => n.activeTasks.toNat).max? with
    | none => simp
    | some largest =>
        cases hmin : (r.online.map fun n => n.activeTasks.toNat).min? with
        | none => simp [List.min?_eq_none_iff.1 hmin] at hmax
        | some smallest =>
            obtain ⟨a, ha, rfl⟩ := List.mem_map.1 (List.max?_mem hmax)
            obtain ⟨b, hb, rfl⟩ := List.mem_map.1 (List.min?_mem hmin)
            have hle := within a ha b hb
            simp only [Option.getD_some]
            omega

theorem status?_of_statuses (h : r'.statuses = r.statuses) (id : NodeId) :
    r'.status? id = r.status? id := by
  have hsame : r'.nodes.mapValues Node.status = r.nodes.mapValues Node.status := Keyed.eq_of_entries h
  rw [status?, get?, ← Keyed.get?_mapValues, hsame, Keyed.get?_mapValues]
  rfl

theorem Within.congr (within : r.Within d) (status : ∀ id, r'.status? id = r.status? id)
    (tasks : ∀ id, r.status? id = some .online → r'.tasks id = r.tasks id) : r'.Within d := by
  intro i j hi hj
  rw [status] at hi hj
  rw [tasks i hi, tasks j hj]
  exact within i j hi hj

end Spread

section Marks

variable {r : Registry} {d : Nat} {ids : List NodeId} {id : NodeId}

theorem status?_markAll (nodup : ids.Nodup) (r : Registry) (id : NodeId) :
    (markAll ids r).2.status? id = r.status? id := by
  rw [status?, status?, get?_markAll nodup]
  split
  · rw [Option.map_map]
    rfl
  · rfl

theorem status?_releaseAll (nodup : ids.Nodup) (r : Registry) (id : NodeId) :
    (releaseAll ids r).status? id = r.status? id := by
  have hidler : Node.status ∘ Node.idler = Node.status := by
    funext n
    rw [Function.comp, Node.idler]
    split <;> rfl
  rw [status?, status?, get?_releaseAll nodup]
  split
  · rw [Option.map_map, hidler]
  · rfl

theorem mem_marked (online : r.status? id = some .online) : id ∈ (markAll ids r).1 ↔ id ∈ ids := by
  obtain ⟨n, -, hn⟩ := status?_eq_online.1 online
  rw [markAll_fst, List.mem_filter, and_iff_left (contains_iff.2 ⟨n, hn⟩)]

theorem tasks_markAll_of_online (nodup : ids.Nodup) (online : r.status? id = some .online) :
    (markAll ids r).2.tasks id = if id ∈ ids then min (r.tasks id + 1) taskLimit else r.tasks id := by
  simp only [tasks_markAll id r nodup, mem_marked online]

theorem within_markAll (nodup : ids.Nodup) (within : r.Within d) (pos : 1 ≤ d)
    (fewest : ∀ i ∈ ids, ∀ j, j ∉ ids → r.status? i = some .online → r.status? j = some .online →
      r.tasks i ≤ r.tasks j) :
    (markAll ids r).2.Within d := by
  intro i j hi hj
  rw [status?_markAll nodup] at hi hj
  have hle := within i j hi hj
  rw [tasks_markAll_of_online nodup hi, tasks_markAll_of_online nodup hj]
  by_cases hin : i ∈ ids
  · by_cases hjn : j ∈ ids
    · simp only [hin, hjn, if_true]
      omega
    · have hfew := fewest i hin j hjn hi hj
      simp only [hin, hjn, if_true, if_false]
      omega
  · have hlimit := r.tasks_le i
    by_cases hjn : j ∈ ids
    · simp only [hin, hjn, if_true, if_false]
      omega
    · simpa only [hin, hjn, if_false] using hle

theorem within_releaseAll (nodup : ids.Nodup) (within : r.Within d) (pos : 1 ≤ d) :
    (releaseAll (markAll ids r).1 (markAll ids r).2).Within d := by
  have hmarked : (markAll ids r).1.Nodup := markAll_fst ids r ▸ nodup.filter _
  have hback : ∀ id, r.status? id = some .online →
      (releaseAll (markAll ids r).1 (markAll ids r).2).tasks id =
        if id ∈ ids then min (r.tasks id) (taskLimit - 1) else r.tasks id := by
    intro id honline
    simp only [tasks_releaseAll id _ hmarked, tasks_markAll_of_online nodup honline, mem_marked honline]
    by_cases hid : id ∈ ids
    · simp only [hid, if_true, decide_true, Bool.toNat_true, taskLimit]
      omega
    · simp only [hid, if_false, decide_false, Bool.toNat_false, Nat.sub_zero]
  intro i j hi hj
  rw [status?_releaseAll hmarked, status?_markAll nodup] at hi hj
  have hle := within i j hi hj
  have hlimit := r.tasks_le i
  rw [hback i hi, hback j hj]
  split <;> split <;> omega

end Marks

end Registry

namespace Quorum

theorem Ranked.lt_of_left {measure : Node → Int} {nodes listing : List Node} {count : Nat}
    (ranked : Ranked measure nodes listing) {a b : Node} (chosen : a ∈ listing.take count)
    (hb : b ∈ nodes) (left : b.id ∉ (listing.take count).map Node.id) :
    standing measure a < standing measure b := by
  have hascending := ranked.ascending
  have hlisting := ranked.perm.symm.subset hb
  rw [← List.take_append_drop count listing] at hascending hlisting
  have hdrop : b ∈ listing.drop count :=
    (List.mem_append.1 hlisting).resolve_left fun h => left (List.mem_map_of_mem h)
  exact (List.pairwise_append.1 hascending).2.2 a chosen b hdrop

theorem fewest_of_select {r : Registry} (named : r.Named) {total threshold : Nat}
    {session : SessionId} {draws : Draws} {parties : List NodeId}
    (selected : select .availabilityBased r.nodes.values total threshold session draws = .ok parties)
    {i j : NodeId} (hi : i ∈ parties) (hj : j ∉ parties) (online : r.status? j = some .online) :
    r.tasks i ≤ r.tasks j := by
  have hunique := nodup_online (Registry.nodup_ids named)
  have ranked := ranked_mergeSort (fun n => n.activeTasks.toNat) hunique
  obtain ⟨-, -, rfl⟩ := select_eq_ok selected
  rw [picked_eq .tasks, firstRanked_eq hunique ranked] at hi hj
  obtain ⟨a, ha, rfl⟩ := List.mem_map.1 hi
  obtain ⟨b, honline, hb⟩ := Registry.status?_eq_online.1 online
  obtain rfl := named j b hb
  have hknown : ∀ n ∈ r.nodes.values.filter Node.isOnline, r.tasks n.id = n.activeTasks.toNat := by
    intro n hn
    obtain ⟨id, hget⟩ := Keyed.mem_values_iff.1 (List.mem_filter.1 hn).1
    rw [named id n hget]
    exact Registry.tasks_of_get? hget
  have hmem : b ∈ r.nodes.values.filter Node.isOnline :=
    List.mem_filter.2 ⟨Keyed.mem_values_iff.2 ⟨_, hb⟩,
      decide_eq_true (Registry.mem_online_iff.1 honline).2⟩
  rw [hknown a (ranked.perm.subset (List.mem_of_mem_take ha)), hknown b hmem]
  have hlt := standing_lt_iff.1 (ranked.lt_of_left ha hmem hj)
  omega

end Quorum

namespace Coordinator

def Calm (c : Coordinator) : Prop := ∀ e ∈ c.leases.entries, e.2.acknowledged = true

def Event.operation? : Event → Option Registry.Operation
  | .operate op => some op
  | _ => none

structure Successive (past : List Turn) (t : Turn) : Prop where
  calm : t.event.started?.isSome = true → t.before.Calm
  unended : ∀ e ∈ t.ending, ∀ lease ∈ t.before.leases.get? e.1, lease.acknowledged = false
  unmarked : ∀ op ∈ t.event.operation?, op.marks = false
  fixed : t.after.registry.statuses = t.before.registry.statuses

instance (c : Coordinator) : Decidable c.Calm := inferInstanceAs (Decidable (∀ e ∈ _, _ = _))

instance (past : List Turn) (t : Turn) : Decidable (Successive past t) :=
  decidable_of_iff ((t.event.started?.isSome = true → t.before.Calm) ∧
      (∀ e ∈ t.ending, ∀ lease ∈ t.before.leases.get? e.1, lease.acknowledged = false) ∧
      (∀ op ∈ t.event.operation?, op.marks = false) ∧
      t.after.registry.statuses = t.before.registry.statuses)
    ⟨fun ⟨calm, unended, unmarked, fixed⟩ => ⟨calm, unended, unmarked, fixed⟩,
      fun ⟨calm, unended, unmarked, fixed⟩ => ⟨calm, unended, unmarked, fixed⟩⟩

structure Even (d : Nat) (c : Coordinator) : Prop where
  policy : c.config.selectionPolicy = .availabilityBased
  within : c.registry.Within d
  released : ∀ s lease, c.leases.get? s = some lease → lease.acknowledged = false →
    lease.marked.Nodup ∧ (c.registry.releaseAll lease.marked).Within d
  alone : ∀ s s' lease lease', c.leases.get? s = some lease → lease.acknowledged = false →
    c.leases.get? s' = some lease' → lease'.acknowledged = false → s = s'

section Even

variable {d : Nat} {c c' : Coordinator}

theorem Calm.acknowledged (calm : c.Calm) {s : SessionId} {lease : Lease}
    (live : c.leases.get? s = some lease) : lease.acknowledged = true :=
  calm (s, lease) (Keyed.mem_entries_iff.2 live)

theorem even_of_calm (policy : c.config.selectionPolicy = .availabilityBased) (calm : c.Calm)
    (within : c.registry.Within d) : Even d c where
  policy := policy
  within := within
  released s lease live waiting := by
    rw [calm.acknowledged live] at waiting
    cases waiting
  alone s s' lease lease' live waiting := by
    rw [calm.acknowledged live] at waiting
    cases waiting

theorem Even.congr (even : Even d c) (config : c'.config = c.config)
    (status : ∀ id, c'.registry.status? id = c.registry.status? id)
    (tasks : ∀ id, c.registry.status? id = some .online → c'.registry.tasks id = c.registry.tasks id)
    (leases : ∀ s lease, c'.leases.get? s = some lease → lease.acknowledged = false →
      c.leases.get? s = some lease) :
    Even d c' where
  policy := by rw [config, even.policy]
  within := even.within.congr status tasks
  released s lease live waiting := by
    obtain ⟨nodup, within⟩ := even.released s lease (leases s lease live waiting) waiting
    refine ⟨nodup, within.congr (fun id => ?_) fun id online => ?_⟩
    · rw [Registry.status?_releaseAll nodup, Registry.status?_releaseAll nodup, status]
    · rw [Registry.status?_releaseAll nodup] at online
      rw [Registry.tasks_releaseAll id _ nodup, Registry.tasks_releaseAll id _ nodup, tasks id online]
  alone s s' lease lease' live waiting live' waiting' :=
    even.alone s s' lease lease' (leases s lease live waiting) waiting
      (leases s' lease' live' waiting') waiting'

theorem Even.same (even : Even d c) (config : c'.config = c.config)
    (registry : c'.registry = c.registry) (leases : c'.leases = c.leases) : Even d c' :=
  even.congr config (fun _ => by rw [registry]) (fun _ _ => by rw [registry])
    fun _ _ live _ => leases ▸ live

theorem Even.launch (even : Even d c) (calm : c.Calm) (named : c.registry.Named) (pos : 1 ≤ d)
    {now : Timestamp} {s : SessionId} {draws : Draws} {request : Session.Request}
    {parties : List NodeId} (channel : ChannelId) (bus : Bus)
    (selected : c.chosen s draws request = .ok parties) :
    Even d (c.launch now s request parties channel bus) := by
  have nodup := nodup_chosen named selected
  rw [chosen, even.policy] at selected
  -- whoever waits for an answer is the session that was just launched
  have newest : ∀ k lease, (c.launch now s request parties channel bus).leases.get? k = some lease →
      lease.acknowledged = false → k = s ∧ lease.marked = (c.registry.markAll parties).1 := by
    intro k lease live waiting
    rw [Coordinator.launch, Keyed.get?_insert] at live
    split at live
    · rename_i hk
      cases live
      exact ⟨hk, rfl⟩
    · rw [calm.acknowledged live] at waiting
      cases waiting
  exact {
    policy := even.policy
    within := Registry.within_markAll nodup even.within pos fun i hi j hj _ online =>
      Quorum.fewest_of_select named selected hi hj online
    released := by
      intro k lease live waiting
      obtain ⟨-, marked⟩ := newest k lease live waiting
      rw [marked]
      exact ⟨Registry.markAll_fst parties _ ▸ nodup.filter _,
        Registry.within_releaseAll nodup even.within pos⟩
    alone := by
      intro k k' lease lease' live waiting live' waiting'
      rw [(newest k lease live waiting).1, (newest k' lease' live' waiting').1] }

theorem Even.conclude (even : Even d c) {now : Timestamp} {s : SessionId} {lease : Lease}
    (live : c.leases.get? s = some lease) (waiting : lease.acknowledged = false)
    (failure : Option Failure) : Even d (c.conclude now s failure) := by
  rw [conclude_of_live _ _ live]
  refine even_of_calm even.policy ?_ (even.released s lease live waiting).2
  rintro ⟨k, left⟩ hk
  rw [Keyed.mem_entries_iff, Keyed.get?_erase] at hk
  split at hk
  · cases hk
  · rename_i hne
    refine Bool.eq_true_of_not_eq_false fun unanswered => hne ?_
    exact (even.alone s k lease left live waiting hk unanswered).symm

theorem Even.next {past : List Turn} {t : Turn} (even : Even d t.before)
    (named : t.before.registry.Named) (pos : 1 ≤ d) (successive : Successive past t) :
    Even d t.after := by
  cases t.effect with
  | idle same => exact same ▸ even
  | refused _ _ _ _ _ _ after => exact even.same (by rw [after]) (by rw [after]) (by rw [after])
  | opened s draws request parties channel bus event _ selected _ after =>
      have calm : t.before.Calm := successive.calm (by rw [event]; rfl)
      rw [after]
      exact even.launch calm named pos channel bus selected
  | acknowledged s _ _ _ _ _ _ after =>
      refine even.congr (by rw [after]) (fun _ => by rw [after]) (fun _ _ => by rw [after]) ?_
      intro k lease live unanswered
      rw [after, Keyed.get?_modify] at live
      split at live
      · obtain ⟨old, -, rfl⟩ := Option.map_eq_some_iff.1 live
        cases unanswered
      · exact live
  | concluded s lease outcome _ ending live after =>
      rw [after]
      exact even.conclude live (successive.unended _ ending lease live) _
  | pruned _ _ _ _ _ after => exact even.same (by rw [after]) (by rw [after]) (by rw [after])
  | operated op event after =>
      have status := Registry.status?_of_statuses successive.fixed
      have unmarked : op.marks = false := successive.unmarked op (by rw [event]; rfl)
      refine even.congr (by rw [after]) status (fun id online => ?_) fun s lease live _ => ?_
      · rw [after, Registry.tasks_apply unmarked, if_neg]
        rintro rfl
        have gone := (status id).trans online
        rw [after, Registry.status?, Registry.apply, Registry.get?_deregister, if_pos rfl] at gone
        cases gone
      · rw [after] at live
        exact live
  | delivered _ _ _ after => exact even.same (by rw [after]) (by rw [after]) (by rw [after])

theorem Run.even {past : List Turn} (run : Run Successive c past c') (even : Even d c)
    (named : c.registry.Named) (pos : 1 ≤ d) : Even d c' := by
  induction run with
  | begin => exact even
  | next run now event allowed ih => exact Even.next (t := ⟨now, _, event⟩) ih (run.named named) pos allowed

theorem registry_of_call {now later : Timestamp} {s : SessionId} {draws : Draws}
    {request : Session.Request} {notifier : Notice → Reply} {notice : Notice}
    (succeeds : (c.call now later s draws request notifier []).outcome = some (.ok notice)) :
    ∃ parties, c.chosen s draws request = .ok parties ∧
      (c.call now later s draws request notifier []).after.registry = (c.registry.markAll parties).2 := by
  cases started now s draws request c with
  | invalid f _ result => simp [call, result] at succeeds
  | unchosen f _ _ result => simp [call, result] at succeeds
  | taken f _ _ _ _ result => simp [call, result] at succeeds
  | launched parties channel bus _ selected _ result =>
      refine ⟨parties, selected, ?_⟩
      have live : (c.launch now s request parties channel bus).leases.get? s =
          some ⟨request.action, parties, (c.registry.markAll parties).1, channel, false⟩ :=
        live_of_launch parties channel bus
      have config : (c.launch now s request parties channel bus).config = c.config := rfl
      cases reply : (notifier (request.notice s parties)).outcome c.config.dispatchTimeout with
      | error f => simp [call, result, replay, answer, live, config, reply, Except.map] at succeeds
      | ok _ =>
          simp only [call, result, replay, answer, live, config, reply, Bool.false_eq_true, if_false]
          rfl

end Even

theorem availability_keeps_balance {c : Coordinator}
    (policy : c.config.selectionPolicy = .availabilityBased) (named : c.registry.Named) :
    (∀ now later s draws request notifier notice,
      (c.call now later s draws request notifier []).outcome = some (.ok notice) →
        (c.call now later s draws request notifier []).after.registry.spread ≤
          max c.registry.spread 1) ∧
    (c.Calm → ∀ past c', Run Successive c past c' →
      c'.registry.spread ≤ max c.registry.spread 1 ∧
      ((∀ n ∈ c.registry.online, n.activeTasks = 0) →
        ∀ a ∈ c'.registry.online, ∀ b ∈ c'.registry.online,
          a.activeTasks.toNat ≤ b.activeTasks.toNat + 1)) := by
  have within : c.registry.Within (max c.registry.spread 1) :=
    Registry.spread_le_iff.1 (Nat.le_max_left _ _)
  refine ⟨fun now later s draws request notifier notice succeeds => ?_, fun calm past c' run => ?_⟩
  · obtain ⟨parties, selected, after⟩ := registry_of_call succeeds
    have nodup := nodup_chosen named selected
    rw [chosen, policy] at selected
    rw [after, Registry.spread_le_iff]
    exact Registry.within_markAll nodup within (Nat.le_max_right _ _) fun i hi j hj _ online =>
      Quorum.fewest_of_select named selected hi hj online
  · have even := run.even (even_of_calm policy calm within) named (Nat.le_max_right _ _)
    refine ⟨Registry.spread_le_iff.2 even.within, fun idle => Registry.within_iff.1 ?_⟩
    have close : c.registry.Within 1 := by
      rw [Registry.within_iff]
      intro a ha b hb
      rw [idle a ha]
      exact Nat.zero_le _
    exact (run.even (even_of_calm policy calm close) named (le_refl _)).within

def trio : Coordinator :=
  .new { Config.standard with selectionPolicy := .availabilityBased }
    (Registry.empty.after [(⟨0, 0⟩, .register ⟨1⟩ "http://one"), (⟨0, 0⟩, .register ⟨2⟩ "http://two"),
      (⟨0, 0⟩, .register ⟨3⟩ "http://three")])

def trioEvents : List (Timestamp × Event) :=
  [(⟨3, 0⟩, .answer ⟨"S1"⟩ (.ack ⟨⟨"S1"⟩, true, none⟩)),
    (⟨2, 0⟩, .operate (.report ⟨3⟩ .one .online)),
    (⟨1, 0⟩, .start ⟨"S1"⟩ (fun _ => 0) (.keygen "alice" 3 2))]

def trioCall : Call :=
  trio.call ⟨1, 0⟩ ⟨2, 0⟩ ⟨"S1"⟩ (fun _ => 0) (.keygen "alice" 3 2)
    (fun notice => .ack ⟨notice.session, true, none⟩) []

theorem availability_keeps_balance_trio :
    trio.config.selectionPolicy = .availabilityBased ∧ trio.registry.Named ∧ trio.Calm ∧
      trioCall.outcome =
        some (.ok ⟨⟨"S1"⟩, [⟨1⟩, ⟨2⟩], 2, .keygen, some "alice", none, none⟩) ∧
      trioCall.after.registry.spread ≤ 1 ∧
      Admits Successive trio trioEvents ∧ (∀ n ∈ trio.registry.online, n.activeTasks = 0) ∧
      (replay trio trioEvents).2.registry.nodes.values.map Node.activeTasks = [1, 1, 0] ∧
      ∀ a ∈ (replay trio trioEvents).2.registry.online,
        ∀ b ∈ (replay trio trioEvents).2.registry.online,
          a.activeTasks.toNat ≤ b.activeTasks.toNat + 1 := by
  have policy : trio.config.selectionPolicy = .availabilityBased := rfl
  have named : trio.registry.Named := Registry.named_after Registry.named_empty
  have calm : trio.Calm := by decide +kernel
  have outcome : trioCall.outcome =
      some (.ok ⟨⟨"S1"⟩, [⟨1⟩, ⟨2⟩], 2, .keygen, some "alice", none, none⟩) := by cbv
  have level : trio.registry.spread = 0 := by cbv
  have admitted : Admits Successive trio trioEvents := of_decide_eq_true (by cbv)
  have counts : trio.registry.online.all (fun n => n.activeTasks = 0) = true := by cbv
  have idle : ∀ n ∈ trio.registry.online, n.activeTasks = 0 := fun n hn =>
    of_decide_eq_true (List.all_eq_true.1 counts n hn)
  have balance := availability_keeps_balance policy named
  have spread := balance.1 _ _ _ _ _ _ _ outcome
  rw [level] at spread
  exact ⟨policy, named, calm, outcome, spread, admitted, idle, by cbv,
    (balance.2 calm _ _ (run_replay admitted)).2 idle⟩

end Coordinator

end Conclave

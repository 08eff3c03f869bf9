import Conclave.Proofs.Records

namespace Conclave

theorem Session.Request.bytes_of_valid {request : Session.Request}
    (valid : request.validate = .ok ()) (signs : request.action = .sign) :
    (∃ hash, request.messageHash = some hash ∧ hash ≠ []) ∧
      ∃ share, request.shareData = some share ∧ share ≠ [] := by
  have present : ∀ bytes, Session.Request.isBlank bytes = false →
      ∃ b, bytes = some b ∧ b ≠ [] := by
    intro bytes h
    cases bytes with
    | none => cases h
    | some b => exact ⟨b, rfl, fun hb => by simp [Session.Request.isBlank, hb] at h⟩
  unfold Session.Request.validate at valid
  rw [signs] at valid
  split at valid
  · cases valid
  · split at valid
    · cases valid
    · simp only at valid
      split at valid
      · cases valid
      · rename_i hhash
        split at valid
        · cases valid
        · rename_i hshare
          exact ⟨present _ (Bool.eq_false_iff.2 hhash), present _ (Bool.eq_false_iff.2 hshare)⟩

namespace Session.Record

def WasDispatched (r : Record) : Prop := r.state = .dispatched ∨ r.dispatchedAt.isSome = true

variable {r : Record} {now : Timestamp}

theorem not_wasDispatched_fresh {s : SessionId} {request : Request} :
    ¬ (fresh now s request).WasDispatched := by
  simp [WasDispatched, fresh]

theorem parties_finish (now : Timestamp) (failure : Option Failure) (r : Record) :
    (r.finish now failure).parties = r.parties := by
  unfold finish
  split <;> rfl

theorem wasDispatched_of_finish {failure : Option Failure}
    (h : (r.finish now failure).WasDispatched) : r.WasDispatched := by
  unfold finish at h
  split at h
  · exact h
  · rcases h with hstate | hdispatched
    · cases failure <;> cases hstate
    · exact Or.inr hdispatched

end Session.Record

namespace Coordinator

def Unused (past : List Turn) (t : Turn) : Prop :=
  Fresh past t ∧ ∀ s ∈ t.event.started?, t.before.bus.isSubscribed s = false

instance (past : List Turn) (t : Turn) : Decidable (Unused past t) :=
  inferInstanceAs (Decidable (_ ∧ ∀ s ∈ t.event.started?, _))

theorem Unused.fresh (past : List Turn) (t : Turn) (h : Unused past t) : Fresh past t := h.1

theorem Unused.untaken {past : List Turn} {t : Turn} (h : Unused past t) {s : SessionId}
    (starts : t.starts s = true) : t.before.bus.isSubscribed s = false :=
  h.2 s (of_decide_eq_true starts)

namespace Turn

def notice? (t : Turn) : Option Notice :=
  match t.answer with
  | .started (.ok notice) => some notice
  | _ => none

theorem starts_of_notice {t : Turn} {notice : Notice} (h : t.notice? = some notice) :
    ∃ s draws request parties, t.event = .start s draws request ∧ request.validate = .ok () ∧
      t.before.chosen s draws request = .ok parties ∧ notice = request.notice s parties := by
  obtain ⟨now, c, event⟩ := t
  cases event with
  | start s draws request =>
      obtain ⟨answer, -⟩ := of_start (t := ⟨now, c, .start s draws request⟩) rfl
      rw [notice?, answer] at h
      cases started now s draws request c with
      | invalid f _ result => simp [result] at h
      | unchosen f _ _ result => simp [result] at h
      | taken f _ _ _ _ result => simp [result] at h
      | launched parties channel bus valid selected _ result =>
          rw [result] at h
          exact ⟨s, draws, request, parties, rfl, valid, selected, (Option.some.inj h).symm⟩
  | _ => cases h

theorem notice?_of_start {t : Turn} {s : SessionId} {draws : Draws} {request : Session.Request}
    (event : t.event = .start s draws request) (untaken : t.before.bus.isSubscribed s = false) :
    t.notice? =
      match request.validate, t.before.chosen s draws request with
      | .ok _, .ok parties => some (request.notice s parties)
      | _, _ => none := by
  obtain ⟨answer, -⟩ := of_start event
  rw [notice?, answer]
  cases started t.now s draws request t.before with
  | invalid f invalid result => rw [result, invalid]
  | unchosen f valid unchosen result => rw [result, valid, unchosen]
  | taken f parties _ _ taken _ => simp [Bus.subscribe, untaken] at taken
  | launched parties channel bus valid selected _ result => rw [result, valid, selected]

theorem starts_session_iff {t : Turn} {notice : Notice} (h : t.notice? = some notice)
    (s : SessionId) : t.starts s = true ↔ notice.session = s := by
  obtain ⟨k, draws, request, parties, event, -, -, rfl⟩ := starts_of_notice h
  simp [starts, event, Event.started?, Session.Request.notice]

theorem Opens.notice {t : Turn} {s : SessionId} {lease : Lease} (h : t.Opens s lease) :
    ∃ notice, t.notice? = some notice ∧ notice.session = s ∧ notice.parties = lease.parties := by
  obtain ⟨draws, request, bus, event, selected, -, -, subscribed, bus_after⟩ := h
  obtain ⟨answer, after⟩ := of_start event
  cases started t.now s draws request t.before with
  | invalid f _ result =>
      obtain ⟨-, -, opened⟩ := Bus.subscribe_eq_ok subscribed
      rw [after, result] at bus_after
      have hnext := congrArg Bus.next (bus_after.trans opened)
      exact absurd hnext (Nat.ne_of_lt (Nat.lt_succ_self _))
  | unchosen f _ unchosen _ => cases selected.symm.trans unchosen
  | taken f _ _ _ taken _ => cases subscribed.symm.trans taken
  | launched parties channel bus' _ selected' _ result =>
      obtain rfl : lease.parties = parties := Except.ok.inj (selected.symm.trans selected')
      exact ⟨request.notice s lease.parties, by rw [notice?, answer, result], rfl, rfl⟩

end Turn

def notices (past : List Turn) : List Notice := past.filterMap Turn.notice?

theorem mem_notices {past : List Turn} {notice : Notice} :
    notice ∈ notices past ↔ ∃ t ∈ past, t.notice? = some notice := List.mem_filterMap

theorem notices_of_session (past : List Turn) (s : SessionId) :
    (notices past).filter (fun notice => decide (notice.session = s)) =
      notices (past.filter (Turn.starts s)) := by
  induction past with
  | nil => rfl
  | cons t past ih =>
      cases hn : t.notice? with
      | none =>
          rw [notices, List.filterMap_cons_none hn, ← notices, ih, List.filter_cons]
          split
          · rw [notices, notices, List.filterMap_cons_none hn]
          · rfl
      | some notice =>
          have hstarts := Turn.starts_session_iff hn s
          rw [notices, List.filterMap_cons_some hn, ← notices, List.filter_cons, List.filter_cons, ih]
          by_cases hs : notice.session = s
          · rw [if_pos (decide_eq_true hs), if_pos (hstarts.2 hs), notices, notices,
              List.filterMap_cons_some hn]
          · rw [if_neg (by simpa using hs), if_neg (fun h => hs (hstarts.1 h))]

section Notices

variable {rule : List Turn → Turn → Prop} {config : Config} {registry : Registry}
  {past : List Turn} {c : Coordinator} {s : SessionId}

theorem Run.starts_of_mem (fresh : ∀ past t, rule past t → Fresh past t)
    (run : Run rule (.new config registry) past c) {t : Turn} (ht : t ∈ past)
    (starts : t.starts s = true) : past.filter (Turn.starts s) = [t] := by
  have hone : past.countP (Turn.starts s) ≤ 1 :=
    run.countP_le_one fun _ _ _ allowed hs _ hu => (fresh _ _ allowed).not_started hs hu
  have hmem : t ∈ past.filter (Turn.starts s) := List.mem_filter.2 ⟨ht, starts⟩
  rw [List.countP_eq_length_filter] at hone
  obtain ⟨u, hu⟩ := List.length_eq_one_iff.1 (Nat.le_antisymm hone (List.length_pos_of_mem hmem))
  rw [hu, List.mem_singleton] at hmem
  rw [hu, hmem]

theorem Run.nodup_sessions (fresh : ∀ past t, rule past t → Fresh past t)
    (run : Run rule (.new config registry) past c) :
    ((notices past).map Notice.session).Nodup := by
  induction run with
  | begin => exact .nil
  | @next past c run now event allowed ih =>
      cases hn : Turn.notice? ⟨now, c, event⟩ with
      | none => rwa [notices, List.filterMap_cons_none hn]
      | some notice =>
          rw [notices, List.filterMap_cons_some hn, List.map_cons, List.nodup_cons]
          refine ⟨fun hmem => ?_, ih⟩
          obtain ⟨older, holder, hsame⟩ := List.mem_map.1 hmem
          obtain ⟨u, hu, hnotice⟩ := mem_notices.1 holder
          have hnew := (Turn.starts_session_iff hn notice.session).2 rfl
          have hold := (Turn.starts_session_iff hnotice notice.session).2 hsame
          rw [(fresh _ _ allowed).not_started hnew hu] at hold
          cases hold

theorem Run.notified_of_live (run : Run rule (.new config registry) past c) {lease : Lease}
    (live : c.leases.get? s = some lease) :
    ∃ notice ∈ notices past, notice.session = s ∧ lease.parties = notice.parties := by
  obtain ⟨t, ht, old, opens, continues⟩ := run.opened live
  obtain ⟨notice, hn, session, parties⟩ := opens.notice
  exact ⟨notice, mem_notices.2 ⟨t, ht, hn⟩, session, continues.parties.trans parties.symm⟩

theorem Run.notified_of_dispatched (run : Run rule (.new config registry) past c)
    {r : Session.Record} (record : c.docket.get? s = some r) (dispatched : r.WasDispatched) :
    ∃ notice ∈ notices past, notice.session = s ∧ r.parties = notice.parties := by
  induction run generalizing r with
  | begin => cases record
  | @next past c run now event allowed ih =>
      have later : ∀ {parties : List NodeId},
          (∃ notice ∈ notices past, notice.session = s ∧ parties = notice.parties) →
          ∃ notice ∈ notices (⟨now, c, event⟩ :: past),
            notice.session = s ∧ parties = notice.parties := by
        rintro parties ⟨notice, hnotice, h⟩
        obtain ⟨u, hu, hn⟩ := mem_notices.1 hnotice
        exact ⟨notice, mem_notices.2 ⟨u, List.mem_cons_of_mem _ hu, hn⟩, h⟩
      cases Turn.writes ⟨now, c, event⟩ s with
      | nothing same => exact later (ih (same.symm.trans record) dispatched)
      | creates draws request _ _ after =>
          obtain rfl := Option.some.inj (after.symm.trans record)
          exact absurd dispatched Session.Record.not_wasDispatched_fresh
      | refuses draws request f _ _ after =>
          obtain rfl := Option.some.inj (after.symm.trans record)
          exact absurd (Session.Record.wasDispatched_of_finish dispatched)
            Session.Record.not_wasDispatched_fresh
      | dispatches held live _ after =>
          obtain ⟨old, hold, rfl⟩ := Option.map_eq_some_iff.1 (after.symm.trans record)
          unfold Session.Record.dispatch at dispatched ⊢
          split
          · exact later (run.notified_of_live live)
          · rename_i hcreated
            rw [if_neg hcreated] at dispatched
            exact later (ih hold dispatched)
      | finishes held outcome _ _ after =>
          obtain ⟨old, hold, rfl⟩ := Option.map_eq_some_iff.1 (after.symm.trans record)
          rw [Session.Record.parties_finish]
          exact later (ih hold (Session.Record.wasDispatched_of_finish dispatched))
      | prunes _ _ _ _ _ gone => cases gone.symm.trans record

end Notices

theorem notified_once_and_faithfully {config : Config}
    {ops : List (Timestamp × Registry.Operation)} {past : List Turn} {c : Coordinator}
    (run : Run Unused (.new config (Registry.empty.after ops)) past c) :
    ((notices past).map Notice.session).Nodup ∧
    (∀ t ∈ past, ∀ s draws request, t.event = .start s draws request →
      (notices past).filter (fun notice => decide (notice.session = s)) =
        match request.validate, t.before.chosen s draws request with
        | .ok _, .ok parties =>
            [⟨s, parties, request.threshold, request.action, request.identity, request.messageHash,
              request.shareData⟩]
        | _, _ => []) ∧
    (∀ notice ∈ notices past,
      (∃ t ∈ past, ∃ draws request, t.event = .start notice.session draws request) ∧
      notice.parties.length = notice.threshold.toNat ∧ notice.parties.Nodup ∧
      (notice.action = .sign →
        (∃ hash, notice.messageHash = some hash ∧ hash ≠ []) ∧
          ∃ share, notice.shareData = some share ∧ share ≠ [])) ∧
    (∀ s r, c.docket.get? s = some r → r.WasDispatched →
      ∃ notice ∈ notices past, notice.session = s ∧ r.parties = notice.parties) ∧
    (∀ s lease, c.leases.get? s = some lease →
      ∃ notice ∈ notices past, notice.session = s ∧ lease.parties = notice.parties) := by
  have named : (Registry.empty.after ops).Named := Registry.named_after Registry.named_empty
  refine ⟨run.nodup_sessions Unused.fresh, ?_, ?_, fun s r => run.notified_of_dispatched,
    fun s lease => run.notified_of_live⟩
  · intro t ht s draws request event
    have starts := Turn.starts_of_event event
    obtain ⟨later, earlier, rfl⟩ := List.append_of_mem ht
    obtain ⟨-, allowed, -⟩ := run.cut
    have hnotice := Turn.notice?_of_start event (allowed.untaken starts)
    rw [notices_of_session, run.starts_of_mem Unused.fresh ht starts, notices, List.filterMap_cons,
      hnotice]
    cases request.validate with
    | error f => rfl
    | ok _ => cases t.before.chosen s draws request <;> rfl
  · intro notice hnotice
    obtain ⟨t, ht, hn⟩ := mem_notices.1 hnotice
    obtain ⟨s, draws, request, parties, event, valid, selected, rfl⟩ := Turn.starts_of_notice hn
    obtain ⟨later, earlier, rfl⟩ := List.append_of_mem ht
    obtain ⟨before, -, -⟩ := run.cut
    exact ⟨⟨t, ht, draws, request, event⟩, Quorum.length_select selected,
      nodup_chosen (before.named named) selected, request.bytes_of_valid valid⟩

def threeNodes : Coordinator :=
  .new { Config.standard with selectionPolicy := .roundRobin }
    (Registry.empty.after [(⟨0, 0⟩, .register ⟨1⟩ "http://node1:8080"),
      (⟨0, 0⟩, .register ⟨2⟩ "http://node2:8080"), (⟨0, 0⟩, .register ⟨3⟩ "http://node3:8080")])

def fourRequestsEvents : List (Timestamp × Event) :=
  [(⟨6, 0⟩, .start ⟨"S4"⟩ (fun _ => 0) (.keygen "alice" 4 4)),
    (⟨5, 0⟩, .start ⟨"S3"⟩ (fun _ => 0) (.keygen "alice" 3 0)),
    (⟨4, 0⟩, .answer ⟨"S2"⟩ (.ack ⟨⟨"S2"⟩, false, some "node 2 refused"⟩)),
    (⟨3, 0⟩, .start ⟨"S2"⟩ (fun _ => 0) (.keygen "alice" 3 3)),
    (⟨2, 0⟩, .answer ⟨"S1"⟩ (.ack ⟨⟨"S1"⟩, true, none⟩)),
    (⟨1, 0⟩, .start ⟨"S1"⟩ (fun _ => 0) (.sign [7, 8] [9] 3 2))]

def fourRequestsRun : List Turn × Coordinator := replay threeNodes fourRequestsEvents

theorem notified_once_and_faithfully_four_requests :
    Admits Unused threeNodes fourRequestsEvents ∧
      ((notices fourRequestsRun.1).map Notice.session).Nodup ∧
      notices fourRequestsRun.1 =
        [⟨⟨"S2"⟩, [⟨3⟩, ⟨1⟩, ⟨2⟩], 3, .keygen, some "alice", none, none⟩,
          ⟨⟨"S1"⟩, [⟨1⟩, ⟨2⟩], 2, .sign, none, some [7, 8], some [9]⟩] ∧
      ∀ r ∈ fourRequestsRun.2.docket.get? ⟨"S1"⟩, r.WasDispatched →
        ∃ notice ∈ notices fourRequestsRun.1, notice.session = ⟨"S1"⟩ ∧ r.parties = notice.parties := by
  have unused : Admits Unused threeNodes fourRequestsEvents := by decide +kernel
  obtain ⟨nodup, -, -, notified, -⟩ := notified_once_and_faithfully (run_replay unused)
  exact ⟨unused, nodup, by decide +kernel, notified ⟨"S1"⟩⟩

end Coordinator

end Conclave

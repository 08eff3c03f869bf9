import Conclave.Proofs.Docket
import Conclave.Proofs.Run

namespace Conclave.Coordinator

namespace Turn

inductive Bears (s : SessionId) (t : Turn) : Prop
  | nothing (record : t.after.docket.get? s = t.before.docket.get? s)
      (lease : t.after.leases.get? s = t.before.leases.get? s)
  | refuses (draws : Draws) (request : Session.Request) (f : Failure)
      (event : t.event = .start s draws request) (ending : t.ending = some (s, .error f))
      (record : t.after.docket.get? s =
        some ((Session.Record.fresh t.now s request).finish t.now (some f)))
      (lease : t.after.leases.get? s = t.before.leases.get? s)
  | opens (draws : Draws) (request : Session.Request) (given : Lease)
      (event : t.event = .start s draws request)
      (action : given.action = request.action) (waiting : given.acknowledged = false)
      (record : t.after.docket.get? s = some (.fresh t.now s request))
      (lease : t.after.leases.get? s = some given)
  | acknowledges (held : Lease) (starts : t.starts s = false)
      (live : t.before.leases.get? s = some held) (waiting : held.acknowledged = false)
      (record : t.after.docket.get? s =
        (t.before.docket.get? s).map (Session.Record.dispatch t.now held.parties))
      (lease : t.after.leases.get? s = some { held with acknowledged := true })
  | concludes (held : Lease) (outcome : Except Failure CeremonyResult)
      (starts : t.starts s = false) (ending : t.ending = some (s, outcome))
      (live : t.before.leases.get? s = some held)
      (record : t.after.docket.get? s =
        (t.before.docket.get? s).map (Session.Record.finish t.now (failure? outcome)))
      (lease : t.after.leases.get? s = none)
  | prunes (age : Duration) (r : Session.Record) (event : t.event = .prune age)
      (found : t.before.docket.get? s = some r) (ended : r.state.isTerminal = true)
      (record : t.after.docket.get? s = none)
      (lease : t.after.leases.get? s = t.before.leases.get? s)

theorem bears (t : Turn) (s : SessionId) : t.Bears s := by
  cases t.effect with
  | idle same => exact .nothing (by rw [same]) (by rw [same])
  | refused k draws request f event ending after =>
      by_cases hk : s = k
      · subst hk
        refine .refuses draws request f event ending ?_ (by rw [after])
        rw [after, Session.Docket.get?_finish, if_pos rfl, Session.Docket.get?_create, if_pos rfl]
        rfl
      · refine .nothing ?_ (by rw [after])
        rw [after, Session.Docket.get?_finish, if_neg hk, Session.Docket.get?_create, if_neg hk]
  | opened k draws request parties channel bus event _ _ _ after =>
      by_cases hk : s = k
      · subst hk
        refine .opens draws request
          ⟨request.action, parties, (t.before.registry.markAll parties).1, channel, false⟩ event rfl
          rfl ?_ ?_
        · rw [after, Session.Docket.get?_create, if_pos rfl]
        · rw [after, Keyed.get?_insert, if_pos rfl]
      · refine .nothing ?_ ?_
        · rw [after, Session.Docket.get?_create, if_neg hk]
        · rw [after, Keyed.get?_insert, if_neg hk]
  | acknowledged k reply held event _ live waiting after =>
      by_cases hk : s = k
      · subst hk
        refine .acknowledges held ?_ live waiting ?_ ?_
        · simp [starts, event, Event.started?]
        · rw [after, Session.Docket.get?_markDispatched, if_pos rfl]
        · rw [after, Keyed.get?_modify, if_pos rfl, live]
          rfl
      · refine .nothing ?_ ?_
        · rw [after, Session.Docket.get?_markDispatched, if_neg hk]
        · rw [after, Keyed.get?_modify, if_neg hk]
  | concluded k held outcome running ending live after =>
      rw [conclude_of_live _ _ live] at after
      by_cases hk : s = k
      · subst hk
        refine .concludes held outcome (running s) ending live ?_ ?_
        · rw [after, Session.Docket.get?_finish, if_pos rfl]
        · rw [after, Keyed.get?_erase, if_pos rfl]
      · refine .nothing ?_ ?_
        · rw [after, Session.Docket.get?_finish, if_neg hk]
        · rw [after, Keyed.get?_erase, if_neg hk]
  | pruned age count docket event pruned after =>
      rcases Session.Docket.get?_prune pruned s with same | ⟨gone, r, found, ended⟩
      · exact .nothing (by rw [after, same]) (by rw [after])
      · exact .prunes age r event found ended (by rw [after, gone]) (by rw [after])
  | operated _ _ after => exact .nothing (by rw [after]) (by rw [after])
  | delivered _ _ _ after => exact .nothing (by rw [after]) (by rw [after])

theorem ending_attend {t : Turn} {s : SessionId} {overdue : Bool}
    (event : t.event = .attend s overdue) :
    t.ending = ((t.before.leases.get? s).bind fun lease => heard s overdue lease t.before.bus).map
      (Prod.mk s) := by
  have hanswer : t.answer = .ended (t.before.attend t.now s overdue).1 := by
    simp [answer, event, step]
  cases hl : t.before.leases.get? s with
  | none =>
      rw [attend_of_gone t.now overdue hl] at hanswer
      simp [ending, event, hanswer]
  | some lease =>
      rw [attend_of_live t.now overdue hl] at hanswer
      cases hh : heard s overdue lease t.before.bus with
      | none =>
          simp only [hh] at hanswer
          simp [ending, event, hanswer, hh]
      | some outcome =>
          simp only [hh] at hanswer
          simp [ending, event, hanswer, hh]

theorem heard_of_attend {t : Turn} {s : SessionId} {overdue : Bool}
    {outcome : Except Failure CeremonyResult} (event : t.event = .attend s overdue)
    (ending : t.ending = some (s, outcome)) :
    ∃ lease, t.before.leases.get? s = some lease ∧
      heard s overdue lease t.before.bus = some outcome ∧ lease.acknowledged = true := by
  rw [ending_attend event] at ending
  obtain ⟨_, hbound, heq⟩ := Option.map_eq_some_iff.1 ending
  cases heq
  obtain ⟨lease, live, hheard⟩ := Option.bind_eq_some_iff.1 hbound
  refine ⟨lease, live, hheard, ?_⟩
  unfold heard at hheard
  split at hheard
  · assumption
  · cases hheard

theorem ending_cancel {t : Turn} {s : SessionId} (event : t.event = .cancel s) :
    t.ending = if t.before.leases.contains s then some (s, .error (.cancelled s)) else none := by
  have hanswer : t.answer = .withdrawn (t.before.cancel t.now s).1 := by
    simp [answer, event, step]
  cases hl : t.before.leases.contains s <;> simp [ending, event, hanswer, cancel, hl]

theorem of_start_error {t : Turn} {s : SessionId} {draws : Draws} {request : Session.Request}
    {f : Failure} (event : t.event = .start s draws request)
    (answer : t.answer = .started (.error f)) :
    t.ending = some (s, .error f) ∨ t.after = t.before := by
  cases hv : request.validate with
  | ok _ => exact Or.inl (by simp [ending, event, answer, hv, Except.isOk, Except.toBool])
  | error _ => exact Or.inr (by simp [after, event, step, start, hv])

theorem event_of_ending {t : Turn} {s : SessionId} {outcome : Except Failure CeremonyResult}
    (h : t.ending = some (s, outcome)) :
    (t.starts s = true ∧ ∃ f, outcome = .error f) ∨
      (∃ reply f, t.event = .answer s reply ∧ outcome = .error f) ∨
      (∃ overdue, t.event = .attend s overdue) ∨
      (t.event = .cancel s ∧ outcome = .error (.cancelled s)) := by
  have hended := h
  unfold ending at h
  split at h
  · rename_i k draws request f event _
    split at h
    · cases h
      exact Or.inl ⟨starts_of_event event, f, rfl⟩
    · cases h
  · rename_i k reply f event _
    cases h
    exact Or.inr (Or.inl ⟨reply, f, event, rfl⟩)
  · rename_i k overdue _ event _
    cases h
    exact Or.inr (Or.inr (Or.inl ⟨overdue, event⟩))
  · rename_i k f event _
    cases h
    rw [ending_cancel event] at hended
    split at hended
    · cases hended
      exact Or.inr (Or.inr (Or.inr ⟨event, rfl⟩))
    · cases hended
  · cases h

theorem of_ending_ok {t : Turn} {s : SessionId} {result : CeremonyResult}
    (h : t.ending = some (s, .ok result)) :
    ∃ overdue lease, t.event = .attend s overdue ∧ t.before.leases.get? s = some lease ∧
      lease.acknowledged = true ∧
      (t.before.bus.receive lease.channel).1 = .result result ∧
      result.matches lease.action = true := by
  rcases event_of_ending h with ⟨-, f, herror⟩ | ⟨_, f, -, herror⟩ | ⟨overdue, event⟩ | ⟨-, herror⟩
  · cases herror
  · cases herror
  · obtain ⟨lease, live, hheard, acknowledged⟩ := heard_of_attend event h
    refine ⟨overdue, lease, event, live, acknowledged, ?_⟩
    rw [heard, if_pos acknowledged] at hheard
    split at hheard
    · rename_i r hr
      obtain ⟨rfl, hmatches⟩ := resultOutcome_eq_ok.1 (Option.some.inj hheard)
      exact ⟨hr, hmatches⟩
    · cases hheard
    · split at hheard <;> cases hheard
  · cases herror

theorem of_ending {t : Turn} {s : SessionId} {outcome : Except Failure CeremonyResult}
    (h : t.ending = some (s, outcome)) :
    (∃ draws request f, t.event = .start s draws request ∧ outcome = .error f ∧
      t.after.docket.get? s =
        some ((Session.Record.fresh t.now s request).finish t.now (some f))) ∨
    ∃ held, t.before.leases.get? s = some held ∧
      t.after.docket.get? s =
        (t.before.docket.get? s).map (Session.Record.finish t.now (failure? outcome)) := by
  cases t.effect with
  | idle _ quiet =>
      rw [quiet] at h
      cases h
  | refused k draws request f event ending after =>
      rw [ending] at h
      cases h
      refine Or.inl ⟨draws, request, f, event, rfl, ?_⟩
      rw [after, Session.Docket.get?_finish, if_pos rfl, Session.Docket.get?_create, if_pos rfl]
      rfl
  | opened _ _ _ _ _ _ _ quiet =>
      rw [quiet] at h
      cases h
  | acknowledged _ _ _ _ quiet =>
      rw [quiet] at h
      cases h
  | concluded k held outcome _ ending live after =>
      rw [ending] at h
      cases h
      refine Or.inr ⟨held, live, ?_⟩
      rw [after, conclude_of_live _ _ live, Session.Docket.get?_finish, if_pos rfl]
  | pruned _ _ _ event =>
      simp only [ending, event] at h
      cases h
  | operated _ event =>
      simp only [ending, event] at h
      cases h
  | delivered _ event =>
      simp only [ending, event] at h
      cases h

end Turn

theorem Run.live_or_ended {rule : List Turn → Turn → Prop} {config : Config} {registry : Registry}
    {c : Coordinator} (fresh : ∀ past t, rule past t → Fresh past t) {later earlier : List Turn}
    {t : Turn} (run : Run rule (.new config registry) (later ++ t :: earlier) c) {s : SessionId}
    {lease : Lease} (live : t.after.leases.get? s = some lease) :
    (∃ held, c.leases.get? s = some held) ∨
      ∃ newer v older outcome, later = newer ++ v :: older ∧ v.starts s = false ∧
        v.ending = some (s, outcome) := by
  induction later generalizing c with
  | nil =>
      cases run with
      | next run now event allowed => exact Or.inl ⟨lease, live⟩
  | cons v later ih =>
      cases run with
      | next run now event allowed =>
          rcases ih run with ⟨held, hlive⟩ | ⟨newer, w, older, outcome, rfl, hstarts, hending⟩
          · have new : ∀ {w : Turn}, w.starts s = true → Fresh (later ++ t :: earlier) w → False := by
              intro w hstarts hfresh
              cases (run.gone_of_start hfresh hstarts).symm.trans hlive
            cases Turn.bears ⟨now, _, event⟩ s with
            | nothing _ same => exact Or.inl ⟨held, same.trans hlive⟩
            | refuses _ _ _ hevent =>
                exact (new (Turn.starts_of_event hevent) (fresh _ _ allowed)).elim
            | opens _ _ _ hevent =>
                exact (new (Turn.starts_of_event hevent) (fresh _ _ allowed)).elim
            | acknowledges _ _ _ _ _ after => exact Or.inl ⟨_, after⟩
            | concludes _ outcome hstarts hending =>
                exact Or.inr ⟨[], _, later, outcome, rfl, hstarts, hending⟩
            | prunes _ _ _ _ _ _ same => exact Or.inl ⟨held, same.trans hlive⟩
          · exact Or.inr ⟨_ :: newer, w, older, outcome, rfl, hstarts, hending⟩

namespace Turn

def launches (s : SessionId) (t : Turn) : Bool :=
  match t.event, t.answer with
  | .start k _ _, .started (.ok _) => decide (k = s)
  | _, _ => false

theorem event_of_launches {t : Turn} {s : SessionId} (h : t.launches s = true) :
    ∃ draws request notice, t.event = .start s draws request ∧ t.answer = .started (.ok notice) := by
  unfold launches at h
  split at h
  · rename_i k draws request notice event answer
    obtain rfl := of_decide_eq_true h
    exact ⟨draws, request, notice, event, answer⟩
  · cases h

theorem live_of_launches {t : Turn} {s : SessionId} (h : t.launches s = true) :
    t.after.leases.contains s = true := by
  obtain ⟨draws, request, notice, event, hanswer⟩ := event_of_launches h
  obtain ⟨answer, after⟩ := of_start event
  rw [hanswer] at answer
  cases started t.now s draws request t.before with
  | invalid f _ result => simp [result] at answer
  | unchosen f _ _ result => simp [result] at answer
  | taken f _ _ _ _ result => simp [result] at answer
  | launched parties channel bus _ _ _ result =>
      rw [after, result, Keyed.contains, live_of_launch parties channel bus]
      rfl

theorem leases_of_start {t : Turn} {s : SessionId} {draws : Draws} {request : Session.Request}
    (event : t.event = .start s draws request) (h : t.launches s = false) :
    t.after.leases = t.before.leases := by
  obtain ⟨answer, after⟩ := of_start event
  cases started t.now s draws request t.before with
  | invalid f _ result => rw [after, result]
  | unchosen f _ _ result => rw [after, result, refuse]
  | taken f _ _ _ _ result => rw [after, result, refuse]
  | launched parties channel bus _ _ _ result => simp [launches, event, answer, result] at h

end Turn

def Turn.ends (s : SessionId) (t : Turn) : Bool := t.ending.any fun e => decide (e.1 = s)

def pending (s : SessionId) : List Turn → Bool
  | [] => false
  | t :: past => !t.ends s && (t.launches s || pending s past)

theorem Turn.ends_iff {s : SessionId} {t : Turn} :
    t.ends s = true ↔ ∃ outcome, t.ending = some (s, outcome) := by
  unfold ends
  cases t.ending with
  | none => simp
  | some e =>
      obtain ⟨k, outcome⟩ := e
      simp

theorem Turn.gone_of_ends {t : Turn} {s : SessionId} (h : t.ends s = true)
    (new : t.starts s = true → t.before.leases.get? s = none) :
    t.after.leases.contains s = false := by
  obtain ⟨outcome, ending⟩ := ends_iff.1 h
  rw [Keyed.contains_eq_false]
  cases t.effect with
  | idle _ quiet => cases quiet.symm.trans ending
  | refused k draws request f event ending' after =>
      cases ending.symm.trans ending'
      rw [after]
      exact new (starts_of_event event)
  | opened _ _ _ _ _ _ _ quiet => cases quiet.symm.trans ending
  | acknowledged _ _ _ _ quiet => cases quiet.symm.trans ending
  | concluded k lease outcome' _ ending' live after =>
      cases ending.symm.trans ending'
      rw [after, conclude_of_live _ _ live, Keyed.get?_erase, if_pos rfl]
  | pruned _ _ _ event => simp [Turn.ending, event] at ending
  | operated _ event => simp [Turn.ending, event] at ending
  | delivered _ event => simp [Turn.ending, event] at ending

theorem Turn.contains_same {t : Turn} {s : SessionId} (ends : t.ends s = false)
    (launches : t.launches s = false) :
    t.after.leases.contains s = t.before.leases.contains s := by
  cases t.bears s with
  | nothing _ same => rw [Keyed.contains, Keyed.contains, same]
  | refuses _ _ _ _ _ _ same => rw [Keyed.contains, Keyed.contains, same]
  | opens draws request _ event => rw [leases_of_start event launches]
  | acknowledges held _ live _ _ after => rw [Keyed.contains, Keyed.contains, live, after]; rfl
  | concludes held outcome _ ending =>
      rw [ends_iff.2 ⟨outcome, ending⟩] at ends
      cases ends
  | prunes _ _ _ _ _ _ same => rw [Keyed.contains, Keyed.contains, same]

section Pending

variable {config : Config} {registry : Registry} {past : List Turn} {c : Coordinator}

theorem Run.contains_eq_pending {rule : List Turn → Turn → Prop}
    (fresh : ∀ past t, rule past t → Fresh past t)
    (run : Run rule (.new config registry) past c) (s : SessionId) :
    c.leases.contains s = pending s past := by
  induction run with
  | begin => rfl
  | @next past c run now event allowed ih =>
      rw [pending]
      cases ends : Turn.ends s ⟨now, c, event⟩ with
      | true => exact Turn.gone_of_ends ends (run.gone_of_start (fresh _ _ allowed))
      | false =>
          cases launches : Turn.launches s ⟨now, c, event⟩ with
          | true => exact Turn.live_of_launches launches
          | false => exact (Turn.contains_same ends launches).trans ih

end Pending

end Conclave.Coordinator

import Conclave.Proofs.Keyed
import Conclave.Session.Docket

namespace Conclave.Session

namespace Record

theorem dispatch_of_terminal {r : Record} (h : r.state.isTerminal = true) (now : Timestamp)
    (parties : List NodeId) : r.dispatch now parties = r := by
  have hs : r.state ≠ .created := fun hcreated => by simp [hcreated, State.isTerminal] at h
  rw [dispatch, if_neg hs]

theorem finish_of_terminal {r : Record} (h : r.state.isTerminal = true) (now : Timestamp)
    (failure : Option Failure) : r.finish now failure = r := by
  rw [finish, if_pos h]

theorem finish_of_active {r : Record} (h : r.state.isTerminal = false) (now : Timestamp)
    (failure : Option Failure) :
    r.finish now failure =
      { r with
        state := if failure.isSome then .failed else .completed
        error := failure.map Failure.message
        finishedAt := some now } := by
  simp [finish, h]

end Record

namespace Docket

theorem get?_create (now : Timestamp) (s k : SessionId) (request : Request) (d : Docket) :
    (d.create now s request).get? k = if k = s then some (.fresh now s request) else d.get? k :=
  Keyed.get?_insert d.records s k _

theorem get?_markDispatched (now : Timestamp) (s k : SessionId) (parties : List NodeId)
    (d : Docket) :
    (d.markDispatched now s parties).get? k =
      if k = s then (d.get? k).map (Record.dispatch now parties) else d.get? k :=
  Keyed.get?_modify d.records s k _

theorem get?_finish (now : Timestamp) (s k : SessionId) (failure : Option Failure) (d : Docket) :
    (d.finish now s failure).get? k =
      if k = s then (d.get? k).map (Record.finish now failure) else d.get? k :=
  Keyed.get?_modify d.records s k _

theorem get?_prune {now : Timestamp} {age : Duration} {n : Nat} {d kept : Docket}
    (h : d.prune now age = .ok (n, kept)) (k : SessionId) :
    kept.get? k = d.get? k ∨
      kept.get? k = none ∧ ∃ r, d.get? k = some r ∧ r.state.isTerminal = true := by
  unfold prune at h
  cases hc : cutoff now age with
  | error f =>
      rw [hc] at h
      cases h
  | ok reach =>
      rw [hc] at h
      cases reach with
      | none =>
          cases h
          exact Or.inl rfl
      | some t =>
          cases h
          have hkept : (d.removeExpired t).get? k = (d.get? k).filter fun r => !r.isExpired t :=
            Keyed.get?_filter d.records _ k
          rw [hkept]
          cases hr : d.get? k with
          | none => exact Or.inl rfl
          | some r =>
              cases he : r.isExpired t with
              | false => exact Or.inl (by simp [he])
              | true =>
                  have hterminal : r.state.isTerminal = true := by
                    rw [Record.isExpired, Bool.and_eq_true] at he
                    exact he.1
                  exact Or.inr ⟨by simp [he], r, rfl, hterminal⟩

end Docket

end Conclave.Session

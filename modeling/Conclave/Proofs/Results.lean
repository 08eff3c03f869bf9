import Conclave.Proofs.Run

namespace Conclave.Coordinator

namespace Turn

def accepted? (t : Turn) : Option (SessionId × CeremonyResult) :=
  match t.event, t.answer with
  | .deliver (.publish s r), .delivered (.accepted true) => some (s, r)
  | _, _ => none

theorem accepted?_eq_some {t : Turn} {s : SessionId} {r : CeremonyResult} :
    t.accepted? = some (s, r) ↔
      t.event = .deliver (.publish s r) ∧ (t.before.bus.publish s r).1 = true := by
  constructor
  · intro h
    unfold accepted? at h
    split at h
    · rename_i k result hevent hanswer
      cases h
      simp only [answer, hevent, step, Bus.apply] at hanswer
      exact ⟨hevent, Bus.Answer.accepted.inj (Answer.delivered.inj hanswer)⟩
    · cases h
  · rintro ⟨hevent, htaken⟩
    have hanswer : t.answer = .delivered (.accepted true) := by
      simp only [answer, hevent, step, Bus.apply]
      exact congrArg (fun taken => Answer.delivered (.accepted taken)) htaken
    simp only [accepted?, hevent, hanswer]

def accepts (s : SessionId) (t : Turn) : Bool := t.accepted?.any fun a => decide (a.1 = s)

theorem accepts_iff {s : SessionId} {t : Turn} :
    t.accepts s = true ↔ ∃ r, t.accepted? = some (s, r) := by
  unfold accepts
  cases t.accepted? with
  | none => simp
  | some a =>
      obtain ⟨k, r⟩ := a
      simp

theorem bus_next (t : Turn) :
    t.after.bus = t.before.bus ∨ ∃ op, t.after.bus = (t.before.bus.apply op).2 ∧
      (t.event = .deliver op ∨ ∀ s r, op ≠ .publish s r) := by
  cases t.effect with
  | idle same => exact Or.inl (by rw [same])
  | refused _ _ _ _ _ _ after => exact Or.inl (by rw [after])
  | opened s _ _ _ channel bus _ _ _ subscribed after =>
      refine Or.inr ⟨.subscribe s, ?_, Or.inr fun _ _ h => by cases h⟩
      simp [after, Bus.apply, subscribed]
  | acknowledged _ _ _ _ _ _ _ after => exact Or.inl (by rw [after])
  | concluded s lease _ _ _ live after =>
      refine Or.inr ⟨.drop lease.channel, ?_, Or.inr fun _ _ h => by cases h⟩
      rw [after, conclude_of_live _ _ live]
      rfl
  | pruned _ _ _ _ _ after => exact Or.inl (by rw [after])
  | operated _ _ after => exact Or.inl (by rw [after])
  | delivered op event _ after => exact Or.inr ⟨op, by rw [after], Or.inl event⟩

end Turn

def Published (s : SessionId) (r : CeremonyResult) (past : List Turn) : Prop :=
  ∃ p ∈ past, p.accepted? = some (s, r)

theorem published_cons {s : SessionId} {r : CeremonyResult} {t : Turn} {past : List Turn} :
    Published s r (t :: past) ↔ t.accepted? = some (s, r) ∨ Published s r past := by
  simp [Published]

section Results

variable {rule : List Turn → Turn → Prop} {config : Config} {registry : Registry}
  {past : List Turn} {c : Coordinator}

theorem Run.sound (run : Run rule (.new config registry) past c) : c.bus.Sound := by
  induction run with
  | begin => exact Bus.sound_empty
  | @next past c run now event allowed ih =>
      rcases Turn.bus_next ⟨now, c, event⟩ with same | ⟨op, after, -⟩
      · exact same ▸ ih
      · exact after ▸ Bus.sound_apply op ih

theorem Run.owned (run : Run rule (.new config registry) past c) {s : SessionId} {lease : Lease}
    (live : c.leases.get? s = some lease) : c.bus.Owned s lease.channel := by
  induction run generalizing lease with
  | begin => cases live
  | @next past c run now event allowed ih =>
      rcases Turn.live_before live with opens | ⟨old, hold, continues⟩
      · obtain ⟨_, _, bus, _, _, _, _, subscribed, bus_after⟩ := opens
        rw [bus_after]
        exact Bus.owned_new subscribed
      · rw [continues.channel]
        rcases Turn.bus_next ⟨now, c, event⟩ with same | ⟨op, after, -⟩
        · exact same ▸ ih hold
        · exact after ▸ Bus.owned_apply op (ih hold)

theorem Run.sourced (run : Run rule (.new config registry) past c) {k : ChannelId} {ch : Channel}
    {r : CeremonyResult} (h : c.bus.channels.get? k = some ch) (hr : ch.buffer = some r) :
    Published ch.session r past := by
  induction run generalizing ch with
  | begin => cases h
  | @next past c run now event allowed ih =>
      rcases Turn.bus_next ⟨now, c, event⟩ with same | ⟨op, after, deliver⟩
      · obtain ⟨p, hp, haccepted⟩ := ih (same ▸ h) hr
        exact ⟨p, List.mem_cons_of_mem _ hp, haccepted⟩
      · rw [after] at h
        rcases Bus.buffer_apply run.sound h hr with ⟨old, hold, hsession, hbuffer⟩ | ⟨hop, htaken⟩
        · obtain ⟨p, hp, haccepted⟩ := ih hold hbuffer
          exact ⟨p, List.mem_cons_of_mem _ hp, hsession ▸ haccepted⟩
        · subst hop
          rcases deliver with hevent | hother
          · refine ⟨_, List.mem_cons_self, Turn.accepted?_eq_some.2 ⟨hevent, ?_⟩⟩
            exact Bus.Answer.accepted.inj htaken
          · exact absurd rfl (hother _ _)

end Results

end Conclave.Coordinator

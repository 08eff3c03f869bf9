import Conclave.Proofs.Run
import Mathlib.Order.Defs.PartialOrder

namespace Conclave

instance : LE Timestamp := ⟨fun a b => b.before a = false⟩

theorem Timestamp.le_iff {a b : Timestamp} :
    a ≤ b ↔ a.second < b.second ∨ a.second = b.second ∧ a.nano ≤ b.nano := by
  have hle : a ≤ b ↔ b.before a = false := Iff.rfl
  rw [hle, before, Bool.or_eq_false_iff, Bool.and_eq_false_iff]
  simp only [decide_eq_false_iff_not]
  omega

instance : Preorder Timestamp where
  le_refl a := Timestamp.le_iff.2 (Or.inr ⟨rfl, Nat.le_refl _⟩)
  le_trans a b c hab hbc := by
    rw [Timestamp.le_iff] at hab hbc ⊢
    omega

instance (a b : Timestamp) : Decidable (a ≤ b) := inferInstanceAs (Decidable (b.before a = false))

namespace Coordinator

def Timely (past : List Turn) (t : Turn) : Prop := Fresh past t ∧ ∀ u ∈ past.head?, u.now ≤ t.now

instance (past : List Turn) (t : Turn) : Decidable (Timely past t) :=
  inferInstanceAs (Decidable (_ ∧ ∀ u ∈ past.head?, u.now ≤ t.now))

theorem Timely.fresh (past : List Turn) (t : Turn) (h : Timely past t) : Fresh past t := h.1

theorem Run.now_le {first c : Coordinator} {past : List Turn} (run : Run Timely first past c)
    {t : Turn} (timely : Timely past t) {u : Turn} (hu : u ∈ past) : u.now ≤ t.now := by
  induction run generalizing t with
  | begin => cases hu
  | @next past c run now event allowed ih =>
      have hlast : now ≤ t.now := timely.2 ⟨now, c, event⟩ rfl
      rcases List.mem_cons.1 hu with rfl | hu
      · exact hlast
      · exact le_trans (ih allowed hu) hlast

end Coordinator

end Conclave

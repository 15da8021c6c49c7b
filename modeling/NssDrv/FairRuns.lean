import Mathlib.Order.WellFounded
import NssDrv.TransitionRuns

set_option autoImplicit false

/-!
# Endless runs

Weak fairness, and the rule for what it brings about: every step lowers a rank
or leaves the action that will do so enabled.
-/
namespace FairRuns
open TransitionRuns
variable {σ ℓ κ W : Type} {step : σ → ℓ → σ → Prop} {ρ : ℕ → σ} {l : ℕ → ℓ}

def Endless (step : σ → ℓ → σ → Prop) (ρ : ℕ → σ) (l : ℕ → ℓ) : Prop :=
  ∀ n, step (ρ n) (l n) (ρ (n + 1))

theorem Endless.reachable {init : σ → Prop} (h : Endless step ρ l)
    (hstart : Reachable init step (ρ 0)) (n : ℕ) : Reachable init step (ρ n) := by
  induction n with
  | zero => exact hstart
  | succ n ih => exact ih.next (h n)

def WeakFair (enabled : σ → Prop) (taken : ℓ → Prop) (ρ : ℕ → σ) (l : ℕ → ℓ) : Prop :=
  ∀ n, (∀ m, n ≤ m → enabled (ρ m)) → ∃ m, n ≤ m ∧ taken (l m)

/-- `P` holds until the goal, the rank never rises meanwhile, and while it stays
    where it is the same action is enabled and not taken. -/
structure Advances [LT W] (enabled : κ → σ → Prop) (taken : κ → ℓ → Prop) (P : σ → Prop)
    (rank : σ → W) (helper : σ → κ) (s : σ) (l : ℓ) (t : σ) : Prop where
  kept : P t
  enabled : enabled (helper s) s
  lowered : rank t < rank s ∨
    rank t = rank s ∧ helper t = helper s ∧ ¬ taken (helper s) l

theorem response [LT W] [WellFoundedLT W] {enabled : κ → σ → Prop} {taken : κ → ℓ → Prop}
    (P : σ → Prop) (goal : ℓ → Prop) (rank : σ → W) (helper : σ → κ) {N : ℕ}
    (fair : ∀ k, WeakFair (enabled k) (taken k) ρ l)
    (hstep : ∀ m, N ≤ m → P (ρ m) →
      goal (l m) ∨ Advances enabled taken P rank helper (ρ m) (l m) (ρ (m + 1)))
    {n : ℕ} (hn : N ≤ n) (hP : P (ρ n)) : ∃ m, n ≤ m ∧ goal (l m) := by
  generalize hw : rank (ρ n) = w
  induction w using WellFoundedLT.induction generalizing n with
  | ind w ih =>
    by_contra hnone
    have hno : ∀ m, n ≤ m → ¬ goal (l m) := fun m hm hgoal => hnone ⟨m, hm, hgoal⟩
    -- without the goal the rank cannot drop either, so nothing changes for ever
    have hsame : ∀ m, n ≤ m → P (ρ m) ∧ rank (ρ m) = w ∧ helper (ρ m) = helper (ρ n) := by
      intro m hm
      induction m, hm using Nat.le_induction with
      | base => exact ⟨hP, hw, rfl⟩
      | succ m hm ihm =>
        obtain ⟨hPm, hrank, hhelper⟩ := ihm
        have hadv := (hstep m (hn.trans hm) hPm).resolve_left (hno m hm)
        rcases hadv.lowered with hlt | ⟨heq, hkeep, -⟩
        · have hgoal := ih (rank (ρ (m + 1))) (hrank ▸ hlt) (n := m + 1) (by omega) hadv.kept rfl
          obtain ⟨k, hk, hgoal⟩ := hgoal
          exact (hno k (by omega) hgoal).elim
        · exact ⟨hadv.kept, heq.trans hrank, hkeep.trans hhelper⟩
    have hadv : ∀ m, n ≤ m → Advances enabled taken P rank helper (ρ m) (l m) (ρ (m + 1)) :=
      fun m hm => (hstep m (hn.trans hm) (hsame m hm).1).resolve_left (hno m hm)
    obtain ⟨m, hm, htaken⟩ := fair (helper (ρ n)) n fun m hm =>
      (hsame m hm).2.2 ▸ (hadv m hm).enabled
    have hrank := (hsame m hm).2.1
    rcases (hadv m hm).lowered with hlt | ⟨-, -, hnot⟩
    · rw [hrank, (hsame (m + 1) (by omega)).2.1] at hlt
      obtain ⟨k, hk, hgoal⟩ := ih w hlt (hn.trans hm) (hsame m hm).1 hrank
      exact hno k (by omega) hgoal
    · exact hnot ((hsame m hm).2.2 ▸ htaken)

end FairRuns

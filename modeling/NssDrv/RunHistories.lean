import NssDrv.TransitionRuns

set_option autoImplicit false

/-!
# What a run has gone through

The step at which a property came to hold for the last time, and a step at
which one that held before was lost.
-/
namespace RunHistories
open TransitionRuns
variable {σ ℓ : Type} {step : σ → ℓ → σ → Prop} {s t : σ} {ls : List ℓ}

def Within (step : σ → ℓ → σ → Prop) (P : σ → Prop) (s : σ) (l : ℓ) (t : σ) : Prop :=
  step s l t ∧ P s ∧ P t

theorem within_run {P : σ → Prop} (h : Run (Within step P) s ls t) : Run step s ls t :=
  h.mono fun _ _ _ hstep => hstep.1

/-- The last step that made a property true, which holds ever since. -/
theorem since (P : σ → Prop) (h : Run step s ls t) (hs : ¬ P s) (ht : P t) :
    ∃ before l after u v, ls = before ++ l :: after ∧ Run step s before u ∧ step u l v ∧
      ¬ P u ∧ P v ∧ Run (Within step P) v after t := by
  induction h with
  | refl => exact absurd ht hs
  | @snoc t v ls l run last ih =>
    by_cases hp : P t
    · obtain ⟨before, l', after, u, w, rfl, hbefore, hstep, hu, hw, hafter⟩ := ih hp
      refine ⟨before, l', after ++ [l], u, w, by simp, hbefore, hstep, hu, hw, ?_⟩
      exact hafter.snoc ⟨last, hp, ht⟩
    · exact ⟨ls, l, [], t, v, rfl, run, last, hp, ht, .refl v⟩

theorem lost (P : σ → Prop) (h : Run step s ls t) (hs : P s) (ht : ¬ P t) :
    ∃ l ∈ ls, ∃ u v, step u l v ∧ P u ∧ ¬ P v := by
  induction h with
  | refl => exact absurd hs ht
  | @snoc t v ls l run last ih =>
    by_cases hp : P t
    · exact ⟨l, List.mem_append_right _ (List.mem_singleton_self l), t, v, last, hp, ht⟩
    · obtain ⟨l', hl', hlost⟩ := ih hp
      exact ⟨l', List.mem_append_left _ hl', hlost⟩

theorem step_of_mem {l : ℓ} (h : Run step s ls t) (hl : l ∈ ls) : ∃ u v, step u l v := by
  induction h with
  | refl => cases hl
  | snoc _ last ih =>
    rcases List.mem_append.mp hl with hl | hl
    · exact ih hl
    · rw [List.mem_singleton.mp hl]
      exact ⟨_, _, last⟩

theorem along (I : List ℓ → σ → Prop)
    (hstep : ∀ ls s l t, I ls s → step s l t → I (ls ++ [l]) t) (h : Run step s ls t)
    (hs : I [] s) : I ls t := by
  induction h with
  | refl => exact hs
  | snoc _ last ih => exact hstep _ _ _ _ ih last

end RunHistories

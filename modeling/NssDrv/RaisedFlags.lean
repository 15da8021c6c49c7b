import NssDrv.TransitionRuns

set_option autoImplicit false

/-!
# Raised flags

Parties that each raise a flag and then look at the flags of the others. Of
two parties whose flags are up and that have both looked, one has seen the
other's flag, whatever the order of their steps.
-/
namespace RaisedFlags
open TransitionRuns

/-- `missed i j`: since `i` raised its flag it has looked at `j` and found
    the flag of `j` down. -/
structure Flags (σ ι : Type) where
  up : σ → ι → Prop
  missed : σ → ι → ι → Prop

namespace Flags
variable {σ ι ℓ : Type} (F : Flags σ ι)

/-- No two parties have missed each other, and who has missed someone is still up. -/
def Apart (s : σ) : Prop := ∀ i j, F.missed s i j → F.up s i ∧ ¬ F.missed s j i

/-- Who has missed someone stays up, and a look that misses is made with the
    own flag up and the other's down. -/
structure Move (s t : σ) : Prop where
  up : ∀ i j, F.missed t i j → F.up s i → F.up t i
  looked : ∀ i j, F.missed t i j → F.missed s i j ∨ F.up s i ∧ ¬ F.up s j

variable {F} {s t : σ}

theorem Apart.move (h : F.Apart s) (hm : F.Move s t) : F.Apart t := by
  intro i j hij
  rcases hm.looked i j hij with hold | ⟨hup, hdown⟩
  · refine ⟨hm.up i j hij (h i j hold).1, fun hji => ?_⟩
    rcases hm.looked j i hji with hold' | ⟨_, hdown'⟩
    · exact (h i j hold).2 hold'
    · exact hdown' (h i j hold).1
  · refine ⟨hm.up i j hij hup, fun hji => ?_⟩
    rcases hm.looked j i hji with hold' | ⟨hup', _⟩
    · exact hdown (h j i hold').1
    · exact hdown hup'

theorem Apart.meet (h : F.Apart s) {saw : ι → ι → Prop} {i j : ι}
    (hi : F.missed s i j ∨ saw i j) (hj : F.missed s j i ∨ saw j i) : saw i j ∨ saw j i := by
  rcases hi with hij | hij
  · rcases hj with hji | hji
    · exact ((h i j hij).2 hji).elim
    · exact .inr hji
  · exact .inl hij

theorem Apart.run {step : σ → ℓ → σ → Prop} {ls : List ℓ} (h : F.Apart s)
    (hstep : ∀ s l t, step s l t → F.Move s t) (run : Run step s ls t) : F.Apart t :=
  run.invariant F.Apart (fun _ _ _ hs hst => hs.move (hstep _ _ _ hst)) h

end Flags
end RaisedFlags

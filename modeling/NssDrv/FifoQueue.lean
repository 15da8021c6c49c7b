import Mathlib.Data.List.Basic
import NssDrv.TransitionRuns

set_option autoImplicit false

/-!
# A bounded queue and what refines it

A first-in first-out queue of limited length as a transition system on the
list of what waits in it, and the rule by which the steps of another system,
each seen as some acts on the queue, make up a run of the queue.
-/
namespace FifoQueue
open TransitionRuns

inductive Act (α : Type) where
  | enter (xs : List α)
  | leave (xs : List α)

section Queue
variable {α : Type} {cap : ℕ} {q q' : List α} {as bs : List (Act α)}

inductive Step (cap : ℕ) : List α → Act α → List α → Prop where
  | enter (q xs : List α) (room : q.length + xs.length ≤ cap) : Step cap q (.enter xs) (q ++ xs)
  | leave (q xs : List α) : Step cap (xs ++ q) (.leave xs) q

def Act.entered : Act α → List α
  | .enter xs => xs
  | .leave _ => []

def Act.left : Act α → List α
  | .enter _ => []
  | .leave xs => xs

def entered (as : List (Act α)) : List α := as.flatMap Act.entered

def left (as : List (Act α)) : List α := as.flatMap Act.left

@[simp] theorem entered_nil : entered ([] : List (Act α)) = [] := rfl
@[simp] theorem left_nil : left ([] : List (Act α)) = [] := rfl

@[simp] theorem entered_append : entered (as ++ bs) = entered as ++ entered bs :=
  List.flatMap_append

@[simp] theorem left_append : left (as ++ bs) = left as ++ left bs := List.flatMap_append

@[simp] theorem entered_enter (xs : List α) : entered [.enter xs] = xs := by
  simp [entered, Act.entered]

@[simp] theorem entered_leave (xs : List α) : entered [.leave xs] = [] := by
  simp [entered, Act.entered]

@[simp] theorem left_enter (xs : List α) : left [.enter xs] = [] := by simp [left, Act.left]

@[simp] theorem left_leave (xs : List α) : left [.leave xs] = xs := by simp [left, Act.left]

theorem conserved (h : Run (Step cap) q as q') : q ++ entered as = left as ++ q' := by
  induction h with
  | refl => simp
  | snoc run last ih =>
    cases last with
    | enter q xs room =>
      simp only [entered_append, left_append, entered_enter, left_enter, List.append_nil]
      rw [← List.append_assoc, ih, List.append_assoc]
    | leave q xs =>
      simp only [entered_append, left_append, entered_leave, left_leave, List.append_nil]
      rw [ih, List.append_assoc]

theorem bounded (h : Run (Step cap) q as q') (hq : q.length ≤ cap) : q'.length ≤ cap := by
  refine h.invariant (fun q => q.length ≤ cap) (fun q a q' hq hstep => ?_) hq
  cases hstep with
  | enter q xs room => simpa using room
  | leave q xs =>
    rw [List.length_append] at hq
    omega

end Queue

section Refinement
variable {α β σ ℓ : Type} {cap : ℕ} {step : σ → ℓ → σ → Prop}
  {shows : σ → List (Act α) → σ → Prop} {view : σ → List α} {I : σ → Prop} {s t : σ} {ls : List ℓ}
  {as : List (Act α)}

/-- A run with the acts its steps show, in order. -/
inductive Shown (step : σ → ℓ → σ → Prop) (shows : σ → List (Act α) → σ → Prop) :
    σ → List ℓ → List (Act α) → σ → Prop where
  | refl (s : σ) : Shown step shows s [] [] s
  | snoc {s t u : σ} {ls : List ℓ} {l : ℓ} {as bs : List (Act α)}
      (run : Shown step shows s ls as t) (last : step t l u) (seen : shows t bs u) :
      Shown step shows s (ls ++ [l]) (as ++ bs) u

/-- Every step keeps `I` and shows acts, and these take the queue from what is
    seen of the state before to what is seen of the state after. -/
structure Refines (cap : ℕ) (step : σ → ℓ → σ → Prop) (shows : σ → List (Act α) → σ → Prop)
    (view : σ → List α) (I : σ → Prop) : Prop where
  keeps : ∀ s l t, I s → step s l t → I t
  seen : ∀ s l t, I s → step s l t → ∃ as, shows s as t
  simulates : ∀ s as t, I s → I t → shows s as t → Run (Step cap) (view s) as (view t)

/-- What every act adds to `g`, the whole run adds. -/
theorem Shown.sum {g : σ → List β} {f : List (Act α) → List β} (h : Shown step shows s ls as t)
    (hnil : f [] = []) (happend : ∀ as bs, f (as ++ bs) = f as ++ f bs)
    (hstep : ∀ s as t, shows s as t → g t = g s ++ f as) : g t = g s ++ f as := by
  induction h with
  | refl => simp [hnil]
  | snoc run last seen ih => rw [hstep _ _ _ seen, ih, happend, List.append_assoc]

theorem Refines.run (h : Refines cap step shows view I) (run : Run step s ls t) (hs : I s) :
    ∃ as, Shown step shows s ls as t ∧ Run (Step cap) (view s) as (view t) := by
  induction run with
  | refl => exact ⟨[], .refl s, .refl _⟩
  | snoc run last ih =>
    obtain ⟨as, hshown, hqueue⟩ := ih
    have ht := run.invariant I h.keeps hs
    obtain ⟨bs, hbs⟩ := h.seen _ _ _ ht last
    have hlast := h.simulates _ _ _ ht (h.keeps _ _ _ ht last) hbs
    exact ⟨as ++ bs, hshown.snoc last hbs, hqueue.trans hlast⟩

end Refinement
end FifoQueue

import Mathlib.Data.List.Nodup

set_option autoImplicit false

/-!
# Singly linked chains

Chains over any memory of linked objects. `succ a` is `none` where no object
lives at `a`, `some none` at the end of a chain.
-/
namespace LinkedChain
variable {α : Type}

/-- The objects met from a pointer on, `fuel` of them at most. -/
def follow (succ : α → Option (Option α)) : ℕ → Option α → List α
  | 0, _ => []
  | _ + 1, none => []
  | fuel + 1, some a => a :: follow succ fuel ((succ a).getD none)

/-- From the pointer on, the chain visits exactly these objects. -/
inductive Linked (succ : α → Option (Option α)) : Option α → List α → Prop where
  | nil : Linked succ none []
  | cons {a : α} {p : Option α} {as : List α} (here : succ a = some p) (rest : Linked succ p as) :
      Linked succ (some a) (a :: as)

namespace Linked
variable {succ succ' : α → Option (Option α)} {p : Option α} {as : List α} {a t : α}

theorem eq_nil_iff (h : Linked succ p as) : p = none ↔ as = [] := by
  cases h <;> simp

theorem live (h : Linked succ p as) : ∀ b ∈ as, (succ b).isSome := by
  induction h with
  | nil => simp
  | cons here _ ih =>
    intro b hb
    rcases List.mem_cons.mp hb with rfl | hb
    · simp [here]
    · exact ih b hb

theorem follow_eq (h : Linked succ p as) {fuel : ℕ} (hfuel : as.length ≤ fuel) :
    follow succ fuel p = as := by
  induction h generalizing fuel with
  | nil => cases fuel <;> rfl
  | cons here rest ih =>
    cases fuel with
    | zero => simp at hfuel
    | succ fuel =>
      rw [follow, here]
      exact congrArg _ (ih (by simpa using hfuel))

theorem congr (h : Linked succ p as) (hsucc : ∀ b ∈ as, succ' b = succ b) : Linked succ' p as := by
  induction h with
  | nil => exact .nil
  | cons here _ ih =>
    refine .cons ((hsucc _ (List.mem_cons_self ..)).trans here) (ih fun b hb => ?_)
    exact hsucc b (List.mem_cons_of_mem _ hb)

theorem snoc (h : Linked succ p as) (nodup : as.Nodup) (last : as.getLast? = some t)
    (others : ∀ b ∈ as, b ≠ t → succ' b = succ b) (linked : succ' t = some (some a))
    (ends : succ' a = some none) : Linked succ' p (as ++ [a]) := by
  induction h with
  | nil => cases last
  | @cons b p as here rest ih =>
    obtain ⟨hb, hnodup⟩ := List.nodup_cons.mp nodup
    cases as with
    | nil =>
      obtain rfl : b = t := by simpa using last
      exact .cons linked (.cons ends .nil)
    | cons c as =>
      rw [List.getLast?_cons_cons] at last
      have hne : b ≠ t := by
        rintro rfl
        exact hb (List.mem_of_getLast? last)
      refine .cons ((others b (List.mem_cons_self ..) hne).trans here) ?_
      exact ih hnodup last fun x hx => others x (List.mem_cons_of_mem _ hx)

end Linked
end LinkedChain

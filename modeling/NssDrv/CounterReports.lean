import Mathlib.Algebra.BigOperators.Group.List.Basic
import Mathlib.Data.List.Basic
import Mathlib.Logic.Function.Basic

set_option autoImplicit false

/-!
# Counters and what is reported to them

A bank of counters, each of which sums up what is reported, or keeps the latest of
it, or the greatest. A counter of one of these kinds has the value that all its
reports make, in whatever groups they come.
-/
namespace CounterReports

section Changes
variable {α : Type} [AddMonoid α] [LT α] [DecidableLT α]

inductive Change (α : Type) where
  | add (x : α)
  | set (x : α)
  | raise (x : α)

inductive Kind where
  | total
  | latest
  | peak
  deriving DecidableEq

namespace Change

def apply (v : α) : Change α → α
  | add x => v + x
  | set x => x
  | raise x => if v < x then x else v

def kind : Change α → Kind
  | add _ => .total
  | set _ => .latest
  | raise _ => .peak

def amount : Change α → α
  | add x => x
  | set x => x
  | raise x => x

end Change

def Kind.settle : Kind → α → List α → α
  | total, v, xs => v + xs.sum
  | latest, v, xs => xs.getLast?.getD v
  | peak, v, xs => xs.foldl (fun v x => if v < x then x else v) v

theorem settle_cons (kd : Kind) (v x : α) (xs : List α) :
    kd.settle v (x :: xs) = kd.settle (kd.settle v [x]) xs := by
  cases kd with
  | total => simp [Kind.settle, add_assoc]
  | latest =>
    cases xs with
    | nil => rfl
    | cons y ys => simp [Kind.settle, List.getLast?_eq_some_getLast]
  | peak => rfl

theorem settle_append (kd : Kind) (v : α) (xs ys : List α) :
    kd.settle v (xs ++ ys) = kd.settle (kd.settle v xs) ys := by
  induction xs generalizing v with
  | nil => cases kd <;> simp [Kind.settle]
  | cons x xs ih => rw [List.cons_append, settle_cons, ih, ← settle_cons]

theorem apply_eq_settle (c : Change α) (v : α) : c.apply v = c.kind.settle v [c.amount] := by
  cases c with
  | add x => simp [Change.apply, Change.kind, Change.amount, Kind.settle]
  | set x => rfl
  | raise x => rfl

end Changes

section Banks
variable {κ α : Type} [DecidableEq κ] [AddMonoid α] [LT α] [DecidableLT α]
  {kind : κ → Kind} {m : κ → α} {k : κ} {es : List (κ × Change α)}

def post (m : κ → α) (e : κ × Change α) : κ → α := Function.update m e.1 (e.2.apply (m e.1))

def postAll (m : κ → α) (es : List (κ × Change α)) : κ → α := es.foldl post m

def amounts (k : κ) (es : List (κ × Change α)) : List α :=
  es.filterMap fun e => if e.1 = k then some e.2.amount else none

def Agrees (kind : κ → Kind) (es : List (κ × Change α)) : Prop := ∀ e ∈ es, e.2.kind = kind e.1

omit [AddMonoid α] [LT α] [DecidableLT α] in
theorem amounts_append (k : κ) (es fs : List (κ × Change α)) :
    amounts k (es ++ fs) = amounts k es ++ amounts k fs := List.filterMap_append

omit [DecidableEq κ] [AddMonoid α] [LT α] [DecidableLT α] in
theorem Agrees.append {fs : List (κ × Change α)} (h : Agrees kind es) (h' : Agrees kind fs) :
    Agrees kind (es ++ fs) := by
  intro e he
  rcases List.mem_append.mp he with he | he
  · exact h e he
  · exact h' e he

theorem post_settle (m : κ → α) (e : κ × Change α) (k : κ) (h : e.2.kind = kind e.1) :
    post m e k = (kind k).settle (m k) (amounts k [e]) := by
  unfold post amounts
  by_cases hk : e.1 = k
  · subst hk
    rw [Function.update_self, apply_eq_settle, h]
    simp
  · rw [Function.update_of_ne (Ne.symm hk)]
    cases kind k <;> simp [hk, Kind.settle]

theorem postAll_settle (h : Agrees kind es) (m : κ → α) (k : κ) :
    postAll m es k = (kind k).settle (m k) (amounts k es) := by
  induction es generalizing m with
  | nil => cases hk : kind k <;> simp [postAll, amounts, Kind.settle]
  | cons e es ih =>
    have hhead := post_settle m e k (h e List.mem_cons_self)
    have hrest := ih (fun e he => h e (List.mem_cons_of_mem _ he)) (post m e)
    have hsplit : amounts k (e :: es) = amounts k [e] ++ amounts k es := amounts_append k [e] es
    rw [hsplit, settle_append, ← hhead, ← hrest]
    rfl

end Banks
end CounterReports

import Mathlib.Logic.Relation
import Mathlib.Order.Lattice
import Mathlib.Tactic.Ring

set_option autoImplicit false

/-!
# Threads over a shared state

A thread is a finite tree of atomic accesses. Whatever runs beside it acts
between two accesses, so a property of the thread is stated against a rely
relation (what the others may do) and a guarantee (what each access does).
-/
namespace SharedThread

/-- `act en f k` waits for `en`, applies `f` in one step and continues with
    `k` of the state before that step. `halt` never moves again. -/
inductive Proc (σ α : Type) where
  | ret (a : α)
  | halt
  | act (en : σ → Bool) (f : σ → σ) (k : σ → Proc σ α)

namespace Proc
variable {σ τ α β : Type}

def bind : Proc σ α → (α → Proc σ β) → Proc σ β
  | .ret a, g => g a
  | .halt, _ => .halt
  | .act en f k, g => .act en f (fun s => (k s).bind g)

instance : Monad (Proc σ) where
  pure := .ret
  bind := .bind

def read (g : σ → α) : Proc σ α := .act (fun _ => true) id (fun s => .ret (g s))

def modify (f : σ → σ) : Proc σ Unit := .act (fun _ => true) f (fun _ => .ret ())

/-- A store that waits for its condition, as a lock acquisition does. -/
def await (en : σ → Bool) (f : σ → σ) : Proc σ Unit := .act en f (fun _ => .ret ())

/-- Runs a thread on one component of a larger state. -/
def zoom (get : σ → τ) (set : τ → σ → σ) : Proc τ α → Proc σ α
  | .ret a => .ret a
  | .halt => .halt
  | .act en f k => .act (fun s => en (get s)) (fun s => set (f (get s)) s)
      (fun s => (k (get s)).zoom get set)

/-- The run without any interference; `none` if it blocks or halts. -/
def exec : Proc σ α → σ → Option (α × σ)
  | .ret a, s => some (a, s)
  | .halt, _ => none
  | .act en f k, s => if en s then (k s).exec (f s) else none

@[simp] theorem pure_eq (a : α) : (pure a : Proc σ α) = .ret a := rfl
@[simp] theorem bind_eq (p : Proc σ α) (g : α → Proc σ β) : (p >>= g) = p.bind g := rfl
@[simp] theorem ret_bind (a : α) (g : α → Proc σ β) : (Proc.ret a).bind g = g a := rfl
@[simp] theorem halt_bind (g : α → Proc σ β) : (Proc.halt : Proc σ α).bind g = .halt := rfl
@[simp] theorem act_bind (en : σ → Bool) (f : σ → σ) (k : σ → Proc σ α) (g : α → Proc σ β) :
    (Proc.act en f k).bind g = .act en f (fun s => (k s).bind g) := rfl

@[simp] theorem exec_ret (a : α) (s : σ) : (Proc.ret a).exec s = some (a, s) := rfl
@[simp] theorem exec_act (en : σ → Bool) (f : σ → σ) (k : σ → Proc σ α) (s : σ) :
    (Proc.act en f k).exec s = if en s then (k s).exec (f s) else none := rfl

theorem exec_bind (p : Proc σ α) (g : α → Proc σ β) (s : σ) :
    (p.bind g).exec s = (p.exec s).bind (fun r => (g r.1).exec r.2) := by
  induction p generalizing s with
  | ret a => rfl
  | halt => rfl
  | act en f k ih =>
    simp only [act_bind, exec_act]
    split
    · exact ih s (f s)
    · rfl

theorem exec_zoom {get : σ → τ} {set : τ → σ → σ} (hget : ∀ x s, get (set x s) = x)
    (hself : ∀ s, set (get s) s = s) (htwice : ∀ x y s, set x (set y s) = set x s) (p : Proc τ α)
    (s : σ) : (p.zoom get set).exec s = (p.exec (get s)).map fun r => (r.1, set r.2 s) := by
  induction p generalizing s with
  | ret a =>
    change some (a, s) = some (a, set (get s) s)
    rw [hself]
  | halt => rfl
  | act en f k ih =>
    change (if en (get s) = true then ((k (get s)).zoom get set).exec _ else none) = _
    rw [exec_act]
    split
    · rw [ih, hget]
      simp only [htwice]
    · rfl

end Proc

open Relation

/-- `P` survives every step of the others. -/
def Stable {σ : Type} (R : σ → σ → Prop) (P : σ → Prop) : Prop := ∀ s t, R s t → P s → P t

theorem Stable.star {σ : Type} {R : σ → σ → Prop} {P : σ → Prop} (h : Stable R P) {s t : σ}
    (hst : ReflTransGen R s t) (hs : P s) : P t := by
  induction hst with
  | refl => exact hs
  | tail _ hr ih => exact h _ _ hr ih

theorem Stable.and {σ : Type} {R : σ → σ → Prop} {P Q : σ → Prop}
    (hp : Stable R P) (hq : Stable R Q) : Stable R (fun s => P s ∧ Q s) :=
  fun s t hr h => ⟨hp s t hr h.1, hq s t hr h.2⟩

/-- Along every interleaving of `p`, started in `s`, with steps of `R`: each
    access of `p` is in `G`, and where `p` returns `a` the state is in `Q a`
    and stays there. -/
def Sat {σ α : Type} (R G : σ → σ → Prop) (Q : α → σ → Prop) : Proc σ α → σ → Prop
  | .ret a, s => ∀ t, ReflTransGen R s t → Q a t
  | .halt, _ => True
  | .act en f k, s => ∀ t, ReflTransGen R s t → en t = true → G t (f t) ∧ Sat R G Q (k t) (f t)

namespace Sat
variable {σ τ α β : Type} {R R' G G' : σ → σ → Prop} {Q Q' : α → σ → Prop} {p : Proc σ α}
  {s t : σ}

theorem rely (h : Sat R G Q p s) (hr : ReflTransGen R s t) : Sat R G Q p t := by
  cases p with
  | ret a => exact fun u hu => h u (hr.trans hu)
  | halt => trivial
  | act en f k => exact fun u hu hen => h u (hr.trans hu) hen

theorem mono (h : Sat R G Q p s) (hR : ∀ s t, R' s t → R s t) (hG : ∀ s t, G s t → G' s t)
    (hQ : ∀ a s, Q a s → Q' a s) : Sat R' G' Q' p s := by
  induction p generalizing s with
  | ret a => exact fun u hu => hQ a u (h u (ReflTransGen.mono hR _ _ hu))
  | halt => trivial
  | act en f k ih =>
    intro u hu hen
    have hstep := h u (ReflTransGen.mono hR _ _ hu) hen
    exact ⟨hG _ _ hstep.1, ih u hstep.2⟩

theorem post (h : Sat R G Q p s) (hQ : ∀ a s, Q a s → Q' a s) : Sat R G Q' p s :=
  h.mono (fun _ _ hr => hr) (fun _ _ hg => hg) hQ

theorem and (h : Sat R G Q p s) (h' : Sat R G' Q' p s) :
    Sat R (fun s t => G s t ∧ G' s t) (fun a s => Q a s ∧ Q' a s) p s := by
  induction p generalizing s with
  | ret a => exact fun u hu => ⟨h u hu, h' u hu⟩
  | halt => trivial
  | act en f k ih =>
    intro u hu hen
    have h₁ := h u hu hen
    have h₂ := h' u hu hen
    exact ⟨⟨h₁.1, h₂.1⟩, ih u h₁.2 h₂.2⟩

theorem keep {P : σ → Prop} (hstable : Stable R P) (hG : ∀ s t, P s → G s t → P t)
    (h : Sat R G Q p s) (hs : P s) : Sat R G (fun a s => Q a s ∧ P s) p s := by
  induction p generalizing s with
  | ret a => exact fun u hu => ⟨h u hu, hstable.star hu hs⟩
  | halt => trivial
  | act en f k ih =>
    intro u hu hen
    have hstep := h u hu hen
    exact ⟨hstep.1, ih u hstep.2 (hG _ _ (hstable.star hu hs) hstep.1)⟩

theorem bind {g : α → Proc σ β} {S : β → σ → Prop} (h : Sat R G Q p s)
    (hg : ∀ a t, Q a t → Sat R G S (g a) t) : Sat R G S (p.bind g) s := by
  induction p generalizing s with
  | ret a => exact hg a s (h s .refl)
  | halt => trivial
  | act en f k ih =>
    intro u hu hen
    have hstep := h u hu hen
    exact ⟨hstep.1, ih u hstep.2⟩

theorem ret {a : α} (hstable : Stable R (Q a)) (hs : Q a s) : Sat R G Q (.ret a) s :=
  fun _ hu => hstable.star hu hs

theorem act {P : σ → Prop} {en : σ → Bool} {f : σ → σ} {k : σ → Proc σ α}
    (hstable : Stable R P) (hs : P s)
    (h : ∀ u, P u → en u = true → G u (f u) ∧ Sat R G Q (k u) (f u)) : Sat R G Q (.act en f k) s :=
  fun u hu hen => h u (hstable.star hu hs) hen

theorem read {P : σ → Prop} {g : σ → β} {k : β → Proc σ α} (hrefl : ∀ u, P u → G u u)
    (hstable : Stable R P) (hs : P s) (h : ∀ u, P u → Sat R G Q (k (g u)) u) :
    Sat R G Q ((Proc.read g).bind k) s :=
  Sat.act hstable hs (fun u hu _ => ⟨hrefl u hu, h u hu⟩)

theorem modify {P : σ → Prop} {f : σ → σ} {k : Unit → Proc σ α}
    (hstable : Stable R P) (hs : P s) (h : ∀ u, P u → G u (f u) ∧ Sat R G Q (k ()) (f u)) :
    Sat R G Q ((Proc.modify f).bind k) s :=
  Sat.act hstable hs (fun u hu _ => h u hu)

theorem await {P : σ → Prop} {en : σ → Bool} {f : σ → σ} {k : Unit → Proc σ α}
    (hstable : Stable R P) (hs : P s)
    (h : ∀ u, P u → en u = true → G u (f u) ∧ Sat R G Q (k ()) (f u)) :
    Sat R G Q ((Proc.await en f).bind k) s :=
  Sat.act hstable hs h

theorem exec {a : α} (h : Sat R G Q p s) (he : p.exec s = some (a, t)) : Q a t := by
  induction p generalizing s with
  | ret b =>
    simp only [Proc.exec_ret, Option.some.injEq, Prod.mk.injEq] at he
    obtain ⟨rfl, rfl⟩ := he
    exact h s .refl
  | halt => cases he
  | act en f k ih =>
    simp only [Proc.exec_act] at he
    split at he
    · rename_i hen
      exact ih s (h s .refl hen).2 he
    · cases he

/-- A thread on one component: its environment sees only that component, and
    an assertion on the whole may be carried along. -/
theorem zoom {P : σ → Prop} {get : σ → τ} {set : τ → σ → σ} {Rt Gt : τ → τ → Prop}
    {Qt : α → τ → Prop} {q : Proc τ α} (hget : ∀ x s, get (set x s) = x) (hstable : Stable R P)
    (hR : ∀ s t, R s t → Rt (get s) (get t))
    (hG : ∀ s x, P s → Gt (get s) x → G s (set x s) ∧ P (set x s))
    (hQ : ∀ a s, P s → Qt a (get s) → Q a s) (h : Sat Rt Gt Qt q (get s)) (hs : P s) :
    Sat R G Q (q.zoom get set) s := by
  induction q generalizing s with
  | ret a => exact fun u hu => hQ a u (hstable.star hu hs) (h _ (hu.lift get hR))
  | halt => trivial
  | act en f k ih =>
    intro u hu hen
    have hstep := h (get u) (hu.lift get hR) hen
    have hnext := hG u _ (hstable.star hu hs) hstep.1
    refine ⟨hnext.1, ih (get u) ?_ hnext.2⟩
    rw [hget]
    exact hstep.2

/-- Whatever a component does, an assertion that no value of the component
    can break is kept: the inside of the thread need not be looked at. -/
theorem zoom_frame {get : σ → τ} {set : τ → σ → σ} {P : σ → Prop} (q : Proc τ α)
    (hstable : Stable R P) (hset : ∀ s x, P s → P (set x s)) (hG : ∀ s x, P s → G s (set x s))
    (hs : P s) : Sat R G (fun _ => P) (q.zoom get set) s := by
  induction q generalizing s with
  | ret a => exact fun u hu => hstable.star hu hs
  | halt => trivial
  | act en f k ih =>
    intro u hu _
    have hu' := hstable.star hu hs
    exact ⟨hG _ _ hu', ih (get u) (hset _ _ hu')⟩

end Sat

/-- `G` on all steps before the one that ends `A`. -/
def Until {σ : Type} (A : σ → Prop) (G : σ → σ → Prop) (s t : σ) : Prop := A t → A s ∧ G s t

theorem Until.star {σ : Type} {A : σ → Prop} {R : σ → σ → Prop} {s t : σ}
    (h : ReflTransGen (Until A R) s t) (ht : A t) : A s ∧ ReflTransGen R s t := by
  induction h with
  | refl => exact ⟨ht, .refl⟩
  | tail _ hr ih =>
    obtain ⟨hu, hstep⟩ := hr ht
    exact ⟨(ih hu).1, (ih hu).2.tail hstep⟩

theorem Until.stable {σ : Type} {A P : σ → Prop} {R : σ → σ → Prop} (h : Stable R P) :
    Stable (Until A R) (fun s => A s → P s) :=
  fun s t hr hs ht => h s t (hr ht).2 (hs (hr ht).1)

/-- No access of the thread, run anywhere, brings `A` back. -/
def Ends {σ α : Type} (A : σ → Prop) (p : Proc σ α) : Prop :=
  ∀ s, Sat (fun _ _ => True) (fun s t => A t → A s) (fun _ _ => True) p s

namespace Ends
variable {σ τ α β : Type} {A : σ → Prop}

theorem ret (a : α) : Ends A (.ret a) := fun _ _ _ => trivial

theorem halt : Ends A (.halt : Proc σ α) := fun _ => trivial

theorem act {en : σ → Bool} {f : σ → σ} {k : σ → Proc σ α} (hf : ∀ s, A (f s) → A s)
    (hk : ∀ s, Ends A (k s)) : Ends A (.act en f k) :=
  fun _ t _ _ => ⟨hf t, hk t (f t)⟩

theorem bind {p : Proc σ α} {g : α → Proc σ β} (hp : Ends A p) (hg : ∀ a, Ends A (g a)) :
    Ends A (p.bind g) :=
  fun s => (hp s).bind fun a t _ => hg a t

theorem zoom {get : σ → τ} {set : τ → σ → σ} (q : Proc τ α) (hset : ∀ s x, A (set x s) → A s) :
    Ends A (q.zoom get set) :=
  fun _ => Sat.zoom_frame q (fun _ _ _ h => h) (fun _ _ h => h) (fun s x _ => hset s x) trivial

end Ends

/-- A thread only has to do its work as long as `A` holds. -/
theorem Sat.until {σ α : Type} {A : σ → Prop} {R G : σ → σ → Prop} {Q : α → σ → Prop}
    {p : Proc σ α} {s : σ} (hends : Ends A p) (h : A s → Sat R G Q p s) :
    Sat (Until A R) (Until A G) (fun a t => A t → Q a t) p s := by
  have hkeep := hends s
  clear hends
  induction p generalizing s with
  | ret a =>
    intro t hst ht
    obtain ⟨hs, hrun⟩ := Until.star hst ht
    exact h hs t hrun
  | halt => trivial
  | act en f k ih =>
    intro u hsu hen
    have hstep := hkeep u (.single trivial) hen
    refine ⟨fun hA => ?_, ih u (fun hA => ?_) hstep.2⟩
    · obtain ⟨hs, hrun⟩ := Until.star hsu (hstep.1 hA)
      exact ⟨hstep.1 hA, (h hs u hrun hen).1⟩
    · obtain ⟨hs, hrun⟩ := Until.star hsu (hstep.1 hA)
      exact (h hs u hrun hen).2

/-- Along every interleaving with steps of `R` the thread is never stuck, and
    it returns in `Q`. -/
def Total {σ α : Type} (R : σ → σ → Prop) (Q : α → σ → Prop) : Proc σ α → σ → Prop
  | .ret a, s => ∀ t, ReflTransGen R s t → Q a t
  | .halt, _ => False
  | .act en f k, s => ∀ t, ReflTransGen R s t → en t = true ∧ Total R Q (k t) (f t)

namespace Total
variable {σ τ α β : Type} {R R' G : σ → σ → Prop} {Q Q' : α → σ → Prop} {p : Proc σ α} {s t : σ}

theorem mono (h : Total R Q p s) (hR : ∀ s t, R' s t → R s t) (hQ : ∀ a s, Q a s → Q' a s) :
    Total R' Q' p s := by
  induction p generalizing s with
  | ret a => exact fun u hu => hQ a u (h u (ReflTransGen.mono hR _ _ hu))
  | halt => exact h
  | act en f k ih =>
    intro u hu
    have hstep := h u (ReflTransGen.mono hR _ _ hu)
    exact ⟨hstep.1, ih u hstep.2⟩

theorem sat (h : Total R Q p s) (h' : Sat R G Q' p s) :
    Total R (fun a s => Q a s ∧ Q' a s) p s := by
  induction p generalizing s with
  | ret a => exact fun u hu => ⟨h u hu, h' u hu⟩
  | halt => exact h
  | act en f k ih =>
    intro u hu
    have hstep := h u hu
    exact ⟨hstep.1, ih u hstep.2 (h' u hu hstep.1).2⟩

theorem bind {g : α → Proc σ β} {S : β → σ → Prop} (h : Total R Q p s)
    (hg : ∀ a t, Q a t → Total R S (g a) t) : Total R S (p.bind g) s := by
  induction p generalizing s with
  | ret a => exact hg a s (h s .refl)
  | halt => exact h.elim
  | act en f k ih =>
    intro u hu
    have hstep := h u hu
    exact ⟨hstep.1, ih u hstep.2⟩

theorem ret {a : α} (hstable : Stable R (Q a)) (hs : Q a s) : Total R Q (.ret a) s :=
  fun _ hu => hstable.star hu hs

theorem read {P : σ → Prop} {g : σ → β} {k : β → Proc σ α} (hstable : Stable R P) (hs : P s)
    (h : ∀ u, P u → Total R Q (k (g u)) u) : Total R Q ((Proc.read g).bind k) s :=
  fun u hu => ⟨rfl, h u (hstable.star hu hs)⟩

theorem modify {P : σ → Prop} {f : σ → σ} {k : Unit → Proc σ α} (hstable : Stable R P) (hs : P s)
    (h : ∀ u, P u → Total R Q (k ()) (f u)) : Total R Q ((Proc.modify f).bind k) s :=
  fun u hu => ⟨rfl, h u (hstable.star hu hs)⟩

theorem exec (h : Total R Q p s) : ∃ a t, p.exec s = some (a, t) ∧ Q a t := by
  induction p generalizing s with
  | ret a => exact ⟨a, s, rfl, h s .refl⟩
  | halt => exact h.elim
  | act en f k ih =>
    obtain ⟨hen, hrest⟩ := h s .refl
    obtain ⟨a, t, hexec, hq⟩ := ih s hrest
    exact ⟨a, t, by rw [Proc.exec_act, if_pos hen, hexec], hq⟩

end Total

/-- Along every interleaving with steps of `R` the thread waits only where `W`
    lets it, and it returns in `Q` or halts in `D`. -/
def Concludes {σ α : Type} (R : σ → σ → Prop) (W D : σ → Prop) (Q : α → σ → Prop) :
    Proc σ α → σ → Prop
  | .ret a, s => ∀ t, ReflTransGen R s t → Q a t
  | .halt, s => D s
  | .act en f k, s => ∀ t, ReflTransGen R s t →
      (en t = false → W t) ∧ (en t = true → Concludes R W D Q (k t) (f t))

namespace Concludes
variable {σ τ α β : Type} {R R' G : σ → σ → Prop} {W W' D D' P : σ → Prop} {Q Q' : α → σ → Prop}
  {p : Proc σ α} {s : σ}

theorem mono (h : Concludes R W D Q p s) (hR : ∀ s t, R' s t → R s t) (hW : ∀ s, W s → W' s)
    (hD : ∀ s, D s → D' s) (hQ : ∀ a s, Q a s → Q' a s) : Concludes R' W' D' Q' p s := by
  induction p generalizing s with
  | ret a => exact fun u hu => hQ a u (h u (ReflTransGen.mono hR _ _ hu))
  | halt => exact hD s h
  | act en f k ih =>
    intro u hu
    have hstep := h u (ReflTransGen.mono hR _ _ hu)
    exact ⟨fun hen => hW u (hstep.1 hen), fun hen => ih u (hstep.2 hen)⟩

theorem post (h : Concludes R W D Q p s) (hQ : ∀ a s, Q a s → Q' a s) : Concludes R W D Q' p s :=
  h.mono (fun _ _ hr => hr) (fun _ hw => hw) (fun _ hd => hd) hQ

theorem sat (h : Concludes R W D Q p s) (h' : Sat R G Q' p s) :
    Concludes R W D (fun a s => Q a s ∧ Q' a s) p s := by
  induction p generalizing s with
  | ret a => exact fun u hu => ⟨h u hu, h' u hu⟩
  | halt => exact h
  | act en f k ih =>
    intro u hu
    have hstep := h u hu
    exact ⟨hstep.1, fun hen => ih u (hstep.2 hen) (h' u hu hen).2⟩

theorem bind {g : α → Proc σ β} {S : β → σ → Prop} (h : Concludes R W D Q p s)
    (hg : ∀ a t, Q a t → Concludes R W D S (g a) t) : Concludes R W D S (p.bind g) s := by
  induction p generalizing s with
  | ret a => exact hg a s (h s .refl)
  | halt => exact h
  | act en f k ih =>
    intro u hu
    have hstep := h u hu
    exact ⟨hstep.1, fun hen => ih u (hstep.2 hen)⟩

theorem ret {a : α} (hstable : Stable R (Q a)) (hs : Q a s) : Concludes R W D Q (.ret a) s :=
  fun _ hu => hstable.star hu hs

theorem act {en : σ → Bool} {f : σ → σ} {k : σ → Proc σ α} (hstable : Stable R P) (hs : P s)
    (hwait : ∀ u, P u → en u = false → W u)
    (h : ∀ u, P u → en u = true → Concludes R W D Q (k u) (f u)) :
    Concludes R W D Q (.act en f k) s :=
  fun u hu => ⟨hwait u (hstable.star hu hs), h u (hstable.star hu hs)⟩

theorem read {g : σ → β} {k : β → Proc σ α} (hstable : Stable R P) (hs : P s)
    (h : ∀ u, P u → Concludes R W D Q (k (g u)) u) :
    Concludes R W D Q ((Proc.read g).bind k) s :=
  Concludes.act hstable hs (fun _ _ hen => by cases hen) fun u hu _ => h u hu

theorem modify {f : σ → σ} {k : Unit → Proc σ α} (hstable : Stable R P) (hs : P s)
    (h : ∀ u, P u → Concludes R W D Q (k ()) (f u)) :
    Concludes R W D Q ((Proc.modify f).bind k) s :=
  Concludes.act hstable hs (fun _ _ hen => by cases hen) fun u hu _ => h u hu

theorem of_total (h : Total R Q p s) : Concludes R W D Q p s := by
  induction p generalizing s with
  | ret a => exact h
  | halt => exact h.elim
  | act en f k ih =>
    intro u hu
    obtain ⟨hen, hrest⟩ := h u hu
    refine ⟨fun hoff => ?_, fun _ => ih u hrest⟩
    rw [hen] at hoff
    cases hoff

/-- A thread on one component, where that component need not know of `P`. -/
theorem zoom {get : σ → τ} {set : τ → σ → σ} {Rt : τ → τ → Prop} {Wt Dt : τ → Prop}
    {Qt : α → τ → Prop} {q : Proc τ α} (hget : ∀ x s, get (set x s) = x) (hstable : Stable R P)
    (hset : ∀ s x, P s → P (set x s)) (hR : ∀ s t, R s t → Rt (get s) (get t))
    (hW : ∀ s, P s → Wt (get s) → W s) (hD : ∀ s, P s → Dt (get s) → D s)
    (hQ : ∀ a s, P s → Qt a (get s) → Q a s) (h : Concludes Rt Wt Dt Qt q (get s)) (hs : P s) :
    Concludes R W D Q (q.zoom get set) s := by
  induction q generalizing s with
  | ret a => exact fun u hu => hQ a u (hstable.star hu hs) (h _ (hu.lift get hR))
  | halt => exact hD s hs h
  | act en f k ih =>
    intro u hu
    have hu' := hstable.star hu hs
    have hstep := h (get u) (hu.lift get hR)
    refine ⟨fun hen => hW u hu' (hstep.1 hen), fun hen => ih (get u) ?_ (hset _ _ hu')⟩
    rw [hget]
    exact hstep.2 hen

end Concludes

section Anywhere
variable {σ τ α β : Type}

theorem total_read {g : σ → β} {k : β → Proc σ α}
    (h : ∀ x s, Total (fun _ _ => True) (fun _ _ => True) (k x) s) (s : σ) :
    Total (fun _ _ => True) (fun _ _ => True) ((Proc.read g).bind k) s :=
  fun _ _ => ⟨rfl, h _ _⟩

theorem total_modify {f : σ → σ} {k : Unit → Proc σ α}
    (h : ∀ s, Total (fun _ _ => True) (fun _ _ => True) (k ()) s) (s : σ) :
    Total (fun _ _ => True) (fun _ _ => True) ((Proc.modify f).bind k) s :=
  fun _ _ => ⟨rfl, h _⟩

theorem total_ret {a : α} (s : σ) :
    Total (fun _ _ => True) (fun _ _ => True) (.ret a : Proc σ α) s := fun _ _ => trivial

end Anywhere

/-- Run without interference, the thread changes the number `g` by what its
    return value says. -/
def Adds {σ α : Type} (g : σ → ℤ) (n : α → ℤ) (p : Proc σ α) : Prop :=
  ∀ s a t, p.exec s = some (a, t) → g t = g s + n a

namespace Adds
variable {σ α β : Type} {g : σ → ℤ} {n : α → ℤ} {m : β → ℤ}

theorem ret {a : α} (h : n a = 0) : Adds g n (.ret a) := by
  intro s b t he
  cases he
  rw [h, add_zero]

theorem halt : Adds g n .halt := fun _ _ _ h => by cases h

/-- The first access adds `d`, the rest what is left. -/
theorem act {en : σ → Bool} {f : σ → σ} {k : σ → Proc σ α} (d : ℤ) (hf : ∀ s, g (f s) = g s + d)
    (hk : ∀ s, Adds g (fun a => n a - d) (k s)) : Adds g n (.act en f k) := by
  intro s a t h
  rw [Proc.exec_act] at h
  split at h
  · rw [hk s _ _ _ h, hf]
    ring
  · cases h

theorem keep {en : σ → Bool} {f : σ → σ} {k : σ → Proc σ α} (hf : ∀ s, g (f s) = g s)
    (hk : ∀ s, Adds g n (k s)) : Adds g n (.act en f k) :=
  .act 0 (fun s => by rw [hf, add_zero]) fun s => by simpa using hk s

theorem bind {p : Proc σ α} {q : α → Proc σ β} (hp : Adds g n p)
    (hq : ∀ a, Adds g (fun b => m b - n a) (q a)) : Adds g m (p.bind q) := by
  intro s b u h
  rw [Proc.exec_bind] at h
  obtain ⟨⟨a, t⟩, hfirst, hrest⟩ := Option.bind_eq_some_iff.mp h
  rw [hq a t b u hrest, hp s a t hfirst]
  ring

theorem after {p : Proc σ α} {q : α → Proc σ β} (hp : Adds g (fun _ => 0) p)
    (hq : ∀ a, Adds g m (q a)) : Adds g m (p.bind q) :=
  hp.bind fun a => by simpa using hq a

end Adds
end SharedThread

import Mathlib.Data.Nat.Notation

set_option autoImplicit false

/-!
# Code that leaves early

A block of code that passes its steps one after the other and leaves at the first
that refuses. `Staged` says of the block which step that is and what it leaves;
the rules follow the code, and append the steps of its parts.
-/
namespace NssDrv.EarlyExit

variable {ι κ ε σ α β : Type}

/-- From `s` the code goes on into `Q`, or it leaves into `R`. -/
def Ends (p : EStateM ε σ α) (s : σ) (Q : α → σ → Prop) (R : ε → σ → Prop) : Prop :=
  match p s with
  | .ok a t => Q a t
  | .error e t => R e t

/-- The check that ends the code. -/
def refuse (c : Bool) (e : ε) : EStateM ε σ Unit := if c then throw e else pure ()

section Ends
variable {p : EStateM ε σ α} {f : α → EStateM ε σ β} {s t : σ} {a : α} {e : ε}
  {Q Q' : α → σ → Prop} {S : β → σ → Prop} {R R' : ε → σ → Prop}

theorem ends_ok (h : p s = .ok a t) : Ends p s Q R ↔ Q a t := by
  unfold Ends
  rw [h]

theorem ends_error (h : p s = .error e t) : Ends p s Q R ↔ R e t := by
  unfold Ends
  rw [h]

theorem ends_bind : Ends (p >>= f) s S R ↔ Ends p s (fun a t => Ends (f a) t S R) R := by
  unfold Ends
  change (match EStateM.bind p f s with | .ok b t => S b t | .error e t => R e t) ↔ _
  unfold EStateM.bind
  cases p s <;> rfl

theorem and_ok {p q : EStateM ε σ Bool} {b : Bool} (h : p s = .ok b t) :
    (p <&&> q) s = if b then q t else .ok false t := by
  change EStateM.bind p _ s = _
  unfold EStateM.bind
  rw [h]
  cases b <;> rfl

theorem or_ok {p q : EStateM ε σ Bool} {b : Bool} (h : p s = .ok b t) :
    (p <||> q) s = if b then .ok true t else q t := by
  change EStateM.bind p _ s = _
  unfold EStateM.bind
  rw [h]
  cases b <;> rfl

theorem refuse_off {c : Bool} {f : Unit → EStateM ε σ β} (h : c = true) :
    (refuse c e >>= f) s = .error e s := by
  subst h
  rfl

theorem refuse_on {c : Bool} {f : Unit → EStateM ε σ β} (h : c = false) :
    (refuse c e >>= f) s = f () s := by
  subst h
  rfl

theorem bind_ok (h : p s = .ok a t) : (p >>= f) s = f a t := by
  change EStateM.bind p f s = _
  unfold EStateM.bind
  rw [h]

theorem bind_error (h : p s = .error e t) : (p >>= f) s = .error e t := by
  change EStateM.bind p f s = _
  unfold EStateM.bind
  rw [h]

theorem Ends.mono (h : Ends p s Q R) (hok : ∀ a t, Q a t → Q' a t) (hoff : ∀ e t, R e t → R' e t) :
    Ends p s Q' R' := by
  unfold Ends at h ⊢
  cases hp : p s with
  | ok a t =>
    rw [hp] at h
    exact hok a t h
  | error e t =>
    rw [hp] at h
    exact hoff e t h

end Ends

/-- From `P` the code passes all of `steps` and ends in `Q`, or it leaves at the first of
    them that refuses, as `left` says of that step. -/
def Staged (refuses : ι → Bool) (left : ι → ε → σ → Prop) (steps : List ι) (p : EStateM ε σ α)
    (P : σ → Prop) (Q : α → σ → Prop) : Prop :=
  ∀ s, P s → Ends p s (fun a t => steps.find? refuses = none ∧ Q a t)
    (fun e t => ∃ i, steps.find? refuses = some i ∧ left i e t)

section Staged
variable {refuses : ι → Bool} {left : ι → ε → σ → Prop} {steps rest : List ι} {i : ι}
  {p : EStateM ε σ α} {f : α → EStateM ε σ β} {P P' : σ → Prop} {Q Q' : α → σ → Prop}
  {S : β → σ → Prop}

theorem Staged.mono (h : Staged refuses left steps p P Q) (hpre : ∀ s, P' s → P s)
    (hpost : ∀ a t, Q a t → Q' a t) : Staged refuses left steps p P' Q' := by
  intro s hs
  exact (h s (hpre s hs)).mono (fun a t ha => ⟨ha.1, hpost a t ha.2⟩) fun e t he => he

theorem Staged.bind (h : Staged refuses left steps p P Q)
    (hrest : ∀ a, Staged refuses left rest (f a) (Q a) S) :
    Staged refuses left (steps ++ rest) (p >>= f) P S := by
  intro s hs
  rw [ends_bind]
  refine (h s hs).mono (fun a t ha => ?_) (fun e t he => ?_)
  · have happend : (steps ++ rest).find? refuses = rest.find? refuses := by
      rw [List.find?_append, ha.1, Option.none_or]
    rw [happend]
    exact hrest a t ha.2
  · obtain ⟨i, hfind, hleft⟩ := he
    exact ⟨i, by rw [List.find?_append, hfind, Option.some_or], hleft⟩

theorem Staged.quiet (h : ∀ s, P s → ∃ a t, p s = .ok a t ∧ Q a t) :
    Staged refuses left [] p P Q := by
  intro s hs
  obtain ⟨a, t, hok, hQ⟩ := h s hs
  exact (ends_ok hok).mpr ⟨rfl, hQ⟩

theorem Staged.step (hno : refuses i = true → ∀ s, P s → ∃ e t, p s = .error e t ∧ left i e t)
    (hyes : refuses i = false → ∀ s, P s → ∃ a t, p s = .ok a t ∧ Q a t) :
    Staged refuses left [i] p P Q := by
  intro s hs
  cases hi : refuses i with
  | true =>
    obtain ⟨e, t, herror, hleft⟩ := hno hi s hs
    exact (ends_error herror).mpr ⟨i, by simp [hi], hleft⟩
  | false =>
    obtain ⟨a, t, hok, hQ⟩ := hyes hi s hs
    exact (ends_ok hok).mpr ⟨by simp [hi], hQ⟩

theorem Staged.check {c : Bool} {e : ε} (hc : refuses i = c)
    (hoff : c = true → ∀ s, P s → left i e s) :
    Staged refuses left [i] (refuse c e) P fun _ => P := by
  refine Staged.step (fun hno s hs => ?_) (fun hyes s hs => ?_)
  · have htrue : c = true := hc.symm.trans hno
    exact ⟨e, s, by rw [htrue]; rfl, hoff htrue s hs⟩
  · have hfalse : c = false := hc.symm.trans hyes
    exact ⟨(), s, by rw [hfalse]; rfl, hs⟩

theorem Staged.pad (before after : List ι) (h : Staged refuses left steps p P Q)
    (hbefore : ∀ i ∈ before, refuses i = false) (hafter : ∀ i ∈ after, refuses i = false) :
    Staged refuses left (before ++ (steps ++ after)) p P Q := by
  have hfind : (before ++ (steps ++ after)).find? refuses = steps.find? refuses := by
    have hfirst : before.find? refuses = none := by simpa using hbefore
    have hlast : after.find? refuses = none := by simpa using hafter
    rw [List.find?_append, List.find?_append, hfirst, hlast, Option.none_or, Option.or_none]
  unfold Staged
  rw [hfind]
  exact h

theorem Staged.skip (h : Staged refuses left [] p P Q) (hskip : ∀ i ∈ steps, refuses i = false) :
    Staged refuses left steps p P Q := by
  have hpad := h.pad steps [] hskip nofun
  rwa [List.append_nil, List.append_nil] at hpad

theorem Staged.when {c : Bool} {p : EStateM ε σ Unit} {Q : Unit → σ → Prop}
    (h : c = true → Staged refuses left steps p P Q)
    (hskip : c = false → (∀ i ∈ steps, refuses i = false) ∧ ∀ s, P s → Q () s) :
    Staged refuses left steps (if c then p else pure ()) P Q := by
  cases c with
  | true => exact h rfl
  | false =>
    exact Staged.skip (Staged.quiet fun s hs => ⟨(), s, rfl, (hskip rfl).2 s hs⟩) (hskip rfl).1

theorem Staged.forM {g : κ → List ι} {f : κ → EStateM ε σ Unit} (xs : List κ)
    (h : ∀ x, Staged refuses left (g x) (f x) P fun _ => P) :
    Staged refuses left (xs.flatMap g) (xs.forM f) P fun _ => P := by
  induction xs with
  | nil => exact Staged.quiet fun s hs => ⟨(), s, rfl, hs⟩
  | cons x xs ih => exact Staged.bind (h x) fun _ => ih

/-- A block that runs to its end has passed all its steps, and no other block does. -/
theorem Staged.passed (h : Staged refuses left steps p P Q) {s : σ} (hs : P s) :
    (∃ a t, p s = .ok a t) ↔ steps.find? refuses = none := by
  have hends := h s hs
  unfold Ends at hends
  cases hp : p s with
  | ok a t =>
    rw [hp] at hends
    exact ⟨fun _ => hends.1, fun _ => ⟨a, t, rfl⟩⟩
  | error e t =>
    rw [hp] at hends
    obtain ⟨i, hfind, -⟩ := hends
    simp [hfind]

theorem Staged.refused (h : Staged refuses left steps p P Q) {s t : σ} {e : ε} (hs : P s)
    (hp : p s = .error e t) : ∃ i, steps.find? refuses = some i ∧ left i e t :=
  (ends_error hp).mp (h s hs)

end Staged
end NssDrv.EarlyExit

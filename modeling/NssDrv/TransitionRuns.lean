import Mathlib.Logic.Relation

set_option autoImplicit false

/-!
# Runs of a labelled transition system

The invariant rule, guarded runs and forward simulation, for any state and
label type.
-/
namespace TransitionRuns
variable {σ τ ℓ : Type}

/-- A finite run from `s` to `t`, with the labels of its steps in order. -/
inductive Run (step : σ → ℓ → σ → Prop) : σ → List ℓ → σ → Prop where
  | refl (s : σ) : Run step s [] s
  | snoc {s t u : σ} {ls : List ℓ} {l : ℓ} (run : Run step s ls t) (last : step t l u) :
      Run step s (ls ++ [l]) u

/-- Some run from an initial state ends here. -/
def Reachable (init : σ → Prop) (step : σ → ℓ → σ → Prop) (t : σ) : Prop :=
  ∃ s ls, init s ∧ Run step s ls t

variable {init : σ → Prop} {step step' : σ → ℓ → σ → Prop} {s t u : σ} {l : ℓ} {ls ls' : List ℓ}

theorem Run.trans (h : Run step s ls t) (h' : Run step t ls' u) : Run step s (ls ++ ls') u := by
  induction h' with
  | refl => simpa using h
  | snoc _ last ih => simpa [← List.append_assoc] using ih.snoc last

theorem Run.single (h : step s l t) : Run step s [l] t := by simpa using (Run.refl s).snoc h

theorem Run.cons (h : step s l t) (h' : Run step t ls u) : Run step s (l :: ls) u := by
  simpa using (Run.single h).trans h'

theorem Run.mono (hstep : ∀ s l t, step s l t → step' s l t) (h : Run step s ls t) :
    Run step' s ls t := by
  induction h with
  | refl => exact .refl _
  | snoc _ last ih => exact ih.snoc (hstep _ _ _ last)

theorem Run.invariant (I : σ → Prop) (hstep : ∀ s l t, I s → step s l t → I t)
    (h : Run step s ls t) (hs : I s) : I t := by
  induction h with
  | refl => exact hs
  | snoc _ last ih => exact hstep _ _ _ ih last

theorem Run.nil_eq (h : Run step s [] t) : s = t := by
  generalize hm : [] = ms at h
  cases h with
  | refl => rfl
  | snoc => simp at hm

theorem Run.uncons (h : Run step s (l :: ls) u) : ∃ t, step s l t ∧ Run step t ls u := by
  generalize hm : l :: ls = ms at h
  induction h generalizing ls with
  | refl => cases hm
  | @snoc t u ms' l' run last ih =>
    cases ms' with
    | nil =>
      obtain ⟨rfl, rfl⟩ := List.cons.inj hm
      obtain rfl := run.nil_eq
      exact ⟨u, last, .refl u⟩
    | cons m ms' =>
      obtain ⟨rfl, rfl⟩ := List.cons.inj hm
      obtain ⟨v, hv, hrun⟩ := ih rfl
      exact ⟨v, hv, hrun.snoc last⟩

/-- An invariant of the steps with certain labels, over a run of these. -/
theorem Run.invariant_of_labels (ok : ℓ → Prop) (I : σ → Prop)
    (hstep : ∀ s l t, ok l → I s → step s l t → I t) (h : Run step s ls t)
    (hok : ∀ l ∈ ls, ok l) (hs : I s) : I t := by
  induction h with
  | refl => exact hs
  | snoc _ last ih =>
    have hlast := hok _ (List.mem_append_right _ (List.mem_singleton_self _))
    exact hstep _ _ _ hlast (ih fun l hl => hok l (List.mem_append_left _ hl)) last

theorem Reachable.start (h : init s) : Reachable init step s := ⟨s, [], h, .refl s⟩

theorem Reachable.next (h : Reachable init step s) (hs : step s l t) : Reachable init step t := by
  obtain ⟨r, ls, hr, run⟩ := h
  exact ⟨r, ls ++ [l], hr, run.snoc hs⟩

theorem Reachable.run (h : Reachable init step s) (hr : Run step s ls t) :
    Reachable init step t := by
  obtain ⟨r, ls₀, h₀, run⟩ := h
  exact ⟨r, ls₀ ++ ls, h₀, run.trans hr⟩

theorem Reachable.invariant (I : σ → Prop) (hinit : ∀ s, init s → I s)
    (hstep : ∀ s l t, I s → step s l t → I t) (h : Reachable init step s) : I s := by
  obtain ⟨r, ls, hr, run⟩ := h
  exact run.invariant I hstep (hinit r hr)

/-- The steps that meet a condition on the state before them and their label. -/
def Guarded (step : σ → ℓ → σ → Prop) (ok : σ → ℓ → Prop) (s : σ) (l : ℓ) (t : σ) : Prop :=
  step s l t ∧ ok s l

theorem Reachable.weaken {ok ok' : σ → ℓ → Prop} (h : Reachable init (Guarded step ok) s)
    (hok : ∀ s l, ok s l → ok' s l) : Reachable init (Guarded step ok') s := by
  obtain ⟨r, ls, hr, run⟩ := h
  exact ⟨r, ls, hr, run.mono fun _ _ _ h => ⟨h.1, hok _ _ h.2⟩⟩

theorem Reachable.unguarded {ok : σ → ℓ → Prop} (h : Reachable init (Guarded step ok) s) :
    Reachable init step s := by
  obtain ⟨r, ls, hr, run⟩ := h
  exact ⟨r, ls, hr, run.mono (fun _ _ _ h => h.1)⟩

/-- A fold whose every step meets a condition on the state before it. -/
def FoldGuard {ι : Type} (ok : σ → ι → Prop) (f : σ → ι → σ) : List ι → σ → Prop
  | [], _ => True
  | x :: xs, s => ok s x ∧ FoldGuard ok f xs (f s x)

/-- `J` holds all along the fold exactly when every step meets `ok`: while it
    does, the stronger `I` is kept, and the first step that does not breaks `J`. -/
theorem foldGuard_iff {ι : Type} {pre ok : σ → ι → Prop} {f : σ → ι → σ} (I J : σ → Prop)
    (himp : ∀ s, I s → J s) (hkeep : ∀ s x, I s → pre s x → ok s x → I (f s x))
    (hbreak : ∀ s x, I s → pre s x → J (f s x) → ok s x) {xs : List ι} {s : σ} (hs : I s)
    (hpre : FoldGuard pre f xs s) :
    (∀ ys, ys <+: xs → J (ys.foldl f s)) ↔ FoldGuard ok f xs s := by
  induction xs generalizing s with
  | nil =>
    constructor
    · exact fun _ => trivial
    · intro _ ys hys
      obtain rfl := List.prefix_nil.mp hys
      exact himp s hs
  | cons x xs ih =>
    constructor
    · intro hall
      have hok : ok s x := hbreak s x hs hpre.1 (hall [x] (by simp))
      refine ⟨hok, (ih (hkeep s x hs hpre.1 hok) hpre.2).mp fun ys hys => ?_⟩
      exact hall (x :: ys) ((List.cons_prefix_cons).mpr ⟨rfl, hys⟩)
    · rintro ⟨hok, hrest⟩ ys hys
      cases ys with
      | nil => exact himp s hs
      | cons y ys =>
        obtain ⟨rfl, htail⟩ := List.cons_prefix_cons.mp hys
        exact (ih (hkeep s y hs hpre.1 hok) hpre.2).mpr hrest ys htail

theorem FoldGuard.always {ι : Type} {f : σ → ι → σ} (xs : List ι) (s : σ) :
    FoldGuard (fun _ _ => True) f xs s := by
  induction xs generalizing s with
  | nil => trivial
  | cons x xs ih => exact ⟨trivial, ih (f s x)⟩

theorem FoldGuard.append {ι : Type} {ok : σ → ι → Prop} {f : σ → ι → σ} {xs ys : List ι} {s : σ}
    (h : FoldGuard ok f xs s) (h' : FoldGuard ok f ys (xs.foldl f s)) :
    FoldGuard ok f (xs ++ ys) s := by
  induction xs generalizing s with
  | nil => exact h'
  | cons x xs ih => exact ⟨h.1, ih h.2 h'⟩

theorem FoldGuard.and {ι : Type} {ok ok' : σ → ι → Prop} {f : σ → ι → σ} {xs : List ι} {s : σ}
    (h : FoldGuard ok f xs s) (h' : FoldGuard ok' f xs s) :
    FoldGuard (fun s x => ok s x ∧ ok' s x) f xs s := by
  induction xs generalizing s with
  | nil => trivial
  | cons x xs ih => exact ⟨⟨h.1, h'.1⟩, ih h.2 h'.2⟩

theorem FoldGuard.imp {ι : Type} {ok ok' : σ → ι → Prop} {f : σ → ι → σ} {xs : List ι} {s : σ}
    (himp : ∀ s x, ok s x → ok' s x) (h : FoldGuard ok f xs s) : FoldGuard ok' f xs s := by
  induction xs generalizing s with
  | nil => trivial
  | cons x xs ih => exact ⟨himp s x h.1, ih h.2⟩

/-- Two conditions that agree wherever an invariant holds that the first one keeps. -/
theorem FoldGuard.iff_of_invariant {ι : Type} {ok ok' : σ → ι → Prop} {f : σ → ι → σ}
    (I : σ → Prop) (hiff : ∀ s x, I s → (ok s x ↔ ok' s x))
    (hkeep : ∀ s x, I s → ok s x → I (f s x)) {xs : List ι} {s : σ} (hs : I s) :
    FoldGuard ok f xs s ↔ FoldGuard ok' f xs s := by
  induction xs generalizing s with
  | nil => exact Iff.rfl
  | cons x xs ih =>
    constructor
    · rintro ⟨hok, hrest⟩
      exact ⟨(hiff s x hs).mp hok, (ih (hkeep s x hs hok)).mp hrest⟩
    · rintro ⟨hok', hrest⟩
      have hok := (hiff s x hs).mpr hok'
      exact ⟨hok, (ih (hkeep s x hs hok)).mpr hrest⟩

end TransitionRuns

import Mathlib.Logic.Function.Basic
import NssDrv.SharedThread
import NssDrv.TransitionRuns

set_option autoImplicit false

/-!
# Pools of threads

Any number of threads over one shared state, each running one call after
another, beside an environment that is no thread. The rely-guarantee rule
reduces every interleaving to one statement about each call.
-/
namespace ThreadPool
open SharedThread TransitionRuns

structure Pool (ι σ α : Type) where
  shared : σ
  thread : ι → Proc σ α

inductive Label (ι σ α : Type) where
  | call (i : ι) (p : Proc σ α)
  | run (i : ι)
  | env

variable {ι σ α : Type} [DecidableEq ι]

inductive Step (Calls : ι → Proc σ α → Prop) (E : σ → σ → Prop) :
    Pool ι σ α → Label ι σ α → Pool ι σ α → Prop where
  | call {c : Pool ι σ α} {i : ι} {p : Proc σ α} {a : α} (idle : c.thread i = .ret a)
      (allowed : Calls i p) :
      Step Calls E c (.call i p) { c with thread := Function.update c.thread i p }
  | run {c : Pool ι σ α} {i : ι} {en : σ → Bool} {f : σ → σ} {k : σ → Proc σ α}
      (next : c.thread i = .act en f k) (enabled : en c.shared = true) :
      Step Calls E c (.run i) ⟨f c.shared, Function.update c.thread i (k c.shared)⟩
  | env {c : Pool ι σ α} {s : σ} (h : E c.shared s) : Step Calls E c .env { c with shared := s }

def Idle (init : σ → Prop) (c : Pool ι σ α) : Prop :=
  init c.shared ∧ ∀ i, ∃ a, c.thread i = .ret a

/-- What the threads may rely on and must guarantee. `I i` is what thread `i`
    knows between two calls, `Q i` what each of its calls returns with. -/
structure Discipline (Calls : ι → Proc σ α → Prop) (E : σ → σ → Prop)
    (R G : ι → σ → σ → Prop) (I : ι → σ → Prop) (Q : ι → α → σ → Prop) : Prop where
  others : ∀ i j, i ≠ j → ∀ s t, G i s t → R j s t
  env : ∀ i s t, E s t → R i s t
  idle : ∀ i a s, Q i a s → I i s
  calls : ∀ i p, Calls i p → ∀ s, I i s → Sat (R i) (G i) (Q i) p s

variable {Calls : ι → Proc σ α → Prop} {E : σ → σ → Prop} {R G : ι → σ → σ → Prop}
  {I : ι → σ → Prop} {Q : ι → α → σ → Prop}

def OnTrack (R G : ι → σ → σ → Prop) (Q : ι → α → σ → Prop) (c : Pool ι σ α) : Prop :=
  ∀ i, Sat (R i) (G i) (Q i) (c.thread i) c.shared

theorem Discipline.step (d : Discipline Calls E R G I Q) {c c' : Pool ι σ α} {l : Label ι σ α}
    (hc : OnTrack R G Q c) (h : Step Calls E c l c') : OnTrack R G Q c' := by
  cases h with
  | @call i p a idle allowed =>
    intro j
    by_cases hj : j = i
    · subst hj
      have hQ : Q j a c.shared := by
        have := hc j
        rw [idle] at this
        exact this _ .refl
      simpa using d.calls j p allowed _ (d.idle j a _ hQ)
    · simpa [hj] using hc j
  | @run i en f k next enabled =>
    have hi := hc i
    rw [next] at hi
    have hstep := hi _ .refl enabled
    intro j
    by_cases hj : j = i
    · subst hj
      simpa using hstep.2
    · have hR := d.others i j (Ne.symm hj) _ _ hstep.1
      simpa [hj] using (hc j).rely (.single hR)
  | env h => exact fun j => (hc j).rely (.single (d.env j _ _ h))

/-- Each step of the shared state is an access inside some thread's guarantee,
    a step of the environment, or none at all. -/
theorem Discipline.shared (_d : Discipline Calls E R G I Q) {c c' : Pool ι σ α}
    {l : Label ι σ α} (hc : OnTrack R G Q c) (h : Step Calls E c l c') :
    (∃ i, l = .run i ∧ G i c.shared c'.shared) ∨ (l = .env ∧ E c.shared c'.shared) ∨
      c'.shared = c.shared := by
  cases h with
  | call => exact .inr (.inr rfl)
  | @run i en f k next enabled =>
    have hi := hc i
    rw [next] at hi
    exact .inl ⟨i, rfl, (hi _ .refl enabled).1⟩
  | env h => exact .inr (.inl ⟨rfl, h⟩)

/-- What a call that began in `c` has established when it returns, whatever
    the other threads did meanwhile. -/
theorem Discipline.call_post (d : Discipline Calls E R G I Q) {c c' : Pool ι σ α} {i : ι}
    {p : Proc σ α} {a : α} {ls : List (Label ι σ α)} {Q' : α → σ → Prop} (hc : OnTrack R G Q c)
    (hp : Sat (R i) (G i) Q' p c.shared) (run : Run (Step Calls E) c (.call i p :: ls) c')
    (only : ∀ q, .call i q ∉ ls) (returned : c'.thread i = .ret a) : Q' a c'.shared := by
  obtain ⟨c₁, hcall, hrun⟩ := run.uncons
  let J (c : Pool ι σ α) := OnTrack R G Q c ∧ Sat (R i) (G i) Q' (c.thread i) c.shared
  have hJ : J c' := by
    refine hrun.invariant_of_labels (fun l => ∀ q, l ≠ .call i q) J ?_ ?_ ⟨d.step hc hcall, ?_⟩
    · rintro s l t hl ⟨hs, hi⟩ hstep
      refine ⟨d.step hs hstep, ?_⟩
      cases hstep with
      | @call j q b idle allowed =>
        have hj : i ≠ j := fun h => hl q (by rw [h])
        simpa [hj] using hi
      | @run j en f k next enabled =>
        have hG := hs j
        rw [next] at hG
        have hstep := hG _ .refl enabled
        by_cases hj : i = j
        · subst hj
          rw [next] at hi
          simpa using (hi _ .refl enabled).2
        · have hR := d.others j i (Ne.symm hj) _ _ hstep.1
          simpa [hj] using hi.rely (.single hR)
      | env h => exact hi.rely (.single (d.env i _ _ h))
    · intro l hl q hq
      exact only q (hq ▸ hl)
    · cases hcall
      simpa using hp
  have hret := hJ.2
  rw [returned] at hret
  exact hret _ .refl

theorem Discipline.onTrack (d : Discipline Calls E R G I Q) {init : σ → Prop}
    {c : Pool ι σ α} (hinit : ∀ i a s, init s → ∀ t, Relation.ReflTransGen (R i) s t → Q i a t)
    (h : Reachable (Idle init) (Step Calls E) c) : OnTrack R G Q c := by
  refine h.invariant (OnTrack R G Q) ?_ (fun _ _ _ => d.step)
  rintro c ⟨hs, idle⟩ i
  obtain ⟨a, ha⟩ := idle i
  rw [ha]
  exact hinit i a _ hs

/-- An assertion kept by every guarantee and by the environment holds in
    every reachable pool. -/
theorem Discipline.invariant (d : Discipline Calls E R G I Q) {init : σ → Prop} (P : σ → Prop)
    (hinit : ∀ i a s, init s → ∀ t, Relation.ReflTransGen (R i) s t → Q i a t)
    (hP : ∀ s, init s → P s) (hG : ∀ i s t, P s → G i s t → P t)
    (hE : ∀ s t, P s → E s t → P t) {c : Pool ι σ α}
    (h : Reachable (Idle init) (Step Calls E) c) : P c.shared := by
  have hboth : OnTrack R G Q c ∧ P c.shared := by
    refine h.invariant (fun c => OnTrack R G Q c ∧ P c.shared) ?_ ?_
    · exact fun c hc => ⟨d.onTrack hinit (.start hc), hP _ hc.1⟩
    · rintro c l c' ⟨hc, hp⟩ hstep
      refine ⟨d.step hc hstep, ?_⟩
      rcases d.shared hc hstep with ⟨i, _, hg⟩ | ⟨_, he⟩ | heq
      · exact hG i _ _ hp hg
      · exact hE _ _ hp he
      · exact heq ▸ hp
  exact hboth.2

/-- One scheduling decision, the environment's move given by a function. -/
inductive Order (ι σ α : Type) where
  | call (i : ι) (p : Proc σ α)
  | run (i : ι)
  | env (f : σ → σ)

def Pool.obey (c : Pool ι σ α) : Order ι σ α → Option (Pool ι σ α)
  | .call i p => match c.thread i with
    | .ret _ => some { c with thread := Function.update c.thread i p }
    | _ => none
  | .run i => match c.thread i with
    | .act en f k =>
      if en c.shared then some ⟨f c.shared, Function.update c.thread i (k c.shared)⟩ else none
    | _ => none
  | .env f => some { c with shared := f c.shared }

/-- Runs a schedule; `none` where it asks for a step that is not enabled. -/
def Pool.follow (c : Pool ι σ α) : List (Order ι σ α) → Option (Pool ι σ α)
  | [] => some c
  | o :: os => (c.obey o).bind fun c => c.follow os

/-- The schedule starts only calls of the pool and moves as the environment may. -/
def Order.Allowed (Calls : ι → Proc σ α → Prop) (E : σ → σ → Prop) : Order ι σ α → Prop
  | .call i p => Calls i p
  | .run _ => True
  | .env f => ∀ s, E s (f s)

def Order.label : Order ι σ α → Label ι σ α
  | .call i p => .call i p
  | .run i => .run i
  | .env _ => .env

theorem Pool.obey_step {c c' : Pool ι σ α} {o : Order ι σ α} (ho : o.Allowed Calls E)
    (h : c.obey o = some c') : Step Calls E c o.label c' := by
  cases o with
  | call i p =>
    cases hi : c.thread i with
    | ret a =>
      simp only [Pool.obey, hi, Option.some.injEq] at h
      subst h
      exact .call hi ho
    | halt => simp [Pool.obey, hi] at h
    | act en f k => simp [Pool.obey, hi] at h
  | run i =>
    cases hi : c.thread i with
    | ret a => simp [Pool.obey, hi] at h
    | halt => simp [Pool.obey, hi] at h
    | act en f k =>
      simp only [Pool.obey, hi] at h
      split at h
      · rename_i hen
        obtain rfl := Option.some.inj h
        exact .run hi hen
      · cases h
  | env f =>
    obtain rfl := Option.some.inj h
    exact .env (ho c.shared)

theorem Pool.follow_run {c c' : Pool ι σ α} {os : List (Order ι σ α)}
    (ho : ∀ o ∈ os, o.Allowed Calls E) (h : c.follow os = some c') :
    Run (Step Calls E) c (os.map Order.label) c' := by
  induction os generalizing c with
  | nil =>
    obtain rfl := Option.some.inj h
    exact .refl _
  | cons o os ih =>
    simp only [Pool.follow, Option.bind_eq_some_iff] at h
    obtain ⟨c₁, h₁, hrest⟩ := h
    have hstep := Pool.obey_step (ho o (List.mem_cons_self ..)) h₁
    exact .cons hstep (ih (fun o ho' => ho o (List.mem_cons_of_mem _ ho')) hrest)

theorem Pool.exec_run {p : Proc σ α} {i : ι} {c : Pool ι σ α} {a : α} {s : σ}
    (thread : c.thread i = p) (h : p.exec c.shared = some (a, s)) :
    ∃ ls, Run (Step Calls E) c ls ⟨s, Function.update c.thread i (.ret a)⟩ := by
  induction p generalizing c with
  | ret b =>
    cases h
    rw [← thread, Function.update_eq_self]
    exact ⟨[], .refl _⟩
  | halt => cases h
  | act en f k ih =>
    rw [Proc.exec_act] at h
    split at h
    · rename_i hen
      have hstep : Step Calls E c (.run i)
          ⟨f c.shared, Function.update c.thread i (k c.shared)⟩ := .run thread hen
      obtain ⟨ls, hrun⟩ := ih c.shared (c := ⟨f c.shared, Function.update c.thread i (k c.shared)⟩)
        (Function.update_self ..) h
      rw [Function.update_idem] at hrun
      exact ⟨_, .cons hstep hrun⟩
    · cases h

end ThreadPool

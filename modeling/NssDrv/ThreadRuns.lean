import Mathlib.Logic.Function.Basic
import Mathlib.Logic.IsEmpty.Defs
import NssDrv.CallTree
import NssDrv.TransitionRuns

set_option autoImplicit false

/-!
# Calls over a shared state

Any number of callers beside each other, each call with a monitor of its own, or
one call alone from its start to its return.
-/
namespace ThreadRuns
open CallTree TransitionRuns
variable {σ κ θ α T ι : Type} {A : θ → Type}

/-- `effect` is what an event of a caller requires of the shared state and does
    to it, and `monitor` what the caller knows and holds after the event. -/
structure System (σ κ : Type) {θ : Type} (A : θ → Type) (α T ι : Type) where
  Calls : Call κ A α → Prop
  effect : σ → ι → Event κ A → σ → Prop
  idle : T
  monitor : T → Event κ A → T

structure Threads (σ κ : Type) {θ : Type} (A : θ → Type) (α T ι : Type) where
  shared : σ
  calls : ι → Call κ A α
  stage : ι → T

inductive Label (κ : Type) {θ : Type} (A : θ → Type) (ι : Type) where
  | start (i : ι)
  | event (i : ι) (e : Event κ A)

variable {S : System σ κ A α T ι}

/-- The system in which every event meets a condition on the shared state. -/
def System.guarded (S : System σ κ A α T ι) (ok : σ → ι → Event κ A → Prop) : System σ κ A α T ι :=
  { S with effect := fun s i e t => S.effect s i e t ∧ ok s i e }

def Heeds (ok : σ → ι → Event κ A → Prop) (w : Threads σ κ A α T ι) : Label κ A ι → Prop
  | .start _ => True
  | .event i e => ok w.shared i e

theorem always_stuck {step : T → Event κ A → T} {P : T → Prop} {Q : α → T → Prop} {stage : T}
    (hstuck : ∀ e, step stage e = stage) (hP : P stage) (hQ : ∀ a, Q a stage) (p : Call κ A α) :
    Always step P Q p stage := by
  have hbody : ∀ body : List κ,
      Throughout step P body stage ∧ after step body stage = stage := by
    intro body
    induction body with
    | nil => exact ⟨hP, rfl⟩
    | cons c body ih =>
      unfold after at ih ⊢
      rw [Throughout, List.foldl_cons, hstuck]
      exact ⟨⟨hP, ih.1⟩, ih.2⟩
  induction p with
  | ret a => exact .ret hP (hQ a)
  | tell c k ih => exact .tell hP ((hstuck _).symm ▸ ih)
  | ask q k ih => exact .ask hP fun a => (hstuck _).symm ▸ ih a
  | loop q again body k ih =>
    refine ⟨fun t => t = stage, rfl, ?_⟩
    rintro t rfl
    simp only [hstuck]
    exact ⟨hP, fun _ _ => ih, fun _ _ => hbody body⟩

section Steps
variable [DecidableEq ι]

inductive Step (S : System σ κ A α T ι) :
    Threads σ κ A α T ι → Label κ A ι → Threads σ κ A α T ι → Prop where
  | start (w : Threads σ κ A α T ι) (i : ι) (p : Call κ A α) (a : α) (hidle : w.calls i = .ret a)
      (hcall : S.Calls p) :
      Step S w (.start i)
        { w with
          calls := Function.update w.calls i p
          stage := Function.update w.stage i S.idle }
  | event (w : Threads σ κ A α T ι) (i : ι) (e : Event κ A) (p : Call κ A α) (t : σ)
      (hnext : Next (w.calls i) e p) (heffect : S.effect w.shared i e t) :
      Step S w (.event i e)
        { shared := t
          calls := Function.update w.calls i p
          stage := Function.update w.stage i (S.monitor (w.stage i) e) }

theorem Step.tell {w : Threads σ κ A α T ι} (i : ι) {c : κ} {k : Call κ A α} {t : σ}
    (hcall : w.calls i = .tell c k) (heffect : S.effect w.shared i (.did c) t) :
    Step S w (.event i (.did c))
      ⟨t, Function.update w.calls i k,
        Function.update w.stage i (S.monitor (w.stage i) (.did c))⟩ :=
  .event w i (.did c) k t (.of_tell hcall) heffect

theorem Step.ask {w : Threads σ κ A α T ι} (i : ι) {q : θ} {k : A q → Call κ A α} {t : σ} (a : A q)
    (hcall : w.calls i = .ask q k) (heffect : S.effect w.shared i (.saw q a) t) :
    Step S w (.event i (.saw q a))
      ⟨t, Function.update w.calls i (k a),
        Function.update w.stage i (S.monitor (w.stage i) (.saw q a))⟩ :=
  .event w i (.saw q a) (k a) t (.of_ask a hcall) heffect

/-- A start of the shared state, and every caller has returned. -/
structure Start (S : System σ κ A α T ι) (init : σ → Prop) (w : Threads σ κ A α T ι) : Prop where
  shared : init w.shared
  calls : ∀ i, ∃ a, w.calls i = .ret a
  stage : ∀ i, w.stage i = S.idle

/-- The monitors of the calls stay in `P` and return in `Q`, and with that every
    event keeps what is said of the shared state and of the stages of all callers. -/
structure Keeps (S : System σ κ A α T ι) (P Q : T → Prop) (I : σ → (ι → T) → Prop) : Prop where
  idle : P S.idle ∧ Q S.idle
  calls : ∀ p, S.Calls p → Always S.monitor P (fun _ => Q) p S.idle
  returned : ∀ s st i, I s st → Q (st i) → st i = S.idle
  event : ∀ s st i e t, P (st i) → P (S.monitor (st i) e) → S.effect s i e t → I s st →
    I t (Function.update st i (S.monitor (st i) e))

/-- What the rule gives in every state of a run. -/
structure Monitored (S : System σ κ A α T ι) (P Q : T → Prop) (I : σ → (ι → T) → Prop)
    (w : Threads σ κ A α T ι) : Prop where
  staged : ∀ i, Always S.monitor P (fun _ => Q) (w.calls i) (w.stage i)
  inv : I w.shared w.stage

variable {P Q : T → Prop} {I : σ → (ι → T) → Prop} {w w' : Threads σ κ A α T ι} {l : Label κ A ι}

theorem Monitored.step (h : Monitored S P Q I w) (hkeeps : Keeps S P Q I) (hstep : Step S w l w') :
    Monitored S P Q I w' := by
  cases hstep with
  | start i p a hidle hcall =>
    have hstage : w.stage i = S.idle := by
      have hreturned := h.staged i
      rw [hidle] at hreturned
      exact hkeeps.returned _ _ _ h.inv hreturned.2
    constructor
    · intro j
      by_cases hj : j = i
      · subst hj
        dsimp only
        rw [Function.update_self, Function.update_self]
        exact hkeeps.calls p hcall
      · dsimp only
        rw [Function.update_of_ne hj, Function.update_of_ne hj]
        exact h.staged j
    · dsimp only
      rw [← hstage, Function.update_eq_self]
      exact h.inv
  | event i e p t hnext heffect =>
    constructor
    · intro j
      by_cases hj : j = i
      · subst hj
        dsimp only
        rw [Function.update_self, Function.update_self]
        exact (h.staged j).next hnext
      · dsimp only
        rw [Function.update_of_ne hj, Function.update_of_ne hj]
        exact h.staged j
    · exact hkeeps.event _ _ i e t (h.staged i).here ((h.staged i).next hnext).here heffect h.inv

theorem Start.monitored {init : σ → Prop} (h : Start S init w) (hkeeps : Keeps S P Q I)
    (hinit : ∀ s, init s → I s fun _ => S.idle) : Monitored S P Q I w := by
  have hstage : w.stage = fun _ => S.idle := funext h.stage
  constructor
  · intro i
    obtain ⟨a, ha⟩ := h.calls i
    rw [ha, hstage]
    exact .ret hkeeps.idle.1 hkeeps.idle.2
  · rw [hstage]
    exact hinit _ h.shared

theorem Keeps.reachable {init : σ → Prop} (hkeeps : Keeps S P Q I)
    (hinit : ∀ s, init s → I s fun _ => S.idle) (h : Reachable (Start S init) (Step S) w) :
    Monitored S P Q I w := by
  refine h.invariant (Monitored S P Q I) (fun w hw => hw.monitored hkeeps hinit) ?_
  intro w l w' hw hstep
  exact hw.step hkeeps hstep

theorem Keeps.heeded {ok : σ → ι → Event κ A → Prop} {init : σ → Prop}
    (hkeeps : Keeps (S.guarded ok) P Q I) (hinit : ∀ s, init s → I s fun _ => S.idle)
    (h : Reachable (Start S init) (Guarded (Step S) (Heeds ok)) w) :
    Monitored (S.guarded ok) P Q I w := by
  refine h.invariant (Monitored (S.guarded ok) P Q I) (fun w hw => ?_) ?_
  · have hstart : Start (S.guarded ok) init w := ⟨hw.shared, hw.calls, hw.stage⟩
    exact hstart.monitored hkeeps hinit
  · intro w l w' hw ⟨hstep, hok⟩
    refine hw.step hkeeps (l := l) ?_
    cases hstep with
    | start i p a hidle hcall => exact .start w i p a hidle hcall
    | event i e p t hnext heffect => exact .event w i e p t hnext ⟨heffect, hok⟩

end Steps

/-- A call alone: `none` where it comes to a query that has no answer. -/
inductive Exec (effect : σ → Event κ A → σ → Prop) : σ → Call κ A α → σ → Option α → Prop where
  | ret (s : σ) (a : α) : Exec effect s (.ret a) s (some a)
  | halt (s : σ) (q : θ) (k : A q → Call κ A α) (hq : IsEmpty (A q)) :
      Exec effect s (.ask q k) s none
  | next {s t u : σ} {p p' : Call κ A α} {e : Event κ A} {r : Option α} (hnext : Next p e p')
      (heffect : effect s e t) (rest : Exec effect t p' u r) : Exec effect s p u r

variable {effect : σ → Event κ A → σ → Prop} {s u : σ} {r : Option α}

theorem Exec.tell {t : σ} {p k : Call κ A α} {c : κ} (hcall : p = .tell c k)
    (heffect : effect s (.did c) t) (rest : Exec effect t k u r) : Exec effect s p u r :=
  .next (.of_tell hcall) heffect rest

theorem Exec.ask {t : σ} {p : Call κ A α} {q : θ} {k : A q → Call κ A α} (a : A q)
    (hcall : p = .ask q k) (heffect : effect s (.saw q a) t) (rest : Exec effect t (k a) u r) :
    Exec effect s p u r :=
  .next (.of_ask a hcall) heffect rest

theorem Exec.done {a : α} (h : s = u) : Exec effect s (.ret a : Call κ A α) u (some a) :=
  h ▸ .ret s a

theorem exec_ret {a : α} (h : Exec effect s (.ret a : Call κ A α) u r) : u = s ∧ r = some a := by
  cases h with
  | ret => exact ⟨rfl, rfl⟩
  | next hnext => cases hnext

theorem exec_tell {c : κ} {k : Call κ A α} (h : Exec effect s (.tell c k) u r) :
    ∃ t, effect s (.did c) t ∧ Exec effect t k u r := by
  cases h with
  | next hnext heffect rest =>
    obtain ⟨rfl, rfl⟩ := next_tell hnext
    exact ⟨_, heffect, rest⟩

theorem exec_ask {q : θ} {k : A q → Call κ A α} (h : Exec effect s (.ask q k) u r) :
    (u = s ∧ r = none ∧ IsEmpty (A q)) ∨
      ∃ a t, effect s (.saw q a) t ∧ Exec effect t (k a) u r := by
  cases h with
  | halt _ _ _ hq => exact .inl ⟨rfl, rfl, hq⟩
  | next hnext heffect rest =>
    obtain ⟨a, rfl, rfl⟩ := next_ask hnext
    exact .inr ⟨a, _, heffect, rest⟩

theorem tells_bind {β : Type} (body : List κ) (p : Call κ A β) (g : β → Call κ A α) :
    (Call.tells body p).bind g = Call.tells body (p.bind g) := by
  induction body with
  | nil => rfl
  | cons c body ih => exact congrArg (Call.tell c) ih

theorem next_bind {β : Type} {p : Call κ A β} {g : β → Call κ A α} {e : Event κ A}
    {p' : Call κ A α} (h : Next (p.bind g) e p') :
    (∃ b, p = .ret b) ∨ ∃ p'', Next p e p'' ∧ p' = p''.bind g := by
  cases p with
  | ret b => exact .inl ⟨b, rfl⟩
  | tell c k =>
    obtain ⟨rfl, rfl⟩ := next_tell h
    exact .inr ⟨k, .tell c k, rfl⟩
  | ask q k =>
    obtain ⟨a, rfl, rfl⟩ := next_ask h
    exact .inr ⟨k a, .ask q k a, rfl⟩
  | loop q again body k =>
    obtain ⟨a, rfl, rfl⟩ := next_loop h
    by_cases hmore : again a = true
    · rw [if_pos hmore]
      exact .inr ⟨_, .again q again body k a hmore, (tells_bind body (.loop q again body k) g).symm⟩
    · rw [if_neg hmore]
      exact .inr ⟨_, .leave q again body k a (Bool.eq_false_iff.mpr hmore), rfl⟩

theorem exec_bind {β : Type} {p : Call κ A β} {g : β → Call κ A α}
    (h : Exec effect s (p.bind g) u r) :
    (∃ t b, Exec effect s p t (some b) ∧ Exec effect t (g b) u r) ∨
      (Exec effect s p u none ∧ r = none) := by
  generalize hq : p.bind g = q at h
  induction h generalizing p with
  | ret s a =>
    cases p with
    | ret b =>
      have hq : g b = .ret a := hq
      exact .inl ⟨s, b, .ret s b, hq ▸ .ret s a⟩
    | _ => cases hq
  | halt s q k hempty =>
    cases p with
    | ret b =>
      have hq : g b = .ask q k := hq
      exact .inl ⟨s, b, .ret s b, hq ▸ .halt s q k hempty⟩
    | ask q' k' =>
      obtain ⟨rfl, -⟩ := Call.ask.inj hq
      exact .inr ⟨.halt s q' k' hempty, rfl⟩
    | _ => cases hq
  | next hnext heffect rest ih =>
    subst hq
    rcases next_bind hnext with ⟨b, rfl⟩ | ⟨p'', hp, rfl⟩
    · exact .inl ⟨_, b, .ret _ b, .next hnext heffect rest⟩
    · rcases ih rfl with ⟨t, b, hexec, hrest⟩ | ⟨hexec, hnone⟩
      · exact .inl ⟨t, b, .next hp heffect hexec, hrest⟩
      · exact .inr ⟨.next hp heffect hexec, hnone⟩

end ThreadRuns

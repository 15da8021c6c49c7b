import Mathlib.Logic.Relation

set_option autoImplicit false

/-!
# Calls as trees of commands and queries

A call tells its surroundings commands and asks them queries. Its paths are what
it does under any answers, and a monitor reads a path event by event.
-/
namespace CallTree
variable {κ θ : Type} {A : θ → Type} {α β S : Type}

/-- `loop q again body k` asks `q` and runs `body` as long as `again` says so. -/
inductive Call (κ : Type) {θ : Type} (A : θ → Type) (α : Type) where
  | ret (a : α)
  | tell (c : κ) (k : Call κ A α)
  | ask (q : θ) (k : A q → Call κ A α)
  | loop (q : θ) (again : A q → Bool) (body : List κ) (k : Call κ A α)

inductive Event (κ : Type) {θ : Type} (A : θ → Type) where
  | did (c : κ)
  | saw (q : θ) (a : A q)

namespace Call

def bind : Call κ A α → (α → Call κ A β) → Call κ A β
  | .ret a, g => g a
  | .tell c k, g => .tell c (k.bind g)
  | .ask q k, g => .ask q fun a => (k a).bind g
  | .loop q again body k, g => .loop q again body (k.bind g)

instance : Monad (Call κ A) where
  pure := .ret
  bind := .bind

def command (c : κ) : Call κ A Unit := .tell c (.ret ())

def query (q : θ) : Call κ A (A q) := .ask q .ret

def whileLoop (q : θ) (again : A q → Bool) (body : List κ) : Call κ A Unit :=
  .loop q again body (.ret ())

/-- Some commands one after the other. -/
def tells (body : List κ) (k : Call κ A α) : Call κ A α := body.foldr .tell k

@[simp] theorem pure_eq (a : α) : (pure a : Call κ A α) = .ret a := rfl
@[simp] theorem bind_eq (p : Call κ A α) (g : α → Call κ A β) : (p >>= g) = p.bind g := rfl
@[simp] theorem ret_bind (a : α) (g : α → Call κ A β) : (Call.ret a).bind g = g a := rfl
@[simp] theorem command_bind (c : κ) (g : Unit → Call κ A β) :
    (command c : Call κ A Unit).bind g = .tell c (g ()) := rfl
@[simp] theorem query_bind (q : θ) (g : A q → Call κ A β) :
    (query q : Call κ A (A q)).bind g = .ask q g := rfl
@[simp] theorem whileLoop_bind (q : θ) (again : A q → Bool) (body : List κ)
    (g : Unit → Call κ A β) :
    (whileLoop q again body : Call κ A Unit).bind g = .loop q again body (g ()) := rfl

theorem bind_bind {γ : Type} (p : Call κ A α) (f : α → Call κ A β) (g : β → Call κ A γ) :
    (p.bind f).bind g = p.bind fun a => (f a).bind g := by
  induction p with
  | ret a => rfl
  | tell c k ih => exact congrArg (Call.tell c) ih
  | ask q k ih =>
    apply congrArg (Call.ask q)
    funext a
    exact ih a
  | loop q again body k ih => exact congrArg (Call.loop q again body) ih

theorem bind_ret (p : Call κ A α) : p.bind .ret = p := by
  induction p with
  | ret a => rfl
  | tell c k ih => exact congrArg (Call.tell c) ih
  | ask q k ih =>
    apply congrArg (Call.ask q)
    funext a
    exact ih a
  | loop q again body k ih => exact congrArg (Call.loop q again body) ih

instance : LawfulMonad (Call κ A) :=
  LawfulMonad.mk' _ bind_ret (fun _ _ => rfl) bind_bind

end Call

/-- The events of a call under some answers, up to its return or to a point
    where it has not returned. -/
inductive Path : Call κ A α → List (Event κ A) → Option α → Prop where
  | stop (p : Call κ A α) : Path p [] none
  | ret (a : α) : Path (.ret a) [] (some a)
  | tell {c : κ} {k : Call κ A α} {evs : List (Event κ A)} {r : Option α} (rest : Path k evs r) :
      Path (.tell c k) (.did c :: evs) r
  | ask {q : θ} {k : A q → Call κ A α} (a : A q) {evs : List (Event κ A)} {r : Option α}
      (rest : Path (k a) evs r) : Path (.ask q k) (.saw q a :: evs) r
  | again {q : θ} {again : A q → Bool} {body : List κ} {k : Call κ A α} (a : A q)
      {evs : List (Event κ A)} {r : Option α} (more : again a = true)
      (rest : Path (Call.tells body (.loop q again body k)) evs r) :
      Path (.loop q again body k) (.saw q a :: evs) r
  | leave {q : θ} {again : A q → Bool} {body : List κ} {k : Call κ A α} (a : A q)
      {evs : List (Event κ A)} {r : Option α} (done : again a = false) (rest : Path k evs r) :
      Path (.loop q again body k) (.saw q a :: evs) r

/-- One event of a call that runs beside others. -/
inductive Next : Call κ A α → Event κ A → Call κ A α → Prop where
  | tell (c : κ) (k : Call κ A α) : Next (.tell c k) (.did c) k
  | ask (q : θ) (k : A q → Call κ A α) (a : A q) : Next (.ask q k) (.saw q a) (k a)
  | again (q : θ) (again : A q → Bool) (body : List κ) (k : Call κ A α) (a : A q)
      (more : again a = true) :
      Next (.loop q again body k) (.saw q a) (Call.tells body (.loop q again body k))
  | leave (q : θ) (again : A q → Bool) (body : List κ) (k : Call κ A α) (a : A q)
      (done : again a = false) : Next (.loop q again body k) (.saw q a) k

theorem next_tell {c : κ} {k p : Call κ A α} {e : Event κ A} (h : Next (.tell c k) e p) :
    e = .did c ∧ p = k := by
  cases h
  exact ⟨rfl, rfl⟩

theorem next_ask {q : θ} {k : A q → Call κ A α} {p : Call κ A α} {e : Event κ A}
    (h : Next (.ask q k) e p) : ∃ a, e = .saw q a ∧ p = k a := by
  cases h with
  | ask _ _ a => exact ⟨a, rfl, rfl⟩

theorem Next.of_tell {c : κ} {k p : Call κ A α} (h : p = .tell c k) : Next p (.did c) k :=
  h ▸ .tell c k

theorem Next.of_ask {q : θ} {k : A q → Call κ A α} {p : Call κ A α} (a : A q)
    (h : p = .ask q k) : Next p (.saw q a) (k a) := h ▸ .ask q k a

theorem next_loop {q : θ} {again : A q → Bool} {body : List κ} {k p : Call κ A α} {e : Event κ A}
    (h : Next (.loop q again body k) e p) :
    ∃ a, e = .saw q a ∧
      p = if again a then Call.tells body (.loop q again body k) else k := by
  cases h with
  | again _ _ _ _ a more => exact ⟨a, rfl, (if_pos more).symm⟩
  | leave _ _ _ _ a done => exact ⟨a, rfl, (if_neg (Bool.eq_false_iff.mp done)).symm⟩

/-- `P` before each command and after the last one. -/
def Throughout (step : S → Event κ A → S) (P : S → Prop) : List κ → S → Prop
  | [], s => P s
  | c :: body, s => P s ∧ Throughout step P body (step s (.did c))

def after (step : S → Event κ A → S) (body : List κ) (s : S) : S :=
  body.foldl (fun s c => step s (.did c)) s

/-- On every path the monitor stays in `P` and is in `Q a` where the call
    returns `a`. A loop needs an invariant of the monitor. -/
def Always (step : S → Event κ A → S) (P : S → Prop) (Q : α → S → Prop) :
    Call κ A α → S → Prop
  | .ret a, s => P s ∧ Q a s
  | .tell c k, s => P s ∧ Always step P Q k (step s (.did c))
  | .ask q k, s => P s ∧ ∀ a, Always step P Q (k a) (step s (.saw q a))
  | .loop q again body k, s => ∃ I : S → Prop, I s ∧ ∀ t, I t → P t ∧
      (∀ a, again a = false → Always step P Q k (step t (.saw q a))) ∧
      ∀ a, again a = true → Throughout step P body (step t (.saw q a)) ∧
        I (after step body (step t (.saw q a)))

namespace Always
variable {step : S → Event κ A → S} {P : S → Prop} {Q : α → S → Prop} {p : Call κ A α} {s : S}
  {body : List κ}

theorem ret {a : α} (hP : P s) (hQ : Q a s) : Always step P Q (.ret a : Call κ A α) s := ⟨hP, hQ⟩

theorem tell {c : κ} (hP : P s) (h : Always step P Q p (step s (.did c))) :
    Always step P Q (.tell c p) s :=
  ⟨hP, h⟩

theorem of_eq {t : S} (hst : s = t) (h : Always step P Q p t) : Always step P Q p s := hst ▸ h

theorem ask {q : θ} {k : A q → Call κ A α} (hP : P s)
    (h : ∀ a, Always step P Q (k a) (step s (.saw q a))) : Always step P Q (.ask q k) s :=
  ⟨hP, h⟩

theorem ite {c : Prop} [Decidable c] {p' : Call κ A α} (h : c → Always step P Q p s)
    (h' : ¬ c → Always step P Q p' s) : Always step P Q (if c then p else p') s := by
  split
  · exact h ‹c›
  · exact h' ‹¬ c›

theorem here (h : Always step P Q p s) : P s := by
  cases p with
  | ret a => exact h.1
  | tell c k => exact h.1
  | ask q k => exact h.1
  | loop q again body k =>
    obtain ⟨I, hs, hI⟩ := h
    exact (hI s hs).1

theorem tells (hbody : Throughout step P body s) (hp : Always step P Q p (after step body s)) :
    Always step P Q (Call.tells body p) s := by
  induction body generalizing s with
  | nil => exact hp
  | cons c body ih => exact ⟨hbody.1, ih hbody.2 hp⟩

theorem bind {Q' : β → S → Prop} {g : α → Call κ A β} (h : Always step P Q p s)
    (hg : ∀ a t, Q a t → Always step P Q' (g a) t) : Always step P Q' (p.bind g) s := by
  induction p generalizing s with
  | ret a => exact hg a s h.2
  | tell c k ih => exact ⟨h.1, ih h.2⟩
  | ask q k ih => exact ⟨h.1, fun a => ih a (h.2 a)⟩
  | loop q again body k ih =>
    obtain ⟨I, hs, hI⟩ := h
    refine ⟨I, hs, fun t ht => ⟨(hI t ht).1, fun a done => ?_, (hI t ht).2.2⟩⟩
    exact ih ((hI t ht).2.1 a done)

theorem next {p' : Call κ A α} {e : Event κ A} (h : Always step P Q p s) (hnext : Next p e p') :
    Always step P Q p' (step s e) := by
  cases hnext with
  | tell c k => exact h.2
  | ask q k a => exact h.2 a
  | again q again body k a more =>
    obtain ⟨I, hs, hI⟩ := h
    obtain ⟨hbody, hafter⟩ := (hI s hs).2.2 a more
    exact tells hbody ⟨I, hafter, hI⟩
  | leave q again body k a done =>
    obtain ⟨I, hs, hI⟩ := h
    exact (hI s hs).2.1 a done

theorem path {evs : List (Event κ A)} {r : Option α} (hpath : Path p evs r)
    (h : Always step P Q p s) :
    P (evs.foldl step s) ∧ ∀ a, r = some a → Q a (evs.foldl step s) := by
  induction hpath generalizing s with
  | stop p => exact ⟨h.here, fun a hr => by cases hr⟩
  | ret a =>
    refine ⟨h.1, fun b hr => ?_⟩
    cases hr
    exact h.2
  | tell rest ih => exact ih h.2
  | ask a rest ih => exact ih (h.2 a)
  | again a more rest ih =>
    obtain ⟨I, hs, hI⟩ := h
    obtain ⟨hbody, hafter⟩ := (hI s hs).2.2 a more
    exact ih (tells hbody ⟨I, hafter, hI⟩)
  | leave a done rest ih =>
    obtain ⟨I, hs, hI⟩ := h
    exact ih ((hI s hs).2.1 a done)

end Always

end CallTree

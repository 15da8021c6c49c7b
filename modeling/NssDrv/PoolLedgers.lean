import Mathlib.Algebra.BigOperators.Group.Multiset.Basic
import Mathlib.Algebra.BigOperators.Pi
import Mathlib.Tactic.Abel
import NssDrv.ThreadPool

set_option autoImplicit false

/-!
# The ledger of a pool

A quantity of the shared state to which every call adds an amount of its own,
in as many accesses as it likes. However the calls are interleaved, what has
been added is what the finished calls owed and what the others have paid so far.
-/
namespace PoolLedgers
open SharedThread ThreadPool TransitionRuns

section Calls
variable {σ τ α β M : Type} [AddCommGroup M]

/-- A thread that has paid `paid` before pays the rest of what it owes for its answer, and every
    access keeps `I`. -/
def Pays (I : σ → Prop) (g : σ → M) (owed : α → M → Prop) : M → Proc σ α → Prop
  | paid, .ret a => owed a paid
  | _, .halt => True
  | paid, .act en f k => ∀ s, I s → en s = true →
      I (f s) ∧ Pays I g owed (paid + (g (f s) - g s)) (k s)

variable {I : σ → Prop} {g : σ → M} {owed owed' : α → M → Prop} {paid : M} {p : Proc σ α}

theorem Pays.act {en : σ → Bool} {f : σ → σ} {k : σ → Proc σ α} (d : M)
    (hI : ∀ s, I s → I (f s)) (hf : ∀ s, I s → g (f s) = g s + d)
    (hk : ∀ s, I s → Pays I g owed (paid + d) (k s)) : Pays I g owed paid (.act en f k) := by
  intro s hs _
  refine ⟨hI s hs, ?_⟩
  rw [hf s hs, add_sub_cancel_left]
  exact hk s hs

theorem Pays.keep {en : σ → Bool} {f : σ → σ} {k : σ → Proc σ α} (hI : ∀ s, I s → I (f s))
    (hf : ∀ s, I s → g (f s) = g s) (hk : ∀ s, I s → Pays I g owed paid (k s)) :
    Pays I g owed paid (.act en f k) := by
  refine .act 0 hI (fun s hs => by rw [hf s hs, add_zero]) fun s hs => ?_
  rw [add_zero]
  exact hk s hs

theorem Pays.read {f : σ → β} {k : β → Proc σ α} (hk : ∀ s, I s → Pays I g owed paid (k (f s))) :
    Pays I g owed paid (Proc.read f >>= k) := .keep (fun _ h => h) (fun _ _ => rfl) hk

theorem Pays.mono (h : Pays I g owed paid p) (ho : ∀ a d, owed a d → owed' a d) :
    Pays I g owed' paid p := by
  induction p generalizing paid with
  | ret a => exact ho a paid h
  | halt => trivial
  | act en f k ih =>
    intro s hs hen
    obtain ⟨hI, hrest⟩ := h s hs hen
    exact ⟨hI, ih s hrest⟩

theorem Pays.bind {owed' : β → M → Prop} {q : α → Proc σ β} (h : Pays I g owed paid p)
    (hq : ∀ a d, owed a d → Pays I g owed' d (q a)) : Pays I g owed' paid (p.bind q) := by
  induction p generalizing paid with
  | ret a => exact hq a paid h
  | halt => trivial
  | act en f k ih =>
    intro s hs hen
    obtain ⟨hI, hrest⟩ := h s hs hen
    exact ⟨hI, ih s hrest⟩

theorem Pays.zoom {get : σ → τ} {set : τ → σ → σ} {J : τ → Prop} {h : τ → M} {q : Proc τ α}
    (hq : Pays J h owed paid q) (hJ : ∀ s, I s → J (get s))
    (hI : ∀ s x, I s → J x → I (set x s))
    (hg : ∀ s x, I s → J x → g (set x s) - g s = h x - h (get s)) :
    Pays I g owed paid (q.zoom get set) := by
  induction q generalizing paid with
  | ret a => exact hq
  | halt => trivial
  | act en f k ih =>
    intro s hs hen
    obtain ⟨hx, hrest⟩ := hq (get s) (hJ s hs) hen
    refine ⟨hI s _ hs hx, ?_⟩
    rw [hg s _ hs hx]
    exact ih (get s) hrest

end Calls

structure Entry (ι ρ α M : Type) where
  thread : ι
  request : ρ
  answer : α
  paid : M

structure Pending (ι ρ M : Type) where
  thread : ι
  request : ρ
  paid : M

section Books
variable {ι σ α : Type}

def calledBy : Label ι σ α → Option (ι × Proc σ α)
  | .call i p => some (i, p)
  | _ => none

def callsOf (ls : List (Label ι σ α)) : Multiset (ι × Proc σ α) := ls.filterMap calledBy

/-- What each thread has called last, and the calls answered so far with their answers. -/
structure Books (ι σ α : Type) where
  current : ι → Proc σ α
  log : Multiset (ι × Proc σ α × α)

/-- The answer of a thread that has just moved, if there is one now. -/
def told (current : ι → Proc σ α) (c : Pool ι σ α) (i : ι) : Multiset (ι × Proc σ α × α) :=
  match c.thread i with
  | .ret a => {(i, current i, a)}
  | _ => 0

variable [DecidableEq ι]

def Books.after (b : Books ι σ α) (c : Pool ι σ α) : Label ι σ α → Books ι σ α
  | .call i p =>
    ⟨Function.update b.current i p, b.log + told (Function.update b.current i p) c i⟩
  | .run i => ⟨b.current, b.log + told b.current c i⟩
  | .env => b

inductive Booked (Calls : ι → Proc σ α → Prop) (E : σ → σ → Prop) (c₀ : Pool ι σ α) :
    List (Label ι σ α) → Pool ι σ α → Books ι σ α → Prop where
  | start : Booked Calls E c₀ [] c₀ ⟨c₀.thread, 0⟩
  | step {ls : List (Label ι σ α)} {c c' : Pool ι σ α} {b : Books ι σ α} {l : Label ι σ α}
      (h : Booked Calls E c₀ ls c b) (last : Step Calls E c l c') :
      Booked Calls E c₀ (ls ++ [l]) c' (b.after c' l)

variable {Calls : ι → Proc σ α → Prop} {E : σ → σ → Prop} {c₀ c : Pool ι σ α}
  {ls : List (Label ι σ α)}

theorem booked_of_run (h : Run (Step Calls E) c₀ ls c) : ∃ b, Booked Calls E c₀ ls c b := by
  induction h with
  | refl => exact ⟨_, .start⟩
  | snoc _ last ih =>
    obtain ⟨b, hb⟩ := ih
    exact ⟨_, hb.step last⟩

end Books

section Pools
variable {ι σ α ρ M : Type} [AddCommGroup M]
variable (body : ι → ρ → Proc σ α) (I : σ → Prop) (g : σ → M) (owed : ι → ρ → α → M → Prop)

def Entry.line (e : Entry ι ρ α M) : ι × Proc σ α × α := (e.thread, body e.thread e.request, e.answer)

def Entry.call (e : Entry ι ρ α M) : ι × Proc σ α := (e.thread, body e.thread e.request)

def Pending.call (e : Pending ι ρ M) : ι × Proc σ α := (e.thread, body e.thread e.request)

def Busy (p : Proc σ α) : Prop := ∀ a, p ≠ .ret a

/-- A pending call that its thread works on, and what is still to pay. -/
structure Running (c : Pool ι σ α) (current : ι → Proc σ α) (e : Pending ι ρ M) : Prop where
  busy : Busy (c.thread e.thread)
  current : current e.thread = body e.thread e.request
  pays : Pays I g (owed e.thread e.request) e.paid (c.thread e.thread)

/-- Every call of the run is answered or pending, the answered ones have paid what they owe, and
    the quantity has grown by what has been paid. -/
structure Ledger (c₀ : Pool ι σ α) (ls : List (Label ι σ α)) (c : Pool ι σ α) (b : Books ι σ α)
    (closed : Multiset (Entry ι ρ α M)) (opened : Multiset (Pending ι ρ M)) : Prop where
  balance : g c.shared = g c₀.shared + (closed.map Entry.paid).sum + (opened.map Pending.paid).sum
  calls : callsOf ls = closed.map (Entry.call body) + opened.map (Pending.call body)
  log : b.log = closed.map (Entry.line body)
  settled : ∀ e ∈ closed, owed e.thread e.request e.answer e.paid
  running : ∀ e ∈ opened, Running body I g owed c b.current e
  distinct : (opened.map Pending.thread).Nodup
  active : ∀ i, Busy (c.thread i) → i ∈ opened.map Pending.thread
  inside : I c.shared

/-- The ledger but for one thread, which works for `r` and has paid `paid`. -/
structure Besides (i : ι) (r : ρ) (paid : M) (c₀ : Pool ι σ α) (ls : List (Label ι σ α))
    (c : Pool ι σ α) (b : Books ι σ α) (closed : Multiset (Entry ι ρ α M))
    (opened : Multiset (Pending ι ρ M)) : Prop where
  balance : g c.shared =
    g c₀.shared + (closed.map Entry.paid).sum + (opened.map Pending.paid).sum + paid
  calls : callsOf ls =
    closed.map (Entry.call body) + opened.map (Pending.call body) + {(i, body i r)}
  log : b.log = closed.map (Entry.line body)
  current : b.current i = body i r
  settled : ∀ e ∈ closed, owed e.thread e.request e.answer e.paid
  running : ∀ e ∈ opened, Running body I g owed c b.current e
  distinct : (opened.map Pending.thread).Nodup
  fresh : i ∉ opened.map Pending.thread
  active : ∀ j, j ≠ i → Busy (c.thread j) → j ∈ opened.map Pending.thread
  inside : I c.shared

variable {body I g owed} {c₀ c c' : Pool ι σ α} {ls : List (Label ι σ α)} {b : Books ι σ α}
  {closed : Multiset (Entry ι ρ α M)} {opened : Multiset (Pending ι ρ M)} {i : ι} {r : ρ} {paid : M}

theorem Besides.file (h : Besides body I g owed i r paid c₀ ls c b closed opened)
    (hpays : Pays I g (owed i r) paid (c.thread i)) :
    ∃ closed' opened',
      Ledger body I g owed c₀ ls c ⟨b.current, b.log + told b.current c i⟩ closed' opened' := by
  by_cases hbusy : Busy (c.thread i)
  · have hnone : told b.current c i = 0 := by
      unfold told
      split
      · rename_i a ha
        exact absurd ha (hbusy a)
      · rfl
    refine ⟨closed, ⟨i, r, paid⟩ ::ₘ opened, ?_, ?_, ?_, h.settled, ?_, ?_, ?_, h.inside⟩
    · rw [h.balance, Multiset.map_cons, Multiset.sum_cons]
      abel
    · rw [h.calls, Multiset.map_cons, ← Multiset.singleton_add, add_assoc]
      exact congrArg _ (add_comm _ _)
    · rw [hnone, ← h.log]
      exact add_zero _
    · intro e he
      rcases Multiset.mem_cons.mp he with rfl | he
      · exact ⟨hbusy, h.current, hpays⟩
      · exact h.running e he
    · rw [Multiset.map_cons]
      exact Multiset.nodup_cons.mpr ⟨h.fresh, h.distinct⟩
    · intro j hj
      rw [Multiset.map_cons, Multiset.mem_cons]
      by_cases hji : j = i
      · exact .inl hji
      · exact .inr (h.active j hji hj)
  · obtain ⟨a, ha⟩ : ∃ a, c.thread i = .ret a := by
      by_contra hno
      exact hbusy fun a ha => hno ⟨a, ha⟩
    have hsome : told b.current c i = {(i, body i r, a)} := by
      unfold told
      rw [ha, h.current]
    rw [ha] at hpays
    refine ⟨⟨i, r, a, paid⟩ ::ₘ closed, opened, ?_, ?_, ?_, ?_, h.running, h.distinct, ?_, h.inside⟩
    · rw [h.balance, Multiset.map_cons, Multiset.sum_cons]
      abel
    · rw [h.calls, Multiset.map_cons, ← Multiset.singleton_add, add_comm _ {(i, body i r)}, add_assoc]
      rfl
    · rw [hsome, h.log, Multiset.map_cons, ← Multiset.singleton_add, add_comm]
      rfl
    · intro e he
      rcases Multiset.mem_cons.mp he with rfl | he
      · exact hpays
      · exact h.settled e he
    · intro j hj
      refine h.active j ?_ hj
      rintro rfl
      exact hj a ha

theorem Ledger.start (hidle : ∀ i, ∃ a, c₀.thread i = .ret a) (hI : I c₀.shared) :
    Ledger body I g owed c₀ [] c₀ ⟨c₀.thread, 0⟩ 0 0 where
  balance := by simp
  calls := rfl
  log := rfl
  settled := fun _ he => absurd he (Multiset.notMem_zero _)
  running := fun _ he => absurd he (Multiset.notMem_zero _)
  distinct := Multiset.nodup_zero
  active := fun i hi => by
    obtain ⟨a, ha⟩ := hidle i
    exact absurd ha (hi a)
  inside := hI

theorem callsOf_call (i : ι) (p : Proc σ α) : callsOf (ls ++ [.call i p]) = callsOf ls + {(i, p)} := by
  unfold callsOf
  rw [List.filterMap_append, ← Multiset.coe_add]
  rfl

theorem callsOf_other {l : Label ι σ α} (h : calledBy l = none) : callsOf (ls ++ [l]) = callsOf ls := by
  simp [callsOf, h]

theorem Ledger.ne_of_idle (h : Ledger body I g owed c₀ ls c b closed opened) {a : α}
    (idle : c.thread i = .ret a) : i ∉ opened.map Pending.thread := by
  intro hi
  obtain ⟨e, he, rfl⟩ := Multiset.mem_map.mp hi
  exact (h.running e he).busy a idle

theorem Ledger.opened_eq (h : Ledger body I g owed c₀ ls c b closed opened)
    (hidle : ∀ i, ∃ a, c.thread i = .ret a) : opened = 0 := by
  refine Multiset.eq_zero_of_forall_notMem fun e he => ?_
  obtain ⟨a, ha⟩ := hidle e.thread
  exact (h.running e he).busy a ha

theorem Ledger.env (h : Ledger body I g owed c₀ ls c b closed opened) {s : σ} (hI : I s)
    (hg : g s = g c.shared) :
    Ledger body I g owed c₀ (ls ++ [.env]) { c with shared := s } b closed opened where
  balance := by rw [← h.balance, ← hg]
  calls := by rw [callsOf_other rfl, h.calls]
  log := h.log
  settled := h.settled
  running := fun e he => ⟨(h.running e he).busy, (h.running e he).current, (h.running e he).pays⟩
  distinct := h.distinct
  active := h.active
  inside := hI

variable [DecidableEq ι]

/-- A step of thread `i` leaves the others' calls as they are. -/
theorem Running.update {e : Pending ι ρ M} {s : σ} {p q : Proc σ α}
    (h : Running body I g owed c b.current e) (hne : e.thread ≠ i) :
    Running body I g owed ⟨s, Function.update c.thread i p⟩ (Function.update b.current i q) e where
  busy := by simpa only [Function.update_of_ne hne] using h.busy
  current := by rw [Function.update_of_ne hne, h.current]
  pays := by simpa only [Function.update_of_ne hne] using h.pays

theorem Ledger.call (h : Ledger body I g owed c₀ ls c b closed opened) {a : α}
    (idle : c.thread i = .ret a) (r : ρ) :
    Besides body I g owed i r 0 c₀ (ls ++ [.call i (body i r)])
      { c with thread := Function.update c.thread i (body i r) }
      ⟨Function.update b.current i (body i r), b.log⟩ closed opened where
  balance := by rw [h.balance, add_zero]
  calls := by rw [callsOf_call, h.calls]
  log := h.log
  current := Function.update_self i _ b.current
  settled := h.settled
  running := by
    intro e he
    refine (h.running e he).update ?_
    rintro rfl
    exact h.ne_of_idle idle (Multiset.mem_map_of_mem _ he)
  distinct := h.distinct
  fresh := h.ne_of_idle idle
  active := by
    intro j hj hbusy
    simp only [Function.update_of_ne hj] at hbusy
    exact h.active j hbusy
  inside := h.inside

theorem Ledger.run (h : Ledger body I g owed c₀ ls c b closed opened) {en : σ → Bool} {f : σ → σ}
    {k : σ → Proc σ α} (next : c.thread i = .act en f k) (enabled : en c.shared = true) :
    ∃ r paid rest, Pays I g (owed i r) paid (k c.shared) ∧
      Besides body I g owed i r paid c₀ (ls ++ [.run i])
        ⟨f c.shared, Function.update c.thread i (k c.shared)⟩ b closed rest := by
  have hbusy : Busy (c.thread i) := by
    rw [next]
    exact nofun
  obtain ⟨e, he, rfl⟩ := Multiset.mem_map.mp (h.active i hbusy)
  obtain ⟨rest, rfl⟩ := Multiset.exists_cons_of_mem he
  obtain ⟨_, hcurrent, hpays⟩ := h.running e he
  rw [next] at hpays
  obtain ⟨hI, hpays⟩ := hpays c.shared h.inside enabled
  have hdistinct := h.distinct
  rw [Multiset.map_cons] at hdistinct
  obtain ⟨hfresh, hdistinct⟩ := Multiset.nodup_cons.mp hdistinct
  refine ⟨e.request, _, rest, hpays, ?_, ?_, h.log, hcurrent, h.settled, ?_, hdistinct, hfresh, ?_, hI⟩
  · have hbalance := h.balance
    rw [Multiset.map_cons, Multiset.sum_cons] at hbalance
    rw [hbalance]
    abel
  · rw [callsOf_other rfl, h.calls, Multiset.map_cons, ← Multiset.singleton_add, add_assoc]
    exact congrArg _ (add_comm _ _)
  · intro x hx
    have hne : x.thread ≠ e.thread := by
      intro hx'
      exact hfresh (hx' ▸ Multiset.mem_map_of_mem _ hx)
    have hrunning := (h.running x (Multiset.mem_cons_of_mem hx)).update (s := f c.shared)
      (p := k c.shared) (q := b.current e.thread) hne
    rwa [Function.update_eq_self] at hrunning
  · intro j hj hbusy
    simp only [Function.update_of_ne hj] at hbusy
    have hin := h.active j hbusy
    rw [Multiset.map_cons, Multiset.mem_cons] at hin
    exact hin.resolve_left hj

variable {Calls : ι → Proc σ α → Prop} {E : σ → σ → Prop}

theorem run_ledger (hidle : ∀ i, ∃ a, c₀.thread i = .ret a) (hI : I c₀.shared)
    (hcalls : ∀ i p, Calls i p → ∃ r, p = body i r ∧ Pays I g (owed i r) 0 p)
    (hE : ∀ s t, I s → E s t → I t ∧ g t = g s) (run : Booked Calls E c₀ ls c b) :
    ∃ closed opened, Ledger body I g owed c₀ ls c b closed opened := by
  induction run with
  | start => exact ⟨0, 0, .start hidle hI⟩
  | step run last ih =>
    obtain ⟨closed, opened, h⟩ := ih
    cases last with
    | @call i p a idle allowed =>
      obtain ⟨r, rfl, hpays⟩ := hcalls i p allowed
      exact (h.call idle r).file (by simpa using hpays)
    | @run i en f k next enabled =>
      obtain ⟨r, paid, rest, hpays, hbesides⟩ := h.run next enabled
      exact hbesides.file (by simpa using hpays)
    | env hs =>
      obtain ⟨hI', hg⟩ := hE _ _ h.inside hs
      exact ⟨closed, opened, h.env hI' hg⟩

end Pools

section Sums
variable {β κ : Type} {s : Multiset β} {f : β → ℤ} {p : β → Prop} [DecidablePred p]

theorem sum_eq_countP (h : ∀ e ∈ s, f e = if p e then 1 else 0) : (s.map f).sum = s.countP p := by
  induction s using Multiset.induction with
  | empty => rfl
  | cons e s ih =>
    rw [Multiset.map_cons, Multiset.sum_cons, h e (Multiset.mem_cons_self e s), Multiset.countP_cons,
      ih fun x hx => h x (Multiset.mem_cons_of_mem hx)]
    push_cast
    rw [add_comm]

theorem sum_le_countP (h : ∀ e ∈ s, f e ≤ if p e then 1 else 0) : (s.map f).sum ≤ s.countP p := by
  induction s using Multiset.induction with
  | empty => rfl
  | cons e s ih =>
    have he := h e (Multiset.mem_cons_self e s)
    have hs := ih fun x hx => h x (Multiset.mem_cons_of_mem hx)
    rw [Multiset.map_cons, Multiset.sum_cons, Multiset.countP_cons]
    push_cast
    split_ifs at he ⊢ <;> omega

theorem sum_at {g : β → κ → ℤ} (k : κ) : (s.map g).sum k = (s.map fun e => g e k).sum := by
  rw [Pi.multiset_sum_apply, Multiset.map_map]
  rfl

end Sums
end PoolLedgers

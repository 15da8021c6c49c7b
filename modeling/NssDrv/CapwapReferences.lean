import Mathlib.Data.Finset.Card
import NssDrv.CapwapTunnel
import NssDrv.ThreadRuns

set_option autoImplicit false

/-!
# References to CAPWAP handles

The count of a handle is that of the messages between their increment and their
decrement, and a handle with a count stays in the table.
-/
namespace NssDrv.CapwapReferences
open CallTree ThreadRuns TransitionRuns HlosInterface CapwapTunnel

/-- What a call knows under the lock, which handle it has counted up, and which
    one is its own alone. `stray` is an answer that the table does not give. -/
inductive Stage where
  | idle
  | locked
  | seen (n : ℕ) (h : Option ℕ)
  | unused (n h : ℕ)
  | raised (n h : ℕ)
  | holding (n h : ℕ)
  | mine (isLocked isCleared : Bool) (h : ℕ)
  | vacant (n h : ℕ)
  | stray
  | wrong

namespace Stage

def lock : Stage → Stage
  | .idle => .locked
  | .mine false cleared h => .mine true cleared h
  | .stray => .stray
  | _ => .wrong

def unlock : Stage → Stage
  | .locked => .idle
  | .seen _ _ => .idle
  | .unused _ _ => .idle
  | .raised n h => .holding n h
  | .mine true cleared h => .mine false cleared h
  | .stray => .stray
  | _ => .wrong

def inc (h : ℕ) : Stage → Stage
  | .seen n (some h') => if h' = h then .raised n h else .wrong
  | .stray => .stray
  | _ => .wrong

def dec (h : ℕ) : Stage → Stage
  | .holding _ h' => if h' = h then .idle else .wrong
  | .stray => .stray
  | _ => .wrong

def clear (h : ℕ) : Stage → Stage
  | .mine false _ h' => if h' = h then .mine false true h else .wrong
  | .stray => .stray
  | _ => .wrong

def setHdl (n : ℕ) (h : Option ℕ) : Stage → Stage
  | .vacant n' h' => if n' = n ∧ h = some h' then .locked else .wrong
  | .unused n' h' => if n' = n ∧ h = none then .mine true false h' else .wrong
  | .stray => .stray
  | _ => .wrong

def setCallback (h : ℕ) : Stage → Stage
  | .unused n h' => if h' = h then .unused n h else .wrong
  | .stray => .stray
  | _ => .wrong

def free (h : ℕ) : Stage → Stage
  | .mine false _ h' => if h' = h then .idle else .wrong
  | .stray => .stray
  | _ => .wrong

def oops : Stage → Stage
  | .seen n none => .seen n none
  | .stray => .stray
  | _ => .wrong

def look (n : ℕ) (h : Option ℕ) : Stage → Stage
  | .locked => .seen n h
  | .seen n' h' => if n' = n then if h = h' then .seen n h' else .stray else .seen n h
  | .unused n' h' => if n' = n then if h = some h' then .unused n h' else .stray else .wrong
  | .raised n' h' => if n' = n then if h = some h' then .raised n h' else .stray else .wrong
  | .holding n' h' => if n' = n then if h = some h' then .holding n h' else .stray else .wrong
  | .mine true true h' => if h = none then .vacant n h' else .mine true true h'
  | .stray => .stray
  | _ => .wrong

def count (h : ℕ) (v : ℤ) : Stage → Stage
  | .seen n (some h') => if h' = h then if v = 0 then .unused n h else .seen n (some h) else .wrong
  | .stray => .stray
  | _ => .wrong

def alloc (h : Option ℕ) : Stage → Stage
  | .idle => match h with
    | none => .idle
    | some h => .mine false false h
  | .stray => .stray
  | _ => .wrong

def step (stage : Stage) : CapwapEvent → Stage
  | .did .spinLock => stage.lock
  | .did .spinUnlock => stage.unlock
  | .did (.atomicInc h) => stage.inc h
  | .did (.atomicDec h) => stage.dec h
  | .did (.clearHandle h _) => stage.clear h
  | .did (.setHdl n h) => stage.setHdl n h
  | .did (.setCallback h _ _) => stage.setCallback h
  | .did (.kfree h) => stage.free h
  | .did .oops => stage.oops
  | .saw (.hdl n) h => stage.look n h
  | .saw (.atomicRead h) v => stage.count h v
  | .saw .kmalloc h => stage.alloc h
  | _ => stage

/-- The handle that the call has counted up and not yet down. -/
def ref : Stage → Option ℕ
  | .raised _ h => some h
  | .holding _ h => some h
  | _ => none

/-- The handle that is neither in the table nor known to another call. -/
def own : Stage → Option ℕ
  | .mine _ _ h => some h
  | .vacant _ h => some h
  | _ => none

def holdsLock : Stage → Bool
  | .locked => true
  | .seen _ _ => true
  | .unused _ _ => true
  | .raised _ _ => true
  | .mine isLocked _ _ => isLocked
  | .vacant _ _ => true
  | _ => false

end Stage

abbrev Staged {α : Type} (Q : α → Stage → Prop) : CapwapCall α → Stage → Prop :=
  Always Stage.step (fun stage => stage ≠ .wrong) Q

def Done (stage : Stage) : Prop := stage = .idle ∨ stage = .stray

theorem stray_staged {α : Type} {Q : α → Stage → Prop} (hQ : ∀ a, Q a .stray) (p : CapwapCall α) :
    Staged Q p .stray := by
  refine always_stuck (fun e => ?_) nofun hQ p
  cases e with
  | did c => cases c <;> rfl
  | saw q a => cases q <;> rfl

theorem ask_again {α : Type} {Q : α → Stage → Prop} {stage : Stage} {ifNum : ℕ} {h : Option ℕ}
    {k : Option ℕ → CapwapCall α} (hstray : ∀ a, Q a .stray) (hstage : stage ≠ .wrong)
    (hlook : ∀ h', stage.look (hdlIndex ifNum) h' = if h' = h then stage else .stray)
    (hk : Staged Q (k h) stage) : Staged Q (.ask (.hdl (hdlIndex ifNum)) k) stage := by
  refine .ask hstage fun h' => .of_eq (hlook h') ?_
  by_cases hsame : h' = h
  · rw [if_pos hsame, hsame]
    exact hk
  · rw [if_neg hsame]
    exact stray_staged hstray _

theorem verify_staged {α : Type} {Q : α → Stage → Prop} {ifNum : ℕ} {k : Bool → CapwapCall α}
    (hk : ∀ ok, Staged Q (k ok) .idle) :
    Staged Q (nssCapwapVerifyIfNum ifNum >>= k) .idle := by
  unfold nssCapwapVerifyIfNum
  split
  · exact hk false
  · exact .ask nofun fun ok => hk ok

variable {Q : CapwapResult → Stage → Prop}

theorem unlock_staged {stage : Stage} {a : CapwapResult} (hstage : stage ≠ .wrong)
    (hunlock : stage.unlock = .idle) :
    Staged (fun _ => Done) (.tell .spinUnlock (.ret a)) stage := by
  refine .tell hstage (.of_eq hunlock (.ret nofun ?_))
  exact .inl rfl

theorem txMsg_staged (msg : CapwapMsg) : Staged (fun _ => Done) (nssCapwapTxMsg msg) .idle := by
  have hidle : ∀ a, Staged (fun _ => Done) (.ret a : CapwapCall CapwapResult) .idle :=
    fun _ => .ret nofun (.inl rfl)
  have hstray : ∀ _ : CapwapResult, Done .stray := fun _ => .inr rfl
  apply verify_staged
  intro ok
  refine .ite (fun _ => hidle _) fun _ => .ite (fun _ => hidle _) fun _ => .tell nofun ?_
  refine .ask nofun fun h => .ite (fun _ => unlock_staged nofun rfl) fun hnone => ?_
  obtain ⟨h, rfl⟩ := Option.ne_none_iff_exists'.mp hnone
  show Staged _ _ (.seen (hdlIndex msg.interface) (some h))
  refine ask_again hstray nofun (fun h' => if_pos rfl) (.tell nofun (.of_eq (if_pos rfl) ?_))
  refine .tell nofun ?_
  have hsend : Always Stage.step (fun stage => stage ≠ .wrong)
      (fun _ stage => stage = .holding (hdlIndex msg.interface) h) (sendMsg msg)
      (.holding (hdlIndex msg.interface) h) := by
    have hret : ∀ status, Always Stage.step (fun stage => stage ≠ .wrong)
        (fun _ stage => stage = .holding (hdlIndex msg.interface) h)
        (.ret status : CapwapCall TransmitApi.TxStatus) (.holding (hdlIndex msg.interface) h) :=
      fun _ => .ret nofun rfl
    refine .ask nofun fun initialized => .ite (fun _ => hret _) fun _ => ?_
    refine .ite (fun _ => hret _) fun _ => .ask nofun fun nbuf => .ite (fun _ => hret _) fun _ => ?_
    refine .ask nofun fun status => ?_
    cases status <;> exact hret _
  refine hsend.bind fun status stage hstage => ?_
  subst hstage
  refine ask_again hstray nofun (fun h' => if_pos rfl) (.tell nofun (.of_eq (if_pos rfl) ?_))
  exact hidle _

theorem notifyRegister_staged (ifNum cb appData : ℕ) :
    Staged (fun _ => Done) (nssCapwapNotifyRegister ifNum cb appData) .idle := by
  apply verify_staged
  intro ok
  refine .ite (fun _ => .ret nofun (.inl rfl)) fun _ => .tell nofun (.ask nofun fun h => ?_)
  exact .ite (fun _ => unlock_staged nofun rfl) fun _ => unlock_staged nofun rfl

theorem notifyUnregister_staged (nssTop ifNum : ℕ) :
    Staged (fun _ => Done) (nssCapwapNotifyUnregister nssTop ifNum) .idle := by
  have hidle : ∀ a, Staged (fun _ => Done) (.ret a : CapwapCall CapwapResult) .idle :=
    fun _ => .ret nofun (.inl rfl)
  have hstray : ∀ _ : CapwapResult, Done .stray := fun _ => .inr rfl
  apply verify_staged
  intro ok
  refine .ite (fun _ => hidle _) fun _ => .ite (fun _ => hidle _) fun _ => .tell nofun ?_
  refine .ask nofun fun h => .ite (fun _ => unlock_staged nofun rfl) fun hnone => ?_
  obtain ⟨h, rfl⟩ := Option.ne_none_iff_exists'.mp hnone
  show Staged _ _ (.seen (hdlIndex ifNum) (some h))
  refine ask_again hstray nofun (fun h' => if_pos rfl) (.ask nofun fun (v : ℤ) => ?_)
  refine .of_eq (if_pos rfl) ?_
  by_cases hv : v = 0
  · rw [if_pos hv]
    refine .ite (fun hne => absurd hv hne) fun _ => ?_
    refine ask_again hstray nofun (fun h' => if_pos rfl) (.tell nofun (.of_eq (if_pos rfl) ?_))
    exact unlock_staged nofun rfl
  · rw [if_neg hv]
    exact .ite (fun _ => unlock_staged nofun rfl) fun heq => absurd hv heq

theorem instanceAlloc_staged {ifNum : ℕ} {k : Bool → CapwapCall CapwapResult}
    (hk : ∀ ok, Staged (fun _ => Done) (k ok) .idle) :
    Staged (fun _ => Done) (nssCapwapInstanceAlloc ifNum >>= k) .idle := by
  refine .ask nofun fun (h : Option ℕ) => ?_
  cases h with
  | none => exact hk false
  | some h =>
    refine .tell nofun (.of_eq (if_pos rfl) (.tell nofun (.ask nofun fun (entry : Option ℕ) => ?_)))
    cases entry with
    | none => exact .tell nofun (.of_eq (if_pos ⟨rfl, rfl⟩) (.tell nofun (hk true)))
    | some h' => exact .tell nofun (.tell nofun (.of_eq (if_pos rfl) (hk false)))

theorem dataRegister_staged (ifNum cb netdev features : ℕ) :
    Staged (fun _ => Done) (nssCapwapDataRegister ifNum cb netdev features) .idle := by
  have hidle : ∀ a, Staged (fun _ => Done) (.ret a : CapwapCall CapwapResult) .idle :=
    fun _ => .ret nofun (.inl rfl)
  apply verify_staged
  intro ok
  refine .ite (fun _ => hidle _) fun _ => .tell nofun (.ask nofun fun ndev => ?_)
  refine .ite (fun _ => unlock_staged nofun rfl) fun _ => .tell nofun (.ask nofun fun status => ?_)
  refine .ite (fun _ => hidle _) fun _ => ?_
  apply instanceAlloc_staged
  intro ok
  refine .ite (fun _ => hidle _) fun _ => ?_
  exact .tell nofun (.tell nofun (.tell nofun (.tell nofun (hidle _))))

theorem dataUnregister_staged (ifNum : ℕ) :
    Staged (fun _ => Done) (nssCapwapDataUnregister ifNum) .idle := by
  have hidle : ∀ a, Staged (fun _ => Done) (.ret a : CapwapCall CapwapResult) .idle :=
    fun _ => .ret nofun (.inl rfl)
  have hstray : ∀ _ : CapwapResult, Done .stray := fun _ => .inr rfl
  apply verify_staged
  intro ok
  refine .ite (fun _ => hidle _) fun _ => .tell nofun (.ask nofun fun (h : Option ℕ) => ?_)
  cases h with
  | none => exact .tell nofun (.ask nofun fun none => none.elim)
  | some h =>
    refine .ask nofun fun (v : ℤ) => .of_eq (if_pos rfl) ?_
    by_cases hv : v = 0
    · rw [if_pos hv]
      refine .ite (fun hne => absurd hv hne) fun _ => ?_
      refine ask_again hstray nofun (fun h' => if_pos rfl) (.tell nofun ?_)
      refine .of_eq (if_pos ⟨rfl, rfl⟩) (.tell nofun (.tell nofun ?_))
      refine .tell nofun (.tell nofun (.tell nofun (.tell nofun (.tell nofun ?_))))
      exact .of_eq (if_pos rfl) (hidle _)
    · rw [if_neg hv]
      exact .ite (fun _ => unlock_staged nofun rfl) fun heq => absurd hv heq

inductive CapwapCalls : CapwapCall CapwapResult → Prop where
  | txMsg (msg : CapwapMsg) : CapwapCalls (nssCapwapTxMsg msg)
  | notifyRegister (ifNum cb appData : ℕ) : CapwapCalls (nssCapwapNotifyRegister ifNum cb appData)
  | notifyUnregister (nssTop ifNum : ℕ) : CapwapCalls (nssCapwapNotifyUnregister nssTop ifNum)
  | dataRegister (ifNum cb netdev features : ℕ) :
      CapwapCalls (nssCapwapDataRegister ifNum cb netdev features)
  | dataUnregister (ifNum : ℕ) : CapwapCalls (nssCapwapDataUnregister ifNum)

theorem capwap_staged {p : CapwapCall CapwapResult} (h : CapwapCalls p) :
    Staged (fun _ => Done) p .idle := by
  cases h with
  | txMsg msg => exact txMsg_staged msg
  | notifyRegister ifNum cb appData => exact notifyRegister_staged ifNum cb appData
  | notifyUnregister nssTop ifNum => exact notifyUnregister_staged nssTop ifNum
  | dataRegister ifNum cb netdev features =>
    exact dataRegister_staged ifNum cb netdev features
  | dataUnregister ifNum => exact dataUnregister_staged ifNum

variable {ι : Type}

/-- Allocated, and nobody finds it in the table. -/
def Private (s : Capwap ι) (h : ℕ) : Prop := (∃ x, s.heap h = some x) ∧ ∀ n, s.hdl n ≠ some h

def Uncounted (s : Capwap ι) (h : ℕ) : Prop := ∀ x, s.heap h = some x → x.refcnt = 0

def Fits (s : Capwap ι) : Stage → Prop
  | .seen n h => s.hdl n = h
  | .unused n h => s.hdl n = some h
  | .raised n h => s.hdl n = some h
  | .holding n h => s.hdl n = some h
  | .mine _ cleared h => Private s h ∧ (cleared = true → Uncounted s h)
  | .vacant n h => s.hdl n = none ∧ Private s h ∧ Uncounted s h
  | .stray => False
  | .wrong => False
  | _ => True

/-- The count of a handle is the number of calls that have it counted up. -/
def Counted (s : Capwap ι) (st : ι → Stage) (h : ℕ) : Prop :=
  ∃ S : Finset ι, (∀ i, i ∈ S ↔ (st i).ref = some h) ∧ ∀ x, s.heap h = some x → x.refcnt = S.card

structure Inv (s : Capwap ι) (st : ι → Stage) : Prop where
  lock : ∀ i, (st i).holdsLock = true ↔ s.lock = some i
  fits : ∀ i, Fits s (st i)
  live : ∀ n h, s.hdl n = some h → ∃ x, s.heap h = some x
  once : ∀ n m h, s.hdl n = some h → s.hdl m = some h → n = m
  apart : ∀ i j h, (st i).own = some h → (st j).own = some h → i = j
  unused : ∀ i n h, st i = .unused n h → ∀ j, (st j).ref ≠ some h
  counted : ∀ n h, s.hdl n = some h → Counted s st h

variable {s t : Capwap ι} {st : ι → Stage} {was stage : Stage} {i : ι}

theorem fits_own {h : ℕ} (hfits : Fits s stage) (hown : stage.own = some h) : Private s h := by
  cases stage with
  | mine isLocked cleared h' =>
    obtain rfl := Option.some.inj hown
    exact hfits.1
  | vacant n h' =>
    obtain rfl := Option.some.inj hown
    exact hfits.2.1
  | _ => cases hown

theorem fits_ref {h : ℕ} (hfits : Fits s stage) (href : stage.ref = some h) :
    ∃ n, s.hdl n = some h := by
  cases stage with
  | raised n h' =>
    obtain rfl := Option.some.inj href
    exact ⟨n, hfits⟩
  | holding n h' =>
    obtain rfl := Option.some.inj href
    exact ⟨n, hfits⟩
  | _ => cases href

theorem fits_congr (hhdl : t.hdl = s.hdl)
    (hlive : ∀ h, stage.own = some h → (∃ x, s.heap h = some x) → ∃ x, t.heap h = some x)
    (hcount : ∀ h, stage.own = some h → Uncounted s h → Uncounted t h) (hfits : Fits s stage) :
    Fits t stage := by
  cases stage with
  | mine isLocked cleared h =>
    obtain ⟨⟨hsome, hnone⟩, hclear⟩ := hfits
    exact ⟨⟨hlive h rfl hsome, hhdl ▸ hnone⟩, fun hc => hcount h rfl (hclear hc)⟩
  | vacant n h =>
    obtain ⟨hempty, ⟨hsome, hnone⟩, hclear⟩ := hfits
    exact ⟨hhdl ▸ hempty, ⟨hlive h rfl hsome, hhdl ▸ hnone⟩, hcount h rfl hclear⟩
  | seen n h => exact (congrFun hhdl n).trans hfits
  | unused n h => exact (congrFun hhdl n).trans hfits
  | raised n h => exact (congrFun hhdl n).trans hfits
  | holding n h => exact (congrFun hhdl n).trans hfits
  | _ => exact hfits

theorem modify_live {a b : ℕ} {f : CapwapHandle → CapwapHandle} (h : ∃ x, s.heap b = some x) :
    ∃ x, (s.modify a f).heap b = some x := by
  obtain ⟨x, hx⟩ := h
  by_cases hb : b = a
  · subst hb
    refine ⟨f x, ?_⟩
    show Function.update s.heap b ((s.heap b).map f) b = _
    rw [Function.update_self, hx]
    rfl
  · exact ⟨x, (Function.update_of_ne hb _ _).trans hx⟩

theorem modify_self {a : ℕ} {f : CapwapHandle → CapwapHandle} {y : CapwapHandle}
    (h : (s.modify a f).heap a = some y) : ∃ x, s.heap a = some x ∧ y = f x := by
  have h : Function.update s.heap a ((s.heap a).map f) a = some y := h
  rw [Function.update_self] at h
  obtain ⟨x, hx, rfl⟩ := Option.map_eq_some_iff.mp h
  exact ⟨x, hx, rfl⟩

theorem Inv.lockFree {j : ι} (h : Inv s st) (hst : st i = was) (hheld : was.holdsLock = true)
    (hj : j ≠ i) : (st j).holdsLock = false := by
  refine Bool.eq_false_iff.mpr fun hj' => hj ?_
  have hlock : s.lock = some i := (h.lock i).mp (hst ▸ hheld)
  exact Option.some.inj (((h.lock j).mp hj').symm.trans hlock)

/-- Who does not hold the lock keeps what it knows when the holder changes an
    entry that is not counted up. -/
theorem fits_setHdl {n : ℕ} {entry : Option ℕ} (hfits : Fits s stage)
    (hlock : stage.holdsLock = false) (hold : ∀ a, stage.ref = some a → s.hdl n ≠ some a)
    (hnew : ∀ a, stage.own = some a → entry ≠ some a) :
    Fits { s with hdl := Function.update s.hdl n entry } stage := by
  cases stage with
  | idle => trivial
  | holding m a =>
    have hm : m ≠ n := by
      rintro rfl
      exact hold a rfl hfits
    exact (Function.update_of_ne hm _ _).trans hfits
  | mine isLocked cleared a =>
    obtain ⟨⟨hlive, hnone⟩, hcount⟩ := hfits
    refine ⟨⟨hlive, fun m hm => ?_⟩, hcount⟩
    rcases entry_cases hm with ⟨-, hentry⟩ | ⟨-, hwas⟩
    · exact hnew a rfl hentry
    · exact hnone m hwas
  | stray => exact hfits
  | wrong => exact hfits
  | _ => cases hlock

theorem Inv.notUnused {j : ι} {n b : ℕ} (h : Inv s st) (hst : st i = was)
    (hheld : was.holdsLock = true) (hj : j ≠ i) : st j ≠ .unused n b := by
  intro hunused
  have hfree := h.lockFree hst hheld hj
  rw [hunused] at hfree
  cases hfree

theorem Inv.apart_of_eq {b : ℕ} (h : Inv s st) (hst : st i = was) (hown : was.own = some b) (j : ι)
    (hj : j ≠ i) : (st j).own ≠ some b :=
  fun hother => hj (h.apart j i b hother (hst ▸ hown))

section Moves
variable [DecidableEq ι]

theorem ref_update (hst : st i = was) (href : stage.ref = was.ref) (j : ι) :
    (Function.update st i stage j).ref = (st j).ref := by
  by_cases hj : j = i
  · rw [hj, Function.update_self, href, hst]
  · rw [Function.update_of_ne hj]

theorem Inv.apart_update (h : Inv s st)
    (hnew : ∀ b, stage.own = some b → ∀ j, j ≠ i → (st j).own ≠ some b) (j k : ι) (b : ℕ)
    (hj : (Function.update st i stage j).own = some b)
    (hk : (Function.update st i stage k).own = some b) : j = k := by
  by_cases hji : j = i
  · by_cases hki : k = i
    · rw [hji, hki]
    · rw [hji, Function.update_self] at hj
      rw [Function.update_of_ne hki] at hk
      exact absurd hk (hnew b hj k hki)
  · rw [Function.update_of_ne hji] at hj
    by_cases hki : k = i
    · rw [hki, Function.update_self] at hk
      exact absurd hj (hnew b hk j hji)
    · rw [Function.update_of_ne hki] at hk
      exact h.apart j k b hj hk

theorem Inv.sameTable (h : Inv s st) (hst : st i = was) (hhdl : t.hdl = s.hdl) (hheap : t.heap = s.heap)
    (hlock : ∀ j, (Function.update st i stage j).holdsLock = true ↔ t.lock = some j)
    (hfits : Fits t stage) (hown : ∀ h, stage.own = some h → was.own = some h)
    (href : stage.ref = was.ref)
    (hunused : ∀ n h, stage = .unused n h → ∀ j, (st j).ref ≠ some h) :
    Inv t (Function.update st i stage) := by
  refine ⟨hlock, fun j => ?_, fun n a ha => ?_, fun n m a hn hm => ?_,
    h.apart_update fun b hb => h.apart_of_eq hst (hown b hb), fun j n a hj k => ?_,
    fun n a ha => ?_⟩
  · by_cases hj : j = i
    · rw [hj, Function.update_self]
      exact hfits
    · rw [Function.update_of_ne hj]
      refine fits_congr hhdl (fun a _ ha => hheap ▸ ha) (fun a _ ha => ?_) (h.fits j)
      unfold Uncounted
      rw [hheap]
      exact ha
  · rw [hheap]
    exact h.live n a (hhdl ▸ ha)
  · exact h.once n m a (hhdl ▸ hn) (hhdl ▸ hm)
  · rw [ref_update hst href]
    by_cases hji : j = i
    · subst hji
      rw [Function.update_self] at hj
      exact hunused n a hj k
    · rw [Function.update_of_ne hji] at hj
      exact h.unused j n a hj k
  · obtain ⟨S, hmem, hcard⟩ := h.counted n a (hhdl ▸ ha)
    refine ⟨S, fun j => ?_, fun x hx => hcard x (hheap ▸ hx)⟩
    rw [ref_update hst href]
    exact hmem j

theorem lock_same (h : Inv s st) (hst : st i = was) (hlock : stage.holdsLock = was.holdsLock)
    (ht : t.lock = s.lock) (j : ι) :
    (Function.update st i stage j).holdsLock = true ↔ t.lock = some j := by
  rw [ht, ← h.lock j]
  by_cases hj : j = i
  · rw [hj, Function.update_self, hlock, hst]
  · rw [Function.update_of_ne hj]

theorem Inv.same (h : Inv s st) (hst : st i = was) (hlock : stage.holdsLock = was.holdsLock)
    (hfits : Fits s stage) (hown : ∀ h, stage.own = some h → was.own = some h)
    (href : stage.ref = was.ref)
    (hunused : ∀ n h, stage = .unused n h → ∀ j, (st j).ref ≠ some h) :
    Inv s (Function.update st i stage) :=
  h.sameTable hst rfl rfl (lock_same h hst hlock rfl) hfits hown href hunused

theorem lock_taken (h : Inv s st) (hfree : s.lock = none) (hlock : stage.holdsLock = true) (j : ι) :
    (Function.update st i stage j).holdsLock = true ↔ some i = some j := by
  by_cases hj : j = i
  · rw [hj, Function.update_self, hlock]
    simp
  · rw [Function.update_of_ne hj, h.lock j, hfree]
    simp [Ne.symm hj]

theorem lock_given (h : Inv s st) (hheld : (st i).holdsLock = true)
    (hlock : stage.holdsLock = false) (j : ι) :
    (Function.update st i stage j).holdsLock = true ↔ none = some j := by
  by_cases hj : j = i
  · rw [hj, Function.update_self, hlock]
    simp
  · rw [Function.update_of_ne hj, h.lock j, (h.lock i).mp hheld]
    simp [Ne.symm hj]

theorem Inv.spinLock (h : Inv s st) (hst : st i = was) (hstage : was.lock ≠ .wrong)
    (hfree : s.lock = none) : Inv { s with lock := some i } (Function.update st i was.lock) := by
  have hfits := h.fits i
  rw [hst] at hfits
  have htaken : was.lock.holdsLock = true → ∀ j,
      (Function.update st i was.lock j).holdsLock = true ↔ some i = some j := lock_taken h hfree
  cases was with
  | idle => exact h.sameTable hst rfl rfl (htaken rfl) trivial nofun rfl nofun
  | mine isLocked cleared a =>
    cases isLocked with
    | false => exact h.sameTable hst rfl rfl (htaken rfl) hfits (fun _ ha => ha) rfl nofun
    | true => exact absurd rfl hstage
  | stray => exact hfits.elim
  | _ => exact absurd rfl hstage

theorem Inv.spinUnlock (h : Inv s st) (hst : st i = was) (hstage : was.unlock ≠ .wrong) :
    Inv { s with lock := none } (Function.update st i was.unlock) := by
  have hfits := h.fits i
  rw [hst] at hfits
  have hgiven : was.holdsLock = true → was.unlock.holdsLock = false → ∀ j,
      (Function.update st i was.unlock j).holdsLock = true ↔ none = some j :=
    fun hheld => lock_given h (hst ▸ hheld)
  cases was with
  | locked => exact h.sameTable hst rfl rfl (hgiven rfl rfl) trivial nofun rfl nofun
  | seen n a => exact h.sameTable hst rfl rfl (hgiven rfl rfl) trivial nofun rfl nofun
  | unused n a => exact h.sameTable hst rfl rfl (hgiven rfl rfl) trivial nofun rfl nofun
  | raised n a => exact h.sameTable hst rfl rfl (hgiven rfl rfl) hfits nofun rfl nofun
  | mine isLocked cleared a =>
    cases isLocked with
    | false => exact absurd rfl hstage
    | true => exact h.sameTable hst rfl rfl (hgiven rfl rfl) hfits (fun _ ha => ha) rfl nofun
  | stray => exact hfits.elim
  | _ => exact absurd rfl hstage

theorem Inv.look {n : ℕ} (h : Inv s st) (hst : st i = was)
    (hstage : was.look n (s.hdl n) ≠ .wrong) :
    Inv s (Function.update st i (was.look n (s.hdl n))) := by
  have hfits := h.fits i
  have hunused := h.unused i
  rw [hst] at hfits hunused
  unfold Stage.look at hstage ⊢
  cases was with
  | locked => exact h.same hst rfl rfl nofun rfl nofun
  | seen n' a =>
    dsimp only
    split
    · rename_i hn
      have hsame : s.hdl n = a := hn ▸ hfits
      rw [if_pos hsame]
      exact h.same hst rfl hsame nofun rfl nofun
    · exact h.same hst rfl rfl nofun rfl nofun
  | unused n' a =>
    dsimp only at hstage ⊢
    split at hstage
    · rename_i hn
      have hsame : s.hdl n = some a := hn ▸ hfits
      rw [if_pos hn, if_pos hsame]
      refine h.same hst rfl hsame nofun rfl fun m b hb j => ?_
      obtain ⟨rfl, rfl⟩ := Stage.unused.inj hb
      exact hunused n' a rfl j
    · exact absurd rfl hstage
  | raised n' a =>
    dsimp only at hstage ⊢
    split at hstage
    · rename_i hn
      have hsame : s.hdl n = some a := hn ▸ hfits
      rw [if_pos hn, if_pos hsame]
      exact h.same hst rfl hsame nofun rfl nofun
    · exact absurd rfl hstage
  | holding n' a =>
    dsimp only at hstage ⊢
    split at hstage
    · rename_i hn
      have hsame : s.hdl n = some a := hn ▸ hfits
      rw [if_pos hn, if_pos hsame]
      exact h.same hst rfl hsame nofun rfl nofun
    · exact absurd rfl hstage
  | mine isLocked cleared a =>
    cases isLocked with
    | false => exact absurd rfl hstage
    | true =>
      cases cleared with
      | false => exact absurd rfl hstage
      | true =>
        dsimp only
        split
        · rename_i hnone
          exact h.same hst rfl ⟨hnone, hfits.1, hfits.2 rfl⟩ (fun _ ha => ha) rfl nofun
        · exact h.same hst rfl hfits (fun _ ha => ha) rfl nofun
  | stray => exact hfits.elim
  | _ => exact absurd rfl hstage

theorem Inv.count {a : ℕ} {v : ℤ} (h : Inv s st) (hst : st i = was)
    (hstage : was.count a v ≠ .wrong) (hv : ∀ x, s.heap a = some x → v = x.refcnt) :
    Inv s (Function.update st i (was.count a v)) := by
  have hfits := h.fits i
  rw [hst] at hfits
  unfold Stage.count at hstage ⊢
  cases was with
  | seen n b =>
    cases b with
    | none => exact absurd rfl hstage
    | some b =>
      dsimp only at hstage ⊢
      split at hstage
      · rename_i hab
        subst hab
        rw [if_pos rfl]
        split
        · rename_i hzero
          refine h.same hst rfl hfits nofun rfl fun m c hc j href => ?_
          obtain ⟨rfl, rfl⟩ := Stage.unused.inj hc
          obtain ⟨S, hmem, hcard⟩ := h.counted n b hfits
          obtain ⟨x, hx⟩ := h.live n b hfits
          have hempty : S.card = 0 := by
            have hsame := hcard x hx
            rw [← hv x hx, hzero] at hsame
            omega
          have hj := (hmem j).mpr href
          rw [Finset.card_eq_zero.mp hempty] at hj
          exact absurd hj (Finset.notMem_empty j)
        · exact h.same hst rfl hfits nofun rfl nofun
      · exact absurd rfl hstage
  | stray => exact hfits.elim
  | _ => exact absurd rfl hstage

theorem Inv.oops (h : Inv s st) (hst : st i = was) (hstage : was.oops ≠ .wrong) :
    Inv s (Function.update st i was.oops) := by
  have hfits := h.fits i
  rw [hst] at hfits
  cases was with
  | seen n a =>
    cases a with
    | none => exact h.same hst rfl hfits nofun rfl nofun
    | some a => exact absurd rfl hstage
  | stray => exact hfits.elim
  | _ => exact absurd rfl hstage

theorem Inv.modify {a : ℕ} {f : CapwapHandle → CapwapHandle} (h : Inv s st) (hst : st i = was)
    (hlock : stage.holdsLock = was.holdsLock) (hfits : Fits (s.modify a f) stage)
    (hown : stage.own = was.own) (hothers : ∀ j, j ≠ i → (st j).own ≠ some a)
    (href : ∀ b, b ≠ a → (stage.ref = some b ↔ was.ref = some b))
    (hcounted : ∀ n, s.hdl n = some a → Counted (s.modify a f) (Function.update st i stage) a)
    (hunused : ∀ j n b, Function.update st i stage j = .unused n b →
      ∀ k, (Function.update st i stage k).ref ≠ some b) :
    Inv (s.modify a f) (Function.update st i stage) := by
  refine ⟨lock_same h hst hlock rfl, fun j => ?_, fun n b hb => ?_, h.once,
    h.apart_update fun b hb => h.apart_of_eq hst (hown ▸ hb), hunused, fun n b hb => ?_⟩
  · by_cases hj : j = i
    · rw [hj, Function.update_self]
      exact hfits
    · rw [Function.update_of_ne hj]
      refine fits_congr (s := s) rfl (fun b _ hb => modify_live hb)
        (fun b hb hzero x hx => ?_) (h.fits j)
      have hne : b ≠ a := by
        rintro rfl
        exact hothers j hj hb
      exact hzero x ((Function.update_of_ne hne _ _).symm.trans hx)
  · exact modify_live (h.live n b hb)
  · by_cases hba : b = a
    · subst hba
      exact hcounted n hb
    · obtain ⟨S, hmem, hcard⟩ := h.counted n b hb
      refine ⟨S, fun j => ?_, fun x hx => ?_⟩
      · by_cases hj : j = i
        · rw [hmem j, hj, Function.update_self, hst]
          exact (href b hba).symm
        · rw [Function.update_of_ne hj]
          exact hmem j
      · exact hcard x ((Function.update_of_ne hba _ _).symm.trans hx)

theorem Inv.unused_update (h : Inv s st) (hst : st i = was)
    (href : ∀ b, stage.ref = some b → was.ref = some b)
    (hnew : ∀ n b, stage = .unused n b → was = .unused n b) (j : ι) (n b : ℕ)
    (hj : Function.update st i stage j = .unused n b) (k : ι) :
    (Function.update st i stage k).ref ≠ some b := by
  have hwas : st j = .unused n b := by
    by_cases hji : j = i
    · subst hji
      rw [Function.update_self] at hj
      rw [hst, hnew n b hj]
    · rwa [Function.update_of_ne hji] at hj
  intro hk
  refine h.unused j n b hwas k ?_
  by_cases hki : k = i
  · subst hki
    rw [Function.update_self] at hk
    rw [hst, href b hk]
  · rwa [Function.update_of_ne hki] at hk

theorem Inv.inc {a : ℕ} (h : Inv s st) (hst : st i = was) (hstage : was.inc a ≠ .wrong) :
    Inv (s.modify a fun x => { x with refcnt := x.refcnt + 1 })
      (Function.update st i (was.inc a)) := by
  have hfits := h.fits i
  rw [hst] at hfits
  unfold Stage.inc at hstage ⊢
  cases was with
  | seen n b =>
    cases b with
    | none => exact absurd rfl hstage
    | some b =>
      dsimp only at hstage ⊢
      split at hstage
      · rename_i hab
        subst hab
        rw [if_pos rfl]
        refine h.modify hst rfl hfits rfl (fun j _ hown => ?_) (fun c hc => ?_) (fun m hm => ?_) ?_
        · exact (fits_own (h.fits j) hown).2 n hfits
        · exact ⟨fun hb => absurd (Option.some.inj hb).symm hc, nofun⟩
        · obtain ⟨S, hmem, hcard⟩ := h.counted n b hfits
          have hnew : i ∉ S := by
            rw [hmem i, hst]
            exact nofun
          refine ⟨insert i S, fun j => ?_, fun y hy => ?_⟩
          · by_cases hj : j = i
            · rw [hj, Function.update_self]
              exact ⟨fun _ => rfl, fun _ => Finset.mem_insert_self i S⟩
            · rw [Function.update_of_ne hj, Finset.mem_insert, hmem j]
              exact or_iff_right hj
          · obtain ⟨x, hx, rfl⟩ := modify_self hy
            rw [Finset.card_insert_of_notMem hnew, hcard x hx]
            push_cast
            rfl
        · intro j m c hj
          by_cases hji : j = i
          · rw [hji, Function.update_self] at hj
            cases hj
          · rw [Function.update_of_ne hji] at hj
            exact absurd hj (h.notUnused hst rfl hji)
      · exact absurd rfl hstage
  | stray => exact hfits.elim
  | _ => exact absurd rfl hstage

theorem Inv.dec {a : ℕ} (h : Inv s st) (hst : st i = was) (hstage : was.dec a ≠ .wrong) :
    Inv (s.modify a fun x => { x with refcnt := x.refcnt - 1 })
      (Function.update st i (was.dec a)) := by
  have hfits := h.fits i
  rw [hst] at hfits
  unfold Stage.dec at hstage ⊢
  cases was with
  | holding n b =>
    dsimp only at hstage ⊢
    split at hstage
    · rename_i hab
      subst hab
      rw [if_pos rfl]
      refine h.modify hst rfl trivial rfl (fun j _ hown => ?_) (fun c hc => ?_) (fun m hm => ?_) ?_
      · exact (fits_own (h.fits j) hown).2 n hfits
      · exact ⟨nofun, fun hb => absurd (Option.some.inj hb).symm hc⟩
      · obtain ⟨S, hmem, hcard⟩ := h.counted n b hfits
        have hold : i ∈ S := by
          rw [hmem i, hst]
          rfl
        refine ⟨S.erase i, fun j => ?_, fun y hy => ?_⟩
        · by_cases hj : j = i
          · rw [hj, Function.update_self]
            exact ⟨fun hi => absurd hi (Finset.notMem_erase i S), nofun⟩
          · rw [Function.update_of_ne hj, Finset.mem_erase, hmem j]
            exact and_iff_right hj
        · obtain ⟨x, hx, rfl⟩ := modify_self hy
          have hpos : 0 < S.card := Finset.card_pos.mpr ⟨i, hold⟩
          have hsame := hcard x hx
          rw [Finset.card_erase_of_mem hold]
          show x.refcnt - 1 = _
          omega
      · exact h.unused_update hst nofun nofun
    · exact absurd rfl hstage
  | stray => exact hfits.elim
  | _ => exact absurd rfl hstage

theorem Inv.clear {a ifNum : ℕ} (h : Inv s st) (hst : st i = was) (hstage : was.clear a ≠ .wrong) :
    Inv (s.modify a fun _ => ⟨0, ifNum, 0, 0⟩) (Function.update st i (was.clear a)) := by
  have hfits := h.fits i
  rw [hst] at hfits
  unfold Stage.clear at hstage ⊢
  cases was with
  | mine isLocked cleared b =>
    cases isLocked with
    | true => exact absurd rfl hstage
    | false =>
      dsimp only at hstage ⊢
      split at hstage
      · rename_i hab
        subst hab
        rw [if_pos rfl]
        obtain ⟨⟨hlive, hnone⟩, -⟩ := hfits
        refine h.modify hst rfl ⟨⟨modify_live hlive, hnone⟩, fun _ y hy => ?_⟩ rfl
          (fun j hj hown => ?_) (fun c _ => .rfl) (fun m hm => absurd hm (hnone m)) ?_
        · obtain ⟨x, -, rfl⟩ := modify_self hy
          rfl
        · exact hj (h.apart j i b hown (hst ▸ rfl))
        · exact h.unused_update hst nofun nofun
      · exact absurd rfl hstage
  | stray => exact hfits.elim
  | _ => exact absurd rfl hstage

theorem Inv.setCallback {a cb appData : ℕ} (h : Inv s st) (hst : st i = was)
    (hstage : was.setCallback a ≠ .wrong) :
    Inv (s.modify a fun x => { x with appData := appData, msgCallback := cb })
      (Function.update st i (was.setCallback a)) := by
  have hfits := h.fits i
  rw [hst] at hfits
  unfold Stage.setCallback at hstage ⊢
  cases was with
  | unused n b =>
    dsimp only at hstage ⊢
    split at hstage
    · rename_i hab
      subst hab
      rw [if_pos rfl]
      refine h.modify hst rfl hfits rfl (fun j _ hown => ?_) (fun c _ => .rfl) (fun m hm => ?_) ?_
      · exact (fits_own (h.fits j) hown).2 n hfits
      · obtain ⟨S, hmem, hcard⟩ := h.counted n b hfits
        refine ⟨S, fun j => ?_, fun y hy => ?_⟩
        · rw [ref_update hst rfl]
          exact hmem j
        · obtain ⟨x, hx, rfl⟩ := modify_self hy
          exact hcard x hx
      · exact h.unused_update hst (fun _ hc => hc) fun _ _ hc => hc
    · exact absurd rfl hstage
  | stray => exact hfits.elim
  | _ => exact absurd rfl hstage

theorem Inv.publish {n a : ℕ} (h : Inv s st) (hst : st i = .vacant n a) :
    Inv { s with hdl := Function.update s.hdl n (some a) } (Function.update st i .locked) := by
  have hfits := h.fits i
  rw [hst] at hfits
  obtain ⟨hempty, ⟨hlive, hnone⟩, hzero⟩ := hfits
  have href : ∀ j, (Function.update st i .locked j).ref = (st j).ref := ref_update hst rfl
  refine ⟨lock_same h hst rfl rfl, fun j => ?_, fun m c hc => ?_, fun m k c hm hk => ?_,
    h.apart_update nofun, h.unused_update hst nofun nofun, fun m c hc => ?_⟩
  · by_cases hj : j = i
    · rw [hj, Function.update_self]
      trivial
    · rw [Function.update_of_ne hj]
      refine fits_setHdl (h.fits j) (h.lockFree hst rfl hj) (fun c _ hn => ?_) ?_
      · cases hempty.symm.trans hn
      rintro c hc hac
      obtain rfl := Option.some.inj hac
      exact hj (h.apart j i a hc (hst ▸ rfl))
  · rcases entry_cases hc with ⟨-, hac⟩ | ⟨-, hwas⟩
    · obtain rfl := Option.some.inj hac
      exact hlive
    · exact h.live m c hwas
  · rcases entry_cases hm with ⟨rfl, hac⟩ | ⟨-, hwas⟩
    · rcases entry_cases hk with ⟨rfl, -⟩ | ⟨-, hwas⟩
      · rfl
      · exact absurd (hwas.trans hac.symm) (hnone k)
    · rcases entry_cases hk with ⟨rfl, hac⟩ | ⟨-, hwas'⟩
      · exact absurd (hwas.trans hac.symm) (hnone m)
      · exact h.once m k c hwas hwas'
  · rcases entry_cases hc with ⟨-, hac⟩ | ⟨-, hwas⟩
    · obtain rfl := Option.some.inj hac
      refine ⟨∅, fun j => ?_, fun x hx => hzero x hx⟩
      rw [href]
      refine ⟨fun hj => absurd hj (Finset.notMem_empty j), fun href => ?_⟩
      obtain ⟨k, hk⟩ := fits_ref (h.fits j) href
      exact absurd hk (hnone k)
    · obtain ⟨S, hmem, hcard⟩ := h.counted m c hwas
      refine ⟨S, fun j => ?_, hcard⟩
      rw [href]
      exact hmem j

theorem Inv.remove {n a : ℕ} (h : Inv s st) (hst : st i = .unused n a) :
    Inv { s with hdl := Function.update s.hdl n none }
      (Function.update st i (.mine true false a)) := by
  have hfits := h.fits i
  rw [hst] at hfits
  have href : ∀ j, (Function.update st i (.mine true false a) j).ref = (st j).ref :=
    ref_update hst rfl
  have hunused := h.unused i n a hst
  have hwas : ∀ {m c : ℕ}, Function.update s.hdl n none m = some c → m ≠ n ∧ s.hdl m = some c := by
    intro m c hc
    rcases entry_cases hc with ⟨-, hnone⟩ | hwas
    · cases hnone
    · exact hwas
  refine ⟨lock_same h hst rfl rfl, fun j => ?_, fun m c hc => h.live m c (hwas hc).2,
    fun m k c hm hk => h.once m k c (hwas hm).2 (hwas hk).2,
    h.apart_update fun b hb j hj hown => ?_, h.unused_update hst nofun nofun, fun m c hc => ?_⟩
  · by_cases hj : j = i
    · rw [hj, Function.update_self]
      refine ⟨⟨h.live n a hfits, fun m hm => ?_⟩, nofun⟩
      exact (hwas hm).1 (h.once m n a (hwas hm).2 hfits)
    · rw [Function.update_of_ne hj]
      refine fits_setHdl (h.fits j) (h.lockFree hst rfl hj) (fun c hc hn => ?_) fun _ _ => nofun
      obtain rfl := Option.some.inj (hfits.symm.trans hn)
      exact hunused j hc
  · obtain rfl := Option.some.inj hb
    exact (fits_own (h.fits j) hown).2 n hfits
  · obtain ⟨S, hmem, hcard⟩ := h.counted m c (hwas hc).2
    refine ⟨S, fun j => ?_, hcard⟩
    rw [href]
    exact hmem j

theorem Inv.setHdl {n : ℕ} {entry : Option ℕ} (h : Inv s st) (hst : st i = was)
    (hstage : was.setHdl n entry ≠ .wrong) :
    Inv { s with hdl := Function.update s.hdl n entry }
      (Function.update st i (was.setHdl n entry)) := by
  have hfits := h.fits i
  rw [hst] at hfits
  unfold Stage.setHdl at hstage ⊢
  cases was with
  | vacant m a =>
    dsimp only at hstage ⊢
    split at hstage
    · rename_i hsame
      rw [if_pos hsame]
      obtain ⟨rfl, rfl⟩ := hsame
      exact h.publish hst
    · exact absurd rfl hstage
  | unused m a =>
    dsimp only at hstage ⊢
    split at hstage
    · rename_i hsame
      rw [if_pos hsame]
      obtain ⟨rfl, rfl⟩ := hsame
      exact h.remove hst
    · exact absurd rfl hstage
  | stray => exact hfits.elim
  | _ => exact absurd rfl hstage

theorem Inv.setHeap {a : ℕ} {x : Option CapwapHandle} (h : Inv s st) (hst : st i = was)
    (hnone : ∀ n, s.hdl n ≠ some a) (hothers : ∀ j, j ≠ i → (st j).own ≠ some a)
    (hlock : stage.holdsLock = was.holdsLock)
    (hfits : Fits { s with heap := Function.update s.heap a x } stage)
    (hown : ∀ b, stage.own = some b → b = a) (href : stage.ref = was.ref)
    (hunused : ∀ n b, stage ≠ .unused n b) :
    Inv { s with heap := Function.update s.heap a x } (Function.update st i stage) := by
  have hheap : ∀ {b}, b ≠ a → Function.update s.heap a x b = s.heap b :=
    fun hb => Function.update_of_ne hb _ _
  have htable : ∀ {n b}, s.hdl n = some b → b ≠ a := by
    rintro n b hb rfl
    exact hnone n hb
  refine ⟨lock_same h hst hlock rfl, fun j => ?_, fun n b hb => ?_, h.once,
    h.apart_update fun b hb => hown b hb ▸ hothers,
    h.unused_update hst (fun _ hb => href ▸ hb) fun n b hb => absurd hb (hunused n b),
    fun n b hb => ?_⟩
  · by_cases hj : j = i
    · rw [hj, Function.update_self]
      exact hfits
    · rw [Function.update_of_ne hj]
      have hne : ∀ {b}, (st j).own = some b → b ≠ a := by
        rintro b hb rfl
        exact hothers j hj hb
      refine fits_congr (s := s) rfl (fun b hb hlive => ?_) (fun b hb hzero y hy => ?_) (h.fits j)
      · obtain ⟨y, hy⟩ := hlive
        exact ⟨y, (hheap (hne hb)).trans hy⟩
      · exact hzero y ((hheap (hne hb)).symm.trans hy)
  · obtain ⟨y, hy⟩ := h.live n b hb
    exact ⟨y, (hheap (htable hb)).trans hy⟩
  · obtain ⟨S, hmem, hcard⟩ := h.counted n b hb
    refine ⟨S, fun j => ?_, fun y hy => hcard y ((hheap (htable hb)).symm.trans hy)⟩
    rw [ref_update hst href]
    exact hmem j

theorem Inv.free {a : ℕ} (h : Inv s st) (hst : st i = was) (hstage : was.free a ≠ .wrong) :
    Inv { s with heap := Function.update s.heap a none } (Function.update st i (was.free a)) := by
  have hfits := h.fits i
  rw [hst] at hfits
  unfold Stage.free at hstage ⊢
  cases was with
  | mine isLocked cleared b =>
    cases isLocked with
    | true => exact absurd rfl hstage
    | false =>
      dsimp only at hstage ⊢
      split at hstage
      · rename_i hab
        subst hab
        rw [if_pos rfl]
        exact h.setHeap hst hfits.1.2 (h.apart_of_eq hst rfl) rfl trivial nofun rfl nofun
      · exact absurd rfl hstage
  | stray => exact hfits.elim
  | _ => exact absurd rfl hstage

theorem Inv.alloc {a : ℕ} {x : CapwapHandle} (h : Inv s st) (hst : st i = was)
    (hstage : was.alloc (some a) ≠ .wrong) (hnew : s.heap a = none) :
    Inv { s with heap := Function.update s.heap a (some x) }
      (Function.update st i (was.alloc (some a))) := by
  have hfits := h.fits i
  rw [hst] at hfits
  have hnone : ∀ n, s.hdl n ≠ some a := by
    intro n hn
    obtain ⟨y, hy⟩ := h.live n a hn
    cases hnew.symm.trans hy
  cases was with
  | idle =>
    refine h.setHeap hst hnone (fun j _ hown => ?_) rfl ⟨⟨⟨x, ?_⟩, hnone⟩, nofun⟩
      (fun b hb => (Option.some.inj hb).symm) rfl nofun
    · obtain ⟨⟨y, hy⟩, -⟩ := fits_own (h.fits j) hown
      cases hnew.symm.trans hy
    · exact Function.update_self _ _ _
  | stray => exact hfits.elim
  | _ => exact absurd rfl hstage

theorem Inv.noAlloc (h : Inv s st) (hst : st i = was) (hstage : was.alloc none ≠ .wrong) :
    Inv s (Function.update st i (was.alloc none)) := by
  have hfits := h.fits i
  rw [hst] at hfits
  cases was with
  | idle => exact h.same hst rfl trivial nofun rfl nofun
  | stray => exact hfits.elim
  | _ => exact absurd rfl hstage

omit [DecidableEq ι] in
theorem Inv.congr (h : Inv s st) (hhdl : t.hdl = s.hdl) (hheap : t.heap = s.heap)
    (hlock : t.lock = s.lock) : Inv t st := by
  cases s
  cases t
  dsimp only at hhdl hheap hlock
  subst hhdl hheap hlock
  exact ⟨h.lock, fun i => fits_congr rfl (fun _ _ ha => ha) (fun _ _ ha => ha) (h.fits i), h.live,
    h.once, h.apart, h.unused, h.counted⟩

theorem Inv.quiet (h : Inv s st) (hhdl : t.hdl = s.hdl) (hheap : t.heap = s.heap)
    (hlock : t.lock = s.lock) : Inv t (Function.update st i (st i)) := by
  rw [Function.update_eq_self]
  exact h.congr hhdl hheap hlock

theorem Inv.event {e : CapwapEvent} (h : Inv s st) (hstage : (st i).step e ≠ .wrong)
    (heffect : s.Effect i e t) : Inv t (Function.update st i ((st i).step e)) := by
  cases e with
  | did c =>
    cases c with
    | spinLock =>
      obtain ⟨hfree, rfl⟩ := heffect
      exact h.spinLock rfl hstage hfree
    | spinUnlock =>
      obtain rfl := heffect
      exact h.spinUnlock rfl hstage
    | atomicInc a =>
      obtain rfl := heffect
      exact h.inc rfl hstage
    | atomicDec a =>
      obtain rfl := heffect
      exact h.dec rfl hstage
    | clearHandle a ifNum =>
      obtain rfl := heffect
      exact h.clear rfl hstage
    | setHdl n a =>
      obtain rfl := heffect
      exact h.setHdl rfl hstage
    | setCallback a cb appData =>
      obtain rfl := heffect
      exact h.setCallback rfl hstage
    | kfree a =>
      obtain rfl := heffect
      exact h.free rfl hstage
    | unregisterHandler ifNum =>
      obtain rfl := heffect
      exact h.quiet rfl rfl rfl
    | setDp ifNum f =>
      obtain rfl := heffect
      exact h.quiet rfl rfl rfl
    | oops =>
      obtain rfl := heffect
      exact h.oops rfl hstage
  | saw q a =>
    cases q with
    | hdl n =>
      obtain ⟨rfl, rfl⟩ := heffect
      exact h.look rfl hstage
    | atomicRead b =>
      obtain ⟨hv, rfl⟩ := heffect
      exact h.count rfl hstage hv
    | kmalloc =>
      cases a with
      | none =>
        obtain rfl := heffect
        exact h.noAlloc rfl hstage
      | some b =>
        obtain ⟨hnew, x, rfl⟩ := heffect
        exact h.alloc rfl hstage hnew
    | registerHandler ifNum cb appData =>
      obtain ⟨-, rfl⟩ := heffect
      exact h.quiet rfl rfl rfl
    | ndev ifNum =>
      obtain ⟨-, rfl⟩ := heffect
      exact h.quiet rfl rfl rfl
    | isCapwap ifNum =>
      obtain rfl := heffect
      exact h.quiet rfl rfl rfl
    | coreInitialized =>
      obtain rfl := heffect
      exact h.quiet rfl rfl rfl
    | devAllocSkb =>
      obtain rfl := heffect
      exact h.quiet rfl rfl rfl
    | sendBuffer =>
      obtain rfl := heffect
      exact h.quiet rfl rfl rfl
    | halt => exact heffect.elim

end Moves

/-- What an event makes of the handle that its call has counted up. -/
def refAfter (ref : Option ℕ) : CapwapEvent → Option ℕ
  | .did (.atomicInc h) => some h
  | .did (.atomicDec _) => none
  | _ => ref

theorem ref_lock (h : stage.lock ≠ .wrong) : stage.lock.ref = stage.ref := by
  unfold Stage.lock at h ⊢
  split <;> simp_all [Stage.ref]

theorem ref_unlock (h : stage.unlock ≠ .wrong) : stage.unlock.ref = stage.ref := by
  unfold Stage.unlock at h ⊢
  split <;> simp_all [Stage.ref]

theorem ref_clear {a : ℕ} (h : stage.clear a ≠ .wrong) : (stage.clear a).ref = stage.ref := by
  unfold Stage.clear at h ⊢
  split <;> simp_all [Stage.ref]

theorem ref_setHdl {n : ℕ} {a : Option ℕ} (h : stage.setHdl n a ≠ .wrong) :
    (stage.setHdl n a).ref = stage.ref := by
  unfold Stage.setHdl at h ⊢
  split <;> simp_all [Stage.ref]

theorem ref_setCallback {a : ℕ} (h : stage.setCallback a ≠ .wrong) :
    (stage.setCallback a).ref = stage.ref := by
  unfold Stage.setCallback at h ⊢
  split <;> simp_all [Stage.ref]

theorem ref_free {a : ℕ} (h : stage.free a ≠ .wrong) : (stage.free a).ref = stage.ref := by
  unfold Stage.free at h ⊢
  split <;> simp_all [Stage.ref]

theorem ref_oops (h : stage.oops ≠ .wrong) : stage.ref = none ∧ stage.oops.ref = none := by
  unfold Stage.oops at h ⊢
  split <;> simp_all [Stage.ref]

theorem ref_look {n : ℕ} {a : Option ℕ} (h : stage.look n a ≠ .wrong)
    (hstray : stage.look n a ≠ .stray) : (stage.look n a).ref = stage.ref := by
  cases stage with
  | mine isLocked isCleared b =>
    cases isLocked <;> cases isCleared <;> grind [Stage.look, Stage.ref]
  | _ => grind [Stage.look, Stage.ref]

theorem ref_count {a : ℕ} {v : ℤ} (h : stage.count a v ≠ .wrong) :
    (stage.count a v).ref = stage.ref := by
  cases stage with
  | seen n b => cases b <;> grind [Stage.count, Stage.ref]
  | _ => grind [Stage.count, Stage.ref]

theorem ref_alloc {a : Option ℕ} (h : stage.alloc a ≠ .wrong) :
    (stage.alloc a).ref = stage.ref := by
  unfold Stage.alloc at h ⊢
  split
  · cases a <;> rfl
  · rfl
  · simp_all

theorem ref_inc {a : ℕ} (h : stage.inc a ≠ .wrong) (hstray : stage.inc a ≠ .stray) :
    stage.ref = none ∧ (stage.inc a).ref = some a := by
  unfold Stage.inc at h hstray ⊢
  split <;> simp_all [Stage.ref]

theorem ref_dec {a : ℕ} (h : stage.dec a ≠ .wrong) (hstray : stage.dec a ≠ .stray) :
    stage.ref = some a ∧ (stage.dec a).ref = none := by
  unfold Stage.dec at h hstray ⊢
  split <;> simp_all [Stage.ref]

theorem ref_step {e : CapwapEvent} (h : stage.step e ≠ .wrong) (hstray : stage.step e ≠ .stray) :
    (stage.step e).ref = refAfter stage.ref e := by
  cases e with
  | did c =>
    cases c with
    | spinLock => exact ref_lock h
    | spinUnlock => exact ref_unlock h
    | atomicInc a => exact (ref_inc h hstray).2
    | atomicDec a => exact (ref_dec h hstray).2
    | clearHandle a ifNum => exact ref_clear h
    | setHdl n a => exact ref_setHdl h
    | setCallback a cb appData => exact ref_setCallback h
    | kfree a => exact ref_free h
    | oops =>
      obtain ⟨hwas, hnow⟩ := ref_oops h
      exact hnow.trans hwas.symm
    | _ => rfl
  | saw q a =>
    cases q with
    | hdl n => exact ref_look h hstray
    | atomicRead b => exact ref_count h
    | kmalloc => exact ref_alloc h
    | _ => rfl

theorem setHdl_none {n : ℕ} (h : stage.setHdl n none ≠ .wrong)
    (hstray : stage.setHdl n none ≠ .stray) : ∃ a, stage = .unused n a := by
  unfold Stage.setHdl at h hstray
  split at h
  · simp at h
  · simp_all
  · exact absurd rfl hstray
  · exact absurd rfl h

theorem free_own {a : ℕ} (h : stage.free a ≠ .wrong) (hstray : stage.free a ≠ .stray) :
    stage.own = some a := by
  unfold Stage.free at h hstray
  split at h <;> simp_all [Stage.own]

abbrev capwapSystem (ι : Type) :
    System (Capwap ι) CapwapCommand CapwapAnswer CapwapResult Stage ι where
  Calls := CapwapCalls
  effect := Capwap.Effect
  idle := .idle
  monitor := Stage.step

structure CapwapStart (s : Capwap ι) : Prop where
  hdl : ∀ n, s.hdl n = none
  heap : ∀ h, s.heap h = none
  lock : s.lock = none

abbrev CapwapThreads (ι : Type) := Threads (Capwap ι) CapwapCommand CapwapAnswer CapwapResult Stage ι

/-- Between its increment and its decrement of this handle. -/
def InFlight (w : CapwapThreads ι) (i : ι) (h : ℕ) : Prop := (w.stage i).ref = some h

/-- The count is that of the calls in flight, whose handle is allocated and in
    the table. -/
structure Referenced (w : CapwapThreads ι) : Prop where
  counted : ∀ n h, w.shared.hdl n = some h → ∃ x, w.shared.heap h = some x ∧
    ∃ S : Finset ι, (∀ i, i ∈ S ↔ InFlight w i h) ∧ x.refcnt = S.card
  listed : ∀ i h, InFlight w i h → ∃ n, w.shared.hdl n = some h

/-- A call is in flight from its increment to its decrement, which is of the
    same handle, and no handle is removed or freed while a call is. -/
def Respected (w w' : CapwapThreads ι) : Label CapwapCommand CapwapAnswer ι → Prop
  | .start _ => ∀ j h, InFlight w' j h ↔ InFlight w j h
  | .event i e => (∀ j, j ≠ i → ∀ h, InFlight w' j h ↔ InFlight w j h) ∧
    match e with
    | .did (.atomicInc h) => (∀ h', ¬ InFlight w i h') ∧ InFlight w' i h
    | .did (.atomicDec h) => InFlight w i h ∧ ∀ h', ¬ InFlight w' i h'
    | .did (.setHdl n none) => (∀ h, InFlight w' i h ↔ InFlight w i h) ∧
      ∀ h, w.shared.hdl n = some h → ∀ j, ¬ InFlight w j h
    | .did (.kfree h) => (∀ h', InFlight w' i h' ↔ InFlight w i h') ∧ ∀ j, ¬ InFlight w j h
    | .did .oops => ∀ h, ¬ InFlight w i h
    | _ => ∀ h, InFlight w' i h ↔ InFlight w i h

section Runs
variable [DecidableEq ι] {w w' : CapwapThreads ι} {l : Label CapwapCommand CapwapAnswer ι}

theorem capwap_keeps : Keeps (capwapSystem ι) (fun stage => stage ≠ .wrong) Done Inv where
  idle := ⟨nofun, .inl rfl⟩
  calls _ h := capwap_staged h
  returned s st i h hdone := by
    rcases hdone with hidle | hstray
    · exact hidle
    · have hfits := h.fits i
      rw [hstray] at hfits
      exact hfits.elim
  event s st i e t _ hstage heffect h := h.event hstage heffect

omit [DecidableEq ι] in
theorem CapwapStart.inv {s : Capwap ι} (h : CapwapStart s) : Inv s fun _ => .idle where
  lock i := by
    rw [h.lock]
    exact ⟨nofun, nofun⟩
  fits _ := trivial
  live n a ha := by cases (h.hdl n).symm.trans ha
  once n m a ha := by cases (h.hdl n).symm.trans ha
  apart _ _ _ := nofun
  unused _ _ _ := nofun
  counted n a ha := by cases (h.hdl n).symm.trans ha

abbrev CapwapKept (w : CapwapThreads ι) : Prop :=
  Monitored (capwapSystem ι) (fun stage => stage ≠ .wrong) Done Inv w

theorem capwap_kept (h : Reachable (Start (capwapSystem ι) CapwapStart) (Step (capwapSystem ι)) w) :
    CapwapKept w :=
  capwap_keeps.reachable (fun _ hs => hs.inv) h

omit [DecidableEq ι] in
theorem CapwapKept.referenced (h : CapwapKept w) : Referenced w := by
  constructor
  · intro n a ha
    obtain ⟨x, hx⟩ := h.inv.live n a ha
    obtain ⟨S, hmem, hcard⟩ := h.inv.counted n a ha
    exact ⟨x, hx, S, hmem, hcard x hx⟩
  · exact fun i a href => fits_ref (h.inv.fits i) href

omit [DecidableEq ι] in
theorem inv_notStray {s : Capwap ι} {st : ι → Stage} (h : Inv s st) (i : ι) : st i ≠ .stray := by
  intro hstray
  have hfits := h.fits i
  rw [hstray] at hfits
  exact hfits

theorem CapwapKept.respected (h : CapwapKept w) (hstep : Step (capwapSystem ι) w l w') :
    Respected w w' l := by
  have hafter := h.step capwap_keeps hstep
  cases hstep with
  | start i p a hidle hcall =>
    intro j b
    have hstage : w.stage i = .idle := by
      have hreturned := h.staged i
      rw [hidle] at hreturned
      exact capwap_keeps.returned _ _ i h.inv hreturned.2
    unfold InFlight
    dsimp only
    rw [← hstage, Function.update_eq_self]
  | event i e p t hnext heffect =>
    have hstage : (w.stage i).step e ≠ .wrong := ((h.staged i).next hnext).here
    have hstray : (w.stage i).step e ≠ .stray := by
      have hnot := inv_notStray hafter.inv i
      dsimp only at hnot
      rwa [Function.update_self] at hnot
    have hother : ∀ j, j ≠ i → ∀ b,
        ((Function.update w.stage i ((w.stage i).step e) j).ref = some b ↔
          (w.stage j).ref = some b) := by
      intro j hj b
      rw [Function.update_of_ne hj]
    have hself := ref_step hstage hstray
    refine ⟨hother, ?_⟩
    unfold InFlight
    dsimp only
    rw [Function.update_self, hself]
    clear hother hself hafter
    cases e with
    | did c =>
      cases c with
      | atomicInc a =>
        have hnone := (ref_inc hstage hstray).1
        exact ⟨fun b hb => (nomatch hnone.symm.trans hb), rfl⟩
      | atomicDec a => exact ⟨(ref_dec hstage hstray).1, nofun⟩
      | setHdl n a =>
        cases a with
        | some a => exact fun _ => .rfl
        | none =>
          obtain ⟨a, hunused⟩ := setHdl_none hstage hstray
          have hfits := h.inv.fits i
          rw [hunused] at hfits
          refine ⟨fun _ => .rfl, fun b hb => ?_⟩
          obtain rfl := Option.some.inj (hfits.symm.trans hb)
          exact h.inv.unused i n a hunused
      | kfree a =>
        refine ⟨fun _ => .rfl, fun j hj => ?_⟩
        obtain ⟨n, hn⟩ := fits_ref (h.inv.fits j) hj
        exact (fits_own (h.inv.fits i) (free_own hstage hstray)).2 n hn
      | oops => exact fun b hb => nomatch (ref_oops hstage).1.symm.trans hb
      | _ => exact fun _ => .rfl
    | saw q a => exact fun _ => .rfl

/-- In every run the counts are those of the messages in flight, and every step
    respects them. -/
theorem handles_referenced
    (h : Reachable (Start (capwapSystem ι) CapwapStart) (Step (capwapSystem ι)) w) :
    Referenced w ∧ ∀ l w', Step (capwapSystem ι) w l w' → Respected w w' l :=
  ⟨(capwap_kept h).referenced, fun _ _ hstep => (capwap_kept h).respected hstep⟩

end Runs

def noTunnel : CapwapThreads Bool where
  shared := ⟨fun _ => none, fun _ => none, none, fun _ => ⟨0, 0⟩, fun _ => ⟨0, 0, 0, 0⟩⟩
  calls _ := .ret (.done false)
  stage _ := .idle

theorem kmalloc_effect (i : ι) {s : Capwap ι} {h : ℕ} (x : CapwapHandle) (hnew : s.heap h = none) :
    s.Effect i (.saw .kmalloc (some h)) { s with heap := Function.update s.heap h (some x) } :=
  ⟨hnew, x, rfl⟩

/-- A tunnel is registered, and a message to it is in flight. -/
theorem handles_referenced_inFlight : ∃ w : CapwapThreads Bool, InFlight w false 7 ∧
    (Referenced w ∧ ∀ l w', Step (capwapSystem Bool) w l w' → Respected w w' l) := by
  have hstart : Reachable (Start (capwapSystem Bool) CapwapStart) (Step (capwapSystem Bool))
      noTunnel := .start ⟨⟨fun _ => rfl, fun _ => rfl, rfl⟩, fun _ => ⟨_, rfl⟩, fun _ => rfl⟩
  have hregister := hstart.next
    (.start _ true (nssCapwapDataRegister 24 1 2 0) _ rfl (.dataRegister 24 1 2 0))
  have hverify := hregister.next (.ask true true rfl rfl)
  have hlock := hverify.next (.tell true rfl ⟨rfl, rfl⟩)
  have hndev := hlock.next (.ask true (0 : ℕ) rfl ⟨rfl, rfl⟩)
  have hunlock := hndev.next (.tell true rfl rfl)
  have hhandler := hunlock.next (.ask true CoreStatus.success rfl ⟨rfl, rfl⟩)
  have hkmalloc := hhandler.next (.ask (q := CapwapQuery.kmalloc) true (some 7) rfl
    (kmalloc_effect true ⟨0, 0, 0, 0⟩ rfl))
  have hclear := hkmalloc.next (.tell true rfl rfl)
  have hlock' := hclear.next (.tell true rfl ⟨rfl, rfl⟩)
  have hempty := hlock'.next (.ask true none rfl ⟨rfl, rfl⟩)
  have hset := hempty.next (.tell true rfl rfl)
  have hunlock' := hset.next (.tell true rfl rfl)
  have hsend := hunlock'.next (.start _ false (nssCapwapTxMsg ⟨24, 1, true⟩) _ rfl (.txMsg _))
  have hverify' := hsend.next (.ask false true rfl rfl)
  have hlock'' := hverify'.next (.tell false rfl ⟨rfl, rfl⟩)
  have hseen := hlock''.next (.ask false (some 7) rfl ⟨rfl, rfl⟩)
  have hagain := hseen.next (.ask false (some 7) rfl ⟨rfl, rfl⟩)
  have hinc := hagain.next (.tell false rfl rfl)
  refine ⟨_, ?_, handles_referenced hinc⟩
  rfl

end NssDrv.CapwapReferences

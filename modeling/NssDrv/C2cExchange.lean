import NssDrv.CoreProbe
import NssDrv.RaisedFlags
import NssDrv.ThreadPool
import NssDrv.TransmitApi

set_option autoImplicit false

/-!
# The exchange of core-to-core maps

The first empty-buffer interrupt of a core in `nss_core.c`: the core is
initialised, and where it finds another core initialised the driver sends each
of the two the addresses of the other, each over that core's command ring and
under its lock. The cores come up on several CPUs at once; nobody but the
driver knows of both.
-/
namespace NssDrv.C2cExchange
open HlosInterface SharedThread ThreadPool TransitionRuns RaisedFlags TransmitApi
open CoreProbe (NSS_MAX_CORES)

def NSS_REGS_C2C_INTR_SET_OFFSET : U32 := 0x0018

/-- How `nss_send_c2c_map` fares: no buffer, no place on the ring, or done. -/
inductive SendFate where
  | allocFails
  | refused
  | enqueued
deriving DecidableEq

/-- `struct nss_c2c_tx_map`. -/
structure C2cTxMap where
  c2cStart : U32
  c2cIntAddr : U32

/-- A call of `nss_send_c2c_map`, with the message if it got so far. -/
structure C2cSend where
  own : ℕ
  other : ℕ
  fate : SendFate
  txMap : Option C2cTxMap

/-- The two cores in `nss_top`, with the lock of each core's command ring and the
    word of its shared memory map that is copied, and two ghosts: the maps sent,
    and which initialised core has found which other one not initialised. -/
structure C2cTop where
  state : ℕ → U32
  lock : Option ℕ
  ringLock : ℕ → Option ℕ
  c2cStart : ℕ → U32
  nphys : ℕ → U32
  ifC2cStart : ℕ → U32
  sends : List C2cSend
  alone : List (ℕ × ℕ)

namespace C2cTop

/-- A core stays alone only as long as it is initialised. -/
def setState (i : ℕ) (state : U32) (d : C2cTop) : C2cTop :=
  { d with
    state := Function.update d.state i state
    alone := if state = NSS_CORE_STATE_INITIALIZED then d.alone
      else d.alone.filter fun p => p.1 ≠ i }

def Up (d : C2cTop) (i : ℕ) : Prop := d.state i = NSS_CORE_STATE_INITIALIZED

instance (d : C2cTop) (i : ℕ) : Decidable (d.Up i) := inferInstanceAs (Decidable (_ = _))

def look (own i : ℕ) (d : C2cTop) : C2cTop :=
  if d.Up own ∧ ¬ d.Up i then { d with alone := (own, i) :: d.alone } else d

end C2cTop

/-- `spin_lock_bh(&nss_top->lock)`. -/
def lockTop (own : ℕ) : Proc C2cTop Unit :=
  Proc.await (fun d : C2cTop => d.lock.isNone) fun d => { d with lock := some own }

def unlockTop : Proc C2cTop Unit := Proc.modify fun d : C2cTop => { d with lock := none }

/-- The section of `nss_core_send_buffer` under the lock of core `i`'s command ring. -/
def nssCoreSendBuffer (cpu i : ℕ) (f : C2cTop → C2cTop) : Proc C2cTop Unit := do
  Proc.await (fun d : C2cTop => (d.ringLock i).isNone)
    fun d => { d with ringLock := Function.update d.ringLock i (some cpu) }
  Proc.modify f
  Proc.modify fun d => { d with ringLock := Function.update d.ringLock i none }

/-- Called by the handler of core `cpu`. -/
def nssSendC2cMap (cpu own other : ℕ) (fate : SendFate) : Proc C2cTop Unit := do
  if fate = .allocFails then
    Proc.modify fun d : C2cTop => { d with sends := d.sends ++ [⟨own, other, fate, none⟩] }
  else do
    let c2cStart ← Proc.read fun d : C2cTop => d.c2cStart other
    let nphys ← Proc.read fun d : C2cTop => d.nphys other
    let txMap : C2cTxMap := ⟨c2cStart, nphys + NSS_REGS_C2C_INTR_SET_OFFSET⟩
    nssCoreSendBuffer cpu own
      fun d => { d with sends := d.sends ++ [⟨own, other, fate, some txMap⟩] }

/-- `nss_ipv4_update_conn_count` and `nss_ipv6_update_conn_count`, as far as they
    have a message for core 0. -/
def updateConnCounts (own : ℕ) : List SendFate → Proc C2cTop Unit
  | [] => return
  | fate :: rest =>
    if fate = .allocFails then updateConnCounts own rest
    else do
      nssCoreSendBuffer own 0 id
      updateConnCounts own rest

/-- `isScheduled` is what `nss_data_plane_schedule_registration` answers; it is
    asked for core 0 only. `updates` are the connection counts still to be sent. -/
def nssCoreInitNss (own : ℕ) (isScheduled : Bool) (updates : List SendFate) :
    Proc C2cTop Unit := do
  Proc.modify fun d : C2cTop => { d with ringLock := Function.update d.ringLock own none }
  let c2cStart ← Proc.read fun d : C2cTop => d.ifC2cStart own
  Proc.modify fun d : C2cTop => { d with c2cStart := Function.update d.c2cStart own c2cStart }
  lockTop own
  Proc.modify (C2cTop.setState own NSS_CORE_STATE_INITIALIZED)
  unlockTop
  if own = 0 ∧ isScheduled = false then do
    lockTop own
    Proc.modify (C2cTop.setState own NSS_CORE_STATE_UNINITIALIZED)
    unlockTop
  else if own = 0 then updateConnCounts own updates
  else return

def exchange (own : ℕ) (fate : ℕ → ℕ → SendFate) : List ℕ → Proc C2cTop Unit
  | [] => return
  | i :: rest =>
    if i = own then exchange own fate rest
    else do
      lockTop own
      let state ← Proc.act (fun _ => true) (C2cTop.look own i) fun d => .ret (d.state i)
      unlockTop
      if state = NSS_CORE_STATE_INITIALIZED then do
        nssSendC2cMap own i own (fate i own)
        nssSendC2cMap own own i (fate own i)
        exchange own fate rest
      else exchange own fate rest

/-- What a core that is found uninitialised gets before the refill. -/
def bringUp (own : ℕ) (isScheduled : Bool) (updates : List SendFate) (fate : ℕ → ℕ → SendFate) :
    Proc C2cTop Unit := do
  nssCoreInitNss own isScheduled updates
  exchange own fate (List.range NSS_MAX_CORES)

/-- `nss_core_handle_cause_nonqueue` up to the refill. -/
def handleEmptyBuffersSos (own : ℕ) (isScheduled : Bool) (updates : List SendFate)
    (fate : ℕ → ℕ → SendFate) : Proc C2cTop Unit := do
  let state ← Proc.read fun d : C2cTop => d.state own
  if state = NSS_CORE_STATE_UNINITIALIZED then bringUp own isScheduled updates fate
  else return

inductive SosCall : ℕ → Proc C2cTop Unit → Prop where
  | sos (own : ℕ) (isScheduled : Bool) (updates : List SendFate) (fate : ℕ → ℕ → SendFate) :
      SosCall own (handleEmptyBuffersSos own isScheduled updates fate)

/-- Beside it: a core dies or is told of a panic, or somebody else uses a lock. The
    store of a `|=` may come long after the load of what it adds to. -/
inductive Elsewhere : C2cTop → C2cTop → Prop where
  | mark (d : C2cTop) (i : ℕ) (loaded bit : U32)
      (known : bit = NSS_CORE_STATE_FW_DEAD ∨ bit = NSS_CORE_STATE_FW_DUMP ∨
        bit = NSS_CORE_STATE_PANIC) :
      Elsewhere d (d.setState i (loaded ||| bit))
  | lock (d : C2cTop) (holder : ℕ) (outside : NSS_MAX_CORES ≤ holder) (free : d.lock = none) :
      Elsewhere d { d with lock := some holder }
  | unlock (d : C2cTop) (holder : ℕ) (outside : NSS_MAX_CORES ≤ holder)
      (held : d.lock = some holder) : Elsewhere d { d with lock := none }
  | ringLock (d : C2cTop) (i holder : ℕ) (outside : NSS_MAX_CORES ≤ holder)
      (free : d.ringLock i = none) :
      Elsewhere d { d with ringLock := Function.update d.ringLock i (some holder) }
  | ringUnlock (d : C2cTop) (i holder : ℕ) (outside : NSS_MAX_CORES ≤ holder)
      (held : d.ringLock i = some holder) :
      Elsewhere d { d with ringLock := Function.update d.ringLock i none }

abbrev SosPool := Pool ℕ C2cTop Unit

abbrev SosStep : SosPool → Label ℕ C2cTop Unit → SosPool → Prop := Step SosCall Elsewhere

structure Fresh (d : C2cTop) : Prop where
  state : ∀ i, d.state i = NSS_CORE_STATE_UNINITIALIZED
  sends : d.sends = []
  alone : d.alone = []

def upFlags : Flags C2cTop ℕ := ⟨C2cTop.Up, fun d i j => (i, j) ∈ d.alone⟩

/-- The start address of core `i` is copied. -/
def Copied (d : C2cTop) (i : ℕ) : Prop := d.c2cStart i = d.ifC2cStart i

def UpCopied (d : C2cTop) : Prop := ∀ i, d.Up i → Copied d i

/-- A map names the addresses of the core it is about. -/
def Truthful (d : C2cTop) : Prop := ∀ s ∈ d.sends, ∀ m, s.txMap = some m →
  m.c2cStart = d.ifC2cStart s.other ∧
    m.c2cIntAddr = d.nphys s.other + NSS_REGS_C2C_INTR_SET_OFFSET

/-- Both maps between the two were sent. -/
def Exchanged (d : C2cTop) (i j : ℕ) : Prop :=
  (∃ s ∈ d.sends, s.own = i ∧ s.other = j) ∧ ∃ s ∈ d.sends, s.own = j ∧ s.other = i

structure Kept (d d' : C2cTop) : Prop where
  ifC2cStart : d'.ifC2cStart = d.ifC2cStart
  nphys : d'.nphys = d.nphys
  copied : ∀ i, Copied d i → Copied d' i
  sends : ∀ s ∈ d.sends, s ∈ d'.sends
  truthful : Truthful d → Truthful d'
  upCopied : UpCopied d → UpCopied d'
  flags : upFlags.Move d d'

/-- What core `own` may do in one access: no other core comes up, and one that
    stays up does not lose whom it has missed. -/
structure Move (own : ℕ) (d d' : C2cTop) : Prop extends Kept d d' where
  up : ∀ i, i ≠ own → d'.Up i → d.Up i
  alone : ∀ i j, d'.Up i → (i, j) ∈ d.alone → (i, j) ∈ d'.alone

structure View (own : ℕ) (d d' : C2cTop) : Prop extends Kept d d' where
  up : d'.Up own → d.Up own
  alone : ∀ j, d'.Up own → (own, j) ∈ d.alone → (own, j) ∈ d'.alone

theorem Move.view {own other : ℕ} {d d' : C2cTop} (h : Move other d d') (hne : other ≠ own) :
    View own d d' :=
  { h.toKept with
    up := h.up own (Ne.symm hne)
    alone := h.alone own }

section Moves
variable {d d' : C2cTop} {own i : ℕ} {state : U32}

theorem Move.of_aside (hstate : d'.state = d.state) (hc2c : d'.c2cStart = d.c2cStart)
    (hif : d'.ifC2cStart = d.ifC2cStart) (hnphys : d'.nphys = d.nphys)
    (hsends : d'.sends = d.sends) (halone : d'.alone = d.alone) : Move own d d' := by
  have hup : ∀ i, d'.Up i ↔ d.Up i := fun i => by rw [C2cTop.Up, hstate, C2cTop.Up]
  have hcopied : ∀ i, Copied d' i ↔ Copied d i := fun i => by rw [Copied, hc2c, hif, Copied]
  exact
    { ifC2cStart := hif
      nphys := hnphys
      copied := fun i => (hcopied i).mpr
      sends := by simp [hsends]
      truthful := fun h => by simpa [Truthful, hsends, hif, hnphys] using h
      upCopied := fun h i hi => (hcopied i).mpr (h i ((hup i).mp hi))
      flags := by
        refine ⟨fun i _ _ => (hup i).mpr, fun i j hij => .inl ?_⟩
        change (i, j) ∈ d.alone
        rw [← halone]
        exact hij
      up := fun i _ => (hup i).mp
      alone := by simp [halone] }

theorem Move.refl (own : ℕ) (d : C2cTop) : Move own d d := .of_aside rfl rfl rfl rfl rfl rfl

theorem Move.onRingLock (own : ℕ) (d : C2cTop) (i : ℕ) (l : Option ℕ) :
    Move own d { d with ringLock := Function.update d.ringLock i l } :=
  .of_aside rfl rfl rfl rfl rfl rfl

theorem setState_self (i : ℕ) (state : U32) (d : C2cTop) : (d.setState i state).state i = state :=
  Function.update_self ..

theorem setState_other {j : ℕ} (h : j ≠ i) : (d.setState i state).state j = d.state j :=
  Function.update_of_ne h ..

theorem up_setState_other {j : ℕ} (h : j ≠ i) : (d.setState i state).Up j ↔ d.Up j := by
  rw [C2cTop.Up, setState_other h, C2cTop.Up]

theorem Move.lower (hstate : state ≠ NSS_CORE_STATE_INITIALIZED) :
    Kept d (d.setState i state) ∧ (∀ j, (d.setState i state).Up j → d.Up j) ∧
      ∀ j k, (d.setState i state).Up j → (j, k) ∈ d.alone → (j, k) ∈ (d.setState i state).alone := by
  have halone : (d.setState i state).alone = d.alone.filter fun p => p.1 ≠ i := if_neg hstate
  have hdown : ¬ (d.setState i state).Up i := by
    rw [C2cTop.Up, setState_self]
    exact hstate
  have hup : ∀ j, (d.setState i state).Up j → j ≠ i ∧ d.Up j := by
    intro j hj
    by_cases hne : j = i
    · subst hne
      exact (hdown hj).elim
    · exact ⟨hne, (up_setState_other hne).mp hj⟩
  refine ⟨⟨rfl, rfl, fun _ => id, fun _ => id, id, fun h j hj => h j (hup j hj).2, ⟨?_, ?_⟩⟩,
    fun j hj => (hup j hj).2, fun j k hj hjk => ?_⟩
  · intro j k hjk hj
    have hmem : (j, k) ∈ d.alone.filter fun p => p.1 ≠ i := halone ▸ hjk
    have hne : j ≠ i := by simpa using (List.mem_filter.mp hmem).2
    exact (up_setState_other hne).mpr hj
  · intro j k hjk
    have hmem : (j, k) ∈ d.alone.filter fun p => p.1 ≠ i := halone ▸ hjk
    exact .inl (List.mem_filter.mp hmem).1
  · rw [halone, List.mem_filter]
    simpa using ⟨hjk, (hup j hj).1⟩

theorem Move.setBack (own : ℕ) (d : C2cTop) :
    Move own d (d.setState own NSS_CORE_STATE_UNINITIALIZED) := by
  have hdown : NSS_CORE_STATE_UNINITIALIZED ≠ NSS_CORE_STATE_INITIALIZED := by decide
  obtain ⟨hkept, hup, halone⟩ := @Move.lower d own _ hdown
  exact ⟨hkept, fun i _ => hup i, halone⟩

theorem Move.raise (hcopied : Copied d own) :
    Move own d (d.setState own NSS_CORE_STATE_INITIALIZED) where
  ifC2cStart := rfl
  nphys := rfl
  copied _ := id
  sends _ := id
  truthful := id
  upCopied h j hj := by
    by_cases hne : j = own
    · rw [hne]
      exact hcopied
    · exact h j ((up_setState_other hne).mp hj)
  flags := by
    refine ⟨fun j k _ hj => ?_, fun j k => .inl⟩
    by_cases hne : j = own
    · rw [hne]
      exact setState_self ..
    · exact (up_setState_other hne).mpr hj
  up j hne := (up_setState_other hne).mp
  alone _ _ _ hjk := by
    rw [C2cTop.setState, if_pos rfl]
    exact hjk

theorem Move.look (own i : ℕ) (d : C2cTop) : Move own d (d.look own i) := by
  unfold C2cTop.look
  split
  · rename_i hlook
    exact
      { ifC2cStart := rfl
        nphys := rfl
        copied := fun _ => id
        sends := fun _ => id
        truthful := id
        upCopied := id
        flags := by
          refine ⟨fun _ _ _ hup => hup, fun j k hjk => ?_⟩
          rcases List.mem_cons.mp hjk with heq | hold
          · obtain ⟨rfl, rfl⟩ := Prod.mk.inj heq
            exact .inr hlook
          · exact .inl hold
        up := fun _ _ => id
        alone := fun _ _ _ => List.mem_cons_of_mem _ }
  · exact .refl own d

theorem Move.copy (own : ℕ) (d : C2cTop) {c2cStart : U32} (h : c2cStart = d.ifC2cStart own) :
    Move own d { d with c2cStart := Function.update d.c2cStart own c2cStart } := by
  have hcopied : ∀ i, Copied d i →
      Copied { d with c2cStart := Function.update d.c2cStart own c2cStart } i := by
    intro i hi
    by_cases hne : i = own
    · subst hne
      exact (Function.update_self ..).trans h
    · exact (Function.update_of_ne hne ..).trans hi
  exact
    { ifC2cStart := rfl
      nphys := rfl
      copied := hcopied
      sends := fun _ => id
      truthful := id
      upCopied := fun h i hi => hcopied i (h i hi)
      flags := ⟨fun _ _ _ hup => hup, fun _ _ => .inl⟩
      up := fun _ _ => id
      alone := fun _ _ _ => id }

theorem Move.send {s : C2cSend} (hs : ∀ m, s.txMap = some m →
    m.c2cStart = d.ifC2cStart s.other ∧
      m.c2cIntAddr = d.nphys s.other + NSS_REGS_C2C_INTR_SET_OFFSET) :
    Move own d { d with sends := d.sends ++ [s] } where
  ifC2cStart := rfl
  nphys := rfl
  copied _ := id
  sends _ := List.mem_append_left _
  truthful h t ht m hm := by
    rcases List.mem_append.mp ht with hold | hnew
    · exact h t hold m hm
    · obtain rfl := List.mem_singleton.mp hnew
      exact hs m hm
  upCopied := id
  flags := ⟨fun _ _ _ hup => hup, fun _ _ => .inl⟩
  up _ _ := id
  alone _ _ _ := id

theorem or_bit_ne (x : U32) {bit : U32}
    (known : bit = NSS_CORE_STATE_FW_DEAD ∨ bit = NSS_CORE_STATE_FW_DUMP ∨
      bit = NSS_CORE_STATE_PANIC) : x ||| bit ≠ NSS_CORE_STATE_INITIALIZED := by
  intro h
  have hbit : (x ||| bit) &&& bit = bit := by
    rw [BitVec.and_or_distrib_right, BitVec.and_self]
    apply BitVec.eq_of_getLsbD_eq
    intro i _
    simp only [BitVec.getLsbD_or, BitVec.getLsbD_and]
    cases x.getLsbD i <;> cases bit.getLsbD i <;> rfl
  rw [h] at hbit
  rcases known with rfl | rfl | rfl <;>
    exact absurd hbit (by decide)

theorem Elsewhere.view (h : Elsewhere d d') : View own d d' := by
  cases h with
  | mark i loaded bit known =>
    obtain ⟨hkept, hup, halone⟩ := Move.lower (d := d) (i := i) (or_bit_ne loaded known)
    exact ⟨hkept, hup own, halone own⟩
  | lock holder outside free =>
    have hm : Move (own + 1) d { d with lock := some holder } := .of_aside rfl rfl rfl rfl rfl rfl
    exact hm.view (Nat.succ_ne_self own)
  | unlock holder outside held =>
    have hm : Move (own + 1) d { d with lock := none } := .of_aside rfl rfl rfl rfl rfl rfl
    exact hm.view (Nat.succ_ne_self own)
  | ringLock i holder outside free =>
    exact (Move.onRingLock (own + 1) d i (some holder)).view (Nat.succ_ne_self own)
  | ringUnlock i holder outside held =>
    exact (Move.onRingLock (own + 1) d i none).view (Nat.succ_ne_self own)

end Moves

/-- What core `own` knows of the cores it has dealt with since it came up. -/
def Settled (own : ℕ) (cores : List ℕ) (d : C2cTop) : Prop :=
  d.Up own → ∀ i ∈ cores, i ≠ own → (own, i) ∈ d.alone ∨ Exchanged d own i

/-- In the loop, `done` behind it. -/
structure Exchanging (own : ℕ) (done : List ℕ) (d : C2cTop) : Prop where
  upCopied : UpCopied d
  copied : Copied d own
  settled : Settled own done d

section Threads
variable {d d' : C2cTop} {own i j : ℕ} {done cores : List ℕ} {α : Type}
  {Q : α → C2cTop → Prop} {fate : ℕ → ℕ → SendFate}

theorem Exchanged.mono (hk : Kept d d') (h : Exchanged d i j) : Exchanged d' i j := by
  obtain ⟨⟨s, hs, heq⟩, t, ht, heq'⟩ := h
  exact ⟨⟨s, hk.sends s hs, heq⟩, t, hk.sends t ht, heq'⟩

theorem settled_stable : Stable (View own) (Settled own cores) := by
  intro d d' hv h hup i hi hne
  rcases h (hv.up hup) i hi hne with halone | hex
  · exact .inl (hv.alone i hup halone)
  · exact .inr (hex.mono hv.toKept)

theorem upCopied_stable : Stable (View own) UpCopied := fun _ _ hv => hv.upCopied

theorem copied_stable (i : ℕ) : Stable (View own) fun d => Copied d i := fun _ _ hv => hv.copied i

theorem exchanging_stable : Stable (View own) (Exchanging own done) :=
  fun _ _ hv h => ⟨hv.upCopied h.upCopied, hv.copied own h.copied, settled_stable _ _ hv h.settled⟩

theorem Exchanging.move (h : Exchanging own done d) (hm : Move own d d')
    (hup : d'.Up own → d.Up own) : Exchanging own done d' := by
  refine ⟨hm.upCopied h.upCopied, hm.copied own h.copied, fun hup' i hi hne => ?_⟩
  rcases h.settled (hup hup') i hi hne with halone | hex
  · exact .inl (hm.alone own i hup' halone)
  · exact .inr (hex.mono hm.toKept)

theorem sat_aside {P : C2cTop → Prop} {en : C2cTop → Bool} {f : C2cTop → C2cTop}
    {k : C2cTop → Proc C2cTop α} (hstable : Stable (View own) P) (hs : P d)
    (hmove : ∀ u, P u → Move own u (f u)) (hP : ∀ u, P u → P (f u))
    (hk : ∀ u v, P u → P v → Sat (View own) (Move own) Q (k u) v) :
    Sat (View own) (Move own) Q (.act en f k) d :=
  Sat.act hstable hs fun u hu _ => ⟨hmove u hu, hk u _ hu (hP u hu)⟩

theorem Exchanging.onRingLock (h : Exchanging own done d) (l : ℕ → Option ℕ) :
    Exchanging own done { d with ringLock := l } := by
  have hm : Move own d { d with ringLock := l } := .of_aside rfl rfl rfl rfl rfl rfl
  exact h.move hm id

/-- The store under the ring's lock takes `P` to `P'`, and the lock itself to neither. -/
theorem sat_sendBuffer {P P' : C2cTop → Prop} {f : C2cTop → C2cTop} {k : Unit → Proc C2cTop α}
    (hstable : Stable (View own) P) (hstable' : Stable (View own) P') (hs : P d)
    (hlock : ∀ d l, P d → P { d with ringLock := l })
    (hlock' : ∀ d l, P' d → P' { d with ringLock := l })
    (hf : ∀ u, P u → Move own u (f u) ∧ P' (f u))
    (hk : ∀ u, P' u → Sat (View own) (Move own) Q (k ()) u) :
    Sat (View own) (Move own) Q ((nssCoreSendBuffer own i f).bind k) d := by
  refine Sat.act hstable hs fun u hu _ => ⟨Move.onRingLock own u i _, ?_⟩
  refine Sat.act hstable (hlock u _ hu) fun v hv _ => ⟨(hf v hv).1, ?_⟩
  refine Sat.act hstable' (hf v hv).2 fun w hw _ => ⟨Move.onRingLock own w i _, ?_⟩
  exact hk _ (hlock' w _ hw)

/-- One call of `nss_send_c2c_map` about a core whose address is copied; `P`
    is what else is known and outlives a send. -/
theorem sat_send {P : C2cTop → Prop} {fate : SendFate} {k : Unit → Proc C2cTop α}
    (hstable : Stable (View own) P) (hs : Exchanging own done d ∧ P d)
    (hcopied : ∀ d, Exchanging own done d → P d → Copied d j)
    (hlock : ∀ d l, P d → P { d with ringLock := l })
    (hsends : ∀ d s, P d → P { d with sends := d.sends ++ [s] })
    (hk : ∀ u, Exchanging own done u → P u → (∃ s ∈ u.sends, s.own = i ∧ s.other = j) →
      Sat (View own) (Move own) Q (k ()) u) :
    Sat (View own) (Move own) Q ((nssSendC2cMap own i j fate).bind k) d := by
  have hplace : Stable (View own) fun d => Exchanging own done d ∧ P d :=
    exchanging_stable.and hstable
  have hsent : ∀ (u : C2cTop) (s : C2cSend), s.own = i → s.other = j →
      Exchanging own done u ∧ P u → Move own u { u with sends := u.sends ++ [s] } →
      (Exchanging own done { u with sends := u.sends ++ [s] } ∧
        P { u with sends := u.sends ++ [s] }) ∧
          ∃ t ∈ u.sends ++ [s], t.own = i ∧ t.other = j := by
    intro u s hi hj hu hm
    refine ⟨⟨hu.1.move hm id, hsends u s hu.2⟩, s, ?_, hi, hj⟩
    exact List.mem_append_right _ (List.mem_singleton_self _)
  unfold nssSendC2cMap
  split
  · refine Sat.modify hplace hs fun u hu => ?_
    have hm : Move own u { u with sends := u.sends ++ [⟨i, j, fate, none⟩] } := .send nofun
    obtain ⟨hend, hin⟩ := hsent u ⟨i, j, fate, none⟩ rfl rfl hu hm
    exact ⟨hm, hk _ hend.1 hend.2 hin⟩
  · refine Sat.act hplace hs fun u hu _ => ⟨.refl own u, ?_⟩
    have hread : Stable (View own) fun d => (Exchanging own done d ∧ P d) ∧
        u.c2cStart j = d.ifC2cStart j :=
      hplace.and fun _ _ hv h => by rw [hv.ifC2cStart, h]
    refine Sat.act hread ⟨hu, hcopied u hu.1 hu.2⟩ fun v hv _ => ⟨.refl own v, ?_⟩
    have hboth : Stable (View own) fun d => ((Exchanging own done d ∧ P d) ∧
        u.c2cStart j = d.ifC2cStart j) ∧ v.nphys j = d.nphys j :=
      hread.and fun _ _ hv h => by rw [hv.nphys, h]
    have hend : Stable (View own) fun d => (Exchanging own done d ∧ P d) ∧
        ∃ s ∈ d.sends, s.own = i ∧ s.other = j := by
      refine hplace.and fun _ _ hv h => ?_
      obtain ⟨s, hs, heq⟩ := h
      exact ⟨s, hv.sends s hs, heq⟩
    refine sat_sendBuffer hboth hend ⟨hv, rfl⟩ ?_ ?_ (fun w hw => ?_)
      fun w hw => hk w hw.1.1 hw.1.2 hw.2
    · exact fun w l hw => ⟨⟨⟨hw.1.1.1.onRingLock l, hlock w l hw.1.1.2⟩, hw.1.2⟩, hw.2⟩
    · exact fun w l hw => ⟨⟨hw.1.1.onRingLock l, hlock w l hw.1.2⟩, hw.2⟩
    · have hm : Move own w { w with sends := w.sends ++
          [⟨i, j, fate, some ⟨u.c2cStart j, v.nphys j + NSS_REGS_C2C_INTR_SET_OFFSET⟩⟩] } := by
        refine .send fun m heq => ?_
        obtain rfl := Option.some.inj heq
        exact ⟨hw.1.2, by rw [hw.2]⟩
      exact ⟨hm, hsent w _ rfl rfl hw.1.1 hm⟩

theorem updateConnCounts_post {updates : List SendFate} (hs : Exchanging own done d) :
    Sat (View own) (Move own) (fun _ d => Exchanging own done d) (updateConnCounts own updates) d := by
  induction updates generalizing d with
  | nil => exact Sat.ret exchanging_stable hs
  | cons fate rest ih =>
    unfold updateConnCounts
    split
    · exact ih hs
    · exact sat_sendBuffer exchanging_stable exchanging_stable hs (fun _ l h => h.onRingLock l)
        (fun _ l h => h.onRingLock l) (fun u hu => ⟨.refl own u, hu⟩) fun u hu => ih hu

theorem Exchanging.lock (h : Exchanging own done d) (l : Option ℕ) :
    Move own d { d with lock := l } ∧ Exchanging own done { d with lock := l } := by
  have hm : Move own d { d with lock := l } := .of_aside rfl rfl rfl rfl rfl rfl
  exact ⟨hm, h.move hm id⟩

theorem Settled.snoc (h : Settled own done d)
    (hi : d.Up own → i ≠ own → (own, i) ∈ d.alone ∨ Exchanged d own i) :
    Settled own (done ++ [i]) d := by
  intro hup k hk hne
  rcases List.mem_append.mp hk with hold | hnew
  · exact h hup k hold hne
  · obtain rfl := List.mem_singleton.mp hnew
    exact hi hup hne

/-- What a look says: the other core is initialised with its address copied,
    or this one has missed it. -/
def Looked (own i : ℕ) (state : U32) (d : C2cTop) : Prop :=
  (state = NSS_CORE_STATE_INITIALIZED → Copied d i) ∧
    (state ≠ NSS_CORE_STATE_INITIALIZED → d.Up own → (own, i) ∈ d.alone)

theorem looked_stable {state : U32} : Stable (View own) (Looked own i state) :=
  fun _ _ hv h => ⟨fun hs => hv.copied i (h.1 hs), fun hs hup =>
    hv.alone i hup (h.2 hs (hv.up hup))⟩

theorem looked_look (h : UpCopied d) : Looked own i (d.state i) (d.look own i) := by
  unfold C2cTop.look
  constructor
  · intro hs
    split <;> exact h i hs
  · intro hs
    split
    · exact fun _ => List.mem_cons_self ..
    · rename_i hlook
      exact fun hup => (hlook ⟨hup, hs⟩).elim

theorem look_up (own i : ℕ) (d : C2cTop) : (d.look own i).Up own ↔ d.Up own := by
  unfold C2cTop.look
  split <;> rfl

theorem exchange_post (hs : Exchanging own done d) :
    Sat (View own) (Move own) (fun _ d => Exchanging own (done ++ cores) d)
      (exchange own fate cores) d := by
  induction cores generalizing done d with
  | nil =>
    rw [List.append_nil]
    exact Sat.ret exchanging_stable hs
  | cons i rest ih =>
    rw [show done ++ i :: rest = (done ++ [i]) ++ rest by simp]
    unfold exchange
    split
    · rename_i heq
      exact ih ⟨hs.upCopied, hs.copied, hs.settled.snoc fun _ hne => (hne heq).elim⟩
    · refine Sat.await exchanging_stable hs fun u hu _ => ⟨(hu.lock _).1, ?_⟩
      refine Sat.act exchanging_stable (hu.lock _).2 fun v hv _ => ⟨.look own i v, ?_⟩
      have hlook := hv.move (.look own i v) (look_up own i v).mp
      have hplace : Stable (View own) fun d => Exchanging own done d ∧ Looked own i (v.state i) d :=
        exchanging_stable.and looked_stable
      refine Sat.modify hplace ⟨hlook, looked_look hv.upCopied⟩ fun w hw => ⟨(hw.1.lock _).1, ?_⟩
      have hw' := (hw.1.lock none).2
      split
      · rename_i hup
        -- the other core's map first, with this one's address
        refine sat_send (P := fun d => Copied d i) (copied_stable i) ⟨hw', hw.2.1 hup⟩
          (fun _ hd _ => hd.copied) (fun _ _ => id) (fun _ _ => id) fun x hx hcopied hto => ?_
        have hsent : Stable (View own) fun d => Copied d i ∧
            ∃ s ∈ d.sends, s.own = i ∧ s.other = own := by
          refine (copied_stable i).and fun _ _ hv h => ?_
          obtain ⟨s, hs, heq⟩ := h
          exact ⟨s, hv.sends s hs, heq⟩
        refine sat_send (i := own) (j := i) hsent ⟨hx, hcopied, hto⟩ (fun _ _ hd => hd.1)
          (fun _ _ => id) (fun d s hd => ⟨hd.1, ?_⟩) fun y hy hboth hback => ?_
        · obtain ⟨t, ht, heq⟩ := hd.2
          exact ⟨t, List.mem_append_left _ ht, heq⟩
        · exact ih ⟨hy.upCopied, hy.copied, hy.settled.snoc fun _ _ => .inr ⟨hback, hboth.2⟩⟩
      · rename_i hdown
        refine ih ⟨hw'.upCopied, hw'.copied, hw'.settled.snoc fun hup _ => ?_⟩
        exact .inl (hw.2.2 hdown hup)

theorem nssCoreInitNss_post {isScheduled : Bool} {updates : List SendFate} (hs : UpCopied d) :
    Sat (View own) (Move own) (fun _ d => Exchanging own [] d)
      (nssCoreInitNss own isScheduled updates) d := by
  have hnone : ∀ d : C2cTop, Settled own [] d := fun _ _ i hi => by cases hi
  unfold nssCoreInitNss
  refine Sat.modify upCopied_stable hs fun t ht => ⟨.onRingLock own t own none, ?_⟩
  have ht' : UpCopied { t with ringLock := Function.update t.ringLock own none } := ht
  refine Sat.act upCopied_stable ht' fun u hu _ => ⟨.refl own u, ?_⟩
  have hread : Stable (View own) fun d => UpCopied d ∧ u.ifC2cStart own = d.ifC2cStart own :=
    upCopied_stable.and fun _ _ hv h => by rw [hv.ifC2cStart, h]
  refine Sat.modify hread ⟨hu, rfl⟩ fun v hv => ?_
  have hcopy := Move.copy own v hv.2
  have hv' : Exchanging own []
      { v with c2cStart := Function.update v.c2cStart own (u.ifC2cStart own) } :=
    ⟨hcopy.upCopied hv.1, (Function.update_self ..).trans hv.2, hnone _⟩
  refine ⟨hcopy, Sat.await exchanging_stable hv' fun w hw _ => ⟨(hw.lock _).1, ?_⟩⟩
  refine Sat.modify exchanging_stable (hw.lock _).2 fun x hx => ⟨.raise hx.copied, ?_⟩
  have hraise : Move own x (x.setState own NSS_CORE_STATE_INITIALIZED) := .raise hx.copied
  have hx' : Exchanging own [] (x.setState own NSS_CORE_STATE_INITIALIZED) :=
    ⟨hraise.upCopied hx.upCopied, hraise.copied own hx.copied, hnone _⟩
  refine Sat.modify exchanging_stable hx' fun y hy => ⟨(hy.lock _).1, ?_⟩
  split
  · refine Sat.await exchanging_stable (hy.lock _).2 fun z hz _ => ⟨(hz.lock _).1, ?_⟩
    refine Sat.modify exchanging_stable (hz.lock _).2 fun a ha => ⟨.setBack own a, ?_⟩
    have hback := Move.setBack own a
    have ha' : Exchanging own [] (a.setState own NSS_CORE_STATE_UNINITIALIZED) :=
      ⟨hback.upCopied ha.upCopied, hback.copied own ha.copied, hnone _⟩
    refine Sat.modify exchanging_stable ha' fun b hb => ⟨(hb.lock _).1, ?_⟩
    exact Sat.ret exchanging_stable (hb.lock _).2
  · split
    · exact updateConnCounts_post (hy.lock _).2
    · exact Sat.ret exchanging_stable (hy.lock _).2

structure AtRest (own : ℕ) (d : C2cTop) : Prop where
  upCopied : UpCopied d
  settled : Settled own (List.range NSS_MAX_CORES) d

theorem atRest_stable : Stable (View own) (AtRest own) :=
  fun _ _ hv h => ⟨hv.upCopied h.upCopied, settled_stable _ _ hv h.settled⟩

theorem sos_post {isScheduled : Bool} {updates : List SendFate} (hs : AtRest own d) :
    Sat (View own) (Move own) (fun _ d => AtRest own d)
      (handleEmptyBuffersSos own isScheduled updates fate) d := by
  unfold handleEmptyBuffersSos
  refine Sat.act atRest_stable hs fun u hu _ => ⟨.refl own u, ?_⟩
  simp only [Proc.ret_bind]
  split
  · refine (nssCoreInitNss_post hu.upCopied).bind fun _ v hv => ?_
    refine (exchange_post hv).post fun _ w hw => ⟨hw.upCopied, ?_⟩
    exact hw.settled
  · exact Sat.ret atRest_stable hu

end Threads

section Pool
variable {c : SosPool} {i j : ℕ}

theorem sos_discipline : Discipline SosCall Elsewhere View Move AtRest (fun own _ => AtRest own) where
  others _ _ hne _ _ hg := hg.view hne
  env _ _ _ he := he.view
  idle _ _ _ h := h
  calls own p hp d h := by
    cases hp with
    | sos isScheduled updates fate => exact sos_post h

theorem Fresh.down {d : C2cTop} (h : Fresh d) (i : ℕ) : ¬ d.Up i := by
  rw [C2cTop.Up, h.state]
  decide

theorem fresh_atRest (own : ℕ) (_ : Unit) (d : C2cTop) (h : Fresh d) (t : C2cTop)
    (ht : Relation.ReflTransGen (View own) d t) : AtRest own t :=
  atRest_stable.star ht ⟨fun i hi => (h.down i hi).elim, fun hup => (h.down own hup).elim⟩

theorem sos_safe (h : Reachable (Idle Fresh) SosStep c) :
    upFlags.Apart c.shared ∧ Truthful c.shared := by
  refine sos_discipline.invariant (fun d => upFlags.Apart d ∧ Truthful d) fresh_atRest ?_ ?_ ?_ h
  · refine fun d hd => ⟨fun i j hij => ?_, fun s hs => ?_⟩
    · change (i, j) ∈ d.alone at hij
      rw [hd.alone] at hij
      cases hij
    · rw [hd.sends] at hs
      cases hs
  · exact fun own d d' hd hm => ⟨hd.1.move hm.flags, hm.truthful hd.2⟩
  · intro d d' hd he
    have hv : View 0 d d' := he.view
    exact ⟨hd.1.move hv.flags, hv.truthful hd.2⟩

/-- However the bring-up of the cores interleaves, also with cores that die,
    panic or are set back for want of a data plane: two cores that are both
    initialised, with neither handler under way, have had both maps sent
    between them, and every map ever sent names the start address the firmware
    of the other core gave and that core's interrupt register. -/
theorem c2c_maps_exchanged (h : Reachable (Idle Fresh) SosStep c) :
    (∀ i < NSS_MAX_CORES, ∀ j < NSS_MAX_CORES, i ≠ j →
      c.shared.Up i → c.shared.Up j → c.thread i = .ret () → c.thread j = .ret () →
        Exchanged c.shared i j) ∧ Truthful c.shared := by
  obtain ⟨hapart, htruth⟩ := sos_safe h
  have htrack := sos_discipline.onTrack fresh_atRest h
  have hrest : ∀ i, c.thread i = .ret () → AtRest i c.shared := by
    intro i hret
    have hi := htrack i
    rw [hret] at hi
    exact hi _ .refl
  refine ⟨fun i hi j hj hne hupi hupj hreti hretj => ?_, htruth⟩
  have hij := (hrest i hreti).settled hupi j (List.mem_range.mpr hj) (Ne.symm hne)
  have hji := (hrest j hretj).settled hupj i (List.mem_range.mpr hi) hne
  rcases @RaisedFlags.Flags.Apart.meet _ _ _ _ hapart (Exchanged c.shared) _ _ hij hji with
    hex | hex
  · exact hex
  · exact ⟨hex.2, hex.1⟩

end Pool

def downTop : C2cTop :=
  { state := fun _ => NSS_CORE_STATE_UNINITIALIZED, lock := none, ringLock := fun _ => none,
    c2cStart := fun _ => 0,
    nphys := fun i => BitVec.ofNat 32 (0x1000 * (i + 1)),
    ifC2cStart := fun i => BitVec.ofNat 32 (0x40 * (i + 1)), sends := [], alone := [] }

def downPool : SosPool := ⟨downTop, fun _ => .ret ()⟩

def sos (own : ℕ) : Proc C2cTop Unit := handleEmptyBuffersSos own true [] fun _ _ => .enqueued

/-- Core 1 comes up while core 0 is initialised and has not looked at it yet. -/
def crossing : List (Order ℕ C2cTop Unit) :=
  [.call 0 (sos 0)] ++ List.replicate 7 (.run 0) ++ [.call 1 (sos 1)] ++
    List.replicate 20 (.run 1) ++ List.replicate 13 (.run 0)

theorem c2c_maps_exchanged_crossing : ∃ c, downPool.follow crossing = some c ∧
    Exchanged c.shared 0 1 ∧ Truthful c.shared ∧ c.shared.sends.length = 4 := by
  have hallowed : ∀ o ∈ crossing, o.Allowed SosCall Elsewhere := by
    intro o ho
    simp only [crossing, List.mem_append, List.mem_singleton, List.mem_replicate] at ho
    rcases ho with (((rfl | ⟨_, rfl⟩) | rfl) | ⟨_, rfl⟩) | ⟨_, rfl⟩
    · exact .sos 0 _ _ _
    · trivial
    · exact .sos 1 _ _ _
    · trivial
    · trivial
  obtain ⟨c, hc⟩ : ∃ c, downPool.follow crossing = some c := ⟨_, rfl⟩
  have hidle : Idle Fresh downPool := ⟨⟨fun _ => rfl, rfl, rfl⟩, fun _ => ⟨_, rfl⟩⟩
  have hreach : Reachable (Idle Fresh) SosStep c :=
    Reachable.run (.start hidle) (Pool.follow_run hallowed hc)
  have hend : c.shared.Up 0 ∧ c.shared.Up 1 ∧ c.thread 0 = .ret () ∧ c.thread 1 = .ret () ∧
      c.shared.sends.length = 4 := by
    obtain rfl := Option.some.inj hc
    exact ⟨rfl, rfl, rfl, rfl, rfl⟩
  obtain ⟨hex, htruth⟩ := c2c_maps_exchanged hreach
  exact ⟨c, hc, hex 0 (by decide) 1 (by decide) (by decide) hend.1 hend.2.1 hend.2.2.1
    hend.2.2.2.1, htruth, hend.2.2.2.2⟩

end NssDrv.C2cExchange

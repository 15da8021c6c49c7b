import NssDrv.C2cExchange
import NssDrv.CoreDump
import NssDrv.DecongestPoll
import NssDrv.RefillResources

set_option autoImplicit false

/-!
# What a poll calls of the driver

The empty-buffer interrupt with the bring-up of its core, the decongestion
callbacks and the notification of a core dump, as the poll of one core runs them
on the state that the driver shares. They end, unless the notification brings the
system down, and wait for nothing but locks that somebody else holds.
-/
namespace NssDrv.NapiHost
open HlosInterface SharedThread NapiHandler
open C2cExchange (C2cTop SendFate lockTop unlockTop nssCoreSendBuffer nssSendC2cMap
  updateConnCounts nssCoreInitNss exchange bringUp)
open CoreDump (DumpTop orState deadOrUnmapped panicAsk panicTick panicRounds nssPanicHandler panic
  notifyOthers nssFwCoredumpNotify Quiet ends_handler)
open CoreProbe (NSS_MAX_CORES)
open DecongestPoll (Client NSS_MAX_CLIENTS vacant)
open EmptyBufferRefill (RefillEnv)
open RefillResources (RefillCall refillEmptyBuffers)
open TransmitApi (NSS_CORE_STATE_FW_DEAD NSS_CORE_STATE_UNINITIALIZED)

/-! ## The bring-up of a core -/

/-- Core `own` holds none of the locks. -/
structure Unlocked (own : ℕ) (d : C2cTop) : Prop where
  lock : d.lock ≠ some own
  ringLock : ∀ i, d.ringLock i ≠ some own

/-- The others take no lock in the name of core `own`. -/
structure Aloof (own : ℕ) (d d' : C2cTop) : Prop where
  lock : d'.lock = some own → d.lock = some own
  ringLock : ∀ i, d'.ringLock i = some own → d.ringLock i = some own

def HeldBeside (own : ℕ) (d : C2cTop) : Prop :=
  (∃ j ≠ own, d.lock = some j) ∨ ∃ i, ∃ j ≠ own, d.ringLock i = some j

theorem held_other {own : ℕ} {l : Option ℕ} (hfree : l ≠ some own) (h : l.isNone = false) :
    ∃ j ≠ own, l = some j := by
  cases l with
  | none => cases h
  | some j => exact ⟨j, fun heq => hfree (congrArg some heq), rfl⟩

section BringUp
variable {own i : ℕ} {α β : Type} {d : C2cTop} {Q : α → C2cTop → Prop}

theorem unlocked_stable : Stable (Aloof own) (Unlocked own) :=
  fun _ _ ha h => ⟨fun hl => h.lock (ha.lock hl), fun i hl => h.ringLock i (ha.ringLock i hl)⟩

theorem topLock_stable : Stable (Aloof own) fun d => d.lock ≠ some own :=
  fun _ _ ha h hl => h (ha.lock hl)

theorem ringLock_stable (P : ℕ → Prop) :
    Stable (Aloof own) fun d => ∀ i, P i → d.ringLock i ≠ some own :=
  fun _ _ ha h i hi hl => h i hi (ha.ringLock i hl)

/-- A section of `nss_top->lock` with one access in it. -/
theorem concludes_top {v : C2cTop → β} {f : C2cTop → C2cTop} {k : β → Proc C2cTop α}
    (hs : Unlocked own d) (hf : ∀ d, (f d).ringLock = d.ringLock)
    (hk : ∀ x u, Unlocked own u →
      Concludes (Aloof own) (HeldBeside own) (fun _ => False) Q (k x) u) :
    Concludes (Aloof own) (HeldBeside own) (fun _ => False) Q
      ((lockTop own).bind fun _ => (Proc.act (fun _ => true) f fun d => .ret (v d)).bind fun x =>
        unlockTop.bind fun _ => k x) d := by
  have hrings : Stable (Aloof own) fun d : C2cTop => ∀ i, True → d.ringLock i ≠ some own :=
    ringLock_stable fun _ => True
  refine Concludes.act unlocked_stable hs (fun u hu hen => .inl (held_other hu.lock hen))
    fun u hu _ => ?_
  refine Concludes.act hrings (fun i _ => hu.ringLock i) (fun _ _ hen => by cases hen)
    fun w hw _ => ?_
  refine Concludes.act hrings (fun i hi => hf w ▸ hw i hi) (fun _ _ hen => by cases hen)
    fun x hx _ => ?_
  exact hk _ _ ⟨nofun, fun i => hx i trivial⟩

theorem concludes_sendBuffer {f : C2cTop → C2cTop} {k : Unit → Proc C2cTop α}
    (hs : Unlocked own d) (hf : ∀ d, (f d).lock = d.lock ∧ (f d).ringLock = d.ringLock)
    (hk : ∀ u, Unlocked own u →
      Concludes (Aloof own) (HeldBeside own) (fun _ => False) Q (k ()) u) :
    Concludes (Aloof own) (HeldBeside own) (fun _ => False) Q
      ((nssCoreSendBuffer own i f).bind k) d := by
  have hothers : Stable (Aloof own) fun d : C2cTop =>
      d.lock ≠ some own ∧ ∀ j, j ≠ i → d.ringLock j ≠ some own :=
    topLock_stable.and (ringLock_stable fun j => j ≠ i)
  refine Concludes.act unlocked_stable hs
    (fun u hu hen => .inr ⟨i, held_other (hu.ringLock i) hen⟩) fun u hu _ => ?_
  refine Concludes.act hothers ⟨hu.lock, fun j hj => ?_⟩ (fun _ _ hen => by cases hen)
    fun w hw _ => ?_
  · show Function.update u.ringLock i (some own) j ≠ some own
    rw [Function.update_of_ne hj]
    exact hu.ringLock j
  · refine Concludes.act hothers ⟨(hf w).1 ▸ hw.1, (hf w).2 ▸ hw.2⟩ (fun _ _ hen => by cases hen)
      fun x hx _ => ?_
    refine hk _ ⟨hx.1, fun j => ?_⟩
    show Function.update x.ringLock i none j ≠ some own
    by_cases hj : j = i
    · rw [hj, Function.update_self]
      exact nofun
    · rw [Function.update_of_ne hj]
      exact hx.2 j hj

theorem concludes_sendC2cMap {j : ℕ} {fate : SendFate} {k : Unit → Proc C2cTop α}
    (hs : Unlocked own d)
    (hk : ∀ u, Unlocked own u →
      Concludes (Aloof own) (HeldBeside own) (fun _ => False) Q (k ()) u) :
    Concludes (Aloof own) (HeldBeside own) (fun _ => False) Q
      ((nssSendC2cMap own i j fate).bind k) d := by
  unfold nssSendC2cMap
  split
  · exact Concludes.modify unlocked_stable hs fun u hu => hk _ ⟨hu.lock, hu.ringLock⟩
  · refine Concludes.read unlocked_stable hs fun u hu => ?_
    refine Concludes.read unlocked_stable hu fun w hw => ?_
    exact concludes_sendBuffer hw (fun _ => ⟨rfl, rfl⟩) hk

theorem updateConnCounts_concludes (updates : List SendFate) (hs : Unlocked own d) :
    Concludes (Aloof own) (HeldBeside own) (fun _ => False) (fun _ => Unlocked own)
      (updateConnCounts own updates) d := by
  induction updates generalizing d with
  | nil => exact Concludes.ret unlocked_stable hs
  | cons fate rest ih =>
    unfold updateConnCounts
    split
    · exact ih hs
    · exact concludes_sendBuffer hs (fun _ => ⟨rfl, rfl⟩) fun u hu => ih hu

theorem nssCoreInitNss_concludes (isScheduled : Bool) (updates : List SendFate)
    (hs : Unlocked own d) :
    Concludes (Aloof own) (HeldBeside own) (fun _ => False) (fun _ => Unlocked own)
      (nssCoreInitNss own isScheduled updates) d := by
  unfold nssCoreInitNss
  refine Concludes.modify unlocked_stable hs fun t ht => ?_
  have hreset : Unlocked own { t with ringLock := Function.update t.ringLock own none } := by
    refine ⟨ht.lock, fun i => ?_⟩
    show Function.update t.ringLock own none i ≠ some own
    by_cases hi : i = own
    · rw [hi, Function.update_self]
      exact nofun
    · rw [Function.update_of_ne hi]
      exact ht.ringLock i
  refine Concludes.read unlocked_stable hreset fun u hu => ?_
  refine Concludes.modify unlocked_stable hu fun w hw => ?_
  refine concludes_top ⟨hw.lock, hw.ringLock⟩ (fun _ => rfl) fun _ x hx => ?_
  split
  · exact concludes_top hx (fun _ => rfl) fun _ y hy => Concludes.ret unlocked_stable hy
  · split
    · exact updateConnCounts_concludes updates hx
    · exact Concludes.ret unlocked_stable hx

theorem look_ringLock (own i : ℕ) (d : C2cTop) : (d.look own i).ringLock = d.ringLock := by
  unfold C2cTop.look
  split <;> rfl

theorem exchange_concludes (fate : ℕ → ℕ → SendFate) (cores : List ℕ) (hs : Unlocked own d) :
    Concludes (Aloof own) (HeldBeside own) (fun _ => False) (fun _ => Unlocked own)
      (exchange own fate cores) d := by
  induction cores generalizing d with
  | nil => exact Concludes.ret unlocked_stable hs
  | cons i rest ih =>
    unfold exchange
    split
    · exact ih hs
    · refine concludes_top hs (look_ringLock own i) fun state u hu => ?_
      split
      · exact concludes_sendC2cMap hu fun w hw => concludes_sendC2cMap hw fun x hx => ih hx
      · exact ih hu

theorem bringUp_concludes (isScheduled : Bool) (updates : List SendFate)
    (fate : ℕ → ℕ → SendFate) (hs : Unlocked own d) :
    Concludes (Aloof own) (HeldBeside own) (fun _ => False) (fun _ => Unlocked own)
      (bringUp own isScheduled updates fate) d :=
  (nssCoreInitNss_concludes isScheduled updates hs).bind fun _ _ hu => exchange_concludes _ _ hu

end BringUp

/-! ## The notification of a core dump -/

/-- `panic` is never taken back. -/
def Lasts (d d' : DumpTop) : Prop := d.panics ≤ d'.panics

/-- Somebody has called `panic`. -/
def Panicked (d : DumpTop) : Prop := ¬ Quiet d

section Dump
variable {own : ℕ} {d : DumpTop}

theorem panicked_stable : Stable Lasts Panicked := by
  intro d d' hl h hq
  have hle : d.panics ≤ d'.panics := hl
  have hzero : d'.panics = 0 := hq
  exact h (by unfold Quiet; omega)

theorem orState_total (i : ℕ) (bits : U32) (d : DumpTop) :
    Total (fun _ _ => True) (fun _ _ => True) (orState i bits) d :=
  total_read (fun _ t => total_modify total_ret t) d

theorem deadOrUnmapped_total (state : U32) (i : ℕ) (d : DumpTop) :
    Total (fun _ _ => True) (fun _ _ => True) (deadOrUnmapped state i) d := by
  unfold deadOrUnmapped
  split
  · exact total_ret d
  · exact total_read (fun _ t => total_ret t) d

theorem panicAsk_total (cores : List ℕ) (d : DumpTop) :
    Total (fun _ _ => True) (fun _ _ => True) (panicAsk cores) d := by
  induction cores generalizing d with
  | nil => exact total_ret d
  | cons i rest ih =>
    refine total_read (fun state t => ?_) d
    refine Total.bind (deadOrUnmapped_total state i t) fun skip u _ => ?_
    split
    · exact ih u
    · refine Total.bind (orState_total i _ u) fun _ w _ => ?_
      exact total_modify (fun x => ih x) w

theorem panicTick_total (cores : List ℕ) (dumped : ℕ) (d : DumpTop) :
    Total (fun _ _ => True) (fun _ _ => True) (panicTick dumped cores) d := by
  induction cores generalizing dumped d with
  | nil => exact total_ret d
  | cons i rest ih =>
    refine total_read (fun state t => ?_) d
    refine Total.bind (deadOrUnmapped_total state i t) fun skip u _ => ?_
    split
    · refine total_read (fun state w => ?_) u
      split
      · exact Total.bind (orState_total i _ w) fun _ x _ => ih _ x
      · exact ih _ w
    · exact ih _ u

theorem panicRounds_total (left dumped : ℕ) (d : DumpTop) :
    Total (fun _ _ => True) (fun _ _ => True) (panicRounds left dumped) d := by
  induction left generalizing dumped d with
  | zero =>
    refine total_modify (fun t => ?_) d
    refine Total.bind (panicTick_total _ dumped t) fun dumped u _ => ?_
    split <;> exact total_ret u
  | succ left ih =>
    refine total_modify (fun t => ?_) d
    refine Total.bind (panicTick_total _ dumped t) fun dumped u _ => ?_
    split
    · exact total_ret u
    · exact ih dumped u

theorem panicHandler_total (d : DumpTop) :
    Total (fun _ _ => True) (fun _ _ => True) nssPanicHandler d := by
  refine Total.bind (panicAsk_total _ d) fun _ t _ => ?_
  refine total_read (fun numNss u => ?_) t
  exact Total.bind (panicRounds_total _ 0 u) fun _ w _ => total_ret w

theorem panic_concludes (d : DumpTop) :
    Concludes Lasts (fun _ => False) Panicked (fun _ _ => True) panic d := by
  have hany : Stable Lasts fun _ : DumpTop => True := fun _ _ _ h => h
  refine Concludes.modify hany trivial fun t _ => ?_
  have hpanicked : Panicked { t with panics := t.panics + 1 } := Nat.succ_ne_zero _
  have htotal : Total Lasts (fun _ _ => True) nssPanicHandler { t with panics := t.panics + 1 } :=
    (panicHandler_total _).mono (fun _ _ _ => trivial) fun _ _ h => h
  have hkept : Sat Lasts (fun s t => Quiet t → Quiet s) (fun _ d => True ∧ Panicked d)
      nssPanicHandler { t with panics := t.panics + 1 } :=
    ((ends_handler _).mono (fun _ _ _ => trivial) (fun _ _ h => h) fun _ _ h => h).keep
      panicked_stable (fun _ _ hp hg hq => hp (hg hq)) hpanicked
  exact ((Concludes.of_total htotal).sat hkept).bind fun _ u hu => hu.2.2

theorem notifyOthers_concludes (cores : List ℕ) (d : DumpTop) :
    Concludes Lasts (fun _ => False) Panicked (fun _ _ => True) (notifyOthers own cores) d := by
  have hany : Stable Lasts fun _ : DumpTop => True := fun _ _ _ h => h
  induction cores generalizing d with
  | nil => exact fun _ _ => trivial
  | cons i rest ih =>
    unfold notifyOthers
    split
    · exact ih d
    · refine Concludes.act hany trivial (fun _ _ hen => by cases hen) fun t _ _ => ?_
      have htotal : Total Lasts (fun _ _ => True) (deadOrUnmapped (t.state i) i) (t.look own i) :=
        (deadOrUnmapped_total _ i _).mono (fun _ _ _ => trivial) fun _ _ h => h
      refine (Concludes.of_total htotal).bind fun skip u _ => ?_
      split
      · exact panic_concludes u
      · exact Concludes.modify hany trivial fun w _ => ih _

theorem notify_concludes (own : ℕ) (d : DumpTop) :
    Concludes Lasts (fun _ => False) Panicked (fun _ _ => True) (nssFwCoredumpNotify own) d := by
  have hany : Stable Lasts fun _ : DumpTop => True := fun _ _ _ h => h
  have htotal : Total Lasts (fun _ _ => True) (orState own NSS_CORE_STATE_FW_DEAD) d :=
    (orState_total own _ d).mono (fun _ _ _ => trivial) fun _ _ h => h
  refine (Concludes.of_total htotal).bind fun _ t _ => ?_
  refine Concludes.modify hany trivial fun u _ => ?_
  refine Concludes.read hany trivial fun w _ => ?_
  split
  · exact fun _ _ => trivial
  · exact notifyOthers_concludes _ w

end Dump

/-! ## The host of a poll -/

/-- What the driver shares that a poll of one core touches beside its own queues, and
    the rest of the host. The states of the cores stand in `c2c`; `dump` has those
    parts of the dump protocol that are not states. -/
structure Host (ω : Type) where
  c2c : C2cTop
  dump : DumpTop
  refill : RefillCall
  decongestCbLock : Option ℕ
  clients : List Client
  dataRingFlags : U32
  rest : ω

/-- How the first empty-buffer interrupt of a core fares. -/
structure BringUpFate where
  isScheduled : Bool
  updates : List SendFate
  fate : ℕ → ℕ → SendFate

/-- What the rest of the host makes of a descriptor and of the call of a client, and
    what it answers to a bring-up and to a refill. -/
structure Surroundings (ω : Type) where
  body : N2hDescriptor → ω → ω
  call : Client → ω → ω
  bringUp : ω → BringUpFate
  env : ω → RefillEnv

namespace Host
variable {ω : Type}

def setC2c (x : C2cTop) (h : Host ω) : Host ω := { h with c2c := x }

def dumpTop (h : Host ω) : DumpTop := { h.dump with state := h.c2c.state }

def setDumpTop (x : DumpTop) (h : Host ω) : Host ω :=
  { h with dump := x, c2c := { h.c2c with state := x.state } }

def setRefill (x : RefillCall) (h : Host ω) : Host ω := { h with refill := x }

def newRefill (h : Host ω) : Host ω :=
  { h with refill := { h.refill with skbs := [], pages := [], maps := [] } }

def onRest (f : ω → ω) (h : Host ω) : Host ω := { h with rest := f h.rest }

end Host

section Handlers
variable {ω : Type} (k : Surroundings ω) (own : ℕ)

def startCore : Bool → Proc (Host ω) Unit
  | false => return
  | true => do
    let f ← Proc.read fun h : Host ω => k.bringUp h.rest
    (bringUp own f.isScheduled f.updates f.fate).zoom Host.c2c Host.setC2c

/-- `EMPTY_BUFFERS_SOS` after the test of the core's state. -/
def emptyBuffersSos (uninitialized : Bool) : Proc (Host ω) Unit := do
  startCore k own uninitialized
  let env ← Proc.act (fun _ => true) Host.newRefill fun h : Host ω => .ret (k.env h.rest)
  let _ ← (refillEmptyBuffers own env).zoom Host.refill Host.setRefill
  return

/-- The loop over `queue_decongestion_callback`. -/
def callClients : List ℕ → Proc (Host ω) Unit
  | [] => return
  | i :: rest => do
    let client ← Proc.read fun h : Host ω => h.clients.getD i vacant
    if client.callback = 0 then callClients rest
    else do
      Proc.modify (Host.onRest (k.call client))
      callClients rest

/-- `TX_UNBLOCKED` up to the mask. -/
def txUnblocked : Proc (Host ω) Unit := do
  Proc.await (fun h : Host ω => h.decongestCbLock.isNone)
    fun h => { h with decongestCbLock := some own }
  callClients k (List.range NSS_MAX_CLIENTS)
  Proc.modify fun h => { h with decongestCbLock := none }
  Proc.modify fun h =>
    { h with dataRingFlags := h.dataRingFlags &&& ~~~DescriptorRing.NSS_H2N_DESC_RING_FLAGS_TX_STOPPED }

/-- What the poll of core `own` calls. -/
def hostHandlers : Handlers (Host ω) where
  body d h := h.onRest (k.body d)
  uninitialized h := decide (h.c2c.state own = NSS_CORE_STATE_UNINITIALIZED)
  refill := emptyBuffersSos k own
  decongest := txUnblocked k own
  coredump _ := (nssFwCoredumpNotify own).zoom Host.dumpTop Host.setDumpTop

end Handlers

structure HoldsNone {ω : Type} (own : ℕ) (h : Host ω) : Prop where
  c2c : Unlocked own h.c2c
  decongestCbLock : h.decongestCbLock ≠ some own

/-- What the poll relies on: nobody takes a lock in its name or undoes a panic. -/
structure Others {ω : Type} (own : ℕ) (h h' : Host ω) : Prop where
  c2c : Aloof own h.c2c h'.c2c
  decongestCbLock : h'.decongestCbLock = some own → h.decongestCbLock = some own
  panics : h.dump.panics ≤ h'.dump.panics

def Contended {ω : Type} (own : ℕ) (h : Host ω) : Prop :=
  HeldBeside own h.c2c ∨ ∃ j ≠ own, h.decongestCbLock = some j

/-- `panic` was called. -/
def Down {ω : Type} (h : Host ω) : Prop := h.dump.panics ≠ 0

section Host
variable {ω : Type} {own : ℕ} {h : Host ω} {k : Surroundings ω}

theorem holdsNone_stable : Stable (Others own) (HoldsNone (ω := ω) own) :=
  fun _ _ ho h => ⟨unlocked_stable _ _ ho.c2c h.c2c,
    fun hl => h.decongestCbLock (ho.decongestCbLock hl)⟩

theorem unlocked_others : Stable (Others own) fun h : Host ω => Unlocked own h.c2c :=
  fun _ _ ho h => unlocked_stable _ _ ho.c2c h

theorem startCore_concludes (uninitialized : Bool) (hs : HoldsNone own h) :
    Concludes (Others own) (Contended own) Down (fun _ => HoldsNone own)
      (startCore k own uninitialized) h := by
  cases uninitialized with
  | false => exact Concludes.ret holdsNone_stable hs
  | true =>
    have hlock : Stable (Others own) fun h : Host ω => h.decongestCbLock ≠ some own :=
      fun _ _ ho h hl => h (ho.decongestCbLock hl)
    refine Concludes.read holdsNone_stable hs fun u hu => ?_
    exact Concludes.zoom (fun _ _ => rfl) hlock (fun _ _ hx => hx) (fun _ _ ho => ho.c2c)
      (fun _ _ hw => .inl hw) (fun _ _ hf => hf.elim) (fun _ _ hx hd => ⟨hd, hx⟩)
      (bringUp_concludes _ _ _ hu.c2c) hu.2

theorem refill_concludes (uninitialized : Bool) (hs : HoldsNone own h) :
    Concludes (Others own) (Contended own) Down (fun _ => HoldsNone own)
      (emptyBuffersSos k own uninitialized) h := by
  refine (startCore_concludes uninitialized hs).bind fun _ u hu => ?_
  refine Concludes.act holdsNone_stable hu (fun _ _ hen => by cases hen) fun w hw _ => ?_
  have hcalm : Concludes _ (fun _ => False) (fun _ => False) _ _ _ :=
    Concludes.of_total (RefillResources.refill_total own (k.env w.rest) (Host.newRefill w).refill)
  have hzoom : Concludes (Others own) (Contended own) Down (fun _ => HoldsNone own)
      ((refillEmptyBuffers own (k.env w.rest)).zoom Host.refill Host.setRefill)
      (Host.newRefill w) := by
    exact Concludes.zoom (fun _ _ => rfl) holdsNone_stable (fun _ _ hx => ⟨hx.c2c, hx.2⟩)
      (fun _ _ _ => trivial) (fun _ _ hf => hf.elim) (fun _ _ hf => hf.elim)
      (fun _ _ hx _ => hx) hcalm ⟨hw.c2c, hw.2⟩
  exact hzoom.bind fun _ _ hx => Concludes.ret holdsNone_stable hx

theorem callClients_concludes (clients : List ℕ) (hs : Unlocked own h.c2c) :
    Concludes (Others own) (Contended own) Down (fun _ h => Unlocked own h.c2c)
      (callClients k clients) h := by
  induction clients generalizing h with
  | nil => exact Concludes.ret unlocked_others hs
  | cons i rest ih =>
    refine Concludes.read unlocked_others hs fun u hu => ?_
    split
    · exact ih hu
    · exact Concludes.modify unlocked_others hu fun w hw => ih (h := w.onRest _) hw

theorem decongest_concludes (hs : HoldsNone own h) :
    Concludes (Others own) (Contended own) Down (fun _ => HoldsNone own) (txUnblocked k own) h := by
  refine Concludes.act holdsNone_stable hs
    (fun u hu hen => .inr (held_other hu.decongestCbLock hen)) fun u hu _ => ?_
  have hlocked : Unlocked own ({ u with decongestCbLock := some own } : Host ω).c2c := hu.c2c
  refine (callClients_concludes _ hlocked).bind fun _ w hw => ?_
  refine Concludes.modify unlocked_others hw fun x hx => ?_
  have hfree : HoldsNone own { x with decongestCbLock := none } := ⟨hx, nofun⟩
  exact Concludes.act holdsNone_stable hfree (fun _ _ hen => by cases hen) fun y hy _ =>
    Concludes.ret holdsNone_stable ⟨hy.c2c, hy.2⟩

theorem coredump_concludes (hs : HoldsNone own h) :
    Concludes (Others own) (Contended own) Down (fun _ => HoldsNone own)
      ((nssFwCoredumpNotify own).zoom Host.dumpTop Host.setDumpTop) h :=
  Concludes.zoom (fun _ _ => rfl) holdsNone_stable
    (fun _ _ hx => ⟨⟨hx.c2c.lock, hx.c2c.ringLock⟩, hx.2⟩) (fun _ _ ho => ho.panics)
    (fun _ _ hf => hf.elim) (fun _ _ hd => hd) (fun _ _ hx _ => hx) (notify_concludes own _) hs

end Host
end NssDrv.NapiHost

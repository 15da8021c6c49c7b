import Mathlib.Logic.Function.Basic
import NssDrv.CallTree
import NssDrv.CommonMessage

set_option autoImplicit false

/-!
# Log buffers

The per-core log files of `nss_log.c`. What stands between a lock and an unlock
of `nss_log_mutex` is one access to `nss_rbe`.
-/
namespace NssDrv.LogBuffer
open HlosInterface CallTree CommonMessage

def NSS_MAX_CORES : ℕ := 2
def NSS_LOG_ENTRY_SIZE : U32 := 160
def NSS_LOG_DESCRIPTOR_SIZE : U32 := 32

/-- The entry of a core in `nss_rbe`. A null `addr` is 0. -/
structure RingBufferAddr where
  addr : ℕ
  dmaAddr : ℕ
  nentries : U32
  refcnt : ℤ
  deriving DecidableEq

structure LogData where
  loadMem : ℕ
  dmaAddr : ℕ
  lastEntry : U32
  nentries : U32
  nssId : ℕ

inductive Errno where
  | enodev
  | enomem
  | eio

/-- `nss_log_open`, where `kzalloc` tells whether there was memory. -/
def nssLogOpen (nssId : ℤ) (kzalloc : Bool) (rbe : ℕ → RingBufferAddr) :
    Except Errno (LogData × (ℕ → RingBufferAddr)) :=
  if nssId < 0 ∨ nssId ≥ NSS_MAX_CORES then .error .enodev
  else if !kzalloc then .error .enomem
  else
    let id := nssId.toNat
    let b := rbe id
    if b.addr = 0 then .error .eio
    else .ok (⟨b.addr, b.dmaAddr, 0, b.nentries, id⟩,
      Function.update rbe id { b with refcnt := b.refcnt + 1 })

/-- `nss_log_release`, which stops the kernel where the count is negative. -/
def nssLogRelease (data : LogData) (rbe : ℕ → RingBufferAddr) : ℕ → RingBufferAddr :=
  Function.update rbe data.nssId { rbe data.nssId with refcnt := (rbe data.nssId).refcnt - 1 }

def bugOn (data : LogData) (rbe : ℕ → RingBufferAddr) : Prop :=
  (nssLogRelease data rbe data.nssId).refcnt < 0

inductive LogCommand where
  | kfree (addr : ℕ)
  | dmaUnmapSingle (dmaAddr : ℕ) (size : U32)
  | wakeUp
  | clearMsgEvent
  | restore (nssId : ℕ) (old : RingBufferAddr)
  | reset (nssId : ℕ)
  | done (nssId : ℕ)

inductive LogQuery where
  | coreInitialized (nssId : ℕ)
  | kmalloc (size : U32)
  | dmaMapSingle (addr : ℕ) (size : U32)
  | attach (nssId : ℕ) (new : RingBufferAddr)
  | waitForRefcnt (nssId : ℕ)
  | reattach (nssId : ℕ) (new : RingBufferAddr)
  | debugInterfaceTx (nssId : ℕ) (new : RingBufferAddr)
  | waitForEvent
  | msgResponse

/-- `dmaMapSingle` answers `none` on a mapping error, `reattach` the entry that
    it has replaced. -/
abbrev LogAnswer : LogQuery → Type
  | .coreInitialized _ => Bool
  | .kmalloc _ => ℕ
  | .dmaMapSingle _ _ => Option ℕ
  | .attach _ _ => Bool
  | .waitForRefcnt _ => Bool
  | .reattach _ _ => Option RingBufferAddr
  | .debugInterfaceTx _ _ => Bool
  | .waitForEvent => Bool
  | .msgResponse => NssCmnResponse

abbrev LogCall (α : Type) := Call LogCommand LogAnswer α
abbrev LogEvent := Event LogCommand LogAnswer

def tell (c : LogCommand) : LogCall Unit := Call.command c
def ask (q : LogQuery) : LogCall (LogAnswer q) := Call.query q

/-- The first section: only an empty entry is written. -/
def attach (new b : RingBufferAddr) : Bool × RingBufferAddr :=
  if b.addr ≠ 0 then (false, b) else (true, { new with refcnt := 1 })

/-- The section after the wait: the entry must be there and unused. -/
def reattach (new b : RingBufferAddr) : Option RingBufferAddr × RingBufferAddr :=
  if b.addr = 0 then (none, b)
  else if b.refcnt > 0 then (none, b)
  else (some b, { new with refcnt := 1 })

def bufferSize (nentry : U32) : U32 := NSS_LOG_DESCRIPTOR_SIZE + NSS_LOG_ENTRY_SIZE * nentry

/-- The label `fail2`. -/
def fail2 (addr : ℕ) : LogCall Bool := do
  tell (.kfree addr)
  tell .wakeUp
  return false

/-- The label `fail1`. -/
def fail1 (addr dmaAddr : ℕ) (size : U32) : LogCall Bool := do
  if addr ≠ 0 then
    tell (.dmaUnmapSingle dmaAddr size)
  fail2 addr

/-- Sends the new buffer and waits; whether that failed. -/
def logBufInit (nssId : ℕ) (new : RingBufferAddr) : LogCall Bool := do
  tell .clearMsgEvent
  if !(← ask (.debugInterfaceTx nssId new)) then return true
  if !(← ask .waitForEvent) then return true
  let response ← ask .msgResponse
  return response ≠ .NSS_CMN_RESPONSE_ACK

def finishAlloc (nssId : ℕ) (new : RingBufferAddr) (old : Option RingBufferAddr) :
    LogCall Bool := do
  let err ← logBufInit nssId new
  match old with
  | some oldRbe =>
    if !err then
      tell (.dmaUnmapSingle oldRbe.dmaAddr (bufferSize oldRbe.nentries))
      tell (.kfree oldRbe.addr)
    else
      tell (.restore nssId oldRbe)
      tell .wakeUp
  | none =>
    if err then
      tell (.reset nssId)
      tell .wakeUp
  if !err then
    tell (.done nssId)
    tell .wakeUp
    return true
  fail1 new.addr new.dmaAddr (bufferSize new.nentries)

def nssDebugLogBufferAlloc (nssId : ℕ) (nentry : U32) : LogCall Bool := do
  if nssId ≥ NSS_MAX_CORES then return false
  if !(← ask (.coreInitialized nssId)) then return false
  let size := bufferSize nentry
  let addr ← ask (.kmalloc size)
  if addr = (0 : ℕ) then return false
  match (← ask (.dmaMapSingle addr size) : Option ℕ) with
  | none => fail2 addr
  | some dmaAddr =>
    let new : RingBufferAddr := ⟨addr, dmaAddr, nentry, 1⟩
    if ← ask (.attach nssId new) then finishAlloc nssId new none
    else if !(← ask (.waitForRefcnt nssId)) then fail1 addr dmaAddr size
    else
      match (← ask (.reattach nssId new) : Option RingBufferAddr) with
      | none => fail1 addr dmaAddr size
      | some old => finishAlloc nssId new (some old)

end NssDrv.LogBuffer

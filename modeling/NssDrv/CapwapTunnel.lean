import NssDrv.DynamicInterface
import NssDrv.InterfaceTables

set_option autoImplicit false

/-!
# CAPWAP tunnels

A handle per tunnel in a table under a spin lock, with a count of the messages
that are being sent. The count goes up under the lock and down without it.
-/
namespace NssDrv.CapwapTunnel
open CallTree HlosInterface InterfaceTables TransmitApi
open DynamicInterface (nssIsDynamicInterface)

/-- `nss_capwap_handle`, without its statistics. -/
structure CapwapHandle where
  refcnt : ℤ
  ifNum : ℕ
  msgCallback : ℕ
  appData : ℕ

/-- `oops` is an access through a null pointer. -/
inductive CapwapCommand where
  | spinLock
  | spinUnlock
  | atomicInc (h : ℕ)
  | atomicDec (h : ℕ)
  | clearHandle (h ifNum : ℕ)
  | setHdl (index : ℕ) (h : Option ℕ)
  | setCallback (h cb appData : ℕ)
  | kfree (h : ℕ)
  | unregisterHandler (ifNum : ℕ)
  | setDp (ifNum : ℕ) (f : DpRegister → DpRegister)
  | oops

/-- `isCapwap` is the comparison of `nss_dynamic_interface_get_type`, and nothing
    comes after `halt`. -/
inductive CapwapQuery where
  | isCapwap (ifNum : ℕ)
  | hdl (index : ℕ)
  | atomicRead (h : ℕ)
  | ndev (ifNum : ℕ)
  | registerHandler (ifNum cb appData : ℕ)
  | kmalloc
  | coreInitialized
  | devAllocSkb
  | sendBuffer
  | halt

abbrev CapwapAnswer : CapwapQuery → Type
  | .isCapwap _ => Bool
  | .hdl _ => Option ℕ
  | .atomicRead _ => ℤ
  | .ndev _ => ℕ
  | .registerHandler _ _ _ => CoreStatus
  | .kmalloc => Option ℕ
  | .coreInitialized => Bool
  | .devAllocSkb => Bool
  | .sendBuffer => CoreStatus
  | .halt => Empty

abbrev CapwapCall (α : Type) := Call CapwapCommand CapwapAnswer α
abbrev CapwapEvent := Event CapwapCommand CapwapAnswer

/-- A context or `NULL`, a status, or a truth value. -/
inductive CapwapResult where
  | ctx (found : Bool)
  | status (status : TxStatus)
  | done (ok : Bool)
  deriving DecidableEq

def NSS_CAPWAP_MSG_TYPE_MAX : ℕ := 9

/-- `fits` tells whether the length is at most the size of the message. -/
structure CapwapMsg where
  interface : ℕ
  type : ℕ
  fits : Bool

def nssCapwapMsgHandler : ℕ := 1

def hdlIndex (ifNum : ℕ) : ℕ := ifNum - NSS_DYNAMIC_IF_START

def tell (c : CapwapCommand) : CapwapCall Unit := .tell c (.ret ())
def readHdl (ifNum : ℕ) : CapwapCall (Option ℕ) := .ask (.hdl (hdlIndex ifNum)) .ret

def oops {α : Type} : CapwapCall α := .tell .oops (.ask .halt Empty.elim)

def nssCapwapVerifyIfNum (ifNum : ℕ) : CapwapCall Bool :=
  if nssIsDynamicInterface ifNum = false then .ret false
  else .ask (.isCapwap ifNum) .ret

def nssCapwapRefcntInc (ifNum : ℕ) : CapwapCall Unit := do
  match ← readHdl ifNum with
  | none => oops
  | some h => tell (.atomicInc h)

def nssCapwapRefcntDec (ifNum : ℕ) : CapwapCall Unit := do
  match ← readHdl ifNum with
  | none => oops
  | some h => tell (.atomicDec h)

def nssCapwapRefcnt (ifNum : ℕ) : CapwapCall ℤ := do
  match ← readHdl ifNum with
  | none => oops
  | some h => .ask (.atomicRead h) .ret

def nssCapwapSetMsgCallback (ifNum cb appData : ℕ) : CapwapCall Unit := do
  match ← readHdl ifNum with
  | none => .ret ()
  | some h => tell (.setCallback h cb appData)

def nssCapwapInstanceAlloc (ifNum : ℕ) : CapwapCall Bool :=
  .ask .kmalloc fun
  | none => .ret false
  | some h => do
    tell (.clearHandle h ifNum)
    tell .spinLock
    match ← readHdl ifNum with
    | some _ =>
      tell .spinUnlock
      tell (.kfree h)
      return false
    | none =>
      tell (.setHdl (hdlIndex ifNum) (some h))
      tell .spinUnlock
      return true

def sendMsg (msg : CapwapMsg) : CapwapCall TxStatus :=
  .ask .coreInitialized fun (initialized : Bool) =>
    if initialized = false then .ret (.refused .failureNotReady)
    else if msg.fits = false then .ret (.refused .failureBadParam)
    else .ask .devAllocSkb fun (nbuf : Bool) =>
      if nbuf = false then .ret (.refused .failure)
      else .ask .sendBuffer fun
        | .success => .ret .success
        | .failure => .ret (.refused .failure)
        | .failureQueue => .ret (.refused .failureQueue)

def nssCapwapTxMsg (msg : CapwapMsg) : CapwapCall CapwapResult := do
  if (← nssCapwapVerifyIfNum msg.interface) = false then
    return .status (.refused .failureBadParam)
  if msg.type ≥ NSS_CAPWAP_MSG_TYPE_MAX then return .status (.refused .failureBadParam)
  tell .spinLock
  if (← readHdl msg.interface) = none then
    tell .spinUnlock
    return .status (.refused .failureBadParam)
  nssCapwapRefcntInc msg.interface
  tell .spinUnlock
  let status ← sendMsg msg
  nssCapwapRefcntDec msg.interface
  return .status status

/-- The callback and its data are not used. -/
def nssCapwapNotifyRegister (ifNum _cb _appData : ℕ) : CapwapCall CapwapResult := do
  if (← nssCapwapVerifyIfNum ifNum) = false then return .ctx false
  tell .spinLock
  if (← readHdl ifNum) ≠ none then
    tell .spinUnlock
    return .ctx false
  tell .spinUnlock
  return .ctx true

def nssCapwapNotifyUnregister (nssTop ifNum : ℕ) : CapwapCall CapwapResult := do
  if (← nssCapwapVerifyIfNum ifNum) = false then return .status (.refused .failureBadParam)
  if nssTop = 0 then return .status (.refused .failureBadParam)
  tell .spinLock
  if (← readHdl ifNum) = none then
    tell .spinUnlock
    return .status (.refused .failureBadParam)
  if (← nssCapwapRefcnt ifNum) ≠ 0 then
    tell .spinUnlock
    return .status (.refused .failureQueue)
  nssCapwapSetMsgCallback ifNum 0 0
  tell .spinUnlock
  return .status .success

def readNdev (ifNum : ℕ) : CapwapCall ℕ := .ask (.ndev ifNum) .ret

def registerHandler (ifNum cb appData : ℕ) : CapwapCall CoreStatus :=
  .ask (.registerHandler ifNum cb appData) .ret

def nssCapwapDataRegister (ifNum cb netdev features : ℕ) : CapwapCall CapwapResult := do
  if (← nssCapwapVerifyIfNum ifNum) = false then return .ctx false
  tell .spinLock
  if (← readNdev ifNum) ≠ 0 then
    tell .spinUnlock
    return .ctx false
  tell .spinUnlock
  if (← registerHandler ifNum nssCapwapMsgHandler 0) ≠ .success then return .ctx false
  if (← nssCapwapInstanceAlloc ifNum) = false then return .ctx false
  tell (.setDp ifNum fun dp => { dp with cb := cb })
  tell (.setDp ifNum fun dp => { dp with appData := 0 })
  tell (.setDp ifNum fun dp => { dp with ndev := netdev })
  tell (.setDp ifNum fun dp => { dp with features := features })
  return .ctx true

def nssCapwapDataUnregister (ifNum : ℕ) : CapwapCall CapwapResult := do
  if (← nssCapwapVerifyIfNum ifNum) = false then return .done false
  tell .spinLock
  if (← nssCapwapRefcnt ifNum) ≠ 0 then
    tell .spinUnlock
    return .done false
  let h ← readHdl ifNum
  tell (.setHdl (hdlIndex ifNum) none)
  tell .spinUnlock
  tell (.unregisterHandler ifNum)
  tell (.setDp ifNum fun dp => { dp with cb := 0 })
  tell (.setDp ifNum fun dp => { dp with appData := 0 })
  tell (.setDp ifNum fun dp => { dp with ndev := 0 })
  tell (.setDp ifNum fun dp => { dp with features := 0 })
  if let some h := h then tell (.kfree h)
  return .done true

/-- What the calls share. `lock` is the caller inside `nss_capwap_spinlock`. -/
structure Capwap (ι : Type) where
  hdl : ℕ → Option ℕ
  heap : ℕ → Option CapwapHandle
  lock : Option ι
  handlers : RxHandlers
  dp : ℕ → DpRegister

namespace Capwap
variable {ι : Type}

/-- Writes to a handle that is not allocated are lost. -/
def modify (s : Capwap ι) (h : ℕ) (f : CapwapHandle → CapwapHandle) : Capwap ι :=
  { s with heap := Function.update s.heap h ((s.heap h).map f) }

/-- What an event of caller `i` requires and does. -/
def Effect (s : Capwap ι) (i : ι) : CapwapEvent → Capwap ι → Prop
  | .did .spinLock, t => s.lock = none ∧ t = { s with lock := some i }
  | .did .spinUnlock, t => t = { s with lock := none }
  | .did (.atomicInc h), t => t = s.modify h fun x => { x with refcnt := x.refcnt + 1 }
  | .did (.atomicDec h), t => t = s.modify h fun x => { x with refcnt := x.refcnt - 1 }
  | .did (.clearHandle h ifNum), t => t = s.modify h fun _ => ⟨0, ifNum, 0, 0⟩
  | .did (.setHdl n h), t => t = { s with hdl := Function.update s.hdl n h }
  | .did (.setCallback h cb appData), t =>
    t = s.modify h fun x => { x with appData := appData, msgCallback := cb }
  | .did (.kfree h), t => t = { s with heap := Function.update s.heap h none }
  | .did (.unregisterHandler ifNum), t =>
    t = { s with handlers := (nssCoreUnregisterHandler ifNum s.handlers).2 }
  | .did (.setDp ifNum f), t => t = { s with dp := Function.update s.dp ifNum (f (s.dp ifNum)) }
  | .did .oops, t => t = s
  | .saw (.hdl n) h, t => h = s.hdl n ∧ t = s
  | .saw (.atomicRead h) v, t => (∀ x, s.heap h = some x → v = x.refcnt) ∧ t = s
  | .saw (.ndev ifNum) ndev, t => ndev = (s.dp ifNum).ndev ∧ t = s
  | .saw (.registerHandler ifNum cb appData) status, t =>
    status = (nssCoreRegisterHandler ifNum cb appData s.handlers).1 ∧
      t = { s with handlers := (nssCoreRegisterHandler ifNum cb appData s.handlers).2 }
  | .saw .kmalloc none, t => t = s
  | .saw .kmalloc (some h), t =>
    s.heap h = none ∧ ∃ x, t = { s with heap := Function.update s.heap h (some x) }
  | .saw (.isCapwap _) _, t => t = s
  | .saw .coreInitialized _, t => t = s
  | .saw .devAllocSkb _, t => t = s
  | .saw .sendBuffer _, t => t = s
  | .saw .halt _, _ => False

end Capwap

theorem entry_cases {hdl : ℕ → Option ℕ} {n m a : ℕ} {entry : Option ℕ}
    (h : Function.update hdl n entry m = some a) :
    (m = n ∧ entry = some a) ∨ (m ≠ n ∧ hdl m = some a) := by
  by_cases hm : m = n
  · subst hm
    rw [Function.update_self] at h
    exact .inl ⟨rfl, h⟩
  · rw [Function.update_of_ne hm] at h
    exact .inr ⟨hm, h⟩

end NssDrv.CapwapTunnel

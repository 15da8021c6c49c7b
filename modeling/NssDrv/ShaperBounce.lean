import Mathlib.Data.Nat.Notation
import NssDrv.CallTree
import NssDrv.HlosInterface

set_option autoImplicit false

/-!
# Shaper bounce registration

The calls of `nss_shaper.c` and `nss_core_handle_bounced_pkt`, access by access.
`BUG_ON(false)` does nothing, so a call goes on after each of its own warnings,
also after the one about an interface number that is out of range.
-/
namespace NssDrv.ShaperBounce
open HlosInterface CallTree

inductive LockName where
  | lock
  | statsLock
  deriving DecidableEq

inductive BounceKind where
  | interface
  | bridge
  deriving DecidableEq

/-- An entry of `bounce_interface_registrants` or `bounce_bridge_registrants`. -/
structure RegistrantId where
  kind : BounceKind
  ifNum : U32
  deriving DecidableEq

/-- `bounced_callback`, `app_data` and `owner`, as numbers. -/
structure Registration where
  bouncedCallback : ℕ
  appData : ℕ
  owner : ℕ

inductive Command where
  | spinLockBh (l : LockName)
  | spinUnlockBh (l : LockName)
  | register (reg : RegistrantId) (r : Registration)
  | unregister (reg : RegistrantId)
  | setCallbackActive (reg : RegistrantId) (active : Bool)
  | modulePut (owner : ℕ)
  | yield
  | callbackStart (bouncedCallback appData : ℕ)
  | callbackEnd
  | freeSkb
  | sendInterrupt
  | countTxCmdReq

inductive Query where
  | shapingHandlerId
  | tryModuleGet (owner : ℕ)
  | registered (reg : RegistrantId)
  | registration (reg : RegistrantId)
  | callbackActive (reg : RegistrantId)
  | sendBuffer (ifNum : U32) (queue : ℕ) (bufferType : U8)

abbrev Answer : Query → Type
  | .shapingHandlerId => U8
  | .tryModuleGet _ => Bool
  | .registered _ => Bool
  | .registration _ => Registration
  | .callbackActive _ => Bool
  | .sendBuffer _ _ _ => Bool

abbrev ShaperCall (α : Type) := Call Command Answer α
abbrev ShaperEvent := Event Command Answer

def tell (c : Command) : ShaperCall Unit := Call.command c
def ask (q : Query) : ShaperCall (Answer q) := Call.query q
def shapingHandlerId : ShaperCall U8 := ask .shapingHandlerId
def tryModuleGet (owner : ℕ) : ShaperCall Bool := ask (.tryModuleGet owner)
def registered (reg : RegistrantId) : ShaperCall Bool := ask (.registered reg)
def registration (reg : RegistrantId) : ShaperCall Registration := ask (.registration reg)
def spinLockBh (l : LockName) : ShaperCall Unit := tell (.spinLockBh l)
def spinUnlockBh (l : LockName) : ShaperCall Unit := tell (.spinUnlockBh l)

inductive NssTxStatus where
  | NSS_TX_SUCCESS
  | NSS_TX_FAILURE

def SHAPING_DISABLED : U8 := 0xFF

/-- The context returned is the number of its core. -/
def nssShaperRegisterShaping : ShaperCall (Option U8) := do
  let id ← shapingHandlerId
  if id = SHAPING_DISABLED then return none
  return some id

def nssShaperUnregisterShaping : ShaperCall Unit := return ()

def registerShaperBounce (reg : RegistrantId) (r : Registration) : ShaperCall (Option U8) := do
  let id ← shapingHandlerId
  if id = SHAPING_DISABLED then return none
  if !(← tryModuleGet r.owner) then return none
  spinLockBh .lock
  if ← registered reg then
    spinUnlockBh .statsLock
    tell (.modulePut r.owner)
  tell (.register reg r)
  spinUnlockBh .lock
  return some (← shapingHandlerId)

def nssShaperRegisterShaperBounceInterface (ifNum : U32) (r : Registration) :
    ShaperCall (Option U8) :=
  registerShaperBounce ⟨.interface, ifNum⟩ r

def nssShaperRegisterShaperBounceBridge (ifNum : U32) (r : Registration) :
    ShaperCall (Option U8) :=
  registerShaperBounce ⟨.bridge, ifNum⟩ r

def nssShaperUnregisterShaperBounceInterface (ifNum : U32) : ShaperCall Unit := do
  let reg : RegistrantId := ⟨.interface, ifNum⟩
  spinLockBh .lock
  if !(← registered reg) then
    spinUnlockBh .statsLock
  let r ← registration reg
  tell (.unregister reg)
  spinUnlockBh .lock
  tell (.modulePut r.owner)

/-- Only this one waits for the callback. -/
def nssShaperUnregisterShaperBounceBridge (ifNum : U32) : ShaperCall Unit := do
  let reg : RegistrantId := ⟨.bridge, ifNum⟩
  spinLockBh .lock
  if !(← registered reg) then
    spinUnlockBh .statsLock
  Call.whileLoop (.callbackActive reg) (fun (active : Bool) => active)
    [.spinUnlockBh .statsLock, .yield, .spinLockBh .statsLock]
  let r ← registration reg
  tell (.unregister reg)
  spinUnlockBh .lock
  tell (.modulePut r.owner)

/-- The body that the two bounce calls share, for a queue and a buffer type. -/
def bouncePacket (reg : RegistrantId) (queue : ℕ) (bufferType : U8) : ShaperCall NssTxStatus := do
  spinLockBh .lock
  if !(← registered reg) then
    spinUnlockBh .statsLock
    return .NSS_TX_FAILURE
  spinUnlockBh .lock
  if !(← ask (.sendBuffer reg.ifNum queue bufferType)) then return .NSS_TX_FAILURE
  tell .sendInterrupt
  tell .countTxCmdReq
  return .NSS_TX_SUCCESS

def nssShaperBounceInterfacePacket (ifNum : U32) : ShaperCall NssTxStatus :=
  bouncePacket ⟨.interface, ifNum⟩ 0 H2N_BUFFER_SHAPER_BOUNCE_INTERFACE

def nssShaperBounceBridgePacket (ifNum : U32) : ShaperCall NssTxStatus :=
  bouncePacket ⟨.bridge, ifNum⟩ NSS_IF_CMD_QUEUE H2N_BUFFER_SHAPER_BOUNCE_BRIDGE

/-- Returns the packet to its registrant, in a NAPI context. -/
def nssCoreHandleBouncedPkt (reg : RegistrantId) : ShaperCall Unit := do
  spinLockBh .lock
  if !(← registered reg) then
    spinUnlockBh .lock
    tell .freeSkb
    return
  let r ← registration reg
  tell (.setCallbackActive reg true)
  spinUnlockBh .lock
  if !(← tryModuleGet r.owner) then
    spinLockBh .lock
    tell (.setCallbackActive reg false)
    spinUnlockBh .lock
    tell .freeSkb
    return
  tell (.callbackStart r.bouncedCallback r.appData)
  tell .callbackEnd
  spinLockBh .lock
  tell (.setCallbackActive reg false)
  spinUnlockBh .lock
  tell (.modulePut r.owner)

end NssDrv.ShaperBounce

import Mathlib.Algebra.Group.Int.Defs
import Mathlib.Algebra.Notation.Pi.Basic
import NssDrv.CapwapRegistration
import NssDrv.CommonMessage

set_option autoImplicit false

/-!
# Virtual interfaces

`nss_virt_if`, `nss_wifi_if` and the deprecated `nss_tx_rx_virt_if`: creating an
interface enters it in four places, one after the other, and destroying it takes
it out of them.
-/
namespace NssDrv.VirtualInterfaces
open HlosInterface InterfaceTables TransmitApi CommonMessage
open DynamicInterface (nssIsDynamicInterface)
open CapwapRegistration (dynamic_range)

inductive VirtFamily where
  | virtIf
  | wifiIf
  | txRxVirtIf
  deriving DecidableEq

/-- `nss_virt_if_msg_handler` and its likes, as pointers. -/
def VirtFamily.msgHandler : VirtFamily → ℕ
  | .virtIf => 20
  | .wifiIf => 21
  | .txRxVirtIf => 22

/-- `nss_virt_if_handle` and its likes. -/
structure IfHandle where
  family : VirtFamily
  ifNum : ℕ
  ndev : ℕ
  cb : ℕ
  appData : ℕ

/-- The asynchronous messages to the dynamic interface, with the handle that is
    their `app_data`. -/
inductive NodeRequest where
  | alloc (handle : ℕ)
  | dealloc (handle ifNum : ℕ)
  deriving DecidableEq

def NodeRequest.handle : NodeRequest → ℕ
  | .alloc p => p
  | .dealloc p _ => p

/-- The handles that are allocated, the tables of the families and the driver,
    and the firmware's nodes and the requests that it has not answered. Ghosts:
    the handles that a caller has, and the references on devices that an
    interface's calls have taken, less those that they have dropped. -/
structure VirtTop where
  heap : ℕ → Option IfHandle
  table : VirtFamily → ℕ → Option ℕ
  handlers : RxHandlers
  dp : ℕ → DpRegister
  node : ℕ → Bool
  flight : List NodeRequest
  given : ℕ → Bool
  held : ℕ → ℕ → ℤ

/-- What `nss_dynamic_interface_alloc_node` returns, and the node that the
    firmware allocates meanwhile. They differ where a response is late. -/
structure AllocAnswer where
  ret : Option ℕ
  taken : Option ℕ

/-- Whether `nss_dynamic_interface_dealloc_node` returns success, and whether the
    firmware frees the node. -/
structure DeallocAnswer where
  success : Bool
  freed : Bool

namespace VirtTop

def setHandle (f : VirtFamily) (n : ℕ) (v : Option ℕ) (s : VirtTop) : VirtTop :=
  { s with table := Function.update s.table f (Function.update (s.table f) n v) }

def setHeap (p : ℕ) (h : IfHandle) (s : VirtTop) : VirtTop :=
  { s with heap := Function.update s.heap p (some h) }

def kfree (p : ℕ) (s : VirtTop) : VirtTop :=
  { s with heap := Function.update s.heap p none, given := Function.update s.given p false }

def give (p : ℕ) (s : VirtTop) : VirtTop := { s with given := Function.update s.given p true }

def setNode (n : ℕ) (v : Bool) (s : VirtTop) : VirtTop :=
  { s with node := Function.update s.node n v }

/-- `dev_hold` and `dev_put` for the interface `n`. -/
def addHeld (n dev : ℕ) (x : ℤ) (s : VirtTop) : VirtTop :=
  { s with
    held := Function.update s.held n (Function.update (s.held n) dev (s.held n dev + x)) }

/-- The device is entered where none is, and held. -/
def attach (n netdev : ℕ) (s : VirtTop) : VirtTop :=
  let s := if (s.dp n).ndev = 0 then
      { s with dp := Function.update s.dp n { s.dp n with ndev := netdev } }
    else s
  s.addHeld n netdev 1

/-- The device that is entered is taken out and put. -/
def detach (n : ℕ) (s : VirtTop) : VirtTop :=
  { s with dp := Function.update s.dp n { s.dp n with ndev := 0 } }.addHeld n (s.dp n).ndev (-1)

def nssDynamicInterfaceDeallocNode (n : ℕ) (answer : DeallocAnswer) (s : VirtTop) :
    Bool × VirtTop :=
  if nssIsDynamicInterface n = false then (false, s)
  else (answer.success, if answer.freed = true then s.setNode n false else s)

end VirtTop
open VirtTop

section Destroy
variable (p : ℕ) (h : IfHandle) (answer : DeallocAnswer) (s : VirtTop)

def handleDestroySync (f : VirtFamily) : Bool × VirtTop :=
  match s.nssDynamicInterfaceDeallocNode h.ifNum answer with
  | (false, s) => (false, s)
  | (true, s) => (true, (s.setHandle f h.ifNum none).kfree p)

def nssVirtIfHandleDestroySync : Bool × VirtTop := handleDestroySync p h answer s .virtIf

def nssTxRxVirtIfHandleDestroy : Bool × VirtTop := handleDestroySync p h answer s .txRxVirtIf

/-- The table is cleared before the firmware is asked. -/
def nssWifiIfHandleDestroy : Bool × VirtTop :=
  let s := s.setHandle .wifiIf h.ifNum none
  match s.nssDynamicInterfaceDeallocNode h.ifNum answer with
  | (false, s) => (false, s)
  | (true, s) => (true, s.kfree p)

def VirtFamily.handleDestroy : VirtFamily → Bool × VirtTop
  | .virtIf => nssVirtIfHandleDestroySync p h answer s
  | .wifiIf => nssWifiIfHandleDestroy p h answer s
  | .txRxVirtIf => nssTxRxVirtIfHandleDestroy p h answer s

def unregisterAfter (n : ℕ) : TxStatus × VirtTop :=
  match nssCoreUnregisterHandler n s.handlers with
  | (.success, handlers) => (.success, { s with handlers })
  | (_, handlers) => (.refused .failureBadParam, { s with handlers })

def destroySync (f : VirtFamily) (ready : Bool) : TxStatus × VirtTop :=
  if ready = false then (.refused .failureNotReady, s)
  else if (s.dp h.ifNum).ndev = 0 then (.refused .failureBadParam, s)
  else
    match f.handleDestroy p h answer (s.detach h.ifNum) with
    | (false, s) => (.refused .failure, s)
    | (true, s) => unregisterAfter s h.ifNum

def nssVirtIfDestroySync (ready : Bool) : TxStatus × VirtTop :=
  destroySync p h answer s .virtIf ready

def nssDestroyVirtIf (ready : Bool) : TxStatus × VirtTop :=
  destroySync p h answer s .txRxVirtIf ready

/-- The handler of received messages stays. -/
def nssWifiIfDestroy (ready : Bool) : TxStatus × VirtTop :=
  if ready = false then (.refused .failureNotReady, s)
  else if (s.dp h.ifNum).ndev = 0 then (.refused .failureBadParam, s)
  else
    match nssWifiIfHandleDestroy p h answer (s.detach h.ifNum) with
    | (false, s) => (.refused .failure, s)
    | (true, s) => (.success, s)

def VirtFamily.destroy (ready : Bool) : VirtFamily → TxStatus × VirtTop
  | .virtIf => nssVirtIfDestroySync p h answer s ready
  | .wifiIf => nssWifiIfDestroy p h answer s ready
  | .txRxVirtIf => nssDestroyVirtIf p h answer s ready

end Destroy

/-- What a synchronous create meets: the core's state, the two allocations, the
    answer to the create message within its time, and the node messages. -/
structure CreateEnv where
  ready : Bool
  alloc : AllocAnswer
  handle : Option ℕ
  pvt : Bool
  acked : Bool
  dealloc : DeallocAnswer

def CreateEnv.memory (env : CreateEnv) : Option ℕ := if env.pvt = true then env.handle else none

def createSync (f : VirtFamily) (env : CreateEnv) (netdev : ℕ) (s : VirtTop) :
    Option ℕ × VirtTop :=
  if env.ready = false then (none, s)
  else
    let s := env.alloc.taken.elim s fun n => s.setNode n true
    match env.alloc.ret with
    | none => (none, s)
    | some n =>
      match env.memory with
      | none => (none, (s.nssDynamicInterfaceDeallocNode n env.dealloc).2)
      | some p =>
        let h : IfHandle := ⟨f, n, 0, 0, 0⟩
        let s := (s.setHeap p h).setHandle f n (some p)
        match nssCoreRegisterHandler n f.msgHandler 0 s.handlers with
        | (.success, handlers) =>
          let s := { s with handlers }
          if env.acked = false then (none, (f.handleDestroy p h env.dealloc s).2)
          else (some p, (s.attach n netdev).give p)
        | _ => (none, (f.handleDestroy p h env.dealloc s).2)

def nssVirtIfCreateSync : CreateEnv → ℕ → VirtTop → Option ℕ × VirtTop := createSync .virtIf

def nssWifiIfCreate : CreateEnv → ℕ → VirtTop → Option ℕ × VirtTop := createSync .wifiIf

def nssCreateVirtIf : CreateEnv → ℕ → VirtTop → Option ℕ × VirtTop := createSync .txRxVirtIf

/-- `nss_virt_if_register` and its likes. -/
def registerIf (h : IfHandle) (cb netdev features : ℕ) (s : VirtTop) : VirtTop :=
  { s with dp := Function.update s.dp h.ifNum ⟨netdev, cb, 0, features⟩ }

def unregisterIf (h : IfHandle) (s : VirtTop) : VirtTop :=
  { s with dp := Function.update s.dp h.ifNum ⟨0, 0, 0, 0⟩ }

inductive VirtIfStatus where
  | success
  | coreFailure
  | allocFailure
  | dynamicIfFailure
  deriving DecidableEq

structure Invoked where
  cb : ℕ
  appData : ℕ
  response : NssCmnResponse

def IfHandle.callback (h : IfHandle) (response : NssCmnResponse) : Option Invoked :=
  if h.cb = 0 then none else some ⟨h.cb, h.appData, response⟩

def nssVirtIfCreate (netdev cb appData : ℕ) (ready : Bool) (memory : Option ℕ) (sent : Bool)
    (s : VirtTop) : VirtIfStatus × VirtTop :=
  if ready = false then (.coreFailure, s)
  else
    match memory with
    | none => (.allocFailure, s)
    | some p =>
      let s := s.setHeap p ⟨.virtIf, 0, netdev, cb, appData⟩
      if sent = false then (.dynamicIfFailure, s.kfree p)
      else (.success, { s with flight := s.flight ++ [.alloc p] })

def nssVirtIfHandleDestroy (p : ℕ) (h : IfHandle) (sent : Bool) (s : VirtTop) : Bool × VirtTop :=
  if sent = false then (false, s)
  else (true, { s with flight := s.flight ++ [.dealloc p h.ifNum] })

def nssVirtIfHandleCreateCb (p : ℕ) (h : IfHandle) (response : NssCmnResponse) (ifNum : ℕ)
    (created sent : Bool) (s : VirtTop) : Option Invoked × VirtTop :=
  if response ≠ .NSS_CMN_RESPONSE_ACK then (h.callback response, s.kfree p)
  else
    let h := { h with ifNum := ifNum }
    let s := (s.setHeap p h).setHandle .virtIf ifNum (some p)
    match nssCoreRegisterHandler ifNum VirtFamily.virtIf.msgHandler 0 s.handlers with
    | (.success, handlers) =>
      let s := { s with handlers }
      if created = false then (h.callback response, (nssVirtIfHandleDestroy p h sent s).2)
      else (h.callback response, s.attach ifNum h.ndev)
    | _ => (h.callback response, (nssVirtIfHandleDestroy p h sent s).2)

def nssVirtIfHandleDestroyCb (p : ℕ) (h : IfHandle) (response : NssCmnResponse) (s : VirtTop) :
    Option Invoked × VirtTop :=
  if response ≠ .NSS_CMN_RESPONSE_ACK then (h.callback response, s)
  else (h.callback response, (s.setHandle .virtIf h.ifNum none).kfree p)

/-- The callback is stored before anything is looked at. -/
def nssVirtIfDestroy (p : ℕ) (h : IfHandle) (cb appData : ℕ) (ready sent : Bool) (s : VirtTop) :
    TxStatus × VirtTop :=
  let h := { h with cb := cb, appData := appData }
  let s := s.setHeap p h
  if ready = false then (.refused .failureNotReady, s)
  else if (s.dp h.ifNum).ndev = 0 then (.refused .failureBadParam, s)
  else
    match nssVirtIfHandleDestroy p h sent (s.detach h.ifNum) with
    | (false, s) => (.refused .failure, s)
    | (true, s) => unregisterAfter s h.ifNum

/-- The calls of the users, and the responses to the asynchronous messages. -/
inductive VirtCall where
  | createSync (f : VirtFamily) (env : CreateEnv) (netdev : ℕ)
  | destroySync (f : VirtFamily) (p : ℕ) (ready : Bool) (answer : DeallocAnswer)
  | register (p cb netdev features : ℕ)
  | unregister (p : ℕ)
  | create (netdev cb appData : ℕ) (ready : Bool) (memory : Option ℕ) (sent : Bool)
  | destroy (p cb appData : ℕ) (ready sent : Bool)
  | allocated (p : ℕ) (response : NssCmnResponse) (ifNum : ℕ) (created sent : Bool)
  | deallocated (p ifNum : ℕ) (response : NssCmnResponse)

/-- The firmware answers a request with the node's number, or refuses it. A number
    is that of no other node. -/
def VirtTop.answered (s : VirtTop) (r : NodeRequest) (response : NssCmnResponse) (ifNum : ℕ) :
    VirtTop :=
  let s := { s with flight := s.flight.erase r }
  if response = .NSS_CMN_RESPONSE_ACK then
    match r with
    | .alloc _ => s.setNode ifNum true
    | .dealloc _ _ => s.setNode ifNum false
  else s

/-- With an acknowledgement the caller has the handle: it is the message's `app_data`. -/
def createAnswered (p : ℕ) (h : IfHandle) (response : NssCmnResponse) (ifNum : ℕ)
    (created sent : Bool) (s : VirtTop) : Option Invoked × VirtTop :=
  let r := nssVirtIfHandleCreateCb p h response ifNum created sent
    (s.answered (.alloc p) response ifNum)
  if r.1.isSome = true ∧ response = .NSS_CMN_RESPONSE_ACK then (r.1, r.2.give p) else r

def destroyAnswered (p : ℕ) (h : IfHandle) (ifNum : ℕ) (response : NssCmnResponse)
    (s : VirtTop) : Option Invoked × VirtTop :=
  nssVirtIfHandleDestroyCb p h response (s.answered (.dealloc p ifNum) response ifNum)

/-- A call is about a handle that its caller has, and the firmware gives no live
    node's number to another node. -/
inductive VirtStep : VirtTop → VirtCall → VirtTop → Prop where
  | createSync (s : VirtTop) (f : VirtFamily) (env : CreateEnv) (netdev : ℕ)
      (hnetdev : netdev ≠ 0) (hmem : ∀ p, env.handle = some p → s.heap p = none)
      (hnode : ∀ n, env.alloc.taken = some n →
        s.node n = false ∧ nssIsDynamicInterface n = true) :
      VirtStep s (.createSync f env netdev) (createSync f env netdev s).2
  | destroySync (s : VirtTop) (f : VirtFamily) (p : ℕ) (ready : Bool) (answer : DeallocAnswer)
      (h : IfHandle) (hheap : s.heap p = some h) (hgiven : s.given p = true)
      (hfamily : h.family = f) :
      VirtStep s (.destroySync f p ready answer) (f.destroy p h answer s ready).2
  | register (s : VirtTop) (p cb netdev features : ℕ) (h : IfHandle) (hheap : s.heap p = some h)
      (hgiven : s.given p = true) (hnetdev : netdev ≠ 0) :
      VirtStep s (.register p cb netdev features) (registerIf h cb netdev features s)
  | unregister (s : VirtTop) (p : ℕ) (h : IfHandle) (hheap : s.heap p = some h)
      (hgiven : s.given p = true) :
      VirtStep s (.unregister p) (unregisterIf h s)
  | create (s : VirtTop) (netdev cb appData : ℕ) (ready : Bool) (memory : Option ℕ)
      (sent : Bool) (hnetdev : netdev ≠ 0) (hmem : ∀ p, memory = some p → s.heap p = none) :
      VirtStep s (.create netdev cb appData ready memory sent)
        (nssVirtIfCreate netdev cb appData ready memory sent s).2
  | destroy (s : VirtTop) (p cb appData : ℕ) (ready sent : Bool) (h : IfHandle)
      (hheap : s.heap p = some h) (hgiven : s.given p = true) (hfamily : h.family = .virtIf) :
      VirtStep s (.destroy p cb appData ready sent)
        (nssVirtIfDestroy p h cb appData ready sent s).2
  | allocated (s : VirtTop) (p : ℕ) (response : NssCmnResponse) (ifNum : ℕ)
      (created sent : Bool) (h : IfHandle) (hheap : s.heap p = some h)
      (hflight : .alloc p ∈ s.flight)
      (hnode : response = .NSS_CMN_RESPONSE_ACK →
        s.node ifNum = false ∧ nssIsDynamicInterface ifNum = true) :
      VirtStep s (.allocated p response ifNum created sent)
        (createAnswered p h response ifNum created sent s).2
  | deallocated (s : VirtTop) (p ifNum : ℕ) (response : NssCmnResponse) (h : IfHandle)
      (hheap : s.heap p = some h) (hflight : .dealloc p ifNum ∈ s.flight) :
      VirtStep s (.deallocated p ifNum response) (destroyAnswered p h ifNum response s).2

structure VirtStart (s : VirtTop) : Prop where
  heap : ∀ p, s.heap p = none
  table : ∀ f n, s.table f n = none
  dp : ∀ n : ℕ, nssIsDynamicInterface n = true → (s.dp n).ndev = 0
  node : ∀ n, s.node n = false
  flight : s.flight = []
  given : ∀ p, s.given p = false
  held : ∀ n, s.held n = 0

def blank : VirtTop where
  heap := fun _ => none
  table := fun _ _ => none
  handlers := fun _ => ⟨0, 0⟩
  dp := fun _ => ⟨0, 0, 0, 0⟩
  node := fun _ => false
  flight := []
  given := fun _ => false
  held := fun _ => 0

theorem blank_start : VirtStart blank := by
  constructor <;> intros <;> rfl

end NssDrv.VirtualInterfaces

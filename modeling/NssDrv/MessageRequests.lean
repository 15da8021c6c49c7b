import NssDrv.CommonMessage
import NssDrv.SyncRequest

set_option autoImplicit false

/-!
# Messages that wait for their response

The synchronous transmit functions of the physical, virtual, Wi-Fi and redirect
interfaces, of the port identifiers, of MAP-T, DTLS and PPTP.
-/
namespace NssDrv.MessageRequests
open CallTree SyncRequest CommonMessage TransmitApi
variable {Msg : Type}

/-- The callback and its data that a message brings and the driver keeps. -/
structure MsgCallback where
  cb : ℕ
  appData : ℕ

structure MsgPvt where
  response : TxStatus
  callback : MsgCallback

def callbackStatus (r : NssCmnResponse) : TxStatus :=
  if r ≠ .NSS_CMN_RESPONSE_ACK then .refused .failure else .success

/-- What a call finds: the status that the transmit function returns when it
    fails, and the callback in the message of a sender who has given `own`. -/
inductive MsgInput where
  | txFailure
  | callback (own : MsgCallback)

abbrev MsgAnswer : MsgInput → Type
  | .txFailure => TxFailure
  | .callback _ => MsgCallback

/-- The message still carries the callback of its sender. -/
def MsgFair : (q : MsgInput) → MsgAnswer q → Prop
  | .txFailure, _ => True
  | .callback own, parked => parked = own

/-- `nss_dtls_callback` and its likes, which no sender can name. -/
def driverCallback : ℕ := 1

/-- A message with the callback that its sender has given. -/
structure KeptMsg (Msg : Type) where
  own : MsgCallback
  body : Msg
  foreign : own.cb ≠ driverCallback

/-- `forget` tells whether the callback of the response drops the kept one. -/
abbrev msgService (Msg : Type) (forget : Bool) (ready : Msg → MsgPvt → Prop) : Service where
  Mem := MsgPvt
  Msg := Msg
  Resp := NssCmnResponse
  Result := TxStatus
  Input := MsgInput
  Ans := MsgAnswer
  home _ := true
  Shared := False
  Ready := ready
  callback _ r pvt := ⟨callbackStatus r, if forget then ⟨0, 0⟩ else pvt.callback⟩
  Fair := MsgFair
  Drift := Eq
  drift_refl _ := rfl
  drift_trans _ _ _ := Eq.trans
  Returns os status := status = .success ↔ os = [some .NSS_CMN_RESPONSE_ACK]

abbrev plainService (Msg : Type) : Service := msgService Msg false fun _ _ => True

abbrev keepingService (Msg : Type) : Service :=
  msgService (KeptMsg Msg) true fun msg pvt => pvt.callback = msg.own

variable {forget : Bool} {ready : Msg → MsgPvt → Prop}

def awaitStatus (msg : Msg) : (msgService Msg forget ready).Asked TxStatus := do
  if !(← send msg) then
    let why ← input MsgInput.txFailure
    up
    return .refused why
  if !(← wait) then
    assign fun pvt => { pvt with response := .refused .failure }
  let pvt ← load
  up
  return pvt.response

def msgSync (msg : Msg) : (plainService Msg).Asked TxStatus := do
  down
  awaitStatus msg

/-- The callback in the message is parked, and the message keeps that of the
    driver in its place. -/
def msgSyncKeeping (msg : KeptMsg Msg) : (keepingService Msg).Asked TxStatus := do
  down
  let parked ← input (MsgInput.callback msg.own)
  assign fun pvt => { pvt with callback := parked }
  awaitStatus msg

def nssPhysIfMsgSync (nim : Msg) := msgSync nim
def nssVirtIfTxMsgSync (nvim : Msg) := msgSync nvim
def nssWifiIfTxMsgSync (nwim : Msg) := msgSync nwim
def nssTxRxVirtIfTxMsgSync (nvim : Msg) := msgSync nvim
def nssPortidTxMsgSync (msg : Msg) := msgSync msg
def nssMapTTxSync (msg : KeptMsg Msg) := msgSyncKeeping msg
def nssDtlsTxMsgSync (msg : KeptMsg Msg) := msgSyncKeeping msg
def nssPptpTxMsgSync (msg : KeptMsg Msg) := msgSyncKeeping msg

theorem callbackStatus_success {r : NssCmnResponse} :
    callbackStatus r = .success ↔ r = .NSS_CMN_RESPONSE_ACK := by
  unfold callbackStatus
  by_cases h : r = .NSS_CMN_RESPONSE_ACK
  · simp [h]
  · simp [h]

theorem obeys_awaitStatus (msg : Msg) (pvt : MsgPvt) (hready : ready msg pvt) :
    Obeys (awaitStatus msg : (msgService Msg forget ready).Asked TxStatus) (.inside [] pvt) := by
  unfold awaitStatus
  apply obeys_send rfl (fun _ hdrift => hdrift ▸ hready)
  · apply obeys_wait
    · intro t r _
      apply obeys_loadAnswered
      apply obeys_upAnswered
      apply obeys_ret
      show callbackStatus r = .success ↔ [some r] = [some .NSS_CMN_RESPONSE_ACK]
      rw [callbackStatus_success]
      simp
    · apply obeys_assignInside
      intro t _
      apply obeys_loadInside
      rintro _ rfl
      apply obeys_upInside
      apply obeys_ret
      simp
  · apply obeys_inputInside
    intro why _
    apply obeys_upInside
    apply obeys_ret
    simp

theorem obeys_msgSync (msg : Msg) : Obeys (msgSync msg) (.outside [] none) := by
  apply obeys_down
  intro pvt
  exact obeys_awaitStatus msg pvt trivial

theorem obeys_msgSyncKeeping (msg : KeptMsg Msg) :
    Obeys (msgSyncKeeping msg) (.outside [] none) := by
  apply obeys_down
  intro pvt
  apply obeys_inputInside
  intro parked hparked
  apply obeys_assignInside
  intro t _
  exact obeys_awaitStatus msg _ hparked

end NssDrv.MessageRequests

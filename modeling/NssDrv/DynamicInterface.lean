import Mathlib.Logic.Relation
import NssDrv.CommonMessage
import NssDrv.SyncRequest

set_option autoImplicit false

/-!
# Dynamic interfaces

Nodes that the firmware allocates and deallocates. A call reads the response and
the number of its node after it has given the semaphore back, and the handler of
the messages writes the number for the requests of others as well.
-/
namespace NssDrv.DynamicInterface
open CallTree SyncRequest CommonMessage TransmitApi

def NSS_DYNAMIC_IF_START : ℤ := 24
def NSS_SPECIAL_IF_START : ℤ := 88

def NSS_DYNAMIC_INTERFACE_TYPE_NONE : ℕ := 0
def NSS_DYNAMIC_INTERFACE_TYPE_MAX : ℕ := 15

/-- `nss_dynamic_interface_pvt`. -/
structure Di where
  currentIfNum : ℤ
  response : NssCmnResponse
  type : ℤ → ℕ

inductive NodeMsg where
  | allocNode (type : ℕ)
  | deallocNode (type : ℕ) (ifNum : ℤ)

structure NodeResponse where
  response : NssCmnResponse
  type : ℕ
  ifNum : ℤ

/-- What the handler does for any response, before its callback. -/
def nssDynamicInterfaceHandler (ndim : NodeMsg) (ncm : NodeResponse) (di : Di) : Di :=
  match ndim with
  | .allocNode _ =>
    if ncm.response = .NSS_CMN_RESPONSE_ACK then
      { di with
        currentIfNum := ncm.ifNum
        type :=
          if ncm.ifNum > 0 then
            Function.update di.type (ncm.ifNum - NSS_DYNAMIC_IF_START) ncm.type
          else di.type }
    else di
  | .deallocNode _ _ =>
    if ncm.response = .NSS_CMN_RESPONSE_ACK then
      { di with
        currentIfNum := ncm.ifNum
        type :=
          Function.update di.type (ncm.ifNum - NSS_DYNAMIC_IF_START)
            NSS_DYNAMIC_INTERFACE_TYPE_NONE }
    else di

/-- The callback of the blocking requests. -/
def nssDynamicInterfaceCallback (ncm : NodeResponse) (di : Di) : Di :=
  { di with response := ncm.response }

/-- Responses to the requests of others change all but the response word. -/
def Asynchronous (di di' : Di) : Prop := ∃ ndim ncm, di' = nssDynamicInterfaceHandler ndim ncm di

inductive NodeResult where
  | ifNum (n : ℤ)
  | status (s : ℤ)

/-- The result that the own response gives, or the lack of one. -/
def NodeReturns : List (Option NodeResponse) → NodeResult → Prop
  | [], .ifNum n => n = -1
  | [], .status s => s ≠ 0
  | [none], .ifNum n => n = -1
  | [none], .status s => s ≠ 0
  | [some ncm], .ifNum n => n = if ncm.response ≠ .NSS_CMN_RESPONSE_ACK then -1 else ncm.ifNum
  | [some ncm], .status s => s = if ncm.response ≠ .NSS_CMN_RESPONSE_ACK then -1 else 0
  | _, _ => False

inductive NodeInput where
  | txFailure

abbrev nodeService : Service where
  Mem := Di
  Msg := NodeMsg
  Resp := NodeResponse
  Result := NodeResult
  Input := NodeInput
  Ans _ := TxFailure
  home _ := true
  Shared := False
  Ready _ _ := True
  callback ndim ncm di := nssDynamicInterfaceCallback ncm (nssDynamicInterfaceHandler ndim ncm di)
  Fair _ _ := True
  Drift := Relation.ReflTransGen Asynchronous
  drift_refl _ := .refl
  drift_trans _ _ _ := .trans
  Returns := NodeReturns

/-- The values of `nss_tx_status_t`. -/
def txStatusCode : TxStatus → ℤ
  | .success => 0
  | .refused .failure => 1
  | .refused .failureQueue => 2
  | .refused .failureNotReady => 3
  | .refused .failureTooLarge => 4
  | .refused .failureTooShort => 5
  | .refused .failureNotSupported => 6
  | .refused .failureBadParam => 7
  | .refused .failureNotEnabled => 8

def txFailure : nodeService.Asked TxFailure := input (S := nodeService) .txFailure

/-- `di.response = false` stores the value of the acknowledgement. -/
def nssDynamicInterfaceTxSync (ndim : NodeMsg) : nodeService.Asked TxStatus := do
  down
  assign (S := nodeService) fun di => { di with response := .NSS_CMN_RESPONSE_ACK }
  if !(← send (S := nodeService) ndim) then
    let why ← txFailure
    up
    return .refused why
  if !(← wait) then
    up
    return .refused .failure
  up
  return .success

def nssDynamicInterfaceAllocNode (type : ℕ) : nodeService.Asked NodeResult := do
  if type ≥ NSS_DYNAMIC_INTERFACE_TYPE_MAX then return .ifNum (-1)
  let status ← nssDynamicInterfaceTxSync (.allocNode type)
  if status ≠ .success then return .ifNum (-1)
  let di ← load
  if di.response ≠ .NSS_CMN_RESPONSE_ACK then return .ifNum (-1)
  let di ← load
  return .ifNum di.currentIfNum

def nssIsDynamicInterface (ifNum : ℤ) : Bool :=
  ifNum ≥ NSS_DYNAMIC_IF_START && ifNum < NSS_SPECIAL_IF_START

def nssDynamicInterfaceDeallocNode (ifNum : ℤ) (type : ℕ) : nodeService.Asked NodeResult := do
  if type ≥ NSS_DYNAMIC_INTERFACE_TYPE_MAX then
    return .status (txStatusCode (.refused .failureBadParam))
  if nssIsDynamicInterface ifNum = false then
    return .status (txStatusCode (.refused .failureBadParam))
  let status ← nssDynamicInterfaceTxSync (.deallocNode type ifNum)
  if status ≠ .success then return .status (txStatusCode status)
  let di ← load
  if di.response ≠ .NSS_CMN_RESPONSE_ACK then return .status (-1)
  return .status (txStatusCode status)

theorem txStatusCode_eq_zero {status : TxStatus} : txStatusCode status = 0 ↔ status = .success := by
  cases status with
  | success => simp [txStatusCode]
  | refused why => cases why <;> simp [txStatusCode]

theorem callback_response {ndim : NodeMsg} {ncm : NodeResponse} {di : Di} :
    (nodeService.callback ndim ncm di).response = ncm.response := rfl

theorem callback_currentIfNum {ndim : NodeMsg} {ncm : NodeResponse} {di : Di}
    (hack : ncm.response = .NSS_CMN_RESPONSE_ACK) :
    (nodeService.callback ndim ncm di).currentIfNum = ncm.ifNum := by
  cases ndim <;> simp [nssDynamicInterfaceCallback, nssDynamicInterfaceHandler, hack]

theorem obeys_txSync {ndim : NodeMsg} {k : TxStatus → nodeService.Asked NodeResult}
    (hnone : ∀ why, Obeys (k (.refused why)) (.outside [none] none))
    (hresponse : ∀ ncm di, Obeys (k .success)
      (.outside [some ncm] (some (nodeService.callback ndim ncm di)))) :
    Obeys (nssDynamicInterfaceTxSync ndim >>= k) (.outside [] none) := by
  unfold nssDynamicInterfaceTxSync
  rw [bind_assoc]
  apply obeys_down
  intro v
  rw [bind_assoc]
  apply obeys_assignInside
  intro t _
  rw [bind_assoc]
  apply obeys_send rfl (fun _ _ => trivial)
  · rw [if_neg nofun, bind_assoc]
    apply obeys_wait
    · intro di ncm _
      rw [if_neg nofun, bind_assoc]
      apply obeys_upAnswered
      exact hresponse ncm di
    · rw [if_pos Bool.not_false, bind_assoc]
      apply obeys_upInside
      exact hnone .failure
  · rw [if_pos Bool.not_false, bind_assoc]
    apply obeys_inputInside
    intro why _
    rw [bind_assoc]
    apply obeys_upInside
    exact hnone why

theorem obeys_allocNode (type : ℕ) :
    Obeys (nssDynamicInterfaceAllocNode type) (.outside [] none) := by
  apply obeys_ite
  · intro _
    exact obeys_ret rfl
  · intro _
    apply obeys_txSync
    · intro why
      rw [if_pos nofun]
      exact obeys_ret rfl
    · intro ncm di
      rw [if_neg (not_not_intro rfl)]
      apply obeys_loadOutside
      rw [callback_response]
      by_cases hack : ncm.response = .NSS_CMN_RESPONSE_ACK
      · rw [if_neg (not_not_intro hack)]
        apply obeys_loadOutside
        rw [callback_currentIfNum hack]
        apply obeys_ret
        simp [NodeReturns, hack]
      · rw [if_pos hack]
        apply obeys_ret
        simp [NodeReturns, hack]

theorem obeys_deallocNode (ifNum : ℤ) (type : ℕ) :
    Obeys (nssDynamicInterfaceDeallocNode ifNum type) (.outside [] none) := by
  have hbad : Obeys (S := nodeService)
      (pure (.status (txStatusCode (.refused .failureBadParam)))) (.outside [] none) :=
    obeys_ret (show txStatusCode (.refused .failureBadParam) ≠ 0 by decide)
  apply obeys_ite
  · intro _
    exact hbad
  · intro _
    apply obeys_ite
    · intro _
      exact hbad
    · intro _
      apply obeys_txSync
      · intro why
        rw [if_pos nofun]
        apply obeys_ret
        exact fun hzero => nomatch txStatusCode_eq_zero.mp hzero
      · intro ncm di
        rw [if_neg (not_not_intro rfl)]
        apply obeys_loadOutside
        rw [callback_response]
        by_cases hack : ncm.response = .NSS_CMN_RESPONSE_ACK
        · rw [if_neg (not_not_intro hack)]
          apply obeys_ret
          simp [NodeReturns, hack, txStatusCode]
        · rw [if_pos hack]
          apply obeys_ret
          simp [NodeReturns, hack]

section Returns
variable {os : List (Option NodeResponse)} {n : ℤ}

theorem nodeReturns_ifNum (h : NodeReturns os (.ifNum n)) (hn : n ≥ 0) :
    ∃ ncm, os = [some ncm] ∧ ncm.response = .NSS_CMN_RESPONSE_ACK ∧ ncm.ifNum = n := by
  match os, h with
  | [], h =>
    have h : n = -1 := h
    omega
  | [none], h =>
    have h : n = -1 := h
    omega
  | [some ncm], h =>
    have h : n = if ncm.response ≠ .NSS_CMN_RESPONSE_ACK then -1 else ncm.ifNum := h
    by_cases hack : ncm.response = .NSS_CMN_RESPONSE_ACK
    · rw [if_neg (not_not_intro hack)] at h
      exact ⟨ncm, rfl, hack, h.symm⟩
    · rw [if_pos hack] at h
      omega

theorem nodeReturns_status (h : NodeReturns os (.status 0)) :
    ∃ ncm, os = [some ncm] ∧ ncm.response = .NSS_CMN_RESPONSE_ACK := by
  match os, h with
  | [], h => exact absurd rfl h
  | [none], h => exact absurd rfl h
  | [some ncm], h =>
    have h : (0 : ℤ) = if ncm.response ≠ .NSS_CMN_RESPONSE_ACK then -1 else 0 := h
    by_cases hack : ncm.response = .NSS_CMN_RESPONSE_ACK
    · exact ⟨ncm, rfl, hack⟩
    · rw [if_pos hack] at h
      omega

end Returns

end NssDrv.DynamicInterface

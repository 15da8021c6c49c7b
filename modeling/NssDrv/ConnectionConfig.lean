import NssDrv.CommonMessage
import NssDrv.HlosInterface
import NssDrv.SyncRequest

set_option autoImplicit false

/-!
# Connection configuration

The handlers behind the numbers of IPv4 and IPv6 connections. Each takes the
other number into account, which is not under its semaphore.
-/
namespace NssDrv.ConnectionConfig
open CallTree SyncRequest CommonMessage HlosInterface

def NSS_SUCCESS : ℤ := 0
def NSS_FAILURE : ℤ := 1
def eio : ℤ := 5
def ebusy : ℤ := 16
def einval : ℤ := 22

def NSS_MIN_NUM_CONN : U32 := 256
def NSS_NUM_CONN_QUANTA_MASK : U32 := 1024 - 1
def NSS_MAX_TOTAL_NUM_CONN_IPV4_IPV6 : U32 := 8196

/-- What a handler of `sysctl` was asked and has returned. -/
structure SysctlResult where
  write : Bool
  ret : ℤ

/-- A `nss_conn_cfg_pvt` with the number that it is about. -/
structure ConnCfg where
  connCfg : U32
  currentValue : U32
  response : ℤ

/-- What `proc_dointvec` returns, and the number that it leaves on a write. -/
structure Dointvec where
  ret : ℤ
  value : U32

inductive ConnCfgInput where
  | procDointvec
  | otherConnCfg

abbrev ConnCfgAnswer : ConnCfgInput → Type
  | .procDointvec => Dointvec
  | .otherConnCfg => U32

def callbackResponse (r : NssCmnResponse) : ℤ :=
  if r ≠ .NSS_CMN_RESPONSE_ACK then NSS_FAILURE else NSS_SUCCESS

abbrev connCfgService : Service where
  Mem := ConnCfg
  Msg := U32
  Resp := NssCmnResponse
  Result := SysctlResult
  Input := ConnCfgInput
  Ans := ConnCfgAnswer
  home _ := true
  Shared := False
  Ready _ _ := True
  callback _ r cfgp := { cfgp with response := callbackResponse r }
  Fair _ _ := True
  Drift := Eq
  drift_refl _ := rfl
  drift_trans _ _ _ := Eq.trans
  Returns os a := a.write = true → (a.ret = 0 ↔ os = [some .NSS_CMN_RESPONSE_ACK])

def procDointvec : connCfgService.Asked Dointvec := input (S := connCfgService) .procDointvec
def otherConnCfg : connCfgService.Asked U32 := input (S := connCfgService) .otherConnCfg

/-- The number is not a multiple of 1024, too large with the other one, or too
    small. The sum is unsigned, the last comparison is not. -/
def connRejected (conn sumOfConn : U32) : Bool :=
  conn &&& NSS_NUM_CONN_QUANTA_MASK ≠ 0 || sumOfConn > NSS_MAX_TOTAL_NUM_CONN_IPV4_IPV6 ||
    conn.slt NSS_MIN_NUM_CONN

/-- Both checks add the same two numbers, in their own order. -/
def connCfgProcess (sum : U32 → U32 → U32) (conn : U32) : connCfgService.Asked ℤ := do
  let other ← otherConnCfg
  if connRejected conn (sum conn other) then return -einval
  if !(← send conn) then return -eio
  return 0

/-- The label `failure`. -/
def restoreConnCfg (write : Bool) : connCfgService.Asked SysctlResult := do
  assign fun cfgp => { cfgp with connCfg := cfgp.currentValue }
  up
  return ⟨write, -einval⟩

def connCfgHandler (sum : U32 → U32 → U32) (write : Bool) :
    connCfgService.Asked SysctlResult := do
  down
  assign fun cfgp => { cfgp with currentValue := cfgp.connCfg }
  let proc ← procDointvec
  if write then
    assign fun cfgp => { cfgp with connCfg := proc.value }
  if proc.ret ≠ 0 ∨ !write then
    up
    return ⟨write, proc.ret⟩
  let cfgp ← load
  if (← connCfgProcess sum cfgp.connCfg) ≠ 0 then restoreConnCfg write
  else awaitResponse (fun cfgp => cfgp.response = NSS_FAILURE) (restoreConnCfg write) do
    up
    return ⟨write, 0⟩

def nssIpv4ConnCfgHandler (write : Bool) := connCfgHandler (fun conn other => conn + other) write
def nssIpv6ConnCfgHandler (write : Bool) := connCfgHandler (fun conn other => other + conn) write

theorem callbackResponse_failure {r : NssCmnResponse} :
    callbackResponse r = NSS_FAILURE ↔ r ≠ .NSS_CMN_RESPONSE_ACK := by
  unfold callbackResponse
  split
  · simp [*]
  · simp [*, NSS_SUCCESS, NSS_FAILURE]

section Restore
variable {write : Bool} {os : List (Option NssCmnResponse)} {cfgp : ConnCfg}

theorem returns_einval (hos : os ≠ [some .NSS_CMN_RESPONSE_ACK]) :
    connCfgService.Returns os ⟨write, -einval⟩ := by
  intro _
  simp [hos, einval]

theorem obeys_restoreInside (hos : os ≠ [some .NSS_CMN_RESPONSE_ACK]) :
    Obeys (restoreConnCfg write) (.inside os cfgp) := by
  apply obeys_assignInside
  intro t _
  apply obeys_upInside
  exact obeys_ret (returns_einval hos)

theorem obeys_restoreAnswered (hos : os ≠ [some .NSS_CMN_RESPONSE_ACK]) :
    Obeys (restoreConnCfg write) (.answered os cfgp) := by
  apply obeys_assignAnswered
  apply obeys_upAnswered
  exact obeys_ret (returns_einval hos)

end Restore

theorem obeys_connCfgProcess {sum : U32 → U32 → U32} {conn : U32} {cfgp : ConnCfg}
    {k : ℤ → connCfgService.Asked SysctlResult}
    (hrejected : Obeys (k (-einval)) (.inside [] cfgp))
    (hfailed : Obeys (k (-eio)) (.inside [none] cfgp))
    (hsent : Obeys (k 0) (.sent [] conn cfgp)) :
    Obeys (connCfgProcess sum conn >>= k) (.inside [] cfgp) := by
  unfold connCfgProcess
  rw [bind_assoc]
  apply obeys_inputInside 
  intro other _
  by_cases hreject : connRejected conn (sum conn other) = true
  · rw [if_pos hreject]
    exact hrejected
  · rw [if_neg hreject, bind_assoc]
    apply obeys_send rfl (fun _ _ => trivial)
    · exact hsent
    · exact hfailed

theorem obeys_connCfgHandler (sum : U32 → U32 → U32) (write : Bool) :
    Obeys (connCfgHandler sum write) (.outside [] none) := by
  unfold connCfgHandler
  apply obeys_down
  intro v
  apply obeys_assignInside
  intro t _
  apply obeys_inputInside
  rintro ⟨ret, value⟩ _
  cases write with
  | false =>
    rw [if_neg nofun, if_pos (.inr rfl)]
    apply obeys_upInside
    apply obeys_ret
    exact nofun
  | true =>
    rw [if_pos rfl]
    apply obeys_assignInside
    rintro _ rfl
    apply obeys_ite
    · intro hret
      apply obeys_upInside
      apply obeys_ret
      simp at hret
      simp [hret]
    · intro _
      apply obeys_loadInside
      rintro _ rfl
      apply obeys_connCfgProcess
      · rw [if_pos nofun]
        apply obeys_restoreInside
        simp
      · rw [if_pos nofun]
        apply obeys_restoreInside
        simp
      · rw [if_neg (not_not_intro rfl)]
        apply obeys_awaitResponse
        · apply obeys_restoreInside
          simp
        · rintro _ r rfl
          by_cases hack : r = .NSS_CMN_RESPONSE_ACK
          · rw [if_neg (by simpa using callbackResponse_failure.not.mpr (not_not_intro hack))]
            apply obeys_upAnswered
            apply obeys_ret
            simp [hack]
          · rw [if_pos (by simpa using callbackResponse_failure.mpr hack)]
            apply obeys_restoreAnswered
            simp [hack]

end NssDrv.ConnectionConfig

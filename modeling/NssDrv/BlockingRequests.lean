import NssDrv.DynamicInterface
import NssDrv.MessageRequests
import NssDrv.N2hRequests

set_option autoImplicit false

/-!
# The blocking requests of the driver

Every subsystem that waits for a completion under a semaphore, as one family.
-/
namespace NssDrv.BlockingRequests
open CallTree SyncRequest TransitionRuns CommonMessage TransmitApi
open MessageRequests ConnectionConfig N2hRequests DynamicInterface

theorem acked_single {R : Type} {Acked : R → Prop} {os : List (Option R)} {r : R}
    (hos : os = [some r]) (hr : Acked r) :
    os ≠ [] ∧ ∀ o ∈ os, ∃ r, o = some r ∧ Acked r := by
  subst hos
  refine ⟨nofun, fun o ho => ?_⟩
  exact ⟨r, List.mem_singleton.mp ho, hr⟩

section Families
variable (Msg : Type)

def msgApi (send : Msg → (plainService Msg).Asked TxStatus)
    (hsend : ∀ msg, send msg = msgSync msg) : Api where
  service := plainService Msg
  Calls p := ∃ msg, p = send msg
  Acked r := r = .NSS_CMN_RESPONSE_ACK
  Succeeded status := status = .success
  obeys := by
    rintro p ⟨msg, rfl⟩
    rw [hsend]
    exact obeys_msgSync msg
  honest _ _ hreturns hok := acked_single (hreturns.mp hok) rfl

def keepingApi (send : KeptMsg Msg → (keepingService Msg).Asked TxStatus)
    (hsend : ∀ msg, send msg = msgSyncKeeping msg) : Api where
  service := keepingService Msg
  Calls p := ∃ msg, p = send msg
  Acked r := r = .NSS_CMN_RESPONSE_ACK
  Succeeded status := status = .success
  obeys := by
    rintro p ⟨msg, rfl⟩
    rw [hsend]
    exact obeys_msgSyncKeeping msg
  honest _ _ hreturns hok := acked_single (hreturns.mp hok) rfl

end Families

/-- Reads of the number of connections send no request. -/
def connCfgApi (handler : Bool → connCfgService.Asked SysctlResult)
    (hhandler : ∀ write, ∃ sum, handler write = connCfgHandler sum write) : Api where
  service := connCfgService
  Calls p := ∃ write, p = handler write
  Acked r := r = .NSS_CMN_RESPONSE_ACK
  Succeeded a := a.write = true ∧ a.ret = 0
  obeys := by
    rintro p ⟨write, rfl⟩
    obtain ⟨sum, hsum⟩ := hhandler write
    rw [hsum]
    exact obeys_connCfgHandler sum write
  honest _ _ hreturns hok := acked_single ((hreturns hok.1).mp hok.2) rfl

def poolApi : Api where
  service := poolService
  Calls p := ∃ write, p = nssN2hSetEmptyPoolBuf write ∨ p = nssN2hSetWaterMark write
  Acked r := r.response = .NSS_CMN_RESPONSE_ACK
  Succeeded a := a.ret = 0
  obeys := by
    rintro p ⟨write, rfl | rfl⟩
    · exact obeys_run write
    · exact obeys_run write
  honest := by
    intro os a hreturns hok
    obtain ⟨r, hos, hack⟩ := hreturns.1 hok
    exact acked_single hos hack

def wifiPoolApi : Api where
  service := wifiPoolService
  Calls p := ∃ write, p = nssN2hCfgWifiPool write
  Acked r := r = .NSS_CMN_RESPONSE_ACK
  Succeeded a := a.write = true ∧ a.ret = 0
  obeys := by
    rintro p ⟨write, rfl⟩
    exact obeys_cfgWifiPool write
  honest _ _ hreturns hok := acked_single ((hreturns hok.1).mp hok.2) rfl

def enableApi (cfg : HlosInterface.U32 → enableService.Asked ℤ)
    (hcfg : ∀ enable, cfg enable = enableCfg enable) : Api where
  service := enableService
  Calls p := ∃ enable, p = cfg enable
  Acked r := r.response = .NSS_CMN_RESPONSE_ACK
  Succeeded a := a = NSS_SUCCESS
  obeys := by
    rintro p ⟨enable, rfl⟩
    rw [hcfg]
    exact obeys_enableCfg enable
  honest := by
    intro os a hreturns hok
    obtain ⟨r, hos, hack⟩ := hreturns.mp hok
    exact acked_single hos hack

def bufPoolApi (core : ℕ) : Api where
  service := bufPoolService core
  Calls p := ∃ bufPoolSize, p = nssN2hBufPoolCfg core bufPoolSize
  Acked r := r.response = .NSS_CMN_RESPONSE_ACK
  Succeeded a := a = NSS_SUCCESS
  obeys := by
    rintro p ⟨bufPoolSize, rfl⟩
    exact obeys_bufPoolCfg bufPoolSize
  honest _ _ hreturns hok := hreturns.mp hok

theorem nodeReturns_acked {os : List (Option NodeResponse)} {a : NodeResult}
    (hreturns : NodeReturns os a) (hok : (∃ n ≥ 0, a = .ifNum n) ∨ a = .status 0) :
    ∃ ncm, os = [some ncm] ∧ ncm.response = .NSS_CMN_RESPONSE_ACK := by
  rcases hok with ⟨n, hn, rfl⟩ | rfl
  · obtain ⟨ncm, hos, hack, -⟩ := nodeReturns_ifNum hreturns hn
    exact ⟨ncm, hos, hack⟩
  · exact nodeReturns_status hreturns

def nodeApi : Api where
  service := nodeService
  Calls p := (∃ type, p = nssDynamicInterfaceAllocNode type) ∨
    ∃ ifNum type, p = nssDynamicInterfaceDeallocNode ifNum type
  Acked ncm := ncm.response = .NSS_CMN_RESPONSE_ACK
  Succeeded a := (∃ n ≥ 0, a = .ifNum n) ∨ a = .status 0
  obeys := by
    rintro p (⟨type, rfl⟩ | ⟨ifNum, type, rfl⟩)
    · exact obeys_allocNode type
    · exact obeys_deallocNode ifNum type
  honest := by
    intro os a hreturns hok
    obtain ⟨ncm, hos, hack⟩ := nodeReturns_acked hreturns hok
    exact acked_single hos hack

inductive Subsystem where
  | ipv4
  | ipv6
  | n2hPool
  | n2hWifiPool
  | n2hRps
  | n2hMitigation
  | n2hBufPool (core : ℕ)
  | physIf
  | virtIf
  | wifiIf
  | txRxVirtIf
  | portid
  | mapT
  | dtls
  | pptp
  | dynamicInterface

def api (Msg : Type) : Subsystem → Api
  | .ipv4 => connCfgApi nssIpv4ConnCfgHandler fun _ => ⟨_, rfl⟩
  | .ipv6 => connCfgApi nssIpv6ConnCfgHandler fun _ => ⟨_, rfl⟩
  | .n2hPool => poolApi
  | .n2hWifiPool => wifiPoolApi
  | .n2hRps => enableApi nssN2hRpsCfg fun _ => rfl
  | .n2hMitigation => enableApi nssN2hMitigationCfg fun _ => rfl
  | .n2hBufPool core => bufPoolApi core
  | .physIf => msgApi Msg nssPhysIfMsgSync fun _ => rfl
  | .virtIf => msgApi Msg nssVirtIfTxMsgSync fun _ => rfl
  | .wifiIf => msgApi Msg nssWifiIfTxMsgSync fun _ => rfl
  | .txRxVirtIf => msgApi Msg nssTxRxVirtIfTxMsgSync fun _ => rfl
  | .portid => msgApi Msg nssPortidTxMsgSync fun _ => rfl
  | .mapT => keepingApi Msg nssMapTTxSync fun _ => rfl
  | .dtls => keepingApi Msg nssDtlsTxMsgSync fun _ => rfl
  | .pptp => keepingApi Msg nssPptpTxMsgSync fun _ => rfl
  | .dynamicInterface => nodeApi

/-- In a run whose responses come in time, success is the acknowledgement of the
    call's own requests, and no response reaches another call. -/
theorem requests_kept {Msg ι : Type} [DecidableEq ι] (x : Subsystem)
    {s : State (api Msg x).service ι}
    (h : Reachable Start (Guarded (Step (api Msg x).Calls) InTime) s) : Kept (api Msg x) s :=
  (api Msg x).kept h

abbrev physIf : Api := api ℕ .physIf

def idle : State physIf.service Bool where
  mem := ⟨.success, ⟨0, 0⟩⟩
  done := 0
  sem := none
  calls _ := .ret (.refused .failure : TxStatus)
  requests := []
  answers _ := none
  waiting _ := none
  woken _ := false
  outcomes _ := []
  intruded _ := false

theorem idle_start : Start idle :=
  ⟨rfl, rfl, fun _ => ⟨_, rfl, nofun, nofun⟩, rfl, fun _ => rfl, fun _ => rfl, fun _ => rfl,
    fun _ => rfl⟩

/-- Two callers wait for the semaphore together; the firmware refuses the message of
    the first and acknowledges that of the second. -/
theorem requests_kept_refused : ∃ s : State physIf.service Bool,
    s.calls true = .ret (.refused .failure : TxStatus) ∧ s.calls false = .ret (.success : TxStatus) ∧
      Kept physIf s := by
  have hstart : Reachable Start (Guarded (Step physIf.Calls) InTime) _ :=
    (Reachable.start idle_start).next ⟨.start _ true (nssPhysIfMsgSync 0) _ rfl ⟨0, rfl⟩, trivial⟩
  have hstart' := hstart.next ⟨.start _ false (nssPhysIfMsgSync 1) _ rfl ⟨1, rfl⟩, trivial⟩
  have hdown := hstart'.next ⟨.down true rfl rfl, fun j hread => by
    obtain ⟨k, hk⟩ := hread
    cases j <;> cases hk⟩
  have hsend := hdown.next ⟨.send true rfl, trivial⟩
  have hnack := hsend.next
    ⟨.respond _ 0 true (0 : ℕ) NssCmnResponse.NSS_CMN_RESPONSE_EMSG rfl rfl, _, _, rfl, rfl⟩
  have hwake := hnack.next ⟨.wake true rfl (by decide), trivial⟩
  have hload := hwake.next ⟨.load true rfl, trivial⟩
  have hup := hload.next ⟨.up true rfl, trivial⟩
  have hdown' := hup.next ⟨.down false rfl rfl, fun j hread => by
    obtain ⟨k, hk⟩ := hread
    cases j <;> cases hk⟩
  have hsend' := hdown'.next ⟨.send false rfl, trivial⟩
  have hack := hsend'.next
    ⟨.respond _ 1 false (1 : ℕ) NssCmnResponse.NSS_CMN_RESPONSE_ACK rfl rfl, _, _, rfl, rfl⟩
  have hwake' := hack.next ⟨.wake false rfl (by decide), trivial⟩
  have hload' := hwake'.next ⟨.load false rfl, trivial⟩
  have hup' := hload'.next ⟨.up false rfl, trivial⟩
  exact ⟨_, rfl, rfl, requests_kept .physIf hup'⟩

/-- The response to a request that has timed out acknowledges the next one, to
    which the firmware has not answered. -/
theorem requests_not_kept : ¬ ∀ (x : Subsystem) (s : State (api ℕ x).service Bool),
    Reachable Start (Step (api ℕ x).Calls) s → Kept (api ℕ x) s := by
  intro hkept
  have hstart : Reachable Start (Step physIf.Calls) _ := (Reachable.start idle_start).next
    (.start _ true (nssPhysIfMsgSync 0) _ rfl ⟨0, rfl⟩)
  have hdown := hstart.next (.down true rfl rfl)
  have hsend := hdown.next (.send true rfl)
  have htimeout := hsend.next (.timeout true rfl rfl)
  have hfail := htimeout.next (.assign true rfl)
  have hload := hfail.next (.load true rfl)
  have hup := hload.next (.up true rfl)
  have hlate := hup.next
    (.respond _ 0 true (0 : ℕ) NssCmnResponse.NSS_CMN_RESPONSE_ACK rfl rfl)
  have hstart' := hlate.next (.start _ false (nssPhysIfMsgSync 1) _ rfl ⟨1, rfl⟩)
  have hdown' := hstart'.next (.down false rfl rfl)
  have hsend' := hdown'.next (.send false rfl)
  have hwake := hsend'.next (.wake false rfl (by decide))
  have hload' := hwake.next (.load false rfl)
  have hup' := hload'.next (.up false rfl)
  obtain ⟨-, hacked⟩ := (hkept .physIf _ hup').acked false _ rfl rfl
  obtain ⟨r, hr, -⟩ := hacked none (List.mem_singleton.mpr rfl)
  cases hr

end NssDrv.BlockingRequests

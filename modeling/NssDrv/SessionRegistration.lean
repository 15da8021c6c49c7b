import NssDrv.CapwapRegistration
import NssDrv.CommonMessage
import NssDrv.SlotTables

set_option autoImplicit false

/-!
# Registration of sessions

The families with several sessions or tunnels. What they share is the handlers
of received messages and the slots of the data plane. The message callback is in
one place for all sessions of a family, or in a table by interface.
-/
namespace NssDrv.SessionRegistration
open HlosInterface InterfaceTables CapwapTunnel CapwapRegistration CommonMessage SlotTables
open DynamicInterface (nssIsDynamicInterface)

inductive Family where
  | capwap
  | dtls
  | pptp
  | l2tpv2
  | mapT
  | tun6rd
  | greRedir
  | wifiVdev
  deriving DecidableEq

/-- The functions that `nss_core_register_handler` gets, as pointers. -/
def Family.handler : Family → ℕ
  | .capwap => nssCapwapMsgHandler
  | .dtls => 2
  | .pptp => 3
  | .l2tpv2 => 4
  | .mapT => 5
  | .tun6rd => 6
  | .greRedir => 7
  | .wifiVdev => 8

def Family.ofHandler : ℕ → Option Family
  | 1 => some .capwap
  | 2 => some .dtls
  | 3 => some .pptp
  | 4 => some .l2tpv2
  | 5 => some .mapT
  | 6 => some .tun6rd
  | 7 => some .greRedir
  | 8 => some .wifiVdev
  | _ => none

/-- The callbacks of `nss_top_instance` that are not in a table. -/
inductive MsgSlot where
  | dtlsMsgCallback
  | pptpMsgCallback
  | l2tpv2MsgCallback
  | mapTMsgCallback
  | tun6rdMsgCallback
  deriving DecidableEq

/-- `enum nss_stats_dtls_session`. -/
inductive DtlsStat where
  | rxPkts | txPkts | rxDropped | rxAuthDone | txAuthDone | rxCipherDone | txCipherDone
  | rxCbufAllocFail | txCbufAllocFail | txCenqueueFail | rxCenqueueFail
  | txDroppedHroom | txDroppedTroom | txForwardEnqueueFail | rxForwardEnqueueFail
  | rxInvalidVersion | rxInvalidEpoch | rxMalformed | rxCipherFail | rxAuthFail
  | rxCapwapClassifyFail | rxSingleRecDgram | rxMultiRecDgram
  | rxReplayFail | rxReplayDuplicate | rxReplayOutOfWindow
  | outflowQueueFull | decapQueueFull | pbufAllocFail | pbufCopyFail
  | epoch | txSeqHigh | txSeqLow

/-- `enum nss_stats_pptp_session`. -/
inductive PptpStat where
  | encapRxPackets | encapRxBytes | encapTxPackets | encapTxBytes | encapRxDrop
  | decapRxPackets | decapRxBytes | decapTxPackets | decapTxBytes | decapRxDrop
  | encapHeadroomErr | encapSmallSize | encapPnodeEnqueueFail
  | decapNoSeqNorAck | decapInvalGreFlags | decapInvalGreProto | decapWrongSeq
  | decapInvalPppHdr | decapPppLcp | decapUnsupportedPppProto | decapPnodeEnqueueFail

/-- The slot of a session in the table of its family. -/
structure StatsSlot (κ : Type) where
  stats : κ → BitVec 64
  ifIndex : ℕ
  ifNum : ℕ
  valid : Bool

def StatsSlot.empty (κ : Type) : StatsSlot κ := ⟨fun _ => 0, 0, 0, false⟩

def NSS_MAX_DTLS_SESSIONS : ℕ := 8
def NSS_MAX_PPTP_DYNAMIC_INTERFACES : ℕ := 4

/-- What the registration functions write, in `nss_top_main` and beside it. -/
structure NssTop extends Capwap Unit where
  msgCallback : MsgSlot → ℕ
  ifRxMsgCallback : ℕ → ℕ
  dtlsSessionDebugStats : List (StatsSlot DtlsStat)
  pptpSessionDebugStats : List (StatsSlot PptpStat)

structure NetDevice where
  ptr : ℕ
  ifindex : ℕ

/-- The arguments of a registration. Not every family takes `appCtx`. -/
structure IfParams where
  ifNum : ℕ
  dataCallback : ℕ
  msgCallback : ℕ
  netdev : NetDevice
  features : ℕ
  appCtx : ℕ

/-- What the functions find: the types of the dynamic interfaces. -/
structure SessionEnv where
  dtls : ℕ → Bool
  mapT : ℕ → Bool

section Tables
variable {κ : Type}

def claimSlot (ifNum ifIndex : ℕ) : List (StatsSlot κ) → Option (List (StatsSlot κ)) :=
  updateFirst (fun x => !x.valid) fun x =>
    { x with valid := true, ifNum := ifNum, ifIndex := ifIndex }

def clearSlot (ifNum : ℕ) : List (StatsSlot κ) → Option (List (StatsSlot κ)) :=
  updateFirst (fun x => x.ifNum == ifNum) fun _ => .empty κ

/-- The slot is found by its number, whether it is valid or not. -/
def syncSlot (ifNum : ℕ) (f : (κ → BitVec 64) → κ → BitVec 64) (slots : List (StatsSlot κ)) :
    List (StatsSlot κ) :=
  (updateFirst (fun x => x.ifNum == ifNum) (fun x => { x with stats := f x.stats }) slots).getD
    slots

end Tables

/-- `RX_PKTS` and the others are added up, and the last three are replaced. -/
def nssDtlsSessionStatsSync (statsMsg : DtlsStat → U32) (ifNum : ℕ) :
    List (StatsSlot DtlsStat) → List (StatsSlot DtlsStat) :=
  syncSlot ifNum fun stats k =>
    match k with
    | .epoch | .txSeqHigh | .txSeqLow => (statsMsg k).setWidth 64
    | _ => stats k + (statsMsg k).setWidth 64

def nssPptpSessionDebugStatsSync (statsMsg : PptpStat → U32) (ifNum : ℕ) :
    List (StatsSlot PptpStat) → List (StatsSlot PptpStat) :=
  syncSlot ifNum fun stats k => stats k + (statsMsg k).setWidth 64

namespace NssTop

def setDp (s : NssTop) (ifNum : ℕ) (dp : DpRegister) : NssTop :=
  { s with dp := Function.update s.dp ifNum dp }

def setMsgCallback (s : NssTop) (slot : MsgSlot) (cb : ℕ) : NssTop :=
  { s with msgCallback := Function.update s.msgCallback slot cb }

def setIfRxMsgCallback (s : NssTop) (ifNum cb : ℕ) : NssTop :=
  { s with ifRxMsgCallback := Function.update s.ifRxMsgCallback ifNum cb }

def registerHandler (s : NssTop) (ifNum cb appData : ℕ) : NssTop :=
  { s with handlers := (nssCoreRegisterHandler ifNum cb appData s.handlers).2 }

def unregisterHandler (s : NssTop) (ifNum : ℕ) : NssTop :=
  { s with handlers := (nssCoreUnregisterHandler ifNum s.handlers).2 }

/-- With the callback of the family in one place. The result of the handler's
    registration is not looked at. -/
def registerIf (s : NssTop) (f : Family) (slot : MsgSlot) (handlerData dpData : ℕ)
    (r : IfParams) : NssTop :=
  let s := s.setDp r.ifNum ⟨r.netdev.ptr, r.dataCallback, dpData, r.features⟩
  let s := s.setMsgCallback slot r.msgCallback
  s.registerHandler r.ifNum f.handler handlerData

def unregisterIf (s : NssTop) (slot : MsgSlot) (ifNum : ℕ) : NssTop :=
  let s := s.setDp ifNum ⟨0, 0, 0, 0⟩
  let s := s.setMsgCallback slot 0
  s.unregisterHandler ifNum

end NssTop

def nssDtlsVerifyIfNum (env : SessionEnv) (ifNum : ℕ) : Bool :=
  if nssIsDynamicInterface ifNum = false then false else env.dtls ifNum

def nssMapTVerifyIfNum (env : SessionEnv) (ifNum : ℕ) : Bool :=
  if nssIsDynamicInterface ifNum = false then false else env.mapT ifNum

/-- `none` is a `BUG_ON`, and `false` the context `NULL`. -/
abbrev Registered := Option (Bool × NssTop)

def nssDtlsRegisterIf (env : SessionEnv) (r : IfParams) (s : NssTop) : Registered :=
  if nssDtlsVerifyIfNum env r.ifNum = false then none
  else match claimSlot r.ifNum r.netdev.ifindex s.dtlsSessionDebugStats with
    | none => some (false, s)
    | some slots =>
      let s := { s with dtlsSessionDebugStats := slots }
      -- the slot stays claimed
      if (s.dp r.ifNum).ndev ≠ 0 then some (false, s)
      else some (true, s.registerIf .dtls .dtlsMsgCallback r.appCtx r.appCtx r)

def nssDtlsUnregisterIf (env : SessionEnv) (ifNum : ℕ) (s : NssTop) : Option NssTop :=
  if nssDtlsVerifyIfNum env ifNum = false then none
  else match clearSlot ifNum s.dtlsSessionDebugStats with
    | none => some s
    | some slots =>
      let s := { s with dtlsSessionDebugStats := slots }
      if (s.dp ifNum).ndev = 0 then some s
      else some (s.unregisterIf .dtlsMsgCallback ifNum)

def nssRegisterPptpIf (r : IfParams) (s : NssTop) : Registered :=
  let s := s.registerIf .pptp .pptpMsgCallback 0 r.appCtx r
  let slots := claimSlot r.ifNum r.netdev.ifindex s.pptpSessionDebugStats
  some (true, { s with pptpSessionDebugStats := slots.getD s.pptpSessionDebugStats })

/-- The slots of all sessions, without their counters. -/
def nssUnregisterPptpIf (ifNum : ℕ) (s : NssTop) : Option NssTop :=
  let slots := s.pptpSessionDebugStats.map fun x =>
    { x with valid := false, ifNum := 0, ifIndex := 0 }
  let s := { s with pptpSessionDebugStats := slots }
  some (s.unregisterIf .pptpMsgCallback ifNum)

def nssRegisterL2tpv2If (r : IfParams) (s : NssTop) : Registered :=
  some (true, s.registerIf .l2tpv2 .l2tpv2MsgCallback 0 0 r)

def nssUnregisterL2tpv2If (ifNum : ℕ) (s : NssTop) : Option NssTop :=
  some (s.unregisterIf .l2tpv2MsgCallback ifNum)

def nssMapTRegisterIf (r : IfParams) (s : NssTop) : Registered :=
  some (true, s.registerIf .mapT .mapTMsgCallback 0 r.netdev.ptr r)

def nssMapTUnregisterIf (ifNum : ℕ) (s : NssTop) : Option NssTop :=
  some (s.unregisterIf .mapTMsgCallback ifNum)

def nssRegisterTun6rdIf (r : IfParams) (s : NssTop) : Registered :=
  some (true, s.registerIf .tun6rd .tun6rdMsgCallback 0 0 r)

def nssUnregisterTun6rdIf (ifNum : ℕ) (s : NssTop) : Option NssTop :=
  some (s.unregisterIf .tun6rdMsgCallback ifNum)

def nssGreRedirRegisterIf (r : IfParams) (s : NssTop) : Registered :=
  let (status, handlers) :=
    nssCoreRegisterHandler r.ifNum Family.greRedir.handler 0 s.handlers
  if status ≠ .success then some (false, s)
  else
    let s := { s with handlers := handlers }
    let s := s.setDp r.ifNum ⟨r.netdev.ptr, r.dataCallback, 0, r.features⟩
    some (true, s.setIfRxMsgCallback r.ifNum r.msgCallback)

def nssGreRedirUnregisterIf (ifNum : ℕ) (s : NssTop) : Option NssTop :=
  let (status, handlers) := nssCoreUnregisterHandler ifNum s.handlers
  if status ≠ .success then some s
  else
    let s := { s with handlers := handlers }
    let s := s.setDp ifNum ⟨0, 0, 0, 0⟩
    some (s.setIfRxMsgCallback ifNum 0)

def nssRegisterWifiVdevIf (r : IfParams) (s : NssTop) : Registered :=
  let s := s.setDp r.ifNum ⟨r.netdev.ptr, r.dataCallback, 0, r.features⟩
  let s := s.setIfRxMsgCallback r.ifNum r.msgCallback
  some (true, s.registerHandler r.ifNum Family.wifiVdev.handler 0)

def nssUnregisterWifiVdevIf (ifNum : ℕ) (s : NssTop) : Option NssTop :=
  let s := s.setDp ifNum ⟨0, 0, 0, 0⟩
  let s := s.setIfRxMsgCallback ifNum 0
  some (s.unregisterHandler ifNum)

/-- CAPWAP has calls of its own. -/
def Family.register (f : Family) (env : SessionEnv) (r : IfParams) (s : NssTop) : Registered :=
  match f with
  | .capwap => none
  | .dtls => nssDtlsRegisterIf env r s
  | .pptp => nssRegisterPptpIf r s
  | .l2tpv2 => nssRegisterL2tpv2If r s
  | .mapT => nssMapTRegisterIf r s
  | .tun6rd => nssRegisterTun6rdIf r s
  | .greRedir => nssGreRedirRegisterIf r s
  | .wifiVdev => nssRegisterWifiVdevIf r s

def Family.unregister (f : Family) (env : SessionEnv) (ifNum : ℕ) (s : NssTop) : Option NssTop :=
  match f with
  | .capwap => none
  | .dtls => nssDtlsUnregisterIf env ifNum s
  | .pptp => nssUnregisterPptpIf ifNum s
  | .l2tpv2 => nssUnregisterL2tpv2If ifNum s
  | .mapT => nssMapTUnregisterIf ifNum s
  | .tun6rd => nssUnregisterTun6rdIf ifNum s
  | .greRedir => nssGreRedirUnregisterIf ifNum s
  | .wifiVdev => nssUnregisterWifiVdevIf ifNum s

/-! ## Received messages -/

/-- `fits` tells whether the length is at most the size of the family's message.
    The statistics are the ones of the message where it has any. -/
structure RxMsg where
  version : ℕ
  len : ℕ
  bufLen : ℕ
  interface : ℕ
  type : ℕ
  fits : Bool
  response : NssCmnResponse
  cb : ℕ
  appData : ℕ
  dtlsStats : DtlsStat → U32
  pptpStats : PptpStat → U32

def NSS_HLOS_MESSAGE_VERSION : ℕ := 0
def NSS_DTLS_MSG_SESSION_STATS : ℕ := 2
def NSS_DTLS_MSG_MAX : ℕ := 7
def NSS_PPTP_MSG_SYNC_STATS : ℕ := 2
def NSS_PPTP_MSG_MAX : ℕ := 3
def NSS_L2TPV2_MSG_MAX : ℕ := 3
def NSS_MAP_T_MSG_MAX : ℕ := 3
def NSS_TUN6RD_MAX : ℕ := 3
def NSS_GRE_REDIR_MAX_MSG_TYPES : ℕ := 4
def NSS_WIFI_VDEV_MAX_MSG : ℕ := 10019
def NSS_L2TPV2_INTERFACE : ℕ := 122
def NSS_PPTP_INTERFACE : ℕ := 124
def NSS_GRE_REDIR_INTERFACE : ℕ := 109

abbrev Invoked := Option (ℕ × ℕ)

def invoke (cb ctx : ℕ) : Invoked := if cb = 0 then none else some (cb, ctx)

/-- `none` is a `BUG_ON`. -/
abbrev Received := Option (NssTop × Invoked)

def RxMsg.notify (ncm : RxMsg) : Bool := ncm.response = .NSS_CMM_RESPONSE_NOTIFY

def nssCapwapGetMsgCallback (ifNum : ℕ) (s : NssTop) : ℕ × ℕ :=
  match (s.hdl (hdlIndex ifNum)).bind s.heap with
  | none => (0, 0)
  | some h => (h.msgCallback, h.appData)

def nssCapwapHandler (ncm : RxMsg) (s : NssTop) : Received :=
  if ncm.type > NSS_CAPWAP_MSG_TYPE_MAX then some (s, none)
  else if ncm.fits = false then some (s, none)
  else
    let (cb, appData) :=
      if ncm.notify then nssCapwapGetMsgCallback ncm.interface s else (ncm.cb, ncm.appData)
    some (s, invoke cb appData)

def nssDtlsHandler (env : SessionEnv) (ncm : RxMsg) (s : NssTop) : Received :=
  if nssDtlsVerifyIfNum env ncm.interface = false then none
  else if ncm.type ≥ NSS_DTLS_MSG_MAX then some (s, none)
  else if ncm.fits = false then some (s, none)
  else
    let s := if ncm.type = NSS_DTLS_MSG_SESSION_STATS then
      { s with
        dtlsSessionDebugStats :=
          nssDtlsSessionStatsSync ncm.dtlsStats ncm.interface s.dtlsSessionDebugStats }
      else s
    let (cb, ctx) :=
      if ncm.notify then (s.msgCallback .dtlsMsgCallback, (s.dp ncm.interface).appData)
      else (ncm.cb, ncm.appData)
    some (s, invoke cb ctx)

def nssPptpHandler (ncm : RxMsg) (s : NssTop) : Received :=
  if ¬ (nssIsDynamicInterface ncm.interface ∨ ncm.interface = NSS_PPTP_INTERFACE) then none
  else if ncm.type ≥ NSS_PPTP_MSG_MAX then some (s, none)
  else if ncm.fits = false then some (s, none)
  else
    let s := if ncm.type = NSS_PPTP_MSG_SYNC_STATS then
      { s with
        pptpSessionDebugStats :=
          nssPptpSessionDebugStatsSync ncm.pptpStats ncm.interface s.pptpSessionDebugStats }
      else s
    let (cb, ctx) :=
      if ncm.notify then (s.msgCallback .pptpMsgCallback, (s.dp ncm.interface).appData)
      else (ncm.cb, ncm.appData)
    some (s, invoke cb ctx)

/-- The context is the device, and without one no callback is invoked. -/
def receiveWithDevice (slot : MsgSlot) (max : ℕ) (ncm : RxMsg) (s : NssTop) : Received :=
  if ncm.type ≥ max then some (s, none)
  else if ncm.fits = false then some (s, none)
  else
    let cb := if ncm.notify then s.msgCallback slot else ncm.cb
    let ctx := (s.dp ncm.interface).ndev
    if cb = 0 then some (s, none)
    else if ctx = 0 then some (s, none)
    else some (s, some (cb, ctx))

def nssL2tpv2Handler (ncm : RxMsg) (s : NssTop) : Received :=
  if ¬ (nssIsDynamicInterface ncm.interface ∨ ncm.interface = NSS_L2TPV2_INTERFACE) then none
  else receiveWithDevice .l2tpv2MsgCallback NSS_L2TPV2_MSG_MAX ncm s

def nssMapTHandler (env : SessionEnv) (ncm : RxMsg) (s : NssTop) : Received :=
  if nssMapTVerifyIfNum env ncm.interface = false then none
  else if ncm.type ≥ NSS_MAP_T_MSG_MAX then some (s, none)
  else if ncm.fits = false then some (s, none)
  else
    let (cb, ctx) :=
      if ncm.notify then (s.msgCallback .mapTMsgCallback, (s.dp ncm.interface).appData)
      else (ncm.cb, ncm.appData)
    some (s, invoke cb ctx)

def nssTun6rdHandler (ncm : RxMsg) (s : NssTop) : Received :=
  if ¬ nssIsDynamicInterface ncm.interface then none
  else receiveWithDevice .tun6rdMsgCallback NSS_TUN6RD_MAX ncm s

def nssGreRedirMsgHandler (ncm : RxMsg) (s : NssTop) : Received :=
  if ¬ nssIsDynamicInterface ncm.interface ∧ ncm.interface ≠ NSS_GRE_REDIR_INTERFACE then none
  else if ncm.type ≥ NSS_GRE_REDIR_MAX_MSG_TYPES then some (s, none)
  else if ncm.fits = false then some (s, none)
  else
    let cb := if ncm.notify then s.ifRxMsgCallback ncm.interface else ncm.cb
    some (s, invoke cb (s.dp ncm.interface).ndev)

/-- The length is not looked at. -/
def nssWifiVdevHandler (ncm : RxMsg) (s : NssTop) : Received :=
  if ¬ nssIsDynamicInterface ncm.interface then none
  else if ncm.type ≥ NSS_WIFI_VDEV_MAX_MSG then some (s, none)
  else if (s.dp ncm.interface).ndev = 0 then some (s, none)
  else
    let (cb, appData) :=
      if ncm.notify then (s.ifRxMsgCallback ncm.interface, (s.dp ncm.interface).ndev)
      else (ncm.cb, ncm.appData)
    some (s, invoke cb appData)

def Family.receive (f : Family) (env : SessionEnv) (ncm : RxMsg) (s : NssTop) : Received :=
  match f with
  | .capwap => nssCapwapHandler ncm s
  | .dtls => nssDtlsHandler env ncm s
  | .pptp => nssPptpHandler ncm s
  | .l2tpv2 => nssL2tpv2Handler ncm s
  | .mapT => nssMapTHandler env ncm s
  | .tun6rd => nssTun6rdHandler ncm s
  | .greRedir => nssGreRedirMsgHandler ncm s
  | .wifiVdev => nssWifiVdevHandler ncm s

/-- The handlers of other interfaces leave all of this as it is. -/
def nssCoreHandleNssStatusPkt (env : SessionEnv) (ncm : RxMsg) (s : NssTop) : Received :=
  if ncm.version ≠ NSS_HLOS_MESSAGE_VERSION then some (s, none)
  else if ncm.len > ncm.bufLen then some (s, none)
  else if ncm.interface ≥ NSS_MAX_NET_INTERFACES then some (s, none)
  else match Family.ofHandler (s.handlers ncm.interface).cb with
    | none => some (s, none)
    | some f => f.receive env ncm s

end NssDrv.SessionRegistration

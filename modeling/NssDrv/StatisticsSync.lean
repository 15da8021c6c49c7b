import Mathlib.Data.BitVec
import NssDrv.ConnectionSync
import NssDrv.CounterReports
import NssDrv.PppoeStats

set_option autoImplicit false

/-!
# Statistics that the firmware reports

The counters of `nss_top_main` and of the cores, and what the handlers of messages do
to them. Every handler changes the counters of its own nodes, under the lock of the
statistics.
-/
namespace NssDrv.StatisticsSync
open HlosInterface CounterReports
open ConnectionSync (ConnSync ConnSyncMany Family countFits)
open PppoeStats (NodeStat sizeofNssCmnMsg)

def NSS_SPECIAL_IF_START : ℕ := NSS_DYNAMIC_IF_START + NSS_MAX_DYNAMIC_INTERFACES
def NSS_N2H_INTERFACE : ℕ := NSS_SPECIAL_IF_START
def NSS_ETH_RX_INTERFACE : ℕ := NSS_SPECIAL_IF_START + 2
def NSS_PPPOE_RX_INTERFACE : ℕ := NSS_SPECIAL_IF_START + 3
def NSS_IPV4_RX_INTERFACE : ℕ := NSS_SPECIAL_IF_START + 5
def NSS_IPV6_RX_INTERFACE : ℕ := NSS_SPECIAL_IF_START + 7
def NSS_LSO_RX_INTERFACE : ℕ := NSS_SPECIAL_IF_START + 22
def NSS_SJACK_INTERFACE : ℕ := NSS_SPECIAL_IF_START + 23
def NSS_IPV4_REASM_INTERFACE : ℕ := NSS_SPECIAL_IF_START + 24
def NSS_WIFI_INTERFACE0 : ℕ := NSS_SPECIAL_IF_START + 26
def NSS_IPV6_REASM_INTERFACE : ℕ := NSS_SPECIAL_IF_START + 29
def NSS_PORTID_INTERFACE : ℕ := NSS_SPECIAL_IF_START + 37

def NSS_STATS_NODE_MAX : ℕ := 5
def NSS_EXCEPTION_EVENT_ETH_RX_MAX : ℕ := 3
def NSS_EXCEPTION_EVENT_IPV4_MAX : ℕ := 78
def NSS_EXCEPTION_EVENT_IPV6_MAX : ℕ := 50
def NSS_MAX_WIFI_RADIO_INTERFACES : ℕ := 3
def NSS_WIFI_TX_NUM_TOS_TIDS : ℕ := 8
def NSS_PORTID_MAX_SWITCH_PORT : U8 := 7

/-- `nss_stats_ipv4`. -/
inductive Ipv4Stat where
  | acceleratedRxPkts | acceleratedRxBytes | acceleratedTxPkts | acceleratedTxBytes
  | connectionCreateRequests | connectionCreateCollisions | connectionCreateInvalidInterface
  | connectionDestroyRequests | connectionDestroyMisses | connectionHashHits
  | connectionHashReorders | connectionFlushes | connectionEvictions | fragmentations
  | mcConnectionCreateRequests | mcConnectionUpdateRequests | mcConnectionCreateInvalidInterface
  | mcConnectionDestroyRequests | mcConnectionDestroyMisses | mcConnectionFlushes

/-- `nss_stats_ipv4_reasm`. -/
inductive Ipv4ReasmStat where
  | evictions | allocFails | timeouts

/-- `nss_stats_ipv6`. -/
inductive Ipv6Stat where
  | acceleratedRxPkts | acceleratedRxBytes | acceleratedTxPkts | acceleratedTxBytes
  | connectionCreateRequests | connectionCreateCollisions | connectionCreateInvalidInterface
  | connectionDestroyRequests | connectionDestroyMisses | connectionHashHits
  | connectionHashReorders | connectionFlushes | connectionEvictions | fragmentations | fragFails
  | mcConnectionCreateRequests | mcConnectionUpdateRequests | mcConnectionCreateInvalidInterface
  | mcConnectionDestroyRequests | mcConnectionDestroyMisses | mcConnectionFlushes

/-- `nss_stats_ipv6_reasm`. -/
inductive Ipv6ReasmStat where
  | allocFails | timeouts | discards

/-- `nss_stats_gmac`. -/
inductive GmacStat where
  | totalTicks | worstCaseTicks | iterations

/-- `nss_stats_eth_rx`. -/
inductive EthRxStat where
  | totalTicks | worstCaseTicks | iterations

/-- `nss_stats_lso_rx`. -/
inductive LsoRxStat where
  | txDropped | dropped | pbufAllocFail | pbufReferenceFail

/-- `nss_stats_n2h`, behind the five counters of the node. -/
inductive N2hStat where
  | queueDropped | totalTicks | worstCaseTicks | iterations | pbufOcmAllocFails | pbufOcmFreeCount
  | pbufOcmTotalCount | pbufDefaultAllocFails | pbufDefaultFreeCount | pbufDefaultTotalCount
  | payloadAllocFails | payloadFreeCount | h2nControlPackets | h2nControlBytes | n2hControlPackets
  | n2hControlBytes | h2nDataPackets | h2nDataBytes | n2hDataPackets | n2hDataBytes
  | n2hTotPayloads | n2hInterfaceInvalid

/-- `nss_stats_wifi` up to the counters of the TIDQs. -/
inductive WifiStat where
  | rxPkts | rxDropped | txPkts | txDropped | txCompleted | mgmtRcvCnt | mgmtTxPkts | mgmtTxDropped
  | mgmtTxCompletions | txInvPeerEnqueueCnt | rxInvPeerRcvCnt | rxPnCheckFailed | rxDelivered
  | rxBytesDelivered | txBytesCompleted | rxDeliverUnalignedDropCnt

/-- The counters of the TIDQs, eight in a row of each. -/
inductive WifiTidqStat where
  | tidqEnqueueCnt | tidqDequeueCnt | tidqEnqueueFailCnt | tidqTtlExpireCnt | tidqDequeueReqCnt

/-- `nss_stats_wifi` behind these. -/
inductive WifiQueueStat where
  | totalTidqDepth | rxHttFetchCnt | totalTidqBypassCnt | globalQFullCnt | tidqFullCnt

inductive Bank where
  | node (interface : ℕ)
  | ipv4 | ipv4Reasm | ipv6 | ipv6Reasm | lsoRx | drv | pppoe | ethRx | portid
  | gmac (id : ℕ)
  | wifi (radioId : ℕ)
  | ifExceptionEthRx | ifExceptionIpv4 | ifExceptionIpv6
  | ifExceptionPppoe (interface session : ℕ)
  | n2h (core : ℕ)
  deriving DecidableEq

structure Counter where
  bank : Bank
  index : ℕ
  deriving DecidableEq

abbrev Memory := Counter → BitVec 64
abbrev Entry := Counter × Change (BitVec 64)

def count (k : Counter) (x : U32) : Entry := (k, .add (x.setWidth 64))

def latest (k : Counter) (x : U32) : Entry := (k, .set (x.setWidth 64))

def worst (k : Counter) (x : U32) : Entry := (k, .raise (x.setWidth 64))

/-- `nss_cmn_node_stats`. -/
structure NssCmnNodeStats where
  rxPackets : U32
  rxBytes : U32
  rxDropped : U32
  txPackets : U32
  txBytes : U32

/-- The common statistics of a node, which every handler adds in the same way. -/
def nodeSync (bank : Bank) (stats : NssCmnNodeStats) : List Entry := [
    count ⟨bank, NodeStat.rxPkts.ctorIdx⟩ stats.rxPackets,
    count ⟨bank, NodeStat.rxBytes.ctorIdx⟩ stats.rxBytes,
    count ⟨bank, NodeStat.rxDropped.ctorIdx⟩ stats.rxDropped,
    count ⟨bank, NodeStat.txPkts.ctorIdx⟩ stats.txPackets,
    count ⟨bank, NodeStat.txBytes.ctorIdx⟩ stats.txBytes]

/-- The loop over the exceptions of a node. -/
def exceptionSync {n : ℕ} (bank : Bank) (events : Fin n → U32) : List Entry :=
  (List.finRange n).map fun i => count ⟨bank, i.val⟩ (events i)

def ipv4 (s : Ipv4Stat) (x : U32) : Entry := count ⟨.ipv4, s.ctorIdx⟩ x

def ipv6 (s : Ipv6Stat) (x : U32) : Entry := count ⟨.ipv6, s.ctorIdx⟩ x

structure Ipv4NodeSync where
  nodeStats : NssCmnNodeStats
  ipv4ConnectionCreateRequests : U32
  ipv4ConnectionCreateCollisions : U32
  ipv4ConnectionCreateInvalidInterface : U32
  ipv4ConnectionDestroyRequests : U32
  ipv4ConnectionDestroyMisses : U32
  ipv4ConnectionHashHits : U32
  ipv4ConnectionHashReorders : U32
  ipv4ConnectionFlushes : U32
  ipv4ConnectionEvictions : U32
  ipv4Fragmentations : U32
  ipv4McConnectionCreateRequests : U32
  ipv4McConnectionUpdateRequests : U32
  ipv4McConnectionCreateInvalidInterface : U32
  ipv4McConnectionDestroyRequests : U32
  ipv4McConnectionDestroyMisses : U32
  ipv4McConnectionFlushes : U32
  exceptionEvents : Fin NSS_EXCEPTION_EVENT_IPV4_MAX → U32

def nssIpv4DriverNodeSyncUpdate (nins : Ipv4NodeSync) : List Entry :=
  nodeSync (.node NSS_IPV4_RX_INTERFACE) nins.nodeStats ++ [
    ipv4 .connectionCreateRequests nins.ipv4ConnectionCreateRequests,
    ipv4 .connectionCreateCollisions nins.ipv4ConnectionCreateCollisions,
    ipv4 .connectionCreateInvalidInterface nins.ipv4ConnectionCreateInvalidInterface,
    ipv4 .connectionDestroyRequests nins.ipv4ConnectionDestroyRequests,
    ipv4 .connectionDestroyMisses nins.ipv4ConnectionDestroyMisses,
    ipv4 .connectionHashHits nins.ipv4ConnectionHashHits,
    ipv4 .connectionHashReorders nins.ipv4ConnectionHashReorders,
    ipv4 .connectionFlushes nins.ipv4ConnectionFlushes,
    ipv4 .connectionEvictions nins.ipv4ConnectionEvictions,
    ipv4 .fragmentations nins.ipv4Fragmentations,
    ipv4 .mcConnectionCreateRequests nins.ipv4McConnectionCreateRequests,
    ipv4 .mcConnectionUpdateRequests nins.ipv4McConnectionUpdateRequests,
    ipv4 .mcConnectionCreateInvalidInterface nins.ipv4McConnectionCreateInvalidInterface,
    ipv4 .mcConnectionDestroyRequests nins.ipv4McConnectionDestroyRequests,
    ipv4 .mcConnectionDestroyMisses nins.ipv4McConnectionDestroyMisses,
    ipv4 .mcConnectionFlushes nins.ipv4McConnectionFlushes] ++
  exceptionSync .ifExceptionIpv4 nins.exceptionEvents

structure Ipv6NodeSync where
  nodeStats : NssCmnNodeStats
  ipv6ConnectionCreateRequests : U32
  ipv6ConnectionCreateCollisions : U32
  ipv6ConnectionCreateInvalidInterface : U32
  ipv6ConnectionDestroyRequests : U32
  ipv6ConnectionDestroyMisses : U32
  ipv6ConnectionHashHits : U32
  ipv6ConnectionHashReorders : U32
  ipv6ConnectionFlushes : U32
  ipv6ConnectionEvictions : U32
  ipv6Fragmentations : U32
  ipv6FragFails : U32
  ipv6McConnectionCreateRequests : U32
  ipv6McConnectionUpdateRequests : U32
  ipv6McConnectionCreateInvalidInterface : U32
  ipv6McConnectionDestroyRequests : U32
  ipv6McConnectionDestroyMisses : U32
  ipv6McConnectionFlushes : U32
  exceptionEvents : Fin NSS_EXCEPTION_EVENT_IPV6_MAX → U32

def nssIpv6DriverNodeSyncUpdate (nins : Ipv6NodeSync) : List Entry :=
  nodeSync (.node NSS_IPV6_RX_INTERFACE) nins.nodeStats ++ [
    ipv6 .connectionCreateRequests nins.ipv6ConnectionCreateRequests,
    ipv6 .connectionCreateCollisions nins.ipv6ConnectionCreateCollisions,
    ipv6 .connectionCreateInvalidInterface nins.ipv6ConnectionCreateInvalidInterface,
    ipv6 .connectionDestroyRequests nins.ipv6ConnectionDestroyRequests,
    ipv6 .connectionDestroyMisses nins.ipv6ConnectionDestroyMisses,
    ipv6 .connectionHashHits nins.ipv6ConnectionHashHits,
    ipv6 .connectionHashReorders nins.ipv6ConnectionHashReorders,
    ipv6 .connectionFlushes nins.ipv6ConnectionFlushes,
    ipv6 .connectionEvictions nins.ipv6ConnectionEvictions,
    ipv6 .fragmentations nins.ipv6Fragmentations,
    ipv6 .fragFails nins.ipv6FragFails,
    ipv6 .mcConnectionCreateRequests nins.ipv6McConnectionCreateRequests,
    ipv6 .mcConnectionUpdateRequests nins.ipv6McConnectionUpdateRequests,
    ipv6 .mcConnectionCreateInvalidInterface nins.ipv6McConnectionCreateInvalidInterface,
    ipv6 .mcConnectionDestroyRequests nins.ipv6McConnectionDestroyRequests,
    ipv6 .mcConnectionDestroyMisses nins.ipv6McConnectionDestroyMisses,
    ipv6 .mcConnectionFlushes nins.ipv6McConnectionFlushes] ++
  exceptionSync .ifExceptionIpv6 nins.exceptionEvents

def nssIpv4DriverConnSyncUpdate (nirs : ConnSync) : List Entry := [
    ipv4 .acceleratedRxPkts (nirs.sum .rxPkts),
    ipv4 .acceleratedRxBytes (nirs.sum .rxBytes),
    ipv4 .acceleratedTxPkts (nirs.sum .txPkts),
    ipv4 .acceleratedTxBytes (nirs.sum .txBytes)]

def nssIpv6DriverConnSyncUpdate (nics : ConnSync) : List Entry := [
    ipv6 .acceleratedRxPkts (nics.sum .rxPkts),
    ipv6 .acceleratedRxBytes (nics.sum .rxBytes),
    ipv6 .acceleratedTxPkts (nics.sum .txPkts),
    ipv6 .acceleratedTxBytes (nics.sum .txBytes)]

/-- The lock is taken for each connection. -/
def connSyncManyUpdate (f : Family) (update : ConnSync → List Entry) (nicsm : ConnSyncMany) :
    List (List Entry) :=
  if countFits f nicsm then
    (List.range nicsm.count.toNat).map fun i => update (nicsm.connSync i)
  else []

def nssIpv4DriverConnSyncManyUpdate := connSyncManyUpdate .ipv4 nssIpv4DriverConnSyncUpdate
def nssIpv6DriverConnSyncManyUpdate := connSyncManyUpdate .ipv6 nssIpv6DriverConnSyncUpdate

def ipv4Reasm (s : Ipv4ReasmStat) (x : U32) : Entry := count ⟨.ipv4Reasm, s.ctorIdx⟩ x

def ipv6Reasm (s : Ipv6ReasmStat) (x : U32) : Entry := count ⟨.ipv6Reasm, s.ctorIdx⟩ x

def ethRx (s : EthRxStat) (x : U32) : Entry := count ⟨.ethRx, s.ctorIdx⟩ x

def lsoRx (s : LsoRxStat) (x : U32) : Entry := count ⟨.lsoRx, s.ctorIdx⟩ x

structure Ipv4ReasmStatsSync where
  nodeStats : NssCmnNodeStats
  ipv4ReasmEvictions : U32
  ipv4ReasmAllocFails : U32
  ipv4ReasmTimeouts : U32

def nssIpv4ReasmStatsSync (nirs : Ipv4ReasmStatsSync) : List Entry :=
  nodeSync (.node NSS_IPV4_REASM_INTERFACE) nirs.nodeStats ++ [
    ipv4Reasm .evictions nirs.ipv4ReasmEvictions,
    ipv4Reasm .allocFails nirs.ipv4ReasmAllocFails,
    ipv4Reasm .timeouts nirs.ipv4ReasmTimeouts]

structure Ipv6ReasmStatsSync where
  nodeStats : NssCmnNodeStats
  ipv6ReasmAllocFails : U32
  ipv6ReasmTimeouts : U32
  ipv6ReasmDiscards : U32

def nssIpv6ReasmStatsSync (nirs : Ipv6ReasmStatsSync) : List Entry :=
  nodeSync (.node NSS_IPV6_REASM_INTERFACE) nirs.nodeStats ++ [
    ipv6Reasm .allocFails nirs.ipv6ReasmAllocFails,
    ipv6Reasm .timeouts nirs.ipv6ReasmTimeouts,
    ipv6Reasm .discards nirs.ipv6ReasmDiscards]

structure EthRxNodeSync where
  nodeStats : NssCmnNodeStats
  totalTicks : U32
  worstCaseTicks : U32
  iterations : U32
  exceptionEvents : Fin NSS_EXCEPTION_EVENT_ETH_RX_MAX → U32

def nssEthRxMetadataStatsSync (nens : EthRxNodeSync) : List Entry :=
  nodeSync (.node NSS_ETH_RX_INTERFACE) nens.nodeStats ++ [
    ethRx .totalTicks nens.totalTicks,
    ethRx .worstCaseTicks nens.worstCaseTicks,
    ethRx .iterations nens.iterations] ++
  exceptionSync .ifExceptionEthRx nens.exceptionEvents

structure LsoRxStatsSync where
  nodeStats : NssCmnNodeStats
  txDropped : U32
  dropped : U32
  pbufAllocFail : U32
  pbufReferenceFail : U32

def nssRxLsoRxStatsSync (nlrss : LsoRxStatsSync) : List Entry :=
  nodeSync (.node NSS_LSO_RX_INTERFACE) nlrss.nodeStats ++ [
    lsoRx .txDropped nlrss.txDropped,
    lsoRx .dropped nlrss.dropped,
    lsoRx .pbufAllocFail nlrss.pbufAllocFail,
    lsoRx .pbufReferenceFail nlrss.pbufReferenceFail]

structure N2hPbufMgrStats where
  pbufAllocFails : U32
  pbufFreeCount : U32
  pbufTotalCount : U32

structure N2hStatsSync where
  nodeStats : NssCmnNodeStats
  queueDropped : U32
  totalTicks : U32
  worstCaseTicks : U32
  iterations : U32
  pbufOcmStats : N2hPbufMgrStats
  pbufDefaultStats : N2hPbufMgrStats
  payloadAllocFails : U32
  payloadFreeCount : U32
  h2nCtrlPkts : U32
  h2nCtrlBytes : U32
  n2hCtrlPkts : U32
  n2hCtrlBytes : U32
  h2nDataPkts : U32
  h2nDataBytes : U32
  n2hDataPkts : U32
  n2hDataBytes : U32
  totPayloads : U32
  dataInterfaceInvalid : U32

def n2hKey (core : ℕ) (s : N2hStat) : Counter := ⟨.n2h core, NSS_STATS_NODE_MAX + s.ctorIdx⟩

/-- The counters of the node come first in the array of a core. -/
def nssN2hStatsSync (core : ℕ) (nnss : N2hStatsSync) : List Entry :=
  nodeSync (.n2h core) nnss.nodeStats ++ [
    count (n2hKey core .queueDropped) nnss.queueDropped,
    count (n2hKey core .totalTicks) nnss.totalTicks,
    count (n2hKey core .worstCaseTicks) nnss.worstCaseTicks,
    count (n2hKey core .iterations) nnss.iterations,
    count (n2hKey core .pbufOcmAllocFails) nnss.pbufOcmStats.pbufAllocFails,
    latest (n2hKey core .pbufOcmFreeCount) nnss.pbufOcmStats.pbufFreeCount,
    latest (n2hKey core .pbufOcmTotalCount) nnss.pbufOcmStats.pbufTotalCount,
    count (n2hKey core .pbufDefaultAllocFails) nnss.pbufDefaultStats.pbufAllocFails,
    latest (n2hKey core .pbufDefaultFreeCount) nnss.pbufDefaultStats.pbufFreeCount,
    latest (n2hKey core .pbufDefaultTotalCount) nnss.pbufDefaultStats.pbufTotalCount,
    count (n2hKey core .payloadAllocFails) nnss.payloadAllocFails,
    latest (n2hKey core .payloadFreeCount) nnss.payloadFreeCount,
    count (n2hKey core .h2nControlPackets) nnss.h2nCtrlPkts,
    count (n2hKey core .h2nControlBytes) nnss.h2nCtrlBytes,
    count (n2hKey core .n2hControlPackets) nnss.n2hCtrlPkts,
    count (n2hKey core .n2hControlBytes) nnss.n2hCtrlBytes,
    count (n2hKey core .h2nDataPackets) nnss.h2nDataPkts,
    count (n2hKey core .h2nDataBytes) nnss.h2nDataBytes,
    count (n2hKey core .n2hDataPackets) nnss.n2hDataPkts,
    count (n2hKey core .n2hDataBytes) nnss.n2hDataBytes,
    latest (n2hKey core .n2hTotPayloads) nnss.totPayloads,
    count (n2hKey core .n2hInterfaceInvalid) nnss.dataInterfaceInvalid]

structure SjackStatsSyncMsg where
  nodeStats : NssCmnNodeStats

def nssSjackNodeSyncUpdate (nins : SjackStatsSyncMsg) : List Entry :=
  nodeSync (.node NSS_SJACK_INTERFACE) nins.nodeStats

structure PortidStatsSyncMsg where
  nodeStats : NssCmnNodeStats
  rxInvalidHeader : U32
  portId : U8

/-- The statistics of single ports are kept elsewhere. -/
def nssPortidSyncUpdate (npsm : PortidStatsSyncMsg) : List (List Entry) :=
  if npsm.portId = NSS_PORTID_MAX_SWITCH_PORT then
    [nodeSync (.node NSS_PORTID_INTERFACE) npsm.nodeStats ++
      [count ⟨.portid, 0⟩ npsm.rxInvalidHeader]]
  else []

structure WifiStatsSyncMsg where
  nodeStats : NssCmnNodeStats
  txTransmitDropped : U32
  txTransmitCompletions : U32
  txMgmtRcvCnt : U32
  txMgmtPkts : U32
  txMgmtDropped : U32
  txMgmtCompletions : U32
  txInvPeerEnqCnt : U32
  rxInvPeerRcvCnt : U32
  rxPnCheckFailed : U32
  rxPktsDeliverd : U32
  rxBytesDeliverd : U32
  txBytesTransmitCompletions : U32
  rxDeliverUnalignedDropCnt : U32
  tidqEnqueueCnt : Fin NSS_WIFI_TX_NUM_TOS_TIDS → U32
  tidqDequeueCnt : Fin NSS_WIFI_TX_NUM_TOS_TIDS → U32
  tidqEnqueueFailCnt : Fin NSS_WIFI_TX_NUM_TOS_TIDS → U32
  tidqTtlExpireCnt : Fin NSS_WIFI_TX_NUM_TOS_TIDS → U32
  tidqDequeueReqCnt : Fin NSS_WIFI_TX_NUM_TOS_TIDS → U32
  rxHttFetchCnt : U32
  totalTidqDepth : U32
  totalTidqBypassCnt : U32
  globalQFullCnt : U32
  tidqFullCnt : U32

def wifiKey (radioId : ℕ) (s : WifiStat) : Counter := ⟨.wifi radioId, s.ctorIdx⟩

def wifiTidqKey (radioId : ℕ) (s : WifiTidqStat) (i : ℕ) : Counter :=
  ⟨.wifi radioId, 16 + NSS_WIFI_TX_NUM_TOS_TIDS * s.ctorIdx + i⟩

def wifiQueueKey (radioId : ℕ) (s : WifiQueueStat) : Counter := ⟨.wifi radioId, 56 + s.ctorIdx⟩

def wifiRadioSync (radioId : ℕ) (stats : WifiStatsSyncMsg) : List Entry := [
    count (wifiKey radioId .rxPkts) stats.nodeStats.rxPackets,
    count (wifiKey radioId .rxDropped) stats.nodeStats.rxDropped,
    count (wifiKey radioId .txPkts) stats.nodeStats.txPackets,
    count (wifiKey radioId .txDropped) stats.txTransmitDropped,
    count (wifiKey radioId .txCompleted) stats.txTransmitCompletions,
    count (wifiKey radioId .mgmtRcvCnt) stats.txMgmtRcvCnt,
    count (wifiKey radioId .mgmtTxPkts) stats.txMgmtPkts,
    count (wifiKey radioId .mgmtTxDropped) stats.txMgmtDropped,
    count (wifiKey radioId .mgmtTxCompletions) stats.txMgmtCompletions,
    count (wifiKey radioId .txInvPeerEnqueueCnt) stats.txInvPeerEnqCnt,
    count (wifiKey radioId .rxInvPeerRcvCnt) stats.rxInvPeerRcvCnt,
    count (wifiKey radioId .rxPnCheckFailed) stats.rxPnCheckFailed,
    count (wifiKey radioId .rxDelivered) stats.rxPktsDeliverd,
    count (wifiKey radioId .rxBytesDelivered) stats.rxBytesDeliverd,
    count (wifiKey radioId .txBytesCompleted) stats.txBytesTransmitCompletions,
    count (wifiKey radioId .rxDeliverUnalignedDropCnt) stats.rxDeliverUnalignedDropCnt] ++
  ((List.finRange NSS_WIFI_TX_NUM_TOS_TIDS).flatMap fun i => [
    count (wifiTidqKey radioId .tidqEnqueueCnt i.val) (stats.tidqEnqueueCnt i),
    count (wifiTidqKey radioId .tidqDequeueCnt i.val) (stats.tidqDequeueCnt i),
    count (wifiTidqKey radioId .tidqEnqueueFailCnt i.val) (stats.tidqEnqueueFailCnt i),
    count (wifiTidqKey radioId .tidqTtlExpireCnt i.val) (stats.tidqTtlExpireCnt i),
    count (wifiTidqKey radioId .tidqDequeueReqCnt i.val) (stats.tidqDequeueReqCnt i)]) ++ [
    count (wifiQueueKey radioId .rxHttFetchCnt) stats.rxHttFetchCnt,
    latest (wifiQueueKey radioId .totalTidqDepth) stats.totalTidqDepth,
    count (wifiQueueKey radioId .totalTidqBypassCnt) stats.totalTidqBypassCnt,
    count (wifiQueueKey radioId .globalQFullCnt) stats.globalQFullCnt,
    count (wifiQueueKey radioId .tidqFullCnt) stats.tidqFullCnt]

def nssWifiStatsSync (interface : U16) (stats : WifiStatsSyncMsg) : List (List Entry) :=
  let radioId := interface.setWidth 32 - BitVec.ofNat 32 NSS_WIFI_INTERFACE0
  if NSS_MAX_WIFI_RADIO_INTERFACES ≤ radioId.toNat then []
  else [wifiRadioSync radioId.toNat stats]

/-- `nss_phys_if_estats`, as far as the driver keeps it. -/
structure PhysIfEstats where
  gmacTotalTicks : U32
  gmacWorstCaseTicks : U32
  gmacIterations : U32

def gmacKey (id : ℕ) (s : GmacStat) : Counter := ⟨.gmac id, s.ctorIdx⟩

def nssPhysIfUpdateDriverStats (id : ℕ) (estats : PhysIfEstats) : List Entry := [
    count (gmacKey id .totalTicks) estats.gmacTotalTicks,
    worst (gmacKey id .worstCaseTicks) estats.gmacWorstCaseTicks,
    count (gmacKey id .iterations) estats.gmacIterations]

/-- The words of a message's header that the handlers look at. -/
structure MsgHeader where
  type : U32
  len : U32

def nssCmnGetMsgLen (cm : MsgHeader) : U32 := cm.len + sizeofNssCmnMsg

/-- A message that may report statistics. The type says which of the records is meant, and
    the interface is where the handler is registered. -/
inductive SyncMsg where
  | ipv4 (cm : MsgHeader) (nodeStats : Ipv4NodeSync) (connStats : ConnSync)
      (connStatsMany : ConnSyncMany)
  | ipv6 (cm : MsgHeader) (nodeStats : Ipv6NodeSync) (connStats : ConnSync)
      (connStatsMany : ConnSyncMany)
  | ipv4Reasm (cm : MsgHeader) (statsSync : Ipv4ReasmStatsSync)
  | ipv6Reasm (cm : MsgHeader) (statsSync : Ipv6ReasmStatsSync)
  | ethRx (cm : MsgHeader) (nodeSync : EthRxNodeSync)
  | lsoRx (cm : MsgHeader) (statsSync : LsoRxStatsSync)
  | n2h (cm : MsgHeader) (statsSync : N2hStatsSync)
  | sjack (cm : MsgHeader) (statsSync : SjackStatsSyncMsg)
  | portid (cm : MsgHeader) (statsSync : PortidStatsSyncMsg)
  | wifi (cm : MsgHeader) (interface : U16) (statsmsg : WifiStatsSyncMsg)
  | physIf (cm : MsgHeader) (interface : U16) (stats : PhysIfEstats)

/-- The types of messages that report connections are those of `nss_ipv4.c` and `nss_ipv6.c`. -/
def NSS_IP_RX_NODE_STATS_SYNC_MSG : U32 := 4

def rxMsgHandler (f : Family) (node : List Entry) (conn : ConnSync → List Entry)
    (many : ConnSyncMany → List (List Entry)) (cm : MsgHeader) (connStats : ConnSync)
    (connStatsMany : ConnSyncMany) : List (List Entry) :=
  if cm.type ≥ ConnectionSync.NSS_IPV4_MAX_MSG_TYPES then []
  else if nssCmnGetMsgLen cm > f.msgSize then []
  else if cm.type = NSS_IP_RX_NODE_STATS_SYNC_MSG then [node]
  else if cm.type = ConnectionSync.NSS_IPV4_RX_CONN_STATS_SYNC_MSG then [conn connStats]
  else if cm.type = ConnectionSync.NSS_IPV4_TX_CONN_STATS_SYNC_MANY_MSG then many connStatsMany
  else []

def nssIpv4RxMsgHandler (cm : MsgHeader) (nodeStats : Ipv4NodeSync) :=
  rxMsgHandler .ipv4 (nssIpv4DriverNodeSyncUpdate nodeStats) nssIpv4DriverConnSyncUpdate
    nssIpv4DriverConnSyncManyUpdate cm

def nssIpv6RxMsgHandler (cm : MsgHeader) (nodeStats : Ipv6NodeSync) :=
  rxMsgHandler .ipv6 (nssIpv6DriverNodeSyncUpdate nodeStats) nssIpv6DriverConnSyncUpdate
    nssIpv6DriverConnSyncManyUpdate cm

def NSS_IPV4_REASM_STATS_SYNC_MSG : U32 := 0
def NSS_IPV6_REASM_STATS_SYNC_MSG : U32 := 0
def NSS_LSO_RX_STATS_SYNC_MSG : U32 := 0
def NSS_RX_METADATA_TYPE_ETH_RX_STATS_SYNC : U32 := 0
def NSS_METADATA_TYPE_ETH_RX_MAX : U32 := 1
def NSS_RX_METADATA_TYPE_N2H_STATS_SYNC : U32 := 0
def NSS_METADATA_TYPE_N2H_MAX : U32 := 9
def NSS_SJACK_STATS_SYNC_MSG : U32 := 2
def NSS_SJACK_MAX_MSG_TYPE : U32 := 3
def sizeofNssSjackMsg : U32 := 48
def NSS_PORTID_STATS_SYNC_MSG : U32 := 2
def NSS_PORTID_MAX_MSG_TYPE : U32 := 3
def sizeofNssPortidMsg : U32 := 56
def NSS_WIFI_STATS_MSG : U32 := 10
def NSS_WIFI_MAX_MSG : U32 := 33
def sizeofNssWifiMsg : U32 := 1092
def NSS_IF_MAX_MSG_TYPES : U32 := 9999
def NSS_PHYS_IF_EXTENDED_STATS_SYNC : U32 := 10000
def NSS_PHYS_IF_MAX_MSG_TYPES : U32 := 10001
def sizeofNssPhysIfMsg : U32 := 224

def nssIpv4ReasmMsgHandler (cm : MsgHeader) (statsSync : Ipv4ReasmStatsSync) : List (List Entry) :=
  if cm.type = NSS_IPV4_REASM_STATS_SYNC_MSG then [nssIpv4ReasmStatsSync statsSync] else []

def nssIpv6ReasmMsgHandler (cm : MsgHeader) (statsSync : Ipv6ReasmStatsSync) : List (List Entry) :=
  if cm.type = NSS_IPV6_REASM_STATS_SYNC_MSG then [nssIpv6ReasmStatsSync statsSync] else []

def nssEthRxInterfaceHandler (cm : MsgHeader) (nodeSync : EthRxNodeSync) : List (List Entry) :=
  if cm.type ≥ NSS_METADATA_TYPE_ETH_RX_MAX then []
  else if cm.type = NSS_RX_METADATA_TYPE_ETH_RX_STATS_SYNC then
    [nssEthRxMetadataStatsSync nodeSync]
  else []

def nssRxLsoRxInterfaceHandler (cm : MsgHeader) (statsSync : LsoRxStatsSync) : List (List Entry) :=
  if cm.type = NSS_LSO_RX_STATS_SYNC_MSG then [nssRxLsoRxStatsSync statsSync] else []

def nssN2hInterfaceHandler (core : ℕ) (cm : MsgHeader) (statsSync : N2hStatsSync) :
    List (List Entry) :=
  if cm.type ≥ NSS_METADATA_TYPE_N2H_MAX then []
  else if cm.type = NSS_RX_METADATA_TYPE_N2H_STATS_SYNC then [nssN2hStatsSync core statsSync]
  else []

def nssSjackHandler (cm : MsgHeader) (statsSync : SjackStatsSyncMsg) : List (List Entry) :=
  if cm.type ≥ NSS_SJACK_MAX_MSG_TYPE then []
  else if nssCmnGetMsgLen cm > sizeofNssSjackMsg then []
  else if cm.type = NSS_SJACK_STATS_SYNC_MSG then [nssSjackNodeSyncUpdate statsSync]
  else []

def nssPortidHandler (cm : MsgHeader) (statsSync : PortidStatsSyncMsg) : List (List Entry) :=
  if cm.type ≥ NSS_PORTID_MAX_MSG_TYPE then []
  else if nssCmnGetMsgLen cm > sizeofNssPortidMsg then []
  else if cm.type = NSS_PORTID_STATS_SYNC_MSG then nssPortidSyncUpdate statsSync
  else []

def nssWifiHandler (cm : MsgHeader) (interface : U16) (statsmsg : WifiStatsSyncMsg) :
    List (List Entry) :=
  if cm.type ≥ NSS_WIFI_MAX_MSG then []
  else if nssCmnGetMsgLen cm > sizeofNssWifiMsg then []
  else if cm.type = NSS_WIFI_STATS_MSG then nssWifiStatsSync interface statsmsg
  else []

/-- Messages of the base class are not for the statistics. -/
def nssPhysIfMsgHandler (cm : MsgHeader) (interface : U16) (stats : PhysIfEstats) :
    List (List Entry) :=
  if cm.type > NSS_PHYS_IF_MAX_MSG_TYPES then []
  else if NSS_MAX_PHYSICAL_INTERFACES ≤ interface.toNat then []
  else if nssCmnGetMsgLen cm > sizeofNssPhysIfMsg then []
  else if cm.type < NSS_IF_MAX_MSG_TYPES then []
  else if cm.type = NSS_PHYS_IF_EXTENDED_STATS_SYNC then
    [nssPhysIfUpdateDriverStats interface.toNat stats]
  else []

/-- What a message that comes from a core does to the counters, by holds of the lock. -/
def SyncMsg.groups (core : ℕ) : SyncMsg → List (List Entry)
  | .ipv4 cm nodeStats connStats connStatsMany =>
    nssIpv4RxMsgHandler cm nodeStats connStats connStatsMany
  | .ipv6 cm nodeStats connStats connStatsMany =>
    nssIpv6RxMsgHandler cm nodeStats connStats connStatsMany
  | .ipv4Reasm cm statsSync => nssIpv4ReasmMsgHandler cm statsSync
  | .ipv6Reasm cm statsSync => nssIpv6ReasmMsgHandler cm statsSync
  | .ethRx cm nodeSync => nssEthRxInterfaceHandler cm nodeSync
  | .lsoRx cm statsSync => nssRxLsoRxInterfaceHandler cm statsSync
  | .n2h cm statsSync => nssN2hInterfaceHandler core cm statsSync
  | .sjack cm statsSync => nssSjackHandler cm statsSync
  | .portid cm statsSync => nssPortidHandler cm statsSync
  | .wifi cm interface statsmsg => nssWifiHandler cm interface statsmsg
  | .physIf cm interface stats => nssPhysIfMsgHandler cm interface stats

/-- How a counter takes what is reported to it. -/
def kind (k : Counter) : Kind :=
  match k.bank with
  | .n2h _ =>
    if [N2hStat.pbufOcmFreeCount.ctorIdx, N2hStat.pbufOcmTotalCount.ctorIdx,
        N2hStat.pbufDefaultFreeCount.ctorIdx, N2hStat.pbufDefaultTotalCount.ctorIdx,
        N2hStat.payloadFreeCount.ctorIdx, N2hStat.n2hTotPayloads.ctorIdx].any
          (NSS_STATS_NODE_MAX + · == k.index) then .latest
    else .total
  | .wifi _ => if k.index = 56 + WifiQueueStat.totalTidqDepth.ctorIdx then .latest else .total
  | .gmac _ => if k.index = GmacStat.worstCaseTicks.ctorIdx then .peak else .total
  | _ => .total

section Agreement
variable {es fs : List Entry} {k : Counter} {x : U32}

theorem agrees_nil : Agrees kind ([] : List Entry) := nofun

theorem agrees_cons {e : Entry} (h : e.2.kind = kind e.1) (hes : Agrees kind es) :
    Agrees kind (e :: es) := by
  intro e' he'
  rcases List.mem_cons.mp he' with rfl | he'
  · exact h
  · exact hes e' he'

theorem agrees_count (h : kind k = .total) (hes : Agrees kind es) :
    Agrees kind (count k x :: es) := agrees_cons h.symm hes

theorem agrees_loop {ι : Type} {xs : List ι} {f : ι → List Entry}
    (h : ∀ i ∈ xs, Agrees kind (f i)) : Agrees kind (xs.flatMap f) := by
  intro e he
  obtain ⟨i, hi, he⟩ := List.mem_flatMap.mp he
  exact h i hi e he

def Sums (b : Bank) : Prop := ∀ i, kind ⟨b, i⟩ = .total

theorem nodeSync_agrees {b : Bank} (h : ∀ i < NSS_STATS_NODE_MAX, kind ⟨b, i⟩ = .total)
    (stats : NssCmnNodeStats) : Agrees kind (nodeSync b stats) := by
  have hstat : ∀ s : NodeStat, kind ⟨b, s.ctorIdx⟩ = .total := by
    intro s
    apply h
    cases s <;> decide
  unfold nodeSync
  repeat apply agrees_count (hstat _)
  exact agrees_nil

theorem exceptionSync_agrees {n : ℕ} {b : Bank} (h : Sums b) (events : Fin n → U32) :
    Agrees kind (exceptionSync b events) := by
  intro e he
  obtain ⟨i, -, rfl⟩ := List.mem_map.mp he
  exact (h i).symm

theorem Sums.node {b : Bank} (h : Sums b) (stats : NssCmnNodeStats) :
    Agrees kind (nodeSync b stats) := nodeSync_agrees (fun i _ => h i) stats

theorem ipv4Node_agrees (nins : Ipv4NodeSync) : Agrees kind (nssIpv4DriverNodeSyncUpdate nins) := by
  unfold nssIpv4DriverNodeSyncUpdate
  refine ((Sums.node (fun _ => rfl) _).append ?_).append (exceptionSync_agrees (fun _ => rfl) _)
  repeat apply agrees_cons rfl
  exact agrees_nil

theorem ipv6Node_agrees (nins : Ipv6NodeSync) : Agrees kind (nssIpv6DriverNodeSyncUpdate nins) := by
  unfold nssIpv6DriverNodeSyncUpdate
  refine ((Sums.node (fun _ => rfl) _).append ?_).append (exceptionSync_agrees (fun _ => rfl) _)
  repeat apply agrees_cons rfl
  exact agrees_nil

theorem ipv4Conn_agrees (nirs : ConnSync) : Agrees kind (nssIpv4DriverConnSyncUpdate nirs) := by
  unfold nssIpv4DriverConnSyncUpdate
  repeat apply agrees_cons rfl
  exact agrees_nil

theorem ipv6Conn_agrees (nics : ConnSync) : Agrees kind (nssIpv6DriverConnSyncUpdate nics) := by
  unfold nssIpv6DriverConnSyncUpdate
  repeat apply agrees_cons rfl
  exact agrees_nil

theorem n2h_agrees (core : ℕ) (nnss : N2hStatsSync) : Agrees kind (nssN2hStatsSync core nnss) := by
  unfold nssN2hStatsSync
  refine (nodeSync_agrees ?_ _).append ?_
  · intro i hi
    have hlow : ∀ j, (NSS_STATS_NODE_MAX + j == i) = false := by
      intro j
      have hne : NSS_STATS_NODE_MAX + j ≠ i := by omega
      exact beq_false_of_ne hne
    simp [kind, hlow]
  · repeat apply agrees_cons rfl
    exact agrees_nil

theorem wifiTidq_kind (radioId : ℕ) (s : WifiTidqStat) (i : Fin NSS_WIFI_TX_NUM_TOS_TIDS) :
    kind (wifiTidqKey radioId s i.val) = .total := by
  have hi := i.isLt
  have hs : s.ctorIdx ≤ 4 := by cases s <;> decide
  have hne : (wifiTidqKey radioId s i.val).index ≠ 56 + WifiQueueStat.totalTidqDepth.ctorIdx := by
    change 16 + 8 * s.ctorIdx + i.val ≠ 56
    change i.val < 8 at hi
    omega
  exact if_neg hne

theorem wifi_agrees (radioId : ℕ) (stats : WifiStatsSyncMsg) :
    Agrees kind (wifiRadioSync radioId stats) := by
  unfold wifiRadioSync
  refine (Agrees.append ?_ (agrees_loop fun i _ => ?_)).append ?_
  · repeat apply agrees_cons rfl
    exact agrees_nil
  · repeat apply agrees_count (wifiTidq_kind _ _ _)
    exact agrees_nil
  · repeat apply agrees_cons rfl
    exact agrees_nil

theorem many_agrees {f : Family} {update : ConnSync → List Entry}
    (h : ∀ c, Agrees kind (update c)) (nicsm : ConnSyncMany) :
    ∀ g ∈ connSyncManyUpdate f update nicsm, Agrees kind g := by
  intro g hg
  unfold connSyncManyUpdate at hg
  split at hg
  · obtain ⟨i, -, rfl⟩ := List.mem_map.mp hg
    exact h _
  · cases hg

theorem agrees_ite {c : Prop} [Decidable c] {gs hs : List (List Entry)}
    (hgs : ∀ g ∈ gs, Agrees kind g) (hhs : ∀ g ∈ hs, Agrees kind g) :
    ∀ g ∈ (if c then gs else hs), Agrees kind g := by
  by_cases hc : c
  · rw [if_pos hc]
    exact hgs
  · rw [if_neg hc]
    exact hhs

theorem agrees_none : ∀ g ∈ ([] : List (List Entry)), Agrees kind g := nofun

theorem agrees_one {g : List Entry} (h : Agrees kind g) : ∀ g' ∈ [g], Agrees kind g' := by
  intro g' hg'
  rw [List.mem_singleton.mp hg']
  exact h

theorem groups_agree (core : ℕ) (msg : SyncMsg) : ∀ g ∈ msg.groups core, Agrees kind g := by
  cases msg with
  | ipv4 cm nodeStats connStats connStatsMany =>
    refine agrees_ite agrees_none (agrees_ite agrees_none (agrees_ite ?_ (agrees_ite ?_
      (agrees_ite ?_ agrees_none))))
    · exact agrees_one (ipv4Node_agrees nodeStats)
    · exact agrees_one (ipv4Conn_agrees connStats)
    · exact many_agrees ipv4Conn_agrees connStatsMany
  | ipv6 cm nodeStats connStats connStatsMany =>
    refine agrees_ite agrees_none (agrees_ite agrees_none (agrees_ite ?_ (agrees_ite ?_
      (agrees_ite ?_ agrees_none))))
    · exact agrees_one (ipv6Node_agrees nodeStats)
    · exact agrees_one (ipv6Conn_agrees connStats)
    · exact many_agrees ipv6Conn_agrees connStatsMany
  | ipv4Reasm cm statsSync =>
    refine agrees_ite (agrees_one ((Sums.node (fun _ => rfl) _).append ?_)) agrees_none
    repeat apply agrees_cons rfl
    exact agrees_nil
  | ipv6Reasm cm statsSync =>
    refine agrees_ite (agrees_one ((Sums.node (fun _ => rfl) _).append ?_)) agrees_none
    repeat apply agrees_cons rfl
    exact agrees_nil
  | ethRx cm nodeSync =>
    refine agrees_ite agrees_none (agrees_ite (agrees_one
      (((Sums.node (fun _ => rfl) _).append ?_).append (exceptionSync_agrees (fun _ => rfl) _)))
      agrees_none)
    repeat apply agrees_cons rfl
    exact agrees_nil
  | lsoRx cm statsSync =>
    refine agrees_ite (agrees_one ((Sums.node (fun _ => rfl) _).append ?_)) agrees_none
    repeat apply agrees_cons rfl
    exact agrees_nil
  | n2h cm statsSync =>
    exact agrees_ite agrees_none (agrees_ite (agrees_one (n2h_agrees core statsSync)) agrees_none)
  | sjack cm statsSync =>
    exact agrees_ite agrees_none (agrees_ite agrees_none
      (agrees_ite (agrees_one (Sums.node (fun _ => rfl) _)) agrees_none))
  | portid cm statsSync =>
    refine agrees_ite agrees_none (agrees_ite agrees_none (agrees_ite (agrees_ite
      (agrees_one ((Sums.node (fun _ => rfl) _).append ?_)) agrees_none) agrees_none))
    exact agrees_cons rfl agrees_nil
  | wifi cm interface statsmsg =>
    exact agrees_ite agrees_none (agrees_ite agrees_none
      (agrees_ite (agrees_ite agrees_none (agrees_one (wifi_agrees _ statsmsg))) agrees_none))
  | physIf cm interface stats =>
    refine agrees_ite agrees_none (agrees_ite agrees_none (agrees_ite agrees_none
      (agrees_ite agrees_none (agrees_ite (agrees_one ?_) agrees_none))))
    repeat apply agrees_cons rfl
    exact agrees_nil

end Agreement
end NssDrv.StatisticsSync

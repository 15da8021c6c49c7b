import Mathlib.Data.String.Basic
import NssDrv.BoundedText
import NssDrv.StatisticsSync
import NssDrv.StatsFiles

set_option autoImplicit false

/-!
# Statistics files of nodes

The readers of `nss_stats.c` that show counters row by row. A reader prints into a buffer
that is cut off at its end, and copies the counters of each of its sections under one hold
of the lock; the caller then gets a part of the text.
-/
namespace NssDrv.StatisticsText
open HlosInterface BoundedText StatisticsSync
open LogRead (decimal)
open StatsFiles (number)
open PppoeStats (NSS_PPPOE_NUM_SESSION_PER_INTERFACE NSS_PPPOE_EXCEPTION_EVENT_MAX)

abbrev Text := List Char
abbrev Row := Line Char Counter

def NSS_STATS_MAX_STR_LENGTH : ℕ := 96

def NSS_STATS_IPV4_MAX : ℕ := 20
def NSS_STATS_IPV4_REASM_MAX : ℕ := 3
def NSS_STATS_IPV6_MAX : ℕ := 21
def NSS_STATS_IPV6_REASM_MAX : ℕ := 3
def NSS_STATS_N2H_MAX : ℕ := 27
def NSS_STATS_LSO_RX_MAX : ℕ := 4
def NSS_STATS_DRV_MAX : ℕ := 24
def NSS_STATS_PPPOE_MAX : ℕ := 4
def NSS_STATS_GMAC_MAX : ℕ := 3
def NSS_STATS_ETH_RX_MAX : ℕ := 3
def NSS_STATS_WIFI_MAX : ℕ := 61
def NSS_STATS_PORTID_MAX : ℕ := 1

def nssStatsStrIpv4 : List String := [
    "rx_pkts", "rx_bytes", "tx_pkts", "tx_bytes", "create_requests", "create_collisions",
    "create_invalid_interface", "destroy_requests", "destroy_misses", "hash_hits",
    "hash_reorders", "flushes", "evictions", "fragmentations", "mc_create_requests",
    "mc_update_requests", "mc_create_invalid_interface", "mc_destroy_requests",
    "mc_destroy_misses", "mc_flushes"]

def nssStatsStrIpv4Reasm : List String := [
    "evictions", "alloc_fails", "timeouts"]

def nssStatsStrIpv6 : List String := [
    "rx_pkts", "rx_bytes", "tx_pkts", "tx_bytes", "create_requests", "create_collisions",
    "create_invalid_interface", "destroy_requests", "destroy_misses", "hash_hits",
    "hash_reorders", "flushes", "evictions", "fragmentations", "frag_fails",
    "mc_create_requests", "mc_update_requests", "mc_create_invalid_interface",
    "mc_destroy_requests", "mc_destroy_misses", "mc_flushes"]

def nssStatsStrIpv6Reasm : List String := [
    "alloc_fails", "timeouts", "discards"]

def nssStatsStrN2h : List String := [
    "queue_dropped", "ticks", "worst_ticks", "iterations", "pbuf_ocm_alloc_fails",
    "pbuf_ocm_free_count", "pbuf_ocm_total_count", "pbuf_default_alloc_fails",
    "pbuf_default_free_count", "pbuf_default_total_count", "payload_fails", "payload_free_count",
    "h2n_control_packets", "h2n_control_bytes", "n2h_control_packets", "n2h_control_bytes",
    "h2n_data_packets", "h2n_data_bytes", "n2h_data_packets", "n2h_data_bytes",
    "n2h_tot_payloads", "n2h_data_interface_invalid"]

def nssStatsStrLsoRx : List String := [
    "tx_dropped", "dropped", "pbuf_alloc_fail", "pbuf_reference_fail"]

def nssStatsStrDrv : List String := [
    "nbuf_alloc_errors", "tx_queue_full[0]", "tx_queue_full[1]", "tx_buffers_empty",
    "tx_buffers_pkt", "tx_buffers_cmd", "tx_buffers_crypto", "tx_buffers_reuse",
    "rx_buffers_empty", "rx_buffers_pkt", "rx_buffers_cmd_resp", "rx_buffers_status_sync",
    "rx_buffers_crypto", "rx_buffers_virtual", "tx_skb_simple", "tx_skb_nr_frags",
    "tx_skb_fraglist", "rx_skb_simple", "rx_skb_nr_frags", "rx_skb_fraglist", "rx_bad_desciptor",
    "nss_skb_count", "rx_chain_seg_processed", "rx_frag_seg_processed"]

def nssStatsStrPppoe : List String := [
    "create_requests", "create_failures", "destroy_requests", "destroy_misses"]

def nssStatsStrGmac : List String := [
    "ticks", "worst_ticks", "iterations"]

def nssStatsStrNode : List String := [
    "rx_packets", "rx_bytes", "rx_dropped", "tx_packets", "tx_bytes"]

def nssStatsStrEthRx : List String := [
    "ticks", "worst_ticks", "iterations"]

def nssStatsStrIfExceptionEthRx : List String := [
    "UNKNOWN_L3_PROTOCOL", "ETH_HDR_MISSING", "VLAN_MISSING"]

def nssStatsStrIfExceptionIpv4 : List String := [
    "IPV4_ICMP_HEADER_INCOMPLETE", "IPV4_ICMP_UNHANDLED_TYPE",
    "IPV4_ICMP_IPV4_HEADER_INCOMPLETE", "IPV4_ICMP_IPV4_UDP_HEADER_INCOMPLETE",
    "IPV4_ICMP_IPV4_TCP_HEADER_INCOMPLETE", "IPV4_ICMP_IPV4_UNKNOWN_PROTOCOL",
    "IPV4_ICMP_NO_ICME", "IPV4_ICMP_FLUSH_TO_HOST", "IPV4_TCP_HEADER_INCOMPLETE",
    "IPV4_TCP_NO_ICME", "IPV4_TCP_IP_OPTION", "IPV4_TCP_IP_FRAGMENT", "IPV4_TCP_SMALL_TTL",
    "IPV4_TCP_NEEDS_FRAGMENTATION", "IPV4_TCP_FLAGS", "IPV4_TCP_SEQ_EXCEEDS_RIGHT_EDGE",
    "IPV4_TCP_SMALL_DATA_OFFS", "IPV4_TCP_BAD_SACK", "IPV4_TCP_BIG_DATA_OFFS",
    "IPV4_TCP_SEQ_BEFORE_LEFT_EDGE", "IPV4_TCP_ACK_EXCEEDS_RIGHT_EDGE",
    "IPV4_TCP_ACK_BEFORE_LEFT_EDGE", "IPV4_UDP_HEADER_INCOMPLETE", "IPV4_UDP_NO_ICME",
    "IPV4_UDP_IP_OPTION", "IPV4_UDP_IP_FRAGMENT", "IPV4_UDP_SMALL_TTL",
    "IPV4_UDP_NEEDS_FRAGMENTATION", "IPV4_WRONG_TARGET_MAC", "IPV4_HEADER_INCOMPLETE",
    "IPV4_BAD_TOTAL_LENGTH", "IPV4_BAD_CHECKSUM", "IPV4_NON_INITIAL_FRAGMENT",
    "IPV4_DATAGRAM_INCOMPLETE", "IPV4_OPTIONS_INCOMPLETE", "IPV4_UNKNOWN_PROTOCOL",
    "IPV4_ESP_HEADER_INCOMPLETE", "IPV4_ESP_NO_ICME", "IPV4_ESP_IP_OPTION",
    "IPV4_ESP_IP_FRAGMENT", "IPV4_ESP_SMALL_TTL", "IPV4_ESP_NEEDS_FRAGMENTATION",
    "IPV4_INGRESS_VID_MISMATCH", "IPV4_INGRESS_VID_MISSING", "IPV4_6RD_NO_ICME",
    "IPV4_6RD_IP_OPTION", "IPV4_6RD_IP_FRAGMENT", "IPV4_6RD_NEEDS_FRAGMENTATION",
    "IPV4_DSCP_MARKING_MISMATCH", "IPV4_VLAN_MARKING_MISMATCH", "IPV4_DEPRECATED",
    "IPV4_GRE_HEADER_INCOMPLETE", "IPV4_GRE_NO_ICME", "IPV4_GRE_IP_OPTION",
    "IPV4_GRE_IP_FRAGMENT", "IPV4_GRE_SMALL_TTL", "IPV4_GRE_NEEDS_FRAGMENTATION",
    "IPV4_PPTP_GRE_SESSION_MATCH_FAIL", "IPV4_PPTP_GRE_INVALID_PROTO", "IPV4_PPTP_GRE_NO_CME",
    "IPV4_PPTP_GRE_IP_OPTION", "IPV4_PPTP_GRE_IP_FRAGMENT", "IPV4_PPTP_GRE_SMALL_TTL",
    "IPV4_PPTP_GRE_NEEDS_FRAGMENTATION", "IPV4_DESTROY", "IPV4_FRAG_DF_SET", "IPV4_FRAG_FAIL",
    "IPV4_ICMP_IPV4_UDPLITE_HEADER_INCOMPLETE", "IPV4_UDPLITE_HEADER_INCOMPLETE",
    "IPV4_UDPLITE_NO_ICME", "IPV4_UDPLITE_IP_OPTION", "IPV4_UDPLITE_IP_FRAGMENT",
    "IPV4_UDPLITE_SMALL_TTL", "IPV4_UDPLITE_NEEDS_FRAGMENTATION", "IPV4_MC_UDP_NO_ICME",
    "IPV4_MC_MEM_ALLOC_FAILURE", "IPV4_MC_UPDATE_FAILURE", "IPV4_MC_PBUF_ALLOC_FAILURE"]

def nssStatsStrIfExceptionIpv6 : List String := [
    "IPV6_ICMP_HEADER_INCOMPLETE", "IPV6_ICMP_UNHANDLED_TYPE",
    "IPV6_ICMP_IPV6_HEADER_INCOMPLETE", "IPV6_ICMP_IPV6_UDP_HEADER_INCOMPLETE",
    "IPV6_ICMP_IPV6_TCP_HEADER_INCOMPLETE", "IPV6_ICMP_IPV6_UNKNOWN_PROTOCOL",
    "IPV6_ICMP_NO_ICME", "IPV6_ICMP_FLUSH_TO_HOST", "IPV6_TCP_HEADER_INCOMPLETE",
    "IPV6_TCP_NO_ICME", "IPV6_TCP_SMALL_HOP_LIMIT", "IPV6_TCP_NEEDS_FRAGMENTATION",
    "IPV6_TCP_FLAGS", "IPV6_TCP_SEQ_EXCEEDS_RIGHT_EDGE", "IPV6_TCP_SMALL_DATA_OFFS",
    "IPV6_TCP_BAD_SACK", "IPV6_TCP_BIG_DATA_OFFS", "IPV6_TCP_SEQ_BEFORE_LEFT_EDGE",
    "IPV6_TCP_ACK_EXCEEDS_RIGHT_EDGE", "IPV6_TCP_ACK_BEFORE_LEFT_EDGE",
    "IPV6_UDP_HEADER_INCOMPLETE", "IPV6_UDP_NO_ICME", "IPV6_UDP_SMALL_HOP_LIMIT",
    "IPV6_UDP_NEEDS_FRAGMENTATION", "IPV6_WRONG_TARGET_MAC", "IPV6_HEADER_INCOMPLETE",
    "IPV6_UNKNOWN_PROTOCOL", "IPV6_INGRESS_VID_MISMATCH", "IPV6_INGRESS_VID_MISSING",
    "IPV6_DSCP_MARKING_MISMATCH", "IPV6_VLAN_MARKING_MISMATCH", "IPV6_DEPRECATED",
    "IPV6_GRE_NO_ICME", "IPV6_GRE_NEEDS_FRAGMENTATION", "IPV6_GRE_SMALL_HOP_LIMIT",
    "IPV6_DESTROY", "IPV6_ICMP_IPV6_UDPLITE_HEADER_INCOMPLETE", "IPV6_UDPLITE_HEADER_INCOMPLETE",
    "IPV6_UDPLITE_NO_ICME", "IPV6_UDPLITE_SMALL_HOP_LIMIT", "IPV6_UDPLITE_NEEDS_FRAGMENTATION",
    "IPV6_MC_UDP_NO_ICME", "IPV6_MC_MEM_ALLOC_FAILURE", "IPV6_MC_UPDATE_FAILURE",
    "IPV6_MC_PBUF_ALLOC_FAILURE", "IPV6_ESP_HEADER_INCOMPLETE", "IPV6_ESP_NO_ICME",
    "IPV6_ESP_IP_FRAGMENT", "IPV6_ESP_SMALL_HOP_LIMIT", "IPV6_ESP_NEEDS_FRAGMENTATION"]

def nssStatsStrIfExceptionPppoe : List String := [
    "PPPOE_WRONG_VERSION_OR_TYPE", "PPPOE_WRONG_CODE", "PPPOE_HEADER_INCOMPLETE",
    "PPPOE_UNSUPPORTED_PPP_PROTOCOL", "PPPOE_DEPRECATED"]

def nssStatsStrWifi : List String := [
    "RX_PACKETS", "RX_DROPPED", "TX_PACKETS", "TX_DROPPED", "TX_TRANSMIT_COMPLETED",
    "TX_MGMT_RECEIVED", "TX_MGMT_TRANSMITTED", "TX_MGMT_DROPPED", "TX_MGMT_COMPLETED",
    "TX_INV_PEER_ENQ_CNT", "RX_INV_PEER_RCV_CNT", "RX_PN_CHECK_FAILED", "RX_PKTS_DELIVERD",
    "RX_BYTES_DELIVERED", "TX_BYTES_COMPLETED", "RX_DELIVER_UNALIGNED_DROP_CNT",
    "TIDQ_ENQUEUE_CNT_0", "TIDQ_ENQUEUE_CNT_1", "TIDQ_ENQUEUE_CNT_2", "TIDQ_ENQUEUE_CNT_3",
    "TIDQ_ENQUEUE_CNT_4", "TIDQ_ENQUEUE_CNT_5", "TIDQ_ENQUEUE_CNT_6", "TIDQ_ENQUEUE_CNT_7",
    "TIDQ_DEQUEUE_CNT_0", "TIDQ_DEQUEUE_CNT_1", "TIDQ_DEQUEUE_CNT_2", "TIDQ_DEQUEUE_CNT_3",
    "TIDQ_DEQUEUE_CNT_4", "TIDQ_DEQUEUE_CNT_5", "TIDQ_DEQUEUE_CNT_6", "TIDQ_DEQUEUE_CNT_7",
    "TIDQ_ENQUEUE_FAIL_CNT_0", "TIDQ_ENQUEUE_FAIL_CNT_1", "TIDQ_ENQUEUE_FAIL_CNT_2",
    "TIDQ_ENQUEUE_FAIL_CNT_3", "TIDQ_ENQUEUE_FAIL_CNT_4", "TIDQ_ENQUEUE_FAIL_CNT_5",
    "TIDQ_ENQUEUE_FAIL_CNT_6", "TIDQ_ENQUEUE_FAIL_CNT_7", "TIDQ_TTL_EXPIRE_CNT_0",
    "TIDQ_TTL_EXPIRE_CNT_1", "TIDQ_TTL_EXPIRE_CNT_2", "TIDQ_TTL_EXPIRE_CNT_3",
    "TIDQ_TTL_EXPIRE_CNT_4", "TIDQ_TTL_EXPIRE_CNT_5", "TIDQ_TTL_EXPIRE_CNT_6",
    "TIDQ_TTL_EXPIRE_CNT_7", "TIDQ_DEQUEUE_REQ_CNT_0", "TIDQ_DEQUEUE_REQ_CNT_1",
    "TIDQ_DEQUEUE_REQ_CNT_2", "TIDQ_DEQUEUE_REQ_CNT_3", "TIDQ_DEQUEUE_REQ_CNT_4",
    "TIDQ_DEQUEUE_REQ_CNT_5", "TIDQ_DEQUEUE_REQ_CNT_6", "TIDQ_DEQUEUE_REQ_CNT_7",
    "TOTAL_TIDQ_DEPTH", "RX_HTT_FETCH_CNT", "TOTAL_TIDQ_BYPASS_CNT", "GLOBAL_Q_FULL_CNT",
    "TIDQ_FULL_CNT"]

def nssStatsStrPortid : List String := [
    "RX_INVALID_HEADER"]

/-- What is copied at one time, to the places of the shadow buffer from `first` on, and
    the lines that are printed of it. -/
structure Section where
  first : ℕ
  lines : List Row

/-- A reader: the lines its buffer is made for, the places of its shadow buffer, and what it
    prints. -/
structure File where
  maxOutputLines : ℕ
  shadow : ℕ
  sections : List Section

def text (t : String) : Row := .text t.toList

/-- `"%s = %llu\n"`. -/
def row (name : String) (k : Counter) : Row := .row (name.toList ++ " = ".toList) k

/-- The loop over `max` counters from `first` on, with their names. A name that is missing is
    printed as a null pointer. -/
def rows (bank : Bank) (first max : ℕ) (names : List String) : List Row :=
  (List.range max).map fun i => row (names.getD i "(null)") ⟨bank, first + i⟩

def nodeRows (bank : Bank) : List Row := rows bank 0 NSS_STATS_NODE_MAX nssStatsStrNode

def nodeSection (start : String) (bank : Bank) : Section :=
  ⟨0, [text start, text "common node stats:\n\n"] ++ nodeRows bank⟩

def nssStatsIpv4Read : File where
  maxOutputLines := (NSS_STATS_NODE_MAX + 2) + (NSS_STATS_IPV4_MAX + 3) +
    (NSS_EXCEPTION_EVENT_IPV4_MAX + 3) + 5
  shadow := NSS_EXCEPTION_EVENT_IPV4_MAX
  sections := [
    nodeSection "ipv4 stats start:\n\n" (.node NSS_IPV4_RX_INTERFACE),
    ⟨0, [text "\nipv4 node stats:\n\n"] ++ rows .ipv4 0 NSS_STATS_IPV4_MAX nssStatsStrIpv4⟩,
    ⟨0, [text "\nipv4 exception stats:\n\n"] ++
      rows .ifExceptionIpv4 0 NSS_EXCEPTION_EVENT_IPV4_MAX nssStatsStrIfExceptionIpv4 ++
      [text "\nipv4 stats end\n\n"]⟩]

def nssStatsIpv4ReasmRead : File where
  maxOutputLines := (NSS_STATS_NODE_MAX + 2) + (NSS_STATS_IPV4_REASM_MAX + 3) + 5
  shadow := NSS_STATS_IPV4_REASM_MAX
  sections := [
    nodeSection "ipv4 reasm stats start:\n\n" (.node NSS_IPV4_REASM_INTERFACE),
    ⟨0, [text "\nipv4 reasm node stats:\n\n"] ++
      rows .ipv4Reasm 0 NSS_STATS_IPV4_REASM_MAX nssStatsStrIpv4Reasm ++
      [text "\nipv4 reasm stats end\n\n"]⟩]

def nssStatsIpv6Read : File where
  maxOutputLines := (NSS_STATS_NODE_MAX + 2) + (NSS_STATS_IPV6_MAX + 3) +
    (NSS_EXCEPTION_EVENT_IPV6_MAX + 3) + 5
  shadow := NSS_EXCEPTION_EVENT_IPV6_MAX
  sections := [
    nodeSection "ipv6 stats start:\n\n" (.node NSS_IPV6_RX_INTERFACE),
    ⟨0, [text "\nipv6 node stats:\n\n"] ++ rows .ipv6 0 NSS_STATS_IPV6_MAX nssStatsStrIpv6⟩,
    ⟨0, [text "\nipv6 exception stats:\n\n"] ++
      rows .ifExceptionIpv6 0 NSS_EXCEPTION_EVENT_IPV6_MAX nssStatsStrIfExceptionIpv6 ++
      [text "\nipv6 stats end\n\n"]⟩]

def nssStatsIpv6ReasmRead : File where
  maxOutputLines := (NSS_STATS_NODE_MAX + 2) + (NSS_STATS_IPV6_REASM_MAX + 3) + 5
  shadow := NSS_STATS_IPV6_REASM_MAX
  sections := [
    nodeSection "ipv6 reasm stats start:\n\n" (.node NSS_IPV6_REASM_INTERFACE),
    ⟨0, [text "\nipv6 reasm node stats:\n\n"] ++
      rows .ipv6Reasm 0 NSS_STATS_IPV6_REASM_MAX nssStatsStrIpv6Reasm ++
      [text "\nipv6 reasm stats end\n\n"]⟩]

def nssStatsEthRxRead : File where
  maxOutputLines := (NSS_STATS_NODE_MAX + 2) + (NSS_STATS_ETH_RX_MAX + 3) +
    (NSS_EXCEPTION_EVENT_ETH_RX_MAX + 3) + 5
  shadow := 64
  sections := [
    nodeSection "eth_rx stats start:\n\n" (.node NSS_ETH_RX_INTERFACE),
    ⟨0, [text "\neth_rx node stats:\n\n"] ++
      rows .ethRx 0 NSS_STATS_ETH_RX_MAX nssStatsStrEthRx⟩,
    ⟨0, [text "\neth_rx exception stats:\n\n"] ++
      rows .ifExceptionEthRx 0 NSS_EXCEPTION_EVENT_ETH_RX_MAX nssStatsStrIfExceptionEthRx ++
      [text "\neth_rx stats end\n\n"]⟩]

/-- The counters of the first core. -/
def nssStatsN2hRead : File where
  maxOutputLines := (NSS_STATS_NODE_MAX + 2) + (NSS_STATS_N2H_MAX + 3) + 5
  shadow := NSS_STATS_N2H_MAX
  sections := [
    nodeSection "n2h stats start:\n\n" (.n2h 0),
    ⟨NSS_STATS_NODE_MAX, [text "\nn2h node stats:\n\n"] ++
      rows (.n2h 0) NSS_STATS_NODE_MAX (NSS_STATS_N2H_MAX - NSS_STATS_NODE_MAX) nssStatsStrN2h ++
      [text "\nn2h stats end\n\n"]⟩]

def nssStatsLsoRxRead : File where
  maxOutputLines := (NSS_STATS_NODE_MAX + 2) + (NSS_STATS_LSO_RX_MAX + 3) + 5
  shadow := NSS_STATS_LSO_RX_MAX
  sections := [
    nodeSection "lso_rx stats start:\n\n" (.node NSS_LSO_RX_INTERFACE),
    ⟨0, [text "\nlso_rx node stats:\n\n"] ++
      rows .lsoRx 0 NSS_STATS_LSO_RX_MAX nssStatsStrLsoRx ++
      [text "\nlso_rx stats end\n\n"]⟩]

/-- These counters are read one by one, without the lock. -/
def nssStatsDrvRead : File where
  maxOutputLines := NSS_STATS_DRV_MAX + 5
  shadow := NSS_STATS_DRV_MAX
  sections := [⟨0, [text "drv stats start:\n\n"]⟩] ++
    ((List.range NSS_STATS_DRV_MAX).map fun i =>
      ⟨i, [row (nssStatsStrDrv.getD i "(null)") ⟨.drv, i⟩]⟩) ++
    [⟨0, [text "\ndrv stats end\n\n"]⟩]

/-- The sessions of an interface are numbered from one. -/
def pppoeSession (interface session : ℕ) : List Row :=
  [.text (decimal session ++ ". Session\n".toList)] ++
    rows (.ifExceptionPppoe interface session) 0 NSS_PPPOE_EXCEPTION_EVENT_MAX
      nssStatsStrIfExceptionPppoe

/-- The exceptions of an interface are copied to an array of their own, which has room for
    them. -/
def nssStatsPppoeRead : File where
  maxOutputLines := (NSS_STATS_NODE_MAX + 2) + (NSS_STATS_PPPOE_MAX + 3) +
    ((NSS_MAX_PHYSICAL_INTERFACES * NSS_PPPOE_NUM_SESSION_PER_INTERFACE *
      (NSS_PPPOE_EXCEPTION_EVENT_MAX + 5)) + 3) + 5
  shadow := 64
  sections := [
    nodeSection "pppoe stats start:\n\n" (.node NSS_PPPOE_RX_INTERFACE),
    ⟨0, [text "\npppoe node stats:\n\n"] ++ rows .pppoe 0 NSS_STATS_PPPOE_MAX nssStatsStrPppoe ++
      [text "\nException PPPoE:\n\n"]⟩] ++
    ((List.range NSS_MAX_PHYSICAL_INTERFACES).map fun j =>
      ⟨0, [.text ("\nInterface ".toList ++ (decimal (j + 1) ++ ":\n\n".toList))] ++
        (List.range NSS_PPPOE_NUM_SESSION_PER_INTERFACE).flatMap fun k =>
          pppoeSession (j + 1) (k + 1)⟩) ++
    [⟨0, [text "\npppoe stats end\n\n"]⟩]

/-- The files that have a section for each of some interfaces. -/
def perInterface (start title stop : String) (bank : ℕ → Bank) (n max : ℕ)
    (names : List String) : List Section :=
  [⟨0, [text start]⟩] ++
    ((List.range n).map fun id =>
      ⟨0, [.text (title.toList ++ (decimal id ++ ['\n']))] ++ rows (bank id) 0 max names ++
        [text "\n"]⟩) ++
    [⟨0, [text stop]⟩]

def nssStatsGmacRead : File where
  maxOutputLines := ((NSS_STATS_GMAC_MAX + 2) * NSS_MAX_PHYSICAL_INTERFACES) + 5
  shadow := NSS_STATS_GMAC_MAX
  sections := perInterface "gmac stats start:\n\n" "GMAC ID: " "\ngmac stats end\n\n" .gmac
    NSS_MAX_PHYSICAL_INTERFACES NSS_STATS_GMAC_MAX nssStatsStrGmac

def nssStatsWifiRead : File where
  maxOutputLines := ((NSS_STATS_WIFI_MAX + 2) * NSS_MAX_WIFI_RADIO_INTERFACES) + 5
  shadow := NSS_STATS_WIFI_MAX
  sections := perInterface "wifi stats start:\n\n" "WIFI ID: " "\nwifi stats end\n\n" .wifi
    NSS_MAX_WIFI_RADIO_INTERFACES NSS_STATS_WIFI_MAX nssStatsStrWifi

def nssStatsSjackRead : File where
  maxOutputLines := NSS_STATS_NODE_MAX + 5
  shadow := NSS_STATS_NODE_MAX
  sections := [
    nodeSection "sjack stats start:\n\n" (.node NSS_SJACK_INTERFACE),
    ⟨0, [text "\nsjack stats end\n\n"]⟩]

def nssStatsPortidRead : File where
  maxOutputLines := NSS_STATS_NODE_MAX + NSS_STATS_PORTID_MAX + 5
  shadow := NSS_STATS_NODE_MAX
  sections := [
    nodeSection "portid stats start:\n\n" (.node NSS_PORTID_INTERFACE),
    ⟨0, [text "\nportid node stats:\n\n"] ++
      rows .portid 0 NSS_STATS_PORTID_MAX nssStatsStrPortid ++
      [text "\nportid stats end\n\n"]⟩]

inductive StatFile where
  | ipv4 | ipv4Reasm | ipv6 | ipv6Reasm | ethRx | n2h | lsoRx | drv | pppoe | gmac | wifi
  | sjack | portid
  deriving DecidableEq

def StatFile.file : StatFile → File
  | .ipv4 => nssStatsIpv4Read
  | .ipv4Reasm => nssStatsIpv4ReasmRead
  | .ipv6 => nssStatsIpv6Read
  | .ipv6Reasm => nssStatsIpv6ReasmRead
  | .ethRx => nssStatsEthRxRead
  | .n2h => nssStatsN2hRead
  | .lsoRx => nssStatsLsoRxRead
  | .drv => nssStatsDrvRead
  | .pppoe => nssStatsPppoeRead
  | .gmac => nssStatsGmacRead
  | .wifi => nssStatsWifiRead
  | .sjack => nssStatsSjackRead
  | .portid => nssStatsPortidRead

namespace Section
variable (s : Section) (m : Memory)

def counters : List Counter := s.lines.flatMap fun
  | .text _ => []
  | .row _ k => [k]

def pieces : List Text := s.lines.map (Line.print number '\n' m)

/-- The counters that are shown, with their values. -/
def values : List (Counter × BitVec 64) := s.lines.flatMap (Line.shown m)

end Section

namespace File
variable (f : File)

/-- The pieces that are printed where the sections are copied from these memories. -/
def pieces (ms : List Memory) : List Text :=
  (f.sections.zip ms).flatMap fun p => p.1.pieces p.2

def values (ms : List Memory) : List (Counter × BitVec 64) :=
  (f.sections.zip ms).flatMap fun p => p.1.values p.2

def sizeAl : ℕ := NSS_STATS_MAX_STR_LENGTH * f.maxOutputLines

def lbuf (ms : List Memory) : Text := printAll f.sizeAl (f.pieces ms)

def lines : List Row := f.sections.flatMap (·.lines)

/-- Every copy stays within the shadow buffer. -/
def CopiesFit : Prop := ∀ s ∈ f.sections, s.first + s.counters.length ≤ f.shadow

instance : Decidable f.CopiesFit := List.decidableBAll _ _

end File

/-- What a reader has printed in the end, unless it leaves its shadow buffer. -/
def File.printed (f : File) (ms : List Memory) : Option Text :=
  if f.CopiesFit then some (f.lbuf ms) else none

/-- A call of a reader: what is asked for, whether there is memory for its two buffers, and
    what its sections are copied from. -/
structure Call where
  request : Request
  lbuf : Bool
  statsShadow : Bool
  copies : List Memory

def Call.Granted (c : Call) : Prop := c.lbuf = true ∧ c.statsShadow = true

/-- Without a buffer a reader returns 0, and otherwise what `simple_read_from_buffer` does. -/
def File.read (f : File) (c : Call) (pos : ℕ) : Option (Option Text × ℕ) :=
  if c.lbuf = false then some (some [], pos)
  else if c.statsShadow = false then some (some [], pos)
  else (f.printed c.copies).map (readAt c.request pos)

def File.call (f : File) (s : Reader Char) (c : Call) : Option (Reader Char) :=
  (f.read c s.pos).map fun r => ⟨r.2, s.got ++ r.1.getD []⟩

/-- Calls of a reader by one caller, each of which goes on where the one before it ended. -/
def File.calls (f : File) (cs : List Call) : Option (Reader Char) :=
  cs.foldlM f.call Reader.start

section Width
variable {ls ls' : List Row} {t : String} {k : Counter} {names : List String}

theorem length_le_bytes (t : String) : t.toList.length ≤ t.utf8ByteSize := by
  have hlen : ∀ cs : List Char, cs.length ≤ String.utf8Len cs := by
    intro cs
    induction cs with
    | nil => exact Nat.zero_le _
    | cons c cs ih =>
      have hpos := c.utf8Size_pos
      rw [List.length_cons, String.utf8Len_cons]
      omega
  calc t.toList.length ≤ String.utf8Len t.toList := hlen _
    _ = (String.ofList t.toList).utf8ByteSize := (String.utf8ByteSize_ofList _).symm
    _ = t.utf8ByteSize := by rw [String.ofList_toList]

theorem number_length (x : BitVec 64) : (number x).length ≤ 20 := by
  unfold number
  rw [Nat.length_toDigits_le_iff (by decide) (by decide)]
  exact Nat.lt_trans x.isLt (by decide)

/-- No line takes more than its share of the buffer. -/
def Narrow (ls : List Row) : Prop := ∀ l ∈ ls, l.bound 20 ≤ NSS_STATS_MAX_STR_LENGTH

theorem Narrow.append (h : Narrow ls) (h' : Narrow ls') : Narrow (ls ++ ls') := by
  intro l hl
  rcases List.mem_append.mp hl with hl | hl
  · exact h l hl
  · exact h' l hl

theorem Narrow.loop {n : ℕ} {f : ℕ → List Row} (h : ∀ i, i < n → Narrow (f i)) :
    Narrow ((List.range n).flatMap f) := by
  intro l hl
  obtain ⟨i, hi, hl⟩ := List.mem_flatMap.mp hl
  exact h i (List.mem_range.mp hi) l hl

theorem narrow_one {l : Row} (h : l.bound 20 ≤ NSS_STATS_MAX_STR_LENGTH) : Narrow [l] := by
  intro l' hl'
  rw [List.mem_singleton.mp hl']
  exact h

theorem narrow_text (h : t.utf8ByteSize ≤ NSS_STATS_MAX_STR_LENGTH) : Narrow [text t] :=
  narrow_one (Nat.le_trans (length_le_bytes t) h)

/-- The names leave room for a number. -/
def NamesFit (names : List String) : Prop := ∀ name ∈ names, name.utf8ByteSize ≤ 72

instance : Decidable (NamesFit names) := List.decidableBAll _ _

theorem narrow_row (h : t.utf8ByteSize ≤ 72) : Narrow [row t k] := by
  apply narrow_one
  have hname := length_le_bytes t
  change (t.toList ++ " = ".toList).length + 21 ≤ 96
  rw [List.length_append]
  change t.toList.length + 3 + 21 ≤ 96
  omega

theorem NamesFit.name (h : NamesFit names) (i : ℕ) : (names.getD i "(null)").utf8ByteSize ≤ 72 := by
  rw [List.getD_eq_getElem?_getD]
  cases hi : names[i]? with
  | none => exact Nat.le_of_ble_eq_true rfl
  | some name => exact h name (List.mem_of_getElem? hi)

theorem narrow_rows (h : NamesFit names) (bank : Bank) (first max : ℕ) :
    Narrow (rows bank first max names) := by
  intro l hl
  obtain ⟨i, -, rfl⟩ := List.mem_map.mp hl
  exact narrow_row (h.name i) _ (List.mem_singleton_self _)

end Width

section Files

/-- The tables of names, for one evaluation of all of them. -/
def nameTables : List (List String) := [nssStatsStrNode, nssStatsStrIpv4, nssStatsStrIpv4Reasm,
  nssStatsStrIpv6, nssStatsStrIpv6Reasm, nssStatsStrN2h, nssStatsStrLsoRx, nssStatsStrDrv,
  nssStatsStrPppoe, nssStatsStrGmac, nssStatsStrEthRx, nssStatsStrIfExceptionEthRx,
  nssStatsStrIfExceptionIpv4, nssStatsStrIfExceptionIpv6, nssStatsStrIfExceptionPppoe,
  nssStatsStrWifi, nssStatsStrPortid]

theorem names_fit : ∀ names ∈ nameTables, NamesFit names := by decide +kernel

theorem NamesFit.of_mem {names : List String} (h : names ∈ nameTables) : NamesFit names :=
  names_fit names h

theorem nodeSection_narrow {start : String} (h : start.utf8ByteSize ≤ NSS_STATS_MAX_STR_LENGTH)
    (bank : Bank) : Narrow (nodeSection start bank).lines := by
  have hhead : Narrow ([text start] ++ [text "common node stats:\n\n"]) :=
    (narrow_text h).append (narrow_text (by decide))
  exact hhead.append (narrow_rows (.of_mem (by simp [nameTables])) _ _ _)

theorem narrow_titled {title : String} {names : List String}
    (htitle : title.utf8ByteSize ≤ NSS_STATS_MAX_STR_LENGTH) (hnames : NamesFit names)
    (bank : Bank) (first max : ℕ) : Narrow ([text title] ++ rows bank first max names) :=
  (narrow_text htitle).append (narrow_rows hnames _ _ _)

def File.Narrow (f : File) : Prop := ∀ s ∈ f.sections, StatisticsText.Narrow s.lines

theorem narrow_nil : ∀ s ∈ ([] : List Section), Narrow s.lines := nofun

theorem narrow_cons {s : Section} {ss : List Section} (h : Narrow s.lines)
    (hss : ∀ s ∈ ss, Narrow s.lines) : ∀ s' ∈ s :: ss, Narrow s'.lines := by
  intro s' hs'
  rcases List.mem_cons.mp hs' with rfl | hs'
  · exact h
  · exact hss s' hs'

theorem narrow_sections {n : ℕ} {before after : List Section} {f : ℕ → Section}
    (hbefore : ∀ s ∈ before, Narrow s.lines) (h : ∀ i < n, Narrow (f i).lines)
    (hafter : ∀ s ∈ after, Narrow s.lines) :
    ∀ s ∈ before ++ (List.range n).map f ++ after, Narrow s.lines := by
  intro s hs
  rcases List.mem_append.mp hs with hs | hs
  · rcases List.mem_append.mp hs with hs | hs
    · exact hbefore s hs
    · obtain ⟨i, hi, rfl⟩ := List.mem_map.mp hs
      exact h i (List.mem_range.mp hi)
  · exact hafter s hs

theorem ipv4_narrow : nssStatsIpv4Read.Narrow := by
  refine narrow_cons (nodeSection_narrow (by decide) _) (narrow_cons ?_
    (narrow_cons (Narrow.append ?_ ?_) narrow_nil))
  · exact narrow_titled (by decide) (.of_mem (by simp [nameTables])) _ _ _
  · exact narrow_titled (by decide) (.of_mem (by simp [nameTables])) _ _ _
  · exact narrow_text (by decide)

theorem ipv6_narrow : nssStatsIpv6Read.Narrow := by
  refine narrow_cons (nodeSection_narrow (by decide) _) (narrow_cons ?_
    (narrow_cons (Narrow.append ?_ ?_) narrow_nil))
  · exact narrow_titled (by decide) (.of_mem (by simp [nameTables])) _ _ _
  · exact narrow_titled (by decide) (.of_mem (by simp [nameTables])) _ _ _
  · exact narrow_text (by decide)

theorem ethRx_narrow : nssStatsEthRxRead.Narrow := by
  refine narrow_cons (nodeSection_narrow (by decide) _) (narrow_cons ?_
    (narrow_cons (Narrow.append ?_ ?_) narrow_nil))
  · exact narrow_titled (by decide) (.of_mem (by simp [nameTables])) _ _ _
  · exact narrow_titled (by decide) (.of_mem (by simp [nameTables])) _ _ _
  · exact narrow_text (by decide)

theorem twoSections_narrow {start title stop : String} {names : List String} {node bank : Bank}
    {first first' max : ℕ} (hstart : start.utf8ByteSize ≤ NSS_STATS_MAX_STR_LENGTH)
    (htitle : title.utf8ByteSize ≤ NSS_STATS_MAX_STR_LENGTH) (hnames : NamesFit names)
    (hstop : stop.utf8ByteSize ≤ NSS_STATS_MAX_STR_LENGTH) :
    ∀ s ∈ [nodeSection start node, ⟨first, [text title] ++ rows bank first' max names ++ [text stop]⟩],
      Narrow s.lines :=
  narrow_cons (nodeSection_narrow hstart _) (narrow_cons
    ((narrow_titled htitle hnames _ _ _).append (narrow_text hstop)) narrow_nil)

theorem drv_narrow : nssStatsDrvRead.Narrow := by
  have hnames : NamesFit nssStatsStrDrv := .of_mem (by simp [nameTables])
  refine narrow_sections (narrow_cons (narrow_text (by decide)) narrow_nil) ?_
    (narrow_cons (narrow_text (by decide)) narrow_nil)
  exact fun i _ => narrow_row (hnames.name i)

theorem decimal_length {n : ℕ} (h : n ≤ 4) : (decimal n).length ≤ 1 := by
  unfold decimal
  rw [if_neg (by omega), Int.natAbs_natCast, Nat.length_toDigits_le_iff (by decide) (by decide)]
  omega

theorem pppoe_narrow : nssStatsPppoeRead.Narrow := by
  have hnames : NamesFit nssStatsStrIfExceptionPppoe := .of_mem (by simp [nameTables])
  refine narrow_sections (narrow_cons (nodeSection_narrow (by decide) _) (narrow_cons
    ((narrow_titled (by decide) (.of_mem (by simp [nameTables])) _ _ _).append
      (narrow_text (by decide))) narrow_nil)) ?_
    (narrow_cons (narrow_text (by decide)) narrow_nil)
  intro j hj
  refine Narrow.append (narrow_one ?_) (Narrow.loop fun k hk => ?_)
  · have hlen := decimal_length (n := j + 1) hj
    change ("\nInterface ".toList ++ (decimal (j + 1 : ℕ) ++ ":\n\n".toList)).length ≤ 96
    rw [List.length_append, List.length_append]
    change 11 + ((decimal (j + 1 : ℕ)).length + 3) ≤ 96
    omega
  · refine Narrow.append (narrow_one ?_) (narrow_rows hnames _ _ _)
    have hlen := decimal_length (n := k + 1) hk
    change (decimal (k + 1 : ℕ) ++ ". Session\n".toList).length ≤ 96
    rw [List.length_append]
    change (decimal (k + 1 : ℕ)).length + 10 ≤ 96
    omega

theorem perInterface_narrow {start title stop : String} {bank : ℕ → Bank} {n max : ℕ}
    {names : List String} (hstart : start.utf8ByteSize ≤ NSS_STATS_MAX_STR_LENGTH)
    (htitle : title.utf8ByteSize ≤ 72) (hstop : stop.utf8ByteSize ≤ NSS_STATS_MAX_STR_LENGTH)
    (hnames : NamesFit names) (hn : n ≤ 4) :
    ∀ s ∈ perInterface start title stop bank n max names, Narrow s.lines := by
  refine narrow_sections (narrow_cons (narrow_text hstart) narrow_nil) (fun id hid => ?_)
    (narrow_cons (narrow_text hstop) narrow_nil)
  refine Narrow.append (Narrow.append (narrow_one ?_) (narrow_rows hnames _ _ _))
    (narrow_text (by decide))
  have hlen := decimal_length (n := id) (by omega)
  have hname := length_le_bytes title
  change (title.toList ++ (decimal id ++ ['\n'])).length ≤ 96
  rw [List.length_append, List.length_append, List.length_singleton]
  omega

theorem file_narrow (f : StatFile) : f.file.Narrow := by
  cases f with
  | ipv4 => exact ipv4_narrow
  | ipv6 => exact ipv6_narrow
  | ethRx => exact ethRx_narrow
  | drv => exact drv_narrow
  | pppoe => exact pppoe_narrow
  | gmac | wifi =>
    exact perInterface_narrow (by decide) (by decide) (by decide)
      (.of_mem (by simp [nameTables])) (by decide)
  | ipv4Reasm | ipv6Reasm | n2h | lsoRx | portid =>
    exact twoSections_narrow (by decide) (by decide) (.of_mem (by simp [nameTables]))
      (by decide)
  | sjack =>
    exact narrow_cons (nodeSection_narrow (by decide) _)
      (narrow_cons (narrow_text (by decide)) narrow_nil)

theorem file_sizes (f : StatFile) : f.file.lines.length < f.file.maxOutputLines ∧
    (f.file.CopiesFit ↔ f ≠ .ipv4Reasm ∧ f ≠ .ipv6Reasm ∧ f ≠ .lsoRx) := by
  cases f <;> decide +kernel

theorem file_lines (f : StatFile) : f.file.lines.length < f.file.maxOutputLines :=
  (file_sizes f).1

theorem copiesFit_iff (f : StatFile) :
    f.file.CopiesFit ↔ f ≠ .ipv4Reasm ∧ f ≠ .ipv6Reasm ∧ f ≠ .lsoRx :=
  (file_sizes f).2

end Files

section Whole
variable {f : StatFile} {ms ms' : List Memory}

def parse (digits : Text) : BitVec 64 := BitVec.ofNat 64 (Nat.ofDigitChars 10 digits 0)

theorem parse_number (x : BitVec 64) : parse (number x) = x := by
  unfold parse number
  rw [Nat.ofDigitChars_ten_toDigits, BitVec.ofNat_toNat, BitVec.setWidth_eq]

theorem newline_not_mem (x : BitVec 64) : '\n' ∉ number x := by
  intro h
  have hdigit := Nat.isDigit_of_mem_toDigits (by decide) (by decide) h
  revert hdigit
  decide

theorem pieces_narrow (f : StatFile) (ms : List Memory) :
    ∀ p ∈ f.file.pieces ms, p.length ≤ NSS_STATS_MAX_STR_LENGTH := by
  intro p hp
  obtain ⟨⟨s, m⟩, hs, hp⟩ := List.mem_flatMap.mp hp
  obtain ⟨l, hl, rfl⟩ := List.mem_map.mp hp
  have hbound : (l.print number '\n' m).length ≤ l.bound 20 := l.length_print number_length
  exact Nat.le_trans hbound (file_narrow f s (List.of_mem_zip hs).1 l hl)

theorem pieces_length (ss : List Section) (ms : List Memory) :
    ((ss.zip ms).flatMap fun p => p.1.pieces p.2).length ≤ (ss.flatMap (·.lines)).length := by
  induction ss generalizing ms with
  | nil => exact Nat.zero_le _
  | cons s ss ih =>
    cases ms with
    | nil => exact Nat.zero_le _
    | cons m ms =>
      have hrest := ih ms
      simp only [List.zip_cons_cons, List.flatMap_cons, List.length_append, Section.pieces,
        List.length_map] at hrest ⊢
      omega

theorem lbuf_whole (f : StatFile) (ms : List Memory) :
    f.file.lbuf ms = (f.file.pieces ms).flatten := by
  apply printAll_whole
  calc (f.file.pieces ms).flatten.length
      ≤ NSS_STATS_MAX_STR_LENGTH * (f.file.pieces ms).length :=
      length_flatten_le (pieces_narrow f ms)
    _ ≤ NSS_STATS_MAX_STR_LENGTH * f.file.lines.length :=
      Nat.mul_le_mul_left _ (pieces_length _ _)
    _ < NSS_STATS_MAX_STR_LENGTH * f.file.maxOutputLines :=
      Nat.mul_lt_mul_of_pos_left (file_lines f) (by decide)

theorem scan_sections (ss : List Section) (ms : List Memory) (h : ms.length = ss.length) :
    scan parse '\n' (ss.flatMap (·.lines)) ((ss.zip ms).flatMap fun p => p.1.pieces p.2).flatten =
      some ((ss.zip ms).flatMap fun p => p.1.values p.2, []) := by
  induction ss generalizing ms with
  | nil => rfl
  | cons s ss ih =>
    cases ms with
    | nil => cases h
    | cons m ms =>
      simp only [List.zip_cons_cons, List.flatMap_cons, List.flatten_append]
      exact scan_append (scan_print parse_number newline_not_mem s.lines _)
        (ih ms (Nat.succ.inj h))

/-- What a reader prints is read back, every counter with the value it was copied with. -/
theorem lbuf_scan (f : StatFile) (h : ms.length = f.file.sections.length) :
    scan parse '\n' f.file.lines (f.file.lbuf ms) = some (f.file.values ms, []) := by
  rw [lbuf_whole]
  exact scan_sections _ ms h

theorem pieces_congr (ss : List Section) (ms ms' : List Memory) (h : ms.length = ss.length)
    (h' : ms'.length = ss.length)
    (hvalues : ((ss.zip ms).flatMap fun p => p.1.values p.2) =
      (ss.zip ms').flatMap fun p => p.1.values p.2) :
    ((ss.zip ms).flatMap fun p => p.1.pieces p.2) =
      (ss.zip ms').flatMap fun p => p.1.pieces p.2 := by
  induction ss generalizing ms ms' with
  | nil => rfl
  | cons s ss ih =>
    cases ms with
    | nil => cases h
    | cons m ms =>
      cases ms' with
      | nil => cases h'
      | cons m' ms' =>
        simp only [List.zip_cons_cons, List.flatMap_cons] at hvalues ⊢
        obtain ⟨hhead, hrest⟩ := List.append_inj hvalues (length_shown m' s.lines)
        rw [ih ms ms' (Nat.succ.inj h) (Nat.succ.inj h') hrest]
        exact congrArg (· ++ _) (print_congr hhead)

/-- The sections are copied from these memories, and show these values. -/
def Shows (f : StatFile) (ms : List Memory) (vs : List (Counter × BitVec 64)) : Prop :=
  ms.length = f.file.sections.length ∧ f.file.values ms = vs

variable {vs : List (Counter × BitVec 64)}

theorem Shows.lbuf (h : Shows f ms vs) (h' : Shows f ms' vs) : f.file.lbuf ms = f.file.lbuf ms' := by
  have hpieces := pieces_congr _ ms ms' h.1 h'.1 (h.2.trans h'.2.symm)
  exact congrArg (printAll f.file.sizeAl) hpieces

theorem read_refused {c : Call} (hc : ¬ c.Granted) (pos : ℕ) :
    f.file.read c pos = some (some [], pos) := by
  unfold File.read
  split
  · rfl
  · rename_i hlbuf
    split
    · rfl
    · rename_i hshadow
      exact absurd ⟨Bool.eq_true_of_not_eq_false hlbuf, Bool.eq_true_of_not_eq_false hshadow⟩ hc

theorem read_granted {c : Call} (hc : c.Granted) (pos : ℕ) :
    f.file.read c pos = (f.file.printed c.copies).map (readAt c.request pos) := by
  unfold File.read
  rw [if_neg (by rw [hc.1]; nofun), if_neg (by rw [hc.2]; nofun)]

theorem call_refused {c : Call} (hc : ¬ c.Granted) (s : Reader Char) : f.file.call s c = some s := by
  unfold File.call
  rw [read_refused hc]
  simp

theorem calls_none {cs : List Call} {s : Reader Char} (h : ¬ f.file.CopiesFit) :
    cs.foldlM f.file.call s = none ↔ ∃ c ∈ cs, c.Granted := by
  induction cs generalizing s with
  | nil => simp
  | cons c cs ih =>
    rw [List.foldlM_cons]
    by_cases hc : c.Granted
    · have hcall : f.file.call s c = none := by
        unfold File.call
        rw [read_granted hc, File.printed, if_neg h]
        rfl
      simp [hcall, hc]
    · rw [call_refused hc]
      simp [ih, hc]

theorem calls_back (h : f.file.CopiesFit) (cs : List Call) (s : Reader Char) :
    cs.foldlM f.file.call s ≠ none := by
  induction cs generalizing s with
  | nil => nofun
  | cons c cs ih =>
    have hcall : ∃ s', f.file.call s c = some s' := by
      unfold File.call
      by_cases hc : c.Granted
      · rw [read_granted hc, File.printed, if_pos h]
        exact ⟨_, rfl⟩
      · rw [read_refused hc]
        exact ⟨_, rfl⟩
    obtain ⟨s', hs'⟩ := hcall
    rw [List.foldlM_cons, hs']
    exact ih s'

theorem calls_some {cs : List Call} {s : Reader Char} {t : Text} (h : f.file.CopiesFit)
    (hsame : ∀ c ∈ cs, c.Granted → f.file.lbuf c.copies = t) (hs : s.Has t) :
    ∃ s', cs.foldlM f.file.call s = some s' ∧ s'.Has t := by
  induction cs generalizing s with
  | nil => exact ⟨s, rfl, hs⟩
  | cons c cs ih =>
    have hrest := fun c' hc' => hsame c' (List.mem_cons_of_mem _ hc')
    rw [List.foldlM_cons]
    by_cases hc : c.Granted
    · have hcall : f.file.call s c = some (s.read (c.request, t)) := by
        unfold File.call
        rw [read_granted hc, File.printed, if_pos h, hsame c List.mem_cons_self hc]
        rfl
      rw [hcall]
      exact ih hrest (hs.read c.request)
    · rw [call_refused hc]
      exact ih hrest hs

end Whole

/-- The counters of the jack in its five places, and the two sections of its file. -/
def jackMemory : Memory := fun k => BitVec.ofNat 64 (100 * k.index + 7)

def jackCopies : List Memory := [jackMemory, jackMemory]

/-- Two parts of the text, with a call between them that has no shadow buffer. -/
def jackCalls : List Call :=
  [⟨⟨60, 0⟩, true, true, jackCopies⟩, ⟨⟨60, 0⟩, true, false, []⟩, ⟨⟨500, 3⟩, true, true, jackCopies⟩,
    ⟨⟨500, 0⟩, true, true, jackCopies⟩]

def lastCall : Call := ⟨⟨60, 0⟩, true, true, jackCopies⟩

theorem jackCalls_end : ((StatFile.sjack.file.calls jackCalls).filter fun s =>
    decide (StatFile.sjack.file.read lastCall s.pos = some (some [], s.pos))).isSome = true := by
  decide +kernel

end NssDrv.StatisticsText

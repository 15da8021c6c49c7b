set_option autoImplicit false

/-!
# The interface between the host and the NSS

Buffer types, descriptor flags, descriptors and interrupt causes of
`nss_hlos_if.h`, `nss_core.h` and `nss_regs.h`.
-/
namespace NssDrv.HlosInterface

abbrev U8 := BitVec 8
abbrev U16 := BitVec 16
abbrev U32 := BitVec 32

def H2N_BUFFER_EMPTY : U8 := 0
def H2N_BUFFER_PACKET : U8 := 2
def H2N_BUFFER_CTRL : U8 := 4
def H2N_BUFFER_CRYPTO_REQ : U8 := 7
def H2N_BUFFER_SHAPER_BOUNCE_INTERFACE : U8 := 9
def H2N_BUFFER_SHAPER_BOUNCE_BRIDGE : U8 := 10

def H2N_BIT_FLAG_GEN_IP_TRANSPORT_CHECKSUM : U16 := 0x0002
def H2N_BIT_FLAG_FIRST_SEGMENT : U16 := 0x0004
def H2N_BIT_FLAG_LAST_SEGMENT : U16 := 0x0008
def H2N_BIT_FLAG_GEN_IP_TRANSPORT_CHECKSUM_NONE : U16 := 0x0010
def H2N_BIT_FLAG_TX_TS_REQUIRED : U16 := 0x0040
def H2N_BIT_FLAG_DISCARD : U16 := 0x0080
def H2N_BIT_FLAG_SEGMENTATION_ENABLE : U16 := 0x0100
def H2N_BIT_FLAG_VIRTUAL_BUFFER : U16 := 0x2000
def H2N_BIT_FLAG_BUFFER_REUSE : U16 := 0x8000

structure H2nDescriptor where
  opaqueWord : U32
  buffer : U32
  bufferLen : U16
  payloadLen : U16
  mss : U16
  payloadOffs : U16
  interfaceNum : U16
  bufferType : U8
  bitFlags : U16
  qosTag : U32
  deriving DecidableEq, Repr

def N2H_BUFFER_EMPTY : U8 := 1
def N2H_BUFFER_PACKET : U8 := 3
def N2H_BUFFER_STATUS : U8 := 6
def N2H_BUFFER_CRYPTO_RESP : U8 := 8
def N2H_BUFFER_PACKET_VIRTUAL : U8 := 10
def N2H_BUFFER_SHAPER_BOUNCED_INTERFACE : U8 := 11
def N2H_BUFFER_SHAPER_BOUNCED_BRIDGE : U8 := 12
def N2H_BUFFER_PACKET_EXT : U8 := 13

def N2H_BIT_FLAG_FIRST_SEGMENT : U16 := 0x0004
def N2H_BIT_FLAG_LAST_SEGMENT : U16 := 0x0008

structure N2hDescriptor where
  opaqueWord : U32
  buffer : U32
  payloadLen : U16
  payloadOffs : U16
  interfaceNum : U16
  bufferType : U8
  bitFlags : U16
  deriving DecidableEq, Repr

def NSS_IF_EMPTY_BUFFER_QUEUE : Nat := 0
def NSS_IF_DATA_QUEUE_0 : Nat := 1
def NSS_IF_DATA_QUEUE_1 : Nat := 2
def NSS_IF_CMD_QUEUE : Nat := 1

def NSS_REGS_N2H_INTR_STATUS_EMPTY_BUFFER_QUEUE : U32 := 1 <<< 0
def NSS_REGS_N2H_INTR_STATUS_DATA_COMMAND_QUEUE : U32 := 1 <<< 1
def NSS_REGS_N2H_INTR_STATUS_DATA_QUEUE_1 : U32 := 1 <<< 2
def NSS_REGS_N2H_INTR_STATUS_EMPTY_BUFFERS_SOS : U32 := 1 <<< 10
def NSS_REGS_N2H_INTR_STATUS_TX_UNBLOCKED : U32 := 1 <<< 11
def NSS_REGS_N2H_INTR_STATUS_COREDUMP_COMPLETE_1 : U32 := 1 <<< 13
def NSS_REGS_N2H_INTR_STATUS_COREDUMP_COMPLETE_0 : U32 := 1 <<< 14

def NSS_REGS_H2N_INTR_STATUS_EMPTY_BUFFER_QUEUE : U32 := 1 <<< 0
def NSS_REGS_H2N_INTR_STATUS_DATA_COMMAND_QUEUE : U32 := 1 <<< 1

def NSS_HAL_SUPPORTED_INTERRUPTS : U32 :=
  NSS_REGS_N2H_INTR_STATUS_EMPTY_BUFFER_QUEUE ||| NSS_REGS_N2H_INTR_STATUS_DATA_COMMAND_QUEUE |||
    NSS_REGS_N2H_INTR_STATUS_DATA_QUEUE_1 ||| NSS_REGS_N2H_INTR_STATUS_EMPTY_BUFFERS_SOS |||
    NSS_REGS_N2H_INTR_STATUS_TX_UNBLOCKED ||| NSS_REGS_N2H_INTR_STATUS_COREDUMP_COMPLETE_0 |||
    NSS_REGS_N2H_INTR_STATUS_COREDUMP_COMPLETE_1

def NSS_MAX_PHYSICAL_INTERFACES : Nat := 4
def NSS_MAX_VIRTUAL_INTERFACES : Nat := 16
def NSS_MAX_TUNNEL_INTERFACES : Nat := 4
def NSS_MAX_DYNAMIC_INTERFACES : Nat := 64
def NSS_MAX_SPECIAL_INTERFACES : Nat := 40
def NSS_VIRTUAL_IF_START : Nat := NSS_MAX_PHYSICAL_INTERFACES
def NSS_TUNNEL_IF_START : Nat := NSS_VIRTUAL_IF_START + NSS_MAX_VIRTUAL_INTERFACES
def NSS_DYNAMIC_IF_START : Nat := NSS_TUNNEL_IF_START + NSS_MAX_TUNNEL_INTERFACES
def NSS_MAX_NET_INTERFACES : Nat := NSS_MAX_PHYSICAL_INTERFACES + NSS_MAX_VIRTUAL_INTERFACES +
  NSS_MAX_TUNNEL_INTERFACES + NSS_MAX_DYNAMIC_INTERFACES + NSS_MAX_SPECIAL_INTERFACES

/-- `nss_top->stats_drv[]`, as far as the ring code counts. -/
inductive DrvStat where
  | nbufAllocFails | txQueueFull0 | txQueueFull1 | txEmpty | txPacket | txCmdReq | txCryptoReq
  | txBufferReuse | rxEmpty | rxPacket | rxStatus | rxCryptoResp | rxVirtual | txSimple
  | txNrFrags | txFraglist | rxSimple | rxNrFrags | rxSkbFraglist | rxBadDescriptor | nssSkbCount
  | chainSegProcessed | fragSegProcessed
  deriving DecidableEq, Repr

/-- `atomic64_t` counters. -/
abbrev DrvStats := DrvStat → Int

def DrvStats.add (st : DrvStats) (x : DrvStat) (d : Int) : DrvStats :=
  fun y => if y = x then st y + d else st y

@[simp] theorem DrvStats.add_self (st : DrvStats) (x : DrvStat) (d : Int) :
    st.add x d x = st x + d := by simp [DrvStats.add]

theorem DrvStats.add_of_ne (st : DrvStats) {x y : DrvStat} (d : Int) (h : y ≠ x) :
    st.add x d y = st y := by simp [DrvStats.add, h]

inductive CoreStatus where
  | success | failure | failureQueue
  deriving DecidableEq, Repr

end NssDrv.HlosInterface

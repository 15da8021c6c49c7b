import NssDrv.TransmitQueue

set_option autoImplicit false

/-!
# The transmit functions of a core

The functions by which the rest of the kernel hands messages, packets, crypto
requests and shaper bounces to a core, with the check of the core's state, the
queue and the doorbell that each of them uses.
-/
namespace NssDrv.TransmitApi
open HlosInterface SharedThread DescriptorRing TransmitEncoders TransmitQueue

/-- `nss_tx_status_t` without its success. -/
inductive TxFailure where
  | failure | failureQueue | failureNotReady | failureTooLarge | failureTooShort
  | failureNotSupported | failureBadParam | failureNotEnabled
  deriving DecidableEq, Repr

inductive TxStatus where
  | success
  | refused (why : TxFailure)
  deriving DecidableEq, Repr

def NSS_CORE_STATE_UNINITIALIZED : U32 := 0
def NSS_CORE_STATE_INITIALIZED : U32 := 1
def NSS_CORE_STATE_FW_DEAD : U32 := 2
def NSS_CORE_STATE_FW_DUMP : U32 := 4
def NSS_CORE_STATE_PANIC : U32 := 8

structure Doorbell where
  cpu : ℕ
  cause : U32
  deriving DecidableEq, Repr

/-- A core's instance with what its senders touch of `nss_top`. Ghosts: the
    doorbells rung so far, and how many interface bounces found a registrant. -/
structure NssCtx where
  ring : ℕ → H2nRing
  coreId : U32
  stats : DrvStats
  intrMask : U32
  state : U32
  topLock : Option ℕ
  statsLock : Option ℕ
  interfaceRegistered : U32 → Bool
  bridgeRegistered : U32 → Bool
  doorbells : List Doorbell
  interfaceBounces : ℕ

namespace NssCtx

def port (q : ℕ) (c : NssCtx) : H2nPort := ⟨c.ring q, c.coreId, c.stats, c.intrMask⟩

def setPort (q : ℕ) (p : H2nPort) (c : NssCtx) : NssCtx :=
  { c with
    ring := Function.update c.ring q p.ring
    coreId := p.coreId
    stats := p.stats
    intrMask := p.intrMask }

@[simp] theorem port_setPort (q : ℕ) (p : H2nPort) (c : NssCtx) : (c.setPort q p).port q = p := by
  simp [port, setPort]

def count (x : DrvStat) (c : NssCtx) : NssCtx := { c with stats := c.stats.add x 1 }

def ringDoorbell (cpu : ℕ) (cause : U32) (c : NssCtx) : NssCtx :=
  { c with doorbells := c.doorbells ++ [⟨cpu, cause⟩] }

end NssCtx

/-- The cause goes to the interrupt register as it is. -/
def nssHalSendInterrupt (cpu : ℕ) (cause : U32) : Proc NssCtx Unit :=
  .modify (NssCtx.ringDoorbell cpu cause)

/-- How one transmit function uses the core. -/
structure Sender where
  qid : ℕ
  bufferType : U8
  flags : U16
  counter : Option DrvStat
  notReady : TxFailure
  failed : TxFailure
  queueFull : TxFailure
  /-- The allocation failure is counted under `stats_lock`. -/
  locksStats : Bool
  deriving DecidableEq, Repr

def ctrlMsg : Sender :=
  { qid := NSS_IF_CMD_QUEUE, bufferType := H2N_BUFFER_CTRL, flags := 0, counter := some .txCmdReq,
    notReady := .failureNotReady, failed := .failure, queueFull := .failure, locksStats := false }

def packetBuf (flags : U16) : Sender :=
  { qid := NSS_IF_DATA_QUEUE_0, bufferType := H2N_BUFFER_PACKET, flags := flags,
    counter := some .txPacket, notReady := .failureNotReady, failed := .failure,
    queueFull := .failureQueue, locksStats := false }

def nssCapwapTxMsg : Sender := { ctrlMsg with queueFull := .failureQueue }
def nssCryptoTxMsg : Sender := { ctrlMsg with counter := none }
def nssDtlsTxMsg : Sender := { ctrlMsg with queueFull := .failureQueue }
def nssDynamicInterfaceTx : Sender := ctrlMsg
def nssFreqChange : Sender := { ctrlMsg with counter := none }
def nssGreRedirTxMsg : Sender := ctrlMsg
def nssIfTxMsg : Sender := { ctrlMsg with counter := none, notReady := .failure }
def nssIpsecTxMsg : Sender := { ctrlMsg with counter := none }
def nssIpv4TxWithSize : Sender := ctrlMsg
def nssIpv6TxWithSize : Sender := ctrlMsg
def nssL2tpv2Tx : Sender := { ctrlMsg with queueFull := .failureQueue }
def nssLagTx : Sender := ctrlMsg
def nssDebugInterfaceTx : Sender := ctrlMsg
def nssMapTTx : Sender := { ctrlMsg with queueFull := .failureQueue }
def nssN2hTxMsg : Sender := ctrlMsg
def nssOamTxMsg : Sender := ctrlMsg
def nssPhysIfMsg : Sender := { ctrlMsg with counter := none, notReady := .failure }
def nssPortidTxMsg : Sender := ctrlMsg
def nssPppoeTx : Sender := ctrlMsg
def nssPptpTxMsg : Sender := { ctrlMsg with queueFull := .failureQueue }
def nssProfilerIfTxBuf : Sender := ctrlMsg
def nssSjackTxMsg : Sender := ctrlMsg
def nssTun6rdTx : Sender := ctrlMsg
def nssTunipip6Tx : Sender := ctrlMsg
def nssTxRxVirtIfTxMsg : Sender := { ctrlMsg with counter := none, notReady := .failure }
def nssVirtIfTxMsg : Sender := { ctrlMsg with counter := none, notReady := .failure }
def nssWifiTxMsg : Sender := { ctrlMsg with locksStats := true }
def nssWifiIfTxMsg : Sender := { ctrlMsg with counter := none, notReady := .failure }
def nssWifiVdevTxMsg : Sender := { ctrlMsg with locksStats := true }

def messageSenders : List Sender :=
  [nssCapwapTxMsg, nssCryptoTxMsg, nssDtlsTxMsg, nssDynamicInterfaceTx, nssFreqChange,
    nssGreRedirTxMsg, nssIfTxMsg, nssIpsecTxMsg, nssIpv4TxWithSize, nssIpv6TxWithSize, nssL2tpv2Tx,
    nssLagTx, nssDebugInterfaceTx, nssMapTTx, nssN2hTxMsg, nssOamTxMsg, nssPhysIfMsg,
    nssPortidTxMsg, nssPppoeTx, nssPptpTxMsg, nssProfilerIfTxBuf, nssSjackTxMsg, nssTun6rdTx,
    nssTunipip6Tx, nssTxRxVirtIfTxMsg, nssVirtIfTxMsg, nssWifiTxMsg, nssWifiIfTxMsg,
    nssWifiVdevTxMsg]

def nssCapwapTxBuf : Sender := packetBuf H2N_BIT_FLAG_VIRTUAL_BUFFER
def nssDtlsTxBuf : Sender := packetBuf H2N_BIT_FLAG_VIRTUAL_BUFFER
def nssGreRedirTxBuf : Sender := packetBuf 0
def nssIfTxBuf : Sender := packetBuf 0
def nssIpsecTxBuf : Sender := packetBuf 0
def nssPhysIfBuf (hwTstamp : Bool) : Sender :=
  packetBuf (if hwTstamp then H2N_BIT_FLAG_TX_TS_REQUIRED else 0)
def nssPptpTxBuf : Sender :=
  { packetBuf H2N_BIT_FLAG_VIRTUAL_BUFFER with failed := .failureQueue }
def nssTxVirtIfRecvbuf : Sender :=
  { packetBuf H2N_BIT_FLAG_VIRTUAL_BUFFER with failed := .failureQueue }
def nssVirtIfTxBuf : Sender :=
  { packetBuf H2N_BIT_FLAG_VIRTUAL_BUFFER with failed := .failureQueue }
def nssWifiIfTxBuf : Sender :=
  { packetBuf H2N_BIT_FLAG_VIRTUAL_BUFFER with failed := .failureQueue }
def nssWifiVdevTxBuf : Sender := packetBuf 0

def packetSenders : List Sender :=
  [nssCapwapTxBuf, nssDtlsTxBuf, nssGreRedirTxBuf, nssIfTxBuf, nssIpsecTxBuf, nssPhysIfBuf false,
    nssPhysIfBuf true, nssPptpTxBuf, nssTxVirtIfRecvbuf, nssVirtIfTxBuf, nssWifiIfTxBuf,
    nssWifiVdevTxBuf]

/-- Its message is already in a buffer. -/
def nssWifiVdevTxMsgExt : Sender := ctrlMsg

/-- `nss_send_c2c_map`, which the driver calls when a second core comes up. -/
def nssSendC2cMap : Sender := { ctrlMsg with counter := none }

def nssCryptoTxBuf : Sender :=
  { packetBuf 0 with bufferType := H2N_BUFFER_CRYPTO_REQ, counter := some .txCryptoReq }

def shaperBounce (qid : ℕ) (bufferType : U8) : Sender :=
  { qid := qid, bufferType := bufferType, flags := 0, counter := some .txCmdReq,
    notReady := .failure, failed := .failure, queueFull := .failure, locksStats := false }

def shaperBounceInterface : Sender := shaperBounce 0 H2N_BUFFER_SHAPER_BOUNCE_INTERFACE

def shaperBounceBridge : Sender := shaperBounce NSS_IF_CMD_QUEUE H2N_BUFFER_SHAPER_BOUNCE_BRIDGE

section Calls
variable (cpu : ℕ) (s : Sender) (env : TxEnv) (ifNum : U32)

/-- After the attempt to enqueue: every function rings the same doorbell. -/
def ringAfter : CoreStatus → Proc NssCtx TxStatus
  | .success => do
    nssHalSendInterrupt cpu NSS_REGS_H2N_INTR_STATUS_DATA_COMMAND_QUEUE
    Proc.modify fun c => s.counter.elim c c.count
    return .success
  | .failureQueue => return .refused s.queueFull
  | .failure => return .refused s.failed

def sendBuffer (nbuf : TxSkb) : Proc NssCtx TxStatus :=
  ((nssCoreSendBuffer cpu env ifNum nbuf s.bufferType s.flags).zoom (NssCtx.port s.qid)
    (NssCtx.setPort s.qid)).bind (ringAfter cpu s)

/-- The test of the core's state, between the refusals that come before it and
    those that come after it. -/
def whenReady (before after : Option TxFailure) (k : Proc NssCtx TxStatus) : Proc NssCtx TxStatus :=
  match before with
  | some why => return .refused why
  | none => do
    let state ← Proc.read NssCtx.state
    if state ≠ NSS_CORE_STATE_INITIALIZED then return .refused s.notReady
    else match after with
      | some why => return .refused why
      | none => k

def sendMessage (nbuf : Option TxSkb) : Proc NssCtx TxStatus :=
  match nbuf with
  | some nbuf => sendBuffer cpu s env 0 nbuf
  | none =>
    if s.locksStats then do
      Proc.await (fun c => c.statsLock.isNone) fun c => { c with statsLock := some cpu }
      Proc.modify (NssCtx.count .nbufAllocFails)
      Proc.modify fun c => { c with statsLock := none }
      return .refused .failure
    else do
      Proc.modify (NssCtx.count .nbufAllocFails)
      return .refused .failure

def txMsg (before after : Option TxFailure) (nbuf : Option TxSkb) : Proc NssCtx TxStatus :=
  whenReady s before after (sendMessage cpu s env nbuf)

def txBuf (before after : Option TxFailure) (nbuf : TxSkb) : Proc NssCtx TxStatus :=
  whenReady s before after (sendBuffer cpu s env ifNum nbuf)

def cryptoTxBuf (buf bufPaddr : U32) (len : U16) : Proc NssCtx TxStatus :=
  whenReady nssCryptoTxBuf none none
    (((nssCoreSendCrypto cpu buf bufPaddr len).zoom (NssCtx.port nssCryptoTxBuf.qid)
      (NssCtx.setPort nssCryptoTxBuf.qid)).bind (ringAfter cpu nssCryptoTxBuf))

/-- Looks the registrant up under the lock of `nss_top`. A number outside the
    table only meets `BUG_ON(false)`. -/
def bouncePacket (registered : NssCtx → Bool) (found : NssCtx → NssCtx) (nbuf : TxSkb) :
    Proc NssCtx TxStatus := do
  Proc.await (fun c => c.topLock.isNone) fun c => { c with topLock := some cpu }
  let known ← Proc.act (fun _ => true) (fun c => if registered c then found c else c)
    fun c => .ret (registered c)
  if known then do
    Proc.modify fun c => { c with topLock := none }
    sendBuffer cpu s env ifNum nbuf
  else do
    -- the other lock: `nss_top->lock` stays held
    Proc.modify fun c => { c with statsLock := none }
    return .refused .failure

def nssShaperBounceInterfacePacket (nbuf : TxSkb) : Proc NssCtx TxStatus :=
  bouncePacket cpu shaperBounceInterface env ifNum (fun c => c.interfaceRegistered ifNum)
    (fun c => { c with interfaceBounces := c.interfaceBounces + 1 }) nbuf

def nssShaperBounceBridgePacket (nbuf : TxSkb) : Proc NssCtx TxStatus :=
  bouncePacket cpu shaperBounceBridge env ifNum (fun c => c.bridgeRegistered ifNum) id nbuf

end Calls

/-- One call of a transmit function, with what it meets. -/
inductive Request where
  | message (s : Sender) (known : s ∈ messageSenders) (env : TxEnv)
      (before after : Option TxFailure) (nbuf : Option TxSkb)
  | messageExt (env : TxEnv) (after : Option TxFailure) (nbuf : TxSkb)
  | packet (s : Sender) (known : s ∈ packetSenders) (env : TxEnv) (ifNum : U32)
      (before after : Option TxFailure) (nbuf : TxSkb)
  | crypto (buf bufPaddr : U32) (len : U16)
  | bounceInterface (env : TxEnv) (ifNum : U32) (nbuf : TxSkb)
  | bounceBridge (env : TxEnv) (ifNum : U32) (nbuf : TxSkb)
  | c2cMap (env : TxEnv) (nbuf : Option TxSkb)

namespace Request

def call (cpu : ℕ) : Request → Proc NssCtx TxStatus
  | message s _ env before after nbuf => txMsg cpu s env before after nbuf
  | messageExt env after nbuf => txBuf cpu nssWifiVdevTxMsgExt env 0 none after nbuf
  | packet s _ env ifNum before after nbuf => txBuf cpu s env ifNum before after nbuf
  | crypto buf bufPaddr len => cryptoTxBuf cpu buf bufPaddr len
  | bounceInterface env ifNum nbuf => nssShaperBounceInterfacePacket cpu env ifNum nbuf
  | bounceBridge env ifNum nbuf => nssShaperBounceBridgePacket cpu env ifNum nbuf
  | c2cMap env nbuf => sendMessage cpu nssSendC2cMap env nbuf

def buffer : Request → Option U32
  | message _ _ _ _ _ nbuf => nbuf.map fun nbuf => nbuf.addr
  | messageExt _ _ nbuf => some nbuf.addr
  | packet _ _ _ _ _ _ nbuf => some nbuf.addr
  | crypto buf _ _ => some buf
  | bounceInterface _ _ nbuf => some nbuf.addr
  | bounceBridge _ _ nbuf => some nbuf.addr
  | c2cMap _ nbuf => nbuf.map fun nbuf => nbuf.addr

end Request
end NssDrv.TransmitApi

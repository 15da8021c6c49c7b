import NssDrv.TransmitEncoders

set_option autoImplicit false

/-!
# Placing buffers on an H2N ring

`nss_core_send_buffer` and `nss_core_send_crypto` of `nss_core.c`: the room
check under the ring lock, the choice of an encoder, and the publication of
the new index.
-/
namespace NssDrv.TransmitQueue
open HlosInterface SharedThread DescriptorRing TransmitEncoders

def spinLockBh (cpu : ℕ) : Proc H2nPort Unit :=
  .await (fun p => p.ring.lock.isNone) (H2nPort.onRing fun r => r.acquire cpu)

def spinUnlockBh : Proc H2nPort Unit := .modify (H2nPort.onRing H2nRing.release)

def enqueue (cpu : ℕ) (cookie : U32) (hlosIndex : U16) : H2nPort → H2nPort :=
  H2nPort.onRing fun r => r.publish (hlosIndex.signExtend 32) [⟨cpu, cookie, r.pending⟩]

/-- The ring is full: count it, unlock, ask to be told of new room. -/
def queueFull : Proc H2nPort CoreStatus := do
  Proc.modify (H2nPort.onRing H2nRing.stopTx)
  spinUnlockBh
  Proc.modify fun p =>
    if p.coreId = 0 then { p with stats := p.stats.add .txQueueFull0 1 }
    else if p.coreId = 1 then { p with stats := p.stats.add .txQueueFull1 1 }
    else p
  Proc.modify fun p =>
    { p with intrMask := p.intrMask ||| NSS_REGS_N2H_INTR_STATUS_TX_UNBLOCKED }
  return .failureQueue

def ringRoom (nssIndex hlosIndex size : U16) : U16 := (nssIndex - hlosIndex - 1 + size) &&& (size - 1)

def isBounce (bufferType : U8) : Bool :=
  bufferType = H2N_BUFFER_SHAPER_BOUNCE_INTERFACE || bufferType = H2N_BUFFER_SHAPER_BOUNCE_BRIDGE

section Send
variable (cpu : ℕ) (env : TxEnv) (ifNum : U32) (nbuf : TxSkb) (bufferType : U8) (flags : U16)

def txSegments : U32 :=
  if nbuf.hasFragList then BitVec.ofNat 32 nbuf.fragList.length
  else BitVec.ofNat 32 nbuf.fragSizes.length

/-- The encoder for this buffer, with the flags and the mss that go to it. -/
def encode (size hlosIndex : U16) : Proc H2nPort ℤ :=
  let offload := nbuf.isGso && !isBounce bufferType
  let mss := if offload then nbuf.gsoSize else 0
  let flags := if offload then flags ||| H2N_BIT_FLAG_SEGMENTATION_ENABLE else flags
  if txSegments nbuf = 0 || isBounce bufferType then
    nssCoreSendBufferSimpleSkb env ifNum nbuf hlosIndex flags bufferType mss
  else if nbuf.hasFragList then
    nssCoreSendBufferFraglist env size ifNum nbuf hlosIndex flags bufferType mss
  else nssCoreSendBufferNrFrags env size ifNum nbuf hlosIndex flags bufferType mss

def publishEncoded (size hlosIndex : U16) (written : ℤ) : Proc H2nPort CoreStatus :=
  let count : U16 := BitVec.ofInt 16 written
  if count.toInt ≤ 0 then do
    spinUnlockBh
    return .failure
  else do
    let hlosIndex := (hlosIndex + count) &&& (size - 1)
    Proc.modify (H2nPort.onRing fun r => r.setHlosIndex (hlosIndex.signExtend 32))
    Proc.modify (enqueue cpu nbuf.addr hlosIndex)
    nssPktStatsIncrement .nssSkbCount
    spinUnlockBh
    return .success

/-- The part of `nss_core_send_buffer` under the ring lock. -/
def sendLocked (size : U16) : Proc H2nPort CoreStatus := do
  spinLockBh cpu
  let nssIndex ← Proc.read fun p => p.ring.nssIndexMap.setWidth 16
  let hlosIndex ← Proc.read fun p => p.ring.hlosIndex.setWidth 16
  let count := ringRoom nssIndex hlosIndex size
  if (count.signExtend 32).ult (txSegments nbuf + 1) then queueFull
  else do
    let written ← encode env ifNum nbuf bufferType flags size hlosIndex
    publishEncoded cpu nbuf size hlosIndex written

def nssCoreSendBuffer : Proc H2nPort CoreStatus := do
  let size ← Proc.read fun p => p.ring.size
  if nbuf.hasFragList then
    if (size.signExtend 32).ult (txSegments nbuf) then return .failure
    else sendLocked cpu env ifNum nbuf bufferType flags size
  else if nbuf.fragSizes.length > env.maxSkbFrags then .halt
  else sendLocked cpu env ifNum nbuf bufferType flags size

/-- The fields a crypto request sets; the rest keep what the slot held. -/
def cryptoDescriptor (buf bufPaddr : U32) (len : U16) (d : H2nDescriptor) : H2nDescriptor :=
  { d with
    opaqueWord := buf
    bufferType := H2N_BUFFER_CRYPTO_REQ
    buffer := bufPaddr
    bufferLen := len
    payloadLen := len
    payloadOffs := 0
    bitFlags := H2N_BIT_FLAG_FIRST_SEGMENT ||| H2N_BIT_FLAG_LAST_SEGMENT }

def nssCoreSendCrypto (buf bufPaddr : U32) (len : U16) : Proc H2nPort CoreStatus := do
  spinLockBh cpu
  let nssIndex ← Proc.read fun p => p.ring.nssIndexMap.setWidth 16
  let hlosIndex ← Proc.read fun p => p.ring.hlosIndex.setWidth 16
  let size ← Proc.read fun p => p.ring.size
  let count := ringRoom nssIndex hlosIndex size
  if count.toInt < 1 then queueFull
  else do
    Proc.modify (H2nPort.onRing fun r =>
      r.fill hlosIndex.toNat (cryptoDescriptor buf bufPaddr len (r.desc hlosIndex.toNat)))
    let hlosIndex := (hlosIndex + 1) &&& (size - 1)
    Proc.modify (H2nPort.onRing fun r => r.setHlosIndex (hlosIndex.signExtend 32))
    Proc.modify (enqueue cpu buf hlosIndex)
    spinUnlockBh
    return .success

end Send
end NssDrv.TransmitQueue

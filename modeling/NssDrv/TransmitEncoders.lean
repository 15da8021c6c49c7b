import NssDrv.DescriptorRing
import NssDrv.SharedThread

set_option autoImplicit false

/-!
# The transmit encoders

`nss_core_send_buffer_simple_skb`, `_nr_frags` and `_fraglist` of
`nss_core.c`, over one H2N ring. Each fills descriptors from the ring's local
index on and returns how many it filled, or minus the number it gave up.
-/
namespace NssDrv.TransmitEncoders
open HlosInterface SharedThread DescriptorRing

inductive IpSummed where
  | checksumNone | checksumUnnecessary | checksumComplete | checksumPartial
  deriving DecidableEq, Repr

/-- The fields of an `sk_buff` that describe its own buffer. -/
structure TxSegment where
  addr : U32
  head : U32
  data : U32
  tail : U32
  end_ : U32
  len : U32
  dataLen : U32
  priority : U32
  nrFrags : ℕ
  deriving DecidableEq, Repr

/-- `fragSizes` are the `frags[]` of the skb itself, counted by an unsigned
    char, and `fragList` its frag_list, whose members have different 32-bit
    addresses. -/
structure TxSkb extends TxSegment where
  ipSummed : IpSummed
  hasDestructor : Bool
  gsoSize : U16
  fragSizes : List U32
  fragList : List TxSegment
  fragSizes_lt : fragSizes.length < 2 ^ 8
  fragList_lt : fragList.length < 2 ^ 32

theorem TxSkb.noFrags_lt : ([] : List U32).length < 2 ^ 8 := by decide

theorem TxSkb.noFragList_lt : ([] : List TxSegment).length < 2 ^ 32 := by decide

def TxSkb.hasFragList (nbuf : TxSkb) : Bool := !nbuf.fragList.isEmpty

def TxSkb.isGso (nbuf : TxSkb) : Bool := nbuf.gsoSize != 0

/-- What a call meets outside the driver. `dma 0` is the mapping tried for
    buffer reuse, `dma 1` that of the head, `dma (i + 2)` that of segment `i`;
    `none` is a mapping error. `recycling` says whether the kernel is old
    enough for the reuse path to be compiled in. -/
structure TxEnv where
  dma : ℕ → Option U32
  maxSkbFrags : ℕ
  recycling : Bool
  isVirtual : Bool
  recycleable : Bool
  maxBufSize : U32
  netSkbPad : U32

/-- A ring with the counters and the interrupt mask its senders touch. -/
structure H2nPort where
  ring : H2nRing
  coreId : U32
  stats : DrvStats
  intrMask : U32

def H2nPort.onRing (f : H2nRing → H2nRing) (p : H2nPort) : H2nPort := { p with ring := f p.ring }

def nssPktStatsIncrement (x : DrvStat) : Proc H2nPort Unit :=
  .modify fun p => { p with stats := p.stats.add x 1 }

def nssCoreWriteOneDescriptor (idx : U16) (bufferType : U8) (buffer ifNum opaqueWord : U32)
    (payloadOff payloadLen bufferLen : U16) (qosTag : U32) (mss bitFlags : U16) :
    Proc H2nPort Unit :=
  .modify <| H2nPort.onRing fun r => r.fill idx.toNat
    { opaqueWord := opaqueWord
      buffer := buffer
      bufferLen := bufferLen
      payloadLen := payloadLen
      mss := mss
      payloadOffs := payloadOff
      -- the interface number goes through `int8_t`
      interfaceNum := (ifNum.setWidth 8).signExtend 16
      bufferType := bufferType
      bitFlags := bitFlags
      qosTag := qosTag }

section Encoders
variable (env : TxEnv) (size : U16) (ifNum : U32) (nbuf : TxSkb)

def TxSegment.dataOffs (s : TxSegment) : U16 := (s.data - s.head).setWidth 16

def TxSegment.room (s : TxSegment) : U16 := (s.end_ - s.head).setWidth 16

def TxSegment.headLen (s : TxSegment) : U16 := (s.len - s.dataLen).setWidth 16

/-- The mapping and length of a buffer the NSS may keep for reception. -/
def reuseMapping : Option (U32 × U16) :=
  if env.recycling && !env.isVirtual && !nbuf.hasDestructor && env.recycleable then
    let used := (nbuf.tail - nbuf.head).setWidth 16
    let full := (env.maxBufSize + env.netSkbPad).setWidth 16
    (env.dma 0).map fun addr => (addr, if used < full then full else used)
  else none

def nssCoreSendBufferSimpleSkb (hlosIndex flags : U16) (bufferType : U8) (mss : U16) :
    Proc H2nPort ℤ :=
  let bitFlags := flags ||| H2N_BIT_FLAG_FIRST_SEGMENT ||| H2N_BIT_FLAG_LAST_SEGMENT
  let bitFlags := match nbuf.ipSummed with
    | .checksumPartial => bitFlags ||| H2N_BIT_FLAG_GEN_IP_TRANSPORT_CHECKSUM
    | .checksumUnnecessary => bitFlags ||| H2N_BIT_FLAG_GEN_IP_TRANSPORT_CHECKSUM_NONE
    | _ => bitFlags
  match reuseMapping env nbuf with
  | some (frag0phyaddr, sz) => do
    nssCoreWriteOneDescriptor hlosIndex bufferType frag0phyaddr ifNum nbuf.addr nbuf.dataOffs
      (nbuf.len.setWidth 16) sz nbuf.priority mss (bitFlags ||| H2N_BIT_FLAG_BUFFER_REUSE)
    nssPktStatsIncrement .txBufferReuse
    return 1
  | none =>
    match env.dma 1 with
    | none => return 0
    | some frag0phyaddr => do
      nssCoreWriteOneDescriptor hlosIndex bufferType frag0phyaddr ifNum nbuf.addr nbuf.dataOffs
        (nbuf.len.setWidth 16) nbuf.room nbuf.priority mss bitFlags
      nssPktStatsIncrement .txSimple
      return 1

def checksumFlags (flags : U16) : U16 :=
  if nbuf.ipSummed = .checksumPartial then flags ||| H2N_BIT_FLAG_GEN_IP_TRANSPORT_CHECKSUM
  else flags

/-- The loop over `frags[]` from fragment `i` on, with `hlosIndex` the slot
    of the descriptor filled last. -/
def nrFragsFrom (bufferType : U8) (mss bitFlags : U16) : ℕ → List U32 → U16 → Proc H2nPort ℤ
  | i, [], hlosIndex => do
    Proc.modify <| H2nPort.onRing fun r => r.amend hlosIndex.toNat fun d =>
      { d with
        bitFlags := (d.bitFlags ||| H2N_BIT_FLAG_LAST_SEGMENT) &&& ~~~H2N_BIT_FLAG_DISCARD
        opaqueWord := nbuf.addr }
    nssPktStatsIncrement .txNrFrags
    return i + 1
  | i, frag :: rest, hlosIndex =>
    match env.dma (i + 2) with
    | none => return -(i + 1)
    | some buffer => do
      let hlosIndex := (hlosIndex + 1) &&& (size - 1)
      nssCoreWriteOneDescriptor hlosIndex bufferType buffer ifNum 0 0 (frag.setWidth 16)
        (frag.setWidth 16) nbuf.priority mss bitFlags
      nrFragsFrom bufferType mss bitFlags (i + 1) rest hlosIndex

def nssCoreSendBufferNrFrags (hlosIndex flags : U16) (bufferType : U8) (mss : U16) :
    Proc H2nPort ℤ :=
  match env.dma 1 with
  | none => return 0
  | some frag0phyaddr => do
    let bitFlags := checksumFlags nbuf (flags ||| H2N_BIT_FLAG_DISCARD)
    nssCoreWriteOneDescriptor hlosIndex bufferType frag0phyaddr ifNum 0 nbuf.dataOffs nbuf.headLen
      nbuf.room nbuf.priority mss (bitFlags ||| H2N_BIT_FLAG_FIRST_SEGMENT)
    if nbuf.fragSizes.length > env.maxSkbFrags then .halt
    else nrFragsFrom env size ifNum nbuf bufferType mss bitFlags 0 nbuf.fragSizes hlosIndex

/-- The walk over the frag_list from member `i` on. -/
def fraglistFrom (bufferType : U8) (mss bitFlags : U16) :
    ℕ → List TxSegment → U16 → Proc H2nPort ℤ
  | i, [], hlosIndex => do
    Proc.modify <| H2nPort.onRing fun r => r.amend hlosIndex.toNat fun d =>
      { d with bitFlags := d.bitFlags ||| H2N_BIT_FLAG_LAST_SEGMENT }
    nssPktStatsIncrement .txFraglist
    return i + 1
  | i, iter :: rest, hlosIndex =>
    match env.dma (i + 2) with
    | none => return -(i + 1)
    | some buffer =>
      -- frags[] inside a frag_list are not supported
      if iter.nrFrags > 0 then return -(i + 1)
      else do
        let hlosIndex := (hlosIndex + 1) &&& (size - 1)
        nssCoreWriteOneDescriptor hlosIndex bufferType buffer ifNum 0 iter.dataOffs iter.headLen
          iter.room iter.priority mss bitFlags
        fraglistFrom bufferType mss bitFlags (i + 1) rest hlosIndex

def nssCoreSendBufferFraglist (hlosIndex flags : U16) (bufferType : U8) (mss : U16) :
    Proc H2nPort ℤ :=
  match env.dma 1 with
  | none => return 0
  | some frag0phyaddr => do
    let bitFlags := checksumFlags nbuf flags
    nssCoreWriteOneDescriptor hlosIndex bufferType frag0phyaddr ifNum nbuf.addr nbuf.dataOffs
      nbuf.headLen nbuf.room nbuf.priority mss (bitFlags ||| H2N_BIT_FLAG_FIRST_SEGMENT)
    fraglistFrom env size ifNum bufferType mss (bitFlags ||| H2N_BIT_FLAG_DISCARD) 0 nbuf.fragList
      hlosIndex

end Encoders
end NssDrv.TransmitEncoders

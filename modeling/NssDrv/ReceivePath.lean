import NssDrv.SkbMemory

set_option autoImplicit false

/-!
# The receive path of one descriptor

`nss_core_rx_pbuf` of `nss_core.c` with the handlers it calls, the two
assemblers `nss_core_handle_nr_frag_skb` and `nss_core_handle_linear_skb`, and
the part of the loop of `nss_core_handle_cause_queue` between the loads of a
descriptor and the next one.
-/
namespace NssDrv.ReceivePath
open HlosInterface SkbMemory

def NSS_HLOS_MESSAGE_VERSION : Nat := 0

/-- `sizeof(struct nss_cmn_msg)`. -/
def NSS_CMN_MSG_SIZE : Nat := 28

def ETH_HLEN : Nat := 14

structure Kernel where
  pageOffset : U32
  maxSkbFrags : ℕ

structure Features where
  sg : Bool
  fraglist : Bool

/-- `skbFeatures` is what `netif_skb_features` says of the skb at hand. -/
structure NetDevice where
  features : Features
  skbFeatures : Features

structure SubsystemDataplaneRegister where
  ndev : Option NetDevice
  cb : Bool
  extCb : Bool

/-- `moduleLive` is the outcome of `try_module_get`. -/
structure ShaperBounceRegistrant where
  registered : Bool
  moduleLive : Bool

/-- What one pass meets outside the ring: the skb the opaque word names, the
    tables, whether there is memory to linearize and to pull the header, and
    whether the virtual device is congested. -/
structure RxEnv where
  nbuf : Skb
  subsysDpRegister : U16 → SubsystemDataplaneRegister
  bounceInterfaceRegistrants : U16 → ShaperBounceRegistrant
  bounceBridgeRegistrants : U16 → ShaperBounceRegistrant
  nssRxInterfaceHandlers : U16 → Bool
  linearizes : Bool
  pulls : Bool
  txBusy : Bool

inductive Table where
  | subsysDpRegister | bounceInterfaceRegistrants | bounceBridgeRegistrants
  | nssRxInterfaceHandlers
  deriving DecidableEq, Repr

/-- A packet on its way into `nss_core_rx_pbuf`. -/
structure Received where
  bufferType : U8
  interfaceNum : U16
  nbuf : U32
  skb : Option Skb
  chain : List U32

/-- A message passed to its handler, with the bytes there are from its header on. -/
structure HandlerCall where
  ncm : NssCmnMsg
  area : ℕ
  deriving DecidableEq, Repr

/-- `head`, `tail` and `jumboStart` of the ring, the skbs and the counters.
    Ghosts: the packets received, the tables indexed, the handlers called. -/
structure RxHost where
  head : Option U32
  tail : Option U32
  jumboStart : Option U32
  mem : Memory
  stats : DrvStats
  received : List Received
  accesses : List (Table × U16)
  messages : List HandlerCall
  cryptoBufs : List (U32 × U32 × U16)

namespace RxHost

def onMem (f : Memory → Memory) (s : RxHost) : RxHost := { s with mem := f s.mem }

def count (x : DrvStat) (d : Int) (s : RxHost) : RxHost := { s with stats := s.stats.add x d }

def index (t : Table) (i : U16) (s : RxHost) : RxHost := { s with accesses := s.accesses ++ [(t, i)] }

def kfreeSkb (nbuf : U32) : RxHost → RxHost := onMem fun m => m.kfreeSkb nbuf

/-- Frees what a pointer of the ring refers to, if anything. -/
def kfreeHeld (p : Option U32) : RxHost → RxHost := p.elim id kfreeSkb

def give (nbuf : U32) (taker : Consumer) : RxHost → RxHost := onMem fun m => m.give nbuf taker

def modify (nbuf : U32) (f : Skb → Skb) : RxHost → RxHost := onMem fun m => m.modify nbuf f

def receive (d : N2hDescriptor) (nbuf : U32) (s : RxHost) : RxHost :=
  { s with
    received := s.received ++
      [⟨d.bufferType, d.interfaceNum, nbuf, s.mem.heap nbuf, s.mem.chainOf nbuf⟩] }

end RxHost

def isFirst (d : N2hDescriptor) : Bool := d.bitFlags &&& N2H_BIT_FLAG_FIRST_SEGMENT != 0

def isLast (d : N2hDescriptor) : Bool := d.bitFlags &&& N2H_BIT_FLAG_LAST_SEGMENT != 0

def isBounced (bufferType : U8) : Bool :=
  bufferType = N2H_BUFFER_SHAPER_BOUNCED_INTERFACE ||
    bufferType = N2H_BUFFER_SHAPER_BOUNCED_BRIDGE

/-- `NSS_IS_IF_TYPE`. -/
def isIfType (start most : Nat) (ifNum : U16) : Bool :=
  start ≤ ifNum.toNat && ifNum.toNat < start + most

/-- The bytes from `data` on, or those of the first page. -/
def messageArea (nbuf : Skb) : ℕ :=
  match nbuf.frags with
  | [] => nbuf.tail - nbuf.data
  | frag :: _ => frag.size.toNat

section Handlers
variable (env : RxEnv) (interfaceNum : U16) (nbuf : U32) (s : RxHost)

def nssCoreHandleNssStatusPkt : RxHost :=
  match s.mem.heap nbuf with
  | none => s.onMem fun m => { m with misuse := true }
  | some skb =>
    let ncm := skb.ncm
    if ncm.version.toNat ≠ NSS_HLOS_MESSAGE_VERSION then s
    else if ncm.len > skb.len then s
    else if ncm.interface.toNat ≥ NSS_MAX_NET_INTERFACES then s
    else
      let s := s.index .nssRxInterfaceHandlers ncm.interface
      if env.nssRxInterfaceHandlers ncm.interface then
        { s with messages := s.messages ++ [⟨ncm, messageArea skb⟩] }
      else s

def nssCoreSkbNeedsLinearize (m : Memory) (features : Features) : Bool :=
  m.dataLen nbuf != 0 &&
    (m.hasFragList nbuf && !features.fraglist || m.nrFrags nbuf != 0 && !features.sg)

/-- The skb as the device takes it; `none` where it cannot be linearized. -/
def linearizeFor (m : Memory) (features : Features) : Option Memory :=
  if nssCoreSkbNeedsLinearize nbuf m features then
    if env.linearizes then some (m.linearize nbuf) else none
  else some m

def nssCoreHandleBouncedPkt (reg : ShaperBounceRegistrant) (taker : Consumer) : RxHost :=
  if !reg.registered then s.kfreeSkb nbuf
  else if !reg.moduleLive then s.kfreeSkb nbuf
  else s.give nbuf taker

def nssCoreHandleVirtIfPkt : RxHost :=
  let s := (s.index .subsysDpRegister interfaceNum).count .rxVirtual 1
  match (env.subsysDpRegister interfaceNum).ndev with
  | none => s.kfreeSkb nbuf
  | some ndev =>
    match linearizeFor env nbuf s.mem ndev.skbFeatures with
    | none => s.kfreeSkb nbuf
    | some m =>
      let s := { s with mem := m }
      if env.txBusy then s.kfreeSkb nbuf else s.give nbuf (.startXmit interfaceNum)

def nssCoreHandleBufferPkt : RxHost :=
  let reg := env.subsysDpRegister interfaceNum
  let s := (s.index .subsysDpRegister interfaceNum).count .rxPacket 1
  match reg.cb, reg.ndev with
  | true, some ndev =>
    match linearizeFor env nbuf s.mem ndev.features with
    | none => s.kfreeSkb nbuf
    | some m => { s with mem := m }.give nbuf (.rxCallback interfaceNum)
  | _, ndev =>
    if isIfType NSS_DYNAMIC_IF_START NSS_MAX_DYNAMIC_INTERFACES interfaceNum ||
        isIfType NSS_VIRTUAL_IF_START NSS_MAX_VIRTUAL_INTERFACES interfaceNum then
      if ndev.isSome then s.give nbuf (.netifReceiveSkb interfaceNum) else s.kfreeSkb nbuf
    else s.kfreeSkb nbuf

def nssCoreHandleExtBufferPkt : RxHost :=
  let reg := env.subsysDpRegister interfaceNum
  let s := (s.index .subsysDpRegister interfaceNum).count .rxPacket 1
  match reg.extCb, reg.ndev with
  | true, some ndev =>
    match linearizeFor env nbuf s.mem ndev.features with
    | none => s.kfreeSkb nbuf
    | some m => { s with mem := m }.give nbuf (.extCallback interfaceNum)
  | _, _ => s.kfreeSkb nbuf

end Handlers

section Assemble
variable (k : Kernel) (env : RxEnv) (d : N2hDescriptor) (nbuf : U32) (s : RxHost)

def nssCoreRxPbuf : RxHost :=
  let i := d.interfaceNum
  let s := (s.count .nssSkbCount (-1)).receive d nbuf
  if d.bufferType = N2H_BUFFER_SHAPER_BOUNCED_INTERFACE then
    nssCoreHandleBouncedPkt nbuf (s.index .bounceInterfaceRegistrants i)
      (env.bounceInterfaceRegistrants i) (.bouncedInterface i)
  else if d.bufferType = N2H_BUFFER_SHAPER_BOUNCED_BRIDGE then
    nssCoreHandleBouncedPkt nbuf (s.index .bounceBridgeRegistrants i)
      (env.bounceBridgeRegistrants i) (.bouncedBridge i)
  else if d.bufferType = N2H_BUFFER_PACKET_VIRTUAL then nssCoreHandleVirtIfPkt env i nbuf s
  else if d.bufferType = N2H_BUFFER_PACKET then nssCoreHandleBufferPkt env i nbuf s
  else if d.bufferType = N2H_BUFFER_PACKET_EXT then nssCoreHandleExtBufferPkt env i nbuf s
  else if d.bufferType = N2H_BUFFER_STATUS then
    (nssCoreHandleNssStatusPkt env nbuf (s.count .rxStatus 1)).kfreeSkb nbuf
  else if d.bufferType = N2H_BUFFER_EMPTY then (s.count .rxEmpty 1).kfreeSkb nbuf
  -- an invalid buffer type is only warned about
  else s

/-- `pskb_may_pull(nbuf, ETH_HLEN)`. -/
def pskbMayPull (skb : Skb) : Bool :=
  ETH_HLEN ≤ (skb.len - skb.dataLen).toNat || ETH_HLEN ≤ skb.len.toNat && env.pulls

/-- The label `pull` of `nss_core_handle_nr_frag_skb`. -/
def pullEthHeader : RxHost × Option U32 :=
  if d.bufferType ≠ N2H_BUFFER_STATUS && !(s.mem.heap nbuf).elim false (pskbMayPull env) then
    (s.kfreeSkb nbuf, none)
  else (s, some nbuf)

def fillPage (skb : Skb) : Skb :=
  { skb with
    frags := skb.frags.modifyHead fun frag =>
      { frag with offset := d.payloadOffs, size := d.payloadLen }
    dataLen := d.payloadLen.setWidth 32
    len := d.payloadLen.setWidth 32 }

/-- FIRST and LAST: the frame is not scattered. -/
def pagedWhole : RxHost × Option U32 :=
  let s := { s.kfreeHeld s.jumboStart with jumboStart := none }
  pullEthHeader env d nbuf (s.modify nbuf (fillPage d))

/-- FIRST alone: a new scattered frame. -/
def pagedFirst : RxHost × Option U32 :=
  let s := s.kfreeHeld s.jumboStart
  ({ s.modify nbuf (fillPage d) with jumboStart := some nbuf }, none)

/-- A middle or last segment. -/
def pagedMiddle : RxHost × Option U32 :=
  match s.jumboStart with
  | none => (s.kfreeSkb nbuf, none)
  | some jumboStart =>
    let frag := ⟨s.mem.page nbuf, d.payloadOffs, d.payloadLen⟩
    let s := s.onMem fun m => (m.addRxFrag jumboStart k.maxSkbFrags frag).kfreeSkb nbuf
    if !isLast d then (s, none)
    else pullEthHeader env d jumboStart { s with jumboStart := none }

/-- The skb to pass on, if one is complete. -/
def nssCoreHandleNrFragSkb : RxHost × Option U32 :=
  if isFirst d && isLast d then pagedWhole env d nbuf s
  else if isFirst d then pagedFirst d nbuf (s.count .fragSegProcessed 1)
  else pagedMiddle k env d nbuf (s.count .fragSegProcessed 1)

def linearPayload (skb : Skb) : Skb :=
  { skb with
    data := d.payloadOffs.toNat
    len := d.payloadLen.setWidth 32
    tail := d.payloadOffs.toNat + d.payloadLen.toNat }

/-- Links `nbuf` behind the chain of `head`. -/
def attach (head : U32) : RxHost :=
  let s := if s.mem.hasFragList head then
      match s.tail with
      | some tail => s.onMem fun m => (m.setNext tail (some nbuf)).setNext nbuf none
      | none => s.onMem fun m => { m with misuse := true }
    else s.onMem fun m =>
      (m.setNext nbuf (m.fragList head).first).setFragList head (.chain nbuf)
  { s with tail := some nbuf }

def addLength (skb : Skb) : Skb :=
  { skb with
    dataLen := skb.dataLen + d.payloadLen.setWidth 32
    len := skb.len + d.payloadLen.setWidth 32 }

def linearWhole : RxHost × Option U32 :=
  (RxHost.count .rxSimple 1 { s.kfreeHeld s.head with head := none }, some nbuf)

def linearFirst : RxHost × Option U32 :=
  let s := s.kfreeHeld s.head
  -- a chain in the chain: the ring's head stays as it was
  if s.mem.hasFragList nbuf then (s.kfreeSkb nbuf, none)
  else
    let s := s.modify nbuf fun skb => { skb with fragList := .empty, dataLen := 0 }
    ({ s with head := some nbuf }, none)

def linearMiddle : RxHost × Option U32 :=
  match s.head with
  | none => (s.kfreeSkb nbuf, none)
  | some head =>
    let s := (attach nbuf s head).modify head (addLength d)
    if !isLast d then (s, none)
    else (RxHost.count .rxSkbFraglist 1 { s with head := none, tail := none }, some head)

/-- The skb to pass on, if one is complete. -/
def nssCoreHandleLinearSkb : RxHost × Option U32 :=
  let s := s.modify nbuf (linearPayload d)
  if isFirst d && isLast d then linearWhole nbuf s
  else if isFirst d then linearFirst nbuf (s.count .chainSegProcessed 1)
  else linearMiddle d nbuf (s.count .chainSegProcessed 1)

/-- A paged skb finds a linear chain unfinished. -/
def abortHead : RxHost :=
  match s.head with
  | some head => { (s.count .nssSkbCount (-1)).kfreeSkb head with head := none }
  | none => s

/-- A linear skb finds a paged one unfinished. -/
def abortJumbo : RxHost :=
  match s.jumboStart with
  | some jumboStart =>
    { (s.count .nssSkbCount (-1)).kfreeSkb jumboStart with jumboStart := none }
  | none => s

/-- From the loads of the descriptor to the label `consume`. -/
def assemble : RxHost × Option U32 :=
  if d.bufferType = N2H_BUFFER_CRYPTO_RESP then
    let s := s.count .rxCryptoResp 1
    ({ s with cryptoBufs := s.cryptoBufs ++ [(d.opaqueWord, d.buffer, d.payloadLen)] }, none)
  else if d.opaqueWord < k.pageOffset then (s.count .rxBadDescriptor 1, none)
  else
    let nbuf := d.opaqueWord
    let s := s.onMem fun m => m.arrive nbuf env.nbuf
    if d.bufferType = N2H_BUFFER_EMPTY then (s, some nbuf)
    else if isBounced d.bufferType then (s, some nbuf)
    else if s.mem.nrFrags nbuf > 0 then
      let r := nssCoreHandleNrFragSkb k env d nbuf (abortHead s)
      (r.2.elim r.1 fun _ => r.1.count .rxNrFrags 1, r.2)
    else nssCoreHandleLinearSkb d nbuf (abortJumbo s)

/-- One pass through the loop of `nss_core_handle_cause_queue`. -/
def processDescriptor : RxHost :=
  match assemble k env d s with
  | (s, none) => s
  | (s, some nbuf) => nssCoreRxPbuf env d nbuf s

end Assemble
end NssDrv.ReceivePath

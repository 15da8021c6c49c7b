import NssDrv.TransmitQueue

set_option autoImplicit false

/-!
# A transmit with its DMA mappings

`nss_core_send_buffer` once more, with the mappings a call makes and undoes and the
skb it is given. Forgetting these leaves the call of `NssDrv.TransmitQueue`.
-/
namespace NssDrv.TransmitMappings
open HlosInterface SharedThread DescriptorRing TransmitEncoders TransmitQueue

/-- What `dma_map_single`, or `dma_map_page`, was given and gave. -/
structure Mapping where
  addr : U32
  len : U32
  page : Bool
  deriving DecidableEq

/-- A mapping that is undone, and the slot whose descriptor names it. -/
structure Unmapping where
  slot : ℕ
  mapping : Mapping
  deriving DecidableEq

/-- The ring with the mappings of one call, in order, and the caller's skb. -/
structure TxCall where
  port : H2nPort
  maps : List Mapping
  unmaps : List Unmapping
  nbuf : TxSkb

def TxCall.setPort (p : H2nPort) (c : TxCall) : TxCall := { c with port := p }

abbrev onPort {α : Type} (q : Proc H2nPort α) : Proc TxCall α := q.zoom TxCall.port TxCall.setPort

/-- A segment: what is mapped of it, and what its descriptor says of it. -/
structure TxPiece where
  mapLen : U32
  page : Bool
  offs : U32
  len : U32
  room : U32
  priority : U32
  nrFrags : ℕ

def headPiece (s : TxSegment) : TxPiece where
  mapLen := s.tail - s.head
  page := false
  offs := s.data - s.head
  len := s.len - s.dataLen
  room := s.end_ - s.head
  priority := s.priority
  nrFrags := s.nrFrags

/-- An entry of `frags[]`. -/
def fragPiece (nbuf : TxSkb) (size : U32) : TxPiece where
  mapLen := size
  page := true
  offs := 0
  len := size
  room := size
  priority := nbuf.priority
  nrFrags := 0

def lastFrag (nbuf : TxSkb) (d : H2nDescriptor) : H2nDescriptor :=
  { d with
    bitFlags := (d.bitFlags ||| H2N_BIT_FLAG_LAST_SEGMENT) &&& ~~~H2N_BIT_FLAG_DISCARD
    opaqueWord := nbuf.addr }

def lastMember (d : H2nDescriptor) : H2nDescriptor :=
  { d with bitFlags := d.bitFlags ||| H2N_BIT_FLAG_LAST_SEGMENT }

/-- What a call meets besides: `recycle` is `skb_recycle`. -/
structure Outside extends TxEnv where
  recycle : TxSkb → TxSkb

section Encoders
variable (env : Outside) (size : U16) (ifNum : U32) (nbuf : TxSkb)

def dmaMap (i : ℕ) (len : U32) (page : Bool) : Proc TxCall (Option U32) :=
  match env.dma i with
  | none => return none
  | some addr => do
    Proc.modify fun c => { c with maps := c.maps ++ [⟨addr, len, page⟩] }
    return some addr

/-- The piece with which a descriptor names its mapping. -/
def writePiece (hlosIndex : U16) (bufferType : U8) (buffer opaqueWord : U32) (piece : TxPiece)
    (mss bitFlags : U16) : Proc TxCall Unit :=
  onPort <| nssCoreWriteOneDescriptor hlosIndex bufferType buffer ifNum opaqueWord
    (piece.offs.setWidth 16) (piece.len.setWidth 16) (piece.room.setWidth 16) piece.priority mss
    bitFlags

def nssCoreSendUnwindDma (isFraglist : Bool) : ℕ → U16 → Proc TxCall Unit
  | 0, _ => return ()
  | count + 1, hlosIndex => do
    Proc.modify fun c =>
      let desc := c.port.ring.desc hlosIndex.toNat
      let mapping := ⟨desc.buffer, desc.bufferLen.setWidth 32, !isFraglist⟩
      { c with unmaps := c.unmaps ++ [⟨hlosIndex.toNat, mapping⟩] }
    nssCoreSendUnwindDma isFraglist count ((hlosIndex + 1) &&& (size - 1))

def nssCoreSendBufferSimpleSkb (hlosIndex flags : U16) (bufferType : U8) (mss : U16) :
    Proc TxCall ℤ :=
  let bitFlags := flags ||| H2N_BIT_FLAG_FIRST_SEGMENT ||| H2N_BIT_FLAG_LAST_SEGMENT
  let bitFlags := match nbuf.ipSummed with
    | .checksumPartial => bitFlags ||| H2N_BIT_FLAG_GEN_IP_TRANSPORT_CHECKSUM
    | .checksumUnnecessary => bitFlags ||| H2N_BIT_FLAG_GEN_IP_TRANSPORT_CHECKSUM_NONE
    | _ => bitFlags
  let piece := { headPiece nbuf.toTxSegment with len := nbuf.len }
  match reuseMapping env.toTxEnv nbuf with
  | some (frag0phyaddr, sz) => do
    Proc.modify fun c => { c with maps := c.maps ++ [⟨frag0phyaddr, sz.setWidth 32, false⟩] }
    writePiece ifNum hlosIndex bufferType frag0phyaddr nbuf.addr
      { piece with room := sz.setWidth 32 } mss (bitFlags ||| H2N_BIT_FLAG_BUFFER_REUSE)
    Proc.modify fun c => { c with nbuf := env.recycle c.nbuf }
    onPort (nssPktStatsIncrement .txBufferReuse)
    return 1
  | none => do
    match ← dmaMap env 1 piece.mapLen piece.page with
    | none => return 0
    | some frag0phyaddr => do
      writePiece ifNum hlosIndex bufferType frag0phyaddr nbuf.addr piece mss bitFlags
      onPort (nssPktStatsIncrement .txSimple)
      return 1

/-- The loop of both scattering encoders, from segment `i` on: what they put into the
    descriptor filled last, and what they count. -/
def scatterFrom (bufferType : U8) (mss bitFlags : U16) (isFraglist : Bool)
    (last : H2nDescriptor → H2nDescriptor) (stat : DrvStat) :
    ℕ → List TxPiece → U16 → Proc TxCall ℤ
  | i, [], hlosIndex => do
    onPort <| Proc.modify <| H2nPort.onRing fun r => r.amend hlosIndex.toNat last
    onPort (nssPktStatsIncrement stat)
    return i + 1
  | i, piece :: rest, hlosIndex => do
    match ← dmaMap env (i + 2) piece.mapLen piece.page with
    | none => do
      nssCoreSendUnwindDma size isFraglist (i + 1) hlosIndex
      return -(i + 1)
    | some buffer =>
      -- frags[] inside a frag_list are not supported
      if piece.nrFrags > 0 then do
        nssCoreSendUnwindDma size isFraglist (i + 1) hlosIndex
        return -(i + 1)
      else do
        let hlosIndex := (hlosIndex + 1) &&& (size - 1)
        writePiece ifNum hlosIndex bufferType buffer 0 piece mss bitFlags
        scatterFrom bufferType mss bitFlags isFraglist last stat (i + 1) rest hlosIndex

def nssCoreSendBufferNrFrags (hlosIndex flags : U16) (bufferType : U8) (mss : U16) :
    Proc TxCall ℤ := do
  let head := headPiece nbuf.toTxSegment
  match ← dmaMap env 1 head.mapLen head.page with
  | none => return 0
  | some frag0phyaddr => do
    let bitFlags := checksumFlags nbuf (flags ||| H2N_BIT_FLAG_DISCARD)
    writePiece ifNum hlosIndex bufferType frag0phyaddr 0 head mss
      (bitFlags ||| H2N_BIT_FLAG_FIRST_SEGMENT)
    if nbuf.fragSizes.length > env.maxSkbFrags then .halt
    else
      scatterFrom env size ifNum bufferType mss bitFlags false (lastFrag nbuf) .txNrFrags 0
        (nbuf.fragSizes.map (fragPiece nbuf)) hlosIndex

def nssCoreSendBufferFraglist (hlosIndex flags : U16) (bufferType : U8) (mss : U16) :
    Proc TxCall ℤ := do
  let head := headPiece nbuf.toTxSegment
  match ← dmaMap env 1 head.mapLen head.page with
  | none => return 0
  | some frag0phyaddr => do
    let bitFlags := checksumFlags nbuf flags
    writePiece ifNum hlosIndex bufferType frag0phyaddr nbuf.addr head mss
      (bitFlags ||| H2N_BIT_FLAG_FIRST_SEGMENT)
    scatterFrom env size ifNum bufferType mss (bitFlags ||| H2N_BIT_FLAG_DISCARD) true
      lastMember .txFraglist 0 (nbuf.fragList.map headPiece) hlosIndex

end Encoders

section Send
variable (cpu : ℕ) (env : Outside) (ifNum : U32) (nbuf : TxSkb) (bufferType : U8) (flags : U16)

def encode (size hlosIndex : U16) : Proc TxCall ℤ :=
  let offload := nbuf.isGso && !isBounce bufferType
  let mss := if offload then nbuf.gsoSize else 0
  let flags := if offload then flags ||| H2N_BIT_FLAG_SEGMENTATION_ENABLE else flags
  if txSegments nbuf = 0 || isBounce bufferType then
    nssCoreSendBufferSimpleSkb env ifNum nbuf hlosIndex flags bufferType mss
  else if nbuf.hasFragList then
    nssCoreSendBufferFraglist env size ifNum nbuf hlosIndex flags bufferType mss
  else nssCoreSendBufferNrFrags env size ifNum nbuf hlosIndex flags bufferType mss

def sendLocked (size : U16) : Proc TxCall CoreStatus := do
  onPort (spinLockBh cpu)
  let nssIndex ← onPort (Proc.read fun p => p.ring.nssIndexMap.setWidth 16)
  let hlosIndex ← onPort (Proc.read fun p => p.ring.hlosIndex.setWidth 16)
  let count := ringRoom nssIndex hlosIndex size
  if (count.signExtend 32).ult (txSegments nbuf + 1) then onPort queueFull
  else do
    let written ← encode env ifNum nbuf bufferType flags size hlosIndex
    onPort (publishEncoded cpu nbuf size hlosIndex written)

def nssCoreSendBuffer : Proc TxCall CoreStatus := do
  let size ← onPort (Proc.read fun p => p.ring.size)
  if nbuf.hasFragList then
    if (size.signExtend 32).ult (txSegments nbuf) then return .failure
    else sendLocked cpu env ifNum nbuf bufferType flags size
  else if nbuf.fragSizes.length > env.maxSkbFrags then .halt
  else sendLocked cpu env ifNum nbuf bufferType flags size

end Send

/-- `p` does to the ring what `q` does, and comes to the same. -/
def Erases {α : Type} (p : Proc TxCall α) (q : Proc H2nPort α) : Prop :=
  ∀ c, (p.exec c).map (fun r => (r.1, r.2.port)) = q.exec c.port

section Erasure
variable {α β : Type} {p : Proc TxCall α} {q : Proc H2nPort α} {f : α → Proc TxCall β}
  {g : α → Proc H2nPort β}

theorem erases_ret (a : α) : Erases (.ret a) (.ret a) := fun _ => rfl

theorem erases_halt : Erases (.halt : Proc TxCall α) .halt := fun _ => rfl

theorem exec_onPort (q : Proc H2nPort α) (c : TxCall) :
    (onPort q).exec c = (q.exec c.port).map fun r => (r.1, c.setPort r.2) := by
  refine Proc.exec_zoom ?_ ?_ ?_ q c
  · exact fun _ _ => rfl
  · exact fun _ => rfl
  · exact fun _ _ _ => rfl

theorem erases_onPort (q : Proc H2nPort α) : Erases (onPort q) q := by
  intro c
  rw [exec_onPort]
  cases q.exec c.port <;> rfl

theorem Erases.bind (h : Erases p q) (hfg : ∀ a, Erases (f a) (g a)) :
    Erases (p.bind f) (q.bind g) := by
  intro c
  rw [Proc.exec_bind, Proc.exec_bind, ← h c]
  cases p.exec c with
  | none => rfl
  | some r => exact hfg r.1 r.2

theorem Erases.aside {e : TxCall → TxCall} {k : TxCall → Proc TxCall α}
    (he : ∀ c, (e c).port = c.port) (h : ∀ c, Erases (k c) q) :
    Erases (.act (fun _ => true) e k) q := by
  intro c
  have hrest := h c (e c)
  rw [he] at hrest
  exact hrest

theorem erases_modify {e : TxCall → TxCall} {f : Unit → Proc TxCall α}
    (he : ∀ c, (e c).port = c.port) (h : Erases (f ()) q) : Erases (Proc.modify e >>= f) q :=
  .aside he fun _ => h

theorem erases_ite {c : Prop} [Decidable c] {p' : Proc TxCall α} {q' : Proc H2nPort α}
    (h : Erases p q) (h' : Erases p' q') : Erases (if c then p else p') (if c then q else q') := by
  split
  · exact h
  · exact h'

variable {env : Outside} {size : U16} {ifNum : U32} {nbuf : TxSkb} {bufferType : U8} {mss : U16}

theorem erases_dmaMap {i : ℕ} {len : U32} {page : Bool} {f : Option U32 → Proc TxCall β}
    {g : U32 → Proc H2nPort β} {q : Proc H2nPort β} (hnone : Erases (f none) q)
    (hsome : ∀ addr, Erases (f (some addr)) (g addr)) :
    Erases ((dmaMap env i len page).bind f)
      (match env.dma i with
        | none => q
        | some addr => g addr) := by
  unfold dmaMap
  cases env.dma i with
  | none => exact hnone
  | some addr => exact .aside (fun _ => rfl) fun _ => hsome addr

theorem erases_unwind (isFraglist : Bool) (count : ℕ) (hlosIndex : U16) {f : Unit → Proc TxCall α}
    (h : Erases (f ()) q) :
    Erases ((nssCoreSendUnwindDma size isFraglist count hlosIndex).bind f) q := by
  induction count generalizing hlosIndex with
  | zero => exact h
  | succ count ih => exact .aside (fun _ => rfl) fun _ => ih _

theorem erases_writePiece {hlosIndex : U16} {buffer opaqueWord : U32} {piece : TxPiece}
    {bitFlags offs len room : U16} {f : Unit → Proc TxCall β} {g : Unit → Proc H2nPort β}
    (hoffs : piece.offs.setWidth 16 = offs) (hlen : piece.len.setWidth 16 = len)
    (hroom : piece.room.setWidth 16 = room) (h : Erases (f ()) (g ())) :
    Erases (writePiece ifNum hlosIndex bufferType buffer opaqueWord piece mss bitFlags >>= f)
      (nssCoreWriteOneDescriptor hlosIndex bufferType buffer ifNum opaqueWord offs len room
        piece.priority mss bitFlags >>= g) := by
  subst hoffs hlen hroom
  exact (erases_onPort _).bind fun _ => h

theorem erases_simpleSkb {hlosIndex flags : U16} :
    Erases (nssCoreSendBufferSimpleSkb env ifNum nbuf hlosIndex flags bufferType mss)
      (TransmitEncoders.nssCoreSendBufferSimpleSkb env.toTxEnv ifNum nbuf hlosIndex flags bufferType
        mss) := by
  unfold nssCoreSendBufferSimpleSkb TransmitEncoders.nssCoreSendBufferSimpleSkb
  cases reuseMapping env.toTxEnv nbuf with
  | some reuse =>
    obtain ⟨addr, sz⟩ := reuse
    have hsz : (sz.setWidth 32).setWidth 16 = sz := by simp
    dsimp only
    apply erases_modify
    · exact fun _ => rfl
    · apply erases_writePiece rfl rfl hsz
      apply erases_modify
      · exact fun _ => rfl
      · exact (erases_onPort _).bind fun _ => erases_ret 1
  | none =>
    apply erases_dmaMap (erases_ret 0)
    intro addr
    apply erases_writePiece rfl rfl rfl
    exact (erases_onPort _).bind fun _ => erases_ret 1

theorem erases_nrFragsFrom {bitFlags : U16} (rest : List U32) (i : ℕ) (hlosIndex : U16) :
    Erases (scatterFrom env size ifNum bufferType mss bitFlags false (lastFrag nbuf) .txNrFrags i
        (rest.map (fragPiece nbuf)) hlosIndex)
      (nrFragsFrom env.toTxEnv size ifNum nbuf bufferType mss bitFlags i rest hlosIndex) := by
  induction rest generalizing i hlosIndex with
  | nil => exact (erases_onPort _).bind fun _ => (erases_onPort _).bind fun _ => erases_ret _
  | cons frag rest ih =>
    unfold nrFragsFrom
    apply erases_dmaMap
    · exact erases_unwind _ _ _ (erases_ret _)
    · intro buffer
      exact erases_writePiece rfl rfl rfl (ih _ _)

theorem erases_nrFrags {hlosIndex flags : U16} :
    Erases (nssCoreSendBufferNrFrags env size ifNum nbuf hlosIndex flags bufferType mss)
      (TransmitEncoders.nssCoreSendBufferNrFrags env.toTxEnv size ifNum nbuf hlosIndex flags
        bufferType mss) := by
  unfold nssCoreSendBufferNrFrags TransmitEncoders.nssCoreSendBufferNrFrags
  apply erases_dmaMap (erases_ret 0)
  intro addr
  apply erases_writePiece rfl rfl rfl
  exact erases_ite erases_halt (erases_nrFragsFrom _ _ _)

theorem erases_fraglistFrom {bitFlags : U16} (rest : List TxSegment) (i : ℕ) (hlosIndex : U16) :
    Erases (scatterFrom env size ifNum bufferType mss bitFlags true lastMember .txFraglist i
        (rest.map headPiece) hlosIndex)
      (fraglistFrom env.toTxEnv size ifNum bufferType mss bitFlags i rest hlosIndex) := by
  induction rest generalizing i hlosIndex with
  | nil => exact (erases_onPort _).bind fun _ => (erases_onPort _).bind fun _ => erases_ret _
  | cons iter rest ih =>
    unfold fraglistFrom
    apply erases_dmaMap
    · exact erases_unwind _ _ _ (erases_ret _)
    · intro buffer
      apply erases_ite
      · exact erases_unwind _ _ _ (erases_ret _)
      · exact erases_writePiece rfl rfl rfl (ih _ _)

theorem erases_fraglist {hlosIndex flags : U16} :
    Erases (nssCoreSendBufferFraglist env size ifNum nbuf hlosIndex flags bufferType mss)
      (TransmitEncoders.nssCoreSendBufferFraglist env.toTxEnv size ifNum nbuf hlosIndex flags
        bufferType mss) := by
  unfold nssCoreSendBufferFraglist TransmitEncoders.nssCoreSendBufferFraglist
  apply erases_dmaMap (erases_ret 0)
  intro addr
  exact erases_writePiece rfl rfl rfl (erases_fraglistFrom _ _ _)

theorem erases_encode {hlosIndex flags : U16} :
    Erases (encode env ifNum nbuf bufferType flags size hlosIndex)
      (TransmitQueue.encode env.toTxEnv ifNum nbuf bufferType flags size hlosIndex) :=
  erases_ite erases_simpleSkb (erases_ite erases_fraglist erases_nrFrags)

theorem erases_sendLocked {cpu : ℕ} {flags : U16} :
    Erases (sendLocked cpu env ifNum nbuf bufferType flags size)
      (TransmitQueue.sendLocked cpu env.toTxEnv ifNum nbuf bufferType flags size) := by
  refine (erases_onPort _).bind fun _ => (erases_onPort _).bind fun nssIndex => ?_
  refine (erases_onPort _).bind fun hlosIndex => erases_ite (erases_onPort _) ?_
  exact erases_encode.bind fun _ => erases_onPort _

theorem erases_sendBuffer {cpu : ℕ} {flags : U16} :
    Erases (nssCoreSendBuffer cpu env ifNum nbuf bufferType flags)
      (TransmitQueue.nssCoreSendBuffer cpu env.toTxEnv ifNum nbuf bufferType flags) := by
  refine (erases_onPort _).bind fun size => erases_ite ?_ ?_
  · exact erases_ite (erases_ret _) erases_sendLocked
  · exact erases_ite erases_halt erases_sendLocked

end Erasure

end NssDrv.TransmitMappings

import NssDrv.TransmitSegments

set_option autoImplicit false

/-!
# What a transmit says of its packet

Beside the segments, the descriptors of a buffer say how the NSS is to treat the
packet: its checksum, its segmentation, its interface, its type and its priority.
Each of the three encoders sets these for itself.
-/
namespace NssDrv.TransmitMetadata
open HlosInterface SharedThread CyclicIndex DescriptorRing RingLocking TransmitEncoders
open TransmitQueue TransmitMappings TransmitOutcome TransmitFate TransmitSegments

/-- The flags that are about the packet and not about one segment. -/
def packetBits : U16 :=
  H2N_BIT_FLAG_GEN_IP_TRANSPORT_CHECKSUM ||| H2N_BIT_FLAG_GEN_IP_TRANSPORT_CHECKSUM_NONE |||
    H2N_BIT_FLAG_SEGMENTATION_ENABLE

structure PacketMetadata where
  bits : U16
  mss : U16
  interfaceNum : U16
  bufferType : U8
  deriving DecidableEq

def metadata (d : H2nDescriptor) : PacketMetadata where
  bits := d.bitFlags &&& packetBits
  mss := d.mss
  interfaceNum := d.interfaceNum
  bufferType := d.bufferType

/-- Every descriptor of the buffer says `x` of the packet, and the head has its priority. -/
structure Tells (nbuf : TxSkb) (c c' : TxCall) (x : PacketMetadata) (priority : U32) : Prop where
  each : ∀ j < (segments nbuf).length,
    metadata (c'.port.ring.desc (advance c.port.ring.size.toNat (nextSlot c) j)) = x
  head : (c'.port.ring.desc (nextSlot c)).qosTag = priority

/-- Two buffers that may only differ in their shape. -/
structure Alike (nbuf nbuf' : TxSkb) : Prop where
  ipSummed : nbuf'.ipSummed = nbuf.ipSummed
  gsoSize : nbuf'.gsoSize = nbuf.gsoSize
  priority : nbuf'.priority = nbuf.priority

def offloadFlags (nbuf : TxSkb) (flags : U16) : U16 :=
  if nbuf.isGso then flags ||| H2N_BIT_FLAG_SEGMENTATION_ENABLE else flags

/-- The flags that a buffer is sent with. Only `nss_core_send_buffer_simple_skb` says
    that no checksum is needed. -/
def sentFlags (nbuf : TxSkb) (flags : U16) : U16 :=
  match nbuf.ipSummed with
  | .checksumPartial => offloadFlags nbuf flags ||| H2N_BIT_FLAG_GEN_IP_TRANSPORT_CHECKSUM
  | .checksumUnnecessary =>
    if txSegments nbuf = 0 then
      offloadFlags nbuf flags ||| H2N_BIT_FLAG_GEN_IP_TRANSPORT_CHECKSUM_NONE
    else offloadFlags nbuf flags
  | _ => offloadFlags nbuf flags

def sentMss (nbuf : TxSkb) : U16 := if nbuf.isGso then nbuf.gsoSize else 0

def sentMetadata (nbuf : TxSkb) (ifNum : U32) (bufferType : U8) (flags : U16) : PacketMetadata where
  bits := sentFlags nbuf flags &&& packetBits
  mss := sentMss nbuf
  interfaceNum := (ifNum.setWidth 8).signExtend 16
  bufferType := bufferType

section Bits
variable {x y : U16}

theorem or_packetBits (hy : y &&& packetBits = 0) : (x ||| y) &&& packetBits = x &&& packetBits := by
  rw [BitVec.and_or_distrib_right, hy]
  exact BitVec.or_zero

theorem or_packetBits_congr {z : U16} (h : x &&& packetBits = y &&& packetBits) :
    (x ||| z) &&& packetBits = (y ||| z) &&& packetBits := by
  rw [BitVec.and_or_distrib_right, BitVec.and_or_distrib_right, h]

theorem undiscard_packetBits :
    (x &&& ~~~H2N_BIT_FLAG_DISCARD) &&& packetBits = x &&& packetBits := by
  rw [BitVec.and_assoc]
  rfl

theorem checksum_packetBits (nbuf : TxSkb) (h : x &&& packetBits = y &&& packetBits) :
    checksumFlags nbuf x &&& packetBits = checksumFlags nbuf y &&& packetBits := by
  unfold checksumFlags
  split
  · exact or_packetBits_congr h
  · exact h

theorem single_packetBits (nbuf : TxSkb) (flags : U16) (hzero : txSegments nbuf = 0) :
    (match nbuf.ipSummed with
      | .checksumPartial => offloadFlags nbuf flags ||| H2N_BIT_FLAG_FIRST_SEGMENT |||
          H2N_BIT_FLAG_LAST_SEGMENT ||| H2N_BIT_FLAG_GEN_IP_TRANSPORT_CHECKSUM
      | .checksumUnnecessary => offloadFlags nbuf flags ||| H2N_BIT_FLAG_FIRST_SEGMENT |||
          H2N_BIT_FLAG_LAST_SEGMENT ||| H2N_BIT_FLAG_GEN_IP_TRANSPORT_CHECKSUM_NONE
      | _ => offloadFlags nbuf flags ||| H2N_BIT_FLAG_FIRST_SEGMENT |||
          H2N_BIT_FLAG_LAST_SEGMENT) &&& packetBits = sentFlags nbuf flags &&& packetBits := by
  have hmarks : (offloadFlags nbuf flags ||| H2N_BIT_FLAG_FIRST_SEGMENT |||
      H2N_BIT_FLAG_LAST_SEGMENT) &&& packetBits = offloadFlags nbuf flags &&& packetBits := by
    rw [or_packetBits rfl, or_packetBits rfl]
  unfold sentFlags
  cases nbuf.ipSummed with
  | checksumPartial => exact or_packetBits_congr hmarks
  | checksumUnnecessary =>
    dsimp only
    rw [if_pos hzero]
    exact or_packetBits_congr hmarks
  | checksumNone => exact hmarks
  | checksumComplete => exact hmarks

theorem scattered_packetBits (nbuf : TxSkb) (flags : U16) (hmore : txSegments nbuf ≠ 0) :
    checksumFlags nbuf (offloadFlags nbuf flags) = sentFlags nbuf flags := by
  unfold checksumFlags sentFlags
  cases nbuf.ipSummed with
  | checksumPartial => rfl
  | checksumUnnecessary =>
    dsimp only
    rw [if_neg hmore]
    rfl
  | checksumNone => rfl
  | checksumComplete => rfl

end Bits

section Encoding
variable {env : Outside} {size : U16} {ifNum : U32} {nbuf : TxSkb} {bufferType : U8} {mss : U16}
  {c₀ c : TxCall} {start k : ℕ} {hlosIndex flags bits : U16} {x : PacketMetadata}
  {ds : List H2nDescriptor} {d : H2nDescriptor} {last : H2nDescriptor → H2nDescriptor}
  {stat : DrvStat}

/-- Where something was sent, a descriptor was filled for every segment, each says `x` of the
    packet, and the first one has its priority. -/
def Told (c₀ : TxCall) (start : ℕ) (nbuf : TxSkb) (x : PacketMetadata) (a : ℤ) (c : TxCall) : Prop :=
  0 < a → ∃ ds, Laid c₀ start ds c ∧ ds.length = (segments nbuf).length ∧
    (∀ d ∈ ds, metadata d = x) ∧ ∀ d, ds[0]? = some d → d.qosTag = nbuf.priority

theorem told_refused {a : ℤ} (ha : a ≤ 0) : Told c₀ start nbuf x a c :=
  fun hpos => absurd ha (not_le.mpr hpos)

theorem patchLast_metadata (hlast : ∀ e, metadata (last e) = metadata e)
    (hds : ∀ e ∈ ds, metadata e = x) : ∀ e ∈ patchLast last ds, metadata e = x := by
  rcases List.eq_nil_or_concat ds with rfl | ⟨front, d, rfl⟩
  · exact hds
  · rw [List.concat_eq_append] at hds ⊢
    rw [patchLast_concat]
    intro e he
    rcases List.mem_append.mp he with hfront | hlast'
    · exact hds e (List.mem_append_left _ hfront)
    · rw [List.mem_singleton.mp hlast', hlast]
      exact hds d List.mem_concat_self

theorem pieceDescs_metadata
    (hx : ∀ piece m, metadata (pieceDesc ifNum bufferType mss bits 0 piece m) = x)
    (pieces : List TxPiece) (ms : List Mapping) :
    ∀ e ∈ pieceDescs ifNum bufferType mss bits pieces ms, metadata e = x := by
  intro e he
  obtain ⟨j, hj⟩ := List.mem_iff_getElem?.mp he
  obtain ⟨piece, m, -, -, rfl⟩ := List.getElem?_zipWith_eq_some.mp hj
  exact hx piece m

theorem whole_told (hlaid : Laid c₀ start [] c) (hstart : start < c₀.port.ring.size.toNat)
    (hzero : txSegments nbuf = 0) {c' : TxCall} (hring : c'.port.ring = c.port.ring.fill start d)
    (hcount : c'.port.stats .nssSkbCount = c.port.stats .nssSkbCount) (hd : metadata d = x)
    (hprio : d.qosTag = nbuf.priority) : Told c₀ start nbuf x 1 c' := by
  intro _
  have hfill := hlaid.fill hstart (Nat.zero_lt_of_lt hstart) (advance_zero hstart).symm d
  refine ⟨[d], hfill.frame hring hcount, ?_, ?_, ?_⟩
  · unfold segments
    rw [if_pos hzero]
    rfl
  · intro e he
    rw [List.mem_singleton.mp he]
    exact hd
  · intro e he
    rw [← Option.some.inj he]
    exact hprio

theorem simpleSkb_told (hring : c₀.port.ring.size = size) (hstart : start < size.toNat)
    (hlaid : Laid c₀ start [] c₀) (hidx : hlosIndex.toNat = start) (hzero : txSegments nbuf = 0) :
    Post (Told c₀ start nbuf (sentMetadata nbuf ifNum bufferType flags))
      (TransmitMappings.nssCoreSendBufferSimpleSkb env ifNum nbuf hlosIndex (offloadFlags nbuf flags)
        bufferType (sentMss nbuf)) c₀ := by
  have hstart' : start < c₀.port.ring.size.toNat := hring ▸ hstart
  have hbits := single_packetBits nbuf flags hzero
  subst hidx
  unfold TransmitMappings.nssCoreSendBufferSimpleSkb
  cases hreuse : reuseMapping env.toTxEnv nbuf with
  | some reuse =>
    obtain ⟨addr, sz⟩ := reuse
    apply post_modify
    refine post_writePiece ⟨addr, sz.setWidth 32, false⟩ ?_
    apply post_modify
    apply post_onModify
    refine post_ret (whole_told hlaid hstart' hzero rfl ?_ ?_ rfl)
    · exact DrvStats.add_of_ne _ 1 (show DrvStat.nssSkbCount ≠ .txBufferReuse by decide)
    · exact congrArg (PacketMetadata.mk · _ _ _) ((or_packetBits rfl).trans hbits)
  | none =>
    apply post_dmaMap
    · exact fun _ => post_ret (told_refused le_rfl)
    · intro addr _
      refine post_writePiece ⟨addr, nbuf.tail - nbuf.head, false⟩ ?_
      apply post_onModify
      refine post_ret (whole_told hlaid hstart' hzero rfl ?_ ?_ rfl)
      · exact DrvStats.add_of_ne _ 1 (show DrvStat.nssSkbCount ≠ .txSimple by decide)
      · exact congrArg (PacketMetadata.mk · _ _ _) hbits

theorem behind_told (hk : k < 16) (hsize : size.toNat = 2 ^ k) (hring : c₀.port.ring.size = size)
    (hstart : start < size.toNat) (hlaid : Laid c₀ start [d] c) {m : Mapping}
    (hlog : Logged [m] [] nbuf c) (hroom : (morePieces nbuf).length + 1 < size.toNat)
    (hidx : hlosIndex.toNat = start) (hstat : DrvStat.nssSkbCount ≠ stat)
    (hlast : ∀ e, metadata (last e) = metadata e) (hqos : ∀ e, (last e).qosTag = e.qosTag)
    (hd : metadata d = x) (hprio : d.qosTag = nbuf.priority)
    (hrest : ∀ ms, ∀ e ∈ pieceDescs ifNum bufferType mss bits (morePieces nbuf) ms, metadata e = x) :
    Post (Told c₀ start nbuf x)
      (scatterFrom env size ifNum bufferType mss bits nbuf.hasFragList last stat 0
        (morePieces nbuf) hlosIndex) c := by
  have hslot : hlosIndex.toNat = advance size.toNat start 0 := by rw [hidx, advance_zero hstart]
  refine Post.mono (scatterFrom_post hk hsize hring hstart hstat hlaid hlog (Nat.zero_add 1).symm
    ?_ hslot) ?_
  · omega
  rintro a t (⟨-, ms, hsent⟩ | ⟨⟨-, ha⟩, -⟩)
  · intro _
    refine ⟨_, hsent.toLaid, ?_, ?_, ?_⟩
    · rw [length_patchLast, List.length_append, pieceDescs, List.length_zipWith, hsent.all,
        Nat.min_self, length_segments, length_morePieces, Nat.add_comm]
      rfl
    · apply patchLast_metadata hlast
      intro e he
      rcases List.mem_append.mp he with hhead | hbehind
      · rw [List.mem_singleton.mp hhead]
        exact hd
      · exact hrest ms e hbehind
    · intro e he
      rw [getElem?_patchLast] at he
      obtain ⟨e', he', hpatched⟩ := Option.map_eq_some_iff.mp he
      have hfirst : e' = d := (Option.some.inj he').symm
      rw [← hpatched, ← hprio, ← hfirst]
      split
      · exact hqos e'
      · rfl
  · exact told_refused ha

theorem nrFrags_told (hk : k < 16) (hsize : size.toNat = 2 ^ k) (hring : c₀.port.ring.size = size)
    (hstart : start < size.toNat) (hlaid : Laid c₀ start [] c₀) (hlog : Logged [] [] nbuf c₀)
    (hroom : (morePieces nbuf).length + 1 < size.toNat) (hidx : hlosIndex.toNat = start)
    (hmore : txSegments nbuf ≠ 0) (hone : nbuf.hasFragList = false) :
    Post (Told c₀ start nbuf (sentMetadata nbuf ifNum bufferType flags))
      (TransmitMappings.nssCoreSendBufferNrFrags env size ifNum nbuf hlosIndex
        (offloadFlags nbuf flags) bufferType (sentMss nbuf)) c₀ := by
  have hstart' : start < c₀.port.ring.size.toNat := hring ▸ hstart
  have hpieces : morePieces nbuf = nbuf.fragSizes.map (fragPiece nbuf) := by
    unfold morePieces
    rw [hone]
    rfl
  have hbits : checksumFlags nbuf (offloadFlags nbuf flags ||| H2N_BIT_FLAG_DISCARD) &&& packetBits =
      sentFlags nbuf flags &&& packetBits := by
    rw [← scattered_packetBits nbuf flags hmore]
    exact checksum_packetBits nbuf (or_packetBits rfl)
  unfold TransmitMappings.nssCoreSendBufferNrFrags
  apply post_dmaMap
  · exact fun _ => post_ret (told_refused le_rfl)
  · intro addr _
    let m : Mapping := ⟨addr, nbuf.tail - nbuf.head, false⟩
    refine post_writePiece m ?_
    dsimp only
    by_cases hmax : nbuf.fragSizes.length > env.maxSkbFrags
    · rw [if_pos hmax]
      exact post_halt
    · rw [if_neg hmax, ← hpieces, ← hone]
      apply behind_told hk hsize hring hstart
      · exact head_laid hlaid hstart' hidx _
      · exact ⟨congrArg (· ++ [m]) hlog.maps, hlog.unmaps, hlog.nbuf⟩
      · exact hroom
      · exact hidx
      · decide
      · intro e
        exact congrArg (PacketMetadata.mk · _ _ _) (undiscard_packetBits.trans (or_packetBits rfl))
      · exact fun _ => rfl
      · exact congrArg (PacketMetadata.mk · _ _ _) ((or_packetBits rfl).trans hbits)
      · rfl
      · apply pieceDescs_metadata
        exact fun _ _ => congrArg (PacketMetadata.mk · _ _ _) hbits

theorem fraglist_told (hk : k < 16) (hsize : size.toNat = 2 ^ k) (hring : c₀.port.ring.size = size)
    (hstart : start < size.toNat) (hlaid : Laid c₀ start [] c₀) (hlog : Logged [] [] nbuf c₀)
    (hroom : (morePieces nbuf).length + 1 < size.toNat) (hidx : hlosIndex.toNat = start)
    (hmore : txSegments nbuf ≠ 0) (hmany : nbuf.hasFragList = true) :
    Post (Told c₀ start nbuf (sentMetadata nbuf ifNum bufferType flags))
      (TransmitMappings.nssCoreSendBufferFraglist env size ifNum nbuf hlosIndex
        (offloadFlags nbuf flags) bufferType (sentMss nbuf)) c₀ := by
  have hstart' : start < c₀.port.ring.size.toNat := hring ▸ hstart
  have hpieces : morePieces nbuf = nbuf.fragList.map headPiece := by
    unfold morePieces
    rw [hmany]
    rfl
  have hbits : checksumFlags nbuf (offloadFlags nbuf flags) &&& packetBits =
      sentFlags nbuf flags &&& packetBits := by
    rw [scattered_packetBits nbuf flags hmore]
  unfold TransmitMappings.nssCoreSendBufferFraglist
  apply post_dmaMap
  · exact fun _ => post_ret (told_refused le_rfl)
  · intro addr _
    let m : Mapping := ⟨addr, nbuf.tail - nbuf.head, false⟩
    refine post_writePiece m ?_
    dsimp only
    rw [← hpieces, ← hmany]
    apply behind_told hk hsize hring hstart
    · exact head_laid hlaid hstart' hidx _
    · exact ⟨congrArg (· ++ [m]) hlog.maps, hlog.unmaps, hlog.nbuf⟩
    · exact hroom
    · exact hidx
    · decide
    · intro e
      exact congrArg (PacketMetadata.mk · _ _ _) (or_packetBits rfl)
    · exact fun _ => rfl
    · refine congrArg (PacketMetadata.mk · _ _ _) (Eq.trans ?_ hbits)
      exact or_packetBits rfl
    · rfl
    · apply pieceDescs_metadata
      intro piece m'
      refine congrArg (PacketMetadata.mk · _ _ _) (Eq.trans ?_ hbits)
      exact or_packetBits rfl

theorem encode_told (hk : k < 16) (hsize : size.toNat = 2 ^ k) (hring : c₀.port.ring.size = size)
    (hstart : start < size.toNat) (hlaid : Laid c₀ start [] c₀) (hlog : Logged [] [] nbuf c₀)
    (hroom : (txSegments nbuf).toNat + 1 < size.toNat) (hidx : hlosIndex.toNat = start)
    (hbounce : isBounce bufferType = false) :
    Post (Told c₀ start nbuf (sentMetadata nbuf ifNum bufferType flags))
      (TransmitMappings.encode env ifNum nbuf bufferType flags size hlosIndex) c₀ := by
  rw [← length_morePieces] at hroom
  unfold TransmitMappings.encode
  rw [hbounce, Bool.not_false, Bool.and_true]
  dsimp only
  by_cases hzero : txSegments nbuf = 0
  · rw [if_pos (by rw [decide_eq_true hzero]; rfl)]
    exact simpleSkb_told hring hstart hlaid hidx hzero
  · rw [if_neg (by rw [decide_eq_false hzero]; exact Bool.false_ne_true)]
    by_cases hmany : nbuf.hasFragList = true
    · rw [if_pos hmany]
      exact fraglist_told hk hsize hring hstart hlaid hlog hroom hidx hzero hmany
    · rw [if_neg hmany]
      exact nrFrags_told hk hsize hring hstart hlaid hlog hroom hidx hzero
        (Bool.not_eq_true _ ▸ hmany)

end Encoding

section Sent
variable {cpu : ℕ} {env : Outside} {ifNum : U32} {nbuf : TxSkb} {bufferType : U8} {flags : U16}
  {c c' : TxCall}

theorem outcome_pos {size : U16} {k : ℕ} {a : ℤ} {t : TxCall} (hsize : size.toNat = 2 ^ k)
    (hk : k ≤ 14) (hroom : (txSegments nbuf).toNat + 1 < size.toNat)
    (hout : Outcome env (locked cpu c) (nextSlot c) ifNum nbuf bufferType flags a t) :
    ¬ (BitVec.ofInt 16 a).toInt ≤ 0 → 0 < a := by
  have hsize' : size.toNat ≤ 2 ^ 14 := by
    rw [hsize]
    exact Nat.pow_le_pow_right (by decide) hk
  have hlength := length_morePieces nbuf
  intro hpos
  rcases hout with ⟨descs, ms, nb, rfl, ⟨hlow, -⟩, -⟩ | ⟨⟨hlow, hhigh⟩, -⟩
  · omega
  · rw [count_toInt (by omega) (by omega)] at hpos
    omega

theorem publish_tells {size hlosIndex : U16} {a : ℤ} {t : TxCall} {x : PacketMetadata}
    (hpos : ¬ (BitVec.ofInt 16 a).toInt ≤ 0 → 0 < a) (hhlos : nextSlot c < c.port.ring.size.toNat)
    (htold : Told (locked cpu c) (nextSlot c) nbuf x a t) :
    Post (fun v t => v = .success → Tells nbuf c t x nbuf.priority)
      (onPort (publishEncoded cpu nbuf size hlosIndex a)) t := by
  apply post_last
  intro v p' hexec hv
  by_cases hnone : (BitVec.ofInt 16 a).toInt ≤ 0
  · rw [publish_failed hnone] at hexec
    rw [← (Prod.mk.inj (Option.some.inj hexec)).1] at hv
    cases hv
  · obtain ⟨-, hdesc, -⟩ := publish_sent hnone hexec
    obtain ⟨ds, hlaid, hlength, hall, hprio⟩ := htold (hpos hnone)
    have hslot : ∀ j < ds.length,
        ds[j]? = some (p'.ring.desc (advance c.port.ring.size.toNat (nextSlot c) j)) := by
      intro j hj
      rw [hdesc]
      exact window_getElem? hlaid.filled hj
    have hsegments : 0 < ds.length := by
      rw [hlength, length_segments]
      exact Nat.succ_pos _
    constructor
    · intro j hj
      exact hall _ (List.mem_of_getElem? (hslot j (hlength ▸ hj)))
    · have hfirst := hslot 0 hsegments
      rw [advance_zero hhlos] at hfirst
      exact hprio _ hfirst

theorem sent_tells (h : Ready nbuf c)
    (hexec : (TransmitMappings.nssCoreSendBuffer cpu env ifNum nbuf bufferType flags).exec c =
      some (.success, c'))
    (hbounce : isBounce bufferType = false) :
    Tells nbuf c c' (sentMetadata nbuf ifNum bufferType flags) nbuf.priority := by
  obtain ⟨k, hk, hpow⟩ := h.ring.pow
  have hstart : nextSlot c < c.port.ring.size.toNat := h.ring.hlos
  have hring : (locked cpu c).port.ring.size = c.port.ring.size := rfl
  have hlaid : Laid (locked cpu c) (nextSlot c) [] (locked cpu c) := Laid.refl rfl
  have hlog : Logged [] [] nbuf (locked cpu c) := ⟨h.maps, h.unmaps, h.nbuf⟩
  have hpost : Post (fun v t => v = .success →
      Tells nbuf c t (sentMetadata nbuf ifNum bufferType flags) nbuf.priority)
      (TransmitMappings.nssCoreSendBuffer cpu env ifNum nbuf bufferType flags) c := by
    refine send_rule h (fun v t hv _ _ _ hsuccess => absurd hsuccess hv) ?_
    intro hlosIndex hidx hfree hroom
    have hfit : (txSegments nbuf).toNat + 1 < c.port.ring.size.toNat := by omega
    refine Post.bind (Q := fun a t =>
      Outcome env (locked cpu c) (nextSlot c) ifNum nbuf bufferType flags a t ∧
        Told (locked cpu c) (nextSlot c) nbuf (sentMetadata nbuf ifNum bufferType flags) a t) ?_ ?_
    · intro a t hencode
      constructor
      · exact encode_post (by omega) hpow hring hstart hlaid hlog hfit hidx a t hencode
      · exact encode_told (by omega) hpow hring hstart hlaid hlog hfit hidx hbounce a t hencode
    · rintro a t ⟨hout, htold⟩
      exact publish_tells (outcome_pos hpow hk hfit hout) hstart htold
  exact hpost .success c' hexec rfl

end Sent

section Agreement
variable {nbuf nbuf' : TxSkb} {ifNum : U32} {bufferType : U8} {flags : U16}

/-- Below 128 the detour over `int8_t` loses nothing. -/
theorem interfaceNum_toNat (h : ifNum.toNat < NSS_MAX_NET_INTERFACES) :
    ((ifNum.setWidth 8).signExtend 16).toNat = ifNum.toNat := by
  have hmax : ifNum.toNat < 128 := h
  have hbyte : (ifNum.setWidth 8).toNat = ifNum.toNat := by
    rw [BitVec.toNat_setWidth]
    exact Nat.mod_eq_of_lt (by omega)
  have hsign : (ifNum.setWidth 8).msb = false := by
    rw [BitVec.msb_eq_false_iff_two_mul_lt, hbyte]
    omega
  rw [BitVec.signExtend_eq_setWidth_of_msb_false hsign, BitVec.toNat_setWidth, hbyte]
  exact Nat.mod_eq_of_lt (by omega)

theorem Alike.sentMss (h : Alike nbuf nbuf') : sentMss nbuf' = sentMss nbuf := by
  unfold TransmitMetadata.sentMss TxSkb.isGso
  rw [h.gsoSize]

theorem Alike.offloadFlags (h : Alike nbuf nbuf') (flags : U16) :
    offloadFlags nbuf' flags = offloadFlags nbuf flags := by
  unfold TransmitMetadata.offloadFlags TxSkb.isGso
  rw [h.gsoSize]

theorem noChecksum_twoPow : H2N_BIT_FLAG_GEN_IP_TRANSPORT_CHECKSUM_NONE = BitVec.twoPow 16 4 := rfl

theorem offloadFlags_bit : (offloadFlags nbuf flags).getLsbD 4 = flags.getLsbD 4 := by
  unfold offloadFlags
  split
  · exact or_getLsbD rfl
  · rfl

/-- Only where the caller's flags have it already does it not matter whether it is added. -/
theorem or_noChecksum_iff {x : U16} :
    (x ||| H2N_BIT_FLAG_GEN_IP_TRANSPORT_CHECKSUM_NONE) &&& packetBits = x &&& packetBits ↔
      x.getLsbD 4 = true := by
  constructor
  · intro h
    have hbit := congrArg (·.getLsbD 4) h
    simp only [BitVec.getLsbD_and, BitVec.getLsbD_or] at hbit
    have hmask : packetBits.getLsbD 4 = true := rfl
    have hnone : H2N_BIT_FLAG_GEN_IP_TRANSPORT_CHECKSUM_NONE.getLsbD 4 = true := rfl
    rw [hmask, hnone, Bool.or_true, Bool.and_true, Bool.and_true] at hbit
    exact hbit.symm
  · intro h
    have hsame : x ||| H2N_BIT_FLAG_GEN_IP_TRANSPORT_CHECKSUM_NONE = x := by
      apply BitVec.eq_of_getLsbD_eq
      intro i _
      rw [BitVec.getLsbD_or, noChecksum_twoPow, BitVec.getLsbD_twoPow]
      by_cases hi : 4 = i
      · rw [← hi, h, Bool.true_or]
      · rw [decide_eq_false hi, Bool.and_false, Bool.or_false]
    rw [hsame]

theorem sentFlags_agree (h : Alike nbuf nbuf') :
    sentFlags nbuf' flags &&& packetBits = sentFlags nbuf flags &&& packetBits ↔
      (nbuf.ipSummed = .checksumUnnecessary →
        flags &&& H2N_BIT_FLAG_GEN_IP_TRANSPORT_CHECKSUM_NONE = 0 →
          (txSegments nbuf' = 0 ↔ txSegments nbuf = 0)) := by
  have hclear : flags &&& H2N_BIT_FLAG_GEN_IP_TRANSPORT_CHECKSUM_NONE = 0 ↔
      ¬ (offloadFlags nbuf flags).getLsbD 4 = true := by
    rw [offloadFlags_bit, ← and_twoPow_ne flags 4 (by decide), ← noChecksum_twoPow, not_not]
  have hmixed : ∀ {p : Prop}, ¬ p → ((offloadFlags nbuf flags).getLsbD 4 = true ↔
      (IpSummed.checksumUnnecessary = .checksumUnnecessary →
        ¬ (offloadFlags nbuf flags).getLsbD 4 = true → p)) := by
    intro p hp
    constructor
    · exact fun hbit _ hclear => absurd hbit hclear
    · exact fun hall => by_contra fun hbit => hp (hall rfl hbit)
  unfold sentFlags
  rw [h.ipSummed, h.offloadFlags, hclear]
  cases nbuf.ipSummed with
  | checksumUnnecessary =>
    dsimp only
    by_cases hzero : txSegments nbuf = 0
    · by_cases hzero' : txSegments nbuf' = 0
      · rw [if_pos hzero, if_pos hzero']
        exact ⟨fun _ _ _ => iff_of_true hzero' hzero, fun _ => rfl⟩
      · rw [if_pos hzero, if_neg hzero', eq_comm, or_noChecksum_iff]
        exact hmixed fun hsame => hzero' (hsame.mpr hzero)
    · by_cases hzero' : txSegments nbuf' = 0
      · rw [if_neg hzero, if_pos hzero', or_noChecksum_iff]
        exact hmixed fun hsame => hzero (hsame.mp hzero')
      · rw [if_neg hzero, if_neg hzero']
        exact ⟨fun _ _ _ => iff_of_false hzero' hzero, fun _ => rfl⟩
  | checksumPartial => exact ⟨fun _ => nofun, fun _ => rfl⟩
  | checksumNone => exact ⟨fun _ => nofun, fun _ => rfl⟩
  | checksumComplete => exact ⟨fun _ => nofun, fun _ => rfl⟩

variable {cpu cpu' : ℕ} {env env' : Outside} {c c' d d' : TxCall}

/-- What is said of a packet does not depend on its shape exactly where a checksum that is
    not needed is not left unsaid by one of the encoders. -/
theorem metadata_agrees_iff (halike : Alike nbuf nbuf') (h : Ready nbuf c) (h' : Ready nbuf' d)
    (hexec : (TransmitMappings.nssCoreSendBuffer cpu env ifNum nbuf bufferType flags).exec c =
      some (.success, c'))
    (hexec' : (TransmitMappings.nssCoreSendBuffer cpu' env' ifNum nbuf' bufferType flags).exec d =
      some (.success, d'))
    (hbounce : isBounce bufferType = false) (hif : ifNum.toNat < NSS_MAX_NET_INTERFACES) :
    (∃ x, x.interfaceNum.toNat = ifNum.toNat ∧ x.bufferType = bufferType ∧
      Tells nbuf c c' x nbuf.priority ∧ Tells nbuf' d d' x nbuf.priority) ↔
      (nbuf.ipSummed = .checksumUnnecessary →
        flags &&& H2N_BIT_FLAG_GEN_IP_TRANSPORT_CHECKSUM_NONE = 0 →
          (txSegments nbuf' = 0 ↔ txSegments nbuf = 0)) := by
  have htells := sent_tells h hexec hbounce
  have htells' := sent_tells h' hexec' hbounce
  rw [← sentFlags_agree halike]
  constructor
  · rintro ⟨x, -, -, hx, hx'⟩
    have hpos : ∀ nbuf, 0 < (segments nbuf).length := by
      intro nbuf
      rw [length_segments]
      exact Nat.succ_pos _
    have hsame := (htells.each 0 (hpos nbuf)).symm.trans (hx.each 0 (hpos nbuf))
    have hsame' := (htells'.each 0 (hpos nbuf')).symm.trans (hx'.each 0 (hpos nbuf'))
    exact congrArg PacketMetadata.bits (hsame'.trans hsame.symm)
  · intro hbits
    have hmeta : sentMetadata nbuf' ifNum bufferType flags = sentMetadata nbuf ifNum bufferType flags := by
      unfold sentMetadata
      rw [hbits, halike.sentMss]
    rw [hmeta, halike.priority] at htells'
    exact ⟨_, interfaceNum_toNat hif, rfl, htells, htells'⟩

end Agreement

/-- The same buffer without what is behind its head. -/
def headOnly (nbuf : TxSkb) : TxSkb :=
  { nbuf with
    len := nbuf.len - nbuf.dataLen
    dataLen := 0
    nrFrags := 0
    fragSizes := []
    fragList := []
    fragSizes_lt := TxSkb.noFrags_lt
    fragList_lt := TxSkb.noFragList_lt }

theorem headOnly_alike (nbuf : TxSkb) : Alike nbuf (headOnly nbuf) := ⟨rfl, rfl, rfl⟩

theorem metadata_agrees_iff_paged : ∃ c' d',
    (TransmitMappings.nssCoreSendBuffer 0 allMapped 3 pagedSkb H2N_BUFFER_PACKET 0).exec
      (idleCall 8 pagedSkb) = some (.success, c') ∧
    (TransmitMappings.nssCoreSendBuffer 0 allMapped 3 (headOnly pagedSkb) H2N_BUFFER_PACKET 0).exec
      (idleCall 8 (headOnly pagedSkb)) = some (.success, d') ∧
    ∃ x, x.interfaceNum.toNat = 3 ∧ x.bufferType = H2N_BUFFER_PACKET ∧
      Tells pagedSkb (idleCall 8 pagedSkb) c' x 0 ∧
      Tells (headOnly pagedSkb) (idleCall 8 (headOnly pagedSkb)) d' x 0 := by
  have hrun : ∃ c', (TransmitMappings.nssCoreSendBuffer 0 allMapped 3 pagedSkb H2N_BUFFER_PACKET
      0).exec (idleCall 8 pagedSkb) = some (.success, c') := ⟨_, rfl⟩
  have hrun' : ∃ d', (TransmitMappings.nssCoreSendBuffer 0 allMapped 3 (headOnly pagedSkb)
      H2N_BUFFER_PACKET 0).exec (idleCall 8 (headOnly pagedSkb)) = some (.success, d') := ⟨_, rfl⟩
  obtain ⟨c', hexec⟩ := hrun
  obtain ⟨d', hexec'⟩ := hrun'
  have hready : ∀ nbuf, Ready nbuf (idleCall 8 nbuf) :=
    fun nbuf => idleCall_ready (k := 3) (by decide) rfl
  exact ⟨c', d', hexec, hexec', (metadata_agrees_iff (headOnly_alike pagedSkb) (hready _) (hready _)
    hexec hexec' rfl (by decide)).mpr nofun⟩

def verifiedSkb : TxSkb := { pagedSkb with ipSummed := .checksumUnnecessary }

theorem metadata_disagrees : ∃ c' d',
    (TransmitMappings.nssCoreSendBuffer 0 allMapped 3 verifiedSkb H2N_BUFFER_PACKET 0).exec
      (idleCall 8 verifiedSkb) = some (.success, c') ∧
    (TransmitMappings.nssCoreSendBuffer 0 allMapped 3 (headOnly verifiedSkb) H2N_BUFFER_PACKET
      0).exec (idleCall 8 (headOnly verifiedSkb)) = some (.success, d') ∧
    ¬ ∃ x, Tells verifiedSkb (idleCall 8 verifiedSkb) c' x 0 ∧
      Tells (headOnly verifiedSkb) (idleCall 8 (headOnly verifiedSkb)) d' x 0 := by
  have hrun : ∃ c', (TransmitMappings.nssCoreSendBuffer 0 allMapped 3 verifiedSkb H2N_BUFFER_PACKET
      0).exec (idleCall 8 verifiedSkb) = some (.success, c') ∧
        (metadata (c'.port.ring.desc 0)).bits = 0 := ⟨_, rfl, rfl⟩
  have hrun' : ∃ d', (TransmitMappings.nssCoreSendBuffer 0 allMapped 3 (headOnly verifiedSkb)
      H2N_BUFFER_PACKET 0).exec (idleCall 8 (headOnly verifiedSkb)) = some (.success, d') ∧
        (metadata (d'.port.ring.desc 0)).bits = H2N_BIT_FLAG_GEN_IP_TRANSPORT_CHECKSUM_NONE :=
    ⟨_, rfl, rfl⟩
  obtain ⟨c', hexec, hunsaid⟩ := hrun
  obtain ⟨d', hexec', hsaid⟩ := hrun'
  refine ⟨c', d', hexec, hexec', ?_⟩
  rintro ⟨x, htells, htells'⟩
  have hsame : metadata (c'.port.ring.desc 0) = x := htells.each 0 (by decide)
  have hsame' : metadata (d'.port.ring.desc 0) = x := htells'.each 0 (by decide)
  rw [hsame', ← hsame, hunsaid] at hsaid
  cases hsaid

end NssDrv.TransmitMetadata

import NssDrv.TransmitFate

set_option autoImplicit false

/-!
# The segments of a transmitted buffer

What each descriptor of a buffer that was taken says of the segment it stands for,
which of them carries the skb, and what their lengths add up to.
-/
namespace NssDrv.TransmitSegments
open HlosInterface SharedThread CyclicIndex DescriptorRing RingLocking TransmitEncoders
open TransmitQueue TransmitMappings TransmitOutcome TransmitFate

def segments (nbuf : TxSkb) : List TxPiece :=
  if txSegments nbuf = 0 then [{ headPiece nbuf.toTxSegment with len := nbuf.len }]
  else headPiece nbuf.toTxSegment :: morePieces nbuf

theorem length_segments (nbuf : TxSkb) :
    (segments nbuf).length = (txSegments nbuf).toNat + 1 := by
  unfold segments
  split
  · rename_i hzero
    rw [hzero]
    rfl
  · rw [List.length_cons, length_morePieces]

/-- The descriptor that comes back with the skb: the head of a frag_list, the last page
    of `frags[]`. -/
def holder (nbuf : TxSkb) : ℕ := if nbuf.hasFragList then 0 else (txSegments nbuf).toNat

def carries (d : H2nDescriptor) (flag : U16) : Prop := d.bitFlags &&& flag ≠ 0

/-- What descriptor `j` says, lengths and offsets aside. -/
structure Placed (env : Outside) (nbuf : TxSkb) (j : ℕ) (d : H2nDescriptor) : Prop where
  first : carries d H2N_BIT_FLAG_FIRST_SEGMENT ↔ j = 0
  last : carries d H2N_BIT_FLAG_LAST_SEGMENT ↔ j = (txSegments nbuf).toNat
  discard : ¬ carries d H2N_BIT_FLAG_DISCARD ↔ j = holder nbuf
  cookie : d.opaqueWord = if j = holder nbuf then nbuf.addr else 0
  buffer : env.dma (j + 1) = some d.buffer ∨ j = 0 ∧ env.dma 0 = some d.buffer

/-- Descriptor `j` describes its segment. -/
structure Describes (env : Outside) (nbuf : TxSkb) (j : ℕ) (piece : TxPiece) (d : H2nDescriptor) :
    Prop extends Placed env nbuf j d where
  offs : d.payloadOffs.toNat = piece.offs.toNat
  len : d.payloadLen.toNat = piece.len.toNat

/-- One descriptor for each segment, one after the other from the next slot on, and
    nothing else. -/
structure Scattered (env : Outside) (nbuf : TxSkb) (c c' : TxCall) : Prop where
  index : c'.port.ring.hlosIndex.toNat =
    advance c.port.ring.size.toNat (nextSlot c) (segments nbuf).length
  map : c'.port.ring.hlosIndexMap = c'.port.ring.hlosIndex
  others : ∀ slot, (∀ j < (segments nbuf).length,
    advance c.port.ring.size.toNat (nextSlot c) j ≠ slot) →
      c'.port.ring.desc slot = c.port.ring.desc slot
  described : ∀ j piece, (segments nbuf)[j]? = some piece →
    Describes env nbuf j piece
      (c'.port.ring.desc (advance c.port.ring.size.toNat (nextSlot c) j))

section Marks
variable {d : H2nDescriptor} {flags bits : U16}

theorem and_twoPow_ne (x : U16) (i : ℕ) (hi : i < 16) :
    x &&& BitVec.twoPow 16 i ≠ 0 ↔ x.getLsbD i = true := by
  rw [BitVec.and_twoPow]
  cases x.getLsbD i with
  | true =>
    have hne : BitVec.twoPow 16 i ≠ 0 := by
      intro hzero
      have hbit := congrArg (·.getLsbD i) hzero
      simp [hi] at hbit
    simpa using hne
  | false => simp

theorem carries_first : carries d H2N_BIT_FLAG_FIRST_SEGMENT ↔ d.bitFlags.getLsbD 2 = true :=
  and_twoPow_ne d.bitFlags 2 (by decide)

theorem carries_last : carries d H2N_BIT_FLAG_LAST_SEGMENT ↔ d.bitFlags.getLsbD 3 = true :=
  and_twoPow_ne d.bitFlags 3 (by decide)

theorem carries_discard : carries d H2N_BIT_FLAG_DISCARD ↔ d.bitFlags.getLsbD 7 = true :=
  and_twoPow_ne d.bitFlags 7 (by decide)

/-- The caller has set none of the three marks. -/
structure Unmarked (flags : U16) : Prop where
  first : flags.getLsbD 2 = false
  last : flags.getLsbD 3 = false
  discard : flags.getLsbD 7 = false

def segmentMarks : U16 :=
  H2N_BIT_FLAG_FIRST_SEGMENT ||| H2N_BIT_FLAG_LAST_SEGMENT ||| H2N_BIT_FLAG_DISCARD

theorem unmarked_of_and (h : flags &&& segmentMarks = 0) : Unmarked flags := by
  have hbit : ∀ i, segmentMarks.getLsbD i = true → flags.getLsbD i = false := by
    intro i hi
    have hand := congrArg (·.getLsbD i) h
    simpa [BitVec.getLsbD_and, hi] using hand
  exact ⟨hbit 2 rfl, hbit 3 rfl, hbit 7 rfl⟩

end Marks

/-- What the encoders make of segment `j`. -/
structure Encoded (env : Outside) (nbuf : TxSkb) (j : ℕ) (piece : TxPiece) (d : H2nDescriptor) :
    Prop extends Placed env nbuf j d where
  offs : d.payloadOffs = piece.offs.setWidth 16
  len : d.payloadLen = piece.len.setWidth 16

theorem getElem?_patchLast (f : H2nDescriptor → H2nDescriptor) (ds : List H2nDescriptor) (j : ℕ) :
    (patchLast f ds)[j]? = ds[j]?.map fun d => if j + 1 = ds.length then f d else d := by
  rcases List.eq_nil_or_concat ds with rfl | ⟨front, d, rfl⟩
  · rfl
  · rw [List.concat_eq_append, patchLast_concat, List.length_append, List.length_singleton]
    rcases Nat.lt_trichotomy j front.length with hlt | rfl | hgt
    · rw [List.getElem?_append_left hlt, List.getElem?_append_left hlt, List.getElem?_eq_getElem hlt,
        Option.map_some, if_neg (by omega)]
    · rw [List.getElem?_concat_length, List.getElem?_concat_length, Option.map_some, if_pos rfl]
    · rw [List.getElem?_eq_none, List.getElem?_eq_none]
      · rfl
      · rw [List.length_append, List.length_singleton]
        omega
      · rw [List.length_append, List.length_singleton]
        omega

section Written
variable {env : Outside} {ifNum : U32} {nbuf : TxSkb} {bufferType : U8} {flags mss bits : U16}
  {descs : List H2nDescriptor} {ms : List Mapping} {m : Mapping} {d₀ d : H2nDescriptor}
  {last : H2nDescriptor → H2nDescriptor} {j : ℕ} {piece : TxPiece}
  {P : ℕ → TxPiece → H2nDescriptor → Prop}

/-- Both scattering encoders: the head, the descriptors behind it, and the last one, which
    is patched. -/
theorem scattered_each (hmore : txSegments nbuf ≠ 0) (hall : ms.length = (morePieces nbuf).length)
    (hgiven : Given env 1 (m :: ms)) (hhead : P 0 (headPiece nbuf.toTxSegment) d₀)
    (hmiddle : ∀ j piece m, j + 1 < (txSegments nbuf).toNat → env.dma (j + 2) = some m.addr →
      P (j + 1) piece (pieceDesc ifNum bufferType mss bits 0 piece m))
    (hlast : ∀ j piece m, j + 1 = (txSegments nbuf).toNat → env.dma (j + 2) = some m.addr →
      P (j + 1) piece (last (pieceDesc ifNum bufferType mss bits 0 piece m)))
    (hpiece : (segments nbuf)[j]? = some piece)
    (hdesc : (patchLast last ([d₀] ++ pieceDescs ifNum bufferType mss bits (morePieces nbuf)
      ms))[j]? = some d) :
    P j piece d := by
  have hsegments : segments nbuf = headPiece nbuf.toTxSegment :: morePieces nbuf := by
    unfold segments
    rw [if_neg hmore]
  have hcount : 0 < (txSegments nbuf).toNat := by
    apply Nat.pos_of_ne_zero
    intro hzero
    exact hmore (BitVec.eq_of_toNat_eq hzero)
  have hlength : ([d₀] ++ pieceDescs ifNum bufferType mss bits (morePieces nbuf) ms).length =
      (txSegments nbuf).toNat + 1 := by
    rw [List.length_append, pieceDescs, List.length_zipWith, hall, Nat.min_self, length_morePieces,
      Nat.add_comm]
    rfl
  rw [hsegments] at hpiece
  rw [getElem?_patchLast, hlength] at hdesc
  obtain ⟨d', hd', hpatched⟩ := Option.map_eq_some_iff.mp hdesc
  cases j with
  | zero =>
    rw [if_neg (by omega)] at hpatched
    rw [← Option.some.inj hpiece, ← hpatched, ← Option.some.inj hd']
    exact hhead
  | succ j =>
    have hzip : (List.zipWith (pieceDesc ifNum bufferType mss bits 0) (morePieces nbuf) ms)[j]? =
        some d' := hd'
    obtain ⟨piece', m', hpiece', hm', rfl⟩ := List.getElem?_zipWith_eq_some.mp hzip
    obtain rfl : piece' = piece := Option.some.inj (hpiece'.symm.trans hpiece)
    have hdma : env.dma (j + 2) = some m'.addr := by
      rw [← hgiven (j + 1) m' hm', Nat.add_comm 1]
    by_cases hj : j + 1 = (txSegments nbuf).toNat
    · rw [if_pos (by omega)] at hpatched
      rw [← hpatched]
      exact hlast j piece' m' hj hdma
    · rw [if_neg (by omega)] at hpatched
      rw [← hpatched]
      have hlt := (List.getElem?_eq_some_iff.mp hpiece').1
      rw [length_morePieces] at hlt
      exact hmiddle j piece' m' (by omega) hdma

theorem encoded_of_bits (hfirst : d.bitFlags.getLsbD 2 = decide (j = 0))
    (hlast : d.bitFlags.getLsbD 3 = decide (j = (txSegments nbuf).toNat))
    (hdiscard : d.bitFlags.getLsbD 7 = !decide (j = holder nbuf))
    (hcookie : d.opaqueWord = if j = holder nbuf then nbuf.addr else 0)
    (hbuffer : env.dma (j + 1) = some d.buffer ∨ j = 0 ∧ env.dma 0 = some d.buffer)
    (hoffs : d.payloadOffs = piece.offs.setWidth 16) (hlen : d.payloadLen = piece.len.setWidth 16) :
    Encoded env nbuf j piece d := by
  refine ⟨⟨?_, ?_, ?_, hcookie, hbuffer⟩, hoffs, hlen⟩
  · rw [carries_first, hfirst, decide_eq_true_eq]
  · rw [carries_last, hlast, decide_eq_true_eq]
  · rw [carries_discard, hdiscard, Bool.not_eq_true', decide_eq_false_iff_not, not_not]

theorem first_bits (x : U16) : (x ||| H2N_BIT_FLAG_FIRST_SEGMENT).getLsbD 2 = true ∧
    (x ||| H2N_BIT_FLAG_FIRST_SEGMENT).getLsbD 3 = x.getLsbD 3 ∧
    (x ||| H2N_BIT_FLAG_FIRST_SEGMENT).getLsbD 7 = x.getLsbD 7 := by
  refine ⟨?_, or_getLsbD rfl, or_getLsbD rfl⟩
  rw [BitVec.getLsbD_or]
  exact Bool.or_true _

theorem last_bits (x : U16) : (x ||| H2N_BIT_FLAG_LAST_SEGMENT).getLsbD 2 = x.getLsbD 2 ∧
    (x ||| H2N_BIT_FLAG_LAST_SEGMENT).getLsbD 3 = true ∧
    (x ||| H2N_BIT_FLAG_LAST_SEGMENT).getLsbD 7 = x.getLsbD 7 := by
  refine ⟨or_getLsbD rfl, ?_, or_getLsbD rfl⟩
  rw [BitVec.getLsbD_or]
  exact Bool.or_true _

theorem undiscard_bits (x : U16) : (x &&& ~~~H2N_BIT_FLAG_DISCARD).getLsbD 2 = x.getLsbD 2 ∧
    (x &&& ~~~H2N_BIT_FLAG_DISCARD).getLsbD 3 = x.getLsbD 3 ∧
    (x &&& ~~~H2N_BIT_FLAG_DISCARD).getLsbD 7 = false := by
  refine ⟨?_, ?_, ?_⟩
  · rw [BitVec.getLsbD_and]
    exact Bool.and_true _
  · rw [BitVec.getLsbD_and]
    exact Bool.and_true _
  · rw [BitVec.getLsbD_and]
    exact Bool.and_false _

/-- A segment that is neither the first, nor the last, nor the one with the skb. -/
theorem middle_encoded (hj : j + 1 < (txSegments nbuf).toNat) (hfirst : bits.getLsbD 2 = false)
    (hlast : bits.getLsbD 3 = false) (hdiscard : bits.getLsbD 7 = true)
    (hholder : j + 1 ≠ holder nbuf) (hdma : env.dma (j + 2) = some m.addr) :
    Encoded env nbuf (j + 1) piece (pieceDesc ifNum bufferType mss bits 0 piece m) := by
  apply encoded_of_bits
  · rw [decide_eq_false (Nat.succ_ne_zero j)]
    exact hfirst
  · rw [decide_eq_false (by omega)]
    exact hlast
  · rw [decide_eq_false hholder]
    exact hdiscard
  · rw [if_neg hholder]
    rfl
  · exact .inl hdma
  · rfl
  · rfl

theorem segments_pos (hmore : txSegments nbuf ≠ 0) : 0 < (txSegments nbuf).toNat := by
  apply Nat.pos_of_ne_zero
  intro hzero
  exact hmore (BitVec.eq_of_toNat_eq hzero)

theorem nrFrags_encoded (hmore : txSegments nbuf ≠ 0) (hone : nbuf.hasFragList = false)
    (hall : ms.length = (morePieces nbuf).length) (hgiven : Given env 1 (m :: ms))
    (hmarks : KeepsMarks flags bits) (hdiscard : bits.getLsbD 7 = true) (hflags : Unmarked flags)
    (hpiece : (segments nbuf)[j]? = some piece)
    (hdesc : (patchLast (lastFrag nbuf) ([pieceDesc ifNum bufferType mss
      (bits ||| H2N_BIT_FLAG_FIRST_SEGMENT) 0 (headPiece nbuf.toTxSegment) m] ++
        pieceDescs ifNum bufferType mss bits (morePieces nbuf) ms))[j]? = some d) :
    Encoded env nbuf j piece d := by
  have hpos := segments_pos hmore
  have hholder : holder nbuf = (txSegments nbuf).toNat := by
    unfold holder
    rw [hone]
    rfl
  have hfirst : bits.getLsbD 2 = false := hmarks.1.trans hflags.first
  have hlast : bits.getLsbD 3 = false := hmarks.2.trans hflags.last
  refine scattered_each hmore hall hgiven ?_ ?_ ?_ hpiece hdesc
  · obtain ⟨hmarked, hlast', hdiscard'⟩ := first_bits bits
    apply encoded_of_bits
    · exact hmarked
    · rw [decide_eq_false (by omega)]
      exact hlast'.trans hlast
    · rw [hholder, decide_eq_false (by omega)]
      exact hdiscard'.trans hdiscard
    · rw [if_neg (by omega)]
      rfl
    · exact .inl (hgiven 0 m rfl)
    · rfl
    · rfl
  · intro j piece m hj hdma
    exact middle_encoded hj hfirst hlast hdiscard (by omega) hdma
  · intro j piece m hj hdma
    obtain ⟨hfirst', hmarked, -⟩ := last_bits bits
    obtain ⟨hfirst'', hlast', hcleared⟩ := undiscard_bits (bits ||| H2N_BIT_FLAG_LAST_SEGMENT)
    apply encoded_of_bits
    · rw [decide_eq_false (Nat.succ_ne_zero j)]
      exact hfirst''.trans (hfirst'.trans hfirst)
    · rw [decide_eq_true hj]
      exact hlast'.trans hmarked
    · rw [hholder, decide_eq_true hj]
      exact hcleared
    · rw [hholder, if_pos hj]
      rfl
    · exact .inl hdma
    · rfl
    · rfl

theorem fraglist_encoded (hmore : txSegments nbuf ≠ 0) (hmany : nbuf.hasFragList = true)
    (hall : ms.length = (morePieces nbuf).length) (hgiven : Given env 1 (m :: ms))
    (hmarks : KeepsMarks flags bits) (hkept : bits.getLsbD 7 = flags.getLsbD 7)
    (hflags : Unmarked flags) (hpiece : (segments nbuf)[j]? = some piece)
    (hdesc : (patchLast lastMember ([pieceDesc ifNum bufferType mss
      (bits ||| H2N_BIT_FLAG_FIRST_SEGMENT) nbuf.addr (headPiece nbuf.toTxSegment) m] ++
        pieceDescs ifNum bufferType mss (bits ||| H2N_BIT_FLAG_DISCARD) (morePieces nbuf)
          ms))[j]? = some d) :
    Encoded env nbuf j piece d := by
  have hpos := segments_pos hmore
  have hholder : holder nbuf = 0 := by
    unfold holder
    rw [hmany]
    rfl
  have hfirst : bits.getLsbD 2 = false := hmarks.1.trans hflags.first
  have hlast : bits.getLsbD 3 = false := hmarks.2.trans hflags.last
  have hdiscard : bits.getLsbD 7 = false := hkept.trans hflags.discard
  have hfirst' : (bits ||| H2N_BIT_FLAG_DISCARD).getLsbD 2 = false := (or_getLsbD rfl).trans hfirst
  have hlast' : (bits ||| H2N_BIT_FLAG_DISCARD).getLsbD 3 = false := (or_getLsbD rfl).trans hlast
  have hdiscard' : (bits ||| H2N_BIT_FLAG_DISCARD).getLsbD 7 = true := by
    rw [BitVec.getLsbD_or]
    exact Bool.or_true _
  refine scattered_each hmore hall hgiven ?_ ?_ ?_ hpiece hdesc
  · obtain ⟨hmarked, hkeepsLast, hkeepsDiscard⟩ := first_bits bits
    apply encoded_of_bits
    · exact hmarked
    · rw [decide_eq_false (by omega)]
      exact hkeepsLast.trans hlast
    · rw [hholder]
      exact hkeepsDiscard.trans hdiscard
    · rw [hholder]
      rfl
    · exact .inl (hgiven 0 m rfl)
    · rfl
    · rfl
  · intro j piece m hj hdma
    exact middle_encoded hj hfirst' hlast' hdiscard' (by omega) hdma
  · intro j piece m hj hdma
    obtain ⟨hkeepsFirst, hmarked, hkeepsDiscard⟩ := last_bits (bits ||| H2N_BIT_FLAG_DISCARD)
    apply encoded_of_bits
    · rw [decide_eq_false (Nat.succ_ne_zero j)]
      exact hkeepsFirst.trans hfirst'
    · rw [decide_eq_true hj]
      exact hmarked
    · rw [hholder, decide_eq_false (Nat.succ_ne_zero j)]
      exact hkeepsDiscard.trans hdiscard'
    · rw [hholder, if_neg (Nat.succ_ne_zero j)]
      rfl
    · exact .inl hdma
    · rfl
    · rfl

theorem length_written (h : Written env ifNum nbuf bufferType flags descs ms)
    (hbounce : isBounce bufferType = false) : descs.length = (segments nbuf).length := by
  cases h with
  | simple mss bits piece m whole =>
    have hzero : txSegments nbuf = 0 := whole.resolve_right (by rw [hbounce]; exact Bool.false_ne_true)
    unfold segments
    rw [if_pos hzero]
    rfl
  | nrFrags mss bits m ms more one all =>
    rw [length_patchLast, List.length_append, pieceDescs, List.length_zipWith, all, Nat.min_self,
      length_segments, length_morePieces, Nat.add_comm]
    rfl
  | fraglist mss bits m ms more many all =>
    rw [length_patchLast, List.length_append, pieceDescs, List.length_zipWith, all, Nat.min_self,
      length_segments, length_morePieces, Nat.add_comm]
    rfl

theorem written_encoded (h : Written env ifNum nbuf bufferType flags descs ms)
    (hbounce : isBounce bufferType = false) (hflags : Unmarked flags)
    (hpiece : (segments nbuf)[j]? = some piece) (hdesc : descs[j]? = some d) :
    Encoded env nbuf j piece d := by
  cases h with
  | simple mss bits whole m small offs len given first last kept =>
    have hzero : txSegments nbuf = 0 := small.resolve_right (by rw [hbounce]; exact Bool.false_ne_true)
    have hcount : (txSegments nbuf).toNat = 0 := by
      rw [hzero]
      rfl
    have hholder : holder nbuf = 0 := by
      unfold holder
      rw [hcount, ite_self]
    unfold segments at hpiece
    rw [if_pos hzero] at hpiece
    cases j with
    | succ j => cases hpiece
    | zero =>
      rw [← Option.some.inj hpiece, ← Option.some.inj hdesc]
      apply encoded_of_bits
      · exact first
      · rw [hcount]
        exact last
      · rw [hholder]
        exact kept.trans hflags.discard
      · rw [hholder]
        rfl
      · exact given.imp_right fun hreuse => ⟨rfl, hreuse⟩
      · exact congrArg (BitVec.setWidth 16) offs
      · exact congrArg (BitVec.setWidth 16) len
  | nrFrags mss bits m ms more one all given marks discard =>
    exact nrFrags_encoded more one all given marks discard hflags hpiece hdesc
  | fraglist mss bits m ms more many all given marks kept =>
    exact fraglist_encoded more many all given marks kept hflags hpiece hdesc

end Written

section Sent
variable {cpu : ℕ} {env : Outside} {ifNum : U32} {nbuf : TxSkb} {bufferType : U8} {flags : U16}
  {c c' : TxCall}

theorem window_getElem? {α : Type} {f : ℕ → α} {n i m : ℕ} {l : List α} (h : window f n i m = l)
    {j : ℕ} (hj : j < m) : l[j]? = some (f (advance n i j)) := by
  rw [← h]
  unfold window
  rw [List.getElem?_map, List.getElem?_range hj]
  rfl

/-- A buffer that is taken is scattered over the ring segment by segment exactly where
    lengths and offsets fit the descriptor's 16 bits. -/
theorem scattered_iff (h : Ready nbuf c)
    (hexec : (TransmitMappings.nssCoreSendBuffer cpu env ifNum nbuf bufferType flags).exec c =
      some (.success, c'))
    (hbounce : isBounce bufferType = false) (hflags : flags &&& segmentMarks = 0) :
    Scattered env nbuf c c' ↔
      ∀ piece ∈ segments nbuf, piece.offs.toNat < 2 ^ 16 ∧ piece.len.toNat < 2 ^ 16 := by
  cases send_post h .success c' hexec with
  | refused _ hv => exact (hv rfl).elim
  | sent descs ms nb done log written =>
    have hlength := length_written written hbounce
    have hencoded : ∀ j piece, (segments nbuf)[j]? = some piece → Encoded env nbuf j piece
        (c'.port.ring.desc (advance c.port.ring.size.toNat (nextSlot c) j)) := by
      intro j piece hpiece
      have hj : j < descs.length := hlength ▸ (List.getElem?_eq_some_iff.mp hpiece).1
      exact written_encoded written hbounce (unmarked_of_and hflags) hpiece
        (window_getElem? done.filled hj)
    constructor
    · intro hscattered piece hmem
      obtain ⟨j, hpiece⟩ := List.mem_iff_getElem?.mp hmem
      have hdescribed := hscattered.described j piece hpiece
      rw [← hdescribed.offs, ← hdescribed.len]
      exact ⟨BitVec.isLt _, BitVec.isLt _⟩
    · intro hfit
      refine ⟨?_, done.map, ?_, ?_⟩
      · rw [← hlength]
        exact done.index
      · rw [← hlength]
        exact done.others
      · intro j piece hpiece
        have hdesc := hencoded j piece hpiece
        obtain ⟨hoffs, hlen⟩ := hfit piece (List.mem_of_getElem? hpiece)
        refine ⟨hdesc.toPlaced, ?_, ?_⟩
        · rw [hdesc.offs, setWidth_toNat hoffs]
        · rw [hdesc.len, setWidth_toNat hlen]

end Sent

def allMapped : Outside := { secondPageFails with
  dma i := some (BitVec.ofNat 32 (0x100000 * i)) }

theorem scattered_iff_paged : ∃ c',
    (TransmitMappings.nssCoreSendBuffer 0 allMapped 3 pagedSkb 0 0).exec (idleCall 8 pagedSkb) =
      some (.success, c') ∧ Scattered allMapped pagedSkb (idleCall 8 pagedSkb) c' := by
  have hrun : ∃ c', (TransmitMappings.nssCoreSendBuffer 0 allMapped 3 pagedSkb 0 0).exec
      (idleCall 8 pagedSkb) = some (.success, c') := ⟨_, rfl⟩
  obtain ⟨c', hexec⟩ := hrun
  have hready : Ready pagedSkb (idleCall 8 pagedSkb) := idleCall_ready (k := 3) (by decide) rfl
  exact ⟨c', hexec, (scattered_iff hready hexec rfl rfl).mpr (by decide)⟩

/-- A packet of 65535 bytes with its Ethernet header, in one piece. -/
def hugeSkb : TxSkb where
  addr := 7
  head := 0x10000
  data := 0x10040
  tail := 0x2004D
  end_ := 0x20080
  len := 0x1000D
  dataLen := 0
  priority := 0
  nrFrags := 0
  ipSummed := .checksumNone
  hasDestructor := false
  gsoSize := 0
  fragSizes := []
  fragList := []
  fragSizes_lt := TxSkb.noFrags_lt
  fragList_lt := TxSkb.noFragList_lt

theorem not_scattered_huge : ∃ c',
    (TransmitMappings.nssCoreSendBuffer 0 allMapped 3 hugeSkb 0 0).exec (idleCall 8 hugeSkb) =
      some (.success, c') ∧ ¬ Scattered allMapped hugeSkb (idleCall 8 hugeSkb) c' := by
  have hrun : ∃ c', (TransmitMappings.nssCoreSendBuffer 0 allMapped 3 hugeSkb 0 0).exec
      (idleCall 8 hugeSkb) = some (.success, c') ∧
        (c'.port.ring.desc 0).payloadLen = 13 := ⟨_, rfl, rfl⟩
  obtain ⟨c', hexec, hshort⟩ := hrun
  refine ⟨c', hexec, fun hscattered => ?_⟩
  have hlen := (hscattered.described 0 _ rfl).len
  change (c'.port.ring.desc 0).payloadLen.toNat = 0x1000D at hlen
  rw [hshort] at hlen
  cases hlen

end NssDrv.TransmitSegments

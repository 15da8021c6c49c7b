import NssDrv.TransmitSegments

set_option autoImplicit false

/-!
# The bytes of a transmitted buffer

Whether the lengths in the descriptors of a buffer that was taken add up to its length.
-/
namespace NssDrv.TransmitLengths
open HlosInterface SharedThread CyclicIndex DescriptorRing RingLocking TransmitEncoders
open TransmitQueue TransmitMappings TransmitOutcome TransmitFate TransmitSegments

def total (xs : List U32) : ℕ := (xs.map BitVec.toNat).sum

/-- The lengths of an skb as the kernel keeps them: `data_len` counts what is in its
    `frags[]` and its frag_list, and is part of `len`. -/
structure Formed (nbuf : TxSkb) : Prop where
  dataLen : nbuf.dataLen.toNat = total nbuf.fragSizes + total (nbuf.fragList.map TxSegment.len)
  head : nbuf.dataLen.toNat ≤ nbuf.len.toNat
  members : ∀ member ∈ nbuf.fragList, member.dataLen.toNat ≤ member.len.toNat

/-- The descriptors between the index published before a call and the one published after it. -/
def written (c c' : TxCall) : List H2nDescriptor :=
  window c'.port.ring.desc c.port.ring.size.toNat (nextSlot c)
    (gap c.port.ring.size.toNat (nextSlot c) c'.port.ring.hlosIndexMap.toNat)

def payload (descs : List H2nDescriptor) : ℕ :=
  (descs.map fun d => d.payloadLen.toNat).sum

/-- The bytes of a buffer with a frag_list that no descriptor is written for: the pages of
    the head, and what a member has beyond its own linear part. -/
def unseen (nbuf : TxSkb) : ℕ :=
  if nbuf.hasFragList then total nbuf.fragSizes + total (nbuf.fragList.map TxSegment.dataLen)
  else 0

section Sums

theorem total_cons (x : U32) (xs : List U32) : total (x :: xs) = x.toNat + total xs := rfl

/-- Cutting every summand to `n` loses nothing exactly if there is nothing to cut. -/
theorem sum_mod_le (n : ℕ) (xs : List ℕ) : (xs.map (· % n)).sum ≤ xs.sum := by
  induction xs with
  | nil => exact le_rfl
  | cons x xs ih =>
    rw [List.map_cons, List.sum_cons, List.sum_cons]
    exact Nat.add_le_add (Nat.mod_le x n) ih

theorem sum_mod_eq {n : ℕ} (hn : 0 < n) (xs : List ℕ) :
    (xs.map (· % n)).sum = xs.sum ↔ ∀ x ∈ xs, x < n := by
  induction xs with
  | nil => exact iff_of_true rfl nofun
  | cons x xs ih =>
    have hhead := Nat.mod_le x n
    have htail := sum_mod_le n xs
    rw [List.map_cons, List.sum_cons, List.sum_cons, List.forall_mem_cons, ← ih]
    constructor
    · intro hsum
      have hx : x % n = x := by omega
      exact ⟨hx ▸ Nat.mod_lt x hn, by omega⟩
    · rintro ⟨hx, hxs⟩
      rw [Nat.mod_eq_of_lt hx, hxs]

theorem total_sub (members : List TxSegment)
    (h : ∀ member ∈ members, member.dataLen.toNat ≤ member.len.toNat) :
    total (members.map fun member => member.len - member.dataLen) +
      total (members.map TxSegment.dataLen) = total (members.map TxSegment.len) := by
  induction members with
  | nil => rfl
  | cons member members ih =>
    obtain ⟨hmember, hmembers⟩ := List.forall_mem_cons.mp h
    have hsub : (member.len - member.dataLen).toNat = member.len.toNat - member.dataLen.toNat :=
      BitVec.toNat_sub_of_le hmember
    have htail := ih hmembers
    simp only [List.map_cons, total_cons, hsub]
    omega

theorem total_eq_zero (xs : List U32) : total xs = 0 ↔ ∀ x ∈ xs, x = 0 := by
  induction xs with
  | nil => exact iff_of_true rfl nofun
  | cons x xs ih =>
    rw [total_cons, Nat.add_eq_zero_iff, List.forall_mem_cons, ih]
    exact and_congr_left' ⟨fun h => BitVec.eq_of_toNat_eq h, fun h => h ▸ rfl⟩

end Sums

section Lengths
variable {cpu : ℕ} {env : Outside} {ifNum : U32} {nbuf : TxSkb} {bufferType : U8} {flags : U16}
  {descs : List H2nDescriptor} {ms : List Mapping} {c c' : TxCall}

theorem written_len (h : Written env ifNum nbuf bufferType flags descs ms)
    (hbounce : isBounce bufferType = false) {j : ℕ} {piece : TxPiece} {d : H2nDescriptor}
    (hpiece : (segments nbuf)[j]? = some piece) (hdesc : descs[j]? = some d) :
    d.payloadLen = piece.len.setWidth 16 := by
  cases h with
  | simple mss bits whole m small offs len =>
    have hzero : txSegments nbuf = 0 := small.resolve_right (by rw [hbounce]; exact Bool.false_ne_true)
    unfold segments at hpiece
    rw [if_pos hzero] at hpiece
    cases j with
    | succ j => cases hpiece
    | zero =>
      rw [← Option.some.inj hpiece, ← Option.some.inj hdesc]
      exact congrArg (BitVec.setWidth 16) len
  | nrFrags mss bits m ms more one all given =>
    exact scattered_each (P := fun _ piece d => d.payloadLen = piece.len.setWidth 16) more all given
      rfl (fun _ _ _ _ _ => rfl) (fun _ _ _ _ _ => rfl) hpiece hdesc
  | fraglist mss bits m ms more many all given =>
    exact scattered_each (P := fun _ piece d => d.payloadLen = piece.len.setWidth 16) more all given
      rfl (fun _ _ _ _ _ => rfl) (fun _ _ _ _ _ => rfl) hpiece hdesc

theorem payload_written (h : Written env ifNum nbuf bufferType flags descs ms)
    (hbounce : isBounce bufferType = false) :
    payload descs = (((segments nbuf).map fun piece => piece.len.toNat).map (· % 2 ^ 16)).sum := by
  have hlength := length_written h hbounce
  unfold payload
  congr 1
  rw [List.map_map]
  apply List.ext_getElem?
  intro j
  rw [List.getElem?_map, List.getElem?_map]
  by_cases hj : j < descs.length
  · have hpiece := List.getElem?_eq_getElem (hlength ▸ hj : j < (segments nbuf).length)
    have hdesc := List.getElem?_eq_getElem hj
    rw [hpiece, hdesc, Option.map_some, Option.map_some, written_len h hbounce hpiece hdesc,
      BitVec.toNat_setWidth]
    rfl
  · rw [List.getElem?_eq_none (by omega), List.getElem?_eq_none (by omega)]
    rfl

theorem total_pieces (pieces : List TxPiece) :
    (pieces.map fun piece => piece.len.toNat).sum = total (pieces.map TxPiece.len) := by
  unfold total
  rw [List.map_map]
  rfl

theorem fragList_nil (hlist : nbuf.hasFragList = false) : nbuf.fragList = [] := by
  unfold TxSkb.hasFragList at hlist
  simpa using hlist

theorem head_toNat (h : Formed nbuf) :
    (headPiece nbuf.toTxSegment).len.toNat = nbuf.len.toNat - nbuf.dataLen.toNat :=
  BitVec.toNat_sub_of_le h.head

theorem sum_segments (h : Formed nbuf) :
    ((segments nbuf).map fun piece => piece.len.toNat).sum + unseen nbuf = nbuf.len.toNat := by
  have hhead := h.head
  have hdata := h.dataLen
  have hcount := length_morePieces nbuf
  rw [total_pieces]
  unfold segments unseen
  by_cases hzero : txSegments nbuf = 0
  · have hlist : nbuf.hasFragList ≠ true := by
      intro hlist
      rw [hzero] at hcount
      unfold morePieces at hcount
      rw [if_pos hlist, List.length_map] at hcount
      unfold TxSkb.hasFragList at hlist
      rw [List.length_eq_zero_iff.mp hcount] at hlist
      cases hlist
    rw [if_pos hzero, if_neg hlist]
    rfl
  · rw [if_neg hzero, List.map_cons, total_cons, head_toNat h]
    unfold morePieces
    by_cases hlist : nbuf.hasFragList = true
    · have hmembers : total ((nbuf.fragList.map headPiece).map TxPiece.len) +
          total (nbuf.fragList.map TxSegment.dataLen) = total (nbuf.fragList.map TxSegment.len) := by
        rw [List.map_map]
        exact total_sub nbuf.fragList h.members
      rw [if_pos hlist, if_pos hlist]
      omega
    · have hfrags : (nbuf.fragSizes.map (fragPiece nbuf)).map TxPiece.len = nbuf.fragSizes := by
        rw [List.map_map]
        exact List.map_id _
      have hnone : total (nbuf.fragList.map TxSegment.len) = 0 := by
        rw [fragList_nil (Bool.not_eq_true _ ▸ hlist)]
        rfl
      rw [if_neg hlist, if_neg hlist, hfrags]
      omega

theorem unseen_eq_zero : unseen nbuf = 0 ↔ (nbuf.hasFragList = true →
    total nbuf.fragSizes = 0 ∧ ∀ member ∈ nbuf.fragList, member.dataLen = 0) := by
  unfold unseen
  by_cases hlist : nbuf.hasFragList = true
  · rw [if_pos hlist, Nat.add_eq_zero_iff, total_eq_zero (nbuf.fragList.map _), List.forall_mem_map]
    exact ⟨fun h _ => h, fun h => h hlist⟩
  · rw [if_neg hlist]
    exact iff_of_true rfl fun h => (hlist h).elim

/-- No byte of a buffer that is taken is lost exactly if no segment is longer than a
    descriptor can say, and a frag_list holds all there is in its members' linear parts. -/
theorem payload_eq_iff (h : Ready nbuf c) (hformed : Formed nbuf)
    (hexec : (TransmitMappings.nssCoreSendBuffer cpu env ifNum nbuf bufferType flags).exec c =
      some (.success, c'))
    (hbounce : isBounce bufferType = false) :
    payload (written c c') = nbuf.len.toNat ↔
      (∀ piece ∈ segments nbuf, piece.len.toNat < 2 ^ 16) ∧
        (nbuf.hasFragList = true →
          total nbuf.fragSizes = 0 ∧ ∀ member ∈ nbuf.fragList, member.dataLen = 0) := by
  have hstart : nextSlot c < c.port.ring.size.toNat := h.ring.hlos
  cases send_post h .success c' hexec with
  | refused _ hv => exact (hv rfl).elim
  | sent descs ms nb done log hwritten =>
    have hdescs : written c c' = descs := by
      unfold written
      rw [done.map, done.index, gap_advance hstart done.fits]
      exact done.filled
    have hsum := sum_segments hformed
    have hle := sum_mod_le (2 ^ 16) ((segments nbuf).map fun piece => piece.len.toNat)
    have hcut := sum_mod_eq (Nat.two_pow_pos 16) ((segments nbuf).map fun piece => piece.len.toNat)
    rw [List.forall_mem_map] at hcut
    rw [hdescs, payload_written hwritten hbounce, ← hcut, ← unseen_eq_zero]
    omega

end Lengths

theorem payload_eq_iff_paged : ∃ c',
    (TransmitMappings.nssCoreSendBuffer 0 allMapped 3 pagedSkb 0 0).exec (idleCall 8 pagedSkb) =
      some (.success, c') ∧ payload (written (idleCall 8 pagedSkb) c') = 0x2040 := by
  have hrun : ∃ c', (TransmitMappings.nssCoreSendBuffer 0 allMapped 3 pagedSkb 0 0).exec
      (idleCall 8 pagedSkb) = some (.success, c') := ⟨_, rfl⟩
  obtain ⟨c', hexec⟩ := hrun
  have hready : Ready pagedSkb (idleCall 8 pagedSkb) := idleCall_ready (k := 3) (by decide) rfl
  have hformed : Formed pagedSkb := ⟨rfl, by decide, by decide⟩
  exact ⟨c', hexec, (payload_eq_iff hready hformed hexec rfl).mpr ⟨by decide, nofun⟩⟩

/-- A head with a page of its own, and one member in its frag_list. -/
def mixedSkb : TxSkb where
  addr := 7
  head := 0x1000
  data := 0x1040
  tail := 0x1080
  end_ := 0x1800
  len := 0x1080
  dataLen := 0x1040
  priority := 0
  nrFrags := 1
  ipSummed := .checksumNone
  hasDestructor := false
  gsoSize := 0
  fragSizes := [0x1000]
  fragList := [⟨8, 0x2000, 0x2040, 0x2080, 0x2800, 0x40, 0, 0, 0⟩]
  fragSizes_lt := by decide
  fragList_lt := by decide

/-- The page is neither sent nor is the buffer rejected. -/
theorem payload_ne_mixed : Formed mixedSkb ∧ ∃ c',
    (TransmitMappings.nssCoreSendBuffer 0 allMapped 3 mixedSkb 0 0).exec (idleCall 8 mixedSkb) =
      some (.success, c') ∧
        payload (written (idleCall 8 mixedSkb) c') ≠ mixedSkb.len.toNat := by
  refine ⟨⟨rfl, by decide, by decide⟩, _, rfl, ?_⟩
  decide

end NssDrv.TransmitLengths

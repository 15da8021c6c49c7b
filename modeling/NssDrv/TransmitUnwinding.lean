import NssDrv.TransmitFate

set_option autoImplicit false

/-!
# Undoing a transmit that fails part-way

`nss_core_send_unwind_dma` walks the ring from the descriptor filled last on, for as
many slots as there are filled descriptors, with one kind of mapping for all of them.
-/
namespace NssDrv.TransmitUnwinding
open HlosInterface SharedThread CyclicIndex DescriptorRing RingLocking TransmitEncoders
open TransmitQueue TransmitMappings TransmitOutcome TransmitFate

/-- The mappings of the call are undone, each once and as it was made, and none of them
    through a descriptor that the call did not fill. -/
def Unwound (c c' : TxCall) : Prop :=
  (c'.unmaps.map Unmapping.mapping).Perm c'.maps ∧
    ∀ u ∈ c'.unmaps, InWindow c.port.ring.size.toNat (nextSlot c) c'.port.ring.wrote u.slot

def tooLong (size : U16) (nbuf : TxSkb) : Prop :=
  nbuf.hasFragList = true ∧ (size.signExtend 32).ult (txSegments nbuf) = true

section Unwinding
variable {cpu : ℕ} {env : Outside} {ifNum : U32} {nbuf : TxSkb} {bufferType : U8} {flags : U16}
  {c c' : TxCall}

theorem unwound_nothing (h : Logged [] [] nbuf c') : Unwound c c' := by
  unfold Unwound
  rw [h.maps, h.unmaps]
  exact ⟨.nil, nofun⟩

section GaveUp
variable {mss bits bits' : U16} {opaqueWord : U32} {m : Mapping} {j : ℕ} {ms : List Mapping}
  {t : TxCall}

/-- The descriptors filled: that of the head and of the segments before the failing one. -/
theorem gaveUp_wrote (h : GaveUp env (locked cpu c) (nextSlot c) 0 ifNum bufferType mss bits
      nbuf.hasFragList [pieceDesc ifNum bufferType mss bits' opaqueWord
        (headPiece nbuf.toTxSegment) m] [m] nbuf (morePieces nbuf) j ms t) :
    t.port.ring.wrote = j + 1 := by
  have hwithin := h.within
  have hmade : j ≤ ms.length := by
    rcases h.stuck with ⟨-, hlength⟩ | hlength <;> omega
  rw [h.wrote, List.length_append, pieceDescs, List.length_zipWith, List.length_take,
    List.length_singleton]
  omega

/-- Behind a segment that was written the walk starts too late, and runs into a slot that
    the call did not fill. -/
theorem gaveUp_later (h : GaveUp env (locked cpu c) (nextSlot c) 0 ifNum bufferType mss bits
      nbuf.hasFragList [pieceDesc ifNum bufferType mss bits' opaqueWord
        (headPiece nbuf.toTxSegment) m] [m] nbuf (morePieces nbuf) (j + 1) ms t)
    (hstart : nextSlot c < c.port.ring.size.toNat)
    (hroom : (morePieces nbuf).length + 1 < c.port.ring.size.toNat) :
    ¬ Unwound c (unlocked t) := by
  intro hunwound
  have hwithin := h.within
  let stale := advance c.port.ring.size.toNat (nextSlot c) (0 + (j + 1) + 1)
  have hmem : unmapping t nbuf.hasFragList stale ∈ (unlocked t).unmaps := by
    change _ ∈ t.unmaps
    rw [h.unmaps]
    exact List.mem_map.mpr ⟨1, List.mem_range.mpr (by omega), rfl⟩
  have hin : gap c.port.ring.size.toNat (nextSlot c) stale < t.port.ring.wrote :=
    hunwound.2 _ hmem
  rw [gaveUp_wrote h, gap_advance hstart (by omega)] at hin
  omega

theorem gaveUp_first (h : GaveUp env (locked cpu c) (nextSlot c) 0 ifNum bufferType mss bits
      nbuf.hasFragList [pieceDesc ifNum bufferType mss bits' opaqueWord
        (headPiece nbuf.toTxSegment) m] [m] nbuf (morePieces nbuf) 0 ms t)
    (hstart : nextSlot c < c.port.ring.size.toNat) :
    (unlocked t).unmaps = [⟨nextSlot c, m.addr,
      ((nbuf.end_ - nbuf.head).setWidth 16).setWidth 32, !nbuf.hasFragList⟩] := by
  have hfilled := h.filled
  have hnone : pieceDescs ifNum bufferType mss bits (morePieces nbuf) (ms.take 0) = [] :=
    List.zipWith_nil_right
  rw [hnone] at hfilled
  have hhead := (window_one hstart).symm.trans hfilled
  have hdesc := (List.cons.inj hhead).1
  change t.unmaps = _
  rw [h.unmaps]
  change [unmapping t nbuf.hasFragList (advance c.port.ring.size.toNat (nextSlot c) 0)] = _
  rw [advance_zero hstart]
  unfold unmapping
  rw [hdesc]
  rfl

end GaveUp

/-- The one failure behind the head whose mappings are all undone: the first member of a
    frag_list cannot be mapped, and the descriptor of the head gives the length it was mapped with. -/
def firstMemberOnly (env : Outside) (nbuf : TxSkb) : Prop :=
  nbuf.hasFragList = true ∧ env.dma 2 = none ∧
    ((nbuf.end_ - nbuf.head).setWidth 16).setWidth 32 = nbuf.tail - nbuf.head

theorem gaveUp_unwound {mss bits bits' : U16} {opaqueWord : U32} {m : Mapping} {j : ℕ}
    {ms : List Mapping} {t : TxCall}
    (h : GaveUp env (locked cpu c) (nextSlot c) 0 ifNum bufferType mss bits nbuf.hasFragList
      [pieceDesc ifNum bufferType mss bits' opaqueWord (headPiece nbuf.toTxSegment) m] [m] nbuf
      (morePieces nbuf) j ms t)
    (hlen : m.len = nbuf.tail - nbuf.head) (hpage : m.page = false)
    (hstart : nextSlot c < c.port.ring.size.toNat)
    (hroom : (morePieces nbuf).length + 1 < c.port.ring.size.toNat) :
    Unwound c (unlocked t) ↔ firstMemberOnly env nbuf := by
  cases j with
  | succ j =>
    -- the first segment was mapped
    have hmapped : env.dma 2 ≠ none := by
      have hmade : 0 < ms.length := by
        rcases h.stuck with ⟨-, hlength⟩ | hlength <;> omega
      have hfirst := h.given 0 ms[0] (List.getElem?_eq_getElem hmade)
      rw [hfirst]
      exact Option.some_ne_none _
    exact ⟨fun hunwound => (gaveUp_later h hstart hroom hunwound).elim,
      fun honly => (hmapped honly.2.1).elim⟩
  | zero =>
    have hunmaps := gaveUp_first h hstart
    have hmaps : (unlocked t).maps = m :: ms := h.maps
    constructor
    · rintro ⟨hperm, -⟩
      rw [hunmaps, hmaps] at hperm
      have hms : ms = [] := List.length_eq_zero_iff.mp (Nat.succ.inj hperm.length_eq).symm
      subst hms
      have hmapping := List.singleton_perm_singleton.mp hperm
      rw [← hmapping] at hlen hpage
      refine ⟨?_, ?_, hlen⟩
      · simpa using hpage
      · rcases h.stuck with ⟨hnone, -⟩ | hlength
        · exact hnone
        · cases hlength
    · rintro ⟨hlist, hnone, hroomy⟩
      have hms : ms = [] := by
        rcases h.stuck with ⟨-, hlength⟩ | hlength
        · exact List.length_eq_zero_iff.mp hlength
        · have hfirst := h.given 0 ms[0] (List.getElem?_eq_getElem (by omega))
          rw [hnone] at hfirst
          cases hfirst
      subst hms
      have hsame : (⟨m.addr, nbuf.tail - nbuf.head, !true⟩ : Mapping) = m := by
        rw [← hlen, Bool.not_true, ← hpage]
      unfold Unwound
      rw [hunmaps, hmaps, hroomy, hlist, hsame]
      refine ⟨List.Perm.refl _, ?_⟩
      intro u hu
      have hslot : u.slot = nextSlot c := by rw [List.mem_singleton.mp hu]
      change gap _ _ u.slot < t.port.ring.wrote
      rw [hslot, gap_self, gaveUp_wrote h]
      exact Nat.one_pos

/-- A failed transmit undoes its own mappings and nothing else exactly where it had made
    none, or where the first member of a frag_list could not be mapped. -/
theorem unwound_iff (h : Ready nbuf c)
    (hexec : (TransmitMappings.nssCoreSendBuffer cpu env ifNum nbuf bufferType flags).exec c =
      some (.failure, c')) :
    Unwound c c' ↔
      env.dma 1 = none ∨ tooLong c.port.ring.size nbuf ∨ firstMemberOnly env nbuf := by
  have hle := h.ring.size_le
  have hstart : nextSlot c < c.port.ring.size.toNat := h.ring.hlos
  cases send_post h .failure c' hexec with
  | refused _ _ _ log long => exact ⟨fun _ => .inr (.inl (long rfl)), fun _ => unwound_nothing log⟩
  | @failed t free room failed =>
    have hfits : ¬ tooLong c.port.ring.size nbuf := by
      rintro ⟨-, hult⟩
      rw [BitVec.ult_eq_decide, signExtend_toNat (by omega), decide_eq_true_eq] at hult
      omega
    rw [← length_morePieces] at room
    cases failed with
    | head missing laid log =>
      have hnothing : Logged [] [] nbuf (unlocked t) := ⟨log.maps, log.unmaps, log.nbuf⟩
      exact ⟨fun _ => .inl missing, fun _ => unwound_nothing hnothing⟩
    | segment mss bits bits' opaqueWord m j ms gave given len page =>
      have hunwound := gaveUp_unwound gave len page hstart (by omega)
      have hmapped : env.dma 1 ≠ none := by
        rw [given]
        exact Option.some_ne_none _
      refine hunwound.trans ⟨fun honly => .inr (.inr honly), ?_⟩
      rintro (hnone | hlong | honly)
      · exact (hmapped hnone).elim
      · exact (hfits hlong).elim
      · exact honly

end Unwinding

theorem oneMember_lt :
    [(⟨8, 0x2000, 0x2040, 0x2080, 0x2800, 0x40, 0, 0, 0⟩ : TxSegment)].length < 2 ^ 32 := by
  decide

def listSkb : TxSkb where
  addr := 7
  head := 0x1000
  data := 0x1040
  tail := 0x1080
  end_ := 0x1080
  len := 0x80
  dataLen := 0x40
  priority := 0
  nrFrags := 0
  ipSummed := .checksumNone
  hasDestructor := false
  gsoSize := 0
  fragSizes := []
  fragList := [⟨8, 0x2000, 0x2040, 0x2080, 0x2800, 0x40, 0, 0, 0⟩]
  fragSizes_lt := TxSkb.noFrags_lt
  fragList_lt := oneMember_lt

def memberFails : Outside := { secondPageFails with
  dma i := if i < 2 then some 0x100000 else none }

theorem unwound_iff_list : ∃ c',
    (TransmitMappings.nssCoreSendBuffer 0 memberFails 3 listSkb 0 0).exec (idleCall 8 listSkb) =
      some (.failure, c') ∧ Unwound (idleCall 8 listSkb) c' := by
  have hrun : ∃ c', (TransmitMappings.nssCoreSendBuffer 0 memberFails 3 listSkb 0 0).exec
      (idleCall 8 listSkb) = some (.failure, c') := ⟨_, rfl⟩
  obtain ⟨c', hexec⟩ := hrun
  have hready : Ready listSkb (idleCall 8 listSkb) := idleCall_ready (k := 3) (by decide) rfl
  exact ⟨c', hexec, (unwound_iff hready hexec).mpr (.inr (.inr ⟨rfl, rfl, rfl⟩))⟩

/-- With the first of two pages written, the walk covers its descriptor and the slot behind it. -/
theorem not_unwound_paged : ∃ c',
    (TransmitMappings.nssCoreSendBuffer 0 secondPageFails 3 pagedSkb 0 0).exec
      (idleCall 8 pagedSkb) = some (.failure, c') ∧ ¬ Unwound (idleCall 8 pagedSkb) c' := by
  have hrun : ∃ c', (TransmitMappings.nssCoreSendBuffer 0 secondPageFails 3 pagedSkb 0 0).exec
      (idleCall 8 pagedSkb) = some (.failure, c') ∧
        c'.unmaps = [⟨1, 0x200000, 0x1000, true⟩, ⟨2, 0, 0, true⟩] ∧ c'.port.ring.wrote = 2 :=
    ⟨_, rfl, rfl, rfl⟩
  obtain ⟨c', hexec, hunmaps, hwrote⟩ := hrun
  refine ⟨c', hexec, ?_⟩
  rintro ⟨-, hslots⟩
  have hstale := hslots ⟨2, 0, 0, true⟩ (by rw [hunmaps]; exact List.mem_cons_of_mem _ (.head _))
  rw [hwrote] at hstale
  exact absurd hstale (by unfold InWindow; decide)

end NssDrv.TransmitUnwinding

import NssDrv.CyclicIndex
import NssDrv.HlosInterface

set_option autoImplicit false

/-!
# An H2N descriptor ring

`struct hlos_h2n_desc_rings` with its two words of the shared memory map, the
accesses the driver and the NSS make to it, and what a producer that has the
ring to itself may do in one access.
-/
namespace NssDrv.DescriptorRing
open HlosInterface CyclicIndex

def NSS_H2N_DESC_RING_FLAGS_TX_STOPPED : U32 := 1

/-- A buffer that was reported as enqueued, with the descriptors it got. -/
structure Enqueued where
  cpu : ℕ
  cookie : U32
  descs : List H2nDescriptor

/-- The last three fields are ghosts: the descriptors filled since the last
    publication or lock, the buffers published so far, and how many
    descriptors the NSS has taken. -/
structure H2nRing where
  desc : ℕ → H2nDescriptor
  size : U16
  hlosIndex : U32
  lock : Option ℕ
  flags : U32
  txQFullCnt : BitVec 64
  nssIndexMap : U32
  hlosIndexMap : U32
  wrote : ℕ
  log : List Enqueued
  consumed : ℕ

namespace H2nRing

/-- A new holder has filled nothing yet. -/
def acquire (r : H2nRing) (cpu : ℕ) : H2nRing := { r with lock := some cpu, wrote := 0 }

def release (r : H2nRing) : H2nRing := { r with lock := none }

def fill (r : H2nRing) (idx : ℕ) (d : H2nDescriptor) : H2nRing :=
  { r with desc := Function.update r.desc idx d, wrote := r.wrote + 1 }

def amend (r : H2nRing) (idx : ℕ) (f : H2nDescriptor → H2nDescriptor) : H2nRing :=
  { r with desc := Function.update r.desc idx (f (r.desc idx)) }

def stopTx (r : H2nRing) : H2nRing :=
  { r with
    txQFullCnt := r.txQFullCnt + 1
    flags := r.flags ||| NSS_H2N_DESC_RING_FLAGS_TX_STOPPED }

def setHlosIndex (r : H2nRing) (hlosIndex : U32) : H2nRing := { r with hlosIndex := hlosIndex }

/-- The descriptors filled so far and not yet published. -/
def pending (r : H2nRing) : List H2nDescriptor :=
  window r.desc r.size.toNat r.hlosIndexMap.toNat r.wrote

/-- Stores `if_map->h2n_hlos_index`; `entries` says which buffers that enqueues. -/
def publish (r : H2nRing) (hlosIndex : U32) (entries : List Enqueued) : H2nRing :=
  { r with hlosIndexMap := hlosIndex, wrote := 0, log := r.log ++ entries }

def outstanding (r : H2nRing) : ℕ := gap r.size.toNat r.nssIndexMap.toNat r.hlosIndexMap.toNat

/-- The NSS takes `d` descriptors. -/
def consume (r : H2nRing) (d : ℕ) : H2nRing :=
  { r with
    nssIndexMap := BitVec.ofNat 32 (advance r.size.toNat r.nssIndexMap.toNat d)
    consumed := r.consumed + d }

/-- Every descriptor that was ever published, oldest first. -/
def published (r : H2nRing) : List H2nDescriptor := r.log.flatMap Enqueued.descs

/-- Slot `j` belongs to the NSS. -/
def Owned (r : H2nRing) (j : ℕ) : Prop :=
  InWindow r.size.toNat r.nssIndexMap.toNat r.outstanding j

end H2nRing

structure RingOk (r : H2nRing) : Prop where
  pow : ∃ k, k ≤ 14 ∧ r.size.toNat = 2 ^ k
  nss : r.nssIndexMap.toNat < r.size.toNat
  hlos : r.hlosIndexMap.toNat < r.size.toNat
  room : r.outstanding + r.wrote < r.size.toNat
  count : r.consumed + r.outstanding = r.published.length
  contents : window r.desc r.size.toNat r.nssIndexMap.toNat r.outstanding =
    r.published.drop r.consumed

section Masks
variable {w k : ℕ} {size x c nss hlos : BitVec w}

theorem one_toNat (hk : k < w) : (1 : BitVec w).toNat = 1 :=
  Nat.mod_eq_of_lt (Nat.one_lt_two_pow (by omega))

theorem mask_toNat (hk : k < w) (hsize : size.toNat = 2 ^ k) : (size - 1).toNat = 2 ^ k - 1 := by
  have hpos : 0 < 2 ^ k := Nat.two_pow_pos k
  have hone := one_toNat hk
  rw [BitVec.toNat_sub_of_le, hone, hsize]
  rw [BitVec.le_def, hsize, hone]
  exact hpos

theorem masked_add (hk : k < w) (hsize : size.toNat = 2 ^ k) :
    ((x + c) &&& (size - 1)).toNat = advance size.toNat x.toNat c.toNat := by
  rw [and_mask _ _ (mask_toNat hk hsize), BitVec.toNat_add, hsize,
    Nat.mod_mod_of_dvd _ (Nat.pow_dvd_pow 2 hk.le)]
  rfl

theorem masked_room (hk : k < w) (hsize : size.toNat = 2 ^ k) (hnss : nss.toNat < size.toNat)
    (hhlos : hlos.toNat < size.toNat) :
    ((nss - hlos - 1 + size) &&& (size - 1)).toNat + gap size.toNat nss.toNat hlos.toNat =
      size.toNat - 1 := by
  have hroom := gap_room hnss hhlos
  have hdvd : 2 ^ k ∣ 2 ^ w := Nat.pow_dvd_pow 2 hk.le
  have hval : (nss - hlos - 1 + size).toNat % 2 ^ k =
      (nss.toNat + size.toNat - hlos.toNat - 1) % 2 ^ k := by
    have hlt := hlos.isLt
    have hone := Nat.one_lt_two_pow (show w ≠ 0 by omega)
    simp only [BitVec.toNat_add, BitVec.toNat_sub, one_toNat hk]
    rw [Nat.mod_add_mod, Nat.add_right_comm, Nat.add_mod_mod, Nat.mod_mod_of_dvd _ hdvd]
    rw [show 2 ^ w - 1 + size.toNat + (2 ^ w - hlos.toNat + nss.toNat) =
      (nss.toNat + size.toNat - hlos.toNat - 1) + 2 * 2 ^ w by omega]
    rw [Nat.add_mod, Nat.mod_eq_zero_of_dvd (Dvd.dvd.mul_left hdvd 2), Nat.add_zero, Nat.mod_mod]
  rw [and_mask _ _ (mask_toNat hk hsize), hval, ← hsize]
  exact hroom

end Masks

section Words
variable {size : U16} {k : ℕ}

theorem word_toNat (x : U16) : (x.setWidth 32).toNat = x.toNat := by
  have := x.isLt
  rw [BitVec.toNat_setWidth, Nat.mod_eq_of_lt (by omega)]

theorem mask_word (hk : k < 16) (hsize : size.toNat = 2 ^ k) :
    (size - 1).setWidth 32 = size.setWidth 32 - 1 := by
  apply BitVec.eq_of_toNat_eq
  have hword : (size.setWidth 32).toNat = 2 ^ k := by rw [word_toNat, hsize]
  rw [word_toNat, mask_toNat hk hsize, mask_toNat (by omega) hword]

theorem next_word (hk : k < 16) (hsize : size.toNat = 2 ^ k) (x : U32) :
    ((x + 1) &&& (size - 1).setWidth 32).toNat = advance size.toNat x.toNat 1 := by
  have hword : (size.setWidth 32).toNat = 2 ^ k := by rw [word_toNat, hsize]
  rw [mask_word hk hsize, masked_add (by omega) hword, word_toNat]
  rfl

end Words

theorem setWidth_toNat {x : U32} (h : x.toNat < 2 ^ 16) :
    (x.setWidth 16).toNat = x.toNat := by
  rw [BitVec.toNat_setWidth, Nat.mod_eq_of_lt h]

theorem signExtend_toNat {x : U16} (h : x.toNat < 2 ^ 15) : (x.signExtend 32).toNat = x.toNat := by
  rw [BitVec.signExtend_eq_setWidth_of_msb_false, BitVec.toNat_setWidth,
    Nat.mod_eq_of_lt (by omega)]
  rw [BitVec.msb_eq_decide]
  simp only [decide_eq_false_iff_not]
  omega

namespace RingOk
variable {r : H2nRing}

theorem size_pos (h : RingOk r) : 0 < r.size.toNat := by
  have := h.room
  omega

theorem size_le (h : RingOk r) : r.size.toNat ≤ 2 ^ 14 := by
  obtain ⟨k, hk, hsize⟩ := h.pow
  rw [hsize]
  exact Nat.pow_le_pow_right (by decide) hk

/-- Behind the slots of the NSS and before the oldest of them there is always
    at least one slot that is in no one's hands. -/
theorem slot_unused (h : RingOk r) : r.published.length < r.consumed + r.size.toNat := by
  have := h.count
  have := h.room
  omega

theorem hlos_eq (h : RingOk r) :
    r.hlosIndexMap.toNat = advance r.size.toNat r.nssIndexMap.toNat r.outstanding :=
  (advance_gap h.nss h.hlos).symm

/-- The slot `e` places after the published index. -/
theorem free_not_owned (h : RingOk r) {e : ℕ} (he : r.outstanding + e < r.size.toNat) :
    ¬ r.Owned (advance r.size.toNat r.hlosIndexMap.toNat e) := by
  unfold H2nRing.Owned InWindow
  rw [h.hlos_eq, advance_advance, gap_advance h.nss he]
  omega

theorem owned_ne (h : RingOk r) {e d : ℕ} (he : r.outstanding + e < r.size.toNat)
    (hd : d < r.outstanding) : advance r.size.toNat r.nssIndexMap.toNat d ≠
      advance r.size.toNat r.hlosIndexMap.toNat e :=
  ne_of_not_inWindow h.nss (by have := h.room; omega) (h.free_not_owned he) hd

theorem pending_fill (h : RingOk r) (d : H2nDescriptor) :
    (r.fill (advance r.size.toNat r.hlosIndexMap.toNat r.wrote) d).pending = r.pending ++ [d] := by
  have hroom := h.room
  unfold H2nRing.pending H2nRing.fill
  simp only
  rw [window_snoc, Function.update_self, window_update]
  intro e he heq
  have hinj : e = r.wrote := advance_inj h.hlos (by omega) (by omega) heq
  omega

theorem pending_amend (h : RingOk r) {e : ℕ} (he : e < r.wrote) (f : H2nDescriptor → H2nDescriptor) :
    (r.amend (advance r.size.toNat r.hlosIndexMap.toNat e) f).pending =
      r.pending.set e (f (r.desc (advance r.size.toNat r.hlosIndexMap.toNat e))) := by
  have hroom := h.room
  have hwrote : r.wrote ≤ r.size.toNat := by omega
  exact window_set h.hlos hwrote he

theorem pending_get (_h : RingOk r) {e : ℕ} (he : e < r.wrote) :
    r.pending[e]? = some (r.desc (advance r.size.toNat r.hlosIndexMap.toNat e)) := by
  simp [H2nRing.pending, window, he]

end RingOk

@[simp] theorem H2nRing.length_pending (r : H2nRing) : r.pending.length = r.wrote := by
  simp [H2nRing.pending]

/-- What a producer with the ring to itself may do in one access. -/
inductive Produces (cpu : ℕ) : H2nRing → H2nRing → Prop where
  | fill (r : H2nRing) (d : H2nDescriptor) (room : r.outstanding + r.wrote + 1 < r.size.toNat) :
      Produces cpu r (r.fill (advance r.size.toNat r.hlosIndexMap.toNat r.wrote) d)
  | amend (r : H2nRing) (e : ℕ) (f : H2nDescriptor → H2nDescriptor)
      (room : r.outstanding + e < r.size.toNat) :
      Produces cpu r (r.amend (advance r.size.toNat r.hlosIndexMap.toNat e) f)
  | setIndex (r : H2nRing) (i : U32) : Produces cpu r (r.setHlosIndex i)
  | publish (r : H2nRing) (i : U32) (entries : List Enqueued)
      (next : i.toNat = advance r.size.toNat r.hlosIndexMap.toNat r.wrote)
      (mine : ∀ e ∈ entries, e.cpu = cpu) (all : entries.flatMap Enqueued.descs = r.pending) :
      Produces cpu r (r.publish i entries)

namespace Produces
variable {cpu : ℕ} {r r' : H2nRing}

theorem ringOk_update (h : RingOk r) {e w : ℕ} {d : H2nDescriptor}
    (he : r.outstanding + e < r.size.toNat) (hw : r.outstanding + w < r.size.toNat) :
    RingOk { r with desc := Function.update r.desc (advance r.size.toNat r.hlosIndexMap.toNat e) d,
                    wrote := w } :=
  { h with
    room := hw
    contents := by
      refine Eq.trans ?_ h.contents
      exact window_update fun i hi => h.owned_ne he hi }

theorem ringOk (h : RingOk r) (hp : Produces cpu r r') : RingOk r' := by
  cases hp with
  | fill d room => exact ringOk_update h (by omega) room
  | amend e f room => exact ringOk_update h room h.room
  | setIndex i => exact ⟨h.pow, h.nss, h.hlos, h.room, h.count, h.contents⟩
  | publish i entries next mine all =>
    have hroom := h.room
    have hcount := h.count
    have hout : (r.publish i entries).outstanding = r.outstanding + r.wrote := by
      unfold H2nRing.outstanding H2nRing.publish
      rw [next]
      exact gap_advance_right h.nss h.hlos hroom
    have hpub : (r.publish i entries).published = r.published ++ r.pending := by
      unfold H2nRing.published H2nRing.publish
      rw [List.flatMap_append, all]
    refine ⟨h.pow, h.nss, ?_, ?_, ?_, ?_⟩
    · change i.toNat < r.size.toNat
      rw [next]
      exact advance_lt h.size_pos
    · rw [hout]
      exact hroom
    · rw [hout, hpub, List.length_append, H2nRing.pending, length_window]
      change r.consumed + _ = _
      omega
    · rw [hout, hpub]
      change window r.desc r.size.toNat r.nssIndexMap.toNat _ = List.drop r.consumed _
      rw [window_add, ← h.hlos_eq, h.contents, List.drop_append_of_le_length (by omega)]
      rfl

theorem owned_unchanged (h : RingOk r) (hp : Produces cpu r r') {j : ℕ} (hj : r.Owned j) :
    r'.desc j = r.desc j := by
  have hroom := h.room
  cases hp with
  | fill d room =>
    apply Function.update_of_ne
    rintro rfl
    exact h.free_not_owned (by omega) hj
  | amend e f room =>
    apply Function.update_of_ne
    rintro rfl
    exact h.free_not_owned room hj
  | setIndex => rfl
  | publish => rfl

theorem size_eq (hp : Produces cpu r r') : r'.size = r.size := by cases hp <;> rfl

theorem lock_eq (hp : Produces cpu r r') : r'.lock = r.lock := by cases hp <;> rfl

theorem consumed_eq (hp : Produces cpu r r') : r'.consumed = r.consumed := by cases hp <;> rfl

theorem index_log (hp : Produces cpu r r') :
    r'.hlosIndexMap = r.hlosIndexMap ∧ r'.log = r.log ∨
      ∃ entries, r'.log = r.log ++ entries ∧ (∀ e ∈ entries, e.cpu = cpu) ∧
        entries.flatMap Enqueued.descs = r.pending ∧
        r'.hlosIndexMap.toNat = advance r.size.toNat r.hlosIndexMap.toNat r.wrote := by
  cases hp with
  | fill => exact .inl ⟨rfl, rfl⟩
  | amend => exact .inl ⟨rfl, rfl⟩
  | setIndex => exact .inl ⟨rfl, rfl⟩
  | publish i entries next mine all => exact .inr ⟨entries, rfl, mine, all, next⟩

end Produces

/-- The NSS takes some of the descriptors published to it. -/
def NssTakes (r r' : H2nRing) : Prop := ∃ d, d ≤ r.outstanding ∧ r' = r.consume d

namespace NssTakes
variable {r r' : H2nRing}

theorem index_toNat (h : RingOk r) (d : ℕ) :
    (r.consume d).nssIndexMap.toNat = advance r.size.toNat r.nssIndexMap.toNat d := by
  have hlt := advance_lt (i := r.nssIndexMap.toNat) (d := d) h.size_pos
  have hle := h.size_le
  exact (BitVec.toNat_ofNat _ _).trans (Nat.mod_eq_of_lt (by omega))

theorem outstanding_eq (h : RingOk r) {d : ℕ} (hd : d ≤ r.outstanding) :
    (r.consume d).outstanding = r.outstanding - d := by
  unfold H2nRing.outstanding
  rw [index_toNat h]
  exact gap_advance_left h.nss h.hlos hd

theorem ringOk (h : RingOk r) (ht : NssTakes r r') : RingOk r' := by
  obtain ⟨d, hd, rfl⟩ := ht
  have hroom := h.room
  have hcount := h.count
  have hout := outstanding_eq h hd
  refine ⟨h.pow, ?_, h.hlos, ?_, ?_, ?_⟩
  · rw [index_toNat h]
    exact advance_lt h.size_pos
  · rw [hout]
    change r.outstanding - d + r.wrote < r.size.toNat
    omega
  · rw [hout]
    change r.consumed + d + _ = r.published.length
    omega
  · rw [hout, index_toNat h]
    change window r.desc r.size.toNat _ _ = List.drop (r.consumed + d) r.published
    rw [← List.drop_drop, ← h.contents, drop_window hd]

end NssTakes
end NssDrv.DescriptorRing

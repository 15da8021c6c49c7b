import NssDrv.TransmitOutcome
import NssDrv.TransmitRing

set_option autoImplicit false

/-!
# The fate of a buffer that is to be transmitted

What `nss_core_send_buffer` leaves of the ring, of the mappings and of the skb,
whatever it comes back with.
-/
namespace NssDrv.TransmitFate
open HlosInterface SharedThread CyclicIndex DescriptorRing RingLocking TransmitEncoders
open TransmitQueue TransmitMappings TransmitOutcome
open TransmitRing (emptyRing Fresh Fresh.sharedOk)

section Send
variable {cpu : ℕ} {env : Outside} {size hlosIndex : U16} {ifNum : U32} {nbuf : TxSkb}
  {bufferType : U8} {flags : U16} {c c' : TxCall} {k : ℕ}

/-- The ring is in order, and the call has mapped nothing yet. -/
structure Ready (nbuf : TxSkb) (c : TxCall) : Prop extends Logged [] [] nbuf c where
  ring : SharedOk c.port.ring

def locked (cpu : ℕ) (c : TxCall) : TxCall := c.setPort (c.port.onRing fun r => r.acquire cpu)

def unlocked (c : TxCall) : TxCall := c.setPort (c.port.onRing H2nRing.release)

def nextSlot (c : TxCall) : ℕ := c.port.ring.hlosIndexMap.toNat

structure Unsent (nbuf : TxSkb) (c c' : TxCall) : Prop where
  index : c'.port.ring.hlosIndex = c.port.ring.hlosIndex
  map : c'.port.ring.hlosIndexMap = c.port.ring.hlosIndexMap
  owned : ∀ j, c.port.ring.Owned j → c'.port.ring.desc j = c.port.ring.desc j
  count : c'.port.stats .nssSkbCount = c.port.stats .nssSkbCount
  lock : c'.port.ring.lock = c.port.ring.lock
  nbuf : c'.nbuf = nbuf

/-- The descriptors of the buffer are in the ring, and published. -/
structure Committed (c : TxCall) (descs : List H2nDescriptor) (c' : TxCall) : Prop where
  filled : window c'.port.ring.desc c.port.ring.size.toNat (nextSlot c) descs.length = descs
  others : ∀ j, (∀ e < descs.length, advance c.port.ring.size.toNat (nextSlot c) e ≠ j) →
    c'.port.ring.desc j = c.port.ring.desc j
  index : c'.port.ring.hlosIndex.toNat =
    advance c.port.ring.size.toNat (nextSlot c) descs.length
  map : c'.port.ring.hlosIndexMap = c'.port.ring.hlosIndex
  fits : descs.length < c.port.ring.size.toNat

/-- What becomes of a buffer that is given to `nss_core_send_buffer`. -/
inductive Fate (cpu : ℕ) (env : Outside) (ifNum : U32) (nbuf : TxSkb) (bufferType : U8)
    (flags : U16) (c : TxCall) : CoreStatus → TxCall → Prop where
  | sent {c' : TxCall} (descs : List H2nDescriptor) (ms : List Mapping) (nb : TxSkb)
      (done : Committed c descs c') (log : Logged ms [] nb c')
      (written : Written env ifNum nbuf bufferType flags descs ms) :
      Fate cpu env ifNum nbuf bufferType flags c .success c'
  | refused {c' : TxCall} (v : CoreStatus) (not : v ≠ .success) (unsent : Unsent nbuf c c')
      (log : Logged [] [] nbuf c')
      (long : v = .failure → nbuf.hasFragList = true ∧
        (c.port.ring.size.signExtend 32).ult (txSegments nbuf) = true) :
      Fate cpu env ifNum nbuf bufferType flags c v c'
  | failed {t : TxCall} (free : c.port.ring.lock = none)
      (room : c.port.ring.outstanding + (txSegments nbuf).toNat + 1 < c.port.ring.size.toNat)
      (failed : Failed env (locked cpu c) (nextSlot c) ifNum nbuf bufferType t) :
      Fate cpu env ifNum nbuf bufferType flags c .failure (unlocked t)

section Steps
variable {α β : Type} {S : β → TxCall → Prop}

theorem post_read {f : H2nPort → α} {g : α → Proc TxCall β} (h : Post S (g (f c.port)) c) :
    Post S (onPort (Proc.read f) >>= g) c := h

theorem post_lock {g : Unit → Proc TxCall β}
    (h : c.port.ring.lock = none → Post S (g ()) (locked cpu c)) :
    Post S (onPort (spinLockBh cpu) >>= g) c := by
  intro a t hexec
  have hact : (if c.port.ring.lock.isNone = true then (g ()).exec (locked cpu c) else none) =
      some (a, t) := hexec
  by_cases hfree : c.port.ring.lock.isNone = true
  · rw [if_pos hfree] at hact
    exact h (Option.isNone_iff_eq_none.mp hfree) a t hact
  · rw [if_neg hfree] at hact
    cases hact

theorem post_last {q : Proc H2nPort β}
    (h : ∀ a p, q.exec c.port = some (a, p) → S a (c.setPort p)) : Post S (onPort q) c := by
  intro a t hexec
  rw [exec_onPort] at hexec
  obtain ⟨⟨b, p⟩, hq, heq⟩ := Option.map_eq_some_iff.mp hexec
  obtain ⟨rfl, rfl⟩ := Prod.mk.inj heq
  exact h b p hq

end Steps

theorem queueFull_exec {p p' : H2nPort} {v : CoreStatus} (h : queueFull.exec p = some (v, p')) :
    v = .failureQueue ∧ p'.ring = p.ring.stopTx.release ∧
      p'.stats .nssSkbCount = p.stats .nssSkbCount := by
  obtain ⟨rfl, rfl⟩ := Prod.mk.inj (Option.some.inj h)
  refine ⟨rfl, ?_, ?_⟩
  · dsimp only [id]
    split
    · rfl
    · split <;> rfl
  · dsimp only [id]
    split
    · rfl
    · split <;> rfl

theorem unsent_of_laid {t : TxCall} {ds : List H2nDescriptor} (h : Laid (locked cpu c) (nextSlot c) ds t)
    (hring : RingOk c.port.ring) (hfree : c.port.ring.lock = none)
    (hroom : c.port.ring.outstanding + ds.length < c.port.ring.size.toNat) (hnbuf : t.nbuf = nbuf) :
    Unsent nbuf c (unlocked t) := by
  refine ⟨h.index, h.map, ?_, h.count, hfree.symm, hnbuf⟩
  intro j hj
  apply h.others
  rintro e he rfl
  exact hring.free_not_owned (by omega) hj

/-- The count fits `int16_t`. -/
theorem count_toInt {a : ℤ} (hlow : -2 ^ 14 ≤ a) (hhigh : a ≤ 2 ^ 14) :
    (BitVec.ofInt 16 a).toInt = a := by
  rw [BitVec.toInt_ofInt, Int.bmod_eq_of_le] <;> omega

theorem publish_failed {a : ℤ} {p : H2nPort} (h : (BitVec.ofInt 16 a).toInt ≤ 0) :
    (publishEncoded cpu nbuf size hlosIndex a).exec p =
      some (.failure, p.onRing H2nRing.release) := by
  unfold publishEncoded
  dsimp only
  rw [if_pos h]
  rfl

theorem publish_sent {a : ℤ} {p p' : H2nPort} {v : CoreStatus} (h : ¬ (BitVec.ofInt 16 a).toInt ≤ 0)
    (hexec : (publishEncoded cpu nbuf size hlosIndex a).exec p = some (v, p')) :
    v = .success ∧ p'.ring.desc = p.ring.desc ∧ p'.ring.hlosIndexMap = p'.ring.hlosIndex ∧
      p'.ring.hlosIndex = ((hlosIndex + BitVec.ofInt 16 a) &&& (size - 1)).signExtend 32 := by
  unfold publishEncoded at hexec
  dsimp only at hexec
  rw [if_neg h] at hexec
  obtain ⟨rfl, rfl⟩ := Prod.mk.inj (Option.some.inj hexec)
  exact ⟨rfl, rfl, rfl, rfl⟩

theorem publish_post {t : TxCall} {a : ℤ} (hk : k ≤ 14) (hsize : size.toNat = 2 ^ k)
    (hring : c.port.ring.size = size) (hfree : c.port.ring.lock = none)
    (hroom : c.port.ring.outstanding + (txSegments nbuf).toNat + 1 < size.toNat)
    (hidx : hlosIndex.toNat = nextSlot c)
    (hout : Outcome env (locked cpu c) (nextSlot c) ifNum nbuf bufferType flags a t) :
    Post (Fate cpu env ifNum nbuf bufferType flags c)
      (onPort (publishEncoded cpu nbuf size hlosIndex a)) t := by
  have hsize' : size.toNat ≤ 2 ^ 14 := by
    rw [hsize]
    exact Nat.pow_le_pow_right (by decide) hk
  have hpos : 0 < size.toNat := by omega
  have hlength := length_morePieces nbuf
  apply post_last
  intro v p' hexec
  rcases hout with ⟨descs, ms, nb, rfl, ⟨hlow, hhigh⟩, hlaid, hlog, hwritten⟩ | ⟨⟨hlow, hhigh⟩, hfailed⟩
  · have hint := count_toInt (a := (descs.length : ℤ)) (by omega) (by omega)
    have hcount : (BitVec.ofInt 16 (descs.length : ℤ)).toNat = descs.length := by
      have := BitVec.toInt_eq_toNat_cond (BitVec.ofInt 16 (descs.length : ℤ))
      have := (BitVec.ofInt 16 (descs.length : ℤ)).isLt
      split at * <;> omega
    obtain ⟨rfl, hdesc, hmap, hindex⟩ := publish_sent (by omega) hexec
    have hfilled := hlaid.filled
    have hothers := hlaid.others
    rw [← hdesc] at hfilled hothers
    refine .sent descs ms nb ⟨hfilled, hothers, ?_, hmap, hring ▸ (by omega)⟩
      ⟨hlog.maps, hlog.unmaps, hlog.nbuf⟩ hwritten
    have hnext := masked_add (x := hlosIndex) (c := BitVec.ofInt 16 (descs.length : ℤ))
      (by omega : k < 16) hsize
    rw [hcount, hidx] at hnext
    have hlt := advance_lt (i := nextSlot c) (d := descs.length) hpos
    change p'.ring.hlosIndex.toNat = _
    rw [hindex, signExtend_toNat (by omega), hnext, hring]
  · rw [publish_failed (by rw [count_toInt (by omega) (by omega)]; exact hhigh)] at hexec
    obtain ⟨rfl, rfl⟩ := Prod.mk.inj (Option.some.inj hexec)
    exact .failed hfree (hring ▸ hroom) hfailed

/-- Under the lock a call finds the ring full, or encodes and publishes with room for
    every segment. -/
theorem sendLocked_rule {S : CoreStatus → TxCall → Prop} (h : Ready nbuf c)
    (hring : c.port.ring.size = size) (hseg : (txSegments nbuf).toNat + 1 < 2 ^ 32)
    (hfull : ∀ t, Unsent nbuf c t → Logged [] [] nbuf t → S .failureQueue t)
    (hencode : ∀ hlosIndex : U16, hlosIndex.toNat = nextSlot c → c.port.ring.lock = none →
      c.port.ring.outstanding + (txSegments nbuf).toNat + 1 < c.port.ring.size.toNat →
      Post S (TransmitMappings.encode env ifNum nbuf bufferType flags size hlosIndex >>= fun written =>
        onPort (publishEncoded cpu nbuf size hlosIndex written)) (locked cpu c)) :
    Post S (TransmitMappings.sendLocked cpu env ifNum nbuf bufferType flags size) c := by
  obtain ⟨k, hk, hpow⟩ := h.ring.pow
  have hle := h.ring.size_le
  have hnss := h.ring.nss
  have hhlos := h.ring.hlos
  have hpos := h.ring.size_pos
  subst hring
  unfold TransmitMappings.sendLocked
  apply post_lock
  intro hfree
  apply post_read
  apply post_read
  have hindex : (((locked cpu c).port.ring.hlosIndex).setWidth 16).toNat = nextSlot c := by
    change (c.port.ring.hlosIndex.setWidth 16).toNat = _
    rw [h.ring.settled hfree, setWidth_toNat (by omega)]
    rfl
  have hnss16 : (((locked cpu c).port.ring.nssIndexMap).setWidth 16).toNat =
      c.port.ring.nssIndexMap.toNat := by
    change (c.port.ring.nssIndexMap.setWidth 16).toNat = _
    exact setWidth_toNat (by omega)
  have hstart : nextSlot c < c.port.ring.size.toNat := hhlos
  dsimp only
  generalize hcount : ringRoom (((locked cpu c).port.ring.nssIndexMap).setWidth 16)
    (((locked cpu c).port.ring.hlosIndex).setWidth 16) c.port.ring.size = count
  have hleft : count.toNat + c.port.ring.outstanding = c.port.ring.size.toNat - 1 := by
    have hroom := masked_room (by omega : k < 16) hpow (hnss16 ▸ hnss) (hindex ▸ hstart)
    rw [hnss16, hindex] at hroom
    rw [← hcount]
    exact hroom
  by_cases hult : (count.signExtend 32).ult (txSegments nbuf + 1) = true
  · rw [if_pos hult]
    apply post_last
    intro v p' hexec
    obtain ⟨rfl, hring, hstat⟩ := queueFull_exec hexec
    have hunsent : Unsent nbuf c ((locked cpu c).setPort p') := by
      refine ⟨?_, ?_, ?_, hstat, ?_, h.nbuf⟩
      · exact (congrArg H2nRing.hlosIndex hring).trans rfl
      · exact (congrArg H2nRing.hlosIndexMap hring).trans rfl
      · exact fun j _ => congrFun (congrArg H2nRing.desc hring) j
      · exact (congrArg H2nRing.lock hring).trans hfree.symm
    exact hfull _ hunsent ⟨h.maps, h.unmaps, h.nbuf⟩
  · rw [if_neg hult]
    have hneed : (txSegments nbuf).toNat + 1 ≤ count.toNat := by
      have hone : (txSegments nbuf + 1).toNat = (txSegments nbuf).toNat + 1 :=
        BitVec.toNat_add_of_lt hseg
      rw [BitVec.ult_eq_decide, signExtend_toNat (by omega), hone, decide_eq_true_eq] at hult
      omega
    exact hencode _ hindex hfree (by omega)

theorem send_rule {S : CoreStatus → TxCall → Prop} (h : Ready nbuf c)
    (hrefused : ∀ v t, v ≠ .success → Unsent nbuf c t → Logged [] [] nbuf t →
      (v = .failure → nbuf.hasFragList = true ∧
        (c.port.ring.size.signExtend 32).ult (txSegments nbuf) = true) → S v t)
    (hencode : ∀ hlosIndex : U16, hlosIndex.toNat = nextSlot c → c.port.ring.lock = none →
      c.port.ring.outstanding + (txSegments nbuf).toNat + 1 < c.port.ring.size.toNat →
      Post S (TransmitMappings.encode env ifNum nbuf bufferType flags c.port.ring.size hlosIndex >>=
        fun written => onPort (publishEncoded cpu nbuf c.port.ring.size hlosIndex written))
        (locked cpu c)) :
    Post S (TransmitMappings.nssCoreSendBuffer cpu env ifNum nbuf bufferType flags) c := by
  have hle := h.ring.size_le
  have hfull : ∀ t, Unsent nbuf c t → Logged [] [] nbuf t → S .failureQueue t :=
    fun t hunsent hlog => hrefused .failureQueue t (by decide) hunsent hlog nofun
  unfold TransmitMappings.nssCoreSendBuffer
  apply post_read
  by_cases hlist : nbuf.hasFragList = true
  · rw [if_pos hlist]
    by_cases hult : (c.port.ring.size.signExtend 32).ult (txSegments nbuf) = true
    · rw [if_pos hult]
      refine post_ret (hrefused .failure c (by decide) ?_ h.toLogged fun _ => ⟨hlist, hult⟩)
      exact ⟨rfl, rfl, fun _ _ => rfl, rfl, rfl, h.nbuf⟩
    · rw [if_neg hult]
      have hfit : (txSegments nbuf).toNat ≤ c.port.ring.size.toNat := by
        rw [BitVec.ult_eq_decide, signExtend_toNat (by omega), decide_eq_true_eq] at hult
        omega
      exact sendLocked_rule h rfl (by omega) hfull hencode
  · rw [if_neg hlist]
    by_cases hmax : nbuf.fragSizes.length > env.maxSkbFrags
    · rw [if_pos hmax]
      exact post_halt
    · rw [if_neg hmax]
      have hlt := nbuf.fragSizes_lt
      have hseg : (txSegments nbuf).toNat = nbuf.fragSizes.length := by
        rw [txSegments, if_neg hlist, BitVec.toNat_ofNat, Nat.mod_eq_of_lt (by omega)]
      exact sendLocked_rule h rfl (by omega) hfull hencode

theorem send_post (h : Ready nbuf c) :
    Post (Fate cpu env ifNum nbuf bufferType flags c)
      (TransmitMappings.nssCoreSendBuffer cpu env ifNum nbuf bufferType flags) c := by
  obtain ⟨k, hk, hpow⟩ := h.ring.pow
  have hstart : nextSlot c < c.port.ring.size.toNat := h.ring.hlos
  have hlog : Logged [] [] nbuf (locked cpu c) := ⟨h.maps, h.unmaps, h.nbuf⟩
  refine send_rule h (fun v t hv hunsent hlogged hlong => .refused v hv hunsent hlogged hlong) ?_
  intro hlosIndex hidx hfree hroom
  refine Post.bind (encode_post (by omega) hpow rfl hstart (Laid.refl rfl) hlog ?_ hidx) ?_
  · omega
  · intro a t hout
    exact publish_post hk hpow rfl hfree hroom hidx hout

theorem failed_unsent {t : TxCall} (h : Failed env (locked cpu c) (nextSlot c) ifNum nbuf bufferType t)
    (hring : RingOk c.port.ring) (hfree : c.port.ring.lock = none)
    (hroom : c.port.ring.outstanding + (txSegments nbuf).toNat + 1 < c.port.ring.size.toNat) :
    Unsent nbuf c (unlocked t) := by
  rw [← length_morePieces] at hroom
  cases h with
  | head _ laid log =>
    refine unsent_of_laid laid hring hfree ?_ log.nbuf
    rw [List.length_nil]
    omega
  | segment mss bits bits' opaqueWord m j ms' gave =>
    refine unsent_of_laid gave.toLaid hring hfree ?_ gave.nbuf
    have hlength : (pieceDescs ifNum bufferType mss bits (morePieces nbuf) (ms'.take j)).length ≤
        (morePieces nbuf).length := by
      unfold pieceDescs
      rw [List.length_zipWith]
      exact Nat.min_le_left _ _
    rw [List.length_append, List.length_singleton]
    omega

/-- A buffer that is not taken leaves no trace but for what the sender alone uses. -/
theorem unsent_unless_success {v : CoreStatus} (h : Ready nbuf c)
    (hexec : (TransmitMappings.nssCoreSendBuffer cpu env ifNum nbuf bufferType flags).exec c =
      some (v, c')) (hv : v ≠ .success) : Unsent nbuf c c' := by
  cases send_post h v c' hexec with
  | sent => exact absurd rfl hv
  | refused _ _ unsent => exact unsent
  | failed free room failed => exact failed_unsent failed h.ring.toRingOk free room

end Send

/-- A ring of `size` slots that nothing was put into yet. -/
def idleCall (size : U16) (nbuf : TxSkb) : TxCall :=
  ⟨⟨emptyRing size, 0, fun _ => 0, 0⟩, [], [], nbuf⟩

theorem idleCall_ready {size : U16} {nbuf : TxSkb} {k : ℕ} (hk : k ≤ 14)
    (hsize : size.toNat = 2 ^ k) : Ready nbuf (idleCall size nbuf) where
  maps := rfl
  unmaps := rfl
  nbuf := rfl
  ring := Fresh.sharedOk ⟨⟨k, hk, hsize⟩, hsize ▸ Nat.two_pow_pos k, rfl, rfl, rfl, rfl, rfl, rfl⟩

def pagedSkb : TxSkb where
  addr := 7
  head := 0x1000
  data := 0x1040
  tail := 0x1080
  end_ := 0x1800
  len := 0x2040
  dataLen := 0x2000
  priority := 0
  nrFrags := 2
  ipSummed := .checksumNone
  hasDestructor := false
  gsoSize := 0
  fragSizes := [0x1000, 0x1000]
  fragList := []
  fragSizes_lt := by decide
  fragList_lt := TxSkb.noFragList_lt

/-- Mappings up to the second page succeed, and that one does not. -/
def secondPageFails : Outside where
  dma i := if i < 3 then some (BitVec.ofNat 32 (0x100000 * i)) else none
  maxSkbFrags := 17
  recycling := false
  isVirtual := false
  recycleable := false
  maxBufSize := 1792
  netSkbPad := 32
  recycle := id

theorem unsent_unless_success_paged : ∃ c',
    (TransmitMappings.nssCoreSendBuffer 0 secondPageFails 3 pagedSkb 0 0).exec
      (idleCall 8 pagedSkb) = some (.failure, c') ∧ c'.maps.length = 2 ∧
      Unsent pagedSkb (idleCall 8 pagedSkb) c' := by
  have hrun : ∃ c', (TransmitMappings.nssCoreSendBuffer 0 secondPageFails 3 pagedSkb 0 0).exec
      (idleCall 8 pagedSkb) = some (.failure, c') ∧ c'.maps.length = 2 := ⟨_, rfl, rfl⟩
  obtain ⟨c', hexec, hmaps⟩ := hrun
  have hready : Ready pagedSkb (idleCall 8 pagedSkb) := idleCall_ready (k := 3) (by decide) rfl
  exact ⟨c', hexec, hmaps, unsent_unless_success hready hexec (by decide)⟩

end NssDrv.TransmitFate

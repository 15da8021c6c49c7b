import NssDrv.EncoderBounds
import NssDrv.ThreadPool
import NssDrv.TransmitQueue

set_option autoImplicit false

/-!
# Senders and the NSS on one data or command ring

`nss_core_send_buffer` and `nss_core_send_crypto`, called from any number of
CPUs in any interleaving with each other and with the NSS.
-/
namespace NssDrv.TransmitRing
open HlosInterface SharedThread CyclicIndex DescriptorRing RingLocking TransmitEncoders
open TransmitQueue EncoderBounds ThreadPool TransitionRuns

/-- What a call by `cpu` that began with `sent` has done when it returns. -/
structure Returned (cpu : ℕ) (sent : List Enqueued) (cookie : U32) (v : CoreStatus)
    (r : H2nRing) : Prop extends SharedOk r where
  lock : r.lock ≠ some cpu
  success : v = .success → ∃ e, sentBy cpu r = sent ++ [e] ∧ e.cookie = cookie ∧
    ∃ d ∈ e.descs, d.opaqueWord = cookie
  failure : v ≠ .success → sentBy cpu r = sent

section Calls
variable {cpu start most : ℕ} {size : U16} {sent : List Enqueued} {ds : List H2nDescriptor}
  {p : H2nPort} {cookie : U32} {v : CoreStatus} {α : Type} {Q : α → H2nPort → Prop}

theorem returned_rely {r r' : H2nRing} (h : Returned cpu sent cookie v r) (hr : RingRely cpu r r') :
    Returned cpu sent cookie v r' := by
  have hsent := hr.sent h.toSharedOk
  exact
    { hr.ok h.toSharedOk with
      lock := fun hl => h.lock (hr.lock.mp hl)
      success := fun hv => hsent ▸ h.success hv
      failure := fun hv => hsent ▸ h.failure hv }

theorem outside_stable : Stable (Rely cpu) fun p => Outside cpu size sent p.ring :=
  fun _ _ hr h => h.rely hr

theorem published_stable : Stable (Rely cpu) fun p => Published cpu size sent p.ring :=
  fun _ _ hr h => h.rely hr

theorem publishing_stable {next : U32} :
    Stable (Rely cpu) fun p => Publishing cpu size sent ds next p.ring :=
  fun _ _ hr h => h.rely hr

theorem sat_failed (h : Outside cpu size sent p.ring) (hv : v ≠ .success) :
    Sat (Rely cpu) (Guarantee cpu) (fun v p => Returned cpu sent cookie v p.ring) (.ret v) p := by
  refine Sat.ret (fun _ _ hr hs => returned_rely hs hr) ?_
  exact { h.toSharedOk with
    lock := h.lock, success := fun hs => (hv hs).elim, failure := fun _ => h.sent_eq }

theorem sat_acquire {k : Unit → Proc H2nPort α} (h : Outside cpu size sent p.ring)
    (hk : ∀ start q, Fills cpu size start 0 sent [] q →
      Sat (Rely cpu) (Guarantee cpu) Q (k ()) q) :
    Sat (Rely cpu) (Guarantee cpu) Q ((spinLockBh cpu).bind k) p := by
  refine Sat.await outside_stable h fun q hq hen => ?_
  have hfree : q.ring.lock = none := by simpa using hen
  have hacq := Filling.of_acquire hq hfree
  exact ⟨hacq.1, hk _ _ hacq.2⟩

theorem sat_release {k : Unit → Proc H2nPort α} {P : H2nPort → Prop} (hstable : Stable (Rely cpu) P)
    (hP : ∀ q, P q → SharedOk q.ring ∧ q.ring.lock = some cpu ∧
      q.ring.hlosIndex = q.ring.hlosIndexMap ∧ q.ring.size = size ∧ sentBy cpu q.ring = sent)
    (h : P p) (hk : ∀ q, Outside cpu size sent q.ring → Sat (Rely cpu) (Guarantee cpu) Q (k ()) q) :
    Sat (Rely cpu) (Guarantee cpu) Q (spinUnlockBh.bind k) p := by
  refine Sat.modify hstable h fun q hq => ?_
  obtain ⟨hok, hlock, hindex, hsize, hsent⟩ := hP q hq
  have hrel := Filling.to_release hok hlock hindex hsize hsent
  exact ⟨hrel.1, hk _ hrel.2⟩

theorem fills_release (q : H2nPort) (h : Fills cpu size start most sent ds q) :
    SharedOk q.ring ∧ q.ring.lock = some cpu ∧ q.ring.hlosIndex = q.ring.hlosIndexMap ∧
      q.ring.size = size ∧ sentBy cpu q.ring = sent :=
  ⟨h.toSharedOk, h.lock, h.index_eq, h.size_eq, h.sent_eq⟩

theorem published_release (q : H2nPort) (h : Published cpu size sent q.ring) :
    SharedOk q.ring ∧ q.ring.lock = some cpu ∧ q.ring.hlosIndex = q.ring.hlosIndexMap ∧
      q.ring.size = size ∧ sentBy cpu q.ring = sent :=
  ⟨.of_held h.toRingOk h.lock, h.lock, h.index_eq, h.size_eq, h.sent_eq⟩

theorem queueFull_returned (h : Fills cpu size start most sent ds p) :
    Sat (Rely cpu) (Guarantee cpu) (fun v p => Returned cpu sent cookie v p.ring) queueFull p := by
  simp only [queueFull, Proc.bind_eq, Proc.pure_eq]
  refine Sat.modify fills_stable h fun q hq => ⟨.stop _ hq.lock, ?_⟩
  have hstop : Fills cpu size start most sent ds (H2nPort.onRing H2nRing.stopTx q) :=
    { (LockedAct.stop q.ring hq.lock).sharedOk hq.toSharedOk with
      lock := hq.lock, size_eq := hq.size_eq, start_eq := hq.start_eq, index_eq := hq.index_eq,
      fits := hq.fits, sent_eq := hq.sent_eq, pending_eq := hq.pending_eq }
  refine sat_release fills_stable fills_release hstop fun q hq => ?_
  have hcounted : ∀ q : H2nPort, (if q.coreId = 0 then
      { q with stats := q.stats.add .txQueueFull0 1 } else if q.coreId = 1 then
      { q with stats := q.stats.add .txQueueFull1 1 } else q).ring = q.ring := by
    intro q
    split
    · rfl
    · split <;> rfl
  refine sat_aside hcounted outside_stable (fun q hq => by rw [hcounted]; exact hq) hq fun q hq => ?_
  refine sat_aside (fun _ => rfl) outside_stable (fun _ hq => hq) hq fun q hq => ?_
  exact sat_failed hq (by decide)

theorem sat_publish {hlosIndex : U16} {k : Unit → Proc H2nPort α}
    (h : Fills cpu size start most sent ds p)
    (hidx : (hlosIndex.signExtend 32).toNat = advance size.toNat start ds.length)
    (hk : ∀ q, Published cpu size (sent ++ [⟨cpu, cookie, ds⟩]) q.ring →
      Sat (Rely cpu) (Guarantee cpu) Q (k ()) q) :
    Sat (Rely cpu) (Guarantee cpu) Q
      ((Proc.modify (H2nPort.onRing fun r => r.setHlosIndex (hlosIndex.signExtend 32))).bind
        fun _ => (Proc.modify (enqueue cpu cookie hlosIndex)).bind k) p := by
  refine Sat.modify fills_stable h fun q hq => ?_
  have hset := Publishing.of_setIndex hq hidx
  refine ⟨hset.1, Sat.modify publishing_stable hset.2 fun q hq => ?_⟩
  have hpub := hq.publish cookie
  exact ⟨hpub.1, hk _ hpub.2⟩

theorem sat_success (h : Published cpu size (sent ++ [⟨cpu, cookie, ds⟩]) p.ring)
    (hcookie : ∃ d ∈ ds, d.opaqueWord = cookie) :
    Sat (Rely cpu) (Guarantee cpu) (fun v p => Returned cpu sent cookie v p.ring)
      (spinUnlockBh.bind fun _ => .ret .success) p := by
  refine sat_release published_stable published_release h fun q hq => ?_
  refine Sat.ret (fun _ _ hr hs => returned_rely hs hr) ?_
  exact { hq.toSharedOk with
    lock := hq.lock
    success := fun _ => ⟨_, hq.sent_eq, rfl, hcookie⟩
    failure := fun hv => (hv rfl).elim }

theorem publishEncoded_returned {nbuf : TxSkb} {hlosIndex : U16} {k : ℕ} (hk : k ≤ 14)
    (hsize : size.toNat = 2 ^ k) {written : ℤ} (hmost : most ≤ 2 ^ 14)
    (h : Encoded cpu size start most sent nbuf.addr written p) (hidx : hlosIndex.toNat = start) :
    Sat (Rely cpu) (Guarantee cpu) (fun v p => Returned cpu sent nbuf.addr v p.ring)
      (publishEncoded cpu nbuf size hlosIndex written) p := by
  obtain ⟨ds, hfill, hle, hge, hpos⟩ := h
  -- the count fits `int16_t`
  have hcount : (BitVec.ofInt 16 written).toInt = written := by
    rw [BitVec.toInt_ofInt, Int.bmod_eq_of_le] <;> omega
  simp only [publishEncoded, Proc.bind_eq, Proc.pure_eq, hcount]
  split
  · refine sat_release fills_stable fills_release hfill fun q hq => ?_
    exact sat_failed hq (by decide)
  · obtain ⟨hlen, hcookie⟩ := hpos (by omega)
    have hnat : (BitVec.ofInt 16 written).toNat = ds.length := by
      have := BitVec.toInt_eq_toNat_cond (BitVec.ofInt 16 written)
      have := (BitVec.ofInt 16 written).isLt
      split at * <;> omega
    have hlt : advance size.toNat start ds.length < 2 ^ 15 := by
      have := advance_lt (i := start) (d := ds.length) (hsize ▸ Nat.two_pow_pos k : 0 < size.toNat)
      have := Nat.pow_le_pow_right (show 0 < 2 by decide) hk
      omega
    have hmask := masked_add (x := hlosIndex) (c := BitVec.ofInt 16 written) (by omega : k < 16) hsize
    rw [hidx, hnat] at hmask
    have hnext : (((hlosIndex + BitVec.ofInt 16 written) &&& (size - 1)).signExtend 32).toNat =
        advance size.toNat start ds.length := by
      rw [signExtend_toNat (by omega), hmask]
    refine sat_publish hfill hnext fun q hq => ?_
    exact sat_aside (fun _ => rfl) published_stable (fun _ h => h) hq
      fun q hq => sat_success hq hcookie

theorem encode_encoded {env : TxEnv} {ifNum : U32} {nbuf : TxSkb} {bufferType : U8}
    {flags hlosIndex : U16} {k : ℕ} (hk : k < 16) (hsize : size.toNat = 2 ^ k)
    (h : Fills cpu size start most sent [] p) (hmost : (txSegments nbuf).toNat + 1 ≤ most)
    (hidx : hlosIndex.toNat = advance size.toNat start 0) :
    Sat (Rely cpu) (Guarantee cpu) (Encoded cpu size start most sent nbuf.addr)
      (encode env ifNum nbuf bufferType flags size hlosIndex) p := by
  unfold encode
  simp only
  split
  · exact simpleSkb_encoded h (by omega) hidx
  · split
    · rename_i hlist
      have hseg : (txSegments nbuf).toNat = nbuf.fragList.length := by
        rw [txSegments, if_pos hlist, BitVec.toNat_ofNat, Nat.mod_eq_of_lt nbuf.fragList_lt]
      exact fraglist_encoded hk hsize h (by omega) hidx
    · rename_i hlist
      have hlt := nbuf.fragSizes_lt
      have hseg : (txSegments nbuf).toNat = nbuf.fragSizes.length := by
        rw [txSegments, if_neg hlist, BitVec.toNat_ofNat, Nat.mod_eq_of_lt (by omega)]
      exact nrFrags_encoded hk hsize h (by omega) hidx

theorem room_toNat {r : H2nRing} (h : Filling cpu size start most sent ds r) {hlosIndex : U16}
    (hidx : hlosIndex.toNat = start) :
    (ringRoom (r.nssIndexMap.setWidth 16) hlosIndex size).toNat + r.outstanding =
      size.toNat - 1 := by
  obtain ⟨k, hk, hpow⟩ := h.pow
  have hle := h.size_le
  have hnss := h.nss
  have hhlos := h.hlos
  have hsize := h.size_eq
  have hstart := h.start_eq
  subst hsize
  have hword : (r.nssIndexMap.setWidth 16).toNat = r.nssIndexMap.toNat := setWidth_toNat (by omega)
  have hnss' : (r.nssIndexMap.setWidth 16).toNat < r.size.toNat := by omega
  have hhlos' : hlosIndex.toNat < r.size.toNat := by omega
  have hroom := masked_room (by omega : k < 16) hpow hnss' hhlos'
  rw [hword, hidx, ← hstart] at hroom
  exact hroom

/-- The reads of the two indexes: what is computed from them is room that no
    other party can take away. -/
theorem sat_measure {k : U16 → U16 → Proc H2nPort α} (h : Fills cpu size start 0 sent [] p)
    (hk : ∀ nssIndex hlosIndex q, hlosIndex.toNat = start →
      Fills cpu size start (ringRoom nssIndex hlosIndex size).toNat sent [] q →
      Sat (Rely cpu) (Guarantee cpu) Q (k nssIndex hlosIndex) q) :
    Sat (Rely cpu) (Guarantee cpu) Q
      ((Proc.read fun p => p.ring.nssIndexMap.setWidth 16).bind fun nssIndex =>
        (Proc.read fun p => p.ring.hlosIndex.setWidth 16).bind fun hlosIndex =>
          k nssIndex hlosIndex) p := by
  refine Sat.read (fun _ _ => .idle _) fills_stable h fun q hq => ?_
  let room := size.toNat - 1 - q.ring.outstanding
  have hpos := hq.size_eq ▸ hq.size_pos
  have hfits := hq.fits
  have hroom : Fills cpu size start room sent [] q := { hq with fits := by omega }
  have hsame : ∀ hlosIndex : U16, hlosIndex.toNat = start →
      (ringRoom (q.ring.nssIndexMap.setWidth 16) hlosIndex size).toNat = room := by
    intro hlosIndex hidx
    have := room_toNat hq hidx
    omega
  refine Sat.read (fun _ _ => .idle _) fills_stable hroom fun u hu => ?_
  have hidx : (u.ring.hlosIndex.setWidth 16).toNat = start := by
    have := hu.hlos
    have := hu.size_le
    rw [hu.index_eq, setWidth_toNat (by omega), hu.start_eq]
  refine hk _ _ u hidx ?_
  rw [hsame _ hidx]
  exact hu

theorem room_le {nssIndex hlosIndex : U16}
    (h : Fills cpu size start (ringRoom nssIndex hlosIndex size).toNat sent [] p) :
    (ringRoom nssIndex hlosIndex size).toNat < 2 ^ 14 := by
  have := h.fits
  have := h.size_eq ▸ h.size_le
  omega

theorem sendLocked_returned {env : TxEnv} {ifNum : U32} {nbuf : TxSkb} {bufferType : U8}
    {flags : U16} (h : Outside cpu size sent p.ring)
    (hseg : (txSegments nbuf).toNat + 1 < 2 ^ 32) :
    Sat (Rely cpu) (Guarantee cpu) (fun v p => Returned cpu sent nbuf.addr v p.ring)
      (sendLocked cpu env ifNum nbuf bufferType flags size) p := by
  simp only [sendLocked, Proc.bind_eq]
  refine sat_acquire h fun start q hq => ?_
  refine sat_measure hq fun nssIndex hlosIndex q hidx hq => ?_
  have hroom := room_le hq
  split
  · exact queueFull_returned hq
  · rename_i hult
    obtain ⟨k, hk, hpow⟩ := hq.pow
    rw [hq.size_eq] at hpow
    have hneed : (txSegments nbuf).toNat + 1 ≤ (ringRoom nssIndex hlosIndex size).toNat := by
      have hone : (txSegments nbuf + 1).toNat = (txSegments nbuf).toNat + 1 :=
        BitVec.toNat_add_of_lt hseg
      have hext := signExtend_toNat (x := ringRoom nssIndex hlosIndex size) (by omega)
      rw [BitVec.ult_eq_decide, hext, hone, decide_eq_true_eq] at hult
      omega
    have hstart : start < size.toNat := by
      rw [← hq.start_eq, ← hq.size_eq]
      exact hq.hlos
    have hslot : hlosIndex.toNat = advance size.toNat start 0 := by rw [hidx, advance_zero hstart]
    refine Sat.bind (encode_encoded (by omega) hpow hq hneed hslot) fun written u hu => ?_
    exact publishEncoded_returned hk hpow (by omega) hu hidx

theorem sendBuffer_returned {env : TxEnv} {ifNum : U32} {nbuf : TxSkb} {bufferType : U8}
    {flags : U16} (h : Outside cpu size sent p.ring) :
    Sat (Rely cpu) (Guarantee cpu) (fun v p => Returned cpu sent nbuf.addr v p.ring)
      (nssCoreSendBuffer cpu env ifNum nbuf bufferType flags) p := by
  simp only [nssCoreSendBuffer, Proc.bind_eq, Proc.pure_eq]
  refine Sat.read (fun _ _ => .idle _) outside_stable h fun q hq => ?_
  have hle := hq.size_le
  split
  · rename_i hlist
    split
    · exact sat_failed hq (by decide)
    · rename_i hult
      have hfit : (txSegments nbuf).toNat ≤ q.ring.size.toNat := by
        rw [BitVec.ult_eq_decide, signExtend_toNat (by omega), decide_eq_true_eq] at hult
        omega
      rw [← hq.size_eq] at hq
      exact sendLocked_returned hq (by omega)
  · rename_i hlist
    split
    · trivial
    · have hlt := nbuf.fragSizes_lt
      have hseg : (txSegments nbuf).toNat = nbuf.fragSizes.length := by
        rw [txSegments, if_neg hlist, BitVec.toNat_ofNat, Nat.mod_eq_of_lt (by omega)]
      rw [← hq.size_eq] at hq
      exact sendLocked_returned hq (by omega)

theorem sendCrypto_returned {buf bufPaddr : U32} {len : U16} (h : Outside cpu size sent p.ring) :
    Sat (Rely cpu) (Guarantee cpu) (fun v p => Returned cpu sent buf v p.ring)
      (nssCoreSendCrypto cpu buf bufPaddr len) p := by
  simp only [nssCoreSendCrypto, Proc.bind_eq, Proc.pure_eq]
  refine sat_acquire h fun start q hq => ?_
  refine sat_measure hq fun nssIndex hlosIndex q hidx hq => ?_
  refine Sat.read (fun _ _ => .idle _) fills_stable hq fun u hu => ?_
  have hroom := room_le hu
  rw [hu.size_eq]
  obtain ⟨k, hk, hpow⟩ := hu.pow
  rw [hu.size_eq] at hpow
  split
  · exact queueFull_returned hu
  · rename_i hcount
    have hneed : 0 < (ringRoom nssIndex hlosIndex size).toNat := by
      have := BitVec.toInt_eq_toNat_cond (ringRoom nssIndex hlosIndex size)
      split at this <;> omega
    have hstart : start < size.toNat := by
      rw [← hu.start_eq, ← hu.size_eq]
      exact hu.hlos
    have hslot : hlosIndex.toNat = advance size.toNat start 0 := by rw [hidx, advance_zero hstart]
    refine Sat.modify fills_stable hu fun w hw => ?_
    have hfill := hw.fill (cryptoDescriptor buf bufPaddr len (w.ring.desc hlosIndex.toNat)) hslot
      hneed
    refine ⟨hfill.1, ?_⟩
    have hmask := masked_add (x := hlosIndex) (c := 1) (by omega : k < 16) hpow
    rw [hidx] at hmask
    have hlt := advance_lt (i := start) (d := 1) (by omega : 0 < size.toNat)
    have hle := hu.size_eq ▸ hu.size_le
    have hnext : (((hlosIndex + 1) &&& (size - 1)).signExtend 32).toNat =
        advance size.toNat start 1 := by
      have hone : (1 : U16).toNat = 1 := rfl
      rw [hone] at hmask
      rw [signExtend_toNat (by omega), hmask]
    exact sat_publish hfill.2 hnext fun v hv => sat_success hv ⟨_, List.mem_singleton_self _, rfl⟩

end Calls

inductive TransmitCall : ℕ → Proc H2nPort CoreStatus → Prop where
  | buffer (cpu : ℕ) (env : TxEnv) (ifNum : U32) (nbuf : TxSkb) (bufferType : U8) (flags : U16) :
      TransmitCall cpu (nssCoreSendBuffer cpu env ifNum nbuf bufferType flags)
  | crypto (cpu : ℕ) (buf bufPaddr : U32) (len : U16) :
      TransmitCall cpu (nssCoreSendCrypto cpu buf bufPaddr len)

/-- The NSS takes descriptors from the ring; counters and the interrupt mask
    may change as well. -/
def NssStep (p p' : H2nPort) : Prop := NssTakes p.ring p'.ring

abbrev TxPool := Pool ℕ H2nPort CoreStatus

abbrev TxStep : TxPool → Label ℕ H2nPort CoreStatus → TxPool → Prop := Step TransmitCall NssStep

structure Fresh (p : H2nPort) : Prop where
  pow : ∃ k, k ≤ 14 ∧ p.ring.size.toNat = 2 ^ k
  index : p.ring.nssIndexMap.toNat < p.ring.size.toNat
  empty : p.ring.hlosIndexMap = p.ring.nssIndexMap
  settled : p.ring.hlosIndex = p.ring.hlosIndexMap
  unlocked : p.ring.lock = none
  unwritten : p.ring.wrote = 0
  log : p.ring.log = []
  consumed : p.ring.consumed = 0

theorem Fresh.sharedOk {p : H2nPort} (h : Fresh p) : SharedOk p.ring := by
  have hindex := h.index
  have hout : p.ring.outstanding = 0 := by
    rw [H2nRing.outstanding, h.empty, gap_self]
  have hpub : p.ring.published = [] := by rw [H2nRing.published, h.log, List.flatMap_nil]
  refine ⟨⟨h.pow, h.index, ?_, ?_, ?_, ?_⟩, fun _ => h.settled⟩
  · rw [h.empty]
    exact h.index
  · rw [hout, h.unwritten]
    omega
  · rw [hout, hpub, h.consumed]
    rfl
  · rw [hout, hpub, window_zero, List.drop_nil]

/-- Between two calls a CPU does not hold the ring. -/
def Apart (cpu : ℕ) (p : H2nPort) : Prop := SharedOk p.ring ∧ p.ring.lock ≠ some cpu

theorem apart_stable (cpu : ℕ) : Stable (Rely cpu) (Apart cpu) :=
  fun _ _ hr h => ⟨hr.ok h.1, fun hl => h.2 (hr.lock.mp hl)⟩

theorem Apart.outside {cpu : ℕ} {p : H2nPort} (h : Apart cpu p) :
    Outside cpu p.ring.size (sentBy cpu p.ring) p.ring :=
  { h.1 with lock := h.2, size_eq := rfl, sent_eq := rfl }

theorem transmitCall_returned {cpu : ℕ} {q : Proc H2nPort CoreStatus} (hq : TransmitCall cpu q)
    {p : H2nPort} (h : Apart cpu p) : ∃ cookie, Sat (Rely cpu) (Guarantee cpu)
      (fun v t => Returned cpu (sentBy cpu p.ring) cookie v t.ring) q p := by
  cases hq with
  | buffer => exact ⟨_, sendBuffer_returned h.outside⟩
  | crypto => exact ⟨_, sendCrypto_returned h.outside⟩

theorem senders_discipline :
    Discipline TransmitCall NssStep Rely Guarantee Apart (fun cpu _ => Apart cpu) where
  others i j hne s t hg := LockedAct.rely hg hne
  env i s t he := NssTakes.rely he
  idle i v s h := h
  calls i q hq s h := by
    obtain ⟨cookie, hsat⟩ := transmitCall_returned hq h
    exact hsat.post fun v t ht => ⟨ht.toSharedOk, ht.lock⟩

theorem fresh_apart (cpu : ℕ) (_ : CoreStatus) (s : H2nPort) (h : Fresh s) (t : H2nPort)
    (ht : Relation.ReflTransGen (Rely cpu) s t) : Apart cpu t := by
  refine (apart_stable cpu).star ht ⟨h.sharedOk, ?_⟩
  rw [h.unlocked]
  exact nofun

theorem senders_onTrack {c : TxPool} (h : Reachable (Idle Fresh) TxStep c) :
    OnTrack Rely Guarantee (fun cpu _ => Apart cpu) c :=
  senders_discipline.onTrack fresh_apart h

theorem senders_sharedOk {c : TxPool} (h : Reachable (Idle Fresh) TxStep c) :
    SharedOk c.shared.ring := by
  refine senders_discipline.invariant (fun p => SharedOk p.ring) fresh_apart ?_ ?_ ?_ h
  · exact fun s hs => hs.sharedOk
  · exact fun cpu s t hs hg => LockedAct.sharedOk hs hg
  · exact fun s t hs he => NssTakes.sharedOk hs he

/-- What one step of anyone may do to the ring. -/
structure StepSafe (r r' : H2nRing) : Prop where
  owned : ∀ j, r.Owned j → r'.desc j = r.desc j
  unused : r'.published.length < r'.consumed + r'.size.toNat
  moved : r'.hlosIndexMap.toNat = r.hlosIndexMap.toNat ∧ r'.log = r.log ∨
    ∃ e, r'.log = r.log ++ [e] ∧ e.descs = r.pending ∧ e.descs.length = r.wrote ∧
      r'.hlosIndexMap.toNat = advance r.size.toNat r.hlosIndexMap.toNat r.wrote
  settled : r'.lock = none → r'.hlosIndex = r'.hlosIndexMap

theorem LockedAct.stepSafe {cpu : ℕ} {r r' : H2nRing} (h : SharedOk r) (ha : LockedAct cpu r r') :
    StepSafe r r' := by
  have hok := ha.sharedOk h
  refine ⟨fun j hj => ha.owned_unchanged h hj, hok.slot_unused, ?_, hok.settled⟩
  rcases ha.index_log h with hkept | ⟨e, hlog, _, hdescs, hmap⟩
  · exact .inl hkept
  · exact .inr ⟨e, hlog, hdescs, by rw [hdescs, r.length_pending], hmap⟩

theorem NssTakes.stepSafe {r r' : H2nRing} (h : SharedOk r) (ht : NssTakes r r') :
    StepSafe r r' := by
  have hok := NssTakes.sharedOk h ht
  obtain ⟨d, _, rfl⟩ := ht
  exact ⟨fun _ _ => rfl, hok.slot_unused, .inl ⟨rfl, rfl⟩, hok.settled⟩

/-- What a call of `cpu` has done to the ring when it returns `v`. -/
structure CallEffect (cpu : ℕ) (v : CoreStatus) (r r' : H2nRing) : Prop where
  success : v = .success → ∃ e, sentBy cpu r' = sentBy cpu r ++ [e]
  failure : v ≠ .success → sentBy cpu r' = sentBy cpu r
  settled : r'.hlosIndex = r'.hlosIndexMap ∨ ∃ other, other ≠ cpu ∧ r'.lock = some other

theorem call_effect {c c' : TxPool} {cpu : ℕ} {q : Proc H2nPort CoreStatus} {v : CoreStatus}
    {ls : List (Label ℕ H2nPort CoreStatus)} (h : Reachable (Idle Fresh) TxStep c)
    (run : Run TxStep c (.call cpu q :: ls) c') (only : ∀ q', .call cpu q' ∉ ls)
    (returned : c'.thread cpu = .ret v) : CallEffect cpu v c.shared.ring c'.shared.ring := by
  have htrack := senders_onTrack h
  obtain ⟨c₁, hcall, _⟩ := run.uncons
  cases hcall with
  | @call _ _ a idle allowed =>
    have hapart := htrack cpu
    rw [idle] at hapart
    obtain ⟨cookie, hsat⟩ := transmitCall_returned allowed (hapart _ .refl)
    have hret := senders_discipline.call_post htrack hsat run only returned
    refine ⟨fun hv => ?_, hret.failure, ?_⟩
    · obtain ⟨e, he, _⟩ := hret.success hv
      exact ⟨e, he⟩
    · cases hlock : c'.shared.ring.lock with
      | none => exact .inl (hret.settled hlock)
      | some other => exact .inr ⟨other, fun h => hret.lock (h ▸ hlock), rfl⟩

/-- Whatever the interleaving, no step rewrites a slot of the NSS or uses up
    the last free one, the index moves by what was written, and each call that
    succeeds has published exactly once, each that fails never. -/
theorem senders_keep_ring {c c' : TxPool} {l : Label ℕ H2nPort CoreStatus}
    (h : Reachable (Idle Fresh) TxStep c) (hs : TxStep c l c') :
    StepSafe c.shared.ring c'.shared.ring ∧
      ∀ c₀ cpu q ls v, Reachable (Idle Fresh) TxStep c₀ → Run TxStep c₀ (.call cpu q :: ls) c' →
        (∀ q', .call cpu q' ∉ ls) → c'.thread cpu = .ret v →
          CallEffect cpu v c₀.shared.ring c'.shared.ring := by
  refine ⟨?_, fun c₀ cpu q ls v h₀ run only returned => call_effect h₀ run only returned⟩
  have hok := senders_sharedOk h
  rcases senders_discipline.shared (senders_onTrack h) hs with ⟨cpu, _, hg⟩ | ⟨_, he⟩ | heq
  · exact LockedAct.stepSafe hok hg
  · exact NssTakes.stepSafe hok he
  · rw [heq]
    have hidle : LockedAct 0 c.shared.ring c.shared.ring := .idle _
    exact LockedAct.stepSafe hok hidle

def emptyDescriptor : H2nDescriptor := ⟨0, 0, 0, 0, 0, 0, 0, 0, 0, 0⟩

def emptyRing (size : U16) : H2nRing :=
  { desc := fun _ => emptyDescriptor, size := size, hlosIndex := 0, lock := none, flags := 0,
    txQFullCnt := 0, nssIndexMap := 0, hlosIndexMap := 0, wrote := 0, log := [], consumed := 0 }

def idlePool : TxPool := ⟨⟨emptyRing 4, 0, fun _ => 0, 0⟩, fun _ => .ret .success⟩

theorem idlePool_idle : Idle Fresh idlePool :=
  ⟨⟨⟨2, by decide, rfl⟩, by decide, rfl, rfl, rfl, rfl, rfl, rfl⟩, fun _ => ⟨_, rfl⟩⟩

def cryptoRequest : List (Order ℕ H2nPort CoreStatus) :=
  .call 0 (nssCoreSendCrypto 0 7 8 9) :: List.replicate 7 (.run 0)

theorem senders_keep_ring_crypto : ∃ c c', idlePool.follow cryptoRequest = some c ∧
    c.obey (.run 0) = some c' ∧ c'.shared.ring.published.length = 1 ∧
    StepSafe c.shared.ring c'.shared.ring := by
  have hallowed : ∀ o ∈ cryptoRequest, o.Allowed TransmitCall NssStep := by
    intro o ho
    simp only [cryptoRequest, List.mem_cons, List.mem_replicate] at ho
    rcases ho with rfl | ⟨_, rfl⟩
    · exact .crypto 0 7 8 9
    · trivial
  refine ⟨_, _, rfl, rfl, rfl, ?_⟩
  refine (senders_keep_ring (l := .run 0) (.run (.start idlePool_idle) (Pool.follow_run hallowed rfl))
    (Pool.obey_step (o := .run 0) trivial rfl)).1

end NssDrv.TransmitRing

import NssDrv.TransmitApi
import NssDrv.TransmitFate

set_option autoImplicit false

/-!
# What a full ring answers

The status of `nss_core_send_buffer` as a function of the packet, of the free
slots and of the mappings, and what the transmit functions make of it.
-/
namespace NssDrv.TransmitAnswers
open HlosInterface SharedThread CyclicIndex DescriptorRing RingLocking TransmitEncoders
open TransmitQueue TransmitApi
open TransmitFate (count_toInt)
open TransmitRing (emptyRing Fresh Fresh.sharedOk)

section Packet
variable (env : TxEnv) (nbuf : TxSkb) (bufferType : U8)

def segments : ℕ := (txSegments nbuf).toNat

def needed : ℕ := if isBounce bufferType then 1 else segments nbuf + 1

def tooLong (size : ℕ) : Bool := nbuf.hasFragList && decide (size < segments nbuf)

/-- No member of a frag_list that is to be written has `frags[]`. -/
def supported : Bool :=
  isBounce bufferType || !nbuf.hasFragList || nbuf.fragList.all fun iter => iter.nrFrags = 0

/-- The mappings that the encoder asks for succeed. -/
def mapped : Bool :=
  if segments nbuf = 0 || isBounce bufferType then
    (reuseMapping env nbuf).isSome || (env.dma 1).isSome
  else (env.dma 1).isSome && (List.range (segments nbuf)).all fun i => (env.dma (i + 2)).isSome

def encodes : Bool := mapped env nbuf bufferType && supported nbuf bufferType

end Packet

def free (r : H2nRing) : ℕ := r.size.toNat - 1 - r.outstanding

def answer (size room : ℕ) (env : TxEnv) (nbuf : TxSkb) (bufferType : U8) : CoreStatus :=
  if tooLong nbuf size then .failure
  else if room < segments nbuf + 1 then .failureQueue
  else if encodes env nbuf bufferType then .success
  else .failure

section Encoders
variable {σ α : Type} {env : TxEnv} {size hlosIndex : U16} {ifNum : U32} {nbuf : TxSkb}
  {bufferType : U8} {mss flags bitFlags : U16}

/-- From every state the thread returns a value in `P`. -/
def Returns (P : α → Prop) (p : Proc σ α) : Prop := ∀ s, ∃ a t, p.exec s = some (a, t) ∧ P a

theorem returns_ret {P : α → Prop} {a : α} (h : P a) : Returns P (.ret a : Proc σ α) :=
  fun s => ⟨a, s, rfl, h⟩

theorem returns_modify {P : α → Prop} {f : σ → σ} {k : Unit → Proc σ α} (h : Returns P (k ())) :
    Returns P (Proc.modify f >>= k) := fun s => h (f s)

/-- The count of an encoder: positive exactly where it wrote everything. -/
structure Counted (ok : Prop) (n : ℕ) (written : ℤ) : Prop where
  pos : 0 < written ↔ ok
  low : -(n : ℤ) ≤ written
  high : written ≤ n

theorem simpleSkb_counted : Returns (Counted
    ((reuseMapping env nbuf).isSome = true ∨ (env.dma 1).isSome = true) 1)
    (nssCoreSendBufferSimpleSkb env ifNum nbuf hlosIndex flags bufferType mss) := by
  unfold nssCoreSendBufferSimpleSkb
  cases hreuse : reuseMapping env nbuf with
  | some r =>
    exact returns_modify (returns_modify (returns_ret ⟨by simp, by decide, by decide⟩))
  | none =>
    cases hdma : env.dma 1 with
    | none => exact returns_ret ⟨by simp, by decide, by decide⟩
    | some addr =>
      exact returns_modify (returns_modify (returns_ret ⟨by simp, by decide, by decide⟩))

/-- The mappings of `n` segments from segment `i` on. -/
def MappedFrom (env : TxEnv) (i n : ℕ) : Prop := ∀ j < n, (env.dma (i + j + 2)).isSome = true

theorem mappedFrom_succ {i n : ℕ} : MappedFrom env i (n + 1) ↔
    (env.dma (i + 2)).isSome = true ∧ MappedFrom env (i + 1) n := by
  constructor
  · intro h
    refine ⟨h 0 (Nat.succ_pos n), fun j hj => ?_⟩
    have hnext := h (j + 1) (Nat.succ_lt_succ hj)
    rwa [show i + (j + 1) = i + 1 + j by omega] at hnext
  · rintro ⟨hhead, hrest⟩ j hj
    cases j with
    | zero => exact hhead
    | succ j =>
      have hnext := hrest j (Nat.lt_of_succ_lt_succ hj)
      rwa [show i + 1 + j = i + (j + 1) by omega] at hnext

theorem nrFragsFrom_counted (frags : List U32) (i : ℕ) (hlosIndex : U16) :
    Returns (Counted (MappedFrom env i frags.length) (i + frags.length + 1))
      (nrFragsFrom env size ifNum nbuf bufferType mss bitFlags i frags hlosIndex) := by
  induction frags generalizing i hlosIndex with
  | nil =>
    refine returns_modify (returns_modify (returns_ret ⟨?_, ?_, ?_⟩))
    · exact iff_of_true (by omega) fun j hj => absurd hj (Nat.not_lt_zero j)
    · rw [List.length_nil]
      omega
    · rw [List.length_nil]
      omega
  | cons frag rest ih =>
    unfold nrFragsFrom
    rw [List.length_cons]
    cases hdma : env.dma (i + 2) with
    | none =>
      refine returns_ret ⟨?_, by omega, by omega⟩
      rw [mappedFrom_succ, hdma]
      exact iff_of_false (by omega) fun h => absurd h.1 (by decide)
    | some buffer =>
      refine returns_modify fun s => ?_
      obtain ⟨w, t, hexec, hpos, hlow, hhigh⟩ := ih (i + 1) ((hlosIndex + 1) &&& (size - 1)) s
      refine ⟨w, t, hexec, ?_, by omega, by omega⟩
      rw [mappedFrom_succ, hdma, hpos]
      simp

theorem fraglistFrom_counted (iters : List TxSegment) (i : ℕ) (hlosIndex : U16) :
    Returns (Counted (MappedFrom env i iters.length ∧ ∀ iter ∈ iters, iter.nrFrags = 0)
        (i + iters.length + 1))
      (fraglistFrom env size ifNum bufferType mss bitFlags i iters hlosIndex) := by
  induction iters generalizing i hlosIndex with
  | nil =>
    refine returns_modify (returns_modify (returns_ret ⟨?_, ?_, ?_⟩))
    · exact iff_of_true (by omega)
        ⟨fun j hj => absurd hj (Nat.not_lt_zero j), fun iter hin => nomatch hin⟩
    · rw [List.length_nil]
      omega
    · rw [List.length_nil]
      omega
  | cons iter rest ih =>
    unfold fraglistFrom
    rw [List.length_cons]
    cases hdma : env.dma (i + 2) with
    | none =>
      refine returns_ret ⟨?_, by omega, by omega⟩
      rw [mappedFrom_succ, hdma]
      exact iff_of_false (by omega) fun h => absurd h.1.1 (by decide)
    | some buffer =>
      dsimp only
      by_cases hfrags : iter.nrFrags > 0
      · rw [if_pos hfrags]
        refine returns_ret ⟨?_, by omega, by omega⟩
        refine iff_of_false (by omega) fun h => ?_
        have hzero := h.2 iter (List.mem_cons_self ..)
        omega
      · rw [if_neg hfrags]
        refine returns_modify fun s => ?_
        obtain ⟨w, t, hexec, hpos, hlow, hhigh⟩ := ih (i + 1) ((hlosIndex + 1) &&& (size - 1)) s
        refine ⟨w, t, hexec, ?_, by omega, by omega⟩
        have hzero : iter.nrFrags = 0 := by omega
        rw [mappedFrom_succ, hdma, hpos]
        simp [hzero]

theorem mapped_segments {n : ℕ} :
    ((List.range n).all fun i => (env.dma (i + 2)).isSome) = true ↔ MappedFrom env 0 n := by
  rw [List.all_eq_true]
  constructor
  · intro h j hj
    rw [Nat.zero_add]
    exact h j (List.mem_range.mpr hj)
  · intro h j hj
    have hnext := h j (List.mem_range.mp hj)
    rwa [Nat.zero_add] at hnext

theorem segments_frags (hlist : nbuf.hasFragList = false) :
    segments nbuf = nbuf.fragSizes.length := by
  have hlt := nbuf.fragSizes_lt
  unfold segments txSegments
  rw [if_neg (by simp [hlist]), BitVec.toNat_ofNat, Nat.mod_eq_of_lt (by omega)]

theorem segments_fragList (hlist : nbuf.hasFragList = true) :
    segments nbuf = nbuf.fragList.length := by
  unfold segments txSegments
  rw [if_pos hlist, BitVec.toNat_ofNat, Nat.mod_eq_of_lt nbuf.fragList_lt]

theorem Returns.headed (P : ℤ → Prop) {Q : ℤ → Prop} {p : U32 → Proc H2nPort ℤ} {dma : Option U32}
    (hp : ∀ addr, Returns P (p addr)) (hnone : dma = none → Q 0)
    (hsome : dma.isSome = true → ∀ w, P w → Q w) :
    Returns Q (match dma with
      | none => .ret 0
      | some addr => p addr) := by
  cases dma with
  | none => exact returns_ret (hnone rfl)
  | some addr =>
    intro s
    obtain ⟨w, t, hexec, hw⟩ := hp addr s
    exact ⟨w, t, hexec, hsome rfl w hw⟩

theorem encode_counted (ifNum : U32) (bufferType : U8) (flags size hlosIndex : U16)
    (hmax : nbuf.hasFragList = false → nbuf.fragSizes.length ≤ env.maxSkbFrags) :
    Returns (Counted (encodes env nbuf bufferType = true) (segments nbuf + 1))
      (encode env ifNum nbuf bufferType flags size hlosIndex) := by
  have hzero : txSegments nbuf = 0 ↔ segments nbuf = 0 := by
    unfold segments
    constructor
    · intro h
      rw [h]
      rfl
    · exact fun h => BitVec.eq_of_toNat_eq h
  have hcond : (decide (txSegments nbuf = 0) || isBounce bufferType) = true ↔
      segments nbuf = 0 ∨ isBounce bufferType = true := by
    rw [Bool.or_eq_true, decide_eq_true_eq, hzero]
  unfold encode
  dsimp only
  by_cases hsimple : segments nbuf = 0 ∨ isBounce bufferType = true
  · rw [if_pos (hcond.mpr hsimple)]
    have hsupported : supported nbuf bufferType = true := by
      unfold supported
      rcases hsimple with hseg | hbounce
      · cases hlist : nbuf.hasFragList with
        | false => simp
        | true =>
          rw [segments_fragList hlist, List.length_eq_zero_iff] at hseg
          simp [hseg]
      · simp [hbounce]
    have hencodes : encodes env nbuf bufferType = true ↔
        (reuseMapping env nbuf).isSome = true ∨ (env.dma 1).isSome = true := by
      unfold encodes mapped
      rw [hsupported, if_pos (by simpa using hsimple), Bool.and_true, Bool.or_eq_true]
    intro s
    obtain ⟨w, t, hexec, hpos, hlow, hhigh⟩ := simpleSkb_counted s
    exact ⟨w, t, hexec, hpos.trans hencodes.symm, by omega, by omega⟩
  · rw [if_neg (mt hcond.mp hsimple)]
    have hnone : ∀ {ok : Bool}, env.dma 1 = none →
        Counted ((((env.dma 1).isSome && ok) && supported nbuf bufferType) = true)
          (segments nbuf + 1) 0 := by
      intro ok h
      exact ⟨by simp [h], by omega, by omega⟩
    have hmapped : mapped env nbuf bufferType = ((env.dma 1).isSome &&
        (List.range (segments nbuf)).all fun i => (env.dma (i + 2)).isSome) := by
      unfold mapped
      rw [if_neg (by simpa using hsimple)]
    have hbounce : isBounce bufferType = false := by
      simpa using fun h => hsimple (.inr h)
    unfold encodes
    rw [hmapped]
    cases hlist : nbuf.hasFragList with
    | true =>
      rw [if_pos rfl]
      unfold nssCoreSendBufferFraglist
      refine Returns.headed _ (fun addr => returns_modify (fraglistFrom_counted _ 0 _)) hnone ?_
      rintro hhead w ⟨hpos, hlow, hhigh⟩
      rw [Nat.zero_add, ← segments_fragList hlist] at hlow hhigh
      refine ⟨hpos.trans ?_, hlow, hhigh⟩
      rw [hhead, Bool.true_and, Bool.and_eq_true, mapped_segments, segments_fragList hlist]
      simp [supported, hbounce, hlist]
    | false =>
      rw [if_neg (by simp)]
      unfold nssCoreSendBufferNrFrags
      have hfits : ¬ nbuf.fragSizes.length > env.maxSkbFrags := Nat.not_lt.mpr (hmax hlist)
      refine Returns.headed (Counted (MappedFrom env 0 nbuf.fragSizes.length)
        (0 + nbuf.fragSizes.length + 1)) (fun addr => returns_modify ?_) hnone ?_
      · rw [if_neg hfits]
        exact nrFragsFrom_counted _ 0 _
      rintro hhead w ⟨hpos, hlow, hhigh⟩
      rw [Nat.zero_add, ← segments_frags hlist] at hlow hhigh
      refine ⟨hpos.trans ?_, hlow, hhigh⟩
      rw [hhead, Bool.true_and, Bool.and_eq_true, mapped_segments, segments_frags hlist]
      simp [supported, hlist]

end Encoders

section Send
variable (cpu : ℕ) {env : TxEnv} (ifNum : U32) {nbuf : TxSkb} (bufferType : U8) (flags : U16)
  {p : H2nPort}

theorem publish_answer (cpu : ℕ) (nbuf : TxSkb) (size hlosIndex : U16) {ok : Bool} {n : ℕ} {w : ℤ}
    (h : Counted (ok = true) n w) (hn : n ≤ 2 ^ 14) :
    Returns (fun v => v = if ok then CoreStatus.success else .failure)
      (publishEncoded cpu nbuf size hlosIndex w) := by
  obtain ⟨hpos, hlow, hhigh⟩ := h
  have hint : (BitVec.ofInt 16 w).toInt = w := count_toInt (by omega) (by omega)
  unfold publishEncoded
  dsimp only
  rw [hint]
  cases ok with
  | true =>
    rw [if_neg (not_le.mpr (hpos.mpr rfl))]
    exact returns_modify (returns_modify (returns_modify (returns_modify (returns_ret rfl))))
  | false =>
    have hle : w ≤ 0 := by
      by_contra hlt
      exact absurd (hpos.mp (by omega)) (by decide)
    rw [if_pos hle]
    exact returns_modify (returns_ret rfl)

theorem ringRoom_free (h : SharedOk p.ring) (hfree : p.ring.lock = none) :
    (ringRoom (p.ring.nssIndexMap.setWidth 16) (p.ring.hlosIndex.setWidth 16) p.ring.size).toNat =
      free p.ring := by
  obtain ⟨k, hk, hpow⟩ := h.pow
  have hle := h.size_le
  have hnss := h.nss
  have hhlos := h.hlos
  have hnss16 : (p.ring.nssIndexMap.setWidth 16).toNat = p.ring.nssIndexMap.toNat :=
    setWidth_toNat (by omega)
  have hhlos16 : (p.ring.hlosIndex.setWidth 16).toNat = p.ring.hlosIndexMap.toNat := by
    rw [h.settled hfree]
    exact setWidth_toNat (by omega)
  have hroom := masked_room (by omega : k < 16) hpow (hnss16 ▸ hnss) (hhlos16 ▸ hhlos)
  rw [hnss16, hhlos16] at hroom
  unfold free H2nRing.outstanding ringRoom
  omega

theorem queueFull_answer : Returns (fun v => v = CoreStatus.failureQueue) queueFull :=
  returns_modify (returns_modify (returns_modify (returns_modify (returns_ret rfl))))

theorem sendLocked_answer (h : SharedOk p.ring) (hfree : p.ring.lock = none)
    (hmax : nbuf.hasFragList = false → nbuf.fragSizes.length ≤ env.maxSkbFrags)
    (hlong : tooLong nbuf p.ring.size.toNat = false) :
    ∃ p', (sendLocked cpu env ifNum nbuf bufferType flags p.ring.size).exec p =
      some (answer p.ring.size.toNat (free p.ring) env nbuf bufferType, p') := by
  have hle := h.size_le
  have hroom := ringRoom_free h hfree
  have hseg : segments nbuf ≤ 2 ^ 14 := by
    cases hlist : nbuf.hasFragList with
    | false =>
      have hlt := nbuf.fragSizes_lt
      have hseg := segments_frags hlist
      omega
    | true =>
      simp only [tooLong, hlist, Bool.true_and, decide_eq_false_iff_not] at hlong
      omega
  let q := p.onRing fun r => r.acquire cpu
  have hsame : (sendLocked cpu env ifNum nbuf bufferType flags p.ring.size).exec p =
      (if ((ringRoom (p.ring.nssIndexMap.setWidth 16) (p.ring.hlosIndex.setWidth 16)
          p.ring.size).signExtend 32).ult (txSegments nbuf + 1) then queueFull
        else (encode env ifNum nbuf bufferType flags p.ring.size
          (p.ring.hlosIndex.setWidth 16)).bind fun written =>
            publishEncoded cpu nbuf p.ring.size (p.ring.hlosIndex.setWidth 16) written).exec q := by
    show (if p.ring.lock.isNone = true then _ else none) = _
    rw [if_pos (by rw [hfree]; rfl)]
    rfl
  have hone : (txSegments nbuf + 1).toNat = segments nbuf + 1 :=
    BitVec.toNat_add_of_lt (show segments nbuf + 1 < 2 ^ 32 by omega)
  have hult : ((ringRoom (p.ring.nssIndexMap.setWidth 16) (p.ring.hlosIndex.setWidth 16)
      p.ring.size).signExtend 32).ult (txSegments nbuf + 1) = true ↔
        free p.ring < segments nbuf + 1 := by
    have hlt : free p.ring < 2 ^ 15 := by
      unfold free
      omega
    rw [BitVec.ult_eq_decide, signExtend_toNat (by omega), hone, hroom, decide_eq_true_eq]
  have hanswer : answer p.ring.size.toNat (free p.ring) env nbuf bufferType =
      if free p.ring < segments nbuf + 1 then .failureQueue
      else if encodes env nbuf bufferType then .success else .failure := by
    unfold answer
    rw [if_neg (by simp [hlong])]
  rw [hsame, hanswer]
  by_cases hfull : free p.ring < segments nbuf + 1
  · rw [if_pos (hult.mpr hfull), if_pos hfull]
    obtain ⟨v, p', hexec, rfl⟩ := queueFull_answer q
    exact ⟨p', hexec⟩
  · rw [if_neg (mt hult.mp hfull), if_neg hfull]
    obtain ⟨w, t, hexec, hcounted⟩ := encode_counted ifNum bufferType flags p.ring.size
      (p.ring.hlosIndex.setWidth 16) hmax q
    have hn : segments nbuf + 1 ≤ 2 ^ 14 := by
      unfold free at hfull
      omega
    obtain ⟨v, p', hlast, rfl⟩ := publish_answer cpu nbuf p.ring.size
      (p.ring.hlosIndex.setWidth 16) hcounted hn t
    refine ⟨p', ?_⟩
    rw [Proc.exec_bind, hexec]
    exact hlast

theorem send_answer (h : SharedOk p.ring) (hfree : p.ring.lock = none)
    (hmax : nbuf.hasFragList = false → nbuf.fragSizes.length ≤ env.maxSkbFrags) :
    ∃ p', (nssCoreSendBuffer cpu env ifNum nbuf bufferType flags).exec p =
      some (answer p.ring.size.toNat (free p.ring) env nbuf bufferType, p') := by
  have hle := h.size_le
  have hult : (p.ring.size.signExtend 32).ult (txSegments nbuf) = true ↔
      p.ring.size.toNat < segments nbuf := by
    rw [BitVec.ult_eq_decide, signExtend_toNat (by omega), decide_eq_true_eq]
    rfl
  have hread : (nssCoreSendBuffer cpu env ifNum nbuf bufferType flags).exec p =
      (if nbuf.hasFragList then
        if (p.ring.size.signExtend 32).ult (txSegments nbuf) then .ret .failure
        else sendLocked cpu env ifNum nbuf bufferType flags p.ring.size
      else if nbuf.fragSizes.length > env.maxSkbFrags then .halt
      else sendLocked cpu env ifNum nbuf bufferType flags p.ring.size).exec p := rfl
  rw [hread]
  cases hlist : nbuf.hasFragList with
  | false =>
    have hlong : tooLong nbuf p.ring.size.toNat = false := by simp [tooLong, hlist]
    obtain ⟨p', hexec⟩ := sendLocked_answer cpu ifNum bufferType flags h hfree hmax hlong
    refine ⟨p', ?_⟩
    rw [if_neg (by decide), if_neg (Nat.not_lt.mpr (hmax hlist))]
    exact hexec
  | true =>
    rw [if_pos rfl]
    by_cases hlong : p.ring.size.toNat < segments nbuf
    · refine ⟨p, ?_⟩
      have hover : tooLong nbuf p.ring.size.toNat = true := by simp [tooLong, hlist, hlong]
      rw [if_pos (hult.mpr hlong), answer, if_pos hover]
      rfl
    · have hshort : tooLong nbuf p.ring.size.toNat = false := by simp [tooLong, hlong]
      obtain ⟨p', hexec⟩ := sendLocked_answer cpu ifNum bufferType flags h hfree hmax hshort
      refine ⟨p', ?_⟩
      rw [if_neg (mt hult.mp hlong)]
      exact hexec

end Send
/-- An empty ring of that size takes the packet once the mappings succeed. -/
def AcceptedWhenEmpty (maxSkbFrags : ℕ) (size : U16) (ifNum : U32) (nbuf : TxSkb) (bufferType : U8)
    (flags : U16) : Prop :=
  ∃ (cpu : ℕ) (env : TxEnv) (p p' : H2nPort), env.maxSkbFrags = maxSkbFrags ∧ SharedOk p.ring ∧
    p.ring.lock = none ∧ p.ring.size = size ∧ p.ring.outstanding = 0 ∧
    (nssCoreSendBuffer cpu env ifNum nbuf bufferType flags).exec p = some (.success, p')

/-- What a caller that backs off on a full queue relies on. -/
structure Honest (env : TxEnv) (r : H2nRing) (ifNum : U32) (nbuf : TxSkb) (bufferType : U8)
    (flags : U16) (v : CoreStatus) : Prop where
  retry : v = .failureQueue → AcceptedWhenEmpty env.maxSkbFrags r.size ifNum nbuf bufferType flags
  never : r.size.toNat ≤ needed nbuf bufferType → v = .failure
  bounce : isBounce bufferType = true → v ≠ .success →
    free r = 0 ∨ v = .failure ∧ encodes env nbuf bufferType = false

/-- Where the room check agrees with what the encoders write. -/
def Agrees (env : TxEnv) (r : H2nRing) (nbuf : TxSkb) (bufferType : U8) : Prop :=
  if isBounce bufferType then
    if tooLong nbuf r.size.toNat then free r = 0 ∨ encodes env nbuf bufferType = false
    else segments nbuf + 1 ≤ free r ∨ free r = 0 ∧ segments nbuf + 2 ≤ r.size.toNat
  else tooLong nbuf r.size.toNat = true ∨ segments nbuf + 1 ≤ free r ∨
    segments nbuf + 2 ≤ r.size.toNat ∧ supported nbuf bufferType = true

instance (env : TxEnv) (r : H2nRing) (nbuf : TxSkb) (bufferType : U8) :
    Decidable (Agrees env r nbuf bufferType) :=
  inferInstanceAs (Decidable (ite (isBounce bufferType) _ _))

def fails (env : TxEnv) (r : H2nRing) (nbuf : TxSkb) (bufferType : U8) : Bool :=
  tooLong nbuf r.size.toNat ||
    decide (segments nbuf + 1 ≤ free r) && !encodes env nbuf bufferType

def Passes (c : NssCtx) (before after : Option TxFailure) : Prop :=
  before = none ∧ c.state = NSS_CORE_STATE_INITIALIZED ∧ after = none

section Answers
variable {cpu : ℕ} {env : TxEnv} {size : U16} {ifNum : U32} {nbuf : TxSkb} {bufferType : U8}
  {flags : U16} {r : H2nRing}

def mapsAll (maxSkbFrags : ℕ) : TxEnv where
  dma := fun _ => some 0
  maxSkbFrags := maxSkbFrags
  recycling := false
  isVirtual := false
  recycleable := false
  maxBufSize := 0
  netSkbPad := 0

theorem mapsAll_mapped (maxSkbFrags : ℕ) : mapped (mapsAll maxSkbFrags) nbuf bufferType = true := by
  unfold mapped
  split
  · simp [mapsAll]
  · simp [mapsAll]

theorem answer_success : answer size.toNat (free r) env nbuf bufferType = .success ↔
    tooLong nbuf size.toNat = false ∧ segments nbuf + 1 ≤ free r ∧
      encodes env nbuf bufferType = true := by
  unfold answer
  cases tooLong nbuf size.toNat with
  | true =>
    rw [if_pos rfl]
    exact iff_of_false nofun fun h => nomatch h.1
  | false =>
    rw [if_neg (by decide)]
    by_cases hroom : free r < segments nbuf + 1
    · rw [if_pos hroom]
      exact iff_of_false nofun fun h => absurd hroom (Nat.not_lt.mpr h.2.1)
    · rw [if_neg hroom]
      cases encodes env nbuf bufferType with
      | true => exact iff_of_true rfl ⟨rfl, Nat.not_lt.mp hroom, rfl⟩
      | false => exact iff_of_false nofun fun h => nomatch h.2.2

theorem acceptedWhenEmpty_iff (ifNum : U32) (bufferType : U8) (flags : U16) {maxSkbFrags : ℕ}
    (hpow : ∃ k ≤ 14, size.toNat = 2 ^ k)
    (hmax : nbuf.hasFragList = false → nbuf.fragSizes.length ≤ maxSkbFrags) :
    AcceptedWhenEmpty maxSkbFrags size ifNum nbuf bufferType flags ↔
      segments nbuf + 2 ≤ size.toNat ∧ supported nbuf bufferType = true := by
  constructor
  · rintro ⟨cpu, env, p, p', rfl, hring, hfree, rfl, hempty, hexec⟩
    obtain ⟨q, hanswer⟩ := send_answer cpu ifNum bufferType flags hring hfree hmax
    rw [hexec] at hanswer
    obtain ⟨-, hroom, hencodes⟩ := answer_success.mp
      (Prod.mk.inj (Option.some.inj hanswer)).1.symm
    have hpos := hring.size_pos
    unfold free at hroom
    rw [hempty] at hroom
    unfold encodes at hencodes
    exact ⟨by omega, (Bool.and_eq_true _ _ ▸ hencodes).2⟩
  · rintro ⟨hfits, hsupported⟩
    obtain ⟨k, hk, hsize⟩ := hpow
    let p : H2nPort := ⟨emptyRing size, 0, fun _ => 0, 0⟩
    have hring : SharedOk p.ring :=
      Fresh.sharedOk ⟨⟨k, hk, hsize⟩, hsize ▸ Nat.two_pow_pos k, rfl, rfl, rfl, rfl, rfl, rfl⟩
    have hempty : p.ring.outstanding = 0 := gap_self
    obtain ⟨p', hexec⟩ : ∃ p', (nssCoreSendBuffer 0 (mapsAll maxSkbFrags) ifNum nbuf bufferType
        flags).exec p = some (_, p') := send_answer 0 ifNum bufferType flags hring rfl hmax
    refine ⟨0, mapsAll maxSkbFrags, p, p', rfl, hring, rfl, rfl, hempty, ?_⟩
    rw [hexec]
    have hsuccess : answer size.toNat (free p.ring) (mapsAll maxSkbFrags) nbuf bufferType =
        .success := by
      refine answer_success.mpr ⟨?_, ?_, ?_⟩
      · have hshort : ¬ size.toNat < segments nbuf := by omega
        simp [tooLong, hshort]
      · unfold free
        rw [hempty]
        show segments nbuf + 1 ≤ size.toNat - 1 - 0
        omega
      · unfold encodes
        rw [mapsAll_mapped, hsupported]
        rfl
    exact congrArg (fun v => some (v, p')) hsuccess

theorem answer_failure : answer r.size.toNat (free r) env nbuf bufferType = .failure ↔
    fails env r nbuf bufferType = true := by
  unfold answer fails
  cases tooLong nbuf r.size.toNat with
  | true =>
    rw [if_pos rfl, Bool.true_or]
    exact iff_of_true rfl rfl
  | false =>
    rw [if_neg (by decide), Bool.false_or]
    by_cases hroom : free r < segments nbuf + 1
    · rw [if_pos hroom, decide_eq_false (Nat.not_le.mpr hroom), Bool.false_and]
      exact iff_of_false nofun nofun
    · rw [if_neg hroom, decide_eq_true (Nat.not_lt.mp hroom), Bool.true_and]
      cases encodes env nbuf bufferType with
      | true => exact iff_of_false nofun nofun
      | false => exact iff_of_true rfl rfl

theorem answer_refused (hlong : tooLong nbuf r.size.toNat = false)
    (hroom : free r < segments nbuf + 1) :
    answer r.size.toNat (free r) env nbuf bufferType = .failureQueue := by
  unfold answer
  rw [if_neg (by simp [hlong]), if_pos hroom]

theorem answer_tooLong (hlong : tooLong nbuf r.size.toNat = true) :
    answer r.size.toNat (free r) env nbuf bufferType = .failure := by
  unfold answer
  rw [if_pos hlong]

theorem answer_room (hlong : tooLong nbuf r.size.toNat = false)
    (hroom : ¬ free r < segments nbuf + 1) :
    answer r.size.toNat (free r) env nbuf bufferType =
      if encodes env nbuf bufferType then .success else .failure := by
  unfold answer
  rw [if_neg (by simp [hlong]), if_neg hroom]

theorem bounce_honest (hbounce : isBounce bufferType = true) (hpos : 0 < r.size.toNat)
    (haccepted : AcceptedWhenEmpty env.maxSkbFrags r.size ifNum nbuf bufferType flags ↔
      segments nbuf + 2 ≤ r.size.toNat ∧ supported nbuf bufferType = true) :
    Honest env r ifNum nbuf bufferType flags
        (answer r.size.toNat (free r) env nbuf bufferType) ↔ Agrees env r nbuf bufferType := by
  have hneeded : needed nbuf bufferType = 1 := if_pos hbounce
  have hsupported : supported nbuf bufferType = true := by simp [supported, hbounce]
  have hfree : free r ≤ r.size.toNat - 1 := Nat.sub_le _ _
  unfold Agrees
  rw [if_pos hbounce]
  cases hlong : tooLong nbuf r.size.toNat with
  | true =>
    rw [if_pos rfl, answer_tooLong hlong]
    constructor
    · intro h
      rcases h.bounce hbounce nofun with hfull | ⟨-, hencodes⟩
      · exact .inl hfull
      · exact .inr hencodes
    · intro h
      refine ⟨nofun, fun _ => rfl, fun _ _ => ?_⟩
      rcases h with hfull | hencodes
      · exact .inl hfull
      · exact .inr ⟨rfl, hencodes⟩
  | false =>
    rw [if_neg (by decide)]
    by_cases hroom : free r < segments nbuf + 1
    · rw [answer_refused hlong hroom]
      constructor
      · intro h
        have hfits := (haccepted.mp (h.retry rfl)).1
        rcases h.bounce hbounce nofun with hfull | ⟨hno, -⟩
        · exact .inr ⟨hfull, hfits⟩
        · cases hno
      · rintro (hmore | ⟨hfull, hfits⟩)
        · omega
        · refine ⟨fun _ => haccepted.mpr ⟨hfits, hsupported⟩, fun hsmall => ?_,
            fun _ _ => .inl hfull⟩
          omega
    · rw [answer_room hlong hroom]
      refine iff_of_true ?_ (.inl (by omega))
      cases hencodes : encodes env nbuf bufferType with
      | true => exact ⟨nofun, fun hsmall => by omega, fun _ hno => absurd rfl hno⟩
      | false => exact ⟨nofun, fun _ => rfl, fun _ _ => .inr ⟨rfl, hencodes⟩⟩

theorem packet_honest (hbounce : isBounce bufferType = false)
    (haccepted : AcceptedWhenEmpty env.maxSkbFrags r.size ifNum nbuf bufferType flags ↔
      segments nbuf + 2 ≤ r.size.toNat ∧ supported nbuf bufferType = true) :
    Honest env r ifNum nbuf bufferType flags
        (answer r.size.toNat (free r) env nbuf bufferType) ↔ Agrees env r nbuf bufferType := by
  have hneeded : needed nbuf bufferType = segments nbuf + 1 := if_neg (by simp [hbounce])
  have hfree : free r ≤ r.size.toNat - 1 := Nat.sub_le _ _
  have hnever : isBounce bufferType ≠ true := by simp [hbounce]
  unfold Agrees
  rw [if_neg hnever]
  cases hlong : tooLong nbuf r.size.toNat with
  | true =>
    rw [answer_tooLong hlong]
    exact iff_of_true ⟨nofun, fun _ => rfl, fun h => absurd h hnever⟩ (.inl rfl)
  | false =>
    by_cases hroom : free r < segments nbuf + 1
    · rw [answer_refused hlong hroom]
      constructor
      · exact fun h => .inr (.inr (haccepted.mp (h.retry rfl)))
      · rintro (hno | hmore | hfits)
        · cases hno
        · omega
        · refine ⟨fun _ => haccepted.mpr hfits, fun hsmall => ?_, fun h => absurd h hnever⟩
          omega
    · rw [answer_room hlong hroom]
      refine iff_of_true ?_ (.inr (.inl (by omega)))
      have hsize : ¬ r.size.toNat ≤ needed nbuf bufferType := by omega
      cases encodes env nbuf bufferType with
      | true => exact ⟨nofun, fun hsmall => absurd hsmall hsize, fun h => absurd h hnever⟩
      | false => exact ⟨nofun, fun _ => rfl, fun h => absurd h hnever⟩

theorem answer_honest (h : SharedOk r)
    (hmax : nbuf.hasFragList = false → nbuf.fragSizes.length ≤ env.maxSkbFrags) :
    Honest env r ifNum nbuf bufferType flags
        (answer r.size.toNat (free r) env nbuf bufferType) ↔ Agrees env r nbuf bufferType := by
  have haccepted := acceptedWhenEmpty_iff ifNum bufferType flags h.pow hmax
  cases hbounce : isBounce bufferType with
  | true => exact bounce_honest hbounce h.size_pos haccepted
  | false => exact packet_honest hbounce haccepted

end Answers

section Functions
variable {σ τ α : Type}

theorem zoom_exec {get : σ → τ} {set : τ → σ → σ} (hget : ∀ s x, get (set x s) = x)
    {q : Proc τ α} {s : σ} {a : α} {t : τ} (h : q.exec (get s) = some (a, t)) :
    ∃ s', (q.zoom get set).exec s = some (a, s') := by
  induction q generalizing s with
  | ret b =>
    obtain ⟨rfl, -⟩ := Prod.mk.inj (Option.some.inj h)
    exact ⟨s, rfl⟩
  | halt => cases h
  | act en f k ih =>
    rw [Proc.exec_act] at h
    by_cases hen : en (get s) = true
    · rw [if_pos hen] at h
      have hrest : (k (get s)).exec (get (set (f (get s)) s)) = some (a, t) := by
        rw [hget]
        exact h
      obtain ⟨s', hexec⟩ := ih (get s) hrest
      refine ⟨s', ?_⟩
      show (if en (get s) = true then _ else none) = _
      rw [if_pos hen]
      exact hexec
    · rw [if_neg hen] at h
      cases h

def worded (s : Sender) : CoreStatus → TxStatus
  | .success => .success
  | .failureQueue => .refused s.queueFull
  | .failure => .refused s.failed

variable {cpu : ℕ} {s : Sender} {env : TxEnv} {ifNum : U32} {nbuf : TxSkb} {c : NssCtx}
  {before after : Option TxFailure}

theorem ringAfter_worded (cpu : ℕ) (s : Sender) (v : CoreStatus) :
    Returns (fun r => r = worded s v) (ringAfter cpu s v) := by
  cases v with
  | success => exact returns_modify (returns_modify (returns_ret rfl))
  | failureQueue => exact returns_ret rfl
  | failure => exact returns_ret rfl

theorem sendBuffer_worded {v : CoreStatus} {p' : H2nPort}
    (h : (nssCoreSendBuffer cpu env ifNum nbuf s.bufferType s.flags).exec (c.port s.qid) =
      some (v, p')) :
    ∃ c', (sendBuffer cpu s env ifNum nbuf).exec c = some (worded s v, c') := by
  obtain ⟨c', hzoom⟩ := zoom_exec (fun c p => NssCtx.port_setPort s.qid p c) h
  obtain ⟨r, c'', hring, rfl⟩ := ringAfter_worded cpu s v c'
  refine ⟨c'', ?_⟩
  unfold sendBuffer
  rw [Proc.exec_bind, hzoom]
  exact hring

theorem packetSenders_queueFull : ∀ s ∈ packetSenders,
    s.queueFull = .failureQueue ∧ s.notReady ≠ .failureQueue := by
  decide

theorem txBuf_worded {v : CoreStatus} {p' : H2nPort} (hs : s ∈ packetSenders)
    (hbefore : before ≠ some .failureQueue) (hafter : after ≠ some .failureQueue)
    (h : (nssCoreSendBuffer cpu env ifNum nbuf s.bufferType s.flags).exec (c.port s.qid) =
      some (v, p')) :
    ∃ r c', (txBuf cpu s env ifNum before after nbuf).exec c = some (r, c') ∧
      (r = .refused .failureQueue ↔ Passes c before after ∧
        (v = .failureQueue ∨ v = .failure ∧ s.failed = .failureQueue)) := by
  obtain ⟨hfull, hready⟩ := packetSenders_queueFull s hs
  unfold txBuf whenReady
  cases before with
  | some why =>
    refine ⟨.refused why, c, rfl, iff_of_false (fun heq => hbefore ?_)
      fun hpass => nomatch hpass.1.1⟩
    rw [TxStatus.refused.inj heq]
  | none =>
    by_cases hstate : c.state = NSS_CORE_STATE_INITIALIZED
    · cases after with
      | some why =>
        refine ⟨.refused why, c, ?_, iff_of_false (fun heq => hafter ?_)
          fun hpass => nomatch hpass.1.2.2⟩
        · show (if c.state ≠ NSS_CORE_STATE_INITIALIZED then _ else _ :
          Proc NssCtx TxStatus).exec c = _
          rw [if_neg (not_not.mpr hstate)]
          rfl
        · rw [TxStatus.refused.inj heq]
      | none =>
        obtain ⟨c', hexec⟩ := sendBuffer_worded h
        refine ⟨worded s v, c', ?_, ?_⟩
        · show (if c.state ≠ NSS_CORE_STATE_INITIALIZED then _ else _ :
          Proc NssCtx TxStatus).exec c = _
          rw [if_neg (not_not.mpr hstate)]
          exact hexec
        · have hpass : Passes c none none := ⟨rfl, hstate, rfl⟩
          cases v with
          | success => simp [worded]
          | failureQueue => simp [worded, hfull, hpass]
          | failure => simp [worded, hpass]
    · refine ⟨.refused s.notReady, c, ?_, iff_of_false (fun heq => hready ?_)
        fun hpass => hstate hpass.1.2.1⟩
      · show (if c.state ≠ NSS_CORE_STATE_INITIALIZED then _ else _ :
          Proc NssCtx TxStatus).exec c = _
        rw [if_pos hstate]
        rfl
      · exact TxStatus.refused.inj heq

/-- The status of `nss_core_send_buffer` is one to act on exactly where the room
    check agrees with the encoders; a transmit function repeats it exactly where
    it does not word an error as a full queue. -/
theorem queueFull_honest (cpu : ℕ) (s : Sender) (env : TxEnv) (ifNum : U32) (nbuf : TxSkb)
    (bufferType : U8) (flags : U16) (c : NssCtx) (p : H2nPort) (before after : Option TxFailure)
    (hring : SharedOk p.ring) (hfree : p.ring.lock = none)
    (hmax : nbuf.hasFragList = false → nbuf.fragSizes.length ≤ env.maxSkbFrags)
    (hs : s ∈ packetSenders) (hport : c.port s.qid = p)
    (hbefore : before ≠ some .failureQueue) (hafter : after ≠ some .failureQueue) :
    (∃ v p', (nssCoreSendBuffer cpu env ifNum nbuf bufferType flags).exec p = some (v, p') ∧
      (Honest env p.ring ifNum nbuf bufferType flags v ↔ Agrees env p.ring nbuf bufferType)) ∧
    ∃ v p' r c', (nssCoreSendBuffer cpu env ifNum nbuf s.bufferType s.flags).exec p = some (v, p') ∧
      (txBuf cpu s env ifNum before after nbuf).exec c = some (r, c') ∧
      ((r = .refused .failureQueue ↔ Passes c before after ∧ v = .failureQueue) ↔
        (Passes c before after → s.failed = .failureQueue →
          fails env p.ring nbuf s.bufferType = false)) := by
  constructor
  · obtain ⟨p', hexec⟩ := send_answer cpu ifNum bufferType flags hring hfree hmax
    exact ⟨_, p', hexec, answer_honest hring hmax⟩
  · obtain ⟨p', hexec⟩ := send_answer cpu ifNum s.bufferType s.flags hring hfree hmax
    have hcore := hexec
    rw [← hport] at hcore
    obtain ⟨r, c', htx, hworded⟩ := txBuf_worded hs hbefore hafter hcore
    refine ⟨_, p', r, c', hexec, htx, ?_⟩
    have hfailure : answer p.ring.size.toNat (free p.ring) env nbuf s.bufferType = .failure ↔
        fails env p.ring nbuf s.bufferType = true := answer_failure
    rw [hport] at hworded
    rw [hworded]
    constructor
    · intro h hpass hfailed
      by_contra hfails
      have hanswer := hfailure.mpr (Bool.eq_true_of_not_eq_false hfails)
      have hqueue := (h.mp ⟨hpass, .inr ⟨hanswer, hfailed⟩⟩).2
      rw [hanswer] at hqueue
      cases hqueue
    · intro h
      constructor
      · rintro ⟨hpass, hqueue | ⟨hanswer, hfailed⟩⟩
        · exact ⟨hpass, hqueue⟩
        · rw [hfailure.mp hanswer] at h
          exact absurd (h hpass hfailed) (by decide)
      · rintro ⟨hpass, hqueue⟩
        exact ⟨hpass, .inl hqueue⟩

end Functions

/-- An skb with `n` more in its frag_list. -/
def listSkb (n : ℕ) (h : n < 2 ^ 32) : TxSkb where
  addr := 7
  head := 0x1000
  data := 0x1040
  tail := 0x1080
  end_ := 0x1800
  len := 0x40
  dataLen := 0
  priority := 0
  nrFrags := 0
  ipSummed := .checksumNone
  hasDestructor := false
  gsoSize := 0
  fragSizes := []
  fragList := List.replicate n ⟨9, 0x2000, 0x2040, 0x2080, 0x2800, 0x40, 0, 0, 0⟩
  fragSizes_lt := TxSkb.noFrags_lt
  fragList_lt := by rw [List.length_replicate]; exact h

def runningCore : NssCtx where
  ring := fun _ => emptyRing 4
  coreId := 0
  stats := fun _ => 0
  intrMask := 0
  state := NSS_CORE_STATE_INITIALIZED
  topLock := none
  statsLock := none
  interfaceRegistered := fun _ => false
  bridgeRegistered := fun _ => false
  doorbells := []
  interfaceBounces := 0

theorem emptyRing_four : SharedOk (emptyRing 4) := by
  have hfresh : Fresh (runningCore.port 1) :=
    ⟨⟨2, by decide, rfl⟩, by decide, rfl, rfl, rfl, rfl, rfl, rfl⟩
  exact hfresh.sharedOk

theorem queueFull_honest_list : ∃ v p',
    (nssCoreSendBuffer 0 (mapsAll 17) 3 (listSkb 2 (by decide)) 0 0).exec (runningCore.port 1) =
      some (v, p') ∧
    Honest (mapsAll 17) (emptyRing 4) 3 (listSkb 2 (by decide)) 0 0 v := by
  obtain ⟨⟨v, p', hexec, hhonest⟩, -⟩ := queueFull_honest 0 nssVirtIfTxBuf (mapsAll 17) 3
    (listSkb 2 (by decide)) 0 0 runningCore (runningCore.port 1) none none emptyRing_four rfl
    (fun _ => Nat.zero_le _) (by decide) rfl nofun nofun
  exact ⟨v, p', hexec, hhonest.mpr (by decide)⟩

/-- On an empty ring of four slots, three segments behind the head are told to
    try again, and so are the five that `nss_virt_if_tx_buf` passes on. -/
theorem queueFull_forever :
    (∃ p', (nssCoreSendBuffer 0 (mapsAll 17) 3 (listSkb 3 (by decide)) 0 0).exec
        (runningCore.port 1) = some (.failureQueue, p')) ∧
      ¬ Honest (mapsAll 17) (emptyRing 4) 3 (listSkb 3 (by decide)) 0 0 .failureQueue ∧
      (∃ p', (nssCoreSendBuffer 0 (mapsAll 17) 3 (listSkb 5 (by decide)) nssVirtIfTxBuf.bufferType
        nssVirtIfTxBuf.flags).exec (runningCore.port 1) = some (.failure, p')) ∧
      ∃ c', (txBuf 0 nssVirtIfTxBuf (mapsAll 17) 3 none none (listSkb 5 (by decide))).exec
        runningCore = some (.refused .failureQueue, c') := by
  refine ⟨⟨_, rfl⟩, fun h => ?_, ⟨_, rfl⟩, ⟨_, rfl⟩⟩
  have haccepted := h.retry rfl
  have hfits := (acceptedWhenEmpty_iff 3 0 0 emptyRing_four.pow fun _ => Nat.zero_le _).mp haccepted
  exact absurd hfits.1 (by decide)

end NssDrv.TransmitAnswers

import NssDrv.CallbackContexts
import NssDrv.MessageBuffers

set_option autoImplicit false

/-!
# The bounds of the profiler

The profiler checks the count of counters that the firmware sends against the
length of the message, and the length of a request against its buffer, both in
32 bits.
-/
namespace NssDrv.ProfilerBounds
open HlosInterface SharedThread DescriptorRing TransmitEncoders TransmitApi MessageBuffers
open CallbackContexts CommonMessage InterfaceTables
open TransmitAnswers (runningCore mapsAll emptyRing_four)

def sizeofNssProfilerMsg : U32 := sizeofNssCmnMsg + sizeofPdm

def offsetofCounters : U32 := 32

/-- The messages that carry counters: replies, constant data and the counters. -/
def CarriesCounters (ncm : Message) : Prop :=
  NSS_PROFILER_DEBUG_REPLY_MSG < ncm.type ∧ ncm.type ≤ NSS_PROFILER_COUNTERS_MSG

/-- What the makefiles set `NSS_EMPTY_BUFFER_SIZE` to. -/
def IsPayloadSize (payloadSize : U32) : Prop := payloadSize = 1792 ∨ payloadSize = 1984

section Transmit
variable {kernel : Kernel} {payloadSize : U32} (cpu : ℕ) (env : TxEnv)

def nssProfilerIfTxBuf (skb : Option (FreshSkb kernel payloadSize)) (len : U32) :
    Proc MsgCall TxStatus :=
  txCopied cpu TransmitApi.nssProfilerIfTxBuf env
    (if payloadSize < len + sizeofNssProfilerMsg then some .failureTooLarge else none)
    skb (sizeofNssCmnMsg + len) len

end Transmit

/-- What a walk over the counters needs of a message. -/
structure Walkable (ncm : Message) : Prop where
  count : ncm.numCounters.toNat ≤ PROFILE_MAX_APP_COUNTERS.toNat
  counters : offsetofCounters.toNat + ncm.numCounters.toNat * sizeofCounter.toNat ≤ ncm.len.toNat
  payload : ncm.len.toNat ≤ sizeofPcmdp.toNat

/-- Behind counter `i`. -/
def counterEnd (i : ℕ) : ℕ :=
  sizeofNssCmnMsg.toNat + offsetofCounters.toNat + (i + 1) * sizeofCounter.toNat

/-- Once a callback and a context are there, a message is passed on exactly where its
    counters can be walked, and the walk stays inside it. -/
structure Checked (ncm : Message) : Prop where
  passes : ∀ s id, s.profilerCallback id ≠ 0 → s.profilerCtx id ≠ 0 →
    ((nssProfilerRxMsgHandler s id ncm).isSome = true ↔ Walkable ncm)
  inside : ∀ s id, s.profilerCallback id ≠ 0 → s.profilerCtx id ≠ 0 →
    (nssProfilerRxMsgHandler s id ncm).isSome = true →
      ∀ i < ncm.numCounters.toNat, counterEnd i ≤ sizeofNssCmnMsg.toNat + ncm.len.toNat

def Fits (kernel : Kernel) (payloadSize len : U32) : Prop :=
  ∀ cpu env (skb : Option (FreshSkb kernel payloadSize)) c r x,
    (nssProfilerIfTxBuf cpu env skb len).exec (MsgCall.begin c) = some (r, x) →
      ∀ f ∈ x.fills, f.copied = len ∧ sizeofNssCmnMsg.toNat + len.toNat ≤ f.room

section Receive
variable {ncm : Message}

theorem lenBad_counters (h : CarriesCounters ncm) : profilerLenBad ncm = true ↔
    ncm.len.toNat <
        (offsetofCounters.toNat + ncm.numCounters.toNat * sizeofCounter.toNat) % 2 ^ 32 ∨
      sizeofPcmdp.toNat < ncm.len.toNat := by
  obtain ⟨hlow, hhigh⟩ := h
  have hflow : ¬ ncm.type ≤ NSS_PROFILER_FLOWCTRL_MSG := by
    have hdebug : (6 : ℕ) < ncm.type.toNat := hlow
    exact fun hle => absurd (show ncm.type.toNat ≤ 3 from hle) (by omega)
  have hleast : (sizeofPcmdp - (PROFILE_MAX_APP_COUNTERS - ncm.numCounters) * sizeofCounter).toNat =
      (offsetofCounters.toNat + ncm.numCounters.toNat * sizeofCounter.toNat) % 2 ^ 32 := by
    have hsame : sizeofPcmdp - (PROFILE_MAX_APP_COUNTERS - ncm.numCounters) * sizeofCounter =
        offsetofCounters + ncm.numCounters * sizeofCounter := by
      unfold sizeofPcmdp PROFILE_MAX_APP_COUNTERS sizeofCounter offsetofCounters
      grind
    rw [hsame, BitVec.toNat_add, BitVec.toNat_mul, Nat.add_mod_mod]
  unfold profilerLenBad
  rw [if_neg hflow, if_neg (BitVec.not_le.mpr hlow), if_pos hhigh, Bool.or_eq_true,
    decide_eq_true_eq, decide_eq_true_eq, BitVec.lt_def, hleast]
  exact Iff.rfl

theorem handler_isSome (s : Notifiers) (id : NssCoreId) (h : CarriesCounters ncm)
    (hcb : s.profilerCallback id ≠ 0) (hctx : s.profilerCtx id ≠ 0) :
    (nssProfilerRxMsgHandler s id ncm).isSome = true ↔ profilerLenBad ncm ≠ true := by
  have htype : ¬ ncm.type ≥ NSS_PROFILER_MAX_MSG_TYPES := by
    intro hge
    exact absurd (BitVec.le_trans hge h.2) (by decide)
  unfold nssProfilerRxMsgHandler
  dsimp only
  rw [if_neg htype]
  by_cases hbad : profilerLenBad ncm = true
  · rw [if_pos hbad]
    exact iff_of_false nofun (not_not.mpr hbad)
  · rw [if_neg hbad]
    refine iff_of_true ?_ hbad
    by_cases hreply : ncm.response ≠ NSS_CMM_RESPONSE_NOTIFY ∧ ncm.cb ≠ 0
    · rw [if_pos hreply, if_neg (not_or.mpr ⟨hreply.2, hctx⟩)]
      rfl
    · rw [if_neg hreply, if_neg (not_or.mpr ⟨hcb, hctx⟩)]
      rfl

theorem lenBad_iff_walkable (h : CarriesCounters ncm)
    (hcount : ncm.numCounters.toNat ≤ PROFILE_MAX_APP_COUNTERS.toNat) :
    profilerLenBad ncm ≠ true ↔ Walkable ncm := by
  have hsmall : (offsetofCounters.toNat + ncm.numCounters.toNat * sizeofCounter.toNat) % 2 ^ 32 =
      offsetofCounters.toNat + ncm.numCounters.toNat * sizeofCounter.toNat := by
    have hmax : ncm.numCounters.toNat * sizeofCounter.toNat ≤ 24 * 24 :=
      Nat.mul_le_mul hcount (Nat.le_refl 24)
    have hoff : offsetofCounters.toNat = 32 := rfl
    exact Nat.mod_eq_of_lt (by omega)
  rw [Ne, lenBad_counters h, hsmall, not_or, Nat.not_lt, Nat.not_lt]
  exact ⟨fun hok => ⟨hcount, hok.1, hok.2⟩, fun hwalk => ⟨hwalk.counters, hwalk.payload⟩⟩

theorem Walkable.inside (h : Walkable ncm) {i : ℕ} (hi : i < ncm.numCounters.toNat) :
    counterEnd i ≤ sizeofNssCmnMsg.toNat + ncm.len.toNat := by
  have hcounters := h.counters
  have hmul : (i + 1) * sizeofCounter.toNat ≤ ncm.numCounters.toNat * sizeofCounter.toNat :=
    Nat.mul_le_mul_right _ hi
  unfold counterEnd
  omega

def registered : Notifiers where
  handlers := fun _ => ⟨nssProfilerRxMsgHandlerPtr, 0⟩
  cryptoCtx := 0
  cryptoMsgCallback := 0
  cryptoBufCallback := 0
  profilerCtx := fun _ => 1
  profilerCallback := fun _ => 1

/-- How a count and a length escape the check. -/
def Escapes (ncm : Message) : Prop :=
  PROFILE_MAX_APP_COUNTERS.toNat < ncm.numCounters.toNat ∧ ncm.len.toNat ≤ sizeofPcmdp.toNat ∧
    (offsetofCounters.toNat + ncm.numCounters.toNat * sizeofCounter.toNat) % 2 ^ 32 ≤ ncm.len.toNat

theorem checked_iff (h : CarriesCounters ncm) : Checked ncm ↔ ¬ Escapes ncm := by
  constructor
  · rintro hchecked ⟨hcount, hlen, hwrapped⟩
    have hok : profilerLenBad ncm ≠ true := by
      rw [Ne, lenBad_counters h]
      omega
    have hone : (1 : ℕ) ≠ 0 := Nat.one_ne_zero
    have hsome := (handler_isSome registered .NSS_CORE_0 h hone hone).mpr hok
    have hwalk := (hchecked.passes registered .NSS_CORE_0 hone hone).mp hsome
    exact absurd hwalk.count (Nat.not_le.mpr hcount)
  · intro hnot
    have hpasses : profilerLenBad ncm ≠ true ↔ Walkable ncm := by
      by_cases hcount : ncm.numCounters.toNat ≤ PROFILE_MAX_APP_COUNTERS.toNat
      · exact lenBad_iff_walkable h hcount
      · refine iff_of_false (fun hok => hnot ?_) fun hwalk => hcount hwalk.count
        rw [Ne, lenBad_counters h] at hok
        exact ⟨Nat.not_le.mp hcount, by omega, by omega⟩
    refine ⟨fun s id hcb hctx => (handler_isSome s id h hcb hctx).trans hpasses, ?_⟩
    intro s id hcb hctx hsome i hi
    exact (hpasses.mp ((handler_isSome s id h hcb hctx).mp hsome)).inside hi

end Receive

section Transmit
variable {kernel : Kernel} {payloadSize len : U32}

theorem IsPayloadSize.bounds (h : IsPayloadSize payloadSize) :
    sizeofNssProfilerMsg.toNat ≤ payloadSize.toNat ∧ payloadSize.toNat ≤ N2hRequests.PAGE_SIZE := by
  rcases h with rfl | rfl <;> decide

theorem refused_iff (h : IsPayloadSize payloadSize) : payloadSize < len + sizeofNssProfilerMsg ↔
    payloadSize.toNat < len.toNat + sizeofNssProfilerMsg.toNat ∧
      len.toNat < 2 ^ 32 - sizeofNssProfilerMsg.toNat := by
  have hbounds := h.bounds
  have hsize : sizeofNssProfilerMsg.toNat = 1056 := rfl
  have hlt := len.isLt
  rw [BitVec.lt_def, BitVec.toNat_add]
  omega

theorem payload_le_room (kernel : Kernel) (h : IsPayloadSize payloadSize) :
    payloadSize.toNat ≤ kernel.room payloadSize :=
  kernel.enough payloadSize h.bounds.2

theorem wrapped_filled (kernel : Kernel) (h : IsPayloadSize payloadSize)
    (hlen : 2 ^ 32 - sizeofNssProfilerMsg.toNat ≤ len.toNat) :
    ∃ r x, (nssProfilerIfTxBuf 0 (mapsAll 17) (some (kernel.skb payloadSize)) len).exec
        (MsgCall.begin runningCore) = some (r, x) ∧
      x.fills = [⟨kernel.room payloadSize, sizeofNssCmnMsg + len, len⟩] := by
  have hsize : sizeofNssProfilerMsg.toNat = 1056 := rfl
  have hheader : sizeofNssCmnMsg.toNat = 28 := rfl
  have hroom := payload_le_room kernel h
  have hbounds := h.bounds
  have hlt := len.isLt
  have hput : (sizeofNssCmnMsg + len).toNat ≤ kernel.room payloadSize ∨
      2 ^ 32 - N2hRequests.PAGE_SIZE ≤ (sizeofNssCmnMsg + len).toNat := by
    rw [BitVec.toNat_add, hheader]
    unfold N2hRequests.PAGE_SIZE
    omega
  obtain ⟨r, x, hexec, -, hfills, -⟩ := fillAndSend_exec 0 (mapsAll 17)
    (s := TransmitApi.nssProfilerIfTxBuf) (x := MsgCall.begin runningCore) emptyRing_four
    rfl (skbPut_fits (kernel.skb payloadSize) hput)
  refine ⟨r, x, ?_, hfills⟩
  unfold nssProfilerIfTxBuf
  rw [if_neg (by rw [refused_iff h]; omega), txCopied_accepted rfl]
  exact hexec

theorem fits_iff (kernel : Kernel) (h : IsPayloadSize payloadSize) (len : U32) :
    Fits kernel payloadSize len ↔ len.toNat < 2 ^ 32 - sizeofNssProfilerMsg.toNat := by
  have hroom := payload_le_room kernel h
  have hbounds := h.bounds
  have hheader : sizeofNssCmnMsg.toNat = 28 := rfl
  have hsize : sizeofNssProfilerMsg.toNat = 1056 := rfl
  constructor
  · intro hfits
    by_contra hlen
    obtain ⟨r, x, hexec, hfills⟩ := wrapped_filled kernel h (Nat.not_lt.mp hlen)
    have hmem : (⟨kernel.room payloadSize, sizeofNssCmnMsg + len, len⟩ : Fill) ∈
        x.fills := by
      rw [hfills]
      exact List.mem_singleton.mpr rfl
    have hover : sizeofNssCmnMsg.toNat + len.toNat ≤ kernel.room payloadSize :=
      (hfits 0 _ _ _ _ _ hexec _ hmem).2
    have hmost := kernel.most payloadSize
    omega
  · intro hlen cpu env skb c r x hexec f hf
    unfold nssProfilerIfTxBuf at hexec
    rw [txCopied_exec] at hexec
    by_cases hstate : (MsgCall.begin c).ctx.state = NSS_CORE_STATE_INITIALIZED
    · rw [if_neg (not_not.mpr hstate)] at hexec
      by_cases hlong : payloadSize < len + sizeofNssProfilerMsg
      · rw [if_pos hlong] at hexec
        cases hexec
        nomatch hf
      · rw [if_neg hlong] at hexec
        rw [refused_iff h] at hlong
        cases skb with
        | none =>
          cases hexec
          nomatch hf
        | some skb =>
          rw [fillAndSend_fills hexec] at hf
          obtain rfl := List.mem_singleton.mp hf
          exact ⟨rfl, by dsimp only; omega⟩
    · rw [if_pos hstate] at hexec
      cases hexec
      nomatch hf

end Transmit

/-- The checks are exact unless they wrap: a count beyond the table passes where its
    counters, counted modulo `2 ^ 32`, still fit, and a length near `2 ^ 32` passes
    as a small one. -/
theorem profiler_bounds_iff (kernel : Kernel) (ncm : Message) (payloadSize len : U32)
    (hcarries : CarriesCounters ncm) (hpayload : IsPayloadSize payloadSize) :
    (Checked ncm ↔ ¬ Escapes ncm) ∧
      (Fits kernel payloadSize len ↔ len.toNat < 2 ^ 32 - sizeofNssProfilerMsg.toNat) :=
  ⟨checked_iff hcarries, fits_iff kernel hpayload len⟩

/-- Counters whose size is three times `2 ^ 32`. -/
def manyCounters : Message where
  version := 1
  interface := 96
  response := NSS_CMM_RESPONSE_NOTIFY
  type := NSS_PROFILER_COUNTERS_MSG
  cb := 0
  appData := 0
  len := 608
  numCounters := 0x20000000
  bufLen := 2048

theorem profiler_bounds_iff_counters : CarriesCounters manyCounters ∧
    (Checked manyCounters ↔ ¬ Escapes manyCounters) ∧
      (Fits Kernel.exact 1792 0xFFFFFFFF ↔
        (0xFFFFFFFF : U32).toNat < 2 ^ 32 - sizeofNssProfilerMsg.toNat) :=
  have hcarries : CarriesCounters manyCounters := ⟨by decide, by decide⟩
  ⟨hcarries, profiler_bounds_iff Kernel.exact manyCounters 1792 0xFFFFFFFF hcarries (.inl rfl)⟩

/-- Both checks let a wrapped value through. -/
theorem bounds_escape : (CarriesCounters manyCounters ∧ ¬ Checked manyCounters) ∧
    ¬ Fits Kernel.exact 1792 0xFFFFFFFF ∧ ¬ Fits Kernel.exact 1984 0xFFFFFFFF := by
  have hcarries : CarriesCounters manyCounters := ⟨by decide, by decide⟩
  refine ⟨⟨hcarries, fun hchecked => ?_⟩, fun hfits => ?_, fun hfits => ?_⟩
  · exact (checked_iff hcarries).mp hchecked ⟨by decide, by decide, by decide⟩
  · exact absurd ((fits_iff _ (.inl rfl) _).mp hfits) (by decide)
  · exact absurd ((fits_iff _ (.inr rfl) _).mp hfits) (by decide)

end NssDrv.ProfilerBounds

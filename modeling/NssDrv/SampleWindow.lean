import NssDrv.SampleRing
import NssDrv.ScaleDecision

set_option autoImplicit false

/-!
# What the scaling decision averages

The history of a run since its latest sample reset, and the sum and average that
a decision reads.
-/
namespace NssDrv.SampleWindow
open HlosInterface FrequencyScaling ScaleDecision CyclicIndex SampleRing

/-- The fields that the running sum depends on. -/
structure Ring where
  buffer : ℕ → U32
  bufferIndex : U32
  sum : U32
  sampleCount : U32

def ring (s : FreqState) : Ring :=
  ⟨s.samples.buffer, s.samples.bufferIndex, s.samples.sum, s.samples.sampleCount⟩

namespace Ring

def push (sample : U32) (r : Ring) : Ring where
  buffer := Function.update r.buffer r.bufferIndex.toNat sample
  bufferIndex := (r.bufferIndex + 1) &&& NSS_SAMPLE_BUFFER_MASK
  sum := r.sum - r.buffer r.bufferIndex.toNat + sample
  sampleCount :=
    if r.sampleCount < NSS_SAMPLE_BUFFER_SIZE then r.sampleCount + 1 else r.sampleCount

/-- The reset leaves the cells as they are. -/
def cleared (r : Ring) : Ring := ⟨r.buffer, 0, 0, 0⟩

end Ring

section Frame
variable (s : FreqState) (w : U32) (alloc : Bool)

@[simp] theorem ring_setIndex : ring (s.setIndex w) = ring s := rfl
@[simp] theorem ring_setReady : ring (s.setReady w) = ring s := rfl
@[simp] theorem ring_setRateUp : ring (s.setRateUp w) = ring s := rfl
@[simp] theorem ring_setRateDown : ring (s.setRateDown w) = ring s := rfl
@[simp] theorem ring_setAutoScale : ring (s.setAutoScale w) = ring s := rfl
@[simp] theorem ring_setCurrentFreq : ring (s.setCurrentFreq w) = ring s := rfl
@[simp] theorem ring_queueWork (work : NssWork) : ring (s.queueWork work) = ring s := rfl
@[simp] theorem ring_updateAverage : ring (updateAverage s) = ring s := rfl

@[simp] theorem ring_nssResetFrequencyStatsSamples :
    ring (nssResetFrequencyStatsSamples s) = (ring s).cleared := rfl

@[simp] theorem ring_move (i : U32) : ring (move alloc i s) = ring s := by
  cases alloc <;> rfl

theorem ring_scale : ring (scale alloc s) = ring s := by
  rw [scale_eq, ring_setRateUp, ring_setRateDown]
  cases destination s with
  | none => rfl
  | some i => exact ring_move s alloc i

theorem ring_fillRing :
    ring (fillRing s) = { ring s with sampleCount := s.samples.sampleCount + 1 } := by
  simp only [fillRing]
  split <;> rfl

end Frame

theorem ring_nssFreqHandleCoreStats {sample : U32} {alloc : Bool} {s : FreqState} :
    ring (nssFreqHandleCoreStats sample alloc s) =
      if accepts s then (ring s).push sample else ring s := by
  rw [nssFreqHandleCoreStats]
  cases accepts s with
  | false => rfl
  | true =>
    rw [Bool.not_true, if_neg Bool.false_ne_true, if_pos rfl]
    by_cases hlt : s.samples.sampleCount < NSS_SAMPLE_BUFFER_SIZE
    · have hpush : (ring s).push sample =
          { ring (pushSample sample s) with sampleCount := s.samples.sampleCount + 1 } := by
        simp [Ring.push, ring, pushSample, hlt]
      rw [hpush]
      refine Eq.trans (congrArg ring (if_pos hlt)) ?_
      rw [ring_fillRing]
      rfl
    · have hpush : ring (sampled sample s) = (ring s).push sample := by
        simp [Ring.push, ring, sampled, updateAverage, pushSample, hlt]
      refine Eq.trans (congrArg ring (if_neg hlt)) ?_
      split
      · exact hpush
      · rw [ring_scale, hpush]

def resets : FreqEvent → FreqState → Bool
  | .currentFreq stored alloc, s =>
    found (s.setCurrentFreq (stored.getD s.cmdBuf.currentFreq)) && alloc
  | .autoScale stored alloc, s =>
    stored.getD s.cmdBuf.autoScale ≠ 1 && s.samples.freqScaleReady ≠ 0 && alloc
  | _, _ => false

def accepted : FreqEvent → FreqState → Option U32
  | .coreStats sample _, s => if accepts s then some sample else none
  | _, _ => none

theorem ring_nssCurrentFreqHandler {s : FreqState} {stored : Option U32} {alloc : Bool} :
    ring (nssCurrentFreqHandler alloc s stored) =
      if resets (.currentFreq stored alloc) s then (ring s).cleared else ring s := by
  cases hfound : found (s.setCurrentFreq (stored.getD s.cmdBuf.currentFreq)) with
  | false =>
    simp only [nssCurrentFreqHandler, resets, hfound]
    rfl
  | true =>
    simp only [nssCurrentFreqHandler, resets, hfound]
    cases alloc <;> rfl

theorem ring_autoScaleOff {s : FreqState} {alloc : Bool} :
    ring (autoScaleOff alloc s) =
      if s.samples.freqScaleReady ≠ 0 && alloc then (ring s).cleared else ring s := by
  by_cases hready : s.samples.freqScaleReady ≠ 0
  · rw [autoScaleOff, if_pos hready, decide_eq_true hready]
    cases alloc <;> rfl
  · rw [autoScaleOff, if_neg hready, decide_eq_false hready]
    rfl

theorem ring_autoScaleOn {s : FreqState} {alloc : Bool} : ring (autoScaleOn alloc s) = ring s := by
  rw [autoScaleOn]
  split
  · rfl
  · cases alloc <;> rfl

theorem ring_nssAutoScaleHandler {s : FreqState} {stored : Option U32} {alloc : Bool} :
    ring (nssAutoScaleHandler alloc s stored) =
      if resets (.autoScale stored alloc) s then (ring s).cleared else ring s := by
  by_cases hoff : stored.getD s.cmdBuf.autoScale ≠ 1
  · have hring : ring (nssAutoScaleHandler alloc s stored) =
        ring (autoScaleOff alloc (s.setAutoScale (stored.getD s.cmdBuf.autoScale))) :=
      congrArg ring (if_pos hoff)
    rw [hring, ring_autoScaleOff, resets, decide_eq_true hoff, Bool.true_and]
    rfl
  · have hring : ring (nssAutoScaleHandler alloc s stored) =
        ring (autoScaleOn alloc (s.setAutoScale (stored.getD s.cmdBuf.autoScale))) :=
      congrArg ring (if_neg hoff)
    rw [hring, ring_autoScaleOn, resets, decide_eq_false hoff]
    rfl

/-- Every event clears the running sum, pushes the samples it accepts, or leaves
    the ring alone. -/
theorem ring_handle (s : FreqState) (e : FreqEvent) :
    ring (handle s e) =
      if resets e s then (ring s).cleared
      else (accepted e s).elim (ring s) fun sample => (ring s).push sample := by
  cases e with
  | coreStats sample alloc =>
    rw [handle, ring_nssFreqHandleCoreStats]
    cases haccepts : accepts s with
    | true =>
      rw [if_pos rfl, accepted, if_pos haccepts]
      rfl
    | false =>
      rw [if_neg Bool.false_ne_true, accepted, haccepts]
      rfl
  | ack ack =>
    rw [handle, nssFreqHandleAck]
    split <;> rfl
  | currentFreq stored alloc => exact ring_nssCurrentFreqHandler
  | autoScale stored alloc => exact ring_nssAutoScaleHandler
  | work =>
    rw [handle, nssWqFunction]
    split <;> rfl

/-- The samples accepted since the latest reset, and what the ring summed to then. -/
structure History where
  since : List U32
  leftover : U32

def record (h : History) (e : FreqEvent) (s : FreqState) : History :=
  if resets e s then ⟨[], total s.samples.buffer 4⟩ else ⟨h.since ++ (accepted e s).toList, h.leftover⟩

def trace (p : FreqState × History) (e : FreqEvent) : FreqState × History :=
  (handle p.1 e, record p.2 e p.1)

theorem trace_state (es : List FreqEvent) (p : FreqState × History) :
    (es.foldl trace p).1 = es.foldl handle p.1 := by
  induction es generalizing p with
  | nil => rfl
  | cons e es ih => exact ih (trace p e)

/-- The ring holds the samples since the reset, and the running sum lacks what
    the cells held at the reset. -/
structure Tracks (r : Ring) (h : History) : Prop where
  holding : Holding r.buffer 4 r.bufferIndex.toNat h.since
  count : r.sampleCount.toNat = min h.since.length 4
  sum : r.sum = total r.buffer 4 - h.leftover

theorem Tracks.cleared (r : Ring) : Tracks r.cleared ⟨[], total r.buffer 4⟩ where
  holding := holding_nil _ _
  count := rfl
  sum := (sub_self _).symm

theorem Tracks.push {r : Ring} {h : History} (hr : Tracks r h) (sample : U32) :
    Tracks (r.push sample) ⟨h.since ++ [sample], h.leftover⟩ := by
  have hindex : r.bufferIndex.toNat < 4 := by
    rw [hr.holding.index]
    exact Nat.mod_lt _ (by omega)
  have hnext : (r.push sample).bufferIndex.toNat = advance 4 r.bufferIndex.toNat 1 := by
    have hmask := and_mask (k := 2) (r.bufferIndex + 1) NSS_SAMPLE_BUFFER_MASK rfl
    have hadd : (r.bufferIndex + 1).toNat = r.bufferIndex.toNat + 1 := by
      bv_omega
    exact hmask.trans (congrArg (· % 4) hadd)
  constructor
  · rw [hnext]
    exact hr.holding.push (by omega) sample
  · have hcount := hr.count
    rw [List.length_append, List.length_singleton, Ring.push]
    by_cases hlt : r.sampleCount < NSS_SAMPLE_BUFFER_SIZE
    · have hless : r.sampleCount.toNat < 4 := hlt
      refine Eq.trans (congrArg BitVec.toNat (if_pos hlt)) ?_
      bv_omega
    · have hge : ¬ r.sampleCount.toNat < 4 := hlt
      refine Eq.trans (congrArg BitVec.toNat (if_neg hlt)) ?_
      omega
  · have hsum : (r.push sample).sum = r.sum - r.buffer r.bufferIndex.toNat + sample := rfl
    have hcells : total (r.push sample).buffer 4 =
        total r.buffer 4 - r.buffer r.bufferIndex.toNat + sample := total_update hindex sample
    rw [hsum, hcells, hr.sum, add_sub_right_comm, sub_right_comm]

theorem Tracks.record {s : FreqState} {h : History} (hs : Tracks (ring s) h) (e : FreqEvent) :
    Tracks (ring (handle s e)) (record h e s) := by
  rw [ring_handle, SampleWindow.record]
  cases hreset : resets e s with
  | true => exact Tracks.cleared (ring s)
  | false =>
    rw [if_neg Bool.false_ne_true, if_neg Bool.false_ne_true]
    cases accepted e s with
    | none =>
      rw [Option.toList_none, List.append_nil]
      exact hs
    | some sample => exact hs.push sample

theorem boot_tracks {s : FreqState} (h : Boot s) : Tracks (ring s) ⟨[], 0⟩ := by
  constructor
  · have hindex : (ring s).bufferIndex.toNat = 0 := congrArg BitVec.toNat h.bufferIndex
    rw [hindex]
    exact holding_nil _ _
  · exact congrArg BitVec.toNat h.sampleCount
  · have hbuffer : (ring s).buffer = fun _ => 0 := funext h.buffer
    have hsum : (ring s).sum = 0 := h.sum
    rw [hbuffer, hsum]
    rfl

theorem run_tracks {s : FreqState} (h : Boot s) (es : List FreqEvent) :
    Tracks (ring (es.foldl trace (s, ⟨[], 0⟩)).1) (es.foldl trace (s, ⟨[], 0⟩)).2 := by
  induction es using List.reverseRecOn with
  | nil => exact boot_tracks h
  | append_singleton es e ih =>
    rw [List.foldl_append]
    exact ih.record e

/-- The exact sum of the samples that a decision on this sample should average. -/
def lastSum (h : History) (sample : U32) : ℕ :=
  ((recent 4 (h.since ++ [sample])).map BitVec.toNat).sum

/-- The sum and the average that the decision reads are those of the last samples. -/
def Exact (h : History) (sample : U32) (s : FreqState) : Prop :=
  (sampled sample s).samples.sum.toNat = lastSum h sample ∧
    (sampled sample s).samples.average.toNat = lastSum h sample / NSS_SAMPLE_BUFFER_SIZE.toNat

theorem Tracks.decision_sum {s : FreqState} {h : History} (hs : Tracks (ring s) h) {sample : U32}
    (hfull : ¬ s.samples.sampleCount < NSS_SAMPLE_BUFFER_SIZE) :
    (sampled sample s).samples.sum = BitVec.ofNat 32 (lastSum h sample) - h.leftover := by
  have hpush := hs.push sample
  have hlen : 4 ≤ h.since.length := by
    have hcount : s.samples.sampleCount.toNat = min h.since.length 4 := hs.count
    have hge : ¬ s.samples.sampleCount.toNat < 4 := hfull
    omega
  have hindex : ((ring s).push sample).bufferIndex.toNat < 4 := by
    rw [hpush.holding.index]
    exact Nat.mod_lt _ (by omega)
  have hcells := hpush.holding.full hindex (hlen.trans (by simp))
  have hsum : (sampled sample s).samples.sum = ((ring s).push sample).sum := by
    simp [sampled, updateAverage, pushSample, Ring.push, ring]
  rw [hsum, hpush.sum, total_eq hindex, hcells, word_sum]
  rfl

theorem Tracks.sampleCount {s : FreqState} {h : History} (hs : Tracks (ring s) h)
    (hfull : ¬ s.samples.sampleCount < NSS_SAMPLE_BUFFER_SIZE) :
    s.samples.sampleCount = NSS_SAMPLE_BUFFER_SIZE := by
  have hcount : s.samples.sampleCount.toNat = min h.since.length 4 := hs.count
  have hge : ¬ s.samples.sampleCount.toNat < 4 := hfull
  apply BitVec.eq_of_toNat_eq
  show s.samples.sampleCount.toNat = 4
  omega

/-- In every run a decision averages exactly the last samples accepted since the
    reset if and only if the ring summed to nothing at that reset and the samples
    do not overflow the sum. -/
theorem decision_exact {s : FreqState} (h : Boot s) (es : List FreqEvent) (sample : U32)
    (hdecides : Decides sample (es.foldl handle s)) :
    Exact (es.foldl trace (s, ⟨[], 0⟩)).2 sample (es.foldl handle s) ↔
      (es.foldl trace (s, ⟨[], 0⟩)).2.leftover = 0 ∧
        lastSum (es.foldl trace (s, ⟨[], 0⟩)).2 sample < 2 ^ 32 := by
  have htracks := run_tracks h es
  rw [trace_state] at htracks
  have hsum : (sampled sample (es.foldl handle s)).samples.sum = _ :=
    htracks.decision_sum hdecides.2.1
  have haverage : (sampled sample (es.foldl handle s)).samples.average.toNat =
      (sampled sample (es.foldl handle s)).samples.sum.toNat / NSS_SAMPLE_BUFFER_SIZE.toNat := by
    rw [← htracks.sampleCount hdecides.2.1]
    exact BitVec.toNat_udiv
  rw [Exact, haverage]
  constructor
  · intro ⟨hexact, _⟩
    have hword := BitVec.eq_of_toNat_eq (y := BitVec.ofNat 32 _)
      (hexact.trans (Nat.mod_eq_of_lt (hexact ▸ BitVec.isLt _)).symm)
    rw [hword] at hsum
    exact ⟨sub_eq_self.mp hsum.symm, hexact ▸ BitVec.isLt _⟩
  · intro ⟨hleftover, hfit⟩
    have hexact := congrArg BitVec.toNat hsum
    rw [hleftover, sub_zero, BitVec.toNat_ofNat, Nat.mod_eq_of_lt hfit] at hexact
    exact ⟨hexact, congrArg (· / _) hexact⟩

/-- Five equal samples after the boot: the fifth is decided on. -/
theorem decision_exact_boot :
    Exact (((List.replicate 4 (.coreStats 0x9000 true)).foldl trace (bootState, ⟨[], 0⟩)).2) 0x9000
      ((List.replicate 4 (.coreStats 0x9000 true)).foldl handle bootState) := by
  refine (decision_exact bootState_boot _ 0x9000 ⟨rfl, ?_, rfl⟩).mpr ⟨rfl, ?_⟩
  · decide
  · decide

/-- Scaling is switched off and on again over a full ring. -/
def restarted : List FreqEvent :=
  List.replicate 4 (.coreStats 0x9000 true) ++
    [.autoScale (some 0) true, .autoScale (some 1) true, .autoScale (some 1) true] ++
      List.replicate 4 (.coreStats 0x5000 true)

/-- The samples from before the reset stay in the ring and are subtracted from
    the new sum, which wraps. -/
theorem restart_keeps_stale_samples :
    ¬ ∀ s, Boot s → ∀ (es : List FreqEvent) (sample : U32),
      Decides sample (es.foldl handle s) →
      Exact (es.foldl trace (s, ⟨[], 0⟩)).2 sample (es.foldl handle s) := by
  intro hall
  have hdecides : Decides 0x5000 (restarted.foldl handle bootState) := by
    refine ⟨rfl, ?_, rfl⟩
    decide
  have hexact := (hall bootState bootState_boot restarted 0x5000 hdecides).1
  have hsum : (sampled 0x5000 (restarted.foldl handle bootState)).samples.sum = 0xFFFF0000 := rfl
  rw [hsum] at hexact
  exact absurd hexact (by decide)

end NssDrv.SampleWindow

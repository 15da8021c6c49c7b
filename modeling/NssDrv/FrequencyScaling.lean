import Mathlib.Data.Nat.Notation
import Mathlib.Logic.Function.Basic
import NssDrv.HlosInterface

set_option autoImplicit false

/-!
# Frequency scaling

The sampler, the scaling decision and the ack handler of `nss_freq.c`, with the
two sysctl handlers and the sample reset of `nss_init.c`. Each runs to its end
before the next one starts.
-/
namespace NssDrv.FrequencyScaling
open HlosInterface

def NSS_ACK_STARTED : U32 := 0
def NSS_ACK_FINISHED : U32 := 1

def NSS_FREQ_MAX_SCALE : U32 := 3

def NSS_SAMPLE_BUFFER_SIZE : U32 := 4
def NSS_SAMPLE_BUFFER_MASK : U32 := NSS_SAMPLE_BUFFER_SIZE - 1
def NSS_FREQUENCY_SCALE_RATE_LIMIT_UP : U32 := 2
def NSS_FREQUENCY_SCALE_RATE_LIMIT_DOWN : U32 := 60000
def NSS_MESSAGE_RATE_LIMIT : U32 := 15000

structure NssScaleInfo where
  frequency : U32
  minimum : U32
  maximum : U32

structure NssRuntimeSampling where
  freqScale : ℕ → NssScaleInfo
  freqScaleIndex : U32
  freqScaleReady : U32
  freqScaleRateLimitUp : U32
  freqScaleRateLimitDown : U32
  buffer : ℕ → U32
  bufferIndex : U32
  sum : U32
  sampleCount : U32
  average : U32
  messageRateLimit : U32
  initialized : U32

/-- `auto_scale` is an `int32_t` that is only compared with 0 and 1. -/
structure NssCmdBuffer where
  currentFreq : U32
  autoScale : U32

structure NssWork where
  frequency : U32
  statsEnable : U32

/-- `nssWq` holds the work queued, the oldest first; `told` is the
    `stats_enable` of the work executed last. -/
structure FreqState where
  samples : NssRuntimeSampling
  cmdBuf : NssCmdBuffer
  nssWq : List NssWork
  told : Option U32

namespace FreqState

def setIndex (i : U32) (s : FreqState) : FreqState :=
  { s with samples := { s.samples with freqScaleIndex := i } }

def setReady (ready : U32) (s : FreqState) : FreqState :=
  { s with samples := { s.samples with freqScaleReady := ready } }

def setRateUp (n : U32) (s : FreqState) : FreqState :=
  { s with samples := { s.samples with freqScaleRateLimitUp := n } }

def setRateDown (n : U32) (s : FreqState) : FreqState :=
  { s with samples := { s.samples with freqScaleRateLimitDown := n } }

def setAutoScale (v : U32) (s : FreqState) : FreqState :=
  { s with cmdBuf := { s.cmdBuf with autoScale := v } }

def setCurrentFreq (f : U32) (s : FreqState) : FreqState :=
  { s with cmdBuf := { s.cmdBuf with currentFreq := f } }

def queueWork (w : NssWork) (s : FreqState) : FreqState := { s with nssWq := s.nssWq ++ [w] }

def level (s : FreqState) : NssScaleInfo := s.samples.freqScale s.samples.freqScaleIndex.toNat

end FreqState

def nssFreqHandleAck (ack : U32) (s : FreqState) : FreqState :=
  if ack = NSS_ACK_FINISHED then s.setReady 1 else s

/-- `none` where there is no memory for the work. -/
def nssFreqQueueWork (alloc : Bool) (s : FreqState) : Option FreqState :=
  if alloc then
    some ((s.setCurrentFreq s.level.frequency).queueWork ⟨s.level.frequency, 1⟩)
  else none

section CoreStats
variable (sample : U32) (alloc : Bool) (s : FreqState)

def accepts : Bool := !(s.cmdBuf.autoScale = 0 && s.samples.initialized ≠ 0)

def pushSample : FreqState :=
  let r := s.samples
  let b := r.bufferIndex
  let buffer := Function.update r.buffer b.toNat sample
  { s with
    samples := { r with
      sum := r.sum - r.buffer b.toNat + buffer b.toNat
      buffer := buffer
      bufferIndex := (b + 1) &&& NSS_SAMPLE_BUFFER_MASK } }

def fillRing : FreqState :=
  let n := s.samples.sampleCount + 1
  let s := { s with samples := { s.samples with sampleCount := n } }
  if n = NSS_SAMPLE_BUFFER_SIZE then
    let s := (s.setAutoScale 1).setReady 1
    { s with samples := { s.samples with initialized := 1 } }
  else s

def updateAverage : FreqState :=
  let r := s.samples
  { s with
    samples := { r with
      average := r.sum / r.sampleCount
      messageRateLimit :=
        if r.messageRateLimit ≥ NSS_MESSAGE_RATE_LIMIT then 0 else r.messageRateLimit + 1 } }

def mayScale : Bool := s.samples.freqScaleReady = 1 && s.cmdBuf.autoScale = 1

/-- The part of the algorithm that `freq_scale_rate_limit_up` admits. -/
def scaleUp : FreqState :=
  let index := s.samples.freqScaleIndex
  let above := s.samples.average > s.level.maximum
  let s := if above ∧ index < NSS_FREQ_MAX_SCALE - 1 then
      let s := (s.setIndex (index + 1)).setReady 0
      (nssFreqQueueWork alloc s).getD (s.setIndex (s.samples.freqScaleIndex - 1))
    else s
  let s := if above then s.setRateDown 0 else s
  s.setRateUp 0

/-- The part that `freq_scale_rate_limit_down` admits. -/
def scaleDown : FreqState :=
  let index := s.samples.freqScaleIndex
  let s := if s.samples.average < s.level.minimum ∧ index > 0 then
      let s := (s.setIndex (index - 1)).setReady 0
      (nssFreqQueueWork alloc s).getD (s.setIndex (s.samples.freqScaleIndex + 1))
    else s
  s.setRateDown 0

def scale : FreqState :=
  let up := s.samples.freqScaleRateLimitUp
  let s := s.setRateUp (up + 1)
  if up ≥ NSS_FREQUENCY_SCALE_RATE_LIMIT_UP then scaleUp alloc s
  else
    let down := s.samples.freqScaleRateLimitDown
    let s := s.setRateDown (down + 1)
    if down ≥ NSS_FREQUENCY_SCALE_RATE_LIMIT_DOWN then scaleDown alloc s else s

/-- Up to the point where the scaling decision is taken. -/
def sampled : FreqState := updateAverage (pushSample sample s)

def nssFreqHandleCoreStats : FreqState :=
  if !accepts s then s
  else if (pushSample sample s).samples.sampleCount < NSS_SAMPLE_BUFFER_SIZE then
    fillRing (pushSample sample s)
  else if !mayScale (sampled sample s) then sampled sample s
  else scale alloc (sampled sample s)

end CoreStats

def nssResetFrequencyStatsSamples (s : FreqState) : FreqState :=
  { s with
    samples := { s.samples with
      bufferIndex := 0
      sum := 0
      average := 0
      sampleCount := 0
      messageRateLimit := 0
      freqScaleRateLimitDown := 0 } }

section Sysctl
variable (alloc : Bool) (s : FreqState)

def found : Bool :=
  (List.range NSS_FREQ_MAX_SCALE.toNat).any fun i =>
    (s.samples.freqScale i).frequency = s.cmdBuf.currentFreq

/-- `stored` is the number that `proc_dointvec` has read, if the text is one;
    the handler goes on either way. -/
def nssCurrentFreqHandler (stored : Option U32) : FreqState :=
  let s := s.setCurrentFreq (stored.getD s.cmdBuf.currentFreq)
  if !found s then s
  else
    let s := (s.setAutoScale 0).setReady 0
    if !alloc then s
    else (nssResetFrequencyStatsSamples s).queueWork ⟨s.cmdBuf.currentFreq, 0⟩

/-- Tells the NSS to stop its statistics if scaling is on. -/
def autoScaleOff : FreqState :=
  if s.samples.freqScaleReady ≠ 0 then
    let s := s.setCurrentFreq s.level.frequency
    if !alloc then s
    else nssResetFrequencyStatsSamples
      ((s.queueWork ⟨s.cmdBuf.currentFreq, 0⟩).setReady 0)
  else s

def autoScaleOn : FreqState :=
  if s.samples.freqScaleReady = 1 then s
  else
    let s := s.setIndex 1
    let s := s.setCurrentFreq s.level.frequency
    if !alloc then s
    else ((s.queueWork ⟨s.cmdBuf.currentFreq, 1⟩).setAutoScale 0).setReady 1

def nssAutoScaleHandler (stored : Option U32) : FreqState :=
  let s := s.setAutoScale (stored.getD s.cmdBuf.autoScale)
  if s.cmdBuf.autoScale ≠ 1 then autoScaleOff alloc s else autoScaleOn alloc s

/-- `nss_wq_function` for the oldest work, with every message sent. -/
def nssWqFunction : FreqState :=
  match s.nssWq with
  | [] => s
  | w :: rest => { s with nssWq := rest, told := some w.statsEnable }

end Sysctl

inductive FreqEvent where
  | coreStats (sample : U32) (alloc : Bool)
  | ack (ack : U32)
  | currentFreq (stored : Option U32) (alloc : Bool)
  | autoScale (stored : Option U32) (alloc : Bool)
  | work

def handle (s : FreqState) : FreqEvent → FreqState
  | .coreStats sample alloc => nssFreqHandleCoreStats sample alloc s
  | .ack ack => nssFreqHandleAck ack s
  | .currentFreq stored alloc => nssCurrentFreqHandler alloc s stored
  | .autoScale stored alloc => nssAutoScaleHandler alloc s stored
  | .work => nssWqFunction s

/-- What `nss_init` sets, and the zeros of static memory. -/
structure Boot (s : FreqState) : Prop where
  index : s.samples.freqScaleIndex = 1
  ready : s.samples.freqScaleReady = 0
  rateUp : s.samples.freqScaleRateLimitUp = 0
  rateDown : s.samples.freqScaleRateLimitDown = 0
  buffer : ∀ i, s.samples.buffer i = 0
  bufferIndex : s.samples.bufferIndex = 0
  sum : s.samples.sum = 0
  sampleCount : s.samples.sampleCount = 0
  average : s.samples.average = 0
  messageRateLimit : s.samples.messageRateLimit = 0
  initialized : s.samples.initialized = 0
  currentFreq : s.cmdBuf.currentFreq = s.level.frequency
  autoScale : s.cmdBuf.autoScale = 0
  nssWq : s.nssWq = []
  told : s.told = none

/-- The levels 110, 275 and 550 MHz with the ranges that the HAL gives them. -/
def scales : ℕ → NssScaleInfo
  | 0 => ⟨110000000, 0x3000, 0x7000⟩
  | 1 => ⟨275000000, 0x3000, 0x7000⟩
  | _ => ⟨550000000, 0x7000, 0x8000⟩

def bootState : FreqState where
  samples := {
    freqScale := scales
    freqScaleIndex := 1
    freqScaleReady := 0
    freqScaleRateLimitUp := 0
    freqScaleRateLimitDown := 0
    buffer := fun _ => 0
    bufferIndex := 0
    sum := 0
    sampleCount := 0
    average := 0
    messageRateLimit := 0
    initialized := 0 }
  cmdBuf := ⟨275000000, 0⟩
  nssWq := []
  told := none

theorem bootState_boot : Boot bootState := by
  constructor <;> intros <;> rfl

end NssDrv.FrequencyScaling

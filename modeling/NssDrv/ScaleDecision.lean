import NssDrv.FrequencyScaling

set_option autoImplicit false

/-!
# One scaling decision

A decision names at most one neighbouring level. It moves there where the work
can be queued, and otherwise only clears the ready flag.
-/
namespace NssDrv.ScaleDecision
open HlosInterface FrequencyScaling

/-- The index is stepped before the work is queued, and stepped back if it is not. -/
def move (alloc : Bool) (index : U32) (s : FreqState) : FreqState :=
  if alloc then
    (((s.setIndex index).setReady 0).setCurrentFreq (s.setIndex index).level.frequency).queueWork
      ⟨(s.setIndex index).level.frequency, 1⟩
  else s.setReady 0

section Decision
variable (s : FreqState)

def upDue : Bool := s.samples.freqScaleRateLimitUp ≥ NSS_FREQUENCY_SCALE_RATE_LIMIT_UP
def downDue : Bool := s.samples.freqScaleRateLimitDown ≥ NSS_FREQUENCY_SCALE_RATE_LIMIT_DOWN
def above : Bool := s.samples.average > s.level.maximum
def below : Bool := s.samples.average < s.level.minimum

def destination : Option U32 :=
  if upDue s then
    if above s && s.samples.freqScaleIndex < NSS_FREQ_MAX_SCALE - 1 then
      some (s.samples.freqScaleIndex + 1) else none
  else if downDue s && below s && s.samples.freqScaleIndex > 0 then
    some (s.samples.freqScaleIndex - 1) else none

def rateUpAfter : U32 := if upDue s then 0 else s.samples.freqScaleRateLimitUp + 1

def rateDownAfter : U32 :=
  if upDue s then if above s then 0 else s.samples.freqScaleRateLimitDown
  else if downDue s then 0 else s.samples.freqScaleRateLimitDown + 1

end Decision

variable {s : FreqState} {alloc : Bool} {sample : U32}

theorem move_up :
    (nssFreqQueueWork alloc ((s.setIndex (s.samples.freqScaleIndex + 1)).setReady 0)).getD
        (((s.setIndex (s.samples.freqScaleIndex + 1)).setReady 0).setIndex
          (s.samples.freqScaleIndex + 1 - 1)) =
      move alloc (s.samples.freqScaleIndex + 1) s := by
  cases alloc with
  | true => rfl
  | false =>
    rw [BitVec.add_sub_cancel]
    rfl

theorem move_down :
    (nssFreqQueueWork alloc ((s.setIndex (s.samples.freqScaleIndex - 1)).setReady 0)).getD
        (((s.setIndex (s.samples.freqScaleIndex - 1)).setReady 0).setIndex
          (s.samples.freqScaleIndex - 1 + 1)) =
      move alloc (s.samples.freqScaleIndex - 1) s := by
  cases alloc with
  | true => rfl
  | false =>
    rw [BitVec.sub_add_cancel]
    rfl

theorem move_setRateUp (u i : U32) :
    move alloc i (s.setRateUp u) = (move alloc i s).setRateUp u := by
  cases alloc <;> rfl

theorem move_setRateDown (d i : U32) :
    move alloc i (s.setRateDown d) = (move alloc i s).setRateDown d := by
  cases alloc <;> rfl

theorem scaleUp_eq :
    scaleUp alloc s =
      (((if above s && s.samples.freqScaleIndex < NSS_FREQ_MAX_SCALE - 1 then
          move alloc (s.samples.freqScaleIndex + 1) s else s).setRateDown
        (if above s then 0 else s.samples.freqScaleRateLimitDown)).setRateUp 0) := by
  rw [← move_up]
  by_cases habove : s.samples.average > s.level.maximum
  · by_cases hroom : s.samples.freqScaleIndex < NSS_FREQ_MAX_SCALE - 1
    · simp only [scaleUp, above, habove, hroom]
      rfl
    · simp only [scaleUp, above, habove, hroom]
      rfl
  · simp only [scaleUp, above, habove]
    rfl

theorem scaleDown_eq :
    scaleDown alloc s =
      (if below s && s.samples.freqScaleIndex > 0 then
        move alloc (s.samples.freqScaleIndex - 1) s else s).setRateDown 0 := by
  rw [← move_down]
  by_cases hbelow : s.samples.average < s.level.minimum
  · by_cases hroom : s.samples.freqScaleIndex > 0
    · simp only [scaleDown, below, hbelow, hroom]
      rfl
    · simp only [scaleDown, below, hbelow, hroom]
      rfl
  · simp only [scaleDown, below, hbelow]
    rfl

theorem scaleUp_setRateUp (u : U32) : scaleUp alloc (s.setRateUp u) = scaleUp alloc s := by
  have hgoal : scaleUp alloc (s.setRateUp u) =
      (((if above s && s.samples.freqScaleIndex < NSS_FREQ_MAX_SCALE - 1 then
          move alloc (s.samples.freqScaleIndex + 1) (s.setRateUp u) else s.setRateUp u).setRateDown
        (if above s then 0 else s.samples.freqScaleRateLimitDown)).setRateUp 0) := scaleUp_eq
  rw [hgoal, scaleUp_eq, move_setRateUp, ← apply_ite (FreqState.setRateUp u)]
  rfl

theorem scaleDown_setRates (u d : U32) :
    scaleDown alloc ((s.setRateUp u).setRateDown d) = (scaleDown alloc s).setRateUp u := by
  have hgoal : scaleDown alloc ((s.setRateUp u).setRateDown d) =
      (if below s && s.samples.freqScaleIndex > 0 then
        move alloc (s.samples.freqScaleIndex - 1) ((s.setRateUp u).setRateDown d)
        else (s.setRateUp u).setRateDown d).setRateDown 0 := scaleDown_eq
  rw [hgoal, scaleDown_eq, move_setRateDown, move_setRateUp,
    ← apply_ite (FreqState.setRateDown d), ← apply_ite (FreqState.setRateUp u)]
  rfl

theorem elim_guarded (b : Bool) (i : U32) :
    ((if b then some i else none).elim s fun i => move alloc i s) =
      if b then move alloc i s else s := by
  cases b <;> rfl

theorem scale_eq :
    scale alloc s =
      (((destination s).elim s fun i => move alloc i s).setRateDown (rateDownAfter s)).setRateUp
        (rateUpAfter s) := by
  rw [destination, rateUpAfter, rateDownAfter]
  by_cases hup : s.samples.freqScaleRateLimitUp ≥ NSS_FREQUENCY_SCALE_RATE_LIMIT_UP
  · have hdue : upDue s = true := decide_eq_true hup
    rw [scale, if_pos hup, scaleUp_setRateUp, scaleUp_eq, if_pos hdue, if_pos hdue, if_pos hdue,
      elim_guarded]
  · have hdue : upDue s = false := decide_eq_false hup
    rw [scale, if_neg hup, hdue, if_neg Bool.false_ne_true, if_neg Bool.false_ne_true,
      if_neg Bool.false_ne_true, elim_guarded]
    by_cases hdown : s.samples.freqScaleRateLimitDown ≥ NSS_FREQUENCY_SCALE_RATE_LIMIT_DOWN
    · have hdownDue : downDue s = true := decide_eq_true hdown
      rw [hdownDue]
      refine Eq.trans (if_pos hdown) ?_
      rw [scaleDown_setRates, scaleDown_eq, Bool.true_and]
      rfl
    · have hdownDue : downDue s = false := decide_eq_false hdown
      rw [hdownDue]
      exact if_neg hdown

/-- The sample is accepted, the ring is full and scaling is on. -/
def Decides (sample : U32) (s : FreqState) : Prop :=
  accepts s ∧ ¬ s.samples.sampleCount < NSS_SAMPLE_BUFFER_SIZE ∧ mayScale (sampled sample s)

instance : Decidable (Decides sample s) := inferInstanceAs (Decidable (_ ∧ _ ∧ _))

theorem coreStats_decided (h : Decides sample s) :
    nssFreqHandleCoreStats sample alloc s = scale alloc (sampled sample s) := by
  have hfull : ¬ (pushSample sample s).samples.sampleCount < NSS_SAMPLE_BUFFER_SIZE := h.2.1
  rw [nssFreqHandleCoreStats, h.1, Bool.not_true, if_neg Bool.false_ne_true, if_neg hfull, h.2.2,
    Bool.not_true, if_neg Bool.false_ne_true]

variable (alloc) in
/-- Without a decision the sample is dropped, fills the ring or moves the average. -/
theorem coreStats_undecided (h : ¬ Decides sample s) :
    nssFreqHandleCoreStats sample alloc s = s ∨
      (s.samples.sampleCount < NSS_SAMPLE_BUFFER_SIZE ∧
        nssFreqHandleCoreStats sample alloc s = fillRing (pushSample sample s)) ∨
      nssFreqHandleCoreStats sample alloc s = sampled sample s := by
  rw [nssFreqHandleCoreStats]
  cases haccepts : accepts s with
  | false => exact .inl rfl
  | true =>
    rw [Bool.not_true, if_neg Bool.false_ne_true]
    by_cases hlt : s.samples.sampleCount < NSS_SAMPLE_BUFFER_SIZE
    · exact .inr (.inl ⟨hlt, if_pos hlt⟩)
    · have hidle : mayScale (sampled sample s) = false := by
        rw [← Bool.not_eq_true]
        exact fun hscale => h ⟨haccepts, hlt, hscale⟩
      refine .inr (.inr (Eq.trans (if_neg hlt) ?_))
      rw [hidle]
      rfl

end NssDrv.ScaleDecision

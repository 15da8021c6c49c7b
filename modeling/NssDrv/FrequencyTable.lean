import NssDrv.CoreProbe

set_option autoImplicit false

/-!
# The table of frequencies

What the device node, the queries of the clock and the ranges leave in the table
that the probes share.
-/
namespace NssDrv.FrequencyTable
open HlosInterface EarlyExit CoreProbe
open FrequencyScaling (NssScaleInfo)

section Table
variable {npd : Platform} {table other : FreqTable} {k : Kernel} {s : ProbeState}

def property (npd : Platform) (i : ℕ) : Option U32 :=
  if i = NSS_FREQ_LOW_SCALE then npd.lowFrequency
  else if i = NSS_FREQ_MID_SCALE then npd.midFrequency
  else if i = NSS_FREQ_HIGH_SCALE then npd.maxFrequency
  else none

theorem readFrequency_self {i : ℕ} {f : Option U32} :
    (readFrequency i f table i).frequency = f.getD (table i).frequency := by
  cases f with
  | none => rfl
  | some f =>
    change (Function.update table i _ i).frequency = f
    rw [Function.update_self]

theorem readFrequency_other {i j : ℕ} {f : Option U32} (h : j ≠ i) :
    readFrequency i f table j = table j := by
  cases f with
  | none => rfl
  | some f => exact Function.update_of_ne h _ _

theorem frequency_read {i : ℕ} (hi : i ∈ scales) :
    (readFrequencies npd table i).frequency =
      (property npd i).getD (table i).frequency := by
  have hcases : i = NSS_FREQ_LOW_SCALE ∨ i = NSS_FREQ_MID_SCALE ∨ i = NSS_FREQ_HIGH_SCALE := by
    simpa [scales] using hi
  unfold readFrequencies
  rcases hcases with rfl | rfl | rfl
  · rw [readFrequency_other (by decide), readFrequency_other (by decide)]
    exact readFrequency_self
  · rw [readFrequency_other (by decide)]
    rw [readFrequency_self, readFrequency_other (by decide)]
    rfl
  · rw [readFrequency_self, readFrequency_other (by decide), readFrequency_other (by decide)]
    rfl

theorem frequency_ranges {i : ℕ} : (setupRanges table i).frequency = (table i).frequency := by
  unfold setupRanges
  split
  · split <;> rfl
  · rfl

def SameScales (table other : FreqTable) : Prop :=
  ∀ i ∈ scales, (table i).frequency = (other i).frequency

theorem SameScales.given (h : SameScales table other) : tableGiven table = tableGiven other := by
  unfold tableGiven
  simp only [scales, List.all_cons, List.all_nil, Bool.and_true]
  rw [h _ (by decide), h _ (by decide), h _ (by decide)]

theorem SameScales.known (h : SameScales table other) : tableKnown table = tableKnown other := by
  unfold tableKnown
  simp only [scales, List.all_cons, List.all_nil, Bool.and_true]
  rw [h _ (by decide), h _ (by decide), h _ (by decide)]

theorem read_again : SameScales (readFrequencies npd (readFrequencies npd table))
    (readFrequencies npd table) := by
  intro i hi
  rw [frequency_read hi, frequency_read hi]
  cases property npd i <;> rfl

theorem same_ranges : SameScales (setupRanges table) table := fun _ _ => frequency_ranges

def queryWorks (npd : Platform) (k : Kernel) : Bool :=
  k.setRate NSS_FREQ_110 &&
    if npd.turboFrequency then
      (k.setRate NSS_FREQ_600 || k.setRate NSS_FREQ_550) &&
        (k.setRate NSS_FREQ_800 || k.setRate NSS_FREQ_733)
    else k.setRate NSS_FREQ_275 && k.setRate NSS_FREQ_550

def Known (f : U32) : Prop := f ≠ 0 ∧ (frequencyRange f).isSome = true

/-- The query for scale `i` answers `b`, and leaves a known frequency where it does. -/
def Sets (i : ℕ) (p : Walk Bool) (b : Bool) : Prop :=
  ∀ s, ∃ t, p s = .ok b { s with freqScale := t } ∧ (∀ j ≠ i, t j = s.freqScale j) ∧
    (b = true → Known (t i).frequency)

theorem sets_tryRate {i : ℕ} {f : U32} (hf : Known f) :
    Sets i (tryRate k i f) (k.setRate f) := by
  intro s
  cases h : k.setRate f with
  | false =>
    refine ⟨s.freqScale, ?_, fun _ _ => rfl, nofun⟩
    simp only [tryRate, h]
    rfl
  | true =>
    refine ⟨setFrequency i f s.freqScale, ?_, fun j hj => Function.update_of_ne hj _ _, fun _ => ?_⟩
    · simp only [tryRate, h]
      rfl
    · unfold setFrequency
      rw [Function.update_self]
      exact hf

theorem Sets.or {i : ℕ} {p q : Walk Bool} {b c : Bool} (hp : Sets i p b) (hq : Sets i q c) :
    Sets i (p <||> q) (b || c) := by
  intro s
  obtain ⟨t, hok, hother, hknown⟩ := hp s
  cases b with
  | true => exact ⟨t, (or_ok hok).trans rfl, hother, hknown⟩
  | false =>
    obtain ⟨u, hok', hother', hknown'⟩ := hq { s with freqScale := t }
    exact ⟨u, ((or_ok hok).trans (if_neg nofun)).trans hok',
      fun j hj => (hother' j hj).trans (hother j hj), hknown'⟩

theorem usable_of_known (h : ∀ i ∈ scales, Known (table i).frequency) :
    tableGiven table = true ∧ tableKnown table = true := by
  constructor
  · unfold tableGiven
    simpa using fun i hi => (h i hi).1
  · unfold tableKnown
    rw [List.all_eq_true]
    exact fun i hi => (h i hi).2

theorem Sets.all {p q r : Walk Bool} {b c d : Bool} (hlow : Sets NSS_FREQ_LOW_SCALE p b)
    (hmid : Sets NSS_FREQ_MID_SCALE q c) (hhigh : Sets NSS_FREQ_HIGH_SCALE r d) :
    ∃ t, (p <&&> q <&&> r) s = .ok (b && (c && d)) { s with freqScale := t } ∧
      ((b && (c && d)) = true → tableGiven t = true ∧ tableKnown t = true) := by
  obtain ⟨t₁, hok₁, -, hknown₁⟩ := hlow s
  cases b with
  | false => exact ⟨t₁, (and_ok hok₁).trans rfl, nofun⟩
  | true =>
    obtain ⟨t₂, hok₂, hother₂, hknown₂⟩ := hmid { s with freqScale := t₁ }
    cases c with
    | false => exact ⟨t₂, ((and_ok hok₁).trans (if_pos rfl)).trans ((and_ok hok₂).trans rfl), nofun⟩
    | true =>
      obtain ⟨t₃, hok₃, hother₃, hknown₃⟩ := hhigh { s with freqScale := t₂ }
      refine ⟨t₃, ((and_ok hok₁).trans (if_pos rfl)).trans
        (((and_ok hok₂).trans (if_pos rfl)).trans hok₃), fun hd => usable_of_known ?_⟩
      have hlow : t₃ NSS_FREQ_LOW_SCALE = t₁ NSS_FREQ_LOW_SCALE :=
        (hother₃ _ (by decide)).trans (hother₂ _ (by decide))
      have hmid : t₃ NSS_FREQ_MID_SCALE = t₂ NSS_FREQ_MID_SCALE := hother₃ _ (by decide)
      simp only [scales, List.forall_mem_cons, List.not_mem_nil, false_implies, implies_true,
        and_true]
      rw [hlow, hmid]
      exact ⟨hknown₁ rfl, hknown₂ rfl, hknown₃ hd⟩

theorem queryFrequencies_eq : ∃ t, queryFrequencies npd k s =
    .ok (queryWorks npd k) { s with freqScale := t } ∧
      (queryWorks npd k = true → tableGiven t = true ∧ tableKnown t = true) := by
  have hlow : Sets NSS_FREQ_LOW_SCALE (tryRate k NSS_FREQ_LOW_SCALE NSS_FREQ_110)
      (k.setRate NSS_FREQ_110) := sets_tryRate ⟨by decide, rfl⟩
  unfold queryFrequencies queryWorks
  cases npd.turboFrequency with
  | false => exact hlow.all (sets_tryRate ⟨by decide, rfl⟩) (sets_tryRate ⟨by decide, rfl⟩)
  | true =>
    exact hlow.all ((sets_tryRate ⟨by decide, rfl⟩).or (sets_tryRate ⟨by decide, rfl⟩))
      ((sets_tryRate ⟨by decide, rfl⟩).or (sets_tryRate ⟨by decide, rfl⟩))

theorem same_refl : SameScales table table := fun _ _ => rfl

/-- The frequencies of the table are the driver's own. -/
def AllKnown (table : FreqTable) : Prop := ∀ i ∈ scales, Known (table i).frequency

theorem given_read (h : AllKnown table) :
    tableGiven (readFrequencies npd table) = true ↔ ∀ i ∈ scales, property npd i ≠ some 0 := by
  unfold tableGiven
  rw [List.all_eq_true]
  refine forall₂_congr fun i hi => ?_
  rw [frequency_read hi]
  cases property npd i with
  | none => simpa using (h i hi).1
  | some f => simp

theorem known_read (h : AllKnown table)
    (hgiven : ∀ i ∈ scales, property npd i ≠ some 0) :
    tableKnown (readFrequencies npd table) = true ↔
      ∀ i ∈ scales, ∀ f, property npd i = some f → Known f := by
  unfold tableKnown
  rw [List.all_eq_true]
  refine forall₂_congr fun i hi => ?_
  rw [frequency_read hi]
  cases hf : property npd i with
  | none => simpa using (h i hi).2
  | some f =>
    have hne : f ≠ 0 := fun h0 => hgiven i hi (hf.trans (congrArg some h0))
    constructor
    · rintro hknown g ⟨⟩
      exact ⟨hne, hknown⟩
    · exact fun hall => (hall f rfl).2

theorem allKnown (hgiven : tableGiven table = true)
    (hknown : tableKnown table = true) : AllKnown table := by
  intro i hi
  have hne := List.all_eq_true.mp hgiven i hi
  exact ⟨by simpa using hne, List.all_eq_true.mp hknown i hi⟩

theorem AllKnown.ranges (h : AllKnown table) :
    AllKnown (setupRanges table) := by
  intro i hi
  rw [frequency_ranges]
  exact h i hi

end Table

end NssDrv.FrequencyTable

import NssDrv.ScaleDecision
import NssDrv.TransitionRuns

set_option autoImplicit false

/-!
# The frequency that is shown

`current_freq` is what user space wrote last until a handler changes it. Here it is
compared with the frequency of the work that was queued last, and a write that
leads to no work with the state before it.
-/
namespace NssDrv.FrequencyChanges
open HlosInterface FrequencyScaling ScaleDecision TransitionRuns

/-- The frequency of the last work that a step has queued. -/
def lastQueued (s s' : FreqState) (last : U32) : U32 :=
  ((s'.nssWq.drop s.nssWq.length).getLast?.map NssWork.frequency).getD last

/-- With the frequency of the last change that was queued, or at boot. -/
structure FreqRun where
  state : FreqState
  last : U32

def FreqRun.handle (r : FreqRun) (e : FreqEvent) : FreqRun :=
  ⟨FrequencyScaling.handle r.state e,
    lastQueued r.state (FrequencyScaling.handle r.state e) r.last⟩

def FreqRun.boot (s : FreqState) : FreqRun := ⟨s, s.cmdBuf.currentFreq⟩

section Writes
variable (s : FreqState)

/-- The write of a frequency that the table has. -/
def inTable (stored : Option U32) : Bool :=
  found (s.setCurrentFreq (stored.getD s.cmdBuf.currentFreq))

/-- The write is to change the frequency, or whether the NSS sends statistics. -/
def asksChange : FreqEvent → Prop
  | .currentFreq stored _ => inTable s stored = true
  | .autoScale stored _ =>
    if stored.getD s.cmdBuf.autoScale ≠ 1 then s.samples.freqScaleReady ≠ 0
    else s.samples.freqScaleReady ≠ 1
  | _ => False

def rejected : FreqEvent → Prop
  | .currentFreq stored _ => inTable s stored = false
  | _ => False

/-- There was no memory for the work. -/
def unqueued (e : FreqEvent) : Prop := asksChange s e ∧ match e with
  | .currentFreq _ alloc => alloc = false
  | .autoScale _ alloc => alloc = false
  | _ => False

end Writes

/-- `nss_cmd_buf` and `nss_runtime_samples` are as they were. -/
structure Unchanged (s s' : FreqState) : Prop where
  cmdBuf : s'.cmdBuf = s.cmdBuf
  samples : s'.samples = s.samples

/-- What is shown is what was queued, and a write that failed has no effect. -/
structure Faithful (r : FreqRun) (e : FreqEvent) : Prop where
  shown : (r.handle e).state.cmdBuf.currentFreq = (r.handle e).last
  kept : rejected r.state e ∨ unqueued r.state e → Unchanged r.state (r.handle e).state

def Harmless (r : FreqRun) : FreqEvent → Prop
  | .currentFreq stored alloc =>
    let f := stored.getD r.state.cmdBuf.currentFreq
    if inTable r.state stored then
      alloc = true ∨ f = r.state.cmdBuf.currentFreq ∧ r.state.cmdBuf.autoScale = 0 ∧
        r.state.samples.freqScaleReady = 0
    else f = r.state.cmdBuf.currentFreq
  | .autoScale stored alloc =>
    let v := stored.getD r.state.cmdBuf.autoScale
    if v ≠ 1 then
      alloc = true ∨ r.state.samples.freqScaleReady = 0 ∨
        v = r.state.cmdBuf.autoScale ∧ r.state.level.frequency = r.state.cmdBuf.currentFreq
    else
      alloc = true ∨ r.state.samples.freqScaleReady = 1 ∨
        v = r.state.cmdBuf.autoScale ∧ r.state.samples.freqScaleIndex = 1 ∧
          r.state.level.frequency = r.state.cmdBuf.currentFreq
  | _ => True

section Steps
variable {s s' : FreqState} {w : NssWork} {f : U32} {alloc : Bool}

theorem lastQueued_same (h : s'.nssWq = s.nssWq) : lastQueued s s' f = f := by
  unfold lastQueued
  rw [h, List.drop_length]
  rfl

theorem lastQueued_append (h : s'.nssWq = s.nssWq ++ [w]) : lastQueued s s' f = w.frequency := by
  unfold lastQueued
  rw [h, List.drop_left]
  rfl

theorem lastQueued_work : lastQueued s (nssWqFunction s) f = f := by
  have hdrop : (nssWqFunction s).nssWq.drop s.nssWq.length = [] := by
    unfold nssWqFunction
    split
    · rename_i hempty
      exact List.drop_length
    · rename_i w rest hqueue
      rw [hqueue]
      exact List.drop_eq_nil_of_le (Nat.le_succ rest.length)
  unfold lastQueued
  rw [hdrop]
  rfl

/-- No step but a write that fails touches the frequency without queueing it. -/
inductive Shown (s s' : FreqState) : Prop where
  | same (queue : s'.nssWq = s.nssWq) (freq : s'.cmdBuf.currentFreq = s.cmdBuf.currentFreq)
  | queued (w : NssWork) (queue : s'.nssWq = s.nssWq ++ [w])
      (freq : s'.cmdBuf.currentFreq = w.frequency)

theorem Shown.last (h : Shown s s') (hs : s.cmdBuf.currentFreq = f) :
    s'.cmdBuf.currentFreq = lastQueued s s' f := by
  cases h with
  | same queue freq => rw [lastQueued_same queue, freq, hs]
  | queued w queue freq => rw [lastQueued_append queue, freq]

theorem Unchanged.shown (h : Unchanged s s') (hqueue : s'.nssWq = s.nssWq) : Shown s s' :=
  .same hqueue (by rw [h.cmdBuf])

theorem move_shown (i : U32) : Shown s (move alloc i s) := by
  cases alloc with
  | true => exact .queued _ rfl rfl
  | false => exact .same rfl rfl

theorem fillRing_shown : Shown s (fillRing s) := by
  unfold fillRing
  dsimp only
  split
  · exact .same rfl rfl
  · exact .same rfl rfl

theorem Shown.rates (h : Shown s s') (d u : U32) : Shown s ((s'.setRateDown d).setRateUp u) := by
  cases h with
  | same queue freq => exact .same queue freq
  | queued w queue freq => exact .queued w queue freq

theorem coreStats_shown (sample : U32) (alloc : Bool) (s : FreqState) :
    Shown s (nssFreqHandleCoreStats sample alloc s) := by
  by_cases hdecides : Decides sample s
  · rw [coreStats_decided hdecides, scale_eq]
    refine Shown.rates ?_ _ _
    have hsampled : ∀ t, Shown (sampled sample s) t → Shown s t := by
      rintro t (⟨queue, freq⟩ | ⟨w, queue, freq⟩)
      · exact .same queue freq
      · exact .queued w queue freq
    apply hsampled
    cases destination (sampled sample s) with
    | none => exact .same rfl rfl
    | some i => exact move_shown i
  · rcases coreStats_undecided alloc hdecides with heq | ⟨-, heq⟩ | heq
    · rw [heq]
      exact .same rfl rfl
    · rw [heq]
      cases fillRing_shown (s := pushSample sample s) with
      | same queue freq => exact .same queue freq
      | queued w queue freq => exact .queued w queue freq
    · rw [heq]
      exact .same rfl rfl

end Steps

section Writes
variable {r : FreqRun} {e : FreqEvent} {stored : Option U32} {alloc : Bool}

theorem cmdBuf_eq {c d : NssCmdBuffer} (hfreq : c.currentFreq = d.currentFreq)
    (hauto : c.autoScale = d.autoScale) : c = d := by
  cases c
  cases d
  rw [NssCmdBuffer.mk.injEq]
  exact ⟨hfreq, hauto⟩

theorem faithful_failed (hshown : r.state.cmdBuf.currentFreq = r.last)
    (hqueue : (r.handle e).state.nssWq = r.state.nssWq)
    (hfailed : rejected r.state e ∨ unqueued r.state e) :
    Faithful r e ↔ Unchanged r.state (r.handle e).state := by
  constructor
  · intro hfaithful
    exact hfaithful.kept hfailed
  · intro hsame
    exact ⟨(hsame.shown hqueue).last hshown, fun _ => hsame⟩

theorem faithful_done (hshown : r.state.cmdBuf.currentFreq = r.last)
    (h : Shown r.state (r.handle e).state) (hnot : ¬ rejected r.state e)
    (hdone : ¬ unqueued r.state e) : Faithful r e :=
  ⟨h.last hshown, fun hfailed => absurd hfailed (not_or.mpr ⟨hnot, hdone⟩)⟩

theorem currentFreq_iff (hshown : r.state.cmdBuf.currentFreq = r.last) :
    Faithful r (.currentFreq stored alloc) ↔ Harmless r (.currentFreq stored alloc) := by
  unfold Harmless
  dsimp only
  cases htable : inTable r.state stored with
  | false =>
    have hstate : (r.handle (.currentFreq stored alloc)).state =
        r.state.setCurrentFreq (stored.getD r.state.cmdBuf.currentFreq) := by
      change nssCurrentFreqHandler alloc r.state stored = _
      unfold nssCurrentFreqHandler
      dsimp only
      rw [show found _ = false from htable]
      rfl
    have hfailed : rejected r.state (.currentFreq stored alloc) := htable
    rw [if_neg Bool.false_ne_true, faithful_failed hshown (by rw [hstate]; rfl) (.inl hfailed),
      hstate]
    constructor
    · intro hsame
      exact congrArg NssCmdBuffer.currentFreq hsame.cmdBuf
    · intro hfreq
      rw [hfreq]
      exact ⟨rfl, rfl⟩
  | true =>
    rw [if_pos rfl]
    have hstate : (r.handle (.currentFreq stored alloc)).state =
        if !alloc then ((r.state.setCurrentFreq
          (stored.getD r.state.cmdBuf.currentFreq)).setAutoScale 0).setReady 0
        else (nssResetFrequencyStatsSamples (((r.state.setCurrentFreq
          (stored.getD r.state.cmdBuf.currentFreq)).setAutoScale 0).setReady 0)).queueWork
            ⟨stored.getD r.state.cmdBuf.currentFreq, 0⟩ := by
      change nssCurrentFreqHandler alloc r.state stored = _
      unfold nssCurrentFreqHandler
      dsimp only
      rw [show found _ = true from htable]
      rfl
    have hnot : ¬ rejected r.state (.currentFreq stored alloc) := by
      intro hrejected
      rw [show inTable r.state stored = false from hrejected] at htable
      cases htable
    cases alloc with
    | true =>
      refine iff_of_true (faithful_done hshown ?_ hnot fun hun => ?_) (.inl rfl)
      · rw [hstate]
        exact .queued _ rfl rfl
      · cases hun.2
    | false =>
      have hfailed : unqueued r.state (.currentFreq stored false) := ⟨htable, rfl⟩
      rw [faithful_failed hshown (by rw [hstate]; rfl) (.inr hfailed), hstate]
      constructor
      · rintro ⟨hcmd, hsamples⟩
        exact .inr ⟨congrArg NssCmdBuffer.currentFreq hcmd,
          (congrArg NssCmdBuffer.autoScale hcmd).symm,
          (congrArg NssRuntimeSampling.freqScaleReady hsamples).symm⟩
      · rintro (h | ⟨hfreq, hauto, hready⟩)
        · cases h
        · refine ⟨cmdBuf_eq hfreq hauto.symm, ?_⟩
          change { r.state.samples with freqScaleReady := 0 } = _
          rw [← hready]

theorem off_iff (hshown : r.state.cmdBuf.currentFreq = r.last)
    (hoff : stored.getD r.state.cmdBuf.autoScale ≠ 1) :
    Faithful r (.autoScale stored alloc) ↔ Harmless r (.autoScale stored alloc) := by
  unfold Harmless
  dsimp only
  rw [if_pos hoff]
  have hstate : (r.handle (.autoScale stored alloc)).state =
      autoScaleOff alloc (r.state.setAutoScale (stored.getD r.state.cmdBuf.autoScale)) :=
    if_pos hoff
  have hasks : asksChange r.state (.autoScale stored alloc) ↔
      r.state.samples.freqScaleReady ≠ 0 := Iff.of_eq (if_pos hoff)
  by_cases hready : r.state.samples.freqScaleReady = 0
  · refine iff_of_true (faithful_done hshown ?_ not_false fun hun => ?_) (.inr (.inl hready))
    · have hidle : autoScaleOff alloc
          (r.state.setAutoScale (stored.getD r.state.cmdBuf.autoScale)) = _ :=
        if_neg (not_not.mpr hready)
      rw [hstate, hidle]
      exact .same rfl rfl
    · exact hasks.mp hun.1 hready
  · have hrun : (r.handle (.autoScale stored alloc)).state =
        if !alloc then (r.state.setAutoScale (stored.getD r.state.cmdBuf.autoScale)).setCurrentFreq
          r.state.level.frequency
        else nssResetFrequencyStatsSamples ((((r.state.setAutoScale
          (stored.getD r.state.cmdBuf.autoScale)).setCurrentFreq
            r.state.level.frequency).queueWork ⟨r.state.level.frequency, 0⟩).setReady 0) := by
      rw [hstate]
      exact if_pos hready
    cases alloc with
    | true =>
      refine iff_of_true (faithful_done hshown ?_ not_false fun hun => ?_) (.inl rfl)
      · rw [hrun]
        exact .queued _ rfl rfl
      · cases hun.2
    | false =>
      have hfailed : unqueued r.state (.autoScale stored false) := ⟨hasks.mpr hready, rfl⟩
      rw [faithful_failed hshown (by rw [hrun]; rfl) (.inr hfailed), hrun]
      constructor
      · rintro ⟨hcmd, -⟩
        exact .inr (.inr ⟨congrArg NssCmdBuffer.autoScale hcmd,
          congrArg NssCmdBuffer.currentFreq hcmd⟩)
      · rintro (h | h | ⟨hauto, hfreq⟩)
        · cases h
        · exact absurd h hready
        · exact ⟨cmdBuf_eq hfreq hauto, rfl⟩

theorem on_iff (hshown : r.state.cmdBuf.currentFreq = r.last)
    (hon : ¬ stored.getD r.state.cmdBuf.autoScale ≠ 1) :
    Faithful r (.autoScale stored alloc) ↔ Harmless r (.autoScale stored alloc) := by
  unfold Harmless
  dsimp only
  rw [if_neg hon]
  have hstate : (r.handle (.autoScale stored alloc)).state =
      autoScaleOn alloc (r.state.setAutoScale (stored.getD r.state.cmdBuf.autoScale)) :=
    if_neg hon
  have hasks : asksChange r.state (.autoScale stored alloc) ↔
      r.state.samples.freqScaleReady ≠ 1 := Iff.of_eq (if_neg hon)
  by_cases hready : r.state.samples.freqScaleReady = 1
  · refine iff_of_true (faithful_done hshown ?_ not_false fun hun => ?_) (.inr (.inl hready))
    · have hidle : autoScaleOn alloc
          (r.state.setAutoScale (stored.getD r.state.cmdBuf.autoScale)) = _ := if_pos hready
      rw [hstate, hidle]
      exact .same rfl rfl
    · exact hasks.mp hun.1 hready
  · have hrun : (r.handle (.autoScale stored alloc)).state =
        if !alloc then (((r.state.setAutoScale (stored.getD r.state.cmdBuf.autoScale)).setIndex
          1).setCurrentFreq (r.state.setIndex 1).level.frequency)
        else ((((((r.state.setAutoScale (stored.getD r.state.cmdBuf.autoScale)).setIndex
          1).setCurrentFreq (r.state.setIndex 1).level.frequency).queueWork
            ⟨(r.state.setIndex 1).level.frequency, 1⟩).setAutoScale 0).setReady 1) := by
      rw [hstate]
      exact if_neg hready
    cases alloc with
    | true =>
      refine iff_of_true (faithful_done hshown ?_ not_false fun hun => ?_) (.inl rfl)
      · rw [hrun]
        exact .queued _ rfl rfl
      · cases hun.2
    | false =>
      have hfailed : unqueued r.state (.autoScale stored false) := ⟨hasks.mpr hready, rfl⟩
      rw [faithful_failed hshown (by rw [hrun]; rfl) (.inr hfailed), hrun]
      constructor
      · rintro ⟨hcmd, hsamples⟩
        have hindex := congrArg NssRuntimeSampling.freqScaleIndex hsamples
        refine .inr (.inr ⟨congrArg NssCmdBuffer.autoScale hcmd, hindex.symm, ?_⟩)
        refine Eq.trans ?_ (congrArg NssCmdBuffer.currentFreq hcmd)
        unfold FreqState.level
        rw [← hindex]
        rfl
      · rintro (h | h | ⟨hauto, hindex, hfreq⟩)
        · cases h
        · exact absurd h hready
        · have hsamples : { r.state.samples with freqScaleIndex := 1 } = r.state.samples := by
            rw [← hindex]
          have hlevel : (r.state.setIndex 1).level = r.state.level := by
            unfold FreqState.level FreqState.setIndex
            rw [hsamples]
          exact ⟨cmdBuf_eq ((congrArg NssScaleInfo.frequency hlevel).trans hfreq) hauto, hsamples⟩

theorem faithful_iff (hshown : r.state.cmdBuf.currentFreq = r.last) :
    Faithful r e ↔ Harmless r e := by
  have htrue : ∀ e, Shown r.state (r.handle e).state → ¬ rejected r.state e →
      ¬ unqueued r.state e → Harmless r e → (Faithful r e ↔ Harmless r e) :=
    fun e h hnot hdone hok => iff_of_true (faithful_done hshown h hnot hdone) hok
  cases e with
  | coreStats sample alloc =>
    exact htrue _ (coreStats_shown sample alloc r.state) not_false (fun h => h.1) trivial
  | ack ack =>
    refine htrue _ ?_ not_false (fun h => h.1) trivial
    change Shown r.state (nssFreqHandleAck ack r.state)
    unfold nssFreqHandleAck
    split
    · exact .same rfl rfl
    · exact .same rfl rfl
  | currentFreq stored alloc => exact currentFreq_iff hshown
  | autoScale stored alloc =>
    by_cases hoff : stored.getD r.state.cmdBuf.autoScale ≠ 1
    · exact off_iff hshown hoff
    · exact on_iff hshown hoff
  | work =>
    refine iff_of_true ⟨?_, fun h => ?_⟩ trivial
    · change (nssWqFunction r.state).cmdBuf.currentFreq =
        lastQueued r.state (nssWqFunction r.state) r.last
      rw [lastQueued_work, ← hshown]
      unfold nssWqFunction
      split <;> rfl
    · rcases h with h | h
      · exact h.elim
      · exact h.1.elim

end Writes

/-- All steps of a run are faithful exactly where every failed write is harmless. -/
theorem freq_changes_iff (s : FreqState) (es : List FreqEvent) :
    FoldGuard Faithful FreqRun.handle es (.boot s) ↔
      FoldGuard Harmless FreqRun.handle es (.boot s) :=
  FoldGuard.iff_of_invariant (fun r => r.state.cmdBuf.currentFreq = r.last)
    (fun _ _ hshown => faithful_iff hshown) (fun _ _ _ hfaithful => hfaithful.shown) rfl

/-- After boot, a frequency that the table does not have stays, and so does what is set
    before the memory for the work is missing. -/
theorem failed_writes_stay :
    ¬ FoldGuard Faithful FreqRun.handle [.currentFreq (some 1) true] (.boot bootState) ∧
      ¬ FoldGuard Faithful FreqRun.handle [.currentFreq (some 550000000) false] (.boot bootState) ∧
      ¬ FoldGuard Faithful FreqRun.handle [.autoScale (some 1) false] (.boot bootState) := by
  refine ⟨fun h => ?_, fun h => ?_, fun h => ?_⟩
  · have hfreq : (1 : U32) = 275000000 := h.1.shown
    exact absurd hfreq (by decide)
  · have hfreq : (550000000 : U32) = 275000000 := h.1.shown
    exact absurd hfreq (by decide)
  · have hready : (0 : U32) ≠ 1 := by decide
    have hauto : (1 : U32) = 0 :=
      congrArg NssCmdBuffer.autoScale (h.1.kept (.inr ⟨hready, rfl⟩)).cmdBuf
    exact absurd hauto (by decide)

end NssDrv.FrequencyChanges

import Mathlib.Data.List.Induction
import NssDrv.ScaleDecision
import NssDrv.TransitionRuns

set_option autoImplicit false

/-!
# Scaling on and off

What the last sysctl write asked for, and whether the driver keeps to it.
-/
namespace NssDrv.ScalingSwitch
open HlosInterface FrequencyScaling ScaleDecision TransitionRuns

/-- The `stats_enable` that the NSS is told last, once the queue has run. -/
def lastTold (s : FreqState) : Option U32 := (s.nssWq.getLast?.map NssWork.statsEnable).or s.told

/-- The fields that say whether scaling is on. -/
structure Switch where
  autoScale : U32
  ready : U32
  initialized : U32
  sampleCount : U32
  told : Option U32

def switch (s : FreqState) : Switch :=
  ⟨s.cmdBuf.autoScale, s.samples.freqScaleReady, s.samples.initialized, s.samples.sampleCount,
    lastTold s⟩

section Effects
variable {s : FreqState}

theorem lastTold_queueWork (w : NssWork) : lastTold (s.queueWork w) = some w.statsEnable := by
  rw [lastTold, FreqState.queueWork, List.getLast?_concat]
  rfl

theorem switch_work : switch (nssWqFunction s) = switch s := by
  rw [nssWqFunction]
  split
  · rfl
  · rename_i w rest hqueue
    have htold : lastTold { s with nssWq := rest, told := some w.statsEnable } = lastTold s := by
      rw [lastTold, lastTold, hqueue, List.getLast?_cons]
      cases rest.getLast? <;> rfl
    exact congrArg (Switch.mk _ _ _ _) htold

theorem switch_ack (ack : U32) :
    switch (nssFreqHandleAck ack s) =
      if ack = NSS_ACK_FINISHED then { switch s with ready := 1 } else switch s := by
  rw [nssFreqHandleAck]
  split <;> rfl

theorem switch_currentFreq (stored : Option U32) :
    switch (nssCurrentFreqHandler true s stored) =
      if found (s.setCurrentFreq (stored.getD s.cmdBuf.currentFreq)) then
        ⟨0, 0, s.samples.initialized, 0, some 0⟩ else switch s := by
  cases hfound : found (s.setCurrentFreq (stored.getD s.cmdBuf.currentFreq)) with
  | false =>
    simp only [nssCurrentFreqHandler, hfound]
    rfl
  | true =>
    simp only [nssCurrentFreqHandler, hfound]
    exact congrArg (Switch.mk _ _ _ _) (lastTold_queueWork _)

theorem switch_autoScaleOff :
    switch (autoScaleOff true s) =
      if s.samples.freqScaleReady ≠ 0 then
        ⟨s.cmdBuf.autoScale, 0, s.samples.initialized, 0, some 0⟩ else switch s := by
  rw [autoScaleOff]
  split
  · exact congrArg (Switch.mk _ _ _ _) (lastTold_queueWork _)
  · rfl

theorem switch_autoScaleOn :
    switch (autoScaleOn true s) =
      if s.samples.freqScaleReady = 1 then switch s
      else ⟨0, 1, s.samples.initialized, s.samples.sampleCount, some 1⟩ := by
  rw [autoScaleOn]
  split
  · rfl
  · exact congrArg (Switch.mk _ _ _ _) (lastTold_queueWork _)

theorem switch_autoScale (stored : Option U32) :
    switch (nssAutoScaleHandler true s stored) =
      if stored.getD s.cmdBuf.autoScale ≠ 1 then
        if s.samples.freqScaleReady ≠ 0 then
          ⟨stored.getD s.cmdBuf.autoScale, 0, s.samples.initialized, 0, some 0⟩
        else { switch s with autoScale := stored.getD s.cmdBuf.autoScale }
      else if s.samples.freqScaleReady = 1 then
        { switch s with autoScale := stored.getD s.cmdBuf.autoScale }
      else ⟨0, 1, s.samples.initialized, s.samples.sampleCount, some 1⟩ := by
  by_cases hoff : stored.getD s.cmdBuf.autoScale ≠ 1
  · rw [if_pos hoff]
    exact Eq.trans (congrArg switch (if_pos hoff)) switch_autoScaleOff
  · rw [if_neg hoff]
    exact Eq.trans (congrArg switch (if_neg hoff)) switch_autoScaleOn

def Switch.fill (w : Switch) : Switch :=
  if w.sampleCount + 1 = NSS_SAMPLE_BUFFER_SIZE then ⟨1, 1, 1, w.sampleCount + 1, w.told⟩
  else { w with sampleCount := w.sampleCount + 1 }

theorem switch_fillRing : switch (fillRing s) = (switch s).fill := by
  simp only [fillRing, Switch.fill]
  split <;> split <;> first | rfl | contradiction

/-- A statistics message is dropped, fills the ring, leaves the switch alone or
    queues a change that tells the NSS to go on with its statistics. -/
theorem switch_coreStats (sample : U32) :
    switch (nssFreqHandleCoreStats sample true s) = switch s ∨
      (accepts s ∧ s.samples.sampleCount < NSS_SAMPLE_BUFFER_SIZE ∧
        switch (nssFreqHandleCoreStats sample true s) = (switch s).fill) ∨
      (s.cmdBuf.autoScale = 1 ∧
        switch (nssFreqHandleCoreStats sample true s) =
          { switch s with ready := 0, told := some 1 }) := by
  by_cases hdecides : Decides sample s
  · rw [coreStats_decided hdecides, scale_eq]
    cases destination (sampled sample s) with
    | none => exact .inl rfl
    | some i =>
      have hscale := hdecides.2.2
      rw [mayScale, Bool.and_eq_true] at hscale
      refine .inr (.inr ⟨of_decide_eq_true hscale.2, ?_⟩)
      exact congrArg (Switch.mk _ _ _ _) (lastTold_queueWork _)
  · rcases coreStats_undecided true hdecides with heq | ⟨hlt, heq⟩ | heq
    · rw [heq]
      exact .inl rfl
    · by_cases haccepts : accepts s = true
      · rw [heq, switch_fillRing]
        exact .inr (.inl ⟨haccepts, hlt, rfl⟩)
      · rw [Bool.not_eq_true] at haccepts
        rw [nssFreqHandleCoreStats, haccepts]
        exact .inl rfl
    · rw [heq]
      exact .inl rfl

end Effects

inductive Mode where
  | auto
  | fixed

def asked (m : Option Mode) (s : FreqState) : FreqEvent → Option Mode
  | .autoScale (some v) _ => some (if v = 1 then .auto else .fixed)
  | .currentFreq (some f) _ => if found (s.setCurrentFreq f) then some .fixed else m
  | _ => m

def nssStats (samples : List U32) (s : FreqState) : FreqState :=
  samples.foldl (fun s sample => nssFreqHandleCoreStats sample true s) s

/-- A ring of samples takes scaling up again. -/
def Resumes (s : FreqState) : Prop :=
  ∀ samples, samples.length = NSS_SAMPLE_BUFFER_SIZE.toNat →
    ¬ (nssStats samples s).samples.sampleCount < NSS_SAMPLE_BUFFER_SIZE ∧
      (nssStats samples s).cmdBuf.autoScale = 1

/-- Scaling is fed by the NSS, or no statistics message changes the frequency. -/
def Kept (s : FreqState) : Option Mode → Prop
  | none => True
  | some .auto => lastTold s = some 1 ∧ accepts s ∧ Resumes s
  | some .fixed => ∀ sample,
    (nssFreqHandleCoreStats sample true s).nssWq = s.nssWq ∧
      (nssFreqHandleCoreStats sample true s).cmdBuf.currentFreq = s.cmdBuf.currentFreq ∧
        (nssFreqHandleCoreStats sample true s).samples.freqScaleIndex = s.samples.freqScaleIndex

def Allocated : FreqEvent → Prop
  | .coreStats _ alloc => alloc = true
  | .currentFreq _ alloc => alloc = true
  | .autoScale _ alloc => alloc = true
  | _ => True

/-- The writes that do not reach the defect, by the state before them. -/
def Good (m : Option Mode) (s : FreqState) : FreqEvent → Prop
  | .autoScale (some v) _ =>
    if v = 1 then
      if s.samples.freqScaleReady = 1 then lastTold s = some 1 else s.samples.initialized = 0
    else if v = 0 then s.samples.initialized ≠ 0
    else s.samples.freqScaleReady = 0 ∧ ¬ s.samples.sampleCount < NSS_SAMPLE_BUFFER_SIZE
  | .autoScale none _ =>
    m = none ∨
      if s.cmdBuf.autoScale = 1 then s.samples.freqScaleReady = 1 ∨ s.samples.initialized = 0
      else s.samples.freqScaleReady = 0 ∨
        (s.cmdBuf.autoScale = 0 ∧ s.samples.initialized ≠ 0)
  | .currentFreq (some f) _ => found (s.setCurrentFreq f) → s.samples.initialized ≠ 0
  | .currentFreq none _ =>
    m = none ∨ (found s → s.cmdBuf.autoScale ≠ 1 ∧ s.samples.initialized ≠ 0)
  | _ => True

def Stands (w : Switch) : Option Mode → Prop
  | none => True
  | some .auto => w.told = some 1 ∧ (w.autoScale = 1 ∨ (w.autoScale = 0 ∧ w.initialized = 0))
  | some .fixed => (w.autoScale = 0 ∧ w.initialized ≠ 0) ∨
    (w.autoScale ≠ 0 ∧ w.autoScale ≠ 1 ∧ ¬ w.sampleCount < NSS_SAMPLE_BUFFER_SIZE)

variable {s : FreqState} {m : Option Mode}

theorem accepts_of_on (hauto : s.cmdBuf.autoScale = 1) : accepts s := by
  rw [accepts, hauto]
  rfl

theorem accepts_of_new (hinit : s.samples.initialized = 0) : accepts s := by
  rw [accepts, hinit]
  cases decide (s.cmdBuf.autoScale = 0) <;> rfl

theorem not_accepts (hauto : s.cmdBuf.autoScale = 0) (hinit : s.samples.initialized ≠ 0) :
    accepts s = false := by
  rw [accepts, decide_eq_true hauto, decide_eq_true hinit]
  rfl

theorem coreStats_rejected {sample : U32} {alloc : Bool} (h : accepts s = false) :
    nssFreqHandleCoreStats sample alloc s = s := by
  rw [nssFreqHandleCoreStats, h]
  rfl

theorem Stands.coreStats (h : Stands (switch s) m) (sample : U32) :
    Stands (switch (nssFreqHandleCoreStats sample true s)) m := by
  rcases switch_coreStats (s := s) sample with heq | ⟨haccepts, hlt, heq⟩ | ⟨hauto, heq⟩
  · rw [heq]
    exact h
  · rw [heq, Switch.fill]
    match m with
    | none => trivial
    | some .auto =>
      split
      · exact ⟨h.1, .inl rfl⟩
      · exact h
    | some .fixed =>
      rcases h with ⟨hauto, hinit⟩ | ⟨-, -, hfull⟩
      · rw [not_accepts hauto hinit] at haccepts
        cases haccepts
      · exact absurd hlt hfull
  · rw [heq]
    match m with
    | none => trivial
    | some .auto => exact ⟨rfl, h.2⟩
    | some .fixed => exact h

/-- The ring has been full before, or is not yet. -/
def Initial (w : Switch) : Prop :=
  w.initialized ≠ 0 ∨ w.sampleCount < NSS_SAMPLE_BUFFER_SIZE

theorem Initial.fill {w : Switch} (hlt : w.sampleCount < NSS_SAMPLE_BUFFER_SIZE) :
    Initial w.fill := by
  rw [Switch.fill]
  split
  · exact .inl (show (1 : U32) ≠ 0 by decide)
  · rename_i hne
    right
    show w.sampleCount + 1 < (4 : U32)
    change w.sampleCount < (4 : U32) at hlt
    change ¬ w.sampleCount + 1 = (4 : U32) at hne
    bv_omega

theorem Initial.step {e : FreqEvent} (h : Initial (switch s)) (halloc : Allocated e) :
    Initial (switch (handle s e)) := by
  cases e with
  | coreStats sample alloc =>
    obtain rfl : alloc = true := halloc
    rcases switch_coreStats (s := s) sample with heq | ⟨-, hlt, heq⟩ | ⟨-, heq⟩
    · rw [handle, heq]
      exact h
    · rw [handle, heq]
      exact Initial.fill hlt
    · rw [handle, heq]
      exact h
  | ack ack =>
    rw [handle, switch_ack]
    split <;> exact h
  | currentFreq stored alloc =>
    obtain rfl : alloc = true := halloc
    rw [handle, switch_currentFreq]
    split
    · exact .inr (show (0 : U32) < 4 by decide)
    · exact h
  | autoScale stored alloc =>
    obtain rfl : alloc = true := halloc
    rw [handle, switch_autoScale]
    split
    · split
      · exact .inr (show (0 : U32) < 4 by decide)
      · exact h
    · split <;> exact h
  | work =>
    rw [handle, switch_work]
    exact h

theorem switch_filling {sample : U32} (haccepts : accepts s)
    (hlt : s.samples.sampleCount < NSS_SAMPLE_BUFFER_SIZE) :
    switch (nssFreqHandleCoreStats sample true s) = (switch s).fill := by
  rw [nssFreqHandleCoreStats, haccepts]
  exact Eq.trans (congrArg switch (if_pos hlt)) switch_fillRing

theorem Stands.accepts (h : Stands (switch s) (some .auto)) : FrequencyScaling.accepts s := by
  rcases h.2 with hauto | ⟨-, hinit⟩
  · exact accepts_of_on hauto
  · exact accepts_of_new hinit

theorem full_nssStats (h : ¬ s.samples.sampleCount < NSS_SAMPLE_BUFFER_SIZE)
    (samples : List U32) : ¬ (nssStats samples s).samples.sampleCount < NSS_SAMPLE_BUFFER_SIZE := by
  induction samples generalizing s with
  | nil => exact h
  | cons x xs ih =>
    apply ih
    have hcount : (nssFreqHandleCoreStats x true s).samples.sampleCount =
        s.samples.sampleCount := by
      rcases switch_coreStats (s := s) x with heq | ⟨-, hlt, -⟩ | ⟨-, heq⟩
      · exact congrArg Switch.sampleCount heq
      · exact absurd hlt h
      · exact congrArg Switch.sampleCount heq
    rw [hcount]
    exact h

theorem stands_nssStats (h : Stands (switch s) m) (samples : List U32) :
    Stands (switch (nssStats samples s)) m := by
  induction samples generalizing s with
  | nil => exact h
  | cons x xs ih => exact ih (h.coreStats x)

theorem initial_nssStats (h : Initial (switch s)) (samples : List U32) :
    Initial (switch (nssStats samples s)) := by
  induction samples generalizing s with
  | nil => exact h
  | cons x xs ih => exact ih (h.step (e := .coreStats x true) rfl)

theorem count_nssStats (h : Stands (switch s) (some .auto)) (samples : List U32) :
    ¬ (nssStats samples s).samples.sampleCount < NSS_SAMPLE_BUFFER_SIZE ∨
      s.samples.sampleCount.toNat + samples.length ≤
        (nssStats samples s).samples.sampleCount.toNat := by
  induction samples generalizing s with
  | nil => exact .inr (Nat.le_refl _)
  | cons x xs ih =>
    by_cases hlt : s.samples.sampleCount < NSS_SAMPLE_BUFFER_SIZE
    · have hfill : (nssFreqHandleCoreStats x true s).samples.sampleCount =
          s.samples.sampleCount + 1 := by
        refine Eq.trans (congrArg Switch.sampleCount (switch_filling h.accepts hlt)) ?_
        rw [Switch.fill]
        split <;> rfl
      have hnat : (s.samples.sampleCount + 1).toNat = s.samples.sampleCount.toNat + 1 := by
        change s.samples.sampleCount < (4 : U32) at hlt
        bv_omega
      rcases ih (h.coreStats x) with hfull | hcount
      · exact .inl hfull
      · right
        rw [hfill, hnat] at hcount
        rw [List.length_cons]
        exact (Nat.add_right_comm _ _ _ ▸ hcount :)
    · exact .inl (full_nssStats hlt (x :: xs))

theorem Stands.resumes (h : Stands (switch s) (some .auto)) (hinit : Initial (switch s)) :
    Resumes s := by
  intro samples hlen
  have hfull : ¬ (nssStats samples s).samples.sampleCount < NSS_SAMPLE_BUFFER_SIZE := by
    rcases count_nssStats h samples with hfull | hcount
    · exact hfull
    · intro hlt
      have hless : (nssStats samples s).samples.sampleCount.toNat < 4 := hlt
      change samples.length = 4 at hlen
      omega
  refine ⟨hfull, ?_⟩
  rcases (stands_nssStats h samples).2 with hauto | ⟨-, hnew⟩
  · exact hauto
  · rcases initial_nssStats hinit samples with hne | hlt
    · exact absurd hnew hne
    · exact absurd hlt hfull

theorem Stands.kept (h : Stands (switch s) m) (hinit : Initial (switch s)) : Kept s m := by
  match m with
  | none => trivial
  | some .auto => exact ⟨h.1, h.accepts, h.resumes hinit⟩
  | some .fixed =>
    intro sample
    rcases h with ⟨hauto, hused⟩ | ⟨-, hauto, hfull⟩
    · rw [coreStats_rejected (not_accepts hauto hused)]
      exact ⟨rfl, rfl, rfl⟩
    · have hidle : ¬ Decides sample s := by
        intro hdecides
        have hscale := hdecides.2.2
        rw [mayScale, Bool.and_eq_true] at hscale
        exact hauto (of_decide_eq_true hscale.2)
      rcases coreStats_undecided true hidle with heq | ⟨hlt, -⟩ | heq
      · rw [heq]
        exact ⟨rfl, rfl, rfl⟩
      · exact absurd hlt hfull
      · rw [heq]
        exact ⟨rfl, rfl, rfl⟩

theorem Stands.currentFreq (h : Stands (switch s) m) {stored : Option U32}
    (hgood : Good m s (.currentFreq stored true)) :
    Stands (switch (nssCurrentFreqHandler true s stored))
      (asked m s (.currentFreq stored true)) := by
  rw [switch_currentFreq]
  cases stored with
  | some f =>
    show Stands (if found (s.setCurrentFreq f) then _ else _)
      (if found (s.setCurrentFreq f) then some .fixed else m)
    by_cases hfound : found (s.setCurrentFreq f) = true
    · rw [if_pos hfound, if_pos hfound]
      exact .inl ⟨rfl, hgood hfound⟩
    · rw [if_neg hfound, if_neg hfound]
      exact h
  | none =>
    show Stands (if found s then _ else _) m
    by_cases hfound : found s = true
    · rw [if_pos hfound]
      rcases hgood with rfl | hgood
      · trivial
      · obtain ⟨hauto, hinit⟩ := hgood hfound
        match m with
        | none => trivial
        | some .auto =>
          rcases h.2 with hone | ⟨-, hzero⟩
          · exact absurd hone hauto
          · exact absurd hzero hinit
        | some .fixed => exact .inl ⟨rfl, hinit⟩
    · rw [if_neg hfound]
      exact h

theorem Stands.autoScale_stored {v : U32} (hgood : Good m s (.autoScale (some v) true)) :
    Stands (switch (nssAutoScaleHandler true s (some v))) (asked m s (.autoScale (some v) true)) := by
  rw [switch_autoScale]
  show Stands (if v ≠ 1 then _ else _) (some (if v = 1 then .auto else .fixed))
  change if v = 1 then _ else _ at hgood
  by_cases hone : v = 1
  · rw [if_pos hone] at hgood
    rw [if_neg (not_not.mpr hone), if_pos hone]
    by_cases hready : s.samples.freqScaleReady = 1
    · rw [if_pos hready] at hgood ⊢
      exact ⟨hgood, .inl hone⟩
    · rw [if_neg hready] at hgood ⊢
      exact ⟨rfl, .inr ⟨rfl, hgood⟩⟩
  · rw [if_neg hone] at hgood
    rw [if_pos hone, if_neg hone]
    by_cases hzero : v = 0
    · rw [if_pos hzero] at hgood
      split
      · exact .inl ⟨hzero, hgood⟩
      · exact .inl ⟨hzero, hgood⟩
    · rw [if_neg hzero] at hgood
      rw [if_neg (not_not.mpr hgood.1)]
      exact .inr ⟨hzero, hone, hgood.2⟩

theorem Stands.autoScale_unparsed (h : Stands (switch s) m)
    (hgood : Good m s (.autoScale none true)) :
    Stands (switch (nssAutoScaleHandler true s none)) m := by
  rcases hgood with rfl | hgood
  · trivial
  · rw [switch_autoScale]
    show Stands (if s.cmdBuf.autoScale ≠ 1 then _ else _) m
    by_cases hauto : s.cmdBuf.autoScale = 1
    · rw [if_pos hauto] at hgood
      rw [if_neg (not_not.mpr hauto)]
      by_cases hready : s.samples.freqScaleReady = 1
      · rw [if_pos hready]
        exact h
      · rw [if_neg hready]
        match m with
        | none => trivial
        | some .auto => exact ⟨rfl, .inr ⟨rfl, hgood.resolve_left hready⟩⟩
        | some .fixed =>
          rcases h with ⟨hzero, -⟩ | ⟨-, hne, -⟩
          · rw [show s.cmdBuf.autoScale = 0 from hzero] at hauto
            cases hauto
          · exact absurd hauto hne
    · rw [if_neg hauto] at hgood
      rw [if_pos hauto]
      by_cases hready : s.samples.freqScaleReady = 0
      · rw [if_neg (not_not.mpr hready)]
        exact h
      · obtain ⟨hzero, hinit⟩ := hgood.resolve_left hready
        rw [if_pos hready]
        match m with
        | none => trivial
        | some .auto =>
          rcases h.2 with hone | ⟨-, hnew⟩
          · exact absurd hone hauto
          · exact absurd hnew hinit
        | some .fixed => exact .inl ⟨hzero, hinit⟩

theorem Stands.ack (h : Stands (switch s) m) (ack : U32) :
    Stands (switch (nssFreqHandleAck ack s)) m := by
  rw [switch_ack]
  split
  · match m with
    | none => trivial
    | some .auto => exact h
    | some .fixed => exact h
  · exact h

theorem Stands.step {e : FreqEvent} (h : Stands (switch s) m) (halloc : Allocated e)
    (hgood : Good m s e) : Stands (switch (handle s e)) (asked m s e) := by
  cases e with
  | coreStats sample alloc =>
    obtain rfl : alloc = true := halloc
    exact h.coreStats sample
  | ack ack => exact h.ack ack
  | currentFreq stored alloc =>
    obtain rfl : alloc = true := halloc
    exact h.currentFreq hgood
  | autoScale stored alloc =>
    obtain rfl : alloc = true := halloc
    cases stored with
    | some v => exact Stands.autoScale_stored hgood
    | none => exact h.autoScale_unparsed hgood
  | work =>
    rw [handle, switch_work]
    exact h

def trace (p : FreqState × Option Mode) (e : FreqEvent) : FreqState × Option Mode :=
  (handle p.1 e, asked p.2 p.1 e)

theorem trace_state (es : List FreqEvent) (p : FreqState × Option Mode) :
    (es.foldl trace p).1 = es.foldl handle p.1 := by
  induction es generalizing p with
  | nil => rfl
  | cons e es ih => exact ih (trace p e)

def mode (es : List FreqEvent) (s : FreqState) : Option Mode := (es.foldl trace (s, none)).2

theorem run_stands {es : List FreqEvent} (halloc : ∀ e ∈ es, Allocated e)
    {p : FreqState × Option Mode} (h : Stands (switch p.1) p.2)
    (hgood : FoldGuard (fun p e => Good p.2 p.1 e) trace es p) :
    Stands (switch (es.foldl trace p).1) (es.foldl trace p).2 := by
  induction es generalizing p with
  | nil => exact h
  | cons e es ih =>
    have he := halloc e (List.mem_cons_self ..)
    exact ih (fun x hx => halloc x (List.mem_cons_of_mem _ hx)) (h.step he hgood.1) hgood.2

theorem boot_initial (h : Boot s) : Initial (switch s) := by
  right
  show s.samples.sampleCount < (4 : U32)
  rw [h.sampleCount]
  decide

theorem run_initial {es : List FreqEvent} (halloc : ∀ e ∈ es, Allocated e)
    (h : Initial (switch s)) : Initial (switch (es.foldl handle s)) := by
  induction es generalizing s with
  | nil => exact h
  | cons e es ih =>
    have he := halloc e (List.mem_cons_self ..)
    exact ih (fun x hx => halloc x (List.mem_cons_of_mem _ hx)) (h.step he)

theorem on_kept_iff (hinit : Initial (switch s)) :
    Kept (handle s (.autoScale (some 1) true)) (some .auto) ↔
      Good m s (.autoScale (some 1) true) := by
  have hswitch : switch (handle s (.autoScale (some 1) true)) =
      if s.samples.freqScaleReady = 1 then { switch s with autoScale := 1 }
      else ⟨0, 1, s.samples.initialized, s.samples.sampleCount, some 1⟩ :=
    Eq.trans (switch_autoScale (some 1)) (if_neg (not_not.mpr rfl))
  constructor
  · intro ⟨htold, haccepts, _⟩
    have hgood : Good m s (.autoScale (some 1) true) =
        if s.samples.freqScaleReady = 1 then lastTold s = some 1
          else s.samples.initialized = 0 := by
      rw [Good, if_pos rfl]
    rw [hgood]
    by_cases hready : s.samples.freqScaleReady = 1
    · rw [if_pos hready] at hswitch ⊢
      exact (congrArg Switch.told hswitch).symm.trans htold
    · rw [if_neg hready] at hswitch ⊢
      by_contra hused
      have hinit : (handle s (.autoScale (some 1) true)).samples.initialized ≠ 0 :=
        fun hzero => hused ((congrArg Switch.initialized hswitch).symm.trans hzero)
      rw [not_accepts (congrArg Switch.autoScale hswitch) hinit] at haccepts
      cases haccepts
  · intro hgood
    have hstands : Stands (switch (handle s (.autoScale (some 1) true))) (some .auto) :=
      Stands.autoScale_stored (v := 1) hgood
    exact hstands.kept (hinit.step (e := .autoScale (some 1) true) rfl)

/-- In a run from boot whose writes are all good the driver keeps to the last
    write, and one more write of 1 is kept exactly if it is good. -/
theorem scaling_kept (h : Boot s) (es : List FreqEvent) (halloc : ∀ e ∈ es, Allocated e)
    (hgood : FoldGuard (fun p e => Good p.2 p.1 e) trace es (s, none)) :
    Kept (es.foldl handle s) (mode es s) ∧
      (Kept (handle (es.foldl handle s) (.autoScale (some 1) true)) (some .auto) ↔
        Good (mode es s) (es.foldl handle s) (.autoScale (some 1) true)) := by
  have hinit := run_initial halloc (boot_initial h)
  have hstands : Stands (switch (es.foldl trace (s, none)).1) (mode es s) :=
    run_stands halloc trivial hgood
  rw [trace_state] at hstands
  exact ⟨hstands.kept hinit, on_kept_iff hinit⟩

/-- Scaling is asked for before the ring has been full. -/
def earlyStart : List FreqEvent :=
  .autoScale (some 1) true :: List.replicate 4 (.coreStats 0x5000 true)

def offAgain : List FreqEvent :=
  earlyStart ++ [.autoScale (some 0) true, .coreStats 0x5000 true]

theorem scaling_kept_off : Kept (offAgain.foldl handle bootState) (some .fixed) ∧
    (Kept (handle (offAgain.foldl handle bootState) (.autoScale (some 1) true)) (some .auto) ↔
      Good (some .fixed) (offAgain.foldl handle bootState) (.autoScale (some 1) true)) := by
  refine scaling_kept bootState_boot offAgain ?_ ?_
  · intro e he
    rcases List.mem_append.mp he with he | he
    · rcases List.mem_cons.mp he with rfl | he
      · rfl
      · rw [List.eq_of_mem_replicate he]
        rfl
    · rcases List.mem_cons.mp he with rfl | he
      · rfl
      · rw [List.mem_singleton.mp he]
        rfl
  · refine ⟨rfl, trivial, trivial, trivial, trivial, ?_, trivial, trivial⟩
    change (1 : U32) ≠ 0
    decide

/-- Off and on again after the ring has been full: the handler leaves
    `auto_scale` at 0 and every later sample is dropped. -/
theorem restart_rejects_samples :
    ¬ ∀ s, Boot s → ∀ es : List FreqEvent, (∀ e ∈ es, Allocated e) →
      Kept (es.foldl handle s) (mode es s) := by
  intro hall
  have halloc : ∀ e ∈ List.replicate 4 (.coreStats 0x5000 true) ++
      [.autoScale (some 0) true, .autoScale (some 1) true], Allocated e := by
    intro e he
    rcases List.mem_append.mp he with he | he
    · rw [List.eq_of_mem_replicate he]
      rfl
    · rcases List.mem_cons.mp he with rfl | he
      · rfl
      · rw [List.mem_singleton.mp he]
        rfl
  have hkept := hall bootState bootState_boot _ halloc
  have haccepts := hkept.2.1
  cases haccepts

end NssDrv.ScalingSwitch

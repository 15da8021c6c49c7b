import Mathlib.Data.List.Induction
import Mathlib.Logic.Function.Iterate
import NssDrv.ScaleDecision
import NssDrv.TransitionRuns

set_option autoImplicit false

/-!
# The handshake of a frequency change

Statistics messages, the work queue and the acks of the cores in every order.
-/
namespace NssDrv.ChangeHandshake
open HlosInterface FrequencyScaling ScaleDecision TransitionRuns

inductive Core where
  | core0
  | core1
  deriving DecidableEq

/-- A call of `nss_freq_change`, by its core and `start_or_end`. -/
inductive Notice where
  | startOf (core : Core)
  | endOf (core : Core)

/-- The calls that `nss_wq_function` makes, with core 1 up or not. -/
def notices (two : Bool) : List Notice :=
  if two then [.startOf .core0, .startOf .core1, .endOf .core0, .endOf .core1]
  else [.startOf .core0, .endOf .core0]

/-- `running` holds what is left of each work that executes, `owedStart` and
    `owedEnd` the notices that a core has yet to ack; `acked` counts the finish
    acks since the last work began. -/
structure Handshake where
  freq : FreqState
  running : List (List Notice)
  owedStart : Core → ℕ
  owedEnd : Core → ℕ
  acked : ℕ

def Handshake.sent (s : Handshake) : Notice → Handshake
  | .startOf core => { s with owedStart := Function.update s.owedStart core (s.owedStart core + 1) }
  | .endOf core => { s with owedEnd := Function.update s.owedEnd core (s.owedEnd core + 1) }

def left : List Notice → List (List Notice)
  | [] => []
  | calls => [calls]

inductive Label where
  | coreStats (sample : U32) (alloc : Bool)
  | work
  | notify (accepted : Bool)
  | ackStarted (core : Core)
  | ackFinished (core : Core)

inductive Step (two : Bool) : Handshake → Label → Handshake → Prop where
  | coreStats (s : Handshake) (sample : U32) (alloc : Bool) :
      Step two s (.coreStats sample alloc)
        { s with freq := nssFreqHandleCoreStats sample alloc s.freq }
  | work (s : Handshake) (hwork : s.freq.nssWq ≠ []) :
      Step two s .work
        { s with
          freq := nssWqFunction s.freq
          running := s.running ++ [notices two]
          acked := 0 }
  | notify (s : Handshake) (before after : List (List Notice)) (n : Notice) (rest : List Notice)
      (accepted : Bool) (hrun : s.running = before ++ (n :: rest) :: after) :
      Step two s (.notify accepted)
        { (if accepted then s.sent n else s) with running := before ++ left rest ++ after }
  | ackStarted (s : Handshake) (core : Core) (howed : 0 < s.owedStart core) :
      Step two s (.ackStarted core)
        { s with
          freq := nssFreqHandleAck NSS_ACK_STARTED s.freq
          owedStart := Function.update s.owedStart core (s.owedStart core - 1) }
  | ackFinished (s : Handshake) (core : Core) (howed : 0 < s.owedEnd core) :
      Step two s (.ackFinished core)
        { s with
          freq := nssFreqHandleAck NSS_ACK_FINISHED s.freq
          owedEnd := Function.update s.owedEnd core (s.owedEnd core - 1)
          acked := s.acked + 1 }

structure Start (s : Handshake) : Prop where
  boot : Boot s.freq
  running : s.running = []
  owedStart : ∀ core, s.owedStart core = 0
  owedEnd : ∀ core, s.owedEnd core = 0
  acked : s.acked = 0

/-- No change is queued, in execution or without an ack of its end. -/
structure Quiet (s : Handshake) : Prop where
  queue : s.freq.nssWq = []
  running : s.running = []
  owed : ∀ core, s.owedEnd core = 0

def Wants (sample : U32) (s : FreqState) : Prop :=
  Decides sample s ∧ (destination (sampled sample s)).isSome

/-- Some run without a sysctl write comes to a decision. -/
def CanAct (two : Bool) (s : Handshake) : Prop :=
  ∃ ls t sample, Run (Step two) s ls t ∧ Decides sample t.freq

/-- A change is queued only when no other is outstanding, and one that could not
    be queued leaves scaling able to act. -/
def Sound (two : Bool) (s : Handshake) : Label → Handshake → Prop
  | .coreStats sample alloc, t =>
    Wants sample s.freq → Quiet s ∧ (alloc = false → CanAct two t)
  | _, _ => True

/-- The end of the last change is acked by one core, and another has yet to be
    told of it or to ack it. -/
def Between (s : Handshake) : Prop :=
  0 < s.acked ∧ ¬ (s.running = [] ∧ ∀ core, s.owedEnd core = 0)

/-- A change that is wanted finds memory, and none is wanted between the first
    and the last finish ack of the one before. -/
def Good (s : Handshake) : Label → Prop
  | .coreStats sample alloc => Wants sample s.freq → alloc = true ∧ ¬ Between s
  | _ => True

variable {two : Bool} {s t : Handshake} {l : Label} {f : FreqState} {sample : U32} {alloc : Bool}

theorem coreStats_effect (sample : U32) (alloc : Bool) (f : FreqState) :
    (Wants sample f ∧
      (nssFreqHandleCoreStats sample alloc f).samples.freqScaleReady = 0 ∧
      (nssFreqHandleCoreStats sample alloc f).samples.sampleCount = f.samples.sampleCount ∧
      ∃ w, (nssFreqHandleCoreStats sample alloc f).nssWq =
        if alloc then f.nssWq ++ [w] else f.nssWq) ∨
    (¬ Wants sample f ∧ (nssFreqHandleCoreStats sample alloc f).nssWq = f.nssWq ∧
      (f.samples.sampleCount < NSS_SAMPLE_BUFFER_SIZE ∨
        (nssFreqHandleCoreStats sample alloc f).samples.freqScaleReady = f.samples.freqScaleReady ∧
        (nssFreqHandleCoreStats sample alloc f).samples.sampleCount = f.samples.sampleCount)) := by
  by_cases hdecides : Decides sample f
  · rw [Wants, coreStats_decided hdecides, scale_eq]
    cases hdest : destination (sampled sample f) with
    | none => exact .inr ⟨fun h => Bool.false_ne_true h.2, rfl, .inr ⟨rfl, rfl⟩⟩
    | some i =>
      cases alloc
      · exact .inl ⟨⟨hdecides, rfl⟩, rfl, rfl, ⟨0, 0⟩, rfl⟩
      · exact .inl ⟨⟨hdecides, rfl⟩, rfl, rfl, _, rfl⟩
  · refine .inr ⟨fun h => hdecides h.1, ?_⟩
    rcases coreStats_undecided alloc hdecides with heq | ⟨hlt, heq⟩ | heq
    · rw [heq]
      exact ⟨rfl, .inr ⟨rfl, rfl⟩⟩
    · rw [heq, fillRing]
      refine ⟨?_, .inl hlt⟩
      split <;> rfl
    · rw [heq]
      exact ⟨rfl, .inr ⟨rfl, rfl⟩⟩

theorem Wants.ready (h : Wants sample f) : f.samples.freqScaleReady = 1 := by
  have hscale := h.1.2.2
  rw [mayScale, Bool.and_eq_true] at hscale
  exact of_decide_eq_true hscale.1

/-- The flag stands for a quiet driver or for a first finish ack, and one change
    is under way otherwise. -/
structure Single (s : Handshake) : Prop where
  ready : s.freq.samples.freqScaleReady = 1 → Quiet s ∨ 0 < s.acked ∧ s.freq.nssWq = []
  filling : s.freq.samples.sampleCount < NSS_SAMPLE_BUFFER_SIZE → Quiet s
  queued : s.freq.nssWq ≠ [] →
    s.freq.nssWq.length = 1 ∧ s.running = [] ∧ ∀ core, s.owedEnd core = 0

theorem Start.single (h : Start s) : Single s := by
  have hquiet : Quiet s := ⟨h.boot.nssWq, h.running, h.owedEnd⟩
  exact ⟨fun _ => .inl hquiet, fun _ => hquiet, fun hne => absurd h.boot.nssWq hne⟩

theorem Quiet.single (h : Quiet s) : Single s :=
  ⟨fun _ => .inl h, fun _ => h, fun hne => absurd h.queue hne⟩

theorem Quiet.not_between (h : Quiet s) : ¬ Between s := fun hb => hb.2 ⟨h.running, h.owed⟩

theorem Single.quiet (hs : Single s) (hready : s.freq.samples.freqScaleReady = 1)
    (hgap : ¬ Between s) : Quiet s := by
  rcases hs.ready hready with hquiet | ⟨hacked, hqueue⟩
  · exact hquiet
  · obtain ⟨hrunning, howed⟩ : s.running = [] ∧ ∀ core, s.owedEnd core = 0 := by
      by_contra hout
      exact hgap ⟨hacked, hout⟩
    exact ⟨hqueue, hrunning, howed⟩

theorem Quiet.frame (h : Quiet s) (hqueue : t.freq.nssWq = s.freq.nssWq)
    (hrunning : t.running = s.running) (howed : t.owedEnd = s.owedEnd) : Quiet t where
  queue := hqueue.trans h.queue
  running := hrunning.trans h.running
  owed := fun core => (congrFun howed core).trans (h.owed core)

theorem Single.frame (hs : Single s)
    (hready : t.freq.samples.freqScaleReady = s.freq.samples.freqScaleReady)
    (hcount : t.freq.samples.sampleCount = s.freq.samples.sampleCount)
    (hqueue : t.freq.nssWq = s.freq.nssWq) (hrunning : t.running = s.running)
    (howed : t.owedEnd = s.owedEnd) (hacked : t.acked = s.acked) : Single t := by
  constructor
  · intro hone
    refine (hs.ready (hready.symm.trans hone)).imp (fun hquiet => hquiet.frame hqueue hrunning howed)
      fun hfirst => ?_
    exact ⟨hacked ▸ hfirst.1, hqueue.trans hfirst.2⟩
  · intro hlt
    exact (hs.filling (hcount ▸ hlt)).frame hqueue hrunning howed
  · intro hne
    rw [hqueue] at hne ⊢
    rw [hrunning, howed]
    exact hs.queued hne

theorem Single.coreStats (hs : Single s) (hgood : Good s (.coreStats sample alloc)) :
    Single { s with freq := nssFreqHandleCoreStats sample alloc s.freq } := by
  rcases coreStats_effect sample alloc s.freq with
    ⟨hwants, hready, hcount, w, hqueue⟩ | ⟨-, hqueue, hlt | ⟨hready, hcount⟩⟩
  · obtain ⟨hmemory, hgap⟩ := hgood hwants
    have hquiet := hs.quiet hwants.ready hgap
    rw [hmemory] at hready hcount hqueue ⊢
    rw [if_pos rfl, hquiet.queue, List.nil_append] at hqueue
    constructor
    · intro hone
      have hzero := hready.symm.trans hone
      cases hzero
    · intro hlt
      exact absurd (hcount ▸ hlt) hwants.1.2.1
    · intro _
      exact ⟨congrArg List.length hqueue, hquiet.running, hquiet.owed⟩
  · apply Quiet.single
    exact (hs.filling hlt).frame hqueue rfl rfl
  · exact hs.frame hready hcount hqueue rfl rfl rfl

theorem Single.busy (hs : Single s) (hbusy : ¬ Quiet s)
    (hready : t.freq.samples.freqScaleReady = 1 → 0 < t.acked)
    (hcount : t.freq.samples.sampleCount = s.freq.samples.sampleCount)
    (hqueue : t.freq.nssWq = []) : Single t := by
  constructor
  · exact fun hone => .inr ⟨hready hone, hqueue⟩
  · exact fun hlt => absurd (hs.filling (hcount ▸ hlt)) hbusy
  · exact fun hne => absurd hqueue hne

theorem Single.queue_nil (hs : Single s) (hout : s.running ≠ [] ∨ ∃ core, 0 < s.owedEnd core) :
    s.freq.nssWq = [] := by
  by_contra hne
  obtain ⟨-, hrunning, howed⟩ := hs.queued hne
  rcases hout with hexec | ⟨core, hcore⟩
  · exact hexec hrunning
  · exact absurd hcore (by rw [howed]; exact Nat.lt_irrefl 0)

theorem Single.step (hs : Single s) (hstep : Step two s l t) (hgood : Good s l) : Single t := by
  cases hstep with
  | coreStats sample alloc => exact hs.coreStats hgood
  | work hwork =>
    obtain ⟨w, hw⟩ := List.length_eq_one_iff.mp (hs.queued hwork).1
    have hsamples : (nssWqFunction s.freq).samples = s.freq.samples := by rw [nssWqFunction, hw]
    have hrest : (nssWqFunction s.freq).nssWq = [] := by rw [nssWqFunction, hw]
    apply hs.busy fun hquiet => hwork hquiet.queue
    · intro hone
      change (nssWqFunction s.freq).samples.freqScaleReady = 1 at hone
      rw [hsamples] at hone
      rcases hs.ready hone with hquiet | ⟨-, hqueue⟩
      · exact absurd hquiet.queue hwork
      · exact absurd hqueue hwork
    · exact congrArg (·.sampleCount) hsamples
    · exact hrest
  | notify before after n rest accepted hrun =>
    have hexec : s.running ≠ [] := by
      intro hnone
      rw [hnone] at hrun
      exact List.append_ne_nil_of_right_ne_nil _ (List.cons_ne_nil _ _) hrun.symm
    have hbusy : ¬ Quiet s := fun hquiet => hexec hquiet.running
    have hfreq : (if accepted then s.sent n else s).freq = s.freq := by
      cases accepted
      · rfl
      · cases n <;> rfl
    have hacked : (if accepted then s.sent n else s).acked = s.acked := by
      cases accepted
      · rfl
      · cases n <;> rfl
    apply hs.busy hbusy
    · intro hone
      have hready := (congrArg (·.samples.freqScaleReady) hfreq).symm.trans hone
      have hfirst := (hs.ready hready).resolve_left hbusy
      exact Nat.lt_of_lt_of_eq hfirst.1 hacked.symm
    · exact congrArg (·.samples.sampleCount) hfreq
    · exact (congrArg (·.nssWq) hfreq).trans (hs.queue_nil (.inl hexec))
  | ackStarted core howed => exact hs.frame rfl rfl rfl rfl rfl rfl
  | ackFinished core howed =>
    apply hs.busy fun hquiet => absurd howed (by rw [hquiet.owed]; exact Nat.lt_irrefl 0)
    · exact fun _ => Nat.succ_pos _
    · rfl
    · exact hs.queue_nil (.inr ⟨core, howed⟩)

theorem reachable_single (h : Reachable Start (Guarded (Step two) Good) s) : Single s :=
  h.invariant Single (fun _ => Start.single) fun _ _ _ hs hstep => hs.step hstep.1 hstep.2

/-- With the flag down and nothing under way, nothing can raise it. -/
structure Stuck (s : Handshake) : Prop where
  quiet : Quiet s
  ready : s.freq.samples.freqScaleReady ≠ 1
  full : ¬ s.freq.samples.sampleCount < NSS_SAMPLE_BUFFER_SIZE

theorem Stuck.step (hs : Stuck s) (hstep : Step two s l t) : Stuck t := by
  cases hstep with
  | coreStats sample alloc =>
    rcases coreStats_effect sample alloc s.freq with
      ⟨hwants, -⟩ | ⟨-, hqueue, hlt | ⟨hready, hcount⟩⟩
    · exact absurd hwants.ready hs.ready
    · exact absurd hlt hs.full
    · exact ⟨hs.quiet.frame hqueue rfl rfl, fun hone => hs.ready (hready.symm.trans hone),
        fun hlt => hs.full (hcount ▸ hlt)⟩
  | work hwork => exact absurd hs.quiet.queue hwork
  | notify before after n rest accepted hrun =>
    rw [hs.quiet.running] at hrun
    exact absurd hrun.symm (List.append_ne_nil_of_right_ne_nil _ (List.cons_ne_nil _ _))
  | ackStarted core howed => exact ⟨hs.quiet.frame rfl rfl rfl, hs.ready, hs.full⟩
  | ackFinished core howed => exact absurd howed (by rw [hs.quiet.owed]; exact Nat.lt_irrefl 0)

theorem Stuck.not_canAct (hs : Stuck s) : ¬ CanAct two s := by
  intro ⟨ls, t, sample, hrun, hdecides⟩
  have ht := hrun.invariant Stuck (fun _ _ _ h => h.step) hs
  have hscale := hdecides.2.2
  rw [mayScale, Bool.and_eq_true] at hscale
  exact ht.ready (of_decide_eq_true hscale.1)

theorem failed_change_stuck (hquiet : Quiet s) (hwants : Wants sample s.freq) :
    Stuck { s with freq := nssFreqHandleCoreStats sample false s.freq } := by
  rcases coreStats_effect sample false s.freq with ⟨-, hready, hcount, w, hqueue⟩ | ⟨hno, -⟩
  · constructor
    · exact hquiet.frame hqueue rfl rfl
    · intro hone
      have hzero := hready.symm.trans hone
      cases hzero
    · intro hlt
      exact hwants.1.2.1 (hcount ▸ hlt)
  · exact absurd hwants hno

theorem Single.sound_iff (hs : Single s) (hstep : Step two s l t) :
    Sound two s l t ↔ Good s l := by
  cases hstep with
  | coreStats sample alloc =>
    constructor
    · intro hsound hwants
      obtain ⟨hquiet, hact⟩ := hsound hwants
      refine ⟨?_, hquiet.not_between⟩
      by_contra hfailed
      rw [Bool.not_eq_true] at hfailed
      subst hfailed
      exact (failed_change_stuck hquiet hwants).not_canAct (hact rfl)
    · intro hgood hwants
      obtain ⟨hmemory, hgap⟩ := hgood hwants
      refine ⟨hs.quiet hwants.ready hgap, fun hfailed => ?_⟩
      rw [hmemory] at hfailed
      cases hfailed
  | _ => exact Iff.rfl

/-- In a run with one core or two whose wanted changes find memory and never
    fall between the first and the last finish ack of the change before, a step
    is sound exactly if it is of this kind too. -/
theorem change_handshake (h : Reachable Start (Guarded (Step two) Good) s)
    (hstep : Step two s l t) : Sound two s l t ↔ Good s l :=
  (reachable_single h).sound_iff hstep

/-- With one core a work sends one end notice, after its other call. -/
inductive OneCore (s : Handshake) : Prop where
  | idle (hrunning : s.running = []) (howed : s.owedEnd .core0 + s.acked ≤ 1)
      (hother : s.owedEnd .core1 = 0)
  | executing (calls : List Notice) (hrunning : s.running = [calls])
      (hcalls : calls = notices false ∨ calls = [.endOf .core0])
      (howed : s.owedEnd .core0 + s.acked = 0) (hother : s.owedEnd .core1 = 0)

theorem OneCore.not_between (hs : OneCore s) : ¬ Between s := by
  intro ⟨hacked, hout⟩
  cases hs with
  | idle hrunning howed hother =>
    refine hout ⟨hrunning, fun core => ?_⟩
    cases core with
    | core0 => omega
    | core1 => exact hother
  | executing calls hrunning hcalls howed hother => omega

theorem OneCore.frame (hs : OneCore s) (hrunning : t.running = s.running)
    (howed : t.owedEnd = s.owedEnd) (hacked : t.acked = s.acked) : OneCore t := by
  cases hs with
  | idle hnone hone hother =>
    exact .idle (hrunning.trans hnone) (by rw [howed, hacked]; exact hone) (howed ▸ hother)
  | executing calls hone hcalls hzero hother =>
    exact .executing calls (hrunning.trans hone) hcalls (by rw [howed, hacked]; exact hzero)
      (howed ▸ hother)

theorem only_running {before after : List (List Notice)} {calls calls' : List Notice}
    (h : [calls] = before ++ calls' :: after) : before = [] ∧ calls' = calls ∧ after = [] := by
  cases before with
  | nil =>
    obtain ⟨hcalls, hafter⟩ := List.cons.inj h
    exact ⟨rfl, hcalls.symm, hafter.symm⟩
  | cons first before =>
    have hempty := (List.cons.inj h).2
    exact absurd hempty.symm (List.append_ne_nil_of_right_ne_nil _ (List.cons_ne_nil _ _))

theorem OneCore.step (hs : OneCore s) (hsingle : Single s) (hstep : Step false s l t) :
    OneCore t := by
  cases hstep with
  | coreStats sample alloc => exact hs.frame rfl rfl rfl
  | work hwork =>
    obtain ⟨-, hrunning, howed⟩ := hsingle.queued hwork
    have hone : s.running ++ [notices false] = [notices false] := by
      rw [hrunning, List.nil_append]
    exact .executing (notices false) hone (.inl rfl) (howed .core0) (howed .core1)
  | notify before after n rest accepted hrun =>
    cases hs with
    | idle hnone _ _ =>
      rw [hnone] at hrun
      exact absurd hrun.symm (List.append_ne_nil_of_right_ne_nil _ (List.cons_ne_nil _ _))
    | executing calls hone hcalls hzero hother =>
      obtain ⟨rfl, hcall, rfl⟩ := only_running (hone.symm.trans hrun)
      rcases hcalls with hcalls | hcalls
      · obtain ⟨rfl, rfl⟩ := List.cons.inj (hcall.trans hcalls)
        cases accepted with
        | false => exact .executing [.endOf .core0] rfl (.inr rfl) hzero hother
        | true => exact .executing [.endOf .core0] rfl (.inr rfl) hzero hother
      · obtain ⟨rfl, rfl⟩ := List.cons.inj (hcall.trans hcalls)
        cases accepted with
        | false =>
          refine .idle rfl ?_ hother
          show s.owedEnd .core0 + s.acked ≤ 1
          omega
        | true =>
          refine .idle rfl ?_ hother
          show Function.update s.owedEnd .core0 (s.owedEnd .core0 + 1) .core0 + s.acked ≤ 1
          rw [Function.update_self]
          omega
  | ackStarted core howed => exact hs.frame rfl rfl rfl
  | ackFinished core howed =>
    cases hs with
    | executing calls hone hcalls hzero hother => cases core <;> omega
    | idle hrunning hone hother =>
      cases core with
      | core1 => omega
      | core0 =>
        refine .idle hrunning ?_ hother
        show Function.update s.owedEnd .core0 (s.owedEnd .core0 - 1) .core0 + (s.acked + 1) ≤ 1
        rw [Function.update_self]
        omega

theorem one_core_good
    (h : Reachable Start (Guarded (Step false) fun s l => ∀ sample alloc,
      l = .coreStats sample alloc → Wants sample s.freq → alloc = true) s) :
    Single s ∧ OneCore s := by
  refine h.invariant (fun s => Single s ∧ OneCore s) ?_ ?_
  · intro s hs
    have hzero : s.owedEnd .core0 + s.acked ≤ 1 := by rw [hs.owedEnd, hs.acked]; exact Nat.zero_le 1
    exact ⟨hs.single, .idle hs.running hzero (hs.owedEnd _)⟩
  · intro s l t ⟨hsingle, hone⟩ ⟨hstep, hmemory⟩
    have hgood : Good s l := by
      cases l with
      | coreStats sample alloc =>
        exact fun hwants => ⟨hmemory sample alloc rfl hwants, hone.not_between⟩
      | _ => trivial
    exact ⟨hsingle.step hstep hgood, hone.step hsingle hstep⟩

section Boot

/-- The driver after boot and some samples, with memory for every change. -/
def afterSamples (xs : List U32) : Handshake where
  freq := xs.foldl (fun f x => nssFreqHandleCoreStats x true f) bootState
  running := []
  owedStart := fun _ => 0
  owedEnd := fun _ => 0
  acked := 0

theorem afterSamples_start : Start (afterSamples []) := by
  constructor
  · exact bootState_boot
  · rfl
  · exact fun _ => rfl
  · exact fun _ => rfl
  · rfl

theorem afterSamples_reachable (xs : List U32) :
    Reachable Start (Guarded (Step two) Good) (afterSamples xs) := by
  induction xs using List.reverseRecOn with
  | nil => exact .start afterSamples_start
  | append_singleton xs x ih =>
    have hstep : Step two (afterSamples xs) (.coreStats x true) (afterSamples (xs ++ [x])) := by
      have hfreq : (afterSamples (xs ++ [x])).freq =
          nssFreqHandleCoreStats x true (afterSamples xs).freq := List.foldl_append ..
      have hnext : afterSamples (xs ++ [x]) =
          { afterSamples xs with freq := nssFreqHandleCoreStats x true (afterSamples xs).freq } := by
        rw [← hfreq]
        rfl
      rw [hnext]
      exact .coreStats _ x true
    exact ih.next ⟨hstep, fun _ => ⟨rfl, fun hgap => Nat.lt_irrefl 0 hgap.1⟩⟩

/-- Six samples fill the ring and use up the rate limit. -/
def busySamples : List U32 := List.replicate 6 0x9000

theorem busySamples_wants : Wants 0x9000 (afterSamples busySamples).freq := by
  refine ⟨⟨rfl, ?_, rfl⟩, rfl⟩
  decide

/-- Without memory for the work the flag stays down and nothing raises it. -/
theorem failed_change_stops_scaling :
    ¬ ∀ two s l t, Reachable Start (Step two) s → Step two s l t → Sound two s l t := by
  intro hall
  have hreach : Reachable Start (Guarded (Step true) Good) (afterSamples busySamples) :=
    afterSamples_reachable busySamples
  have hsound := hall true _ _ _ hreach.unguarded (.coreStats _ 0x9000 false)
  obtain ⟨hquiet, hact⟩ := hsound busySamples_wants
  exact (failed_change_stuck hquiet busySamples_wants).not_canAct (hact rfl)

/-- Idle samples at a level above the lowest. -/
structure Idle (f : FreqState) : Prop where
  auto : f.cmdBuf.autoScale = 1
  ready : f.samples.freqScaleReady = 1
  full : f.samples.sampleCount = NSS_SAMPLE_BUFFER_SIZE
  cells : ∀ i, f.samples.buffer i = 0
  sum : f.samples.sum = 0
  index : f.samples.freqScaleIndex > 0
  minimum : f.level.minimum > 0

theorem Idle.decides (h : Idle f) : Decides 0 f := by
  refine ⟨?_, ?_, ?_⟩
  · rw [accepts, h.auto]
    rfl
  · rw [h.full]
    exact BitVec.lt_irrefl _
  · show (decide (f.samples.freqScaleReady = 1) && decide (f.cmdBuf.autoScale = 1)) = true
    rw [h.ready, h.auto]
    rfl

theorem Idle.average (h : Idle f) : (sampled 0 f).samples.average = 0 := by
  show (f.samples.sum - f.samples.buffer f.samples.bufferIndex.toNat +
    Function.update f.samples.buffer f.samples.bufferIndex.toNat 0 f.samples.bufferIndex.toNat) /
      f.samples.sampleCount = 0
  rw [Function.update_self, h.cells, h.sum, h.full]
  rfl

theorem Idle.not_above (h : Idle f) : above (sampled 0 f) = false := by
  rw [above, h.average]
  exact decide_eq_false (BitVec.not_lt_zero)

theorem Idle.wants (h : Idle f) (hup : upDue f = false) (hdown : downDue f) : Wants 0 f := by
  refine ⟨h.decides, ?_⟩
  have hbelow : below (sampled 0 f) = true := by
    rw [below, h.average]
    exact decide_eq_true h.minimum
  have hindex : decide ((sampled 0 f).samples.freqScaleIndex > 0) = true :=
    decide_eq_true h.index
  have hupDue : upDue (sampled 0 f) = false := hup
  have hdownDue : downDue (sampled 0 f) = true := hdown
  rw [destination, hupDue, hdownDue, hbelow, hindex]
  rfl

/-- Decisions until a fall is due, three for every two that count. -/
def idleLeft (f : FreqState) : ℕ :=
  3 * (NSS_FREQUENCY_SCALE_RATE_LIMIT_DOWN.toNat - f.samples.freqScaleRateLimitDown.toNat) +
    f.samples.freqScaleRateLimitUp.toNat

theorem Idle.next (h : Idle f) (hno : ¬ Wants 0 f) :
    Idle (nssFreqHandleCoreStats 0 true f) ∧
      idleLeft (nssFreqHandleCoreStats 0 true f) < idleLeft f := by
  have hdest : destination (sampled 0 f) = none := by
    rw [← Option.not_isSome_iff_eq_none]
    exact fun hsome => hno ⟨h.decides, hsome⟩
  rw [coreStats_decided h.decides, scale_eq, hdest, Option.elim_none]
  constructor
  · constructor
    · exact h.auto
    · exact h.ready
    · exact h.full
    · intro i
      show Function.update f.samples.buffer f.samples.bufferIndex.toNat 0 i = 0
      by_cases hi : i = f.samples.bufferIndex.toNat
      · rw [hi, Function.update_self]
      · rw [Function.update_of_ne hi, h.cells]
    · show f.samples.sum - f.samples.buffer f.samples.bufferIndex.toNat +
        Function.update f.samples.buffer f.samples.bufferIndex.toNat 0
          f.samples.bufferIndex.toNat = 0
      rw [Function.update_self, h.cells, h.sum]
      rfl
    · exact h.index
    · exact h.minimum
  · show 3 * (60000 - (rateDownAfter (sampled 0 f)).toNat) + (rateUpAfter (sampled 0 f)).toNat <
      3 * (60000 - f.samples.freqScaleRateLimitDown.toNat) + f.samples.freqScaleRateLimitUp.toNat
    by_cases hup : upDue f
    · have hdue : upDue (sampled 0 f) = true := hup
      have hlimit : 2 ≤ f.samples.freqScaleRateLimitUp.toNat := of_decide_eq_true hup
      have hzero : rateUpAfter (sampled 0 f) = 0 := by rw [rateUpAfter, if_pos hdue]
      have hsame : rateDownAfter (sampled 0 f) = f.samples.freqScaleRateLimitDown := by
        rw [rateDownAfter, if_pos hdue, h.not_above]
        rfl
      rw [hzero, hsame]
      exact Nat.add_lt_add_left (Nat.lt_of_lt_of_le Nat.zero_lt_two hlimit) _
    · rw [Bool.not_eq_true] at hup
      have hdue : upDue (sampled 0 f) = false := hup
      have hdown : downDue f = false := by
        rw [← Bool.not_eq_true]
        exact fun hdown => hno (h.wants hup hdown)
      have hdownDue : downDue (sampled 0 f) = false := hdown
      have hlimit : ¬ 60000 ≤ f.samples.freqScaleRateLimitDown.toNat := of_decide_eq_false hdown
      have hrate : ¬ 2 ≤ f.samples.freqScaleRateLimitUp.toNat := of_decide_eq_false hup
      have hnext : rateUpAfter (sampled 0 f) = f.samples.freqScaleRateLimitUp + 1 := by
        rw [rateUpAfter, hdue]
        rfl
      have hnextDown : rateDownAfter (sampled 0 f) = f.samples.freqScaleRateLimitDown + 1 := by
        rw [rateDownAfter, hdue, hdownDue]
        rfl
      rw [hnext, hnextDown]
      bv_omega

theorem Idle.fall (h : Idle f) :
    ∃ k, Wants 0 ((nssFreqHandleCoreStats 0 true)^[k] f) := by
  generalize hleft : idleLeft f = n
  induction n using Nat.strongRecOn generalizing f with
  | ind n ih =>
    by_cases hwants : Wants 0 f
    · exact ⟨0, hwants⟩
    · obtain ⟨hnext, hless⟩ := h.next hwants
      obtain ⟨k, hk⟩ := ih _ (hleft ▸ hless) hnext rfl
      exact ⟨k + 1, hk⟩

def idleFor (k : ℕ) (s : Handshake) : Handshake :=
  { s with freq := (nssFreqHandleCoreStats 0 true)^[k] s.freq }

theorem idle_run (s : Handshake) (k : ℕ) :
    Run (Step two) s (List.replicate k (Label.coreStats 0 true)) (idleFor k s) := by
  induction k generalizing s with
  | zero => exact .refl s
  | succ k ih => exact .cons (Step.coreStats s 0 true) (ih _)

theorem idle_run_good (hgap : ¬ Between s) (k : ℕ) :
    Run (Guarded (Step two) Good) s (List.replicate k (Label.coreStats 0 true)) (idleFor k s) := by
  induction k generalizing s with
  | zero => exact .refl s
  | succ k ih =>
    have hstep : Step two s (.coreStats 0 true)
        { s with freq := nssFreqHandleCoreStats 0 true s.freq } := .coreStats s 0 true
    exact .cons ⟨hstep, fun _ => ⟨rfl, hgap⟩⟩ (ih hgap)

theorem first_ack_run (hqueue : s.freq.nssWq ≠ []) (hrunning : s.running = []) :
    ∃ ls t, Run (Step true) s ls t ∧
      t.freq = nssFreqHandleAck NSS_ACK_FINISHED (nssWqFunction s.freq) ∧
        t.owedEnd .core1 = s.owedEnd .core1 + 1 := by
  have hrun : s.running ++ [notices true] = [] ++ notices true :: [] := by rw [hrunning]
  have howed : 0 < Function.update s.owedEnd .core0 (s.owedEnd .core0 + 1) .core0 := by
    rw [Function.update_self]
    exact Nat.succ_pos _
  exact ⟨_, _, .cons (.work s hqueue) (.cons (.notify _ [] [] _ _ true hrun)
    (.cons (.notify _ [] [] _ _ true rfl) (.cons (.notify _ [] [] _ _ true rfl)
      (.cons (.notify _ [] [] _ _ true rfl) (.single (.ackFinished _ .core0 howed)))))), rfl, rfl⟩

/-- A rise that the first core has acked, and four idle samples. -/
def idleAfterRise : FreqState :=
  (nssFreqHandleCoreStats 0 true)^[4] (nssFreqHandleAck NSS_ACK_FINISHED
    (nssWqFunction (afterSamples (List.replicate 7 0x9000)).freq))

theorem idleAfterRise_idle : Idle idleAfterRise := by
  constructor
  · rfl
  · rfl
  · rfl
  · intro i
    match i with
    | 0 | 1 | 2 | 3 => rfl
    | n + 4 => rfl
  · rfl
  · show _ < _
    decide
  · show _ < _
    decide

/-- Once the first of two cores has acked, another change is queued although the
    second one has not. -/
theorem first_ack_overlaps :
    ∃ s, Reachable Start (Step true) s ∧ ¬ Quiet s ∧ Wants 0 s.freq := by
  have hstart : Reachable Start (Step true) (afterSamples (List.replicate 7 0x9000)) :=
    (afterSamples_reachable _).unguarded
  have hqueue : (afterSamples (List.replicate 7 0x9000)).freq.nssWq ≠ [] := List.cons_ne_nil _ _
  obtain ⟨ls, t, hrun, hfreq, howed⟩ := first_ack_run hqueue rfl
  have hidle : Idle (idleFor 4 t).freq := by
    rw [idleFor, hfreq]
    exact idleAfterRise_idle
  obtain ⟨k, hwants⟩ := hidle.fall
  have hreach := ((hstart.run hrun).run (idle_run t 4)).run (idle_run (idleFor 4 t) k)
  have hbusy : ¬ Quiet (idleFor k (idleFor 4 t)) := by
    intro hquiet
    have hzero : t.owedEnd .core1 = 0 := hquiet.owed .core1
    omega
  exact ⟨_, hreach, hbusy, hwants⟩

theorem both_acks_run (hqueue : s.freq.nssWq ≠ []) (hrunning : s.running = [])
    (howed : ∀ core, s.owedEnd core = 0)
    (hidle : ¬ Wants 0 (nssFreqHandleAck NSS_ACK_FINISHED (nssWqFunction s.freq))) :
    ∃ ls t, Run (Guarded (Step true) Good) s ls t ∧
      t.freq = nssFreqHandleAck NSS_ACK_FINISHED (nssFreqHandleCoreStats 0 true
        (nssFreqHandleAck NSS_ACK_FINISHED (nssWqFunction s.freq))) ∧
      t.acked = 2 ∧ t.running = [] ∧ ∀ core, t.owedEnd core = 0 := by
  have hrun : s.running ++ [notices true] = [] ++ notices true :: [] := by rw [hrunning]
  have h0 : 0 < Function.update s.owedEnd .core0 (s.owedEnd .core0 + 1) .core0 := by
    rw [Function.update_self]
    exact Nat.succ_pos _
  refine ⟨_, _, .cons ⟨.work s hqueue, trivial⟩ (.cons ⟨.notify _ [] [] _ _ true hrun, trivial⟩
    (.cons ⟨.notify _ [] [] _ _ true rfl, trivial⟩ (.cons ⟨.notify _ [] [] _ _ true rfl, trivial⟩
      (.cons ⟨.notify _ [] [] _ _ true rfl, trivial⟩ (.cons ⟨.ackFinished _ .core0 h0, trivial⟩
        (.cons ⟨.coreStats _ 0 true, fun hwants => absurd hwants hidle⟩
          (.single ⟨.ackFinished _ .core1 (Nat.succ_pos _), trivial⟩))))))), rfl, rfl, rfl,
    fun core => ?_⟩
  cases core with
  | core0 => exact howed .core0
  | core1 => exact howed .core1

theorem rise_unwanted : ¬ Wants 0 (nssFreqHandleAck NSS_ACK_FINISHED
    (nssWqFunction (afterSamples (List.replicate 7 0x9000)).freq)) := by
  intro hwants
  have hnone : (destination (sampled 0 (nssFreqHandleAck NSS_ACK_FINISHED
    (nssWqFunction (afterSamples (List.replicate 7 0x9000)).freq)))).isSome = false := rfl
  exact Bool.false_ne_true (hnone.symm.trans hwants.2)

/-- A rise that both cores have acked, and a fall wanted after it. -/
theorem change_handshake_fall : ∃ s, Reachable Start (Guarded (Step true) Good) s ∧
    s.acked = 2 ∧ Wants 0 s.freq ∧ Sound true s (.coreStats 0 true)
      { s with freq := nssFreqHandleCoreStats 0 true s.freq } := by
  have hstart : Reachable Start (Guarded (Step true) Good)
      (afterSamples (List.replicate 7 0x9000)) := afterSamples_reachable _
  obtain ⟨ls, t, hrun, hfreq, hacked, hrunning, howed⟩ :=
    both_acks_run (List.cons_ne_nil _ _) rfl (fun _ => rfl) rise_unwanted
  have hgap : ¬ Between t := fun hgap => hgap.2 ⟨hrunning, howed⟩
  have hidle : Idle (idleFor 3 t).freq := by
    rw [idleFor, hfreq]
    exact idleAfterRise_idle
  obtain ⟨k, hwants⟩ := hidle.fall
  have hreach := ((hstart.run hrun).run (idle_run_good hgap 3)).run
    (idle_run_good (s := idleFor 3 t) hgap k)
  refine ⟨_, hreach, hacked, hwants, ?_⟩
  exact (change_handshake hreach (.coreStats _ 0 true)).mpr fun _ => ⟨rfl, hgap⟩

end Boot

end NssDrv.ChangeHandshake

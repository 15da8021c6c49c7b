import NssDrv.ScaleDecision

set_option autoImplicit false

/-!
# Steps between the frequency levels

The level over runs of statistics messages, acks, work and sysctl writes.
-/
namespace NssDrv.ScaleSteps
open HlosInterface FrequencyScaling ScaleDecision

variable {s : FreqState} {e : FreqEvent} {sample : U32} {alloc : Bool} {i : U32}

structure Gauge where
  index : U32
  up : U32
  down : U32

def gauge (s : FreqState) : Gauge :=
  ⟨s.samples.freqScaleIndex, s.samples.freqScaleRateLimitUp, s.samples.freqScaleRateLimitDown⟩

theorem gauge_fillRing : gauge (fillRing s) = gauge s := by
  simp only [fillRing]
  split <;> rfl

variable (alloc) in
theorem gauge_undecided (h : ¬ Decides sample s) :
    gauge (nssFreqHandleCoreStats sample alloc s) = gauge s := by
  rcases coreStats_undecided alloc h with heq | ⟨-, heq⟩ | heq
  · rw [heq]
  · rw [heq, gauge_fillRing]
    rfl
  · rw [heq]
    rfl

theorem move_index :
    (move alloc i s).samples.freqScaleIndex = if alloc then i else s.samples.freqScaleIndex := by
  cases alloc <;> rfl

variable (alloc) in
theorem gauge_decided (h : Decides sample s) :
    gauge (nssFreqHandleCoreStats sample alloc s) =
      ⟨if alloc then (destination (sampled sample s)).getD s.samples.freqScaleIndex
        else s.samples.freqScaleIndex,
        rateUpAfter (sampled sample s), rateDownAfter (sampled sample s)⟩ := by
  rw [coreStats_decided h, scale_eq]
  cases destination (sampled sample s) with
  | none =>
    rw [Option.getD_none, ite_self]
    rfl
  | some i =>
    rw [Option.getD_some]
    exact congrArg (Gauge.mk · _ _) move_index

theorem destination_cases (h : destination s = some i) :
    (upDue s ∧ above s ∧ s.samples.freqScaleIndex < NSS_FREQ_MAX_SCALE - 1 ∧
      i = s.samples.freqScaleIndex + 1) ∨
    (¬ upDue s ∧ downDue s ∧ below s ∧ s.samples.freqScaleIndex > 0 ∧
      i = s.samples.freqScaleIndex - 1) := by
  rw [destination] at h
  by_cases hup : upDue s = true
  · rw [if_pos hup] at h
    split at h
    · rename_i hmove
      rw [Bool.and_eq_true, decide_eq_true_eq] at hmove
      exact .inl ⟨hup, hmove.1, hmove.2, (Option.some.inj h).symm⟩
    · cases h
  · rw [if_neg hup] at h
    split at h
    · rename_i hmove
      rw [Bool.and_eq_true, Bool.and_eq_true, decide_eq_true_eq] at hmove
      exact .inr ⟨hup, hmove.1.1, hmove.1.2, hmove.2, (Option.some.inj h).symm⟩
    · cases h

def Climbs (sample : U32) (alloc : Bool) (s : FreqState) : Prop :=
  s.samples.freqScaleIndex < (nssFreqHandleCoreStats sample alloc s).samples.freqScaleIndex

def Descends (sample : U32) (alloc : Bool) (s : FreqState) : Prop :=
  (nssFreqHandleCoreStats sample alloc s).samples.freqScaleIndex < s.samples.freqScaleIndex

variable (sample alloc s) in
theorem index_cases :
    (nssFreqHandleCoreStats sample alloc s).samples.freqScaleIndex = s.samples.freqScaleIndex ∨
      alloc ∧ Decides sample s ∧ destination (sampled sample s) =
        some (nssFreqHandleCoreStats sample alloc s).samples.freqScaleIndex := by
  by_cases hdecides : Decides sample s
  · have hindex := congrArg Gauge.index (gauge_decided alloc hdecides)
    change _ = if alloc then _ else _ at hindex
    cases alloc with
    | false => exact .inl hindex
    | true =>
      rw [if_pos rfl] at hindex
      cases hdest : destination (sampled sample s) with
      | none =>
        rw [hdest, Option.getD_none] at hindex
        exact .inl hindex
      | some i =>
        rw [hdest, Option.getD_some] at hindex
        exact .inr ⟨rfl, hdecides, congrArg some hindex.symm⟩
  · exact .inl (congrArg Gauge.index (gauge_undecided alloc hdecides))

/-- A rise is a decision that `freq_scale_rate_limit_up` admits. -/
theorem Climbs.decision (h : Climbs sample alloc s) :
    Decides sample s ∧ upDue (sampled sample s) ∧ above (sampled sample s) := by
  rcases index_cases s sample alloc with heq | ⟨-, hdecides, hdest⟩
  · rw [Climbs, heq] at h
    exact absurd h (BitVec.lt_irrefl _)
  · rcases destination_cases hdest with ⟨hdue, habove, -, -⟩ | ⟨-, -, -, hpos, hi⟩
    · exact ⟨hdecides, hdue, habove⟩
    · change s.samples.freqScaleIndex > 0 at hpos
      change _ = s.samples.freqScaleIndex - 1 at hi
      rw [Climbs, hi] at h
      bv_omega

/-- A fall is a decision that only `freq_scale_rate_limit_down` admits. -/
theorem Descends.decision (h : Descends sample alloc s) :
    Decides sample s ∧ ¬ upDue (sampled sample s) ∧ downDue (sampled sample s) ∧
      below (sampled sample s) := by
  rcases index_cases s sample alloc with heq | ⟨-, hdecides, hdest⟩
  · rw [Descends, heq] at h
    exact absurd h (BitVec.lt_irrefl _)
  · rcases destination_cases hdest with ⟨-, -, hroom, hi⟩ | ⟨hup, hdown, hbelow, -, -⟩
    · change s.samples.freqScaleIndex < 2 at hroom
      change _ = s.samples.freqScaleIndex + 1 at hi
      rw [Descends, hi] at h
      bv_omega
    · exact ⟨hdecides, hup, hdown, hbelow⟩

/-- One sample moves the level by one at most, and only where the work is queued. -/
theorem index_near (hs : s.samples.freqScaleIndex < NSS_FREQ_MAX_SCALE) :
    (nssFreqHandleCoreStats sample alloc s).samples.freqScaleIndex < NSS_FREQ_MAX_SCALE ∧
      (nssFreqHandleCoreStats sample alloc s).samples.freqScaleIndex.toNat ≤
        s.samples.freqScaleIndex.toNat + 1 ∧
      s.samples.freqScaleIndex.toNat ≤
        (nssFreqHandleCoreStats sample alloc s).samples.freqScaleIndex.toNat + 1 := by
  change _ < (3 : U32) at hs
  change _ < (3 : U32) ∧ _
  rcases index_cases s sample alloc with heq | ⟨-, -, hdest⟩
  · rw [heq]
    exact ⟨hs, Nat.le_succ _, Nat.le_succ _⟩
  · rcases destination_cases hdest with ⟨-, -, hroom, hi⟩ | ⟨-, -, -, hpos, hi⟩
    · change s.samples.freqScaleIndex < 2 at hroom
      change _ = s.samples.freqScaleIndex + 1 at hi
      rw [hi]
      bv_omega
    · change s.samples.freqScaleIndex > 0 at hpos
      change _ = s.samples.freqScaleIndex - 1 at hi
      rw [hi]
      bv_omega

/-- The other events leave the counters or clear the lower one, and `auto_scale`
    may start again from the middle level. -/
theorem gauge_other (he : ∀ sample alloc, e ≠ .coreStats sample alloc) :
    ((gauge (handle s e)).index = (gauge s).index ∨ (gauge (handle s e)).index = 1) ∧
      (gauge (handle s e)).up = (gauge s).up ∧
        ((gauge (handle s e)).down = (gauge s).down ∨ (gauge (handle s e)).down = 0) := by
  cases e with
  | coreStats sample alloc => exact absurd rfl (he sample alloc)
  | ack ack =>
    rw [handle, nssFreqHandleAck]
    split <;> exact ⟨.inl rfl, rfl, .inl rfl⟩
  | currentFreq stored alloc =>
    simp only [handle, nssCurrentFreqHandler]
    split
    · exact ⟨.inl rfl, rfl, .inl rfl⟩
    · cases alloc
      · exact ⟨.inl rfl, rfl, .inl rfl⟩
      · exact ⟨.inl rfl, rfl, .inr rfl⟩
  | autoScale stored alloc =>
    simp only [handle, nssAutoScaleHandler]
    split
    · simp only [autoScaleOff]
      split
      · cases alloc
        · exact ⟨.inl rfl, rfl, .inl rfl⟩
        · exact ⟨.inl rfl, rfl, .inr rfl⟩
      · exact ⟨.inl rfl, rfl, .inl rfl⟩
    · simp only [autoScaleOn]
      split
      · exact ⟨.inl rfl, rfl, .inl rfl⟩
      · cases alloc <;> exact ⟨.inr rfl, rfl, .inl rfl⟩
  | work =>
    rw [handle, nssWqFunction]
    split <;> exact ⟨.inl rfl, rfl, .inl rfl⟩

def decides : FreqEvent → FreqState → Bool
  | .coreStats sample _, s => Decides sample s
  | _, _ => false

def decisions : List FreqEvent → FreqState → ℕ
  | [], _ => 0
  | e :: es, s => (decides e s).toNat + decisions es (handle s e)

theorem toNat_succ_le (x : U32) : (x + 1).toNat ≤ x.toNat + 1 := by
  rw [BitVec.toNat_add]
  exact Nat.mod_le _ _

theorem rateUpAfter_le : (rateUpAfter s).toNat ≤ s.samples.freqScaleRateLimitUp.toNat + 1 := by
  rw [rateUpAfter]
  split
  · exact Nat.zero_le _
  · exact toNat_succ_le _

theorem rateDownAfter_le :
    (rateDownAfter s).toNat ≤ s.samples.freqScaleRateLimitDown.toNat + 1 := by
  rw [rateDownAfter]
  split
  · split
    · exact Nat.zero_le _
    · exact Nat.le_succ _
  · split
    · exact Nat.zero_le _
    · exact toNat_succ_le _

theorem counters_handle (s : FreqState) (e : FreqEvent) :
    (gauge (handle s e)).up.toNat ≤ (gauge s).up.toNat + (decides e s).toNat ∧
      (gauge (handle s e)).down.toNat ≤ (gauge s).down.toNat + (decides e s).toNat := by
  by_cases hstats : ∃ sample alloc, e = .coreStats sample alloc
  · obtain ⟨sample, alloc, rfl⟩ := hstats
    by_cases hdecides : Decides sample s
    · rw [handle, gauge_decided alloc hdecides, decides, decide_eq_true hdecides]
      exact ⟨rateUpAfter_le, rateDownAfter_le⟩
    · rw [handle, gauge_undecided alloc hdecides]
      exact ⟨Nat.le_add_right _ _, Nat.le_add_right _ _⟩
  · obtain ⟨-, hup, hdown⟩ := gauge_other (s := s) (e := e) fun sample alloc heq =>
      hstats ⟨sample, alloc, heq⟩
    rw [hup]
    refine ⟨Nat.le_add_right _ _, ?_⟩
    rcases hdown with hdown | hdown
    · rw [hdown]
      exact Nat.le_add_right _ _
    · rw [hdown]
      exact Nat.zero_le _

theorem counter_le_decisions (c : FreqState → ℕ)
    (hc : ∀ s e, c (handle s e) ≤ c s + (decides e s).toNat) (es : List FreqEvent)
    (s : FreqState) : c (es.foldl handle s) ≤ c s + decisions es s := by
  induction es generalizing s with
  | nil => exact Nat.le_refl _
  | cons e es ih =>
    have hstep := hc s e
    have hrest := ih (handle s e)
    rw [List.foldl_cons, decisions]
    omega

theorem decisions_append (es : List FreqEvent) (e : FreqEvent) (s : FreqState) :
    decisions (es ++ [e]) s = decisions es s + (decides e (es.foldl handle s)).toNat := by
  induction es generalizing s with
  | nil => exact Nat.add_comm _ _
  | cons x es ih =>
    rw [List.cons_append, decisions, ih, decisions, List.foldl_cons, Nat.add_assoc]

theorem decisions_past_limit (c : FreqState → ℕ)
    (hc : ∀ s e, c (handle s e) ≤ c s + (decides e s).toNat) {es : List FreqEvent}
    {limit : ℕ} (hzero : c s = 0) (hlimit : limit ≤ c (es.foldl handle s))
    (hdecides : Decides sample (es.foldl handle s)) :
    limit < decisions (es ++ [.coreStats sample alloc]) s := by
  have hcount := counter_le_decisions c hc es s
  rw [decisions_append, decides, decide_eq_true hdecides, Bool.toNat_true]
  omega

theorem Climbs.up_zero (h : Climbs sample alloc s) :
    (gauge (nssFreqHandleCoreStats sample alloc s)).up = 0 := by
  obtain ⟨hdecides, hdue, -⟩ := h.decision
  rw [gauge_decided alloc hdecides]
  exact if_pos hdue

theorem Descends.down_zero (h : Descends sample alloc s) :
    (gauge (nssFreqHandleCoreStats sample alloc s)).down = 0 := by
  obtain ⟨hdecides, hup, hdown, -⟩ := h.decision
  rw [gauge_decided alloc hdecides]
  exact Eq.trans (if_neg hup) (if_pos hdown)

section Apart
variable {es : List FreqEvent} {sample' : U32} {alloc' : Bool}

/-- After a rise `freq_scale_rate_limit_up` starts again from zero. -/
theorem climbs_apart (h : Climbs sample alloc s)
    (h' : Climbs sample' alloc' (es.foldl handle (nssFreqHandleCoreStats sample alloc s))) :
    NSS_FREQUENCY_SCALE_RATE_LIMIT_UP.toNat <
      decisions (es ++ [.coreStats sample' alloc']) (nssFreqHandleCoreStats sample alloc s) := by
  obtain ⟨hdecides, hdue, -⟩ := h'.decision
  exact decisions_past_limit (fun s => (gauge s).up.toNat) (fun s e => (counters_handle s e).1)
    (congrArg BitVec.toNat h.up_zero) (of_decide_eq_true hdue) hdecides

theorem descents_apart (h : Descends sample alloc s)
    (h' : Descends sample' alloc' (es.foldl handle (nssFreqHandleCoreStats sample alloc s))) :
    NSS_FREQUENCY_SCALE_RATE_LIMIT_DOWN.toNat <
      decisions (es ++ [.coreStats sample' alloc']) (nssFreqHandleCoreStats sample alloc s) := by
  obtain ⟨hdecides, -, hdue, -⟩ := h'.decision
  exact decisions_past_limit (fun s => (gauge s).down.toNat) (fun s e => (counters_handle s e).2)
    (congrArg BitVec.toNat h.down_zero) (of_decide_eq_true hdue) hdecides

end Apart

theorem nssWq_undecided (h : ¬ Decides sample s) :
    (nssFreqHandleCoreStats sample alloc s).nssWq = s.nssWq := by
  rcases coreStats_undecided alloc h with heq | ⟨-, heq⟩ | heq
  · rw [heq]
  · rw [heq, fillRing]
    split <;> rfl
  · rw [heq]
    rfl

theorem nssWq_cases (sample : U32) (alloc : Bool) (s : FreqState) :
    (nssFreqHandleCoreStats sample alloc s).nssWq = s.nssWq ∨
      ∃ w, (nssFreqHandleCoreStats sample alloc s).nssWq = s.nssWq ++ [w] := by
  by_cases hdecides : Decides sample s
  · rw [coreStats_decided hdecides, scale_eq]
    cases destination (sampled sample s) with
    | none => exact .inl rfl
    | some i =>
      cases alloc with
      | false => exact .inl rfl
      | true => exact .inr ⟨_, rfl⟩
  · exact .inl (nssWq_undecided hdecides)

theorem index_unqueued (sample : U32) (s : FreqState) :
    (nssFreqHandleCoreStats sample false s).samples.freqScaleIndex = s.samples.freqScaleIndex := by
  rcases index_cases s sample false with heq | ⟨halloc, -⟩
  · exact heq
  · cases halloc

theorem index_handle_lt (s : FreqState) (e : FreqEvent)
    (hs : s.samples.freqScaleIndex < NSS_FREQ_MAX_SCALE) :
    (handle s e).samples.freqScaleIndex < NSS_FREQ_MAX_SCALE := by
  by_cases hstats : ∃ sample alloc, e = .coreStats sample alloc
  · obtain ⟨sample, alloc, rfl⟩ := hstats
    exact (index_near hs).1
  · obtain ⟨hindex, -⟩ := gauge_other (s := s) (e := e) fun sample alloc heq =>
      hstats ⟨sample, alloc, heq⟩
    change (handle s e).samples.freqScaleIndex = s.samples.freqScaleIndex ∨
      (handle s e).samples.freqScaleIndex = 1 at hindex
    rcases hindex with hindex | hindex
    · rw [hindex]
      exact hs
    · rw [hindex]
      decide

theorem index_run_lt (es : List FreqEvent) (hs : s.samples.freqScaleIndex < NSS_FREQ_MAX_SCALE) :
    (es.foldl handle s).samples.freqScaleIndex < NSS_FREQ_MAX_SCALE := by
  induction es generalizing s with
  | nil => exact hs
  | cons e es ih => exact ih (index_handle_lt s e hs)

/-- What a statistics message may do to the level, and how far apart its rises
    and its falls lie. -/
structure Steady (s : FreqState) : Prop where
  bound : s.samples.freqScaleIndex < NSS_FREQ_MAX_SCALE
  near : ∀ sample alloc,
    (nssFreqHandleCoreStats sample alloc s).samples.freqScaleIndex.toNat ≤
        s.samples.freqScaleIndex.toNat + 1 ∧
      s.samples.freqScaleIndex.toNat ≤
        (nssFreqHandleCoreStats sample alloc s).samples.freqScaleIndex.toNat + 1
  rejected : ∀ sample alloc, ¬ accepts s → nssFreqHandleCoreStats sample alloc s = s
  unqueued : ∀ sample,
    (nssFreqHandleCoreStats sample false s).samples.freqScaleIndex = s.samples.freqScaleIndex
  oneChange : ∀ sample alloc, (nssFreqHandleCoreStats sample alloc s).nssWq = s.nssWq ∨
    ∃ w, (nssFreqHandleCoreStats sample alloc s).nssWq = s.nssWq ++ [w]
  rise : ∀ sample alloc, Climbs sample alloc s →
    (sampled sample s).samples.average > s.level.maximum
  fall : ∀ sample alloc, Descends sample alloc s →
    (sampled sample s).samples.average < s.level.minimum
  risesApart : ∀ sample alloc (es : List FreqEvent) sample' alloc', Climbs sample alloc s →
    Climbs sample' alloc' (es.foldl handle (nssFreqHandleCoreStats sample alloc s)) →
    NSS_FREQUENCY_SCALE_RATE_LIMIT_UP.toNat <
      decisions (es ++ [.coreStats sample' alloc']) (nssFreqHandleCoreStats sample alloc s)
  fallsApart : ∀ sample alloc (es : List FreqEvent) sample' alloc', Descends sample alloc s →
    Descends sample' alloc' (es.foldl handle (nssFreqHandleCoreStats sample alloc s)) →
    NSS_FREQUENCY_SCALE_RATE_LIMIT_DOWN.toNat <
      decisions (es ++ [.coreStats sample' alloc']) (nssFreqHandleCoreStats sample alloc s)

/-- The level steps as intended in every run from boot. -/
theorem level_steady (h : Boot s) (es : List FreqEvent) : Steady (es.foldl handle s) := by
  have hboot : s.samples.freqScaleIndex < NSS_FREQ_MAX_SCALE := by
    rw [h.index]
    decide
  have hbound := index_run_lt es hboot
  constructor
  · exact hbound
  · exact fun sample alloc => (index_near hbound).2
  · intro sample alloc hrejected
    rw [Bool.not_eq_true] at hrejected
    rw [nssFreqHandleCoreStats, hrejected]
    rfl
  · exact fun sample => index_unqueued sample _
  · exact fun sample alloc => nssWq_cases sample alloc _
  · intro sample alloc hclimbs
    exact of_decide_eq_true hclimbs.decision.2.2
  · intro sample alloc hdescends
    exact of_decide_eq_true hdescends.decision.2.2.2
  · exact fun _ _ _ _ _ => climbs_apart
  · exact fun _ _ _ _ _ => descents_apart

/-- Up, then off and on again at the middle level, and up once more. -/
def twoRises : List FreqEvent :=
  [.ack NSS_ACK_FINISHED, .work, .autoScale (some 0) true, .autoScale (some 1) true,
    .autoScale (some 1) true] ++ List.replicate 6 (.coreStats 0x20000 true)

theorem level_steady_two_rises :
    NSS_FREQUENCY_SCALE_RATE_LIMIT_UP.toNat <
      decisions (twoRises ++ [.coreStats 0x20000 true])
        (nssFreqHandleCoreStats 0x9000 true
          ((List.replicate 6 (.coreStats 0x9000 true)).foldl handle bootState)) := by
  apply (level_steady bootState_boot (List.replicate 6 (.coreStats 0x9000 true))).risesApart
  · show _ < _
    decide
  · show _ < _
    decide

end NssDrv.ScaleSteps

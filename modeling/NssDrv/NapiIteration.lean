import Mathlib.Tactic.IntervalCases
import NssDrv.NapiHandler

set_option autoImplicit false

/-!
# One pass of the NAPI loop beside the NSS

What the NSS may do at any moment, what the handler keeps in spite of it, and
what one pass through the inner loop does to the pending causes, the budget
and the queues.
-/
namespace NssDrv.NapiIteration
open HlosInterface SharedThread ReceiveQueue NapiHandler

section Register
variable {shiftFactor i : ℕ} {status bits c : U32}

theorem mask_bit : (0x7FFF : U32).getLsbD i = decide (i < 15) := by
  by_cases h : i < 32
  · interval_cases i <;> rfl
  · rw [BitVec.getLsbD_of_ge _ _ (by omega), decide_eq_false (by omega)]

theorem pendingCause_bit : (pendingCause shiftFactor status).getLsbD i =
    (status.getLsbD (shiftFactor + i) && decide (i < 15)) := by
  simp only [pendingCause, BitVec.getLsbD_and, BitVec.getLsbD_ushiftRight, mask_bit]

theorem pendingCause_raise (hs : shiftFactor ≤ 17) :
    pendingCause shiftFactor (status ||| ((bits &&& 0x7FFF) <<< shiftFactor)) =
      pendingCause shiftFactor status ||| (bits &&& 0x7FFF) := by
  apply BitVec.eq_of_getLsbD_eq
  intro i hi
  simp only [pendingCause_bit, BitVec.getLsbD_or, BitVec.getLsbD_and, BitVec.getLsbD_shiftLeft,
    mask_bit]
  by_cases h : i < 15
  · have hlt : shiftFactor + i < 32 := by omega
    simp [h, hlt]
  · simp [h]

theorem pendingCause_clear (hs : shiftFactor ≤ 17) :
    pendingCause shiftFactor (status &&& ~~~(c <<< shiftFactor)) =
      pendingCause shiftFactor status &&& ~~~c := by
  apply BitVec.eq_of_getLsbD_eq
  intro i hi
  simp only [pendingCause_bit, BitVec.getLsbD_and, BitVec.getLsbD_not, BitVec.getLsbD_shiftLeft]
  by_cases h : i < 15
  · have hlt : shiftFactor + i < 32 := by omega
    simp [h, hlt, hi]
  · simp [h]

end Register

/-- One move of the NSS, of the other interrupt or of the rest of the host. -/
inductive NssMove {ω : Type} (shiftFactor : ℕ) : NapiState ω → NapiState ω → Prop where
  | ring (s : NapiState ω) (q : ℕ) {r : N2hRing} (h : NssProduces (s.queue q) r) :
      NssMove shiftFactor s { s with queue := Function.update s.queue q r }
  | raise (s : NapiState ω) (bits : U32) (left : ℕ) :
      NssMove shiftFactor s
        { s with
          status := s.status ||| ((bits &&& 0x7FFF) <<< shiftFactor)
          signalled := fun q =>
            if bits.getLsbD q then (s.queue q).produced.length else s.signalled q
          left := left }
  | elsewhere (s : NapiState ω) (status : U32)
      (h : pendingCause shiftFactor status = pendingCause shiftFactor s.status) :
      NssMove shiftFactor s { s with status := status }
  | host (s : NapiState ω) (x : ω) (intrMask : U32) :
      NssMove shiftFactor s { s with host := x, intrMask := intrMask }

/-- The queue has nothing signalled and unprocessed, or a bit still says so. -/
def Awake {ω : Type} (shiftFactor : ℕ) (held : U32) (q : ℕ) (s : NapiState ω) : Prop :=
  (pendingCause shiftFactor s.status).getLsbD q = true ∨ held.getLsbD q = true ∨
    s.signalled q ≤ (s.queue q).processed.length

/-- `cause` is the value of `int_ctx->cause`, `held` the bits held anywhere by
    the handler, `n` what it has processed of each queue and `m` how often it
    has completed. -/
structure NapiOk {ω : Type} (shiftFactor : ℕ) (cause held : U32) (n : ℕ → ℕ) (m : ℕ)
    (s : NapiState ω) : Prop where
  cause_eq : s.cause = cause
  resting : ∀ q < 3, Resting (s.queue q)
  signalled : ∀ q < 3, s.signalled q ≤ (s.queue q).produced.length
  awake : ∀ q < 3, Awake shiftFactor held q s
  processed : ∀ q < 3, (s.queue q).processed.length = n q
  completed : s.completed = m

/-- At completion every queue with work left has its bit pending, or the NSS
    has still to raise it for what it produced since. -/
def NoLostWakeup {ω : Type} (shiftFactor : ℕ) (s : NapiState ω) : Prop :=
  ∀ q < 3, (s.queue q).processed.length < (s.queue q).produced.length →
    (pendingCause shiftFactor s.status).getLsbD q = true ∨
      s.signalled q < (s.queue q).produced.length

/-- What each access of the handler does: it raises no cause bit, and it
    completes only where no wake-up is lost. -/
structure Guarantee {ω : Type} (shiftFactor : ℕ) (s t : NapiState ω) : Prop where
  calm : ∀ i, (pendingCause shiftFactor t.status).getLsbD i = true →
    (pendingCause shiftFactor s.status).getLsbD i = true
  left : t.left = s.left
  complete : t.completed = s.completed ∨
    t.completed = s.completed + 1 ∧ NoLostWakeup shiftFactor s

theorem Guarantee.quiet {ω : Type} {shiftFactor : ℕ} {s t : NapiState ω}
    (status : t.status = s.status) (left : t.left = s.left)
    (completed : t.completed = s.completed) : Guarantee shiftFactor s t :=
  ⟨fun _ h => status ▸ h, left, .inl completed⟩

section Moves
variable {ω : Type} {shiftFactor q m : ℕ} {cause held : U32} {n : ℕ → ℕ} {s t : NapiState ω}

theorem QueueRely.refl (r : N2hRing) : QueueRely r r :=
  ⟨id, rfl, rfl, rfl, rfl, rfl, rfl, rfl, List.prefix_rfl⟩

theorem NssMove.queueRely (h : NssMove shiftFactor s t) (q : ℕ) :
    QueueRely (s.queue q) (t.queue q) := by
  cases h with
  | ring p hp =>
    by_cases hq : q = p
    · subst hq
      simpa using hp.rely
    · simpa [hq] using QueueRely.refl _
  | _ => exact QueueRely.refl _

theorem NssMove.cause_eq (h : NssMove shiftFactor s t) : t.cause = s.cause := by cases h <;> rfl

theorem NssMove.completed_eq (h : NssMove shiftFactor s t) : t.completed = s.completed := by
  cases h <;> rfl

theorem NssMove.signalled (hs : shiftFactor ≤ 17) (hq : q < 15) (h : NssMove shiftFactor s t) :
    ((pendingCause shiftFactor s.status).getLsbD q = true →
      (pendingCause shiftFactor t.status).getLsbD q = true) ∧
    ((pendingCause shiftFactor t.status).getLsbD q = true ∨ t.signalled q = s.signalled q) := by
  cases h with
  | ring => exact ⟨id, .inr rfl⟩
  | raise bits left =>
    rw [pendingCause_raise hs, BitVec.getLsbD_or, BitVec.getLsbD_and, mask_bit]
    by_cases hb : bits.getLsbD q
    · simp [hb, hq]
    · simp [hb]
  | elsewhere status hsame =>
    rw [hsame]
    exact ⟨id, .inr rfl⟩
  | host => exact ⟨id, .inr rfl⟩

theorem NssMove.signalled_le (h : NssMove shiftFactor s t)
    (hle : s.signalled q ≤ (s.queue q).produced.length) :
    t.signalled q ≤ (t.queue q).produced.length := by
  have hprod := ((h.queueRely q).produced).length_le
  cases h with
  | raise bits left =>
    simp only
    split
    · exact le_rfl
    · exact hle
  | _ => exact hle.trans hprod

theorem NssMove.awake (hs : shiftFactor ≤ 17) (hq : q < 15) (h : NssMove shiftFactor s t)
    (ha : Awake shiftFactor held q s) : Awake shiftFactor held q t := by
  obtain ⟨hpend, hsig⟩ := h.signalled hs hq
  have hproc := (h.queueRely q).processed
  rcases ha with hp | hh | hle
  · exact .inl (hpend hp)
  · exact .inr (.inl hh)
  · rcases hsig with hp | hsame
    · exact .inl hp
    · exact .inr (.inr (by rw [hsame, hproc]; exact hle))

theorem napiOk_stable (hs : shiftFactor ≤ 17) :
    Stable (NssMove shiftFactor) (NapiOk (ω := ω) shiftFactor cause held n m) := by
  intro s t hr h
  exact
    { cause_eq := hr.cause_eq.trans h.cause_eq
      resting := fun q hq => (h.resting q hq).rely (hr.queueRely q)
      signalled := fun q hq => hr.signalled_le (h.signalled q hq)
      awake := fun q hq => hr.awake hs (by omega) (h.awake q hq)
      processed := fun q hq => by rw [(hr.queueRely q).processed, h.processed q hq]
      completed := hr.completed_eq.trans h.completed }

end Moves

/-- While the handler works on queue `q`. -/
structure Within {ω : Type} (shiftFactor : ℕ) (cause held : U32) (n : ℕ → ℕ) (m q : ℕ)
    (s : NapiState ω) : Prop where
  cause_eq : s.cause = cause
  resting : ∀ p < 3, p ≠ q → Resting (s.queue p)
  signalled : ∀ p < 3, s.signalled p ≤ (s.queue p).produced.length
  awake : ∀ p < 3, Awake shiftFactor held p s
  processed : ∀ p < 3, p ≠ q → (s.queue p).processed.length = n p
  completed : s.completed = m
  seen : (pendingCause shiftFactor s.status).getLsbD q = true ∨
    s.signalled q ≤ (s.queue q).entry.produced

section Queue
variable {ω : Type} {shiftFactor q m : ℕ} {cause held : U32} {n : ℕ → ℕ} {s : NapiState ω}

theorem within_stable (hs : shiftFactor ≤ 17) (hq : q < 3) :
    Stable (NssMove shiftFactor) (Within (ω := ω) shiftFactor cause held n m q) := by
  intro s t hr h
  obtain ⟨hpend, hsig⟩ := hr.signalled hs (show q < 15 by omega)
  refine ⟨hr.cause_eq.trans h.cause_eq, fun p hp hne => (h.resting p hp hne).rely (hr.queueRely p),
    fun p hp => hr.signalled_le (h.signalled p hp), fun p hp => hr.awake hs (by omega) (h.awake p hp),
    fun p hp hne => ?_, hr.completed_eq.trans h.completed, ?_⟩
  · rw [(hr.queueRely p).processed, h.processed p hp hne]
  · rcases h.seen with hp | hle
    · exact .inl (hpend hp)
    · rcases hsig with hp | hsame
      · exact .inl hp
      · refine .inr ?_
        rw [hsame, (hr.queueRely q).entry]
        exact hle

theorem within_act {x : N2hPort ω} (hq : q < 3) (h : Within shiftFactor cause held n m q s)
    (ha : HostAct (s.queue q) x.ring) : Within shiftFactor cause held n m q (s.setPort q x) := by
  have hother : ∀ p, p ≠ q → (s.setPort q x).queue p = s.queue p := fun p hne => by
    simp [NapiState.setPort, hne]
  have hself : (s.setPort q x).queue q = x.ring := by simp [NapiState.setPort]
  refine ⟨h.cause_eq, fun p hp hne => ?_, fun p hp => ?_, fun p hp => ?_, fun p hp hne => ?_,
    h.completed, ?_⟩
  · rw [hother p hne]
    exact h.resting p hp hne
  · by_cases hne : p = q
    · subst hne
      rw [hself, ha.produced_eq]
      exact h.signalled p hp
    · rw [hother p hne]
      exact h.signalled p hp
  · rcases h.awake p hp with hpend | hheld | hle
    · exact .inl hpend
    · exact .inr (.inl hheld)
    · refine .inr (.inr ?_)
      by_cases hne : p = q
      · subst hne
        rw [hself]
        exact hle.trans ha.processed_le
      · rw [hother p hne]
        exact hle
  · rw [hother p hne]
    exact h.processed p hp hne
  · rw [hself]
    rcases ha.entry_cases with hsame | hnew
    · rw [hsame]
      exact h.seen
    · refine .inr ?_
      rw [hnew, ha.produced_eq]
      exact h.signalled q hq

theorem within_enter {x : N2hPort ω} (hq : q < 3) (h : NapiOk shiftFactor cause held n m s)
    (ha : HostAct (s.queue q) x.ring) (hx : x.ring = (s.queue q).enter) :
    Within shiftFactor cause held n m q (s.setPort q x) := by
  have hother : ∀ p, p ≠ q → (s.setPort q x).queue p = s.queue p := fun p hne => by
    simp [NapiState.setPort, hne]
  have hself : (s.setPort q x).queue q = (s.queue q).enter := by simp [NapiState.setPort, hx]
  refine ⟨h.cause_eq, fun p hp hne => ?_, fun p hp => ?_, fun p hp => ?_, fun p hp hne => ?_,
    h.completed, ?_⟩
  · rw [hother p hne]
    exact h.resting p hp
  · by_cases hne : p = q
    · subst hne
      rw [hself]
      exact h.signalled p hp
    · rw [hother p hne]
      exact h.signalled p hp
  · rcases h.awake p hp with hpend | hheld | hle
    · exact .inl hpend
    · exact .inr (.inl hheld)
    · refine .inr (.inr ?_)
      by_cases hne : p = q
      · subst hne
        rw [hself]
        exact hle
      · rw [hother p hne]
        exact hle
  · rw [hother p hne]
    exact h.processed p hp
  · rw [hself]
    exact .inr (h.signalled q hq)

theorem queue_served {body : N2hDescriptor → ω → ω} {weight : U16} (hs : shiftFactor ≤ 17)
    (hq : q < 3) (hweight : 0 < weight.toInt) (h : NapiOk shiftFactor cause held n m s) :
    Sat (NssMove shiftFactor) (NapiIteration.Guarantee shiftFactor)
      (fun v t => NapiOk shiftFactor cause held (Function.update n q (n q + v.toNat)) m t ∧
        v.toNat ≤ weight.toNat ∧ (v.toNat < weight.toNat → Awake shiftFactor 0 q t))
      ((nssCoreHandleCauseQueue body weight).zoom (NapiState.port q) (NapiState.setPort q)) s := by
  have hcall : Sat Rely ReceiveQueue.Guarantee
      (fun v x => Served (s.port q).ring.processed.length weight v x.ring)
      (nssCoreHandleCauseQueue body weight) (s.port q) :=
    handleCauseQueue_served hweight (h.resting q hq)
  have hrely : ∀ u t : NapiState ω, NssMove shiftFactor u t → Rely (u.port q) (t.port q) :=
    fun u t hr => hr.queueRely q
  intro u hu _
  have hok := (napiOk_stable hs).star hu h
  -- the first access is taken by itself, since it is the one that sees what is signalled
  have hfirst := hcall (u.port q) (hu.lift (NapiState.port q) hrely) rfl
  refine ⟨.quiet rfl rfl rfl, ?_⟩
  have hwithin := within_enter hq hok hfirst.1 rfl
  have hget : ∀ (x : N2hPort ω) (t : NapiState ω), (t.setPort q x).port q = x := by
    intro x t
    simp [NapiState.port, NapiState.setPort]
  have hrest := hfirst.2
  rw [← hget (N2hPort.onRing N2hRing.enter (u.port q)) u] at hrest
  refine Sat.zoom hget (within_stable hs hq) hrely ?_ ?_ hrest hwithin
  · exact fun t x hP hact => ⟨.quiet rfl rfl rfl, within_act hq hP hact⟩
  · intro v t hP hserved
    have hbefore : (s.port q).ring.processed.length = n q := h.processed q hq
    have hcount := hserved.served
    have hret := hserved.returns
    have hfound := hserved.found
    refine ⟨⟨hP.cause_eq, fun p hp => ?_, hP.signalled, hP.awake, fun p hp => ?_, hP.completed⟩,
      by omega, fun hlt => ?_⟩
    · by_cases hne : p = q
      · subst hne
        exact hserved.toResting
      · exact hP.resting p hp hne
    · by_cases hne : p = q
      · subst hne
        rw [Function.update_self, ← hbefore]
        exact hcount
      · rw [Function.update_of_ne hne]
        exact hP.processed p hp hne
    · have hall : (t.queue q).processed.length = (t.queue q).entry.produced := by
        change (t.port q).ring.processed.length = (t.port q).ring.entry.produced
        omega
      rcases hP.seen with hpend | hle
      · exact .inl hpend
      · exact .inr (.inr (by rw [hall]; exact hle))

end Queue

/-- What the prioritiser makes of the pending causes: a known one with its
    mask, type and weight, or none it knows. -/
inductive Prioritized (c : U32) : U32 × CauseType × U16 → Prop where
  | queue (q : ℕ) (mask : U32) (lt : q < 3) (qid : nssCoreCauseToQueue (mask.setWidth 16) = q)
      (bit : ∀ i < 3, mask.getLsbD i = true → i = q) (pending : c &&& mask ≠ 0)
      (known : c &&& NSS_HAL_SUPPORTED_INTERRUPTS ≠ 0) : Prioritized c (mask, .queue, 64)
  | other (mask : U32) (type : CauseType) (weight : U16)
      (nonQueue : type = .nonQueue ∨ type = .emergency) (bit : ∀ i < 3, mask.getLsbD i = false)
      (pending : c &&& mask ≠ 0) (known : c &&& NSS_HAL_SUPPORTED_INTERRUPTS ≠ 0) :
      Prioritized c (mask, type, weight)
  | unknown (unknown : c &&& NSS_HAL_SUPPORTED_INTERRUPTS = 0) : Prioritized c (0, .invalid, 0)

theorem known_of_pending {c mask : U32} (hsub : NSS_HAL_SUPPORTED_INTERRUPTS &&& mask = mask)
    (hc : c &&& mask ≠ 0) : c &&& NSS_HAL_SUPPORTED_INTERRUPTS ≠ 0 := by
  intro hzero
  apply hc
  rw [← hsub, ← BitVec.and_assoc, hzero]
  exact BitVec.zero_and

theorem prioritizedCause_spec (c : U32) : Prioritized c (nssCoreGetPrioritizedCause c) := by
  unfold nssCoreGetPrioritizedCause
  split
  · rename_i h
    exact .other _ _ _ (.inl rfl) (by decide) h (known_of_pending (by decide) h)
  · split
    · rename_i h
      exact .queue 0 _ (by decide) (by decide) (by decide) h (known_of_pending (by decide) h)
    · split
      · rename_i h
        exact .other _ _ _ (.inl rfl) (by decide) h (known_of_pending (by decide) h)
      · split
        · rename_i h
          exact .queue 1 _ (by decide) (by decide) (by decide) h (known_of_pending (by decide) h)
        · split
          · rename_i h
            exact .queue 2 _ (by decide) (by decide) (by decide) h (known_of_pending (by decide) h)
          · split
            · rename_i h
              exact .other _ _ _ (.inr rfl) (by decide) h (known_of_pending (by decide) h)
            · split
              · rename_i h
                exact .other _ _ _ (.inr rfl) (by decide) h (known_of_pending (by decide) h)
              · simp only [ne_eq, not_not] at *
                refine .unknown ?_
                simp only [NSS_HAL_SUPPORTED_INTERRUPTS, BitVec.and_or_distrib_left, *]
                rfl

/-- What one pass does to the pending causes when it processes `k` descriptors. -/
inductive Outcome (c : U32) (budget : ℤ) : U32 → ℕ → Prop where
  | worked (k : ℕ) (some : 0 < k) (known : c &&& NSS_HAL_SUPPORTED_INTERRUPTS ≠ 0) :
      Outcome c budget c k
  | retired (mask : U32) (k : ℕ) (pending : c &&& mask ≠ 0) (room : (k : ℤ) < budget)
      (known : c &&& NSS_HAL_SUPPORTED_INTERRUPTS ≠ 0) : Outcome c budget (c &&& ~~~mask) k
  | unknown (unknown : c &&& NSS_HAL_SUPPORTED_INTERRUPTS = 0) : Outcome c budget c 0

def total (n : ℕ → ℕ) : ℕ := n 0 + n 1 + n 2

theorem total_update {n : ℕ → ℕ} {q : ℕ} (hq : q < 3) (k : ℕ) :
    total (Function.update n q (n q + k)) = total n + k := by
  unfold total
  interval_cases q <;> simp <;> omega

/-- What a pass that began with `n` processed and the causes `c` returns. -/
def Passed {ω : Type} (shiftFactor : ℕ) (c : U32) (count : U16) (budget : ℤ) (n : ℕ → ℕ) (m : ℕ)
    (next : U16 × ℤ) (s : NapiState ω) : Prop :=
  ∃ c' n' k, NapiOk shiftFactor c' c' n' m s ∧ Outcome c budget c' k ∧ (k : ℤ) ≤ budget ∧
    next = (count + BitVec.ofNat 16 k, budget - k) ∧ total n' = total n + k

section Iteration
variable {ω : Type} {shiftFactor m : ℕ} {c held : U32} {n : ℕ → ℕ} {s : NapiState ω}
  {count : U16} {budget : ℤ} {α : Type} {Q : α → NapiState ω → Prop}

theorem passed_stable (hs : shiftFactor ≤ 17) {next : U16 × ℤ} :
    Stable (NssMove shiftFactor) (Passed (ω := ω) shiftFactor c count budget n m next) := by
  rintro s t hr ⟨c', n', k, hok, hrest⟩
  exact ⟨c', n', k, napiOk_stable hs s t hr hok, hrest⟩

theorem sat_retire (hs : shiftFactor ≤ 17) {mask : U32} {k : Unit → Proc (NapiState ω) α}
    (h : NapiOk shiftFactor c c n m s)
    (hawake : ∀ q < 3, mask.getLsbD q = true → Awake shiftFactor 0 q s)
    (hk : ∀ t, NapiOk shiftFactor (c &&& ~~~mask) (c &&& ~~~mask) n m t →
      Sat (NssMove shiftFactor) (NapiIteration.Guarantee shiftFactor) Q (k ()) t) :
    Sat (NssMove shiftFactor) (NapiIteration.Guarantee shiftFactor) Q ((retireCause mask).bind k) s := by
  have hstable : Stable (NssMove shiftFactor) fun t : NapiState ω =>
      NapiOk shiftFactor c c n m t ∧ ∀ q < 3, mask.getLsbD q = true → Awake shiftFactor 0 q t := by
    rintro u t hr ⟨hok, ha⟩
    exact ⟨napiOk_stable hs u t hr hok, fun q hq hb => hr.awake hs (by omega) (ha q hq hb)⟩
  refine Sat.modify hstable ⟨h, hawake⟩ fun t ht => ⟨.quiet rfl rfl rfl, hk _ ?_⟩
  obtain ⟨hok, ha⟩ := ht
  refine ⟨by rw [hok.cause_eq], hok.resting, hok.signalled, fun q hq => ?_, hok.processed,
    hok.completed⟩
  by_cases hb : mask.getLsbD q = true
  · rcases ha q hq hb with hp | hz | hle
    · exact .inl hp
    · simp at hz
    · exact .inr (.inr hle)
  · rcases hok.awake q hq with hp | hh | hle
    · exact .inl hp
    · refine .inr (.inl ?_)
      have hlt : q < 32 := by omega
      rw [BitVec.getLsbD_and, BitVec.getLsbD_not, hh, Bool.eq_false_iff.mpr hb, decide_eq_true hlt]
      rfl
    · exact .inr (.inr hle)

theorem initRings_ok (h : NapiOk shiftFactor c held n m s) :
    NapiOk shiftFactor c held n m s.initRings := by
  have hsame : ∀ q < 3, s.initRings.queue q = s.queue q := by
    intro q hq
    have hsettled := (h.resting q hq).settled
    change (s.queue q).setHlosIndex (s.queue q).hlosIndexMap = s.queue q
    rw [← hsettled]
    rfl
  refine ⟨h.cause_eq, fun q hq => ?_, fun q hq => ?_, fun q hq => ?_, fun q hq => ?_, h.completed⟩
  · rw [hsame q hq]
    exact h.resting q hq
  · rw [hsame q hq]
    exact h.signalled q hq
  · unfold Awake
    rw [hsame q hq]
    exact h.awake q hq
  · rw [hsame q hq]
    exact h.processed q hq

theorem host_kept (hs : shiftFactor ≤ 17) (p : Proc ω α) (h : NapiOk shiftFactor c held n m s) :
    Sat (NssMove shiftFactor) (NapiIteration.Guarantee shiftFactor)
      (fun _ => NapiOk shiftFactor c held n m) (p.zoom NapiState.host NapiState.setHost) s :=
  Sat.zoom_frame p (napiOk_stable hs)
    (fun _ _ h => ⟨h.cause_eq, h.resting, h.signalled, h.awake, h.processed, h.completed⟩)
    (fun _ _ _ => .quiet rfl rfl rfl) h

theorem nonqueue_kept (hs : shiftFactor ≤ 17) (hd : Handlers ω) (cause : U32)
    (h : NapiOk shiftFactor c held n m s) :
    Sat (NssMove shiftFactor) (NapiIteration.Guarantee shiftFactor)
      (fun _ => NapiOk shiftFactor c held n m) (nssCoreHandleCauseNonqueue hd cause) s := by
  unfold nssCoreHandleCauseNonqueue
  split
  · refine Sat.act (napiOk_stable hs) h fun t ht _ => ?_
    split
    · exact ⟨.quiet rfl rfl rfl, host_kept hs _ (initRings_ok ht)⟩
    · exact ⟨.quiet rfl rfl rfl, host_kept hs _ ht⟩
  · split
    · refine Sat.bind (host_kept hs _ h) fun _ t ht => ?_
      refine Sat.modify (napiOk_stable hs) ht fun u hu => ⟨.quiet rfl rfl rfl, ?_⟩
      have hmask : NapiOk shiftFactor c held n m { u with
          intrMask := u.intrMask &&& ~~~NSS_REGS_N2H_INTR_STATUS_TX_UNBLOCKED } :=
        ⟨hu.cause_eq, hu.resting, hu.signalled, hu.awake, hu.processed, hu.completed⟩
      exact Sat.ret (napiOk_stable hs) hmask
    · exact Sat.ret (napiOk_stable hs) h

theorem weight_spec (hb : 0 < budget) :
    let weight := if budget < (64 : U16).toInt then BitVec.ofInt 16 budget else 64
    weight.toInt = weight.toNat ∧ 0 < weight.toNat ∧ weight.toNat ≤ 64 ∧
      (weight.toNat : ℤ) ≤ budget := by
  have h64 : (64 : U16).toInt = 64 := rfl
  simp only
  split
  · rename_i hlt
    have hint : (BitVec.ofInt 16 budget).toInt = budget := by
      rw [BitVec.toInt_ofInt, Int.bmod_eq_of_le] <;> omega
    have hcond := BitVec.toInt_eq_toNat_cond (BitVec.ofInt 16 budget)
    split at hcond <;> omega
  · rename_i hge
    have hnat : (64 : U16).toNat = 64 := rfl
    omega

theorem sat_passed (hs : shiftFactor ≤ 17) {c' : U32} {n' : ℕ → ℕ} (k : ℕ) {next : U16 × ℤ}
    (hok : NapiOk shiftFactor c' c' n' m s) (hout : Outcome c budget c' k) (hle : (k : ℤ) ≤ budget)
    (hnext : next = (count + BitVec.ofNat 16 k, budget - k)) (htotal : total n' = total n + k) :
    Sat (NssMove shiftFactor) (NapiIteration.Guarantee shiftFactor)
      (Passed shiftFactor c count budget n m) (.ret next) s :=
  Sat.ret (passed_stable hs) ⟨c', n', k, hok, hout, hle, hnext, htotal⟩

theorem iteration_passed (hs : shiftFactor ≤ 17) (hd : Handlers ω) (hb : 0 < budget)
    (h : NapiOk shiftFactor c c n m s) :
    Sat (NssMove shiftFactor) (NapiIteration.Guarantee shiftFactor)
      (Passed shiftFactor c count budget n m) (napiIteration hd c count budget) s := by
  have hnone : (count, budget) = (count + BitVec.ofNat 16 0, budget - (0 : ℕ)) := by simp
  have hspec := prioritizedCause_spec c
  unfold napiIteration
  generalize nssCoreGetPrioritizedCause c = prio at hspec
  cases hspec with
  | queue q mask lt qid bit pending known =>
    obtain ⟨hint, hpos, h64, hle⟩ := weight_spec hb
    simp only [Proc.bind_eq, Proc.pure_eq, qid]
    set weight : U16 := if budget < (64 : U16).toInt then BitVec.ofInt 16 budget else 64
    refine Sat.bind (queue_served hs lt (by omega) h) fun v t ht => ?_
    obtain ⟨hok, hvle, hawake⟩ := ht
    have hv : v.toInt = v.toNat := by
      have hcond := BitVec.toInt_eq_toNat_cond v
      split at hcond <;> omega
    have hword : BitVec.ofNat 16 v.toNat = v := by simp
    have hnext : (count + v, budget - v.toInt) =
        (count + BitVec.ofNat 16 v.toNat, budget - (v.toNat : ℤ)) := by rw [hword, hv]
    have htotal := total_update (n := n) lt v.toNat
    split
    · rename_i hless
      refine sat_retire hs hok ?_ fun u hu => ?_
      · intro p hp hbit
        obtain rfl := bit p hp hbit
        exact hawake (by omega)
      · exact sat_passed hs v.toNat hu (.retired mask _ pending (by omega) known) (by omega) hnext
          htotal
    · exact sat_passed hs v.toNat hok (.worked _ (by omega) known) (by omega) hnext htotal
  | other mask type weight nonQueue bit pending known =>
    have hpass : ∀ t : NapiState ω, NapiOk shiftFactor (c &&& ~~~mask) (c &&& ~~~mask) n m t →
        Sat (NssMove shiftFactor) (NapiIteration.Guarantee shiftFactor)
          (Passed shiftFactor c count budget n m) (.ret (count, budget)) t :=
      fun t ht => sat_passed hs 0 ht (.retired mask 0 pending (by omega) known) (by omega) hnone rfl
    have hbits : ∀ t : NapiState ω, ∀ q < 3, mask.getLsbD q = true → Awake shiftFactor 0 q t := by
      intro t q hq hbit
      rw [bit q hq] at hbit
      cases hbit
    rcases nonQueue with rfl | rfl
    · simp only [Proc.bind_eq, Proc.pure_eq]
      refine Sat.bind (nonqueue_kept hs hd _ h) fun _ t ht => ?_
      exact sat_retire hs ht (hbits t) hpass
    · simp only [Proc.bind_eq, Proc.pure_eq]
      refine Sat.bind (host_kept hs _ h) fun _ t ht => ?_
      exact sat_retire hs ht (hbits t) hpass
  | unknown unknown => exact sat_passed hs 0 h (.unknown unknown) (by omega) hnone rfl

end Iteration
end NssDrv.NapiIteration

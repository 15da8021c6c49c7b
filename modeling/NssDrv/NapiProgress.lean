import NssDrv.BitCount
import NssDrv.NapiHost
import NssDrv.NapiWakeup

set_option autoImplicit false

/-!
# Progress and termination of the NAPI handler

Exactly when a pass of the inner loop clears a pending cause or lowers the
budget, and how many passes a poll can make when only known causes occur, with
the driver's own treatment of each cause.
-/
namespace NssDrv.NapiProgress
open HlosInterface SharedThread ReceiveQueue NapiHandler NapiIteration NapiWakeup BitCount
open NapiHost (Host Surroundings hostHandlers HoldsNone Others Contended Down)

/-- A pass that began with the causes `c` and the budget `budget` got somewhere. -/
def Progress (c : U32) (budget : ℤ) (c' : U32) (budget' : ℤ) : Prop :=
  (∃ i, c.getLsbD i = true ∧ c'.getLsbD i = false) ∨ budget' < budget

/-- No bit outside the causes the prioritiser handles. -/
def Known (x : U32) : Prop := x &&& ~~~NSS_HAL_SUPPORTED_INTERRUPTS = 0

instance (x : U32) : Decidable (Known x) :=
  inferInstanceAs (Decidable (x &&& ~~~NSS_HAL_SUPPORTED_INTERRUPTS = 0))

theorem Known.supported {x : U32} (h : Known x) (hx : x ≠ 0) :
    x &&& NSS_HAL_SUPPORTED_INTERRUPTS ≠ 0 := by
  intro hzero
  apply hx
  have hsplit : (x &&& NSS_HAL_SUPPORTED_INTERRUPTS) ||| (x &&& ~~~NSS_HAL_SUPPORTED_INTERRUPTS) = x := by
    rw [← BitVec.and_or_distrib_left, BitVec.or_not_self, BitVec.and_allOnes]
  rw [← hsplit, hzero, h]
  rfl

theorem Known.of_bits {x y : U32} (h : Known y)
    (hsub : ∀ i, x.getLsbD i = true → y.getLsbD i = true) : Known x := by
  by_contra hx
  obtain ⟨i, hi⟩ := exists_bit hx
  rw [BitVec.getLsbD_and, Bool.and_eq_true] at hi
  have hy : (y &&& ~~~NSS_HAL_SUPPORTED_INTERRUPTS).getLsbD i = true := by
    rw [BitVec.getLsbD_and, hsub i hi.1, hi.2]
    rfl
  rw [h] at hy
  simp at hy

theorem Known.or {x y : U32} (hx : Known x) (hy : Known y) : Known (x ||| y) := by
  unfold Known at *
  rw [BitVec.and_comm, BitVec.and_or_distrib_left, BitVec.and_comm, hx, BitVec.and_comm, hy]
  rfl

theorem outcome_progress {c c' : U32} {budget : ℤ} {k : ℕ} (h : Outcome c budget c' k)
    (hc : c &&& NSS_HAL_SUPPORTED_INTERRUPTS ≠ 0) : Progress c budget c' (budget - k) := by
  cases h with
  | worked k hk => exact .inr (by omega)
  | retired mask k pending room known =>
    obtain ⟨i, hi⟩ := exists_bit pending
    rw [BitVec.getLsbD_and, Bool.and_eq_true] at hi
    refine .inl ⟨i, hi.1, ?_⟩
    rw [BitVec.getLsbD_and, BitVec.getLsbD_not, hi.2]
    simp
  | unknown unknown => exact (hc unknown).elim

section Pass
variable {ω : Type} {shiftFactor m : ℕ} {c : U32} {n : ℕ → ℕ} {s : NapiState ω} {count : U16}
  {budget : ℤ}

theorem iteration_unknown (hd : Handlers ω) (hc : c &&& NSS_HAL_SUPPORTED_INTERRUPTS = 0) :
    napiIteration hd c count budget = .ret (count, budget) := by
  have hspec := prioritizedCause_spec c
  unfold napiIteration
  generalize nssCoreGetPrioritizedCause c = prio at hspec
  cases hspec with
  | queue q mask lt qid bit pending known => exact (known hc).elim
  | other mask type weight nonQueue bit pending known => exact (known hc).elim
  | unknown => rfl

theorem iteration_progress_iff (hs : shiftFactor ≤ 17) (hd : Handlers ω) (hb : 0 < budget)
    (h : NapiOk shiftFactor c c n m s) :
    Sat (NssMove shiftFactor) (NapiIteration.Guarantee shiftFactor)
        (fun next t => Progress c budget t.cause next.2) (napiIteration hd c count budget) s ↔
      c &&& NSS_HAL_SUPPORTED_INTERRUPTS ≠ 0 := by
  constructor
  · intro hsat hc
    rw [iteration_unknown hd hc] at hsat
    rcases hsat s .refl with ⟨i, hi, hclear⟩ | hlt
    · rw [h.cause_eq, hi] at hclear
      cases hclear
    · exact (lt_irrefl budget hlt).elim
  · intro hc
    refine (iteration_passed hs hd hb h).post fun next t ht => ?_
    obtain ⟨c', n', k, hok, hout, _, rfl, _⟩ := ht
    rw [hok.cause_eq]
    exact outcome_progress hout hc

theorem loop_stuck (hs : shiftFactor ≤ 17) (hd : Handlers ω) (hb : 0 < budget) (hne : c ≠ 0)
    (hc : c &&& NSS_HAL_SUPPORTED_INTERRUPTS = 0) (fuel : ℕ) (h : NapiOk shiftFactor c c n m s) :
    Sat (NssMove shiftFactor) (NapiIteration.Guarantee shiftFactor) (fun _ _ => False)
      (napiLoop hd shiftFactor fuel count budget) s := by
  induction fuel generalizing s with
  | zero => trivial
  | succ fuel ih =>
    simp only [napiLoop, Proc.bind_eq]
    refine Sat.read (fun _ _ => .quiet rfl rfl rfl) (napiOk_stable hs) h fun t ht => ?_
    rw [ht.cause_eq, if_pos ⟨hne, by omega⟩, iteration_unknown hd hc]
    exact ih ht

end Pass

/-- What the NSS may still do: raise known causes, `left` bits of them. -/
def work {ω : Type} (shiftFactor : ℕ) (s : NapiState ω) : ℕ :=
  bitCount (pendingCause shiftFactor s.status) + s.left

/-- A move of an NSS that raises known causes only and runs out of them. -/
structure QuietMove {ω : Type} (shiftFactor : ℕ) (s t : NapiState ω) : Prop where
  move : NssMove shiftFactor s t
  known : Known (pendingCause shiftFactor s.status) → Known (pendingCause shiftFactor t.status)
  work_le : work shiftFactor t ≤ work shiftFactor s

/-- What the handler calls of the host ends as long as the others keep to `R`: it
    waits only where `A` holds, halts only in `D` and leaves the host in `I`. -/
structure Concluding {ω : Type} (R : ω → ω → Prop) (A D I : ω → Prop) (hd : Handlers ω) : Prop where
  stable : Stable R I
  body : ∀ d x, I x → I (hd.body d x)
  refill : ∀ uninitialized x, I x → Concludes R A D (fun _ => I) (hd.refill uninitialized) x
  decongest : ∀ x, I x → Concludes R A D (fun _ => I) hd.decongest x
  coredump : ∀ cause x, I x → Concludes R A D (fun _ => I) (hd.coredump cause) x

def Beside {ω : Type} (R : ω → ω → Prop) (shiftFactor : ℕ) (s t : NapiState ω) : Prop :=
  QuietMove shiftFactor s t ∧ R s.host t.host

section Calls
variable {ω α : Type} {R : ω → ω → Prop} {A D I : ω → Prop} {hd : Handlers ω} {shiftFactor : ℕ}
  {s : NapiState ω} {c : U32} {count : U16} {budget : ℤ}

theorem host_stable (h : Stable R I) :
    Stable (Beside R shiftFactor) fun s : NapiState ω => I s.host :=
  fun _ _ hb => h _ _ hb.2

theorem host_concludes {p : Proc ω α} (h : ∀ x, I x → Concludes R A D (fun _ => I) p x)
    (hs : I s.host) :
    Concludes (Beside R shiftFactor) (fun s => A s.host) (fun s => D s.host) (fun _ s => I s.host)
      (p.zoom NapiState.host NapiState.setHost) s := by
  have hall : Stable (Beside R shiftFactor) fun _ : NapiState ω => True := fun _ _ _ h => h
  exact Concludes.zoom (fun _ _ => rfl) hall (fun _ _ h => h) (fun _ _ hb => hb.2)
    (fun _ _ h => h) (fun _ _ h => h) (fun _ _ _ h => h) (h s.host hs) trivial

theorem keep_host (hc : Concluding R A D I hd) {f : NapiState ω → NapiState ω}
    {k : Unit → Proc (NapiState ω) α} {Q : α → NapiState ω → Prop}
    (hf : ∀ s, (f s).host = s.host) (hs : I s.host)
    (hk : ∀ t : NapiState ω, I t.host →
      Concludes (Beside R shiftFactor) (fun s => A s.host) (fun s => D s.host) Q (k ()) t) :
    Concludes (Beside R shiftFactor) (fun s => A s.host) (fun s => D s.host) Q
      ((Proc.modify f).bind k) s :=
  Concludes.modify (host_stable hc.stable) hs fun t ht => hk _ ((hf t).symm ▸ ht)

theorem nonqueue_concludes (hc : Concluding R A D I hd) (cause : U32) (hs : I s.host) :
    Concludes (Beside R shiftFactor) (fun s => A s.host) (fun s => D s.host) (fun _ s => I s.host)
      (nssCoreHandleCauseNonqueue hd cause) s := by
  have hstable : Stable (Beside R shiftFactor) fun s : NapiState ω => I s.host :=
    host_stable hc.stable
  unfold nssCoreHandleCauseNonqueue
  split
  · refine Concludes.act hstable hs (fun _ _ hen => by cases hen) fun t ht _ => ?_
    have ht' : I (if hd.uninitialized t.host = true then t.initRings else t).host := by
      split <;> exact ht
    exact host_concludes (hc.refill _) ht'
  · split
    · refine (host_concludes hc.decongest hs).bind fun _ t ht => ?_
      exact keep_host hc (fun _ => rfl) ht fun u hu => Concludes.ret hstable hu
    · exact Concludes.ret hstable hs

theorem iteration_concludes (hc : Concluding R A D I hd) (hs : I s.host) :
    Concludes (Beside R shiftFactor) (fun s => A s.host) (fun s => D s.host) (fun _ s => I s.host)
      (napiIteration hd c count budget) s := by
  have hstable : Stable (Beside R shiftFactor) fun s : NapiState ω => I s.host :=
    host_stable hc.stable
  have hretire : ∀ (mask : U32) (next : U16 × ℤ) (t : NapiState ω), I t.host →
      Concludes (Beside R shiftFactor) (fun s => A s.host) (fun s => D s.host)
        (fun _ s => I s.host) ((retireCause mask).bind fun _ => .ret next) t :=
    fun mask next t ht => keep_host hc (fun _ => rfl) ht fun u hu => Concludes.ret hstable hu
  unfold napiIteration
  generalize nssCoreGetPrioritizedCause c = prio
  obtain ⟨mask, type, weight⟩ := prio
  simp only
  generalize (if budget < weight.toInt then BitVec.ofInt 16 budget else weight) = weight
  cases type with
  | queue =>
    simp only [Proc.bind_eq, Proc.pure_eq]
    have hqueue : Concludes (Beside R shiftFactor) (fun s => A s.host) (fun s => D s.host)
        (fun _ s => I s.host)
        ((nssCoreHandleCauseQueue hd.body weight).zoom
          (NapiState.port (nssCoreCauseToQueue (mask.setWidth 16)))
          (NapiState.setPort (nssCoreCauseToQueue (mask.setWidth 16)))) s := by
      have hport : Stable (fun p q : N2hPort ω => R p.host q.host) fun p => I p.host :=
        fun _ _ hr h => hc.stable _ _ hr h
      have hcalm : Concludes _ (fun _ => False) (fun _ => False) _ _ _ :=
        Concludes.of_total (handleCauseQueue_total hport hc.body weight
          (p := s.port (nssCoreCauseToQueue (mask.setWidth 16))) hs)
      refine Concludes.zoom (P := fun _ => True) (fun x t => ?_) (fun _ _ _ h => h)
        (fun _ _ h => h) (fun _ _ hb => hb.2) (fun _ _ hf => hf.elim) (fun _ _ hf => hf.elim)
        (fun _ _ _ h => h) hcalm trivial
      simp [NapiState.port, NapiState.setPort]
    refine hqueue.bind fun v t ht => ?_
    split
    · exact hretire _ _ t ht
    · exact Concludes.ret hstable ht
  | nonQueue => exact (nonqueue_concludes hc _ hs).bind fun _ t ht => hretire _ _ t ht
  | emergency =>
    exact (host_concludes (hc.coredump mask) hs).bind fun _ t ht => hretire _ _ t ht
  | invalid => exact Concludes.ret hstable hs

end Calls

section Termination
variable {ω α : Type} {R : ω → ω → Prop} {A D I : ω → Prop} {hd : Handlers ω}
  {shiftFactor m W : ℕ} {c : U32} {n : ℕ → ℕ} {s : NapiState ω} {count : U16} {budget : ℤ}

/-- At most `W` cause bits are pending or still to come, all of them known. -/
def Bounded (shiftFactor W : ℕ) (s : NapiState ω) : Prop :=
  work shiftFactor s ≤ W ∧ Known (pendingCause shiftFactor s.status)

theorem bounded_stable : Stable (QuietMove shiftFactor) (Bounded (ω := ω) shiftFactor W) :=
  fun _ _ hr h => ⟨hr.work_le.trans h.1, hr.known h.2⟩

theorem bounded_act {t : NapiState ω} (h : Bounded shiftFactor W s)
    (hg : NapiIteration.Guarantee shiftFactor s t) : Bounded shiftFactor W t := by
  refine ⟨?_, h.2.of_bits hg.calm⟩
  have hle := bitCount_le hg.calm
  have hwork := h.1
  unfold work at *
  rw [hg.left]
  omega

theorem napiOk_quiet (hs : shiftFactor ≤ 17) {held : U32} :
    Stable (QuietMove shiftFactor) (NapiOk (ω := ω) shiftFactor c held n m) :=
  fun s t hr h => napiOk_stable hs s t hr.move h

theorem iteration_ends (hs : shiftFactor ≤ 17) (hc : Concluding R A D I hd) (hb : 0 < budget)
    (h : NapiOk shiftFactor c c n m s) (hbound : Bounded shiftFactor W s) (hhost : I s.host) :
    Concludes (Beside R shiftFactor) (fun s => A s.host) (fun s => D s.host)
      (fun next t => I t.host ∧ Passed shiftFactor c count budget n m next t ∧
        Bounded shiftFactor W t)
      (napiIteration hd c count budget) s := by
  have hsat : Sat (Beside R shiftFactor) (NapiIteration.Guarantee shiftFactor)
      (Passed shiftFactor c count budget n m) (napiIteration hd c count budget) s :=
    (iteration_passed hs hd hb h).mono (fun _ _ hr => hr.1.move) (fun _ _ hg => hg) (fun _ _ h => h)
  have hkeep := hsat.keep (fun t u hb => bounded_stable t u hb.1) (fun _ _ hp hg => bounded_act hp hg)
    hbound
  exact (iteration_concludes hc hhost).sat hkeep

theorem pending_kept (hs : shiftFactor ≤ 17) {x : U32} (hx : ∀ i, x.getLsbD i = true → i < 15)
    {t : NapiState ω} (hr : NssMove shiftFactor s t)
    (h : ∀ i, x.getLsbD i = true → (pendingCause shiftFactor s.status).getLsbD i = true) (i : ℕ)
    (hi : x.getLsbD i = true) : (pendingCause shiftFactor t.status).getLsbD i = true :=
  (hr.signalled hs (hx i hi)).1 (h i hi)

def Read (shiftFactor W : ℕ) (c x : U32) (s : NapiState ω) : Prop :=
  s.cause = c ∧ Bounded shiftFactor W s ∧
    ∀ i, x.getLsbD i = true → (pendingCause shiftFactor s.status).getLsbD i = true

/-- After it: the bits read no longer count as work to come. -/
def Cleared (shiftFactor W : ℕ) (c x : U32) (s : NapiState ω) : Prop :=
  s.cause = c ∧ Known x ∧ bitCount x ≤ W ∧ Bounded shiftFactor (W - bitCount x) s

theorem read_cleared (hs : shiftFactor ≤ 17) {x : U32} (h : Read shiftFactor W c x s) :
    Cleared shiftFactor W c x { s with status := s.status &&& ~~~(x <<< shiftFactor) } := by
  obtain ⟨hcause, ⟨hwork, hknown⟩, hsub⟩ := h
  have hcount := bitCount_clear hsub
  have hle := bitCount_le hsub
  refine ⟨hcause, hknown.of_bits hsub, ?_, ?_, ?_⟩
  · unfold work at hwork
    omega
  · unfold work at *
    rw [pendingCause_clear hs]
    simp only
    omega
  · rw [pendingCause_clear hs]
    refine hknown.of_bits fun i hi => ?_
    rw [BitVec.getLsbD_and, Bool.and_eq_true] at hi
    exact hi.1

theorem latch_counted (hs : shiftFactor ≤ 17) (hcause : s.cause = c)
    (hbound : Bounded shiftFactor W s) :
    Total (QuietMove shiftFactor) (fun _ t => ∃ x, Cleared shiftFactor W (c ||| x) x t)
      (latchCause shiftFactor) s := by
  have hstart : Stable (QuietMove shiftFactor) fun t : NapiState ω =>
      t.cause = c ∧ Bounded shiftFactor W t :=
    fun t u hr h => ⟨hr.move.cause_eq.trans h.1, bounded_stable t u hr h.2⟩
  simp only [latchCause, Proc.bind_eq]
  refine Total.read hstart ⟨hcause, hbound⟩ fun t ht => ?_
  set x := pendingCause shiftFactor t.status with hxdef
  have hx : ∀ i, x.getLsbD i = true → i < 15 := by
    intro i hi
    rw [hxdef, pendingCause_bit, Bool.and_eq_true] at hi
    exact of_decide_eq_true hi.2
  have hread : Stable (QuietMove shiftFactor) (Read (ω := ω) shiftFactor W c x) := by
    rintro u v hr ⟨h₁, h₂, h₃⟩
    exact ⟨hr.move.cause_eq.trans h₁, bounded_stable u v hr h₂, pending_kept hs hx hr.move h₃⟩
  have hcleared : ∀ c, Stable (QuietMove shiftFactor) (Cleared (ω := ω) shiftFactor W c x) := by
    rintro c u v hr ⟨h₁, h₂, h₃, h₄⟩
    exact ⟨hr.move.cause_eq.trans h₁, h₂, h₃, bounded_stable u v hr h₄⟩
  refine Total.modify hread ⟨ht.1, ht.2, fun i hi => hi⟩ fun u hu => ?_
  intro v hv
  have hclear := (hcleared c).star hv (read_cleared hs hu)
  refine ⟨rfl, fun w hw => ⟨x, (hcleared (c ||| x)).star hw ?_⟩⟩
  obtain ⟨h₁, h₂, h₃, h₄⟩ := hclear
  exact ⟨congrArg (· ||| x) h₁, h₂, h₃, h₄⟩

theorem latch_ends (hs : shiftFactor ≤ 17) (h : NapiOk shiftFactor c c n m s)
    (hbound : Bounded shiftFactor W s) :
    Total (QuietMove shiftFactor) (fun _ t => ∃ x, NapiOk shiftFactor (c ||| x) (c ||| x) n m t ∧
      Cleared shiftFactor W (c ||| x) x t) (latchCause shiftFactor) s := by
  have hsat : Sat (QuietMove shiftFactor) (NapiIteration.Guarantee shiftFactor)
      (fun _ t => ∃ x, NapiOk shiftFactor (c ||| x) (c ||| x) n m t) (latchCause shiftFactor) s :=
    (latch_kept hs h).mono (fun _ _ hr => hr.move) (fun _ _ hg => hg) (fun _ _ h => h)
  refine ((latch_counted hs h.cause_eq hbound).sat hsat).mono (fun _ _ hr => hr) fun _ t ht => ?_
  obtain ⟨⟨x, hx⟩, y, hy⟩ := ht
  have hsame : c ||| y = c ||| x := by rw [← hy.cause_eq, hx.1]
  rw [hsame] at hy
  exact ⟨x, hy, hx⟩

theorem latch_concludes (hs : shiftFactor ≤ 17) (hc : Concluding R A D I hd)
    (h : NapiOk shiftFactor c c n m s) (hbound : Bounded shiftFactor W s) (hhost : I s.host) :
    Concludes (Beside R shiftFactor) (fun s => A s.host) (fun s => D s.host)
      (fun _ t => (∃ x, NapiOk shiftFactor (c ||| x) (c ||| x) n m t ∧
        Cleared shiftFactor W (c ||| x) x t) ∧ True ∧ I t.host) (latchCause shiftFactor) s := by
  have htotal : Total (Beside R shiftFactor) _ _ _ :=
    (latch_ends hs h hbound).mono (fun _ _ hr => hr.1) fun _ _ ht => ht
  have hsame : Sat (Beside R shiftFactor) (fun s t => t.host = s.host) (fun _ _ => True)
      (latchCause (ω := ω) shiftFactor) s :=
    fun _ _ _ => ⟨rfl, fun _ _ _ => ⟨rfl, fun _ _ _ => ⟨rfl, fun _ _ => trivial⟩⟩⟩
  have hkeep := hsame.keep (host_stable hc.stable) (fun t u ht heq => by rw [heq]; exact ht) hhost
  exact (Concludes.of_total htotal).sat hkeep

/-- How many times the inner test can still be made. -/
def passes (W : ℕ) (c : U32) (budget : ℤ) : ℕ := budget.toNat + 2 * bitCount c + 3 * W

theorem finish_ends (s : NapiState ω) :
    Concludes (Beside R shiftFactor) (fun s => A s.host) (fun s => D s.host) (fun _ _ => True)
      (napiFinish shiftFactor count) s := by
  have h : Total (fun _ _ => True) (fun _ _ => True) (napiFinish shiftFactor count) s := by
    simp only [napiFinish, Proc.bind_eq, Proc.pure_eq]
    refine total_read (fun cause s => ?_) s
    split
    · exact total_modify (fun s => total_modify (fun s => total_ret s) s) s
    · exact total_ret s
  exact Concludes.of_total (h.mono (fun _ _ _ => trivial) fun _ _ h => h)

theorem loop_ends (hs : shiftFactor ≤ 17) (hret : Concluding R A D I hd) (fuel : ℕ)
    (hb : 0 ≤ budget) (hc : Known c) (hfuel : passes W c budget < fuel)
    (h : NapiOk shiftFactor c c n m s) (hbound : Bounded shiftFactor W s) (hhost : I s.host) :
    Concludes (Beside R shiftFactor) (fun s => A s.host) (fun s => D s.host) (fun _ _ => True)
      (napiLoop hd shiftFactor fuel count budget) s := by
  induction fuel generalizing W c n s count budget with
  | zero => omega
  | succ fuel ih =>
    have hplace : Stable (Beside R shiftFactor) fun t : NapiState ω =>
        (NapiOk shiftFactor c c n m t ∧ Bounded shiftFactor W t) ∧ I t.host :=
      fun t u hr ht => ⟨⟨napiOk_quiet hs t u hr.1 ht.1.1, bounded_stable t u hr.1 ht.1.2⟩,
        hret.stable _ _ hr.2 ht.2⟩
    simp only [napiLoop, Proc.bind_eq]
    refine Concludes.read hplace ⟨⟨h, hbound⟩, hhost⟩ fun t ht => ?_
    rw [ht.1.1.cause_eq]
    split
    · rename_i hgo
      refine (iteration_ends hs hret (by omega) ht.1.1 ht.1.2 ht.2).bind fun next u hu => ?_
      obtain ⟨hhost', ⟨c', n', k, hok, hout, hle, rfl, _⟩, hbound'⟩ := hu
      unfold passes at hfuel
      cases hout with
      | worked k some known =>
        exact ih (by simpa using hle) hc (by unfold passes; simp only; omega) hok hbound' hhost'
      | retired mask k pending room known =>
        have hlt := bitCount_clear_lt pending
        have hsub : Known (c &&& ~~~mask) := hc.of_bits fun i hi => by
          rw [BitVec.getLsbD_and, Bool.and_eq_true] at hi
          exact hi.1
        exact ih (by simpa using hle) hsub (by unfold passes; simp only; omega) hok hbound' hhost'
      | unknown unknown => exact (hc.supported hgo.1 unknown).elim
    · rename_i hexit
      refine (latch_concludes hs hret ht.1.1 ht.1.2 ht.2).bind fun _ u hu => ?_
      obtain ⟨⟨x, hok, hcleared⟩, _, hhost'⟩ := hu
      have hplace' : Stable (Beside R shiftFactor) fun t : NapiState ω =>
          (NapiOk shiftFactor (c ||| x) (c ||| x) n m t ∧
            Cleared shiftFactor W (c ||| x) x t) ∧ I t.host :=
        fun t u hr ht => ⟨⟨napiOk_quiet hs t u hr.1 ht.1.1, hr.1.move.cause_eq.trans ht.1.2.1,
          ht.1.2.2.1, ht.1.2.2.2.1, bounded_stable t u hr.1 ht.1.2.2.2.2⟩,
          hret.stable _ _ hr.2 ht.2⟩
      refine Concludes.read hplace' ⟨⟨hok, hcleared⟩, hhost'⟩ fun v hv => ?_
      rw [hv.1.1.cause_eq]
      split
      · rename_i hgo
        -- the loop goes on only with causes that were pending in the register
        have hzero : c = 0 := by
          by_contra hne
          exact hexit ⟨hne, hgo.2⟩
        subst hzero
        obtain ⟨⟨hok', _, hknown, hle, hbound'⟩, hhost''⟩ := hv
        have hor : (0 : U32) ||| x = x := BitVec.zero_or
        rw [hor] at hok' hgo
        have hpos := bitCount_pos hgo.1
        refine ih hb hknown ?_ hok' hbound' hhost''
        unfold passes at *
        omega
      · exact finish_ends v

theorem napi_ends (hs : shiftFactor ≤ 17) (hret : Concluding R A D I hd) (fuel : ℕ)
    (hb : 0 ≤ budget) (hc : Known c) (hfuel : passes W c budget < fuel)
    (h : NapiOk shiftFactor c c n m s) (hbound : Bounded shiftFactor W s) (hhost : I s.host) :
    Concludes (Beside R shiftFactor) (fun s => A s.host) (fun s => D s.host) (fun _ _ => True)
      (nssCoreHandleNapi hd shiftFactor fuel budget) s := by
  simp only [nssCoreHandleNapi, Proc.bind_eq]
  refine (latch_concludes hs hret h hbound hhost).bind fun _ t ht => ?_
  obtain ⟨⟨x, hok, _, hknown, hle, hbound'⟩, _, hhost'⟩ := ht
  refine loop_ends hs hret fuel hb (hc.or hknown) ?_ hok hbound' hhost'
  have hor : bitCount (c ||| x) ≤ bitCount c + bitCount x := bitCount_or_le
  unfold passes at *
  omega

end Termination

theorem host_concluding {ω : Type} (k : Surroundings ω) (own : ℕ) :
    Concluding (Others own) (Contended own) Down (HoldsNone own) (hostHandlers k own) where
  stable := NapiHost.holdsNone_stable
  body _ _ h := ⟨h.c2c, h.decongestCbLock⟩
  refill uninitialized _ h := NapiHost.refill_concludes uninitialized h
  decongest _ h := NapiHost.decongest_concludes h
  coredump _ _ h := NapiHost.coredump_concludes h

/-- Whatever becomes of a cause, a pass makes progress exactly if one that it knows is
    pending, and with unknown causes alone the loop never ends. With the driver's own
    treatment of each cause, and as long as only known causes occur, a poll ends,
    whatever its budget, within a bound fixed by the causes still to come: it waits
    only for locks that others hold, and does not return only where the system has
    gone down. -/
theorem napi_progress {ω τ : Type} {shiftFactor : ℕ} (hs : shiftFactor = 0 ∨ shiftFactor = 15)
    (hd : Handlers τ) (k : Surroundings ω) (own : ℕ) :
    (∀ s c n m count budget, NapiOk shiftFactor c c n m s → 0 < budget →
      (Sat (NssMove shiftFactor) (NapiIteration.Guarantee shiftFactor)
          (fun next t => Progress c budget t.cause next.2) (napiIteration hd c count budget) s ↔
        c &&& NSS_HAL_SUPPORTED_INTERRUPTS ≠ 0)) ∧
    (∀ s c n m W budget fuel, NapiOk shiftFactor c c n m s → 0 ≤ budget → Known c →
      Bounded shiftFactor W s → HoldsNone own s.host → passes W c budget < fuel →
        Concludes (Beside (Others own) shiftFactor) (fun s => Contended own s.host)
          (fun s => Down s.host) (fun _ _ => True)
          (nssCoreHandleNapi (hostHandlers k own) shiftFactor fuel budget) s) ∧
    ∀ s c n m count budget fuel, NapiOk shiftFactor c c n m s → 0 < budget → c ≠ 0 →
      c &&& NSS_HAL_SUPPORTED_INTERRUPTS = 0 →
        Sat (NssMove shiftFactor) (NapiIteration.Guarantee shiftFactor) (fun _ _ => False)
          (napiLoop hd shiftFactor fuel count budget) s := by
  have hs17 : shiftFactor ≤ 17 := by omega
  refine ⟨?_, ?_, ?_⟩
  · intro s c n m count budget h hb
    exact iteration_progress_iff hs17 hd hb h
  · intro s c n m W budget fuel h hb hc hbound hhost hfuel
    exact napi_ends hs17 (host_concluding k own) fuel hb hc hfuel h hbound hhost
  · intro s c n m count budget fuel h hb hne hc
    exact loop_stuck hs17 hd hb hne hc fuel h

/-- Bit 3 of the register: let through by the mask, unknown to the prioritiser. -/
def stuckState : NapiState Unit := { bootState with status := 8 }

theorem napi_spins : ¬ ∃ fuel v t,
    (nssCoreHandleNapi quietHandlers 0 fuel 64).exec stuckState = some (v, t) := by
  rintro ⟨fuel, v, t, hexec⟩
  let latched : NapiState Unit := { bootState with cause := 8 }
  have hlatch : (latchCause 0).exec stuckState = some ((), latched) := rfl
  rw [nssCoreHandleNapi, Proc.bind_eq, Proc.exec_bind, hlatch] at hexec
  have hok : NapiOk 0 8 8 (fun _ => 0) 0 latched := by
    obtain ⟨hempty, _⟩ := bootState_booted
    refine ⟨rfl, fun q hq => (hempty q hq).resting, fun _ _ => le_rfl, fun _ _ => ?_, fun _ _ => rfl,
      rfl⟩
    exact .inr (.inr le_rfl)
  exact (loop_stuck (by decide) quietHandlers (by decide) (by decide) (by decide) fuel hok).exec hexec

/-- Core 1 is up, core 0 is not; one client waits for room on core 0's data ring. -/
def firstHost : Host ℕ :=
  { c2c := { C2cExchange.downTop with state := fun i => if i = 1 then 1 else 0 },
    dump := CoreDump.bootedTop, refill := RefillResources.emptyQueue, decongestCbLock := none,
    clients := [⟨7, 1⟩], dataRingFlags := 1, rest := 0 }

/-- Descriptors count one each, calls of a client a hundred. -/
def counting : Surroundings ℕ :=
  { body := fun _ calls => calls + 1, call := fun _ calls => calls + 100,
    bringUp := fun _ => ⟨true, [.enqueued], fun _ _ => .enqueued⟩,
    env := fun _ => RefillResources.twoPages }

def firstState (cause : U32) : NapiState (Host ℕ) :=
  { status := 0, intrMask := 0, cause := cause, queue := fun _ => emptyN2hRing 4, host := firstHost,
    signalled := fun _ => 0, left := 0, completed := 0 }

theorem firstState_ok (c : U32) : NapiOk 0 c c (fun _ => 0) 0 (firstState c) := by
  obtain ⟨hempty, _⟩ := bootState_booted
  exact ⟨rfl, fun q hq => (hempty q hq).resting, fun _ _ => le_rfl, fun _ _ => .inr (.inr le_rfl),
    fun _ _ => rfl, rfl⟩

/-- Two packets on the data queue, the empty buffers and the room on the data ring. -/
def firstCauses : U32 :=
  NSS_REGS_N2H_INTR_STATUS_EMPTY_BUFFERS_SOS ||| NSS_REGS_N2H_INTR_STATUS_TX_UNBLOCKED |||
    NSS_REGS_N2H_INTR_STATUS_DATA_COMMAND_QUEUE

def pendingState : NapiState (Host ℕ) :=
  { firstState 0 with
    status := 0 ||| ((firstCauses &&& 0x7FFF) <<< 0)
    queue := Function.update (firstState 0).queue 1 ((emptyN2hRing 4).produce 2)
    signalled := fun q => if firstCauses.getLsbD q then
      (Function.update (firstState 0).queue 1 ((emptyN2hRing 4).produce 2) q).produced.length else 0 }

theorem pendingState_ok : NapiOk 0 0 0 (fun _ => 0) 0 pendingState := by
  have hproduced := napiOk_stable (by decide) _ _
    (NssMove.ring (firstState 0) 1 (.produce (emptyN2hRing 4) 2 (by decide))) (firstState_ok 0)
  exact napiOk_stable (by decide) _ _ (.raise _ firstCauses 0) hproduced

/-- The poll of a core that comes up with all of it to do, the first pass of it, and
    the loop with a cause that nobody knows. -/
theorem napi_progress_first :
    (∃ t, (nssCoreHandleNapi (hostHandlers counting 0) 0 74 64).exec pendingState = some (2, t) ∧
      t.completed = 1 ∧ t.host.rest = 102 ∧ t.host.c2c.sends.length = 2 ∧
        t.host.refill.skbs.length = 2) ∧
    Concludes (Beside (Others 0) 0) (fun s => Contended 0 s.host) (fun s => Down s.host)
      (fun _ _ => True) (nssCoreHandleNapi (hostHandlers counting 0) 0 74 64) pendingState ∧
    (∃ t, (latchCause 0).exec pendingState = some ((), t) ∧
      Sat (NssMove 0) (NapiIteration.Guarantee 0)
        (fun next u => Progress firstCauses 64 u.cause next.2)
        (napiIteration (hostHandlers counting 0) firstCauses 0 64) t) ∧
    Sat (NssMove 0) (NapiIteration.Guarantee 0) (fun _ _ => False)
      (napiLoop (hostHandlers counting 0) 0 74 0 64) (firstState 8) := by
  obtain ⟨hpass, hends, hstuck⟩ := napi_progress (.inl rfl) (hostHandlers counting 0) counting 0
  refine ⟨⟨_, rfl, rfl, rfl, rfl, rfl⟩, ?_, ⟨_, rfl, ?_⟩, ?_⟩
  · exact hends pendingState 0 _ 0 3 64 74 pendingState_ok (by decide) (by decide)
      ⟨by decide, by decide⟩ ⟨⟨nofun, fun _ => nofun⟩, nofun⟩ (by decide)
  · obtain ⟨x, hx⟩ := (latch_kept (by decide) pendingState_ok).exec rfl
    have hcauses : (0 : U32) ||| x = firstCauses := hx.cause_eq.symm
    rw [hcauses] at hx
    exact (hpass _ firstCauses _ 0 0 64 hx (by decide)).mpr (by decide)
  · exact hstuck (firstState 8) 8 _ 0 0 64 74 (firstState_ok 8) (by decide) (by decide) (by decide)

end NssDrv.NapiProgress

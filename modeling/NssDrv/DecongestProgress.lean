import Mathlib.Data.Prod.Lex
import NssDrv.DecongestRuns
import NssDrv.FairRuns
import NssDrv.NapiProgress

set_option autoImplicit false

/-!
# A raised `TX_UNBLOCKED` reaches the callbacks

Where a raised cause is on its way from the register to the callbacks, and the
rank that every access of the poll lowers until it is there.
-/
namespace NssDrv.DecongestProgress
open HlosInterface NapiHandler NapiIteration NapiProgress BitCount TransitionRuns FairRuns
open SlotTables DecongestPoll DecongestRuns
variable {ι : Type} {s t : DecongestState ι} {l : Label ι} {c : U32} {f : ℕ}

/-! ## Causes the prioritiser knows -/

/-- What the poll has read and not yet latched. -/
def heldCause : PollPc → U32
  | .clear _ _ intCause => intCause
  | .latch _ _ intCause => intCause
  | _ => 0

structure KnownCauses (s : DecongestState ι) : Prop where
  status : Known (pendingCause 0 s.status)
  held : Known (heldCause s.poll)
  cause : Known s.cause

theorem known_zero : Known 0 := rfl

theorem known_clear {x y : U32} (h : Known x) : Known (x &&& ~~~y) := by
  apply h.of_bits
  intro i hi
  rw [BitVec.getLsbD_and, Bool.and_eq_true] at hi
  exact hi.1

theorem pendingCause_or {x y : U32} :
    pendingCause 0 (x ||| y) = pendingCause 0 x ||| pendingCause 0 y := by
  apply BitVec.eq_of_getLsbD_eq
  intro i _
  rw [BitVec.getLsbD_or, pendingCause_bit, pendingCause_bit, pendingCause_bit, BitVec.getLsbD_or]
  exact Bool.and_or_distrib_right _ _ _

theorem pendingCause_sub {x y : U32} (i : ℕ)
    (h : (pendingCause 0 (x &&& ~~~y)).getLsbD i = true) : (pendingCause 0 x).getLsbD i = true := by
  rw [pendingCause_bit, Bool.and_eq_true] at h ⊢
  obtain ⟨hbit, hlt⟩ := h
  rw [BitVec.getLsbD_and, Bool.and_eq_true] at hbit
  exact ⟨hbit.1, hlt⟩

theorem KnownCauses.pollStep (h : KnownCauses s) : KnownCauses (pollStep s) := by
  have hheld := h.held
  unfold DecongestPoll.pollStep
  cases hpc : s.poll with
  | idle => exact h
  | read again budget => exact ⟨h.status, h.status, h.cause⟩
  | clear again budget intCause =>
    rw [hpc] at hheld
    exact ⟨h.status.of_bits pendingCause_sub, hheld, h.cause⟩
  | latch again budget intCause =>
    rw [hpc] at hheld
    cases again with
    | false => exact ⟨h.status, known_zero, h.cause.or hheld⟩
    | true => exact ⟨h.status, known_zero, h.cause.or hheld⟩
  | inner budget =>
    dsimp only
    split <;> exact ⟨h.status, known_zero, h.cause⟩
  | handle budget prioCause causeType weight =>
    unfold handleCause
    cases causeType with
    | queue =>
      dsimp only
      refine ⟨h.status, ?_, h.cause⟩
      dsimp only
      split <;> exact known_zero
    | nonQueue =>
      dsimp only
      split <;> exact ⟨h.status, known_zero, h.cause⟩
    | emergency => exact ⟨h.status, known_zero, h.cause⟩
    | invalid => exact ⟨h.status, known_zero, h.cause⟩
  | call budget i =>
    dsimp only
    split <;> exact ⟨h.status, known_zero, h.cause⟩
  | unstop budget => exact ⟨h.status, known_zero, h.cause⟩
  | mask budget => exact ⟨h.status, known_zero, h.cause⟩
  | retire budget prioCause => exact ⟨h.status, known_zero, known_clear h.cause⟩
  | outer budget =>
    dsimp only
    split <;> exact ⟨h.status, known_zero, h.cause⟩
  | finish =>
    dsimp only
    split <;> exact ⟨h.status, known_zero, h.cause⟩
  | complete => exact ⟨h.status, known_zero, h.cause⟩

def RaisesKnown : Label ι → Prop
  | .raise bits => Known (pendingCause 0 bits)
  | _ => True

theorem KnownCauses.step [DecidableEq ι] (h : KnownCauses s) (hstep : Step s l t)
    (hl : RaisesKnown l) : KnownCauses t := by
  cases hstep with
  | raise bits =>
    refine ⟨?_, h.held, h.cause⟩
    rw [pendingCause_or]
    exact h.status.or hl
  | elsewhere status intrMask ring hstatus hmask =>
    refine ⟨?_, h.held, h.cause⟩
    rw [hstatus]
    exact h.status
  | softirq budget hsched hidle hbudget => exact ⟨h.status, known_zero, h.cause⟩
  | poll hready => exact h.pollStep
  | _ => exact ⟨h.status, h.held, h.cause⟩

theorem prioritized_known {prioCause : U32} {causeType : CauseType} {full : U16} (hc : c ≠ 0)
    (hk : Known c) (h : nssCoreGetPrioritizedCause c = (prioCause, causeType, full)) :
    causeType ≠ .invalid := by
  rintro rfl
  have hspec := prioritizedCause_spec c
  rw [h] at hspec
  cases hspec with
  | other _ _ _ hother => rcases hother with h | h <;> cases h
  | unknown hunknown => exact hk.supported hc hunknown

/-! ## On the way to the callbacks -/

/-- The poll has taken `TX_UNBLOCKED` out of `int_ctx->cause` and not yet retired it. -/
def handling : PollPc → Bool
  | .call _ _ => true
  | .unstop _ => true
  | .mask _ => true
  | .retire _ prioCause => prioCause = NSS_REGS_N2H_INTR_STATUS_TX_UNBLOCKED
  | _ => false

/-- The loop over the callbacks has still to come to `f`. -/
def ahead (f : ℕ) (s : DecongestState ι) : Bool :=
  match s.poll with
  | .call _ i => (s.clients.drop i).any fun client => client.callback = f
  | _ => false

def latched (s : DecongestState ι) : Bool := txUnblocked s.cause && !handling s.poll

def held (s : DecongestState ι) : Bool := txUnblocked (heldCause s.poll)

def Owed (f : ℕ) (s : DecongestState ι) : Prop :=
  ahead f s = true ∨ latched s = true ∨ held s = true ∨ txUnblocked s.status = true

def Registered (f : ℕ) (s : DecongestState ι) : Prop := ∃ client ∈ s.clients, client.callback = f

def invokes (f : ℕ) : Label ι → Bool
  | .invoke client => client.callback = f
  | _ => false

/-! ## The rank -/

def phase (f : ℕ) (s : DecongestState ι) : ℕ :=
  if ahead f s then 0 else if latched s then 1 else if held s then 2 else 3

/-- The order of the accesses once the cause is latched. Without a budget the poll
    ends, and the next one comes to the cause. -/
def latchedStage : PollPc → ℕ
  | .inner budget => if budget = 0 then 12 else 2
  | .read true _ => 11
  | .clear true _ _ => 10
  | .latch true _ _ => 9
  | .outer _ => 8
  | .finish => 7
  | .idle => 6
  | .read false _ => 5
  | .clear false _ _ => 4
  | .latch false _ _ => 3
  | _ => 2

def latchedOffset : PollPc → ℕ
  | .inner _ => 2
  | .handle _ _ _ _ => 1
  | _ => 0

def raisedStage (s : DecongestState ι) : ℕ :=
  match s.poll with
  | .read _ _ => 0
  | .idle =>
    if s.sched then 1 else if s.isr then 2 else if txUnblocked s.intrMask then 3 else 4
  | .complete => 5
  | .finish => 6
  | .latch false _ _ => 8
  | .clear false _ _ => 9
  | .outer _ => 10
  | .latch true _ _ => 11
  | .clear true _ _ => 12
  | _ => 7

def raisedOffset (clients : ℕ) : PollPc → ℕ
  | .inner _ => clients + 7
  | .handle _ _ _ _ => clients + 6
  | .call _ i => clients - i + 5
  | .unstop _ => 4
  | .mask _ => 3
  | .retire _ _ => 2
  | _ => 0

def budgetLeft : PollPc → ℕ
  | .inner budget => budget.toNat
  | .handle budget _ _ _ => budget.toNat
  | .call budget _ => budget.toNat
  | .unstop budget => budget.toNat
  | .mask budget => budget.toNat
  | .retire budget _ => budget.toNat
  | _ => 0

def toCall (clients : ℕ) : PollPc → ℕ
  | .call _ i => clients - i
  | _ => 0

def heldStage : PollPc → ℕ
  | .clear _ _ _ => 1
  | _ => 0

def detail (s : DecongestState ι) : ℕ → ℕ ×ₗ ℕ ×ₗ ℕ
  | 0 => toLex (0, toLex (0, toCall s.clients.length s.poll))
  | 1 => toLex (latchedStage s.poll, toLex (bitCount s.cause, latchedOffset s.poll))
  | 2 => toLex (0, toLex (0, heldStage s.poll))
  | _ => toLex (raisedStage s,
      toLex (budgetLeft s.poll + bitCount s.cause, raisedOffset s.clients.length s.poll))

def rank (f : ℕ) (s : DecongestState ι) : ℕ ×ₗ ℕ ×ₗ ℕ ×ₗ ℕ :=
  toLex (phase f s, detail s (phase f s))

theorem phase_le : phase f s ≤ 3 := by
  unfold phase
  repeat' split
  all_goals decide

theorem phase_ahead (h : ahead f s = true) : phase f s = 0 := if_pos h

theorem phase_latched (h : latched s = true) : phase f s ≤ 1 := by
  unfold phase
  rw [if_pos h]
  split <;> decide

theorem phase_held (h : held s = true) : phase f s ≤ 2 := by
  unfold phase
  rw [if_pos h]
  repeat' split
  all_goals decide

theorem rank_lower (hphase : phase f t ≤ phase f s)
    (hdetail : detail t (phase f s) < detail s (phase f s)) : rank f t < rank f s := by
  refine Prod.Lex.toLex_lt_toLex.mpr ?_
  rcases Nat.lt_or_eq_of_le hphase with hlt | heq
  · exact .inl hlt
  · refine .inr ⟨heq, ?_⟩
    dsimp only
    rw [heq]
    exact hdetail

theorem rank_drop (hphase : phase f t < phase f s) : rank f t < rank f s :=
  Prod.Lex.toLex_lt_toLex.mpr (.inl hphase)

/-! ## What the poll does about it -/

/-- The obligation is kept and closer to the callbacks. -/
def Closer (f : ℕ) (s t : DecongestState ι) : Prop := Owed f t ∧ rank f t < rank f s

theorem ahead_closer (h : ahead f s = true) (hf : f ≠ 0) :
    invokes f (pollLabel s) = true ∨ Closer f s (pollStep s) := by
  have hphase := phase_ahead h
  unfold ahead at h
  cases hpc : s.poll with
  | call budget i =>
    rw [hpc] at h
    dsimp only at h
    have hlt : i < s.clients.length := by
      by_contra hge
      rw [List.drop_eq_nil_of_le (not_lt.mp hge)] at h
      cases h
    have hstep : pollStep s = { s with poll := .call budget (i + 1) } := by
      simp only [pollStep, hpc, if_pos hlt]
    rw [List.drop_eq_getElem_cons hlt, List.any_cons, Bool.or_eq_true, decide_eq_true_eq] at h
    rcases h with hcallback | hrest
    · left
      have hnull : s.clients[i].callback ≠ 0 := hcallback ▸ hf
      have hlabel : pollLabel s = .invoke s.clients[i] := by
        simp only [pollLabel, hpc, List.getElem?_eq_getElem hlt, if_neg hnull]
      rw [hlabel]
      exact decide_eq_true hcallback
    · right
      have hahead : ahead f (pollStep s) = true := by
        rw [hstep]
        exact hrest
      refine ⟨.inl hahead, rank_lower (by rw [phase_ahead hahead, hphase]) ?_⟩
      rw [hphase, hstep]
      refine Prod.Lex.toLex_lt_toLex.mpr (.inr ⟨rfl, ?_⟩)
      refine Prod.Lex.toLex_lt_toLex.mpr (.inr ⟨rfl, ?_⟩)
      unfold toCall
      rw [hpc]
      dsimp only
      omega
  | _ =>
    rw [hpc] at h
    cases h

theorem detail_latched (h : latchedStage t.poll < latchedStage s.poll ∨
      latchedStage t.poll = latchedStage s.poll ∧ (bitCount t.cause < bitCount s.cause ∨
        bitCount t.cause = bitCount s.cause ∧ latchedOffset t.poll < latchedOffset s.poll)) :
    detail t 1 < detail s 1 := by
  simp only [detail, Prod.Lex.toLex_lt_toLex]
  exact h

theorem latched_poll (h : latched s = true) : handling s.poll = false ∧ txUnblocked s.cause = true := by
  unfold latched at h
  rw [Bool.and_eq_true, Bool.not_eq_true'] at h
  exact ⟨h.2, h.1⟩

theorem latched_phase (h : latched s = true) : phase f s = 1 := by
  have hahead : ahead f s = false := by
    have hpoll := (latched_poll h).1
    unfold ahead
    split
    · rename_i hpc
      rw [hpc] at hpoll
      cases hpoll
    · rfl
  unfold phase
  rw [hahead, if_neg (fun h => nomatch h), if_pos h]

theorem latched_goes (h : latched s = true) (hnext : latched t = true)
    (hlower : latchedStage t.poll < latchedStage s.poll ∨
      latchedStage t.poll = latchedStage s.poll ∧ (bitCount t.cause < bitCount s.cause ∨
        bitCount t.cause = bitCount s.cause ∧ latchedOffset t.poll < latchedOffset s.poll)) :
    Closer f s t := by
  refine ⟨.inr (.inl hnext), rank_lower ?_ ?_⟩
  · rw [latched_phase h, latched_phase hnext]
  · rw [latched_phase h]
    exact detail_latched hlower

theorem stage_inner {budget : ℤ} (h : budget ≠ 0) : latchedStage (.inner budget) = 2 := if_neg h

theorem latched_intro (hcause : txUnblocked t.cause = true) (hpoll : handling t.poll = false) :
    latched t = true := by
  unfold latched
  rw [hcause, hpoll]
  rfl

/-- The poll is at the empty buffers, of which it takes up to `weight`. -/
def AtEmpty (s : DecongestState ι) (weight : ℤ) : Prop :=
  ∃ budget, s.poll = .handle budget NSS_REGS_N2H_INTR_STATUS_EMPTY_BUFFER_QUEUE .queue weight

/-- This pass over them uses up its weight. -/
def Whole (s : DecongestState ι) : Prop :=
  ∃ weight, AtEmpty s weight ∧ weight ≤ s.backlog NSS_IF_EMPTY_BUFFER_QUEUE

/-- This pass over them comes up short. -/
def Short (s : DecongestState ι) : Prop :=
  ∃ weight, AtEmpty s weight ∧ s.backlog NSS_IF_EMPTY_BUFFER_QUEUE < weight

theorem empty_queue : nssCoreCauseToQueue
    (NSS_REGS_N2H_INTR_STATUS_EMPTY_BUFFER_QUEUE.setWidth 16) = NSS_IF_EMPTY_BUFFER_QUEUE := by
  decide

/-- With the cause latched only whole passes over the empty buffers keep it waiting. -/
theorem latched_handle (h : latched s = true) (hs : Sound s) (hreg : Registered f s)
    (hwhole : ¬ Whole s) {budget : ℤ} {prioCause : U32} {causeType : CauseType} {weight : ℤ}
    (hpc : s.poll = .handle budget prioCause causeType weight) :
    Closer f s (handleCause s budget prioCause causeType weight) := by
  have htx := (latched_poll h).2
  have hok := hs.poll
  rw [hpc] at hok
  obtain ⟨hbudget, -, full, hprio, rfl⟩ := hok
  rcases prioritized_txUnblocked htx with hnext | hnext | hnext
  · -- an empty-buffer emergency
    rw [hprio] at hnext
    cases hnext
    refine latched_goes h (latched_intro htx rfl) (.inr ⟨?_, .inr ⟨rfl, ?_⟩⟩)
    · rw [hpc]
      rfl
    · rw [hpc]
      exact Nat.zero_lt_one
  · -- a pass over the empty buffers that comes up short retires their cause
    rw [hprio] at hnext
    cases hnext
    have hshort : (s.backlog NSS_IF_EMPTY_BUFFER_QUEUE : ℤ) < min budget (64 : U16).toInt := by
      by_contra hmany
      exact hwhole ⟨_, ⟨budget, hpc⟩, not_lt.mp hmany⟩
    unfold handleCause
    dsimp only
    rw [empty_queue, if_pos (by omega)]
    refine latched_goes h (latched_intro htx rfl) (.inr ⟨?_, .inr ⟨rfl, ?_⟩⟩)
    · rw [hpc]
      rfl
    · rw [hpc]
      exact Nat.zero_lt_one
  · -- the lock of the callbacks
    rw [hprio] at hnext
    cases hnext
    obtain ⟨client, hmem, hcallback⟩ := hreg
    have hahead : ahead f (handleCause s budget NSS_REGS_N2H_INTR_STATUS_TX_UNBLOCKED
        .nonQueue (min budget (1 : U16).toInt)) = true := by
      unfold ahead handleCause
      dsimp only
      rw [if_pos rfl]
      exact List.any_eq_true.mpr ⟨client, hmem, decide_eq_true hcallback⟩
    refine ⟨.inl hahead, rank_drop ?_⟩
    rw [phase_ahead hahead, latched_phase h]
    exact Nat.zero_lt_one

theorem latched_closer (h : latched s = true) (hs : Sound s) (hreg : Registered f s)
    (hwhole : ¬ Whole s) (hready : PollReady s) : Closer f s (pollStep s) := by
  obtain ⟨hhandling, htx⟩ := latched_poll h
  have hcause := txUnblocked_ne htx
  have hok := hs.poll
  unfold pollStep
  cases hpc : s.poll with
  | idle => exact (hready.1 hpc).elim
  | read again budget =>
    refine latched_goes h (latched_intro htx rfl) (.inl ?_)
    rw [hpc]
    cases again <;> exact Nat.lt_succ_self _
  | clear again budget intCause =>
    refine latched_goes h (latched_intro htx rfl) (.inl ?_)
    rw [hpc]
    cases again <;> exact Nat.lt_succ_self _
  | latch again budget intCause =>
    rw [hpc] at hok
    have hboth : txUnblocked (s.cause ||| intCause) = true := by
      rw [txUnblocked_or, htx]
      rfl
    cases again with
    | true =>
      refine latched_goes h (latched_intro hboth rfl) (.inl ?_)
      rw [hpc]
      exact Nat.lt_succ_self _
    | false =>
      refine latched_goes h (latched_intro hboth rfl) (.inl ?_)
      rw [hpc]
      change latchedStage (.inner budget) < 3
      rw [stage_inner (hok.2 rfl).ne']
      decide
  | inner budget =>
    dsimp only
    split
    · rename_i hgo
      refine latched_goes h (latched_intro htx rfl) (.inr ⟨?_, .inr ⟨rfl, ?_⟩⟩)
      · rw [hpc]
        exact (if_neg hgo.2).symm
      · rw [hpc]
        exact Nat.lt_succ_self _
    · rename_i hstop
      refine latched_goes h (latched_intro htx rfl) (.inl ?_)
      rw [hpc, not_not.mp fun hbudget => hstop ⟨hcause, hbudget⟩]
      exact Nat.lt_succ_self _
  | handle budget prioCause causeType weight => exact latched_handle h hs hreg hwhole hpc
  | retire budget prioCause =>
    rw [hpc] at hok hhandling
    obtain ⟨hbudget, hpending, hown⟩ := hok
    have hother := hown.resolve_left (of_decide_eq_false hhandling)
    have hkept : txUnblocked (s.cause &&& ~~~prioCause) = true := by
      rw [txUnblocked_clear, htx, hother]
      rfl
    refine latched_goes h (latched_intro hkept rfl) (.inr ⟨?_, .inl ?_⟩)
    · rw [hpc]
      exact if_neg hbudget.ne'
    · exact bitCount_clear_lt hpending
  | outer budget =>
    dsimp only
    split
    · rename_i hgo
      refine latched_goes h (latched_intro htx rfl) (.inl ?_)
      rw [hpc]
      change latchedStage (.inner budget) < 8
      rw [stage_inner hgo.2]
      decide
    · refine latched_goes h (latched_intro htx rfl) (.inl ?_)
      rw [hpc]
      exact Nat.lt_succ_self _
  | finish =>
    dsimp only
    rw [if_neg hcause]
    refine latched_goes h (latched_intro htx rfl) (.inl ?_)
    rw [hpc]
    exact Nat.lt_succ_self _
  | complete =>
    rw [hpc] at hok
    exact (hcause hok).elim
  | _ =>
    rw [hpc] at hhandling
    cases hhandling

theorem detail_held (h : heldStage t.poll < heldStage s.poll) : detail t 2 < detail s 2 := by
  simp only [detail, Prod.Lex.toLex_lt_toLex]
  exact .inr ⟨trivial, .inr ⟨trivial, h⟩⟩

theorem held_closer (h : held s = true) (hnot : latched s = false) : Closer f s (pollStep s) := by
  have hphase : phase f s = 2 := by
    have hahead : ahead f s = false := by
      unfold held at h
      unfold ahead
      split
      · rename_i hpc
        rw [hpc] at h
        exact absurd (show txUnblocked 0 = true from h) (by decide)
      · rfl
    unfold phase
    rw [hahead, hnot, if_neg (fun h => nomatch h), if_neg (fun h => nomatch h), if_pos h]
  unfold held at h
  unfold pollStep
  cases hpc : s.poll with
  | clear again budget intCause =>
    rw [hpc] at h
    refine ⟨.inr (.inr (.inl h)), rank_lower ?_ ?_⟩
    · rw [hphase]
      exact phase_held h
    · rw [hphase]
      apply detail_held
      rw [hpc]
      exact Nat.zero_lt_one
  | latch again budget intCause =>
    rw [hpc] at h
    have hboth : txUnblocked (s.cause ||| intCause) = true := by
      rw [txUnblocked_or, show txUnblocked intCause = true from h]
      exact Bool.or_true _
    have hnext : latched { s with
        cause := s.cause ||| intCause
        poll := if again then .outer budget else .inner budget } = true := by
      refine latched_intro hboth ?_
      cases again <;> rfl
    refine ⟨.inr (.inl hnext), rank_drop ?_⟩
    rw [hphase, latched_phase hnext]
    decide
  | _ =>
    rw [hpc] at h
    exact absurd (show txUnblocked 0 = true from h) (by decide)

theorem detail_raised (h : raisedStage t < raisedStage s ∨ raisedStage t = raisedStage s ∧
    (budgetLeft t.poll + bitCount t.cause < budgetLeft s.poll + bitCount s.cause ∨
      budgetLeft t.poll + bitCount t.cause = budgetLeft s.poll + bitCount s.cause ∧
        raisedOffset t.clients.length t.poll < raisedOffset s.clients.length s.poll)) :
    detail t 3 < detail s 3 := by
  simp only [detail, Prod.Lex.toLex_lt_toLex]
  exact h

structure Raised (f : ℕ) (s : DecongestState ι) : Prop where
  last : phase f s = 3
  status : txUnblocked s.status = true

theorem Raised.cause (h : Raised f s) : txUnblocked s.cause = true → handling s.poll = true := by
  intro hcause
  by_contra hpoll
  have hle := phase_latched (f := f) (latched_intro hcause (Bool.not_eq_true _ ▸ hpoll))
  rw [h.last] at hle
  omega

theorem Raised.unread (h : Raised f s) : txUnblocked (heldCause s.poll) = false := by
  by_contra hheld
  have hle := phase_held (f := f) (s := s) (Bool.not_eq_false _ ▸ hheld)
  rw [h.last] at hle
  omega

theorem Raised.goes (h : Raised f s) (hstatus : txUnblocked t.status = true)
    (hlower : raisedStage t < raisedStage s ∨ raisedStage t = raisedStage s ∧
      (budgetLeft t.poll + bitCount t.cause < budgetLeft s.poll + bitCount s.cause ∨
        budgetLeft t.poll + bitCount t.cause = budgetLeft s.poll + bitCount s.cause ∧
          raisedOffset t.clients.length t.poll < raisedOffset s.clients.length s.poll)) :
    Closer f s t := by
  refine ⟨.inr (.inr (.inr hstatus)), rank_lower ?_ ?_⟩
  · rw [h.last]
    exact phase_le
  · rw [h.last]
    exact detail_raised hlower

theorem Raised.handle (h : Raised f s) (hs : Sound s) (hk : KnownCauses s) {budget : ℤ}
    {prioCause : U32} {causeType : CauseType} {weight : ℤ}
    (hpc : s.poll = .handle budget prioCause causeType weight) :
    Closer f s (handleCause s budget prioCause causeType weight) := by
  have hok := hs.poll
  rw [hpc] at hok
  obtain ⟨hbudget, hcause, full, hprio, hweight⟩ := hok
  have hstage : raisedStage s = 7 := by
    unfold raisedStage
    rw [hpc]
  have hleft : budgetLeft s.poll = budget.toNat := by rw [hpc]; rfl
  have hoffset : raisedOffset s.clients.length s.poll = s.clients.length + 6 := by rw [hpc]; rfl
  cases causeType with
  | queue =>
    have hpos := weight_pos hprio rfl
    unfold handleCause
    dsimp only
    split
    · rename_i hshort
      refine h.goes h.status (.inr ⟨?_, ?_⟩)
      · rw [hstage]
        rfl
      · rw [hleft, hoffset]
        change (budget - _).toNat + bitCount s.cause < _ ∨ (budget - _).toNat + bitCount s.cause = _
          ∧ 2 < _
        omega
    · rename_i hwhole
      refine h.goes h.status (.inr ⟨?_, .inl ?_⟩)
      · rw [hstage]
        rfl
      · rw [hleft]
        change (budget - _).toNat + bitCount s.cause < _
        omega
  | nonQueue =>
    unfold handleCause
    dsimp only
    split
    · rename_i htx
      have hpending := prioritized_pending hprio (fun h => nomatch h)
      rw [htx] at hpending
      have hhandling := h.cause (txUnblocked_iff.mp hpending)
      rw [hpc] at hhandling
      cases hhandling
    · refine h.goes h.status (.inr ⟨?_, .inr ⟨?_, ?_⟩⟩)
      · rw [hstage]
        rfl
      · rw [hleft]
        rfl
      · rw [hoffset]
        change 2 < _
        omega
  | emergency =>
    refine h.goes h.status (.inr ⟨?_, .inr ⟨?_, ?_⟩⟩)
    · rw [hstage]
      rfl
    · rw [hleft]
      rfl
    · rw [hoffset]
      change 2 < _
      omega
  | invalid => exact (prioritized_known hcause hk.cause hprio rfl).elim

theorem Raised.closer (h : Raised f s) (hs : Sound s) (hk : KnownCauses s)
    (hready : PollReady s) : Closer f s (pollStep s) := by
  have hok := hs.poll
  have hheld := h.unread
  unfold pollStep
  cases hpc : s.poll with
  | idle => exact (hready.1 hpc).elim
  | read again budget =>
    have hfound : held { s with poll := .clear again budget (pendingCause 0 s.status) } = true := by
      change txUnblocked (pendingCause 0 s.status) = true
      rw [txUnblocked_pending]
      exact h.status
    refine ⟨.inr (.inr (.inl hfound)), rank_drop ?_⟩
    have hle := phase_held (f := f) hfound
    rw [h.last]
    exact Nat.lt_succ_of_le hle
  | clear again budget intCause =>
    rw [hpc] at hheld
    refine h.goes ?_ (.inl ?_)
    · rw [txUnblocked_clear, h.status, show txUnblocked intCause = false from hheld]
      rfl
    · unfold raisedStage
      rw [hpc]
      cases again <;> exact Nat.lt_succ_self _
  | latch again budget intCause =>
    refine h.goes h.status (.inl ?_)
    unfold raisedStage
    rw [hpc]
    cases again <;> exact Nat.lt_succ_self _
  | inner budget =>
    dsimp only
    split
    · refine h.goes h.status (.inr ⟨?_, .inr ⟨?_, ?_⟩⟩)
      · unfold raisedStage
        rw [hpc]
      · rw [hpc]
        rfl
      · rw [hpc]
        exact Nat.lt_succ_self _
    · refine h.goes h.status (.inl ?_)
      unfold raisedStage
      rw [hpc]
      exact Nat.succ_pos _
  | handle budget prioCause causeType weight => exact h.handle hs hk hpc
  | call budget i =>
    dsimp only
    split
    · refine h.goes h.status (.inr ⟨?_, .inr ⟨?_, ?_⟩⟩)
      · unfold raisedStage
        rw [hpc]
      · rw [hpc]
        rfl
      · rw [hpc]
        change s.clients.length - (i + 1) + 5 < s.clients.length - i + 5
        omega
    · refine h.goes h.status (.inr ⟨?_, .inr ⟨?_, ?_⟩⟩)
      · unfold raisedStage
        rw [hpc]
      · rw [hpc]
        rfl
      · rw [hpc]
        change 4 < s.clients.length - i + 5
        omega
  | unstop budget =>
    refine h.goes h.status (.inr ⟨?_, .inr ⟨?_, ?_⟩⟩)
    · unfold raisedStage
      rw [hpc]
    · rw [hpc]
      rfl
    · rw [hpc]
      exact Nat.lt_succ_self _
  | mask budget =>
    refine h.goes h.status (.inr ⟨?_, .inr ⟨?_, ?_⟩⟩)
    · unfold raisedStage
      rw [hpc]
    · rw [hpc]
      rfl
    · rw [hpc]
      exact Nat.lt_succ_self _
  | retire budget prioCause =>
    rw [hpc] at hok
    refine h.goes h.status (.inr ⟨?_, .inl ?_⟩)
    · unfold raisedStage
      rw [hpc]
    · rw [hpc]
      exact Nat.add_lt_add_left (bitCount_clear_lt hok.2.1) _
  | outer budget =>
    dsimp only
    split
    · refine h.goes h.status (.inl ?_)
      unfold raisedStage
      rw [hpc]
      exact (by decide : 7 < 10)
    · refine h.goes h.status (.inl ?_)
      unfold raisedStage
      rw [hpc]
      exact (by decide : 6 < 10)
  | finish =>
    have hsched : s.sched = true := hs.running (.inl hready.1)
    dsimp only
    split
    · refine h.goes h.status (.inl ?_)
      unfold raisedStage
      rw [hpc]
      exact Nat.lt_succ_self _
    · refine h.goes h.status (.inl ?_)
      unfold raisedStage
      rw [hpc]
      dsimp only
      rw [if_pos hsched]
      decide
  | complete =>
    refine h.goes h.status (.inl ?_)
    unfold raisedStage
    rw [hpc]
    dsimp only
    repeat' split
    all_goals decide

/-- Every access of the poll but a whole pass over the empty buffers comes closer to
    the callbacks, or it calls `f`. -/
theorem poll_closer (howed : Owed f s) (hs : Sound s) (hk : KnownCauses s)
    (hreg : Registered f s) (hf : f ≠ 0) (hwhole : latched s = true → ¬ Whole s)
    (hready : PollReady s) :
    invokes f (pollLabel s) = true ∨ Closer f s (pollStep s) := by
  by_cases hahead : ahead f s = true
  · exact ahead_closer hahead hf
  by_cases hlatched : latched s = true
  · exact .inr (latched_closer hlatched hs hreg (hwhole hlatched) hready)
  by_cases hheld : held s = true
  · exact .inr (held_closer hheld (Bool.not_eq_true _ ▸ hlatched))
  · have hstatus : txUnblocked s.status = true :=
      ((howed.resolve_left hahead).resolve_left hlatched).resolve_left hheld
    have hphase : phase f s = 3 := by
      unfold phase
      rw [if_neg hahead, if_neg hlatched, if_neg hheld]
    exact .inr (Raised.closer ⟨hphase, hstatus⟩ hs hk hready)

end NssDrv.DecongestProgress

import NssDrv.DecongestProgress

set_option autoImplicit false

/-!
# No lost decongestion

Every fair run beside any senders, any clients and an NSS that raises known causes
and does not keep the poll at the empty buffers for ever.
-/
namespace NssDrv.DecongestDelivery
open HlosInterface NapiHandler NapiProgress TransitionRuns FairRuns SlotTables
open DecongestPoll DecongestRuns DecongestProgress
variable {ι : Type} {s t : DecongestState ι} {l : Label ι} {f : ℕ}

/-! ## Fairness -/

/-- What the host and the interrupt controller owe the driver. -/
inductive Actor where
  | poll | softirq | isr | irq | finish

def Enabled : Actor → DecongestState ι → Prop
  | .poll, s => PollReady s
  | .softirq, s => s.sched = true ∧ s.poll = .idle
  | .isr, s => s.isr = true
  | .irq, s => s.isr = false ∧ pendingCause 0 (s.status &&& s.intrMask) ≠ 0
  | .finish, s => 0 < s.finishing

def Taken : Actor → Label ι → Prop
  | .poll, .poll => True
  | .poll, .invoke _ => True
  | .softirq, .softirq _ => True
  | .isr, .napiSchedule => True
  | .irq, .handleIrq => True
  | .finish, .unmask => True
  | _, _ => False

def Fair (ρ : ℕ → DecongestState ι) (l : ℕ → Label ι) : Prop :=
  ∀ k, WeakFair (Enabled k) (Taken k) ρ l

/-- Who has to act next. -/
def helper (s : DecongestState ι) : Actor :=
  if s.poll ≠ .idle then .poll
  else if s.sched = true then .softirq
  else if s.isr = true then .isr
  else if txUnblocked s.intrMask = true then .irq
  else .finish

theorem waiting_status (hs : Sound s) (howed : Owed f s) (hpoll : s.poll = .idle)
    (hsched : s.sched = false) : phase f s = 3 ∧ txUnblocked s.status = true := by
  have hcause : s.cause = 0 := by
    by_contra hne
    rw [hs.running (.inr hne)] at hsched
    cases hsched
  have hahead : ahead f s = false := by
    unfold ahead
    rw [hpoll]
  have hlatched : latched s = false := by
    unfold latched
    rw [hcause]
    rfl
  have hheld : held s = false := by
    unfold held
    rw [hpoll]
    rfl
  constructor
  · unfold phase
    rw [hahead, hlatched, hheld]
    rfl
  · rcases howed with h | h | h | h
    · rw [hahead] at h
      cases h
    · rw [hlatched] at h
      cases h
    · rw [hheld] at h
      cases h
    · exact h

theorem helper_enabled (hs : Sound s) (howed : Owed f s) : Enabled (helper s) s := by
  unfold helper
  split
  · rename_i hpoll
    refine ⟨hpoll, fun hlocks => ?_⟩
    rw [hs.lock]
    unfold PollPc.locks at hlocks
    split at hlocks
    · rename_i hpc
      rw [hpc]
      rfl
    · cases hlocks
  rename_i hpoll
  have hidle : s.poll = .idle := not_not.mp hpoll
  split
  · rename_i hsched
    exact ⟨hsched, hidle⟩
  rename_i hsched
  split
  · rename_i hisr
    exact hisr
  rename_i hisr
  split
  · rename_i hmask
    refine ⟨Bool.not_eq_true _ ▸ hisr, txUnblocked_ne ?_⟩
    rw [txUnblocked_pending]
    unfold txUnblocked at hmask ⊢
    rw [BitVec.getLsbD_and, hmask]
    have hstatus := (waiting_status hs howed hidle (Bool.not_eq_true _ ▸ hsched)).2
    rw [show s.status.getLsbD 11 = true from hstatus]
    rfl
  · rename_i hmask
    exact ((hs.unmasked.resolve_left hmask).resolve_left hsched).resolve_left hisr

/-! ## One step of anybody -/

theorem stage_scheduled (hidle : s.poll = .idle) (hsched : s.sched = true) :
    raisedStage s = 1 := by
  unfold raisedStage
  rw [hidle, hsched]
  rfl

theorem stage_isr (hidle : s.poll = .idle) (hsched : s.sched = false) (hisr : s.isr = true) :
    raisedStage s = 2 := by
  unfold raisedStage
  rw [hidle, hsched, hisr]
  rfl

theorem stage_waits (hidle : s.poll = .idle) (hsched : s.sched = false) (hisr : s.isr = false) :
    raisedStage s = if txUnblocked s.intrMask then 3 else 4 := by
  unfold raisedStage
  rw [hidle, hsched, hisr]
  rfl

/-- What a raised cause finds until the callbacks are called. -/
structure Waiting (f : ℕ) (s : DecongestState ι) : Prop where
  sound : Sound s
  known : KnownCauses s
  owed : Owed f s

/-- The rank falls, or the same actor is still to act. -/
def Nearer (f : ℕ) (s : DecongestState ι) (l : Label ι) (t : DecongestState ι) : Prop :=
  rank f t < rank f s ∨ rank f t = rank f s ∧ helper t = helper s ∧ ¬ Taken (helper s) l

/-- A step beside the poll keeps the cause on its way. -/
structure Beside (f : ℕ) (s t : DecongestState ι) : Prop where
  poll : t.poll = s.poll
  cause : t.cause = s.cause
  ahead : ahead f t = ahead f s
  clients : t.clients.length = s.clients.length
  status : txUnblocked s.status = true → txUnblocked t.status = true
  sched : s.sched = true → t.sched = true

theorem Beside.latched (h : Beside f s t) : latched t = latched s := by
  unfold DecongestProgress.latched
  rw [h.poll, h.cause]

theorem Beside.held (h : Beside f s t) : held t = held s := by
  unfold DecongestProgress.held
  rw [h.poll]

theorem Beside.owed (h : Beside f s t) (howed : Owed f s) : Owed f t := by
  unfold Owed
  rw [h.ahead, h.latched, h.held]
  exact howed.imp_right (.imp_right (.imp_right h.status))

theorem Beside.phase (h : Beside f s t) : phase f t = phase f s := by
  unfold DecongestProgress.phase
  rw [h.ahead, h.latched, h.held]

theorem Beside.rank (h : Beside f s t) (hstage : raisedStage t = raisedStage s) :
    rank f t = rank f s := by
  unfold DecongestProgress.rank detail
  rw [h.phase, h.poll, h.cause, h.clients, hstage]

theorem Beside.nearer (h : Beside f s t) (hs : Sound s) (howed : Owed f s)
    (hpoll : ¬ Taken .poll l) (hsoftirq : ¬ Taken .softirq l)
    (hwait : s.poll = .idle → s.sched = false → raisedStage t < raisedStage s ∨
      raisedStage t = raisedStage s ∧ helper t = helper s ∧ ¬ Taken (helper s) l) :
    Nearer f s l t := by
  by_cases hidle : s.poll = .idle
  · cases hsched : s.sched with
    | true =>
      have hstage : raisedStage t = raisedStage s := by
        rw [stage_scheduled hidle hsched]
        exact stage_scheduled (h.poll.trans hidle) (h.sched hsched)
      have hhelper : ∀ u : DecongestState ι, u.poll = .idle → u.sched = true →
          helper u = .softirq := by
        intro u hu hsched
        unfold helper
        rw [if_neg (not_not.mpr hu), if_pos hsched]
      have hbefore := hhelper s hidle hsched
      have hafter := hhelper t (h.poll.trans hidle) (h.sched hsched)
      refine .inr ⟨h.rank hstage, hafter.trans hbefore.symm, ?_⟩
      rw [hbefore]
      exact hsoftirq
    | false =>
      rcases hwait hidle hsched with hlower | ⟨hstage, hhelper, htaken⟩
      · left
        have hphase := (waiting_status hs howed hidle hsched).1
        refine rank_lower h.phase.le ?_
        rw [hphase]
        exact detail_raised (.inl hlower)
      · exact .inr ⟨h.rank hstage, hhelper, htaken⟩
  · have hhelper : ∀ u : DecongestState ι, u.poll ≠ .idle → helper u = .poll := by
      intro u hu
      unfold helper
      rw [if_pos hu]
    have hstage : raisedStage t = raisedStage s := by
      unfold raisedStage
      rw [h.poll]
      cases hpc : s.poll with
      | idle => exact (hidle hpc).elim
      | clear again budget intCause => cases again <;> rfl
      | latch again budget intCause => cases again <;> rfl
      | _ => rfl
    have hbefore := hhelper s hidle
    have hafter := hhelper t (h.poll ▸ hidle)
    refine .inr ⟨h.rank hstage, hafter.trans hbefore.symm, ?_⟩
    rw [hbefore]
    exact hpoll

theorem same_wait (hpoll : t.poll = s.poll) (hsched : t.sched = s.sched) (hisr : t.isr = s.isr)
    (hmask : txUnblocked t.intrMask = txUnblocked s.intrMask) :
    raisedStage t = raisedStage s ∧ helper t = helper s := by
  unfold raisedStage helper
  rw [hpoll, hsched, hisr, hmask]
  exact ⟨rfl, rfl⟩

theorem Beside.apart (h : Beside f s t) (hs : Sound s) (howed : Owed f s)
    (hsched : t.sched = s.sched) (hisr : t.isr = s.isr)
    (hmask : txUnblocked t.intrMask = txUnblocked s.intrMask) (hl : ∀ k, ¬ Taken k l) :
    Owed f t ∧ Nearer f s l t := by
  have hsame := same_wait h.poll hsched hisr hmask
  refine ⟨h.owed howed, h.nearer hs howed (hl _) (hl _) fun _ _ => ?_⟩
  exact .inr ⟨hsame.1, hsame.2, hl _⟩

theorem unmask_wait (hpoll : t.poll = s.poll) (hsched : t.sched = s.sched) (hisr : t.isr = s.isr)
    (hmask : txUnblocked t.intrMask = true) (hidle : s.poll = .idle) (hwait : s.sched = false)
    (htaken : ∀ k, Taken k l → k = .finish) :
    raisedStage t < raisedStage s ∨
      raisedStage t = raisedStage s ∧ helper t = helper s ∧ ¬ Taken (helper s) l := by
  by_cases hbefore : txUnblocked s.intrMask = true
  · have hsame := same_wait hpoll hsched hisr (hmask.trans hbefore.symm)
    refine .inr ⟨hsame.1, hsame.2, fun h => ?_⟩
    have hfinish := htaken _ h
    unfold helper at hfinish
    rw [if_neg (not_not.mpr hidle), hwait, if_neg Bool.false_ne_true, hbefore] at hfinish
    split at hfinish <;> cases hfinish
  · cases hrunning : s.isr with
    | true =>
      have hstage : raisedStage t = raisedStage s := by
        rw [stage_isr hidle hwait hrunning]
        exact stage_isr (hpoll.trans hidle) (hsched.trans hwait) (hisr.trans hrunning)
      have hhelper : helper t = .isr ∧ helper s = .isr := by
        unfold helper
        rw [hpoll, hsched, hisr, hidle, hwait, hrunning]
        exact ⟨rfl, rfl⟩
      refine .inr ⟨hstage, hhelper.1.trans hhelper.2.symm, fun h => ?_⟩
      rw [hhelper.2] at h
      cases htaken _ h
    | false =>
      left
      rw [stage_waits hidle hwait hrunning, if_neg hbefore, stage_waits (hpoll.trans hidle)
        (hsched.trans hwait) (hisr.trans hrunning), if_pos hmask]
      decide

variable [DecidableEq ι]

theorem register_length {callback ctx : ℕ} {clients : List Client} :
    (nssCmnRegisterQueueDecongestion callback ctx clients).2.length = clients.length := by
  unfold nssCmnRegisterQueueDecongestion
  split
  · rename_i h
    exact updateFirst_length h
  · rfl

theorem unregister_length {callback : ℕ} {clients : List Client} :
    (nssCmnUnregisterQueueDecongestion callback clients).2.length = clients.length := by
  unfold nssCmnUnregisterQueueDecongestion
  split
  · rename_i h
    exact updateFirst_length h
  · rfl

omit [DecidableEq ι] in
theorem ahead_unlocked (hs : Sound s) (hlock : s.decongestCbLock = false) {clients : List Client} :
    ahead f { s with clients := clients } = ahead f s := by
  have hpoll : holds s.poll = false := hs.lock.symm.trans hlock
  unfold ahead
  dsimp only
  split
  · rename_i hpc
    rw [hpc] at hpoll
    cases hpoll
  · rfl

omit [DecidableEq ι] in
theorem softirq_nearer {budget : ℤ} (howed : Owed f s) (hidle : s.poll = .idle)
    (hsched : s.sched = true) :
    Owed f { s with poll := .read false budget } ∧
      rank f { s with poll := .read false budget } < rank f s := by
  by_cases hlatched : latched s = true
  · refine latched_goes hlatched (latched_intro (latched_poll hlatched).2 rfl) (.inl ?_)
    rw [hidle]
    exact Nat.lt_succ_self _
  · have hahead : ahead f s = false := by
      unfold ahead
      rw [hidle]
    have hheld : held s = false := by
      unfold held
      rw [hidle]
      rfl
    have hraised : Raised f s := by
      constructor
      · unfold phase
        rw [hahead, hheld, if_neg hlatched]
        rfl
      · rcases howed with h | h | h | h
        · rw [hahead] at h
          cases h
        · exact (hlatched h).elim
        · rw [hheld] at h
          cases h
        · exact h
    refine hraised.goes hraised.status (.inl ?_)
    unfold raisedStage
    rw [hidle]
    dsimp only
    rw [if_pos hsched]
    exact Nat.zero_lt_one

omit [DecidableEq ι] in
theorem whole_label (h : Whole s) : pollLabel s = .poll := by
  obtain ⟨weight, ⟨budget, hpc⟩, -⟩ := h
  simp only [pollLabel, hpc]

/-- Whatever step is taken, the cause gets nearer to `f` or stays as near. -/
theorem step_nearer (hstep : Step s l t) (h : Waiting f s) (hreg : Registered f s) (hf : f ≠ 0)
    (hwhole : l = .poll → latched s = true → ¬ Whole s) :
    invokes f l = true ∨ Owed f t ∧ Nearer f s l t := by
  obtain ⟨hs, hk, howed⟩ := h
  cases hstep with
  | queueFull i qid hidle =>
    have hb : Beside f s
        { s with
          ring := Function.update s.ring qid (s.ring qid).stopTx
          full := Function.update s.full i true } := ⟨rfl, rfl, rfl, rfl, id, id⟩
    exact .inr (hb.apart hs howed rfl rfl rfl fun k => by cases k <;> exact id)
  | failureQueue i hfull =>
    have hb : Beside f s
        { s with
          intrMask := s.intrMask ||| NSS_REGS_N2H_INTR_STATUS_TX_UNBLOCKED
          full := Function.update s.full i false } := ⟨rfl, rfl, rfl, rfl, id, id⟩
    refine .inr ⟨hb.owed howed, hb.nearer hs howed id id fun hidle hsched => ?_⟩
    refine unmask_wait rfl rfl rfl ?_ hidle hsched fun k hk => ?_
    · rw [txUnblocked_or]
      exact Bool.or_true _
    · cases k <;> cases hk
  | raise bits =>
    have hb : Beside f s { s with status := s.status ||| bits } := by
      refine ⟨rfl, rfl, rfl, rfl, fun hstatus => ?_, id⟩
      rw [txUnblocked_or, hstatus]
      rfl
    exact .inr (hb.apart hs howed rfl rfl rfl fun k => by cases k <;> exact id)
  | produce q k =>
    have hb : Beside f s
        { s with backlog := Function.update s.backlog q (s.backlog q + k) } :=
      ⟨rfl, rfl, rfl, rfl, id, id⟩
    exact .inr (hb.apart hs howed rfl rfl rfl fun k => by cases k <;> exact id)
  | elsewhere status intrMask ring hstatus hmask =>
    have hb : Beside f s
        { s with status := status, intrMask := intrMask, ring := ring } := by
      refine ⟨rfl, rfl, rfl, rfl, fun htx => ?_, id⟩
      rw [← txUnblocked_pending, hstatus, txUnblocked_pending]
      exact htx
    refine .inr (hb.apart hs howed rfl rfl ?_ fun k => by cases k <;> exact id)
    rw [← txUnblocked_pending, hmask, txUnblocked_pending]
  | handleIrq hisr =>
    have hb : Beside f s
        { s with
          intrMask := s.intrMask &&& ~~~NSS_HAL_SUPPORTED_INTERRUPTS
          isr := true } := ⟨rfl, rfl, rfl, rfl, id, id⟩
    refine .inr ⟨hb.owed howed, hb.nearer hs howed id id fun hidle hsched => .inl ?_⟩
    rw [stage_waits hidle hsched hisr]
    refine lt_of_eq_of_lt (stage_isr hidle hsched rfl) ?_
    split <;> decide
  | napiSchedule hisr =>
    have hb : Beside f s { s with sched := true, isr := false } :=
      ⟨rfl, rfl, rfl, rfl, id, fun _ => rfl⟩
    refine .inr ⟨hb.owed howed, hb.nearer hs howed id id fun hidle hsched => .inl ?_⟩
    rw [stage_isr hidle hsched hisr]
    exact lt_of_eq_of_lt (stage_scheduled hidle rfl) (by decide)
  | softirq budget hsched hidle hbudget =>
    exact .inr ((softirq_nearer howed hidle hsched).imp_right .inl)
  | poll hready =>
    have hpass : latched s = true → ¬ Whole s := fun h w => hwhole (whole_label w) h w
    exact (poll_closer howed hs hk hreg hf hpass hready).imp_right (.imp_right .inl)
  | unmask hfinishing =>
    have hb : Beside f s
        { s with
          intrMask := s.intrMask ||| NSS_HAL_SUPPORTED_INTERRUPTS
          finishing := s.finishing - 1 } := ⟨rfl, rfl, rfl, rfl, id, id⟩
    refine .inr ⟨hb.owed howed, hb.nearer hs howed id id fun hidle hsched => ?_⟩
    refine unmask_wait rfl rfl rfl ?_ hidle hsched fun k hk => ?_
    · rw [txUnblocked_or]
      exact Bool.or_true _
    · cases k with
      | finish => rfl
      | _ => cases hk
  | register client hlock =>
    have hb : Beside f s
        { s with
          clients :=
            (nssCmnRegisterQueueDecongestion client.callback client.ctx s.clients).2 } :=
      ⟨rfl, rfl, ahead_unlocked hs hlock, register_length, id, id⟩
    exact .inr (hb.apart hs howed rfl rfl rfl fun k => by cases k <;> exact id)
  | unregister callback hlock =>
    have hb : Beside f s
        { s with clients := (nssCmnUnregisterQueueDecongestion callback s.clients).2 } :=
      ⟨rfl, rfl, ahead_unlocked hs hlock, unregister_length, id, id⟩
    exact .inr (hb.apart hs howed rfl rfl rfl fun k => by cases k <;> exact id)

omit [DecidableEq ι] in
theorem pollLabel_cases (s : DecongestState ι) :
    pollLabel s = .poll ∨ ∃ client, pollLabel s = .invoke client := by
  unfold pollLabel
  repeat' split
  all_goals first
    | exact .inl rfl
    | exact .inr ⟨_, rfl⟩

omit [DecidableEq ι] in
theorem pollLabel_raise {bits : U32} (h : pollLabel s = .raise bits) : False := by
  rcases pollLabel_cases s with hpoll | ⟨client, hinvoke⟩
  · cases hpoll.symm.trans h
  · cases hinvoke.symm.trans h

theorem raise_status {bits : U32} (hstep : Step s l t) (hl : l = .raise bits) :
    t.status = s.status ||| bits := by
  cases hstep with
  | raise => exact congrArg (s.status ||| ·) (Label.raise.inj hl)
  | poll hready => exact (pollLabel_raise hl).elim
  | _ => cases hl

/-! ## Whole passes over the empty buffers -/

theorem poll_step (hstep : Step s l t) (hl : l = .poll) : t = pollStep s := by
  cases hstep with
  | poll hready => rfl
  | _ => cases hl

omit [DecidableEq ι] in
theorem Nearer.phase (h : Nearer f s l t) : phase f t ≤ phase f s := by
  rcases h with hlt | ⟨heq, -, -⟩
  · rcases Prod.Lex.toLex_lt_toLex.mp hlt with hlower | ⟨hsame, -⟩
    · exact hlower.le
    · exact hsame.le
  · exact (congrArg Prod.fst (toLex.injective heq)).le

omit [DecidableEq ι] in
theorem whole_latched (hwhole : Whole s) (h : latched s = true) : latched (pollStep s) = true := by
  obtain ⟨weight, ⟨budget, hpc⟩, hmany⟩ := hwhole
  have hnot : ¬ (min (s.backlog NSS_IF_EMPTY_BUFFER_QUEUE) weight.toNat : ℤ) < weight := by omega
  have hpoll : (pollStep s).poll =
      .inner (budget - min (s.backlog NSS_IF_EMPTY_BUFFER_QUEUE) weight.toNat) := by
    simp only [pollStep, hpc, handleCause, empty_queue, Nat.cast_min, if_neg hnot]
  have hcause : (pollStep s).cause = s.cause := by simp only [pollStep, hpc, handleCause]
  refine latched_intro (hcause ▸ (latched_poll h).2) ?_
  rw [hpoll]
  rfl

theorem step_owed (hstep : Step s l t) (h : Waiting f s) (hreg : Registered f s) (hf : f ≠ 0) :
    invokes f l = true ∨ Owed f t ∧ phase f t ≤ phase f s := by
  by_cases hpass : l = .poll ∧ latched s = true ∧ Whole s
  · obtain ⟨hl, hlatched, hwhole⟩ := hpass
    have hnext := whole_latched hwhole hlatched
    rw [← poll_step hstep hl] at hnext
    refine .inr ⟨.inr (.inl hnext), ?_⟩
    rw [latched_phase hnext, latched_phase hlatched]
  · refine (step_nearer hstep h hreg hf fun hl hlatched hwhole => ?_).imp_right
      (And.imp_right Nearer.phase)
    exact hpass ⟨hl, hlatched, hwhole⟩

/-- No empty buffers stand between the latched cause and its turn. -/
def Cleared (s : DecongestState ι) : Prop :=
  match s.poll with
  | .inner budget =>
    budget ≠ 0 ∧ s.cause &&& NSS_REGS_N2H_INTR_STATUS_EMPTY_BUFFER_QUEUE = 0
  | .handle _ _ _ _ => s.cause &&& NSS_REGS_N2H_INTR_STATUS_EMPTY_BUFFER_QUEUE = 0
  | .retire _ prioCause =>
    prioCause = NSS_REGS_N2H_INTR_STATUS_EMPTY_BUFFER_QUEUE ∨
      s.cause &&& NSS_REGS_N2H_INTR_STATUS_EMPTY_BUFFER_QUEUE = 0
  | _ => False

omit [DecidableEq ι] in
theorem Cleared.whole (h : Cleared s) (hs : Sound s) : ¬ Whole s := by
  rintro ⟨weight, ⟨budget, hpc⟩, -⟩
  have hok := hs.poll
  unfold Cleared at h
  rw [hpc] at hok h
  obtain ⟨-, -, full, hprio, -⟩ := hok
  exact prioritized_pending hprio (fun h => nomatch h) h

omit [DecidableEq ι] in
theorem short_cleared (h : Short s) : Cleared (pollStep s) := by
  obtain ⟨weight, ⟨budget, hpc⟩, hfew⟩ := h
  have hshort : (min (s.backlog NSS_IF_EMPTY_BUFFER_QUEUE) weight.toNat : ℤ) < weight := by omega
  have hpoll : (pollStep s).poll =
      .retire (budget - min (s.backlog NSS_IF_EMPTY_BUFFER_QUEUE) weight.toNat)
        NSS_REGS_N2H_INTR_STATUS_EMPTY_BUFFER_QUEUE := by
    simp only [pollStep, hpc, handleCause, empty_queue, Nat.cast_min, if_pos hshort]
  unfold Cleared
  rw [hpoll]
  exact .inl rfl

theorem retired_empty {c prioCause : U32}
    (h : prioCause = NSS_REGS_N2H_INTR_STATUS_EMPTY_BUFFER_QUEUE ∨
      c &&& NSS_REGS_N2H_INTR_STATUS_EMPTY_BUFFER_QUEUE = 0) :
    c &&& ~~~prioCause &&& NSS_REGS_N2H_INTR_STATUS_EMPTY_BUFFER_QUEUE = 0 := by
  rcases h with rfl | h
  · rw [BitVec.and_assoc, show ~~~NSS_REGS_N2H_INTR_STATUS_EMPTY_BUFFER_QUEUE &&&
      NSS_REGS_N2H_INTR_STATUS_EMPTY_BUFFER_QUEUE = 0 by decide]
    exact BitVec.and_zero
  · rw [BitVec.and_assoc, BitVec.and_comm (~~~prioCause), ← BitVec.and_assoc, h]
    exact BitVec.zero_and

omit [DecidableEq ι] in
theorem Cleared.pollStep (h : Cleared s) (hs : Sound s) (hlatched : latched s = true)
    (hnext : latched (pollStep s) = true) : Cleared (pollStep s) := by
  have htx := (latched_poll hlatched).2
  have hok := hs.poll
  unfold Cleared at h
  cases hpc : s.poll with
  | inner budget =>
    rw [hpc] at h
    have hgo : s.cause ≠ 0 ∧ budget ≠ 0 := ⟨txUnblocked_ne htx, h.1⟩
    have hstep : DecongestPoll.pollStep s = { s with
        poll := .handle budget (nssCoreGetPrioritizedCause s.cause).1
          (nssCoreGetPrioritizedCause s.cause).2.1
          (min budget (nssCoreGetPrioritizedCause s.cause).2.2.toInt) } := by
      simp only [DecongestPoll.pollStep, hpc, if_pos hgo]
    rw [hstep]
    exact h.2
  | handle budget prioCause causeType weight =>
    rw [hpc] at h hok
    obtain ⟨-, -, full, hprio, -⟩ := hok
    rcases prioritized_txUnblocked htx with hcase | hcase | hcase
    · cases hprio.symm.trans hcase
      have hstep : DecongestPoll.pollStep s =
          { s with poll := .retire budget NSS_REGS_N2H_INTR_STATUS_EMPTY_BUFFERS_SOS } := by
        simp only [DecongestPoll.pollStep, hpc]
        rfl
      rw [hstep]
      exact .inr h
    · exact (prioritized_pending hcase (by decide) h).elim
    · cases hprio.symm.trans hcase
      have hpoll : (DecongestPoll.pollStep s).poll = .call budget 0 := by
        simp only [DecongestPoll.pollStep, hpc]
        rfl
      have hcalls := (latched_poll hnext).1
      rw [hpoll] at hcalls
      cases hcalls
  | retire budget prioCause =>
    rw [hpc] at h hok
    have hstep : DecongestPoll.pollStep s =
        { s with cause := s.cause &&& ~~~prioCause, poll := .inner budget } := by
      simp only [DecongestPoll.pollStep, hpc]
    rw [hstep]
    exact ⟨hok.1.ne', retired_empty h⟩
  | _ =>
    rw [hpc] at h
    exact h.elim

/-- The callbacks are being called, or nothing can take the turn of the cause. -/
def Soon (f : ℕ) (s : DecongestState ι) : Prop := phase f s ≤ 1 ∧ (latched s = true → Cleared s)

theorem step_apart (hstep : Step s l t) :
    t.poll = s.poll ∧ t.cause = s.cause ∨ s.poll = .idle ∨ t = pollStep s := by
  cases hstep with
  | softirq budget hsched hidle hbudget => exact .inr (.inl hidle)
  | poll hready => exact .inr (.inr rfl)
  | _ => exact .inl ⟨rfl, rfl⟩

theorem Soon.step (h : Soon f s) (hw : Waiting f s) (hstep : Step s l t)
    (hphase : phase f t ≤ phase f s) : Soon f t := by
  refine ⟨hphase.trans h.1, fun hnext => ?_⟩
  have hlatched : latched s = true := by
    by_contra hnot
    have hahead : ahead f s = true := by
      by_contra hahead
      have hle := h.1
      unfold phase at hle
      rw [if_neg hahead, if_neg hnot] at hle
      split at hle <;> omega
    rw [phase_ahead hahead, latched_phase hnext] at hphase
    omega
  have hcleared := h.2 hlatched
  rcases step_apart hstep with ⟨hpoll, hcause⟩ | hidle | rfl
  · unfold Cleared at hcleared ⊢
    rw [hpoll, hcause]
    exact hcleared
  · unfold Cleared at hcleared
    rw [hidle] at hcleared
    exact hcleared.elim
  · exact hcleared.pollStep hw.sound hlatched hnext

/-- A run that goes on without calling `f`. -/
structure Uncalled (f : ℕ) (ρ : ℕ → DecongestState ι) (l : ℕ → Label ι) (n : ℕ) : Prop where
  run : Endless Step ρ l
  fair : Fair ρ l
  waiting : ∀ m, n ≤ m → Waiting f (ρ m)
  registered : ∀ m, n ≤ m → Registered f (ρ m)
  uncalled : ∀ m, n ≤ m → invokes f (l m) = false

variable {ρ : ℕ → DecongestState ι} {ls : ℕ → Label ι} {n : ℕ}

/-- Fairness leaves only one reason for it: whole passes over the empty buffers. -/
theorem Uncalled.whole (h : Uncalled f ρ ls n) (hf : f ≠ 0) {N : ℕ} (hN : n ≤ N) :
    ∃ m, N ≤ m ∧ ls m = .poll ∧ latched (ρ m) = true ∧ Whole (ρ m) := by
  by_contra hnone
  have hcalled := response (Waiting f) (fun l => invokes f l = true) (rank f) helper
    h.fair (fun m hm hw => ?_) (le_refl N) (h.waiting N hN)
  · obtain ⟨m, hm, hcall⟩ := hcalled
    exact Bool.false_ne_true ((h.uncalled m (hN.trans hm)).symm.trans hcall)
  · have hpass : ls m = .poll → latched (ρ m) = true → ¬ Whole (ρ m) :=
      fun hl hlatched hwhole => hnone ⟨m, hm, hl, hlatched, hwhole⟩
    refine (step_nearer (h.run m) hw (h.registered m (hN.trans hm)) hf hpass).imp_right
      fun hnext => ?_
    exact ⟨h.waiting _ (by omega), helper_enabled hw.sound hw.owed, hnext.2⟩

theorem Uncalled.phase_step (h : Uncalled f ρ ls n) (hf : f ≠ 0) {m : ℕ} (hm : n ≤ m) :
    phase f (ρ (m + 1)) ≤ phase f (ρ m) := by
  refine ((step_owed (h.run m) (h.waiting m hm) (h.registered m hm) hf).resolve_left ?_).2
  rw [h.uncalled m hm]
  exact Bool.false_ne_true

/-- A fair run of an NSS that raises known causes. Where it keeps the poll at the empty
    buffers again and again, there are again and again fewer than the poll would take. -/
structure Delivery (ρ : ℕ → DecongestState ι) (l : ℕ → Label ι) : Prop where
  start : Reachable (fun s => Boot s ∧ Known (pendingCause 0 s.status))
    (Guarded Step fun _ l => RaisesKnown l) (ρ 0)
  run : Endless Step ρ l
  known : ∀ n, RaisesKnown (l n)
  fair : Fair ρ l
  short : (∀ n, ∃ m, n ≤ m ∧ l m = .poll ∧ Whole (ρ m)) →
    ∀ n, ∃ m, n ≤ m ∧ l m = .poll ∧ Short (ρ m)

/-- After a pass that comes up short there is no whole one before the callbacks. -/
theorem Uncalled.contra (h : Uncalled f ρ ls n) (hf : f ≠ 0) (hd : Delivery ρ ls) : False := by
  have hmany : ∀ N, ∃ m, N ≤ m ∧ ls m = .poll ∧ Whole (ρ m) := by
    intro N
    obtain ⟨m, hm, hl, -, hwhole⟩ := h.whole hf (N := n + N) (by omega)
    exact ⟨m, by omega, hl, hwhole⟩
  obtain ⟨first, hfirst, -, hlatched, -⟩ := h.whole hf (le_refl n)
  have hlate : ∀ m, first ≤ m → phase f (ρ m) ≤ 1 := by
    intro m hm
    induction m, hm using Nat.le_induction with
    | base => exact (latched_phase hlatched).le
    | succ m hm ih => exact (h.phase_step hf (by omega)).trans ih
  obtain ⟨short, hafter, hl, hshort⟩ := hd.short hmany first
  have hsoon : ∀ m, short + 1 ≤ m → Soon f (ρ m) := by
    intro m hm
    induction m, hm using Nat.le_induction with
    | base =>
      refine ⟨hlate _ (by omega), fun _ => ?_⟩
      rw [poll_step (h.run short) hl]
      exact short_cleared hshort
    | succ m hm ih =>
      exact ih.step (h.waiting m (by omega)) (h.run m) (h.phase_step hf (by omega))
  obtain ⟨m, hm, -, hagain, hwhole⟩ := h.whole hf (N := short + 1) (by omega)
  exact ((hsoon m hm).2 hagain).whole (h.waiting m (by omega)).sound hwhole

theorem callback_called (h : Delivery ρ ls) {bits : U32} (hraise : ls n = .raise bits)
    (hbits : txUnblocked bits = true) (hf : f ≠ 0) (hreg : ∀ m, n ≤ m → Registered f (ρ m)) :
    ∃ m, n < m ∧ invokes f (ls m) = true := by
  have hreach : ∀ m, Sound (ρ m) ∧ KnownCauses (ρ m) := by
    intro m
    have hall : Endless (Guarded Step fun _ l => RaisesKnown l) ρ ls :=
      fun n => ⟨h.run n, h.known n⟩
    refine (hall.reachable h.start m).invariant (fun s => Sound s ∧ KnownCauses s) ?_ ?_
    · rintro s ⟨hboot, hstatus⟩
      refine ⟨Boot.sound hboot, hstatus, ?_, ?_⟩
      · rw [hboot.poll]
        exact known_zero
      · rw [hboot.cause]
        exact known_zero
    · rintro s l t ⟨hs, hk⟩ ⟨hstep, hl⟩
      exact ⟨hs.step hstep, hk.step hstep hl⟩
  by_contra hnone
  have hno : ∀ m, n + 1 ≤ m → invokes f (ls m) = false := by
    intro m hm
    by_contra hcall
    exact hnone ⟨m, hm, Bool.not_eq_false _ ▸ hcall⟩
  have hwaiting : ∀ m, n + 1 ≤ m → Waiting f (ρ m) := by
    intro m hm
    induction m, hm using Nat.le_induction with
    | base =>
      refine ⟨(hreach _).1, (hreach _).2, .inr (.inr (.inr ?_))⟩
      rw [raise_status (h.run n) hraise, txUnblocked_or, hbits]
      exact Bool.or_true _
    | succ m hm ih =>
      refine ⟨(hreach _).1, (hreach _).2, ?_⟩
      refine ((step_owed (h.run m) ih (hreg m (by omega)) hf).resolve_left ?_).1
      rw [hno m hm]
      exact Bool.false_ne_true
  have huncalled : Uncalled f ρ ls (n + 1) :=
    ⟨h.run, h.fair, hwaiting, fun m hm => hreg m (by omega), hno⟩
  exact huncalled.contra hf h

end NssDrv.DecongestDelivery

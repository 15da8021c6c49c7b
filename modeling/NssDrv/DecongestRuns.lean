import NssDrv.BitCount
import NssDrv.DecongestPoll
import NssDrv.NapiIteration

set_option autoImplicit false

/-!
# What every interleaving keeps

The mask of `TX_UNBLOCKED`, the lock of the callbacks, and the callbacks that are
registered more often than unregistered.
-/
namespace NssDrv.DecongestRuns
open HlosInterface NapiHandler NapiIteration TransitionRuns SlotTables DecongestPoll
variable {ι : Type} {s t : DecongestState ι} {l : Label ι} {ls : List (Label ι)}
variable {c x y : U32} {f : ℕ} {clients : List Client} {client : Client}

section Bits

theorem txUnblocked_or : txUnblocked (x ||| y) = (txUnblocked x || txUnblocked y) :=
  BitVec.getLsbD_or

theorem txUnblocked_clear : txUnblocked (x &&& ~~~y) = (txUnblocked x && !txUnblocked y) := by
  unfold txUnblocked
  rw [BitVec.getLsbD_and, BitVec.getLsbD_not]
  rfl

theorem txUnblocked_pending : txUnblocked (pendingCause 0 x) = txUnblocked x := by
  unfold txUnblocked
  rw [pendingCause_bit, Nat.zero_add]
  exact Bool.and_true _

theorem txUnblocked_iff :
    x &&& NSS_REGS_N2H_INTR_STATUS_TX_UNBLOCKED ≠ 0 ↔ txUnblocked x = true := by
  constructor
  · intro hx
    obtain ⟨i, hi⟩ := BitCount.exists_bit hx
    rw [BitVec.getLsbD_and, Bool.and_eq_true] at hi
    have hbit : i = 11 := by
      have hlt := BitVec.lt_of_getLsbD hi.2
      have hi' := hi.2
      interval_cases i <;> first | rfl | cases hi'
    subst hbit
    exact hi.1
  · intro hx hzero
    have hbit := congrArg (fun z : U32 => z.getLsbD 11) hzero
    rw [BitVec.getLsbD_and] at hbit
    rw [show x.getLsbD 11 = true from hx] at hbit
    cases hbit

theorem txUnblocked_ne (hx : txUnblocked x = true) : x ≠ 0 := by
  rintro rfl
  cases hx

end Bits

/-- With `TX_UNBLOCKED` pending only two causes come before it. -/
theorem prioritized_txUnblocked (hc : txUnblocked c = true) :
    nssCoreGetPrioritizedCause c =
        (NSS_REGS_N2H_INTR_STATUS_EMPTY_BUFFERS_SOS, .nonQueue, 64) ∨
      nssCoreGetPrioritizedCause c =
        (NSS_REGS_N2H_INTR_STATUS_EMPTY_BUFFER_QUEUE, .queue, 64) ∨
      nssCoreGetPrioritizedCause c =
        (NSS_REGS_N2H_INTR_STATUS_TX_UNBLOCKED, .nonQueue, 1) := by
  unfold nssCoreGetPrioritizedCause
  split
  · exact .inl rfl
  split
  · exact .inr (.inl rfl)
  rw [if_pos (txUnblocked_iff.mpr hc)]
  exact .inr (.inr rfl)

/-- The prioritiser does not take `TX_UNBLOCKED` for another cause. -/
theorem prioritized_own {prioCause : U32} {causeType : CauseType} {weight : U16}
    (h : nssCoreGetPrioritizedCause c = (prioCause, causeType, weight)) :
    txUnblocked prioCause = false ∨
      prioCause = NSS_REGS_N2H_INTR_STATUS_TX_UNBLOCKED ∧ causeType = .nonQueue := by
  unfold nssCoreGetPrioritizedCause at h
  repeat' split at h
  all_goals cases h
  all_goals first
    | exact .inl rfl
    | exact .inr ⟨rfl, rfl⟩

/-- What the poll keeps of the causes and of its budget. -/
def PollOk (cause : U32) : PollPc → Prop
  | .idle => True
  | .read again budget => 0 ≤ budget ∧ (again = false → 0 < budget)
  | .clear again budget _ => 0 ≤ budget ∧ (again = false → 0 < budget)
  | .latch again budget _ => 0 ≤ budget ∧ (again = false → 0 < budget)
  | .inner budget => 0 ≤ budget
  | .handle budget prioCause causeType weight => 0 < budget ∧ cause ≠ 0 ∧ ∃ full,
      nssCoreGetPrioritizedCause cause = (prioCause, causeType, full) ∧
        weight = min budget full.toInt
  | .call budget _ => 0 < budget ∧ txUnblocked cause = true
  | .unstop budget => 0 < budget ∧ txUnblocked cause = true
  | .mask budget => 0 < budget ∧ txUnblocked cause = true
  | .retire budget prioCause => 0 < budget ∧ cause &&& prioCause ≠ 0 ∧
      (prioCause = NSS_REGS_N2H_INTR_STATUS_TX_UNBLOCKED ∨ txUnblocked prioCause = false)
  | .outer budget => 0 ≤ budget
  | .finish => True
  | .complete => cause = 0

def holds : PollPc → Bool
  | .call _ _ => true
  | _ => false

structure Sound (s : DecongestState ι) : Prop where
  poll : PollOk s.cause s.poll
  running : s.poll ≠ .idle ∨ s.cause ≠ 0 → s.sched = true
  lock : s.decongestCbLock = holds s.poll
  unmasked : txUnblocked s.intrMask = true ∨ s.sched = true ∨ s.isr = true ∨ 0 < s.finishing

theorem Boot.sound (h : Boot s) : Sound s := by
  refine ⟨?_, ?_, ?_, .inl ?_⟩
  · rw [h.poll]
    trivial
  · rintro (hpoll | hcause)
    · exact (hpoll h.poll).elim
    · exact (hcause h.cause).elim
  · rw [h.lock, h.poll]
    rfl
  · have hbit := congrArg txUnblocked h.unmasked
    unfold txUnblocked at hbit ⊢
    rw [BitVec.getLsbD_and] at hbit
    exact (Bool.and_eq_true _ _ ▸ hbit).1

theorem Sound.goes (hsched : t.sched = true) (hpoll : PollOk t.cause t.poll)
    (hlock : t.decongestCbLock = holds t.poll) : Sound t :=
  ⟨hpoll, fun _ => hsched, hlock, .inr (.inl hsched)⟩

theorem weight_pos {prioCause : U32} {causeType : CauseType} {full : U16}
    (h : nssCoreGetPrioritizedCause c = (prioCause, causeType, full))
    (hqueue : causeType = .queue) : 0 < full.toInt := by
  unfold nssCoreGetPrioritizedCause at h
  repeat' split at h
  all_goals cases h
  all_goals first
    | decide
    | cases hqueue

theorem prioritized_pending {prioCause : U32} {causeType : CauseType} {full : U16}
    (h : nssCoreGetPrioritizedCause c = (prioCause, causeType, full))
    (hknown : causeType ≠ .invalid) : c &&& prioCause ≠ 0 := by
  unfold nssCoreGetPrioritizedCause at h
  repeat' split at h
  all_goals cases h
  all_goals first
    | assumption
    | exact (hknown rfl).elim

theorem Sound.handleCause {budget weight : ℤ} {prioCause : U32} {causeType : CauseType}
    (h : Sound s) (hpc : s.poll = .handle budget prioCause causeType weight) :
    Sound (handleCause s budget prioCause causeType weight) := by
  have hsched : s.sched = true := h.running (.inl (by rw [hpc]; exact fun h => nomatch h))
  have hlock : s.decongestCbLock = false := by
    rw [h.lock, hpc]
    rfl
  have hok := h.poll
  rw [hpc] at hok
  obtain ⟨hbudget, hcause, full, hprio, hweight⟩ := hok
  cases causeType with
  | queue =>
    have hpos := weight_pos hprio rfl
    have hpending := prioritized_pending hprio (fun h => nomatch h)
    have hother : txUnblocked prioCause = false :=
      (prioritized_own hprio).resolve_right (fun h => nomatch h.2)
    unfold DecongestPoll.handleCause
    dsimp only
    split
    · exact .goes hsched ⟨by omega, hpending, .inr hother⟩ hlock
    · refine .goes hsched ?_ hlock
      change 0 ≤ _
      omega
  | nonQueue =>
    have hpending := prioritized_pending hprio (fun h => nomatch h)
    unfold DecongestPoll.handleCause
    dsimp only
    split
    · rename_i htx
      refine .goes hsched ⟨hbudget, ?_⟩ rfl
      rw [htx] at hpending
      exact txUnblocked_iff.mp hpending
    · rename_i htx
      refine .goes hsched ⟨hbudget, hpending, .inr ?_⟩ hlock
      exact (prioritized_own hprio).resolve_right (fun h => htx h.1)
  | emergency =>
    have hpending := prioritized_pending hprio (fun h => nomatch h)
    refine .goes hsched ⟨hbudget, hpending, .inr ?_⟩ hlock
    exact (prioritized_own hprio).resolve_right (fun h => nomatch h.2)
  | invalid => exact .goes hsched hbudget.le hlock

theorem Sound.pollStep (h : Sound s) (hpoll : s.poll ≠ .idle) : Sound (pollStep s) := by
  have hsched : s.sched = true := h.running (.inl hpoll)
  have hok := h.poll
  have hlock := h.lock
  unfold DecongestPoll.pollStep
  cases hpc : s.poll with
  | idle => exact (hpoll hpc).elim
  | read again budget =>
    rw [hpc] at hok hlock
    exact .goes hsched hok hlock
  | clear again budget intCause =>
    rw [hpc] at hok hlock
    exact .goes hsched hok hlock
  | latch again budget intCause =>
    rw [hpc] at hok hlock
    cases again with
    | false => exact .goes hsched hok.1 hlock
    | true => exact .goes hsched hok.1 hlock
  | inner budget =>
    rw [hpc] at hok hlock
    dsimp only
    split
    · rename_i hgo
      refine .goes hsched ⟨lt_of_le_of_ne hok hgo.2.symm, hgo.1, _, rfl, rfl⟩ hlock
    · exact .goes hsched ⟨hok, fun h => nomatch h⟩ hlock
  | handle budget prioCause causeType weight => exact h.handleCause hpc
  | call budget i =>
    rw [hpc] at hok hlock
    dsimp only
    split
    · exact .goes hsched hok hlock
    · exact .goes hsched hok rfl
  | unstop budget =>
    rw [hpc] at hok hlock
    exact .goes hsched hok hlock
  | mask budget =>
    rw [hpc] at hok hlock
    exact .goes hsched ⟨hok.1, txUnblocked_iff.mpr hok.2, .inl rfl⟩ hlock
  | retire budget prioCause =>
    rw [hpc] at hok hlock
    exact .goes hsched hok.1.le hlock
  | outer budget =>
    rw [hpc] at hok hlock
    dsimp only
    split
    · exact .goes hsched hok hlock
    · exact .goes hsched trivial hlock
  | finish =>
    rw [hpc] at hlock
    dsimp only
    split
    · rename_i hzero
      exact .goes hsched hzero hlock
    · exact .goes hsched trivial hlock
  | complete =>
    rw [hpc] at hok hlock
    refine ⟨trivial, ?_, hlock, .inr (.inr (.inr (Nat.succ_pos _)))⟩
    rintro (hidle | hcause)
    · exact (hidle rfl).elim
    · exact (hcause hok).elim

theorem Sound.beside (h : Sound s) (hpoll : t.poll = s.poll) (hcause : t.cause = s.cause)
    (hsched : s.sched = true → t.sched = true) (hlock : t.decongestCbLock = s.decongestCbLock)
    (hmask : txUnblocked t.intrMask = true ∨ t.sched = true ∨ t.isr = true ∨ 0 < t.finishing) :
    Sound t := by
  refine ⟨?_, ?_, ?_, hmask⟩
  · rw [hpoll, hcause]
    exact h.poll
  · rw [hpoll, hcause]
    exact fun hactive => hsched (h.running hactive)
  · rw [hpoll, hlock]
    exact h.lock

variable [DecidableEq ι]

theorem Sound.step (h : Sound s) (hstep : Step s l t) : Sound t := by
  cases hstep with
  | queueFull i qid hidle => exact h.beside rfl rfl id rfl h.unmasked
  | failureQueue i hfull =>
    refine h.beside rfl rfl id rfl (.inl ?_)
    rw [txUnblocked_or]
    exact Bool.or_true _
  | raise bits => exact h.beside rfl rfl id rfl h.unmasked
  | produce q k => exact h.beside rfl rfl id rfl h.unmasked
  | elsewhere status intrMask ring hstatus hmask =>
    refine h.beside rfl rfl id rfl ?_
    rw [← txUnblocked_pending, hmask, txUnblocked_pending]
    exact h.unmasked
  | handleIrq hisr => exact h.beside rfl rfl id rfl (.inr (.inr (.inl rfl)))
  | napiSchedule hisr => exact h.beside rfl rfl (fun _ => rfl) rfl (.inr (.inl rfl))
  | softirq budget hsched hidle hbudget =>
    refine .goes hsched ⟨hbudget.le, fun _ => hbudget⟩ ?_
    rw [h.lock, hidle]
    rfl
  | poll hready => exact h.pollStep hready.1
  | unmask hfinishing =>
    refine h.beside rfl rfl id rfl (.inl ?_)
    rw [txUnblocked_or]
    exact Bool.or_true _
  | register client hlock => exact h.beside rfl rfl id rfl h.unmasked
  | unregister callback hlock => exact h.beside rfl rfl id rfl h.unmasked

theorem sound (h : Reachable Boot Step s) : Sound s :=
  h.invariant Sound (fun _ h => Boot.sound h) fun _ _ _ h hstep => h.step hstep

/-! ## The registrations of a callback -/

/-- The slots that hold the callback. -/
def slots (f : ℕ) (clients : List Client) : ℕ := clients.countP fun client => client.callback = f

def registration (f : ℕ) : Label ι → Bool
  | .register client .success => client.callback = f
  | _ => false

def unregistration (f : ℕ) : Label ι → Bool
  | .unregister callback .success => callback = f
  | _ => false

theorem slots_pos (h : client ∈ clients) (hf : client.callback = f) : 0 < slots f clients :=
  List.countP_pos_iff.mpr ⟨client, h, decide_eq_true hf⟩

theorem slots_updateFirst {p : Client → Bool} {cs : List Client}
    (h : updateFirst p (fun _ => client) clients = some cs) : ∃ old : Client, p old = true ∧
      slots f cs + (if old.callback = f then 1 else 0) =
        slots f clients + (if client.callback = f then 1 else 0) := by
  obtain ⟨front, old, back, rfl, -, hp, rfl⟩ := updateFirst_split h
  refine ⟨old, hp, ?_⟩
  unfold slots
  simp only [List.countP_append, List.countP_cons, decide_eq_true_eq]
  omega

omit [DecidableEq ι] in
theorem register_slots (hf : f ≠ 0) :
    slots f (nssCmnRegisterQueueDecongestion client.callback client.ctx clients).2 =
      slots f clients + (if registration f (.register (ι := ι) client
        (nssCmnRegisterQueueDecongestion client.callback client.ctx clients).1) then 1 else 0) := by
  unfold nssCmnRegisterQueueDecongestion
  split
  · rename_i cs hupdate
    obtain ⟨old, hp, hcount⟩ := slots_updateFirst (f := f) hupdate
    have hold : old.callback ≠ f := fun h => hf (h.symm.trans (of_decide_eq_true hp))
    rw [if_neg hold] at hcount
    unfold registration
    dsimp only at hcount ⊢
    simp only [decide_eq_true_eq]
    omega
  · rfl

omit [DecidableEq ι] in
theorem unregister_slots (hf : f ≠ 0) {callback : ℕ} :
    slots f (nssCmnUnregisterQueueDecongestion callback clients).2 +
        (if unregistration f (.unregister (ι := ι) callback
          (nssCmnUnregisterQueueDecongestion callback clients).1) then 1 else 0) =
      slots f clients := by
  unfold nssCmnUnregisterQueueDecongestion
  split
  · rename_i cs hupdate
    obtain ⟨old, hp, hcount⟩ := slots_updateFirst (f := f) hupdate
    have hold : old.callback = callback := of_decide_eq_true hp
    rw [if_neg (show vacant.callback ≠ f from hf.symm), hold] at hcount
    unfold unregistration
    dsimp only
    simp only [decide_eq_true_eq]
    omega
  · rfl

omit [DecidableEq ι] in
theorem pollStep_clients (s : DecongestState ι) : (pollStep s).clients = s.clients := by
  unfold pollStep handleCause
  split <;> repeat' first | rfl | split

omit [DecidableEq ι] in
theorem pollLabel_invoke (h : pollLabel s = .invoke client) :
    client ∈ s.clients ∧ client.callback ≠ 0 := by
  unfold pollLabel at h
  split at h
  · split at h
    · rename_i hclient
      split at h
      · cases h
      · rename_i hnull
        cases h
        exact ⟨List.mem_of_getElem? hclient, hnull⟩
    · cases h
  · cases h

omit [DecidableEq ι] in
theorem pollLabel_other (s : DecongestState ι) :
    registration f (pollLabel s) = false ∧ unregistration f (pollLabel s) = false := by
  unfold pollLabel
  repeat' split
  all_goals exact ⟨rfl, rfl⟩

theorem step_slots (hf : f ≠ 0) (hstep : Step s l t) :
    slots f t.clients + (if unregistration f l then 1 else 0) =
      slots f s.clients + (if registration f l then 1 else 0) := by
  cases hstep with
  | poll hready =>
    rw [pollStep_clients, (pollLabel_other s).1, (pollLabel_other s).2]
  | register client hlock => exact register_slots hf
  | unregister callback hlock => exact unregister_slots hf
  | _ => rfl

theorem run_slots (hf : f ≠ 0) (hs : Boot s) (hrun : Run Step s ls t) :
    slots f t.clients + ls.countP (unregistration f) = ls.countP (registration f) := by
  induction hrun with
  | refl =>
    have hnone : slots f s.clients = 0 := by
      rw [hs.clients]
      refine List.countP_eq_zero.mpr fun client hclient => ?_
      rw [List.eq_of_mem_replicate hclient, decide_eq_true_eq]
      exact hf.symm
    rw [hnone]
    rfl
  | snoc _ last ih =>
    have hstep := step_slots hf last
    rw [List.countP_append, List.countP_append, List.countP_singleton, List.countP_singleton]
    omega

theorem step_invoke (hstep : Step s (.invoke client) t) :
    client ∈ s.clients ∧ client.callback ≠ 0 := by
  generalize hl : Label.invoke client = l at hstep
  cases hstep with
  | poll hready => exact pollLabel_invoke hl.symm
  | _ => cases hl

theorem invoke_registered (hs : Boot s) (hrun : Run Step s ls t) {u : DecongestState ι}
    (hstep : Step t (.invoke client) u) :
    ls.countP (unregistration client.callback) < ls.countP (registration client.callback) := by
  obtain ⟨hmem, hnull⟩ := step_invoke hstep
  have hpos := slots_pos hmem rfl
  have hcount := run_slots hnull hs hrun
  omega

end NssDrv.DecongestRuns

import NssDrv.DecongestDelivery
import NssDrv.TransmitRing

set_option autoImplicit false

/-!
# Where decongestion is lost

Runs played step by step, and what the interrupt handler, the poll, strict
priorities and callbacks that are registered twice make of them.
-/
namespace NssDrv.DecongestLost
open HlosInterface NapiHandler NapiProgress TransitionRuns FairRuns
open DecongestPoll DecongestRuns DecongestProgress DecongestDelivery
variable {ι : Type} [DecidableEq ι] {s t : DecongestState ι} {l : Label ι}

def obey (s : DecongestState ι) : Label ι → DecongestState ι
  | .queueFull i qid =>
    { s with
      ring := Function.update s.ring qid (s.ring qid).stopTx
      full := Function.update s.full i true }
  | .failureQueue i =>
    { s with
      intrMask := s.intrMask ||| NSS_REGS_N2H_INTR_STATUS_TX_UNBLOCKED
      full := Function.update s.full i false }
  | .raise bits => { s with status := s.status ||| bits }
  | .produce q k => { s with backlog := Function.update s.backlog q (s.backlog q + k) }
  | .elsewhere => s
  | .handleIrq =>
    { s with intrMask := s.intrMask &&& ~~~NSS_HAL_SUPPORTED_INTERRUPTS, isr := true }
  | .napiSchedule => { s with sched := true, isr := false }
  | .softirq budget => { s with poll := .read false budget }
  | .poll => pollStep s
  | .invoke _ => pollStep s
  | .unmask =>
    { s with
      intrMask := s.intrMask ||| NSS_HAL_SUPPORTED_INTERRUPTS
      finishing := s.finishing - 1 }
  | .register client _ =>
    { s with
      clients := (nssCmnRegisterQueueDecongestion client.callback client.ctx s.clients).2 }
  | .unregister callback _ =>
    { s with clients := (nssCmnUnregisterQueueDecongestion callback s.clients).2 }

def Allowed (s : DecongestState ι) : Label ι → Prop
  | .queueFull i _ => s.full i = false
  | .failureQueue i => s.full i = true
  | .handleIrq => s.isr = false
  | .napiSchedule => s.isr = true
  | .softirq budget => s.sched = true ∧ s.poll = .idle ∧ 0 < budget
  | .poll => PollReady s ∧ pollLabel s = .poll
  | .invoke client => PollReady s ∧ pollLabel s = .invoke client
  | .unmask => 0 < s.finishing
  | .register client status => s.decongestCbLock = false ∧
      (nssCmnRegisterQueueDecongestion client.callback client.ctx s.clients).1 = status
  | .unregister callback status => s.decongestCbLock = false ∧
      (nssCmnUnregisterQueueDecongestion callback s.clients).1 = status
  | _ => True

instance (s : DecongestState ι) : Decidable (PollReady s) :=
  inferInstanceAs (Decidable (_ ∧ (_ = true → _ = false)))

instance (s : DecongestState ι) : DecidablePred (Allowed s)
  | .queueFull i _ => inferInstanceAs (Decidable (s.full i = false))
  | .failureQueue i => inferInstanceAs (Decidable (s.full i = true))
  | .handleIrq => inferInstanceAs (Decidable (s.isr = false))
  | .napiSchedule => inferInstanceAs (Decidable (s.isr = true))
  | .softirq _ => inferInstanceAs (Decidable (_ = true ∧ _ = PollPc.idle ∧ _ < _))
  | .poll => inferInstanceAs (Decidable (PollReady s ∧ _ = _))
  | .invoke _ => inferInstanceAs (Decidable (PollReady s ∧ _ = _))
  | .unmask => inferInstanceAs (Decidable (0 < s.finishing))
  | .register _ _ => inferInstanceAs (Decidable (_ = false ∧ _ = _))
  | .unregister _ _ => inferInstanceAs (Decidable (_ = false ∧ _ = _))
  | .raise _ => isTrue trivial
  | .produce _ _ => isTrue trivial
  | .elsewhere => isTrue trivial

theorem obey_step (h : Allowed s l) : Step s l (obey s l) := by
  cases l with
  | queueFull i qid => exact .queueFull s i qid h
  | failureQueue i => exact .failureQueue s i h
  | raise bits => exact .raise s bits
  | produce q k => exact .produce s q k
  | elsewhere => exact .elsewhere s s.status s.intrMask s.ring rfl rfl
  | handleIrq => exact .handleIrq s h
  | napiSchedule => exact .napiSchedule s h
  | softirq budget => exact .softirq s budget h.1 h.2.1 h.2.2
  | poll =>
    have hstep : Step s (pollLabel s) (pollStep s) := .poll s h.1
    rw [h.2] at hstep
    exact hstep
  | invoke client =>
    have hstep : Step s (pollLabel s) (pollStep s) := .poll s h.1
    rw [h.2] at hstep
    exact hstep
  | unmask => exact .unmask s h
  | register client status =>
    obtain ⟨hlock, rfl⟩ := h
    exact .register s client hlock
  | unregister callback status =>
    obtain ⟨hlock, rfl⟩ := h
    exact .unregister s callback hlock

def AllowedAll : DecongestState ι → List (Label ι) → Prop
  | _, [] => True
  | s, l :: ls => Allowed s l ∧ AllowedAll (obey s l) ls

instance : (s : DecongestState ι) → (ls : List (Label ι)) → Decidable (AllowedAll s ls)
  | _, [] => isTrue trivial
  | s, l :: ls =>
    have : Decidable (AllowedAll (obey s l) ls) := instDecidableAllowedAll (obey s l) ls
    inferInstanceAs (Decidable (Allowed s l ∧ AllowedAll (obey s l) ls))

theorem allowedAll_run {ls : List (Label ι)} (h : AllowedAll s ls) :
    Run Step s ls (ls.foldl obey s) := by
  induction ls generalizing s with
  | nil => exact .refl s
  | cons l ls ih => exact .cons (obey_step h.1) (ih h.2)

def play (s : DecongestState ι) (l : ℕ → Label ι) : ℕ → DecongestState ι
  | 0 => s
  | n + 1 => obey (play s l n) (l n)

theorem play_endless {l : ℕ → Label ι} (h : ∀ n, Allowed (play s l n) (l n)) :
    Endless Step (play s l) l := fun n => obey_step (h n)

/-! ## Runs from one start -/

def bootState : DecongestState Unit where
  status := 0
  intrMask := NSS_HAL_SUPPORTED_INTERRUPTS
  cause := 0
  backlog := fun _ => 0
  sched := false
  isr := false
  poll := .idle
  finishing := 0
  decongestCbLock := false
  clients := List.replicate NSS_MAX_CLIENTS vacant
  ring := fun _ => TransmitRing.emptyRing 4
  full := fun _ => false

theorem bootState_boot : Boot bootState :=
  ⟨rfl, rfl, rfl, rfl, rfl, rfl, rfl, rfl, fun _ => rfl⟩

/-- The interrupt handler has masked the causes and not yet scheduled the poll. -/
def irqMasked : List (Label Unit) := [.queueFull () 1, .failureQueue (), .handleIrq]

/-- The poll has called `napi_complete` and not yet unmasked the causes. -/
def pollMasked : List (Label Unit) :=
  [.queueFull () 1, .failureQueue (), .raise NSS_REGS_N2H_INTR_STATUS_DATA_COMMAND_QUEUE,
    .handleIrq, .napiSchedule, .softirq 64] ++ List.replicate 13 .poll

def registeredTwice : List (Label Unit) :=
  [.register ⟨7, 1⟩ .success, .register ⟨7, 2⟩ .success, .unregister 7 .success,
    .raise NSS_REGS_N2H_INTR_STATUS_TX_UNBLOCKED, .handleIrq, .napiSchedule, .softirq 64] ++
    List.replicate 6 .poll

theorem irqMasked_allowed : AllowedAll bootState irqMasked := by decide

theorem pollMasked_allowed : AllowedAll bootState pollMasked := by decide

/-- A run in which a raised cause calls nobody. -/
structure Lost (ρ : ℕ → DecongestState Unit) (l : ℕ → Label Unit) : Prop where
  run : Endless Step ρ l
  start : Reachable (fun s => Boot s ∧ Known (pendingCause 0 s.status)) Step (ρ 0)
  fair : Fair ρ l
  lost : ∃ n bits f, l n = .raise bits ∧ txUnblocked bits = true ∧ f ≠ 0 ∧
    (∀ m, n ≤ m → Registered f (ρ m)) ∧ ∀ m, n < m → invokes f (l m) = false

theorem bootState_start : Reachable (fun s => Boot s ∧ Known (pendingCause 0 s.status))
    (Step (ι := Unit)) bootState := .start ⟨bootState_boot, rfl⟩

/-- An unknown cause is latched before `TX_UNBLOCKED` is raised. -/
def spinPrefix : List (Label Unit) :=
  [.register ⟨7, 1⟩ .success, .raise 8, .handleIrq, .napiSchedule, .softirq 64, .poll, .poll,
    .poll, .raise NSS_REGS_N2H_INTR_STATUS_TX_UNBLOCKED]

def spinLabel (n : ℕ) : Label Unit := spinPrefix.getD n .poll

structure Spinning (s : DecongestState Unit) : Prop where
  cause : s.cause = 8
  poll : s.poll = .inner 64 ∨ s.poll = .handle 64 0 .invalid 0
  intrMask : s.intrMask = 0
  isr : s.isr = false
  finishing : s.finishing = 0
  clients : s.clients = ⟨7, 1⟩ :: List.replicate 11 vacant

theorem Spinning.ready {s : DecongestState Unit} (h : Spinning s) : Allowed s .poll := by
  unfold Allowed PollReady pollLabel
  rcases h.poll with hpoll | hpoll
  · rw [hpoll]
    exact ⟨⟨(fun h => nomatch h), (fun h => nomatch h)⟩, rfl⟩
  · rw [hpoll]
    exact ⟨⟨(fun h => nomatch h), (fun h => nomatch h)⟩, rfl⟩

theorem Spinning.next {s : DecongestState Unit} (h : Spinning s) : Spinning (pollStep s) := by
  rcases h.poll with hpoll | hpoll
  · have hstep : pollStep s = { s with poll := .handle 64 0 .invalid 0 } := by
      unfold pollStep
      rw [hpoll]
      dsimp only
      rw [h.cause]
      rfl
    rw [hstep]
    exact ⟨h.cause, .inr rfl, h.intrMask, h.isr, h.finishing, h.clients⟩
  · have hstep : pollStep s = { s with poll := .inner 64 } := by
      unfold pollStep
      rw [hpoll]
      rfl
    rw [hstep]
    exact ⟨h.cause, .inl rfl, h.intrMask, h.isr, h.finishing, h.clients⟩

theorem spin_label {n : ℕ} (hn : 9 ≤ n) : spinLabel n = .poll := by
  unfold spinLabel
  rw [List.getD_eq_getElem?_getD, List.getElem?_eq_none hn]
  rfl

theorem spin_spinning {n : ℕ} (hn : 9 ≤ n) : Spinning (play bootState spinLabel n) := by
  induction n, hn using Nat.le_induction with
  | base => exact ⟨rfl, .inl rfl, rfl, rfl, rfl, rfl⟩
  | succ n hn ih =>
    unfold play
    rw [spin_label hn]
    exact ih.next

theorem spin_allowed (n : ℕ) : Allowed (play bootState spinLabel n) (spinLabel n) := by
  by_cases hn : 9 ≤ n
  · rw [spin_label hn]
    exact (spin_spinning hn).ready
  · have hbefore : ∀ m < 9, Allowed (play bootState spinLabel m) (spinLabel m) := by decide
    exact hbefore n (not_le.mp hn)

theorem poll_fair {ρ : ℕ → DecongestState Unit} {l : ℕ → Label Unit}
    (hpoll : ∀ n, ∃ m, n ≤ m ∧ Taken .poll (l m))
    (hquiet : ∀ n, ∃ m, n ≤ m ∧ (ρ m).poll ≠ .idle ∧ (ρ m).isr = false ∧ (ρ m).intrMask = 0 ∧
      (ρ m).finishing = 0) : Fair ρ l := by
  intro k n hall
  obtain ⟨m, hm, hbusy, hisr, hmask, hfinishing⟩ := hquiet n
  have henabled := hall m hm
  cases k with
  | poll => exact hpoll n
  | softirq => exact (hbusy henabled.2).elim
  | isr => cases hisr.symm.trans henabled
  | irq =>
    have hzero : (ρ m).status &&& (ρ m).intrMask = 0 := by
      rw [hmask]
      exact BitVec.and_zero
    rw [Enabled, hzero] at henabled
    exact (henabled.2 rfl).elim
  | finish =>
    rw [Enabled, hfinishing] at henabled
    cases henabled

theorem spin_lost : Lost (play bootState spinLabel) spinLabel := by
  refine ⟨play_endless spin_allowed, bootState_start, poll_fair (fun n => ?_) (fun n => ?_),
    8, NSS_REGS_N2H_INTR_STATUS_TX_UNBLOCKED, 7, rfl, rfl, by decide, fun m hm => ?_,
    fun m hm => ?_⟩
  · refine ⟨n + 9, by omega, ?_⟩
    rw [spin_label (by omega)]
    trivial
  · have hspin := spin_spinning (show 9 ≤ n + 9 by omega)
    refine ⟨n + 9, by omega, ?_, hspin.isr, hspin.intrMask, hspin.finishing⟩
    rcases hspin.poll with hpoll | hpoll
    · rw [hpoll]
      exact fun h => nomatch h
    · rw [hpoll]
      exact fun h => nomatch h
  · rcases Nat.lt_or_eq_of_le hm with hlt | rfl
    · refine ⟨⟨7, 1⟩, ?_, rfl⟩
      rw [(spin_spinning hlt).clients]
      exact List.mem_cons_self
    · exact ⟨⟨7, 1⟩, List.mem_cons_self, rfl⟩
  · rw [spin_label hm]
    rfl

theorem play_add {l : ℕ → Label Unit} {s : DecongestState Unit} (n m : ℕ) :
    play s l (n + m) = play (play s l n) (fun i => l (n + i)) m := by
  induction m with
  | zero => rfl
  | succ m ih =>
    change obey (play s l (n + m)) (l (n + m)) = _
    rw [ih]
    rfl

/-- The NSS returns as many empty buffers as a poll can take. -/
def fullPass : List (Label Unit) := [.produce 0 64, .softirq 64] ++ List.replicate 11 .poll

def starveLabel (n : ℕ) : Label Unit :=
  if n < 4 then
    [Label.register ⟨7, 1⟩ .success, .raise (NSS_REGS_N2H_INTR_STATUS_TX_UNBLOCKED ||| 1),
      .handleIrq, .napiSchedule].getD n .poll
  else fullPass.getD ((n - 4) % 13) .poll

def starved : DecongestState Unit :=
  { bootState with
    intrMask := 0
    cause := NSS_REGS_N2H_INTR_STATUS_TX_UNBLOCKED ||| 1
    sched := true
    clients := ⟨7, 1⟩ :: List.replicate 11 vacant }

theorem starve_period (n i : ℕ) : starveLabel (17 + 13 * n + i) = starveLabel (17 + i) := by
  unfold starveLabel
  rw [if_neg (by omega), if_neg (by omega)]
  congr 1
  omega

theorem starved_first : play bootState starveLabel 17 = starved := by
  refine DecongestState.ext rfl rfl rfl ?_ rfl rfl rfl rfl rfl rfl rfl rfl
  funext q
  rcases q with _ | q <;> rfl

theorem starved_again : play starved (fun i => starveLabel (17 + i)) 13 = starved := by
  refine DecongestState.ext rfl rfl rfl ?_ rfl rfl rfl rfl rfl rfl rfl rfl
  funext q
  rcases q with _ | q <;> rfl

theorem starved_always (n : ℕ) : play bootState starveLabel (17 + 13 * n) = starved := by
  induction n with
  | zero => exact starved_first
  | succ n ih =>
    rw [show 17 + 13 * (n + 1) = 17 + 13 * n + 13 by omega, play_add, ih,
      funext (starve_period n)]
    exact starved_again

theorem starve_split {n : ℕ} (hn : 17 ≤ n) : ∃ r < 13, starveLabel n = starveLabel (17 + r) ∧
    play bootState starveLabel n = play starved (fun i => starveLabel (17 + i)) r := by
  refine ⟨(n - 17) % 13, Nat.mod_lt _ (by decide), ?_⟩
  have hsplit : n = 17 + 13 * ((n - 17) / 13) + (n - 17) % 13 := by omega
  generalize (n - 17) / 13 = k at hsplit
  generalize (n - 17) % 13 = r at hsplit
  subst hsplit
  refine ⟨starve_period k r, ?_⟩
  rw [play_add, starved_always, funext (starve_period k)]

theorem starve_allowed (n : ℕ) : Allowed (play bootState starveLabel n) (starveLabel n) := by
  by_cases hn : 17 ≤ n
  · have hperiod : ∀ r < 13,
        Allowed (play starved (fun i => starveLabel (17 + i)) r) (starveLabel (17 + r)) := by
      decide
    obtain ⟨r, hr, hlabel, hstate⟩ := starve_split hn
    rw [hlabel, hstate]
    exact hperiod r hr
  · have hbefore : ∀ m < 17, Allowed (play bootState starveLabel m) (starveLabel m) := by decide
    exact hbefore n (not_le.mp hn)

theorem starve_lost : Lost (play bootState starveLabel) starveLabel := by
  refine ⟨play_endless starve_allowed, bootState_start, poll_fair (fun n => ?_) (fun n => ?_),
    1, NSS_REGS_N2H_INTR_STATUS_TX_UNBLOCKED ||| 1, 7, rfl, rfl, by decide, fun m hm => ?_,
    fun m hm => ?_⟩
  · refine ⟨17 + 13 * n + 2, by omega, ?_⟩
    rw [starve_period]
    trivial
  · refine ⟨17 + 13 * n + 2, by omega, ?_⟩
    rw [play_add, starved_always, funext (starve_period n)]
    exact ⟨(fun h => nomatch h), rfl, rfl, rfl⟩
  · refine ⟨⟨7, 1⟩, ?_, rfl⟩
    by_cases hn : 17 ≤ m
    · have hperiod : ∀ r < 13,
          (play starved (fun i => starveLabel (17 + i)) r).clients = starved.clients := by decide
      obtain ⟨r, hr, -, hstate⟩ := starve_split hn
      rw [hstate, hperiod r hr]
      exact List.mem_cons_self
    · have hbefore : ∀ m < 17, 1 ≤ m →
          (play bootState starveLabel m).clients = starved.clients := by decide
      rw [hbefore m (not_le.mp hn) hm]
      exact List.mem_cons_self
  · by_cases hn : 17 ≤ m
    · have hperiod : ∀ r < 13, invokes 7 (starveLabel (17 + r)) = false := by decide
      obtain ⟨r, hr, hlabel, -⟩ := starve_split hn
      rw [hlabel]
      exact hperiod r hr
    · have hbefore : ∀ m < 17, invokes 7 (starveLabel m) = false := by decide
      exact hbefore m (not_le.mp hn)

/-! ## A run in which nothing is lost -/

def deliverPrefix : List (Label Unit) :=
  [.register ⟨7, 1⟩ .success, .raise NSS_REGS_N2H_INTR_STATUS_TX_UNBLOCKED, .handleIrq,
    .napiSchedule, .softirq 64] ++ List.replicate 5 .poll ++ [.invoke ⟨7, 1⟩] ++
    List.replicate 22 .poll ++ [.unmask]

def deliverLabel (n : ℕ) : Label Unit := deliverPrefix.getD n .elsewhere

theorem deliver_label {n : ℕ} (hn : 34 ≤ n) : deliverLabel n = .elsewhere := by
  unfold deliverLabel
  rw [List.getD_eq_getElem?_getD, List.getElem?_eq_none hn]
  rfl

theorem deliver_rest {n : ℕ} (hn : 34 ≤ n) :
    play bootState deliverLabel n = play bootState deliverLabel 34 := by
  induction n, hn using Nat.le_induction with
  | base => rfl
  | succ n hn ih =>
    rw [← ih]
    change obey (play bootState deliverLabel n) (deliverLabel n) = _
    rw [deliver_label hn]
    rfl

theorem deliver_allowed (n : ℕ) : Allowed (play bootState deliverLabel n) (deliverLabel n) := by
  by_cases hn : 34 ≤ n
  · rw [deliver_label hn]
    trivial
  · have hbefore : ∀ m < 34, Allowed (play bootState deliverLabel m) (deliverLabel m) := by decide
    exact hbefore n (not_le.mp hn)

theorem deliver_fair : Fair (play bootState deliverLabel) deliverLabel := by
  intro k n hall
  have henabled := hall (n + 34) (by omega)
  rw [deliver_rest (by omega)] at henabled
  cases k with
  | poll => exact (henabled.1 rfl).elim
  | softirq => exact absurd henabled.1 (by decide)
  | isr => exact absurd (show (play bootState deliverLabel 34).isr = true from henabled) (by decide)
  | irq => exact (henabled.2 rfl).elim
  | finish =>
    exact absurd (show 0 < (play bootState deliverLabel 34).finishing from henabled) (by decide)

theorem deliver_delivery : Delivery (play bootState deliverLabel) deliverLabel := by
  refine ⟨.start ⟨bootState_boot, rfl⟩, play_endless deliver_allowed, fun n => ?_, deliver_fair,
    fun hpasses => ?_⟩
  · by_cases hn : 34 ≤ n
    · rw [deliver_label hn]
      trivial
    · have hlt := not_le.mp hn
      interval_cases n
      all_goals first
        | exact True.intro
        | exact known_zero
  · obtain ⟨m, hm, hl, -⟩ := hpasses 34
    rw [deliver_label hm] at hl
    cases hl

theorem deliver_registered (m : ℕ) (hm : 1 ≤ m) :
    Registered 7 (play bootState deliverLabel m) := by
  refine ⟨⟨7, 1⟩, ?_, rfl⟩
  by_cases hn : 34 ≤ m
  · rw [deliver_rest hn]
    decide
  · have hbefore : ∀ m < 34, 1 ≤ m →
        (⟨7, 1⟩ : Client) ∈ (play bootState deliverLabel m).clients := by decide
    exact hbefore m (not_le.mp hn) hm

/-! ## The result -/

/-- While no poll is scheduled, no interrupt handler is between its two accesses and
    no poll between `napi_complete` and its unmask, `TX_UNBLOCKED` is unmasked. Raised,
    it leads to a call of every callback that stays registered; and what is called has
    registrations left. -/
theorem decongestion_kept :
    (∀ s : DecongestState ι, Reachable Boot Step s → s.sched = false → s.isr = false →
      s.finishing = 0 → txUnblocked s.intrMask = true) ∧
    (∀ (ρ : ℕ → DecongestState ι) (l : ℕ → Label ι), Delivery ρ l →
      ∀ n bits, l n = .raise bits → txUnblocked bits = true →
        ∀ f, f ≠ 0 → (∀ m, n ≤ m → Registered f (ρ m)) → ∃ m, n < m ∧ invokes f (l m) = true) ∧
    ∀ (s t u : DecongestState ι) (ls : List (Label ι)) (client : Client), Boot s →
      Run Step s ls t → Step t (.invoke client) u →
        ls.countP (unregistration client.callback) <
          ls.countP (registration client.callback) := by
  refine ⟨?_, ?_, ?_⟩
  · intro s hs hsched hisr hfinishing
    have hunmasked := (sound hs).unmasked
    rw [hsched, hisr, hfinishing] at hunmasked
    rcases hunmasked with h | h | h | h
    · exact h
    · cases h
    · cases h
    · cases h
  · intro ρ l h n bits hraise hbits f hf hreg
    exact callback_called h hraise hbits hf hreg
  · intro s t u ls client hs hrun hstep
    exact invoke_registered hs hrun hstep

theorem decongestion_kept_boot :
    (txUnblocked bootState.intrMask = true ∧
      ∃ m, 1 < m ∧ invokes 7 (deliverLabel m) = true) ∧
      registeredTwice.countP (unregistration 7) < registeredTwice.countP (registration 7) := by
  refine ⟨⟨?_, ?_⟩, ?_⟩
  · exact decongestion_kept.1 bootState (.start bootState_boot) rfl rfl rfl
  · exact decongestion_kept.2.1 _ _ deliver_delivery 1 NSS_REGS_N2H_INTR_STATUS_TX_UNBLOCKED rfl
      rfl 7 (by decide) deliver_registered
  · obtain ⟨t, hrun, hlast⟩ : ∃ t, Run Step bootState registeredTwice t ∧
        Allowed t (.invoke ⟨7, 2⟩) :=
      ⟨_, allowedAll_run (by decide), by decide⟩
    exact decongestion_kept.2.2 bootState t _ registeredTwice ⟨7, 2⟩ bootState_boot hrun
      (obey_step hlast)

/-- The cause is masked before a poll is scheduled and after one completes; an unknown
    cause and a queue of empty buffers that stays full keep a raised cause from the
    callbacks; and a callback registered twice is called after it is unregistered. -/
theorem decongestion_lost :
    (∃ ls s, Run Step bootState ls s ∧ .failureQueue () ∈ ls ∧ s.sched = false ∧
      s.finishing = 0 ∧ txUnblocked s.intrMask = false) ∧
    (∃ ls s, Run Step bootState ls s ∧ .failureQueue () ∈ ls ∧ s.sched = false ∧
      s.isr = false ∧ txUnblocked s.intrMask = false) ∧
    (∃ ρ l, Lost ρ l ∧ ∀ n q k, l n ≠ .produce q k) ∧
    (∃ ρ l, Lost ρ l ∧ ∀ n, RaisesKnown (l n)) ∧
    ∃ ls₁ ls₂ t u client, Boot bootState ∧
      Run Step bootState (ls₁ ++ .unregister client.callback .success :: ls₂) t ∧
      (∀ l ∈ ls₂, registration client.callback l = false) ∧ Step t (.invoke client) u := by
  refine ⟨?_, ?_, ?_, ?_, ?_⟩
  · exact ⟨irqMasked, _, allowedAll_run irqMasked_allowed, by decide, by decide, by decide,
      by decide⟩
  · exact ⟨pollMasked, _, allowedAll_run pollMasked_allowed, by decide, by decide, by decide,
      by decide⟩
  · refine ⟨_, _, spin_lost, fun n q k => ?_⟩
    by_cases hn : 9 ≤ n
    · rw [spin_label hn]
      exact fun h => nomatch h
    · have hlt := not_le.mp hn
      interval_cases n <;> exact fun h => nomatch h
  · refine ⟨_, _, starve_lost, fun n => ?_⟩
    by_cases hn : 17 ≤ n
    · obtain ⟨r, hr, hlabel, -⟩ := starve_split hn
      rw [hlabel]
      interval_cases r <;> exact True.intro
    · have hlt := not_le.mp hn
      interval_cases n
      all_goals first
        | exact True.intro
        | exact known_zero
  · exact ⟨registeredTwice.take 2, registeredTwice.drop 3, _, _, ⟨7, 2⟩, bootState_boot,
      allowedAll_run (by decide), by decide, obey_step (by decide)⟩

end NssDrv.DecongestLost

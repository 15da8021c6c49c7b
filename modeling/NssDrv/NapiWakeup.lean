import NssDrv.NapiIteration

set_option autoImplicit false

/-!
# No lost wake-up

Every run of the NAPI handler beside the NSS, up to `napi_complete`: which
cause bits are pending then, and what the returned count says.
-/
namespace NssDrv.NapiWakeup
open HlosInterface SharedThread ReceiveQueue NapiHandler NapiIteration ThreadPool TransitionRuns

section Loop
variable {ω : Type} {shiftFactor m : ℕ} {c : U32} {n : ℕ → ℕ} {s : NapiState ω} {count : U16}
  {budget start limit : ℤ}

theorem latch_kept (hs : shiftFactor ≤ 17) (h : NapiOk shiftFactor c c n m s) :
    Sat (NssMove shiftFactor) (NapiIteration.Guarantee shiftFactor)
      (fun _ t => ∃ x, NapiOk shiftFactor (c ||| x) (c ||| x) n m t) (latchCause shiftFactor) s := by
  simp only [latchCause, Proc.bind_eq]
  refine Sat.read (fun _ _ => .quiet rfl rfl rfl) (napiOk_stable hs) h fun t ht => ?_
  set x := pendingCause shiftFactor t.status
  have hheld : NapiOk shiftFactor c (c ||| x) n m t := by
    refine ⟨ht.cause_eq, ht.resting, ht.signalled, fun q hq => ?_, ht.processed, ht.completed⟩
    rcases ht.awake q hq with hp | hh | hle
    · exact .inl hp
    · exact .inr (.inl (by rw [BitVec.getLsbD_or, hh]; rfl))
    · exact .inr (.inr hle)
  refine Sat.modify (napiOk_stable hs) hheld fun u hu => ⟨⟨fun i hi => ?_, rfl, .inl rfl⟩, ?_⟩
  · rw [pendingCause_clear hs, BitVec.getLsbD_and, Bool.and_eq_true] at hi
    exact hi.1
  have hcleared : NapiOk shiftFactor c (c ||| x) n m
      { u with status := u.status &&& ~~~(x <<< shiftFactor) } := by
    refine ⟨hu.cause_eq, hu.resting, hu.signalled, fun q hq => ?_, hu.processed, hu.completed⟩
    rcases hu.awake q hq with hp | hh | hle
    · -- a bit that is cleared here is one of those read
      by_cases hx : x.getLsbD q = true
      · exact .inr (.inl (by rw [BitVec.getLsbD_or, hx, Bool.or_true]))
      · refine .inl ?_
        have hlt : q < 32 := by omega
        rw [pendingCause_clear hs, BitVec.getLsbD_and, BitVec.getLsbD_not, hp,
          Bool.eq_false_iff.mpr hx, decide_eq_true hlt]
        rfl
    · exact .inr (.inl hh)
    · exact .inr (.inr hle)
  have hex : Stable (NssMove shiftFactor) fun t : NapiState ω =>
      ∃ x, NapiOk shiftFactor (c ||| x) (c ||| x) n m t := by
    rintro t u hr ⟨x, hx⟩
    exact ⟨x, napiOk_stable hs t u hr hx⟩
  refine Sat.act (napiOk_stable hs) hcleared fun v hv _ => ⟨.quiet rfl rfl rfl, Sat.ret hex ⟨x, ?_⟩⟩
  exact ⟨by rw [hv.cause_eq], hv.resting, hv.signalled, hv.awake, hv.processed, hv.completed⟩

/-- What a call has done when it returns `v`: it began with `start` descriptors
    processed, `m` completions and the budget `limit`. -/
structure Finished (shiftFactor m : ℕ) (start limit : ℤ) (v : U16) (s : NapiState ω) : Prop where
  idle : ∃ c n, NapiOk shiftFactor c c n s.completed s ∧ v.toInt = total n - start
  within : v.toInt ≤ limit
  completion : s.completed = m + 1 ∧ v.toInt < limit ∨ s.completed = m ∧ v.toInt = limit

theorem finished_stable (hs : shiftFactor ≤ 17) {v : U16} : Stable (NssMove shiftFactor)
    (Finished (ω := ω) shiftFactor m start limit v) := by
  intro t u hr h
  obtain ⟨c, n, hok, hcount⟩ := h.idle
  refine ⟨⟨c, n, ?_, hcount⟩, h.within, ?_⟩
  · rw [hr.completed_eq]
    exact napiOk_stable hs t u hr hok
  · rw [hr.completed_eq]
    exact h.completion

/-- At the test of the inner loop. A budget used up leaves a cause behind. -/
structure AtLoop (shiftFactor m : ℕ) (start limit : ℤ) (count : U16) (budget : ℤ)
    (s : NapiState ω) : Prop where
  state : ∃ c n, NapiOk shiftFactor c c n m s ∧ (total n : ℤ) - start = limit - budget ∧
    (budget = 0 → c ≠ 0)
  budget_nonneg : 0 ≤ budget
  counted : (count.toNat : ℤ) = limit - budget

theorem awake_noLost (h : NapiOk shiftFactor 0 0 n m s) : NoLostWakeup shiftFactor s := by
  intro q hq hlt
  rcases h.awake q hq with hp | hz | hle
  · exact .inl hp
  · simp at hz
  · exact .inr (by omega)

theorem finish_finished (hs : shiftFactor ≤ 17) (hlimit : limit ≤ 32767)
    (h : NapiOk shiftFactor c c n m s) (htotal : (total n : ℤ) - start = limit - budget)
    (hzero : budget = 0 → c ≠ 0) (hnonneg : 0 ≤ budget) (hexit : ¬(c ≠ 0 ∧ budget ≠ 0))
    (hcount : (count.toNat : ℤ) = limit - budget) :
    Sat (NssMove shiftFactor) (NapiIteration.Guarantee shiftFactor)
      (Finished shiftFactor m start limit) (napiFinish shiftFactor count) s := by
  have hint : count.toInt = limit - budget := by
    have hcond := BitVec.toInt_eq_toNat_cond count
    split at hcond <;> omega
  simp only [napiFinish, Proc.bind_eq, Proc.pure_eq]
  refine Sat.read (fun _ _ => .quiet rfl rfl rfl) (napiOk_stable hs) h fun t ht => ?_
  rw [ht.cause_eq]
  by_cases hc : c = 0
  · subst hc
    have hpos : budget ≠ 0 := fun hb => hzero hb rfl
    rw [if_pos rfl]
    refine Sat.modify (napiOk_stable hs) ht fun u hu => ?_
    refine ⟨⟨fun _ h => h, rfl, .inr ⟨rfl, awake_noLost hu⟩⟩, ?_⟩
    have hdone : NapiOk shiftFactor 0 0 n (m + 1) { u with completed := u.completed + 1 } :=
      ⟨hu.cause_eq, hu.resting, hu.signalled, hu.awake, hu.processed, by rw [hu.completed]⟩
    refine Sat.modify (napiOk_stable hs) hdone fun v hv => ⟨.quiet rfl rfl rfl, ?_⟩
    refine Sat.ret (finished_stable hs) ⟨⟨0, n, ?_, by omega⟩, by omega, .inl ⟨hv.completed, by omega⟩⟩
    exact ⟨hv.cause_eq, hv.resting, hv.signalled, hv.awake, hv.processed, rfl⟩
  · have hb : budget = 0 := by
      by_contra hne
      exact hexit ⟨hc, hne⟩
    rw [if_neg hc]
    refine Sat.ret (finished_stable hs) ⟨⟨c, n, ?_, by omega⟩, by omega, .inr ⟨ht.completed, by omega⟩⟩
    rw [ht.completed]
    exact ht

theorem loop_finished (hs : shiftFactor ≤ 17) (hd : Handlers ω) (hlimit : limit ≤ 32767)
    (fuel : ℕ) (h : AtLoop shiftFactor m start limit count budget s) :
    Sat (NssMove shiftFactor) (NapiIteration.Guarantee shiftFactor)
      (Finished shiftFactor m start limit)
      (napiLoop hd shiftFactor fuel count budget) s := by
  induction fuel generalizing count budget s with
  | zero => trivial
  | succ fuel ih =>
    obtain ⟨⟨c, n, hok, htotal, hzero⟩, hnonneg, hcount⟩ := h
    simp only [napiLoop, Proc.bind_eq]
    refine Sat.read (fun _ _ => .quiet rfl rfl rfl) (napiOk_stable hs) hok fun t ht => ?_
    rw [ht.cause_eq]
    split
    · rename_i hgo
      refine Sat.bind (iteration_passed hs hd (by omega) ht) fun next u hu => ?_
      obtain ⟨c', n', k, hok', hout, hle, rfl, htot⟩ := hu
      refine ih ⟨⟨c', n', hok', by rw [htot]; push_cast; omega, fun hb => ?_⟩, by simpa using hle, ?_⟩
      · -- a used up budget means that the last pass kept its cause
        cases hout with
        | worked => exact hgo.1
        | retired mask k pending room => simp only at hb; omega
        | unknown => exact hgo.1
      · have hk : k < 2 ^ 16 := by omega
        have hsum : count.toNat + k < 2 ^ 16 := by omega
        rw [BitVec.toNat_add, BitVec.toNat_ofNat, Nat.mod_eq_of_lt hk, Nat.mod_eq_of_lt hsum]
        push_cast
        omega
    · refine Sat.bind (latch_kept hs ht) fun _ u hu => ?_
      obtain ⟨x, hx⟩ := hu
      have hzero' : budget = 0 → c ||| x ≠ 0 := fun hb hor => by
        have hc := hzero hb
        exact hc (BitVec.or_eq_zero_iff.mp hor).1
      refine Sat.read (fun _ _ => .quiet rfl rfl rfl) (napiOk_stable hs) hx fun v hv => ?_
      rw [hv.cause_eq]
      split
      · exact ih ⟨⟨c ||| x, n, hv, htotal, hzero'⟩, hnonneg, hcount⟩
      · rename_i hexit
        exact finish_finished hs hlimit hv htotal hzero' hnonneg hexit hcount

theorem napi_finished (hs : shiftFactor ≤ 17) (hd : Handlers ω) (hpos : 0 < limit)
    (hlimit : limit ≤ 32767) (fuel : ℕ) (h : NapiOk shiftFactor c c n m s) :
    Sat (NssMove shiftFactor) (NapiIteration.Guarantee shiftFactor)
      (Finished shiftFactor m (total n) limit)
      (nssCoreHandleNapi hd shiftFactor fuel limit) s := by
  simp only [nssCoreHandleNapi, Proc.bind_eq]
  refine Sat.bind (latch_kept hs h) fun _ t ht => ?_
  obtain ⟨x, hx⟩ := ht
  refine loop_finished hs hd hlimit fuel ⟨⟨c ||| x, n, hx, by omega, by omega⟩, by omega, ?_⟩
  simp

end Loop

/-- Calls of the handler with the budgets NAPI gives it. -/
inductive NapiCall {ω : Type} (hd : Handlers ω) (shiftFactor : ℕ) :
    Unit → Proc (NapiState ω) U16 → Prop where
  | poll (fuel : ℕ) (budget : ℤ) (pos : 0 < budget) (le : budget ≤ 32767) :
      NapiCall hd shiftFactor () (nssCoreHandleNapi hd shiftFactor fuel budget)

def Start {ω : Type} (shiftFactor : ℕ) (s : NapiState ω) : Prop :=
  ∃ c n, NapiOk shiftFactor c c n s.completed s

structure Booted {ω : Type} (s : NapiState ω) : Prop where
  empty : ∀ q < 3, Empty (s.port q)
  signalled : ∀ q < 3, s.signalled q = 0

section Run
variable {ω : Type} (hd : Handlers ω) (shiftFactor : ℕ)

theorem Booted.start {s : NapiState ω} (h : Booted s) : Start shiftFactor s := by
  refine ⟨s.cause, fun _ => 0, rfl, fun q hq => (h.empty q hq).resting, fun q hq => ?_,
    fun q hq => .inr (.inr ?_), fun q hq => ?_, rfl⟩
  · rw [h.signalled q hq]
    exact Nat.zero_le _
  · rw [h.signalled q hq]
    exact Nat.zero_le _
  · exact List.length_eq_zero_iff.mpr (h.empty q hq).processed

abbrev NapiPool (ω : Type) := Pool Unit (NapiState ω) U16

abbrev NapiStep : NapiPool ω → Label Unit (NapiState ω) U16 → NapiPool ω → Prop :=
  Step (NapiCall hd shiftFactor) (NssMove shiftFactor)

theorem start_stable (hs : shiftFactor ≤ 17) :
    Stable (NssMove shiftFactor) (Start (ω := ω) shiftFactor) := by
  rintro s t hr ⟨c, n, h⟩
  exact ⟨c, n, by rw [hr.completed_eq]; exact napiOk_stable hs s t hr h⟩

theorem napi_discipline (hs : shiftFactor ≤ 17) : Discipline (NapiCall hd shiftFactor)
    (NssMove shiftFactor) (fun _ => NssMove shiftFactor)
    (fun _ => NapiIteration.Guarantee shiftFactor) (fun _ => Start shiftFactor)
    (fun _ _ => Start shiftFactor) where
  others i j hne := (hne (Subsingleton.elim i j)).elim
  env _ _ _ h := h
  idle _ _ _ h := h
  calls _ _ hq s h := by
    obtain ⟨c, n, hok⟩ := h
    cases hq with
    | poll fuel budget pos le =>
      refine (napi_finished hs hd pos le fuel hok).post fun v t ht => ?_
      obtain ⟨c', n', hok', _⟩ := ht.idle
      exact ⟨c', n', hok'⟩

theorem napi_onTrack (hs : shiftFactor ≤ 17) {c : NapiPool ω}
    (h : Reachable (Idle Booted) (NapiStep hd shiftFactor) c) :
    OnTrack (fun _ => NssMove shiftFactor) (fun _ => NapiIteration.Guarantee shiftFactor)
      (fun _ _ => Start shiftFactor) c :=
  (napi_discipline hd shiftFactor hs).onTrack
    (fun _ _ _ h _ ht => (start_stable shiftFactor hs).star ht (h.start shiftFactor)) h

/-- The descriptors processed so far on all queues. -/
def consumed (s : NapiState ω) : ℕ := total fun q => (s.queue q).processed.length

theorem consumed_eq {c held : U32} {n : ℕ → ℕ} {m : ℕ} {s : NapiState ω}
    (h : NapiOk shiftFactor c held n m s) : consumed s = total n := by
  simp only [consumed, total]
  rw [h.processed 0 (by decide), h.processed 1 (by decide), h.processed 2 (by decide)]

/-- In every interleaving with the NSS: when `napi_complete` is called, each
    queue with work left has its bit pending or the NSS is still to set it;
    and a call completes exactly if it returns less than its budget, having
    consumed as many descriptors as it returns. -/
theorem napi_complete_safe (hs : shiftFactor = 0 ∨ shiftFactor = 15) {c c' : NapiPool ω}
    {l : Label Unit (NapiState ω) U16}
    (h : Reachable (Idle Booted) (NapiStep hd shiftFactor) c)
    (hstep : NapiStep hd shiftFactor c l c') :
    (c'.shared.completed ≠ c.shared.completed → NoLostWakeup shiftFactor c.shared) ∧
      ∀ c₀ fuel budget ls v, 0 < budget → budget ≤ 32767 →
        Reachable (Idle Booted) (NapiStep hd shiftFactor) c₀ →
          Run (NapiStep hd shiftFactor) c₀
            (.call () (nssCoreHandleNapi hd shiftFactor fuel budget) :: ls) c →
            (∀ q, .call () q ∉ ls) → c.thread () = .ret v →
              (consumed c.shared : ℤ) = consumed c₀.shared + v.toInt ∧ v.toInt ≤ budget ∧
                c.shared.completed ≤ c₀.shared.completed + 1 ∧
                (c.shared.completed = c₀.shared.completed + 1 ↔ v.toInt < budget) := by
  have hs17 : shiftFactor ≤ 17 := by omega
  refine ⟨fun hne => ?_, ?_⟩
  · rcases (napi_discipline hd shiftFactor hs17).shared (napi_onTrack hd shiftFactor hs17 h) hstep
      with ⟨_, _, hg⟩ | ⟨_, he⟩ | heq
    · rcases hg.complete with hsame | ⟨_, hsafe⟩
      · exact (hne hsame).elim
      · exact hsafe
    · exact (hne he.completed_eq).elim
    · exact (hne (by rw [heq])).elim
  · intro c₀ fuel budget ls v pos le h₀ run only returned
    obtain ⟨c₁, hcall, _⟩ := run.uncons
    cases hcall with
    | @call _ _ a idle allowed =>
      have htrack := napi_onTrack hd shiftFactor hs17 h₀
      have hidle := htrack ()
      rw [idle] at hidle
      obtain ⟨cause, n, hok⟩ := hidle _ .refl
      have hfin := (napi_discipline hd shiftFactor hs17).call_post htrack
        (napi_finished hs17 hd pos le fuel hok) run only returned
      obtain ⟨cause', n', hok', hcount⟩ := hfin.idle
      have hbefore := consumed_eq shiftFactor hok
      have hafter := consumed_eq shiftFactor hok'
      have hwithin := hfin.within
      refine ⟨by omega, hwithin, ?_, ?_⟩
      · rcases hfin.completion with ⟨hdone, _⟩ | ⟨hkept, _⟩ <;> omega
      · rcases hfin.completion with ⟨hdone, hlt⟩ | ⟨hkept, heq⟩ <;> omega

end Run

def quietHandlers : Handlers Unit :=
  { body := fun _ _ => (), uninitialized := fun _ => false, refill := fun _ => .ret (),
    decongest := .ret (), coredump := fun _ => .ret () }

def bootState : NapiState Unit :=
  { status := 0, intrMask := 0, cause := 0, queue := fun _ => emptyN2hRing 4, host := (),
    signalled := fun _ => 0, left := 0, completed := 0 }

theorem bootState_booted : Booted bootState :=
  ⟨fun _ _ => ⟨⟨2, by decide, rfl⟩, (by decide : 0 < 4), rfl, rfl, rfl, rfl, rfl, rfl⟩, fun _ _ => rfl⟩

/-- The NSS has advanced the index of queue 1 and not yet set its cause bit. -/
def advancedPool : NapiPool Unit :=
  ⟨{ bootState with queue := Function.update bootState.queue 1 ((emptyN2hRing 4).produce 1) },
    fun _ => .ret 0⟩

theorem advancedPool_reachable :
    Reachable (Idle Booted) (NapiStep quietHandlers 0) advancedPool := by
  have hidle : Idle Booted (⟨bootState, fun _ => .ret 0⟩ : NapiPool Unit) :=
    ⟨bootState_booted, fun _ => ⟨0, rfl⟩⟩
  have hmove : NssMove 0 bootState advancedPool.shared :=
    .ring bootState 1 (.produce (emptyN2hRing 4) 1 (by decide))
  exact .next (.start hidle) (.env hmove)

/-- A poll up to the call of `napi_complete`. -/
def pollToComplete : List (Order Unit (NapiState Unit) U16) :=
  .call () (nssCoreHandleNapi quietHandlers 0 2 64) :: List.replicate 9 (.run ())

theorem pollToComplete_allowed :
    ∀ o ∈ pollToComplete, o.Allowed (NapiCall quietHandlers 0) (NssMove 0) := by
  intro o ho
  simp only [pollToComplete, List.mem_cons, List.mem_replicate] at ho
  rcases ho with rfl | ⟨_, rfl⟩
  · exact .poll 2 64 (by decide) (by decide)
  · trivial

theorem completing_run : ∃ c c', Reachable (Idle Booted) (NapiStep quietHandlers 0) c ∧
    NapiStep quietHandlers 0 c (.run ()) c' ∧ c'.shared.completed ≠ c.shared.completed ∧
    (c.shared.queue 1).processed.length < (c.shared.queue 1).produced.length ∧
    (pendingCause 0 c.shared.status).getLsbD 1 = false := by
  have hfollow : ∃ c, advancedPool.follow pollToComplete = some c := ⟨_, rfl⟩
  obtain ⟨c, hc⟩ := hfollow
  have hreach := advancedPool_reachable.run (Pool.follow_run pollToComplete_allowed hc)
  obtain rfl := Option.some.inj hc
  refine ⟨_, _, hreach, Pool.obey_step (o := .run ()) trivial rfl, ?_, ?_, ?_⟩
  · decide
  · decide
  · decide

/-- The bit of a queue with work left need not be pending at completion, and
    a poll without budget completes although it returns its whole budget. -/
theorem napi_complete_unsignalled : (¬ ∀ c c' : NapiPool Unit,
    Reachable (Idle Booted) (NapiStep quietHandlers 0) c →
      NapiStep quietHandlers 0 c (.run ()) c' → c'.shared.completed ≠ c.shared.completed →
        ∀ q < 3, (c.shared.queue q).processed.length < (c.shared.queue q).produced.length →
          (pendingCause 0 c.shared.status).getLsbD q = true) ∧
    ∃ s, (nssCoreHandleNapi quietHandlers 0 2 0).exec bootState = some (0, s) ∧
      s.completed = bootState.completed + 1 := by
  refine ⟨fun hall => ?_, _, rfl, rfl⟩
  obtain ⟨c, c', hreach, hstep, hdone, hleft, hbit⟩ := completing_run
  rw [hall c c' hreach hstep hdone 1 (by decide) hleft] at hbit
  cases hbit

theorem napi_complete_safe_run : ∃ c c', NapiStep quietHandlers 0 c (.run ()) c' ∧
    c'.shared.completed ≠ c.shared.completed ∧ NoLostWakeup 0 c.shared := by
  obtain ⟨c, c', hreach, hstep, hdone, _⟩ := completing_run
  exact ⟨c, c', hstep, hdone, (napi_complete_safe quietHandlers 0 (.inl rfl) hreach hstep).1 hdone⟩

end NssDrv.NapiWakeup

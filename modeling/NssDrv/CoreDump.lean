import NssDrv.CoreProbe
import NssDrv.RaisedFlags
import NssDrv.ThreadPool
import NssDrv.TransmitApi

set_option autoImplicit false

/-!
# The core dump protocol

`nss_coredump.c`: the notification of a core that has dumped, the delayed work
that waits for the others and the handler on the panic chain, on any number of
CPUs at once. Each `|=` on a core's state is a load and a store.
-/
namespace NssDrv.CoreDump
open HlosInterface SharedThread ThreadPool TransitionRuns RaisedFlags TransmitApi
open CoreProbe (NSS_MAX_CORES)

/-- What the protocol touches of `nss_top_main` and the work queue. Ghosts:
    which notifications have found which other cores alive, which cores they
    and the panic handler have asked for a dump, and how often the handler
    has waited and `panic` was called. -/
structure DumpTop where
  state : ℕ → U32
  nmap : ℕ → U32
  numNss : ℕ
  queued : Bool
  passed : List (ℕ × ℕ)
  asked : List (ℕ × ℕ)
  panicAsked : List ℕ
  delays : ℕ
  panics : ℕ

namespace DumpTop

def setState (i : ℕ) (state : U32) (d : DumpTop) : DumpTop :=
  { d with state := Function.update d.state i state }

theorem setState_self (i : ℕ) (state : U32) (d : DumpTop) : (d.setState i state).state i = state :=
  Function.update_self ..

theorem setState_other {i j : ℕ} (state : U32) (d : DumpTop) (h : j ≠ i) :
    (d.setState i state).state j = d.state j := Function.update_of_ne h ..

def Dead (d : DumpTop) (i : ℕ) : Prop := d.state i &&& NSS_CORE_STATE_FW_DEAD ≠ 0

instance (d : DumpTop) (i : ℕ) : Decidable (d.Dead i) := inferInstanceAs (Decidable (_ ≠ _))

def look (own i : ℕ) (d : DumpTop) : DumpTop :=
  if d.Dead i then d else { d with passed := (own, i) :: d.passed }

end DumpTop

/-- `nss_top_main.nss[i].state |= bits`. -/
def orState (i : ℕ) (bits : U32) : Proc DumpTop Unit := do
  let state ← Proc.read fun d : DumpTop => d.state i
  Proc.modify (DumpTop.setState i (state ||| bits))

/-- `state & NSS_CORE_STATE_FW_DEAD || !nmap`, the state loaded before. -/
def deadOrUnmapped (state : U32) (i : ℕ) : Proc DumpTop Bool :=
  if state &&& NSS_CORE_STATE_FW_DEAD ≠ 0 then return true
  else do
    let nmap ← Proc.read fun d : DumpTop => d.nmap i
    return decide (nmap = 0)

/-- The first loop of `nss_panic_handler`. -/
def panicAsk : List ℕ → Proc DumpTop Unit
  | [] => return
  | i :: rest => do
    let state ← Proc.read fun d : DumpTop => d.state i
    let skip ← deadOrUnmapped state i
    if skip then panicAsk rest
    else do
      orState i NSS_CORE_STATE_PANIC
      Proc.modify fun d => { d with panicAsked := i :: d.panicAsked }
      panicAsk rest

/-- The loop over the cores in one round of the wait. -/
def panicTick : ℕ → List ℕ → Proc DumpTop ℕ
  | dumped, [] => return dumped
  | dumped, i :: rest => do
    let state ← Proc.read fun d : DumpTop => d.state i
    let skip ← deadOrUnmapped state i
    if skip then do
      let state ← Proc.read fun d => d.state i
      if state &&& NSS_CORE_STATE_FW_DUMP = 0 then do
        orState i NSS_CORE_STATE_FW_DUMP
        panicTick (dumped + 1) rest
      else panicTick dumped rest
    else panicTick dumped rest

/-- The rounds of `do .. while (timed++ < num_nss * 2)`, `left` of them after this one. -/
def panicRounds : ℕ → ℕ → Proc DumpTop ℕ
  | left, dumped => do
    Proc.modify fun d : DumpTop => { d with delays := d.delays + 1 }
    let dumped ← panicTick dumped (List.range NSS_MAX_CORES)
    if dumped ≥ NSS_MAX_CORES then return dumped
    else match left with
      | 0 => return dumped
      | left + 1 => panicRounds left dumped

def NOTIFY_DONE : ℕ := 0

def nssPanicHandler : Proc DumpTop ℕ := do
  panicAsk (List.range NSS_MAX_CORES)
  let numNss ← Proc.read DumpTop.numNss
  -- the number of cores ticked off goes into a warning only
  let _ ← panicRounds (numNss * 2) 0
  return NOTIFY_DONE

/-- `panic` runs the panic chain and does not return. -/
def panic : Proc DumpTop Unit := do
  Proc.modify fun d : DumpTop => { d with panics := d.panics + 1 }
  let _ ← nssPanicHandler
  .halt

/-- The loop of `nss_fw_coredump_notify` over the other cores. -/
def notifyOthers (own : ℕ) : List ℕ → Proc DumpTop Unit
  | [] => return
  | i :: rest =>
    if i = own then notifyOthers own rest
    else do
      let state ← Proc.act (fun _ => true) (DumpTop.look own i) fun d => .ret (d.state i)
      let skip ← deadOrUnmapped state i
      if skip then panic
      else do
        Proc.modify fun d => { d with asked := (own, i) :: d.asked }
        notifyOthers own rest

def nssFwCoredumpNotify (own : ℕ) : Proc DumpTop Unit := do
  orState own NSS_CORE_STATE_FW_DEAD
  Proc.modify fun d : DumpTop => { d with queued := true }
  let state ← Proc.read fun d => d.state own
  if state &&& NSS_CORE_STATE_PANIC ≠ 0 then return
  else notifyOthers own (List.range NSS_MAX_CORES)

/-- The delayed work, when its time has come. -/
def nssCoredumpWait : Proc DumpTop Unit := do
  Proc.await (fun d : DumpTop => d.queued)
    (fun d => { d with queued := false, panics := d.panics + 1 })
  let _ ← nssPanicHandler
  .halt

/-- Any CPU may serve the dump interrupt of any core, run the delayed work or
    panic for a reason of its own. -/
inductive DumpCall : ℕ → Proc DumpTop Unit → Prop where
  | notify (cpu own : ℕ) : DumpCall cpu (nssFwCoredumpNotify own)
  | wait (cpu : ℕ) : DumpCall cpu nssCoredumpWait
  | panic (cpu : ℕ) : DumpCall cpu panic

/-- Bring-up beside it: a core is mapped, or initialised, or set back for want of a
    data plane. The stores to the state do not look at it. -/
inductive BringUp : DumpTop → DumpTop → Prop where
  | map (d : DumpTop) (i : ℕ) (nmap : U32) (fresh : d.nmap i = 0) :
      BringUp d { d with nmap := Function.update d.nmap i nmap }
  | init (d : DumpTop) (i : ℕ) : BringUp d (d.setState i NSS_CORE_STATE_INITIALIZED)
  | setBack (d : DumpTop) (i : ℕ) : BringUp d (d.setState i NSS_CORE_STATE_UNINITIALIZED)

/-- Bring-up that stores to no core that has reported its death. -/
structure Timely (d d' : DumpTop) : Prop where
  bringUp : BringUp d d'
  dead : ∀ i, d.Dead i → d'.Dead i

abbrev DumpPool := Pool ℕ DumpTop Unit

abbrev DumpStep : DumpPool → Label ℕ DumpTop Unit → DumpPool → Prop := Step DumpCall Timely

/-- No core is dead or dumped, and nobody has panicked. -/
structure Fresh (d : DumpTop) : Prop where
  state : ∀ i, d.state i = NSS_CORE_STATE_UNINITIALIZED ∨ d.state i = NSS_CORE_STATE_INITIALIZED
  passed : d.passed = []
  asked : d.asked = []
  panicAsked : d.panicAsked = []
  panics : d.panics = 0

/-- Nobody has called `panic`. -/
abbrev Quiet (d : DumpTop) : Prop := d.panics = 0

/-- The flag of a core is its dead state; it has missed whom its notification
    has found alive. -/
def deadFlags : Flags DumpTop ℕ := ⟨DumpTop.Dead, fun d i j => (i, j) ∈ d.passed⟩

/-- No core was told that the system panics. -/
def Calm (d : DumpTop) : Prop := ∀ i, d.state i &&& NSS_CORE_STATE_PANIC = 0

/-- What anyone may do in one access as long as nobody has panicked. -/
structure Move (d d' : DumpTop) : Prop where
  dead : ∀ i, d.Dead i → d'.Dead i
  calm : Calm d → Calm d'
  passed : ∀ p ∈ d.passed, p ∈ d'.passed
  asked : ∀ p ∈ d.asked, p ∈ d'.asked
  queued : d.queued = true → d'.queued = true
  flags : deadFlags.Move d d'
  sent : ∀ p ∈ d'.asked, p ∈ d.asked ∨ p ∈ d.passed ∧ d.queued = true

section Moves
variable {d d' : DumpTop} {own i : ℕ} {state bits : U32}

theorem Move.of_state (hstate : ∀ i, d.Dead i → d'.Dead i) (hcalm : Calm d → Calm d')
    (hpassed : d'.passed = d.passed) (hasked : d'.asked = d.asked)
    (hqueued : d.queued = true → d'.queued = true) : Move d d' where
  dead := hstate
  calm := hcalm
  passed := by simp [hpassed]
  asked := by simp [hasked]
  queued := hqueued
  flags := by
    refine ⟨fun i _ _ hup => hstate i hup, fun i j hij => .inl ?_⟩
    change (i, j) ∈ d.passed
    rw [← hpassed]
    exact hij
  sent := by simp +contextual [hasked]

theorem Move.refl (d : DumpTop) : Move d d := .of_state (fun _ => id) id rfl rfl id

theorem Move.setState (hdead : d.Dead i → state &&& NSS_CORE_STATE_FW_DEAD ≠ 0)
    (hcalm : state &&& NSS_CORE_STATE_PANIC = 0) : Move d (d.setState i state) := by
  refine .of_state (fun j hj => ?_) (fun hd j => ?_) rfl rfl id
  · by_cases heq : j = i
    · subst heq
      rw [DumpTop.Dead, DumpTop.setState_self]
      exact hdead hj
    · rw [DumpTop.Dead, DumpTop.setState_other _ _ heq]
      exact hj
  · by_cases heq : j = i
    · subst heq
      rw [DumpTop.setState_self]
      exact hcalm
    · rw [DumpTop.setState_other _ _ heq]
      exact hd j

theorem or_dead (state : U32) :
    (state ||| NSS_CORE_STATE_FW_DEAD) &&& NSS_CORE_STATE_FW_DEAD ≠ 0 := by
  intro h
  rw [BitVec.and_or_distrib_right] at h
  exact absurd (BitVec.or_eq_zero_iff.mp h).2 (by decide)

theorem or_calm (h : state &&& NSS_CORE_STATE_PANIC = 0) :
    (state ||| NSS_CORE_STATE_FW_DEAD) &&& NSS_CORE_STATE_PANIC = 0 := by
  rw [BitVec.and_or_distrib_right, h]
  decide

theorem Move.look (hown : d.Dead own) : Move d (d.look own i) := by
  unfold DumpTop.look
  split
  · exact .refl d
  · rename_i halive
    exact
      { dead := fun _ => id
        calm := id
        passed := fun p hp => List.mem_cons_of_mem _ hp
        asked := fun _ => id
        queued := id
        flags := by
          refine ⟨fun i _ _ hup => hup, fun j k hjk => ?_⟩
          rcases List.mem_cons.mp hjk with heq | hold
          · obtain ⟨rfl, rfl⟩ := Prod.mk.inj heq
            exact .inr ⟨hown, halive⟩
          · exact .inl hold
        sent := fun _ => .inl }

theorem Move.ask (hpassed : (own, i) ∈ d.passed) (hqueued : d.queued = true) :
    Move d { d with asked := (own, i) :: d.asked } where
  dead _ := id
  calm := id
  passed _ := id
  asked _ hp := List.mem_cons_of_mem _ hp
  queued := id
  flags := ⟨fun _ _ _ hup => hup, fun _ _ => .inl⟩
  sent p hp := by
    rcases List.mem_cons.mp hp with heq | hold
    · rw [heq]
      exact .inr ⟨hpassed, hqueued⟩
    · exact .inl hold

theorem Timely.move (h : Timely d d') : Move d d' := by
  obtain ⟨hbring, hdead⟩ := h
  cases hbring with
  | map i nmap fresh => exact .of_state (fun _ => id) id rfl rfl id
  | init i =>
    refine .setState (fun hi => ?_) (by decide)
    have hstored := hdead i hi
    rwa [DumpTop.Dead, DumpTop.setState_self] at hstored
  | setBack i =>
    refine .setState (fun hi => ?_) (by decide)
    have hstored := hdead i hi
    rwa [DumpTop.Dead, DumpTop.setState_self] at hstored

theorem Timely.panics_eq (h : Timely d d') : d'.panics = d.panics := by
  obtain ⟨hbring, -⟩ := h
  cases hbring <;> rfl

end Moves

abbrev Shared : DumpTop → DumpTop → Prop := Until Quiet Move

section Ends
variable {α : Type}

theorem ends_act {en : DumpTop → Bool} {f : DumpTop → DumpTop} {k : DumpTop → Proc DumpTop α}
    (hf : ∀ d, (f d).panics = d.panics) (hk : ∀ d, Ends Quiet (k d)) : Ends Quiet (.act en f k) :=
  Ends.act (fun d h => (hf d).symm.trans h) hk

theorem ends_orState (i : ℕ) (bits : U32) : Ends Quiet (orState i bits) :=
  ends_act (fun _ => rfl) fun _ => ends_act (fun _ => rfl) fun _ => .ret _

theorem ends_deadOrUnmapped (state : U32) (i : ℕ) : Ends Quiet (deadOrUnmapped state i) := by
  unfold deadOrUnmapped
  split
  · exact .ret _
  · exact ends_act (fun _ => rfl) fun _ => .ret _

theorem ends_panicAsk (cores : List ℕ) : Ends Quiet (panicAsk cores) := by
  induction cores with
  | nil => exact .ret _
  | cons i rest ih =>
    refine ends_act (fun _ => rfl) fun d => (ends_deadOrUnmapped _ i).bind fun skip => ?_
    split
    · exact ih
    · exact (ends_orState i _).bind fun _ => ends_act (fun _ => rfl) fun _ => ih

theorem ends_panicTick (cores : List ℕ) (dumped : ℕ) : Ends Quiet (panicTick dumped cores) := by
  induction cores generalizing dumped with
  | nil => exact .ret _
  | cons i rest ih =>
    refine ends_act (fun _ => rfl) fun d => (ends_deadOrUnmapped _ i).bind fun skip => ?_
    split
    · refine ends_act (fun _ => rfl) fun d => ?_
      simp only [Proc.ret_bind]
      split
      · exact (ends_orState i _).bind fun _ => ih _
      · exact ih _
    · exact ih _

theorem ends_panicRounds (left dumped : ℕ) : Ends Quiet (panicRounds left dumped) := by
  induction left generalizing dumped with
  | zero =>
    refine ends_act (fun _ => rfl) fun _ => (ends_panicTick _ _).bind fun dumped => ?_
    split <;> exact .ret _
  | succ left ih =>
    refine ends_act (fun _ => rfl) fun _ => (ends_panicTick _ _).bind fun dumped => ?_
    split
    · exact .ret _
    · exact ih _

theorem ends_handler : Ends Quiet nssPanicHandler :=
  (ends_panicAsk _).bind fun _ => ends_act (fun _ => rfl) fun _ =>
    (ends_panicRounds _ _).bind fun _ => .ret _

end Ends

/-- What the notification of a dead core knows on its way. -/
structure Known (own : ℕ) (d : DumpTop) : Prop where
  dead : d.Dead own
  calm : Calm d
  queued : d.queued = true

def AskedOf (own : ℕ) (cores : List ℕ) (d : DumpTop) : Prop :=
  ∀ i ∈ cores, i ≠ own → (own, i) ∈ d.asked

/-- The notification of `own` has asked every other core. -/
def AskedAll (own : ℕ) (d : DumpTop) : Prop := AskedOf own (List.range NSS_MAX_CORES) d

section Threads
variable {α : Type} {d : DumpTop} {own i : ℕ} {cores done : List ℕ} {P P' : DumpTop → Prop}
  {Q : α → DumpTop → Prop}

theorem known_stable : Stable Move (Known own) :=
  fun _ _ hm h => ⟨hm.dead own h.dead, hm.calm h.calm, hm.queued h.queued⟩

theorem askedOf_stable : Stable Move (AskedOf own cores) :=
  fun _ _ hm h i hi hne => hm.asked _ (h i hi hne)

theorem calm_stable : Stable Move Calm := fun _ _ hm h => hm.calm h

theorem sat_access {en : DumpTop → Bool} {f : DumpTop → DumpTop} {k : DumpTop → Proc DumpTop α}
    (hf : ∀ d, (f d).panics = d.panics) (hstable : Stable Move P) (hs : Quiet d → P d)
    (hmove : ∀ u, P u → Move u (f u))
    (hk : ∀ u, (Quiet u → P u) → Sat Shared Shared Q (k u) (f u)) :
    Sat Shared Shared Q (.act en f k) d := by
  refine Sat.act (Until.stable hstable) hs fun u hu _ => ⟨fun hA => ?_, hk u hu⟩
  have hquiet : Quiet u := (hf u).symm.trans hA
  exact ⟨hquiet, hmove u (hu hquiet)⟩

theorem sat_return {a : α} {S : α → DumpTop → Prop} (hstable : Stable Move (S a))
    (hs : Quiet d → S a d) : Sat Shared Shared (fun a d => Quiet d → S a d) (.ret a) d :=
  Sat.ret (Until.stable hstable) hs

theorem sat_void {p : Proc DumpTop α} {S : α → DumpTop → Prop} (hends : Ends Quiet p)
    (h : ¬ Quiet d) : Sat Shared Shared (fun a d => Quiet d → S a d) p d :=
  Sat.until hends fun hA => (h hA).elim

theorem sat_outcry {en : DumpTop → Bool} {f : DumpTop → DumpTop} {k : DumpTop → Proc DumpTop α}
    {S : α → DumpTop → Prop} (hf : ∀ d, ¬ Quiet (f d)) (hk : ∀ u, Ends Quiet (k u)) :
    Sat Shared Shared (fun a d => Quiet d → S a d) (.act en f k) d :=
  Sat.act (P := fun _ => True) (fun _ _ _ h => h) trivial fun u _ _ =>
    ⟨fun hA => (hf u hA).elim, sat_void (hk u) (hf u)⟩

theorem sat_panic {S : Unit → DumpTop → Prop} :
    Sat Shared Shared (fun a d => Quiet d → S a d) panic d :=
  sat_outcry (fun _ => Nat.succ_ne_zero _) fun _ => ends_handler.bind fun _ => .halt

theorem sat_wait {S : Unit → DumpTop → Prop} :
    Sat Shared Shared (fun a d => Quiet d → S a d) nssCoredumpWait d :=
  sat_outcry (fun _ => Nat.succ_ne_zero _) fun _ => ends_handler.bind fun _ => .halt

theorem sat_deadOrUnmapped {state : U32} {k : Bool → Proc DumpTop α} (hstable : Stable Move P)
    (hs : Quiet d → P d)
    (hk : ∀ skip u, (skip = false → ¬ state &&& NSS_CORE_STATE_FW_DEAD ≠ 0) → (Quiet u → P u) →
      Sat Shared Shared Q (k skip) u) :
    Sat Shared Shared Q ((deadOrUnmapped state i).bind k) d := by
  unfold deadOrUnmapped
  split
  · exact hk true d nofun hs
  · rename_i halive
    exact sat_access (fun _ => rfl) hstable hs (fun u _ => .refl u) fun u hu =>
      hk _ u (fun _ => halive) hu

/-- The load and the store around which another core's state may change, but
    its own dead bit does not go away. -/
theorem sat_orDead {own : ℕ} {k : Unit → Proc DumpTop α} (hs : Quiet d → Calm d)
    (hk : ∀ u, (Quiet u → Calm u ∧ u.Dead own) → Sat Shared Shared Q (k ()) u) :
    Sat Shared Shared Q ((orState own NSS_CORE_STATE_FW_DEAD).bind k) d := by
  refine sat_access (fun _ => rfl) calm_stable hs (fun u _ => .refl u) fun u hu => ?_
  -- the loaded word has no panic bit
  have hstable : Stable Move fun t => Calm t ∧ u.state own &&& NSS_CORE_STATE_PANIC = 0 :=
    calm_stable.and fun _ _ _ h => h
  refine sat_access (fun _ => rfl) hstable (fun hA => ⟨hu hA, hu hA own⟩) (fun t ht => ?_)
    fun t ht => hk _ fun hA => ?_
  · exact .setState (fun _ => or_dead _) (or_calm ht.2)
  · have hmove : Move t (t.setState own _) := .setState (fun _ => or_dead _) (or_calm (ht hA).2)
    refine ⟨hmove.calm (ht hA).1, ?_⟩
    rw [DumpTop.Dead, DumpTop.setState_self]
    exact or_dead _

theorem AskedOf.snoc {i : ℕ} (h : AskedOf own done d) (hi : i ≠ own → (own, i) ∈ d.asked) :
    AskedOf own (done ++ [i]) d := by
  intro j hj hne
  rcases List.mem_append.mp hj with hold | hnew
  · exact h j hold hne
  · rw [List.mem_singleton.mp hnew] at hne ⊢
    exact hi hne

theorem look_passes {i : ℕ} (hs : Quiet d → Known own d ∧ AskedOf own done d)
    (hA : Quiet (d.look own i)) :
    (Known own (d.look own i) ∧ AskedOf own done (d.look own i)) ∧
      (d.state i &&& NSS_CORE_STATE_FW_DEAD ≠ 0 ∨ (own, i) ∈ (d.look own i).passed) := by
  have hquiet : Quiet d := by
    unfold DumpTop.look at hA
    split at hA <;> exact hA
  have hstable : Stable Move fun d => Known own d ∧ AskedOf own done d :=
    known_stable.and askedOf_stable
  refine ⟨hstable _ _ (.look (hs hquiet).1.dead) (hs hquiet), ?_⟩
  by_cases hdead : d.Dead i
  · exact .inl hdead
  · right
    rw [DumpTop.look, if_neg hdead]
    exact List.mem_cons_self ..

theorem notifyOthers_post (hs : Quiet d → Known own d ∧ AskedOf own done d) :
    Sat Shared Shared (fun _ d => Quiet d → Known own d ∧ AskedOf own (done ++ cores) d)
      (notifyOthers own cores) d := by
  induction cores generalizing d done with
  | nil =>
    rw [List.append_nil]
    exact sat_return (known_stable.and askedOf_stable) hs
  | cons i rest ih =>
    have hnext : ∀ u, (Quiet u → Known own u ∧ AskedOf own (done ++ [i]) u) →
        Sat Shared Shared (fun _ d => Quiet d → Known own d ∧ AskedOf own (done ++ i :: rest) d)
          (notifyOthers own rest) u := by
      intro u hu
      have hrest := ih hu
      rwa [List.append_assoc, List.singleton_append] at hrest
    unfold notifyOthers
    split
    · rename_i heq
      exact hnext d fun hA => ⟨(hs hA).1, (hs hA).2.snoc fun hne => (hne heq).elim⟩
    · have hstable : Stable Move fun d => Known own d ∧ AskedOf own done d :=
        known_stable.and askedOf_stable
      refine sat_access (fun d => ?_) hstable hs (fun u hu => .look hu.1.dead) fun u hu => ?_
      · unfold DumpTop.look
        split <;> rfl
      · have hplace : Stable Move fun d => (Known own d ∧ AskedOf own done d) ∧
            (u.state i &&& NSS_CORE_STATE_FW_DEAD ≠ 0 ∨ (own, i) ∈ d.passed) :=
          hstable.and fun _ _ hm h => h.imp_right (hm.passed _)
        refine sat_deadOrUnmapped hplace (look_passes hu) fun skip v halive hv => ?_
        cases skip with
        | true => exact sat_panic
        | false =>
          have hpassed : Quiet v → (own, i) ∈ v.passed := fun hA =>
            (hv hA).2.resolve_left (halive rfl)
          have hall : Stable Move fun d => (Known own d ∧ AskedOf own done d) ∧
              (own, i) ∈ d.passed := hstable.and fun _ _ hm h => hm.passed _ h
          refine sat_access (fun _ => rfl) hall (fun hA => ⟨(hv hA).1, hpassed hA⟩)
            (fun w hw => ?_) fun w hw => hnext _ fun hA => ?_
          · exact .ask hw.2 hw.1.1.queued
          · obtain ⟨⟨hknown, hasked⟩, hpass⟩ := hw hA
            have hmove : Move w { w with asked := (own, i) :: w.asked } :=
              .ask hpass hknown.queued
            have hkept : AskedOf own done { w with asked := (own, i) :: w.asked } :=
              askedOf_stable _ _ hmove hasked
            exact ⟨known_stable _ _ hmove hknown, hkept.snoc fun _ => List.mem_cons_self ..⟩

theorem notify_post (hs : Quiet d → Calm d) :
    Sat Shared Shared (fun _ d => Quiet d → Known own d ∧ AskedAll own d)
      (nssFwCoredumpNotify own) d := by
  unfold nssFwCoredumpNotify
  refine sat_orDead hs fun u hu => ?_
  have hstable : Stable Move fun d => Calm d ∧ d.Dead own :=
    calm_stable.and fun _ _ hm h => hm.dead own h
  refine sat_access (fun _ => rfl) hstable hu (fun v hv => ?_) fun v hv => ?_
  · exact .of_state (fun _ => id) id rfl rfl fun _ => rfl
  · have hknown : Quiet v → Known own { v with queued := true } := fun hA =>
      ⟨(hv hA).2, (hv hA).1, rfl⟩
    refine sat_access (fun _ => rfl) known_stable hknown (fun w _ => .refl w) fun w hw => ?_
    simp only [Proc.ret_bind]
    split
    · rename_i hpanic
      refine sat_return (known_stable.and askedOf_stable) fun hA => ?_
      exact (hpanic ((hw hA).calm own)).elim
    · have hnone : Quiet w → Known own w ∧ AskedOf own [] w :=
        fun hA => ⟨hw hA, fun i hi => by cases hi⟩
      exact notifyOthers_post hnone

end Threads

section Pool
variable {c c' : DumpPool} {own i j : ℕ} {ls : List (Label ℕ DumpTop Unit)}

theorem dump_discipline : Discipline DumpCall Timely (fun _ => Shared) (fun _ => Shared)
    (fun _ d => Quiet d → Calm d) (fun _ _ d => Quiet d → Calm d) where
  others _ _ _ _ _ hg := hg
  env _ _ _ he hA := ⟨he.panics_eq.symm.trans hA, he.move⟩
  idle _ _ _ h := h
  calls cpu p hp d h := by
    cases hp with
    | notify own => exact (notify_post h).post fun _ _ ht hA => (ht hA).1.calm
    | wait => exact sat_wait
    | panic => exact sat_panic

theorem Fresh.calm {d : DumpTop} (h : Fresh d) : Calm d := by
  intro i
  rcases h.state i with hstate | hstate <;>
    rw [hstate] <;>
      decide

theorem fresh_calm (_ : ℕ) (_ : Unit) (d : DumpTop) (h : Fresh d) (t : DumpTop)
    (ht : Relation.ReflTransGen Shared d t) : Quiet t → Calm t :=
  (Until.stable calm_stable).star ht fun _ => h.calm

theorem dump_onTrack (h : Reachable (Idle Fresh) DumpStep c) :
    OnTrack (fun _ => Shared) (fun _ => Shared) (fun _ _ d => Quiet d → Calm d) c :=
  dump_discipline.onTrack fresh_calm h

theorem step_move (h : Reachable (Idle Fresh) DumpStep c) {l : Label ℕ DumpTop Unit}
    (hs : DumpStep c l c') (hA : Quiet c'.shared) : Quiet c.shared ∧ Move c.shared c'.shared := by
  rcases dump_discipline.shared (dump_onTrack h) hs with ⟨_, _, hg⟩ | ⟨_, he⟩ | heq
  · exact hg hA
  · exact ⟨he.panics_eq.symm.trans hA, he.move⟩
  · rw [heq] at hA ⊢
    exact ⟨hA, .refl _⟩

theorem run_stable {P : DumpTop → Prop} (hstable : Stable Move P)
    (h : Reachable (Idle Fresh) DumpStep c) (run : Run DumpStep c ls c') (hA : Quiet c'.shared) :
    Quiet c.shared ∧ (P c.shared → P c'.shared) := by
  induction run with
  | refl => exact ⟨hA, id⟩
  | snoc run last ih =>
    obtain ⟨hquiet, hmove⟩ := step_move (h.run run) last hA
    obtain ⟨hstart, hkeep⟩ := ih hquiet
    exact ⟨hstart, fun hs => hstable _ _ hmove (hkeep hs)⟩

/-- Two cores have not both found each other alive, and a request follows such
    a look and the start of the delayed work. -/
structure DumpSafe (d : DumpTop) : Prop where
  apart : deadFlags.Apart d
  sent : ∀ p ∈ d.asked, p ∈ d.passed ∧ d.queued = true

theorem dumpSafe_stable : Stable Move DumpSafe := by
  intro d d' hm h
  refine ⟨h.apart.move hm.flags, fun p hp => ?_⟩
  rcases hm.sent p hp with hold | ⟨hpassed, hqueued⟩
  · obtain ⟨hpassed, hqueued⟩ := h.sent p hold
    exact ⟨hm.passed p hpassed, hm.queued hqueued⟩
  · exact ⟨hm.passed p hpassed, hm.queued hqueued⟩

theorem Fresh.safe {d : DumpTop} (h : Fresh d) : DumpSafe d := by
  refine ⟨fun i j hij => ?_, fun p hp => ?_⟩
  · change (i, j) ∈ d.passed at hij
    rw [h.passed] at hij
    cases hij
  · rw [h.asked] at hp
    cases hp

theorem dump_safe (h : Reachable (Idle Fresh) DumpStep c) (hA : Quiet c.shared) :
    DumpSafe c.shared := by
  obtain ⟨c₀, ls, hc₀, run⟩ := h
  exact (run_stable dumpSafe_stable (.start hc₀) run hA).2 hc₀.1.safe

/-- A notification of core `own` has come back to its interrupt handler. -/
def Returned (own : ℕ) (c : DumpPool) : Prop :=
  ∃ c₀ cpu ls c₁ ls', Reachable (Idle Fresh) DumpStep c₀ ∧
    Run DumpStep c₀ (.call cpu (nssFwCoredumpNotify own) :: ls) c₁ ∧ (∀ p, .call cpu p ∉ ls) ∧
      c₁.thread cpu = .ret () ∧ Run DumpStep c₁ ls' c

theorem Returned.asked (h : Returned own c) (hA : Quiet c.shared) :
    Known own c.shared ∧ AskedAll own c.shared := by
  obtain ⟨c₀, cpu, ls, c₁, ls', h₀, run, only, returned, rest⟩ := h
  have hstable : Stable Move fun d => Known own d ∧ AskedAll own d :=
    known_stable.and askedOf_stable
  obtain ⟨hquiet, hkeep⟩ := run_stable hstable (h₀.run run) rest hA
  have htrack := dump_onTrack h₀
  obtain ⟨_, hcall, _⟩ := run.uncons
  cases hcall with
  | @call _ _ a idle allowed =>
    have hrest := htrack cpu
    rw [idle] at hrest
    have hpost := dump_discipline.call_post htrack (@notify_post _ own (hrest _ .refl)) run
      only returned
    exact hkeep (hpost hquiet)

/-- As long as nobody has panicked, in any interleaving of dump notifications
    on any CPUs with bring-up: a notification that has returned has marked its
    core dead, started the delayed work and asked every other core for a dump;
    no two cores were ever asked through each other's notification, and the
    notifications of two cores have not both returned: the later one panics. -/
theorem coredump_notifications_meet (h : Reachable (Idle Fresh) DumpStep c)
    (hA : Quiet c.shared) :
    (∀ own, Returned own c → c.shared.Dead own ∧ c.shared.queued = true ∧
      ∀ i < NSS_MAX_CORES, i ≠ own → (own, i) ∈ c.shared.asked) ∧
    (∀ i j, (i, j) ∈ c.shared.asked → (j, i) ∉ c.shared.asked) ∧
    ∀ i < NSS_MAX_CORES, ∀ j < NSS_MAX_CORES, i ≠ j → Returned i c → ¬ Returned j c := by
  have hsafe := dump_safe h hA
  have hmeet : ∀ i j, (i, j) ∈ c.shared.asked → (j, i) ∉ c.shared.asked := by
    intro i j hij hji
    have hpassed := (hsafe.sent _ hij).1
    exact (hsafe.apart i j hpassed).2 (hsafe.sent _ hji).1
  refine ⟨fun own hret => ?_, hmeet, fun i hi j hj hne hreti hretj => ?_⟩
  · obtain ⟨hknown, hasked⟩ := hret.asked hA
    exact ⟨hknown.dead, hknown.queued, fun i hi => hasked i (List.mem_range.mpr hi)⟩
  · have hij := (hreti.asked hA).2 j (List.mem_range.mpr hj) (Ne.symm hne)
    have hji := (hretj.asked hA).2 i (List.mem_range.mpr hi) hne
    exact hmeet i j hij hji

end Pool

def bootedTop : DumpTop :=
  { state := fun _ => NSS_CORE_STATE_INITIALIZED, nmap := fun _ => 0x1000, numNss := 2,
    queued := false, passed := [], asked := [], panicAsked := [], delays := 0, panics := 0 }

def bootedPool : DumpPool := ⟨bootedTop, fun _ => .ret ()⟩

theorem bootedPool_idle : Idle Fresh bootedPool :=
  ⟨⟨fun _ => .inr rfl, rfl, rfl, rfl, rfl⟩, fun _ => ⟨_, rfl⟩⟩

def notifyAlone : List (Order ℕ DumpTop Unit) :=
  .call 0 (nssFwCoredumpNotify 0) :: List.replicate 7 (.run 0)

theorem coredump_notifications_meet_one : ∃ c, bootedPool.follow notifyAlone = some c ∧
    Returned 0 c ∧ c.shared.asked = [(0, 1)] ∧ (1, 0) ∉ c.shared.asked ∧ ¬ Returned 1 c := by
  have hallowed : ∀ o ∈ notifyAlone, o.Allowed DumpCall Timely := by
    intro o ho
    simp only [notifyAlone, List.mem_cons, List.mem_replicate] at ho
    rcases ho with rfl | ⟨_, rfl⟩
    · exact .notify 0 0
    · trivial
  obtain ⟨c, hc⟩ : ∃ c, bootedPool.follow notifyAlone = some c := ⟨_, rfl⟩
  have hrun := Pool.follow_run hallowed hc
  have hstart : Reachable (Idle Fresh) DumpStep bootedPool := .start bootedPool_idle
  have hend : c.shared.panics = 0 ∧ c.shared.asked = [(0, 1)] ∧ c.thread 0 = .ret () := by
    obtain rfl := Option.some.inj hc
    exact ⟨rfl, rfl, rfl⟩
  have hret : Returned 0 c := by
    refine ⟨bootedPool, 0, _, c, [], hstart, hrun, fun p hp => ?_, hend.2.2, .refl c⟩
    rw [List.map_replicate] at hp
    cases List.eq_of_mem_replicate hp
  obtain ⟨_, hmeet, hone⟩ := coredump_notifications_meet (hstart.run hrun) hend.1
  refine ⟨c, hc, hret, hend.2.1, hmeet 0 1 ?_, hone 0 (by decide) 1 (by decide) (by decide) hret⟩
  rw [hend.2.1]
  exact List.mem_singleton_self _

end NssDrv.CoreDump

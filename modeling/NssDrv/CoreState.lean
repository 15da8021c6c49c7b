import NssDrv.ProducerRuns

set_option autoImplicit false

/-!
# The state of a core

Boot, firmware death, panic and dump as `nss_core.c` and `nss_coredump.c`
record them, in any order with calls of the transmit functions and with the SOS
handler, which exchanges C2C maps and refills ring 0. It and the two shaper
bounces skip the check of the state.
-/
namespace NssDrv.CoreState
open HlosInterface SharedThread DescriptorRing RingLocking TransitionRuns TransmitApi RingProducers
open EmptyBufferRefill

/-- Where the SOS handler of the core stands. -/
inductive SosPoint where
  | idle
  | initialising
  | registering
  | refilling
  deriving DecidableEq

structure Core where
  ctx : NssCtx
  sos : SosPoint

namespace Core

def setState (state : U32) (c : Core) : Core := { c with ctx := { c.ctx with state := state } }

end Core

def FwDead (c : Core) : Prop := c.ctx.state &&& NSS_CORE_STATE_FW_DEAD ≠ 0

instance (c : Core) : Decidable (FwDead c) := inferInstanceAs (Decidable (_ ≠ _))

/-- The first lines of the SOS branch of `nss_core_handle_cause_nonqueue`. -/
def testState (c : Core) : Core :=
  { c with sos := if c.ctx.state = NSS_CORE_STATE_UNINITIALIZED then .initialising else .refilling }

/-- `nss_core_init_nss` on the H2N rings, up to its first store to the state. -/
def initRings (c : Core) : Core where
  ctx := { c.ctx with
    ring := fun q => { c.ctx.ring q with hlosIndex := (c.ctx.ring q).hlosIndexMap, lock := none }
    state := NSS_CORE_STATE_INITIALIZED }
  sos := .registering

/-- The rest of it; without data plane registration the core is set back. -/
def finishInit (isScheduled : Bool) (c : Core) : Core :=
  { (if isScheduled then c else c.setState NSS_CORE_STATE_UNINITIALIZED) with sos := .refilling }

/-- What `nss_fw_coredump_notify` does to the state. -/
def fwDead (c : Core) : Core := c.setState (c.ctx.state ||| NSS_CORE_STATE_FW_DEAD)

/-- `nss_panic_handler` asks a living, mapped core for its dump. -/
def panicAsk (nmap : Bool) (c : Core) : Core :=
  if FwDead c ∨ nmap = false then c else c.setState (c.ctx.state ||| NSS_CORE_STATE_PANIC)

def panicTick (nmap : Bool) (c : Core) : Core :=
  if (FwDead c ∨ nmap = false) ∧ c.ctx.state &&& NSS_CORE_STATE_FW_DUMP = 0 then
    c.setState (c.ctx.state ||| NSS_CORE_STATE_FW_DUMP)
  else c

inductive CoreEvent where
  | call (cpu : ℕ) (req : Request) (v : TxStatus)
  | sos
  | initRings
  | finishInit (isScheduled : Bool)
  | refill (env : RefillEnv)
  | fwDead
  | panicAsk (nmap : Bool)
  | panicTick (nmap : Bool)
  | outside

/-- The calls are those of the transmit functions and of `nss_send_c2c_map`, which the SOS
    handlers of both cores make. -/
inductive CoreStep : Core → CoreEvent → Core → Prop where
  | call {c : Core} {ctx : NssCtx} {cpu : ℕ} {req : Request} {v : TxStatus}
      (returns : (req.call cpu).exec c.ctx = some (v, ctx)) :
      CoreStep c (.call cpu req v) { c with ctx := ctx }
  | sos {c : Core} (idle : c.sos = .idle) : CoreStep c .sos (testState c)
  | initRings {c : Core} (here : c.sos = .initialising) :
      CoreStep c .initRings (CoreState.initRings c)
  | finishInit {c : Core} (here : c.sos = .registering) (isScheduled : Bool) :
      CoreStep c (.finishInit isScheduled) (CoreState.finishInit isScheduled c)
  | refill {c : Core} {ctx : NssCtx} {env : RefillEnv} {given : List U32}
      (here : c.sos = .refilling) (returns : (refillCall env).exec c.ctx = some (given, ctx)) :
      CoreStep c (.refill env) ⟨ctx, .idle⟩
  | fwDead (c : Core) : CoreStep c .fwDead (CoreState.fwDead c)
  | panicAsk (c : Core) (nmap : Bool) : CoreStep c (.panicAsk nmap) (CoreState.panicAsk nmap c)
  | panicTick (c : Core) (nmap : Bool) : CoreStep c (.panicTick nmap) (CoreState.panicTick nmap c)
  | outside {c : Core} {ctx : NssCtx} (h : Outsider c.ctx ctx) (state : ctx.state = c.ctx.state) :
      CoreStep c .outside { c with ctx := ctx }

/-- No descriptor was written and nothing was enqueued. -/
def NothingPlaced (c c' : NssCtx) : Prop :=
  ∀ q, (c'.ring q).desc = (c.ring q).desc ∧ (c'.ring q).log = (c.ring q).log

/-- What does not look at the state meets an initialised core, a bounce at least no registrant,
    and bring-up does not store over a death. -/
def Ready (c : Core) : CoreEvent → Prop
  | .call _ (.bounceInterface _ ifNum _) _ =>
    c.ctx.state = NSS_CORE_STATE_INITIALIZED ∨ c.ctx.interfaceRegistered ifNum = false
  | .call _ (.bounceBridge _ ifNum _) _ =>
    c.ctx.state = NSS_CORE_STATE_INITIALIZED ∨ c.ctx.bridgeRegistered ifNum = false
  | .call _ (.c2cMap _ _) _ => c.ctx.state = NSS_CORE_STATE_INITIALIZED
  | .refill _ => c.ctx.state = NSS_CORE_STATE_INITIALIZED
  | .initRings => ¬ FwDead c
  | .finishInit _ => ¬ FwDead c
  | _ => True

section Refusals
variable {c c' : NssCtx} {cpu : ℕ} {v : TxStatus} {s : Sender} {env : TransmitEncoders.TxEnv}
  {ifNum : U32} {nbuf : TransmitEncoders.TxSkb}

theorem whenReady_refused {before after : Option TxFailure} {k : Proc NssCtx TxStatus}
    (hstate : c.state ≠ NSS_CORE_STATE_INITIALIZED)
    (h : (whenReady s before after k).exec c = some (v, c')) : c' = c := by
  cases before with
  | some why =>
    simp only [whenReady, Proc.pure_eq, Proc.exec_ret, Option.some.injEq, Prod.mk.injEq] at h
    exact h.2.symm
  | none =>
    simp only [whenReady, Proc.read, Proc.bind_eq, Proc.act_bind, Proc.ret_bind, Proc.pure_eq,
      if_pos hstate, Proc.exec_act, if_true, Proc.exec_ret, id, Option.some.injEq,
      Prod.mk.injEq] at h
    exact h.2.symm

theorem bouncePacket_refused {registered : NssCtx → Bool} {found : NssCtx → NssCtx}
    (hreg : ∀ lock, registered { c with topLock := lock } = false)
    (h : (bouncePacket cpu s env ifNum registered found nbuf).exec c = some (v, c')) :
    c'.ring = c.ring ∧ c'.state = c.state := by
  rw [bouncePacket_eq] at h
  simp only [Proc.exec_act] at h
  split at h
  · simp only [hreg, if_true, Bool.false_eq_true, if_false, bounceRest, Proc.modify, Proc.act_bind,
      Proc.ret_bind, Proc.exec_act, Proc.exec_ret, Option.some.injEq, Prod.mk.injEq] at h
    rw [← h.2]
    exact ⟨rfl, rfl⟩
  · cases h

theorem request_refused {c : Core} {c' : NssCtx} {req : Request}
    (hstate : c.ctx.state ≠ NSS_CORE_STATE_INITIALIZED) (hready : Ready c (.call cpu req v))
    (h : (req.call cpu).exec c.ctx = some (v, c')) :
    c'.ring = c.ctx.ring ∧ c'.state = c.ctx.state := by
  cases req with
  | message s known env before after nbuf =>
    rw [whenReady_refused hstate h]
    exact ⟨rfl, rfl⟩
  | messageExt env after nbuf =>
    simp only [Request.call, txBuf] at h
    rw [whenReady_refused hstate h]
    exact ⟨rfl, rfl⟩
  | packet s known env ifNum before after nbuf =>
    rw [whenReady_refused hstate h]
    exact ⟨rfl, rfl⟩
  | crypto buf bufPaddr len =>
    simp only [Request.call, cryptoTxBuf] at h
    rw [whenReady_refused hstate h]
    exact ⟨rfl, rfl⟩
  | bounceInterface env ifNum nbuf =>
    exact bouncePacket_refused (fun _ => hready.resolve_left hstate) h
  | bounceBridge env ifNum nbuf =>
    exact bouncePacket_refused (fun _ => hready.resolve_left hstate) h
  | c2cMap env nbuf => exact (hstate hready).elim

end Refusals

section Steps
variable {c c' : Core} {e : CoreEvent}

theorem or_dead (x y : U32) (h : x &&& NSS_CORE_STATE_FW_DEAD ≠ 0) :
    (x ||| y) &&& NSS_CORE_STATE_FW_DEAD ≠ 0 := by
  intro h0
  apply h
  rw [BitVec.and_or_distrib_right] at h0
  exact (BitVec.or_eq_zero_iff.mp h0).1

theorem FwDead.not_initialized (h : FwDead c) : c.ctx.state ≠ NSS_CORE_STATE_INITIALIZED := by
  intro hstate
  rw [FwDead, hstate] at h
  exact h (by decide)

abbrev ReadyStep : Core → CoreEvent → Core → Prop := Guarded CoreStep Ready

theorem step_places (hs : ReadyStep c e c') (hstate : c.ctx.state ≠ NSS_CORE_STATE_INITIALIZED) :
    NothingPlaced c.ctx c'.ctx := by
  obtain ⟨hstep, hready⟩ := hs
  cases hstep with
  | call returns =>
    intro q
    rw [(request_refused hstate hready returns).1]
    exact ⟨rfl, rfl⟩
  | sos => exact fun q => ⟨rfl, rfl⟩
  | initRings => exact fun q => ⟨rfl, rfl⟩
  | finishInit here isScheduled => cases isScheduled <;> exact fun q => ⟨rfl, rfl⟩
  | refill => exact (hstate hready).elim
  | fwDead => exact fun q => ⟨rfl, rfl⟩
  | panicAsk =>
    intro q
    unfold panicAsk
    split <;> exact ⟨rfl, rfl⟩
  | panicTick =>
    intro q
    unfold panicTick
    split <;> exact ⟨rfl, rfl⟩
  | outside h state =>
    intro q
    rcases h.rings q with heq | ⟨d, _, hd⟩
    · rw [heq]
      exact ⟨rfl, rfl⟩
    · rw [hd]
      exact ⟨rfl, rfl⟩

theorem step_dead (hs : ReadyStep c e c') (hdead : FwDead c) : FwDead c' := by
  obtain ⟨hstep, hready⟩ := hs
  cases hstep with
  | call returns =>
    rw [FwDead, (request_refused hdead.not_initialized hready returns).2]
    exact hdead
  | sos => exact hdead
  | initRings => exact (hready hdead).elim
  | finishInit => exact (hready hdead).elim
  | refill => exact (hdead.not_initialized hready).elim
  | fwDead => exact or_dead _ _ hdead
  | panicAsk =>
    rw [panicAsk, if_pos (.inl hdead)]
    exact hdead
  | panicTick =>
    unfold panicTick
    split
    · exact or_dead _ _ hdead
    · exact hdead
  | outside h state =>
    rw [FwDead, state]
    exact hdead

theorem run_dead {es : List CoreEvent} (run : Run ReadyStep c es c') (hdead : FwDead c) :
    FwDead c' ∧ NothingPlaced c.ctx c'.ctx := by
  refine run.invariant (fun t => FwDead t ∧ NothingPlaced c.ctx t.ctx) ?_
    ⟨hdead, fun q => ⟨rfl, rfl⟩⟩
  rintro s e t ⟨hs, hplaced⟩ hstep
  refine ⟨step_dead hstep hs, fun q => ?_⟩
  have hlast := step_places hstep hs.not_initialized q
  exact ⟨hlast.1.trans (hplaced q).1, hlast.2.trans (hplaced q).2⟩

end Steps

/-- Along every run in which the bounces, the C2C maps and the refills meet an initialised core
    and bring-up stores over no death: a descriptor is placed in a step only if the core is
    initialised there, and once the core is dead never again. -/
theorem enqueue_only_initialized {c₀ c c' : Core} {es : List CoreEvent} {e : CoreEvent}
    (run : Run ReadyStep c₀ es c) (hs : ReadyStep c e c') :
    (¬ NothingPlaced c.ctx c'.ctx → c.ctx.state = NSS_CORE_STATE_INITIALIZED) ∧
      (FwDead c₀ → FwDead c' ∧ NothingPlaced c₀.ctx c'.ctx) := by
  constructor
  · intro hplaced
    by_contra hstate
    exact hplaced (step_places hs hstate)
  · intro hdead
    exact run_dead (run.snoc hs) hdead

def bootCore : Core :=
  ⟨{ ProducerRuns.freshCore with state := NSS_CORE_STATE_UNINITIALIZED }, .idle⟩

def broughtUp (isScheduled : Bool) : Core :=
  finishInit isScheduled (initRings (testState bootCore))

theorem broughtUp_run (isScheduled : Bool) :
    Run ReadyStep bootCore [.sos, .initRings, .finishInit isScheduled] (broughtUp isScheduled) := by
  have hsos : ReadyStep bootCore .sos (testState bootCore) := ⟨.sos rfl, trivial⟩
  have hinit : ReadyStep _ .initRings (initRings (testState bootCore)) :=
    ⟨.initRings rfl, fun h => h (by decide)⟩
  have hfinish : ReadyStep _ (.finishInit isScheduled) (broughtUp isScheduled) :=
    ⟨.finishInit rfl isScheduled, fun h => h (by decide)⟩
  exact .cons hsos (.cons hinit (.single hfinish))

def deadCore : Core := fwDead (broughtUp true)

/-- What places a descriptor whatever the state is. -/
def uncheckedEvents : List CoreEvent :=
  [.call 1 (.bounceBridge ProducerRuns.mappedEnv 3 ProducerRuns.bouncedSkb) .success,
    .call 1 (.bounceInterface ProducerRuns.mappedEnv 3 ProducerRuns.bouncedSkb) .success,
    .call 0 (.c2cMap ProducerRuns.mappedEnv (some ProducerRuns.bouncedSkb)) .success,
    .refill ProducerRuns.oneBuffer]

/-- Both bounces, the C2C map and the refill go to a core that has died during its first SOS, and
    to one that was set back; and a core that dies before the store of `nss_core_init_nss` is
    initialised by it. -/
theorem bounce_on_dead_core :
    Run CoreStep bootCore [.sos, .initRings, .finishInit true, .fwDead] deadCore ∧
    Run CoreStep bootCore [.sos, .initRings, .finishInit false] (broughtUp false) ∧
    FwDead deadCore ∧ (broughtUp false).ctx.state = NSS_CORE_STATE_UNINITIALIZED ∧
    (∀ e ∈ uncheckedEvents, ∀ c ∈ [deadCore, broughtUp false],
      ∃ c', CoreStep c e c' ∧ ¬ NothingPlaced c.ctx c'.ctx) ∧
    ∃ c c', Run CoreStep bootCore [.sos, .fwDead] c ∧ CoreStep c .initRings c' ∧ FwDead c ∧
      c'.ctx.state = NSS_CORE_STATE_INITIALIZED := by
  have hup : ∀ isScheduled, Run CoreStep bootCore [.sos, .initRings, .finishInit isScheduled]
      (broughtUp isScheduled) := fun isScheduled =>
    (broughtUp_run isScheduled).mono fun _ _ _ h => h.1
  refine ⟨(hup true).snoc (.fwDead _), hup false, by decide, rfl, fun e he c hc => ?_, ?_⟩
  · simp only [uncheckedEvents, List.mem_cons, List.not_mem_nil, or_false] at he hc
    rcases he with rfl | rfl | rfl | rfl
    · rcases hc with rfl | rfl
      · exact ⟨_, .call rfl, fun h => List.cons_ne_nil _ _ (h 1).2⟩
      · exact ⟨_, .call rfl, fun h => List.cons_ne_nil _ _ (h 1).2⟩
    · rcases hc with rfl | rfl
      · exact ⟨_, .call rfl, fun h => List.cons_ne_nil _ _ (h 0).2⟩
      · exact ⟨_, .call rfl, fun h => List.cons_ne_nil _ _ (h 0).2⟩
    · rcases hc with rfl | rfl
      · exact ⟨_, .call rfl, fun h => List.cons_ne_nil _ _ (h 1).2⟩
      · exact ⟨_, .call rfl, fun h => List.cons_ne_nil _ _ (h 1).2⟩
    · rcases hc with rfl | rfl
      · exact ⟨_, .refill rfl rfl, fun h => List.cons_ne_nil _ _ (h 0).2⟩
      · exact ⟨_, .refill rfl rfl, fun h => List.cons_ne_nil _ _ (h 0).2⟩
  · exact ⟨_, _, .cons (.sos rfl) (.single (.fwDead _)), .initRings rfl, by decide, rfl⟩

theorem packetForDead_known : nssIfTxBuf ∈ packetSenders := by decide

/-- A packet for the dead core, which is refused. -/
def packetForDead : Request :=
  .packet nssIfTxBuf packetForDead_known ProducerRuns.mappedEnv 3 none none ProducerRuns.bouncedSkb

theorem packet_refused {c : Core} (hstate : c.ctx.state ≠ NSS_CORE_STATE_INITIALIZED) :
    CoreStep c (.call 1 packetForDead (.refused .failureNotReady)) c := by
  have hexec : (packetForDead.call 1).exec c.ctx = some (.refused .failureNotReady, c.ctx) := by
    simp [packetForDead, Request.call, txBuf, whenReady, Proc.read, hstate]
    rfl
  exact .call hexec

/-- The refill of the first SOS meets an initialised core; after the death a packet is refused. -/
theorem enqueue_only_initialized_dead : ∃ c₁ c₂,
    ReadyStep (broughtUp true) (.refill ProducerRuns.oneBuffer) c₁ ∧
    ¬ NothingPlaced (broughtUp true).ctx c₁.ctx ∧
    (broughtUp true).ctx.state = NSS_CORE_STATE_INITIALIZED ∧
    Run ReadyStep (fwDead c₁) [.sos, .panicTick true] c₂ ∧
    CoreStep c₂ (.call 1 packetForDead (.refused .failureNotReady)) c₂ ∧
    NothingPlaced (fwDead c₁).ctx c₂.ctx := by
  obtain ⟨c₁, hrefill, hplaced, hstate, hidle⟩ : ∃ c₁,
      CoreStep (broughtUp true) (.refill ProducerRuns.oneBuffer) c₁ ∧
      ¬ NothingPlaced (broughtUp true).ctx c₁.ctx ∧ c₁.ctx.state = NSS_CORE_STATE_INITIALIZED ∧
      c₁.sos = .idle :=
    ⟨_, .refill rfl rfl, fun h => List.cons_ne_nil _ _ (h 0).2, rfl, rfl⟩
  have hdead : FwDead (fwDead c₁) := by
    have hword : NSS_CORE_STATE_INITIALIZED ||| NSS_CORE_STATE_FW_DEAD =
        (fwDead c₁).ctx.state := by rw [← hstate]; rfl
    rw [FwDead, ← hword]
    decide
  have hafter : Run ReadyStep (fwDead c₁) [.sos, .panicTick true]
      (panicTick true (testState (fwDead c₁))) :=
    .cons ⟨.sos hidle, trivial⟩ (.single ⟨.panicTick _ true, trivial⟩)
  have hrefused : CoreStep (panicTick true (testState (fwDead c₁)))
      (.call 1 packetForDead (.refused .failureNotReady))
      (panicTick true (testState (fwDead c₁))) :=
    packet_refused (run_dead hafter hdead).1.not_initialized
  have hready : ReadyStep (broughtUp true) (.refill ProducerRuns.oneBuffer) c₁ := ⟨hrefill, rfl⟩
  refine ⟨c₁, _, hready, hplaced, (enqueue_only_initialized (broughtUp_run true) hready).1 hplaced,
    hafter, hrefused, ?_⟩
  exact ((enqueue_only_initialized hafter ⟨hrefused, trivial⟩).2 hdead).2

end NssDrv.CoreState

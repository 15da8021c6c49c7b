import NssDrv.ReceiveQueue

set_option autoImplicit false

/-!
# The NAPI handler

`nss_core_handle_napi` of `nss_core.c` for one interrupt, with the reads and
writes of the cause register of `nss_hal_pvt.h`. What the handler does with a
descriptor, with empty buffers, with decongestion callbacks and with a core
dump is left to the rest of the host.
-/
namespace NssDrv.NapiHandler
open HlosInterface SharedThread ReceiveQueue

def NSS_EMPTY_BUFFER_SOS_PROCESSING_WEIGHT : U16 := 64
def NSS_DATA_COMMAND_BUFFER_PROCESSING_WEIGHT : U16 := 64
def NSS_EMPTY_BUFFER_RETURN_PROCESSING_WEIGHT : U16 := 64
def NSS_TX_UNBLOCKED_PROCESSING_WEIGHT : U16 := 1

inductive CauseType where
  | invalid | queue | nonQueue | emergency
  deriving DecidableEq, Repr

/-- `status` is the cause register, `cause` is `int_ctx->cause`. Ghosts: how
    much of each queue was produced when its cause bit was last raised, how
    many cause bits the NSS may still raise, and the calls of `napi_complete`. -/
structure NapiState (ω : Type) where
  status : U32
  intrMask : U32
  cause : U32
  queue : ℕ → N2hRing
  host : ω
  signalled : ℕ → ℕ
  left : ℕ
  completed : ℕ

/-- The parts of the host that the handler calls; `refill` is told whether the core
    was found uninitialised. -/
structure Handlers (ω : Type) where
  body : N2hDescriptor → ω → ω
  uninitialized : ω → Bool
  refill : Bool → Proc ω Unit
  decongest : Proc ω Unit
  coredump : U32 → Proc ω Unit

namespace NapiState
variable {ω : Type}

def port (q : ℕ) (s : NapiState ω) : N2hPort ω := ⟨s.queue q, s.host⟩

def setPort (q : ℕ) (x : N2hPort ω) (s : NapiState ω) : NapiState ω :=
  { s with queue := Function.update s.queue q x.ring, host := x.host }

def setHost (x : ω) (s : NapiState ω) : NapiState ω := { s with host := x }

/-- `nss_core_init_nss`, as far as the N2H rings go. -/
def initRings (s : NapiState ω) : NapiState ω :=
  { s with queue := fun q => (s.queue q).setHlosIndex (s.queue q).hlosIndexMap }

end NapiState

def nssCoreCauseToQueue (cause : U16) : ℕ :=
  if cause = NSS_REGS_N2H_INTR_STATUS_DATA_COMMAND_QUEUE.setWidth 16 then NSS_IF_DATA_QUEUE_0
  else if cause = NSS_REGS_N2H_INTR_STATUS_DATA_QUEUE_1.setWidth 16 then NSS_IF_DATA_QUEUE_1
  else NSS_IF_EMPTY_BUFFER_QUEUE

/-- Prioritised cause, its type and its weight. -/
def nssCoreGetPrioritizedCause (cause : U32) : U32 × CauseType × U16 :=
  if cause &&& NSS_REGS_N2H_INTR_STATUS_EMPTY_BUFFERS_SOS ≠ 0 then
    (NSS_REGS_N2H_INTR_STATUS_EMPTY_BUFFERS_SOS, .nonQueue, NSS_EMPTY_BUFFER_SOS_PROCESSING_WEIGHT)
  else if cause &&& NSS_REGS_N2H_INTR_STATUS_EMPTY_BUFFER_QUEUE ≠ 0 then
    (NSS_REGS_N2H_INTR_STATUS_EMPTY_BUFFER_QUEUE, .queue, NSS_EMPTY_BUFFER_RETURN_PROCESSING_WEIGHT)
  else if cause &&& NSS_REGS_N2H_INTR_STATUS_TX_UNBLOCKED ≠ 0 then
    (NSS_REGS_N2H_INTR_STATUS_TX_UNBLOCKED, .nonQueue, NSS_TX_UNBLOCKED_PROCESSING_WEIGHT)
  else if cause &&& NSS_REGS_N2H_INTR_STATUS_DATA_COMMAND_QUEUE ≠ 0 then
    (NSS_REGS_N2H_INTR_STATUS_DATA_COMMAND_QUEUE, .queue, NSS_DATA_COMMAND_BUFFER_PROCESSING_WEIGHT)
  else if cause &&& NSS_REGS_N2H_INTR_STATUS_DATA_QUEUE_1 ≠ 0 then
    (NSS_REGS_N2H_INTR_STATUS_DATA_QUEUE_1, .queue, NSS_DATA_COMMAND_BUFFER_PROCESSING_WEIGHT)
  else if cause &&& NSS_REGS_N2H_INTR_STATUS_COREDUMP_COMPLETE_0 ≠ 0 then
    (NSS_REGS_N2H_INTR_STATUS_COREDUMP_COMPLETE_0, .emergency, 0)
  else if cause &&& NSS_REGS_N2H_INTR_STATUS_COREDUMP_COMPLETE_1 ≠ 0 then
    (NSS_REGS_N2H_INTR_STATUS_COREDUMP_COMPLETE_1, .emergency, 0)
  else (0, .invalid, 0)

section Handler
variable {ω : Type} (h : Handlers ω) (shiftFactor : ℕ)

/-- The 15 bits of the register that belong to this interrupt. -/
def pendingCause (status : U32) : U32 := (status >>> shiftFactor) &&& 0x7FFF

def nssHalReadInterruptCause : Proc (NapiState ω) U32 :=
  .read fun s => pendingCause shiftFactor s.status

def nssHalClearInterruptCause (cause : U32) : Proc (NapiState ω) Unit :=
  .modify fun s => { s with status := s.status &&& ~~~(cause <<< shiftFactor) }

def nssHalEnableInterrupt (cause : U32) : Proc (NapiState ω) Unit :=
  .modify fun s => { s with intrMask := s.intrMask ||| (cause <<< shiftFactor) }

def latchCause : Proc (NapiState ω) Unit := do
  let intCause ← nssHalReadInterruptCause shiftFactor
  nssHalClearInterruptCause shiftFactor intCause
  Proc.modify fun s => { s with cause := s.cause ||| intCause }

def retireCause (cause : U32) : Proc (NapiState ω) Unit :=
  .modify fun s => { s with cause := s.cause &&& ~~~cause }

def nssCoreHandleCauseNonqueue (cause : U32) : Proc (NapiState ω) Unit :=
  if cause = NSS_REGS_N2H_INTR_STATUS_EMPTY_BUFFERS_SOS then do
    let uninitialized ← Proc.act (fun _ => true)
      (fun s => if h.uninitialized s.host then s.initRings else s)
      fun s => .ret (h.uninitialized s.host)
    (h.refill uninitialized).zoom NapiState.host NapiState.setHost
  else if cause = NSS_REGS_N2H_INTR_STATUS_TX_UNBLOCKED then do
    h.decongest.zoom NapiState.host NapiState.setHost
    -- the mask of interrupt 0, whose shift is 0
    Proc.modify fun s =>
      { s with intrMask := s.intrMask &&& ~~~NSS_REGS_N2H_INTR_STATUS_TX_UNBLOCKED }
  else return ()

/-- One pass through the inner loop: the new count and the new budget. -/
def napiIteration (cause : U32) (count : U16) (budget : ℤ) : Proc (NapiState ω) (U16 × ℤ) :=
  let (prioCause, causeType, weight) := nssCoreGetPrioritizedCause cause
  let weight := if budget < weight.toInt then BitVec.ofInt 16 budget else weight
  match causeType with
  | .queue => do
    let qid := nssCoreCauseToQueue (prioCause.setWidth 16)
    let processed ← (nssCoreHandleCauseQueue h.body weight).zoom (NapiState.port qid)
      (NapiState.setPort qid)
    if processed.toInt < weight.toInt then
      (retireCause prioCause).bind fun _ => .ret (count + processed, budget - processed.toInt)
    else return (count + processed, budget - processed.toInt)
  | .nonQueue => do
    nssCoreHandleCauseNonqueue h prioCause
    retireCause prioCause
    return (count, budget)
  | .emergency => do
    (h.coredump prioCause).zoom NapiState.host NapiState.setHost
    retireCause prioCause
    return (count, budget)
  -- "Invalid cause received from nss"
  | .invalid => return (count, budget)

def napiFinish (count : U16) : Proc (NapiState ω) U16 := do
  let cause ← Proc.read fun s => s.cause
  if cause = 0 then do
    Proc.modify fun s => { s with completed := s.completed + 1 }
    nssHalEnableInterrupt shiftFactor NSS_HAL_SUPPORTED_INTERRUPTS
    return count
  else return count

/-- Both loops, from the test of the inner one on; `fuel` bounds the number of
    times that test is made. -/
def napiLoop : ℕ → U16 → ℤ → Proc (NapiState ω) U16
  | 0, _, _ => .halt
  | fuel + 1, count, budget => do
    let cause ← Proc.read fun s => s.cause
    if cause ≠ 0 ∧ budget ≠ 0 then do
      let next ← napiIteration h cause count budget
      napiLoop fuel next.1 next.2
    else do
      latchCause shiftFactor
      let cause ← Proc.read fun s => s.cause
      if cause ≠ 0 ∧ budget ≠ 0 then napiLoop fuel count budget
      else napiFinish shiftFactor count

def nssCoreHandleNapi (fuel : ℕ) (budget : ℤ) : Proc (NapiState ω) U16 := do
  latchCause shiftFactor
  napiLoop h shiftFactor fuel 0 budget

end Handler
end NssDrv.NapiHandler

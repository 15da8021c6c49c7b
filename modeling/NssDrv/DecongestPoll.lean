import NssDrv.NapiHandler
import NssDrv.SlotTables
import NssDrv.TransitionRuns

set_option autoImplicit false

/-!
# Decongestion callbacks

What senders, the interrupt handler of `nss_hal_pvt.c` and the poll of the first
interrupt of a core do to the cause `TX_UNBLOCKED`, access by access. The shift of
this interrupt is 0. All else that the poll does counts for the time it takes.
-/
namespace NssDrv.DecongestPoll
open HlosInterface NapiHandler DescriptorRing TransitionRuns SlotTables

def NSS_MAX_CLIENTS : ℕ := 12

/-- One entry of `queue_decongestion_callback` and `queue_decongestion_ctx`. -/
structure Client where
  callback : ℕ
  ctx : ℕ
  deriving DecidableEq

/-- `NULL` in both tables. -/
def vacant : Client := ⟨0, 0⟩

inductive CbStatus where
  | success | failed
  deriving DecidableEq

def nssCmnRegisterQueueDecongestion (eventCallback appCtx : ℕ) (clients : List Client) :
    CbStatus × List Client :=
  match updateFirst (fun c => c.callback = 0) (fun _ => ⟨eventCallback, appCtx⟩) clients with
  | some clients => (.success, clients)
  | none => (.failed, clients)

def nssCmnUnregisterQueueDecongestion (eventCallback : ℕ) (clients : List Client) :
    CbStatus × List Client :=
  match updateFirst (fun c => c.callback = eventCallback) (fun _ => vacant) clients with
  | some clients => (.success, clients)
  | none => (.failed, clients)

/-- The next access of `nss_core_handle_napi`. `again` is the read at the end of the
    outer loop, `call` the loop over the callbacks with `decongest_cb_lock` held. -/
inductive PollPc where
  | idle
  | read (again : Bool) (budget : ℤ)
  | clear (again : Bool) (budget : ℤ) (intCause : U32)
  | latch (again : Bool) (budget : ℤ) (intCause : U32)
  | inner (budget : ℤ)
  | handle (budget : ℤ) (prioCause : U32) (causeType : CauseType) (weight : ℤ)
  | call (budget : ℤ) (i : ℕ)
  | unstop (budget : ℤ)
  | mask (budget : ℤ)
  | retire (budget : ℤ) (prioCause : U32)
  | outer (budget : ℤ)
  | finish
  | complete
  deriving DecidableEq

/-- `sched` is `NAPI_STATE_SCHED`, `isr` holds between the mask and the
    `napi_schedule` of the interrupt handler, `finishing` counts the polls between
    `napi_complete` and their unmask, and `backlog` what each N2H queue holds. A
    sender that found its queue full has still to enable the interrupt. -/
@[ext] structure DecongestState (ι : Type) where
  status : U32
  intrMask : U32
  cause : U32
  backlog : ℕ → ℕ
  sched : Bool
  isr : Bool
  poll : PollPc
  finishing : ℕ
  decongestCbLock : Bool
  clients : List Client
  ring : ℕ → H2nRing
  full : ι → Bool

inductive Label (ι : Type) where
  | queueFull (i : ι) (qid : ℕ)
  | failureQueue (i : ι)
  | raise (bits : U32)
  | produce (q k : ℕ)
  | elsewhere
  | handleIrq
  | napiSchedule
  | softirq (budget : ℤ)
  | poll
  | invoke (client : Client)
  | unmask
  | register (client : Client) (status : CbStatus)
  | unregister (callback : ℕ) (status : CbStatus)
  deriving DecidableEq

section Machine
variable {ι : Type}

def PollPc.locks : PollPc → Bool
  | .handle _ prioCause .nonQueue _ => prioCause = NSS_REGS_N2H_INTR_STATUS_TX_UNBLOCKED
  | _ => false

/-- The switch of the inner loop, and for `TX_UNBLOCKED` the lock. -/
def handleCause (s : DecongestState ι) (budget : ℤ) (prioCause : U32) (causeType : CauseType)
    (weight : ℤ) : DecongestState ι :=
  match causeType with
  | .queue =>
    let qid := nssCoreCauseToQueue (prioCause.setWidth 16)
    let processed := min (s.backlog qid) weight.toNat
    { s with
      backlog := Function.update s.backlog qid (s.backlog qid - processed)
      poll :=
        if processed < weight then .retire (budget - processed) prioCause
        else .inner (budget - processed) }
  | .nonQueue =>
    if prioCause = NSS_REGS_N2H_INTR_STATUS_TX_UNBLOCKED then
      { s with decongestCbLock := true, poll := .call budget 0 }
    else { s with poll := .retire budget prioCause }
  | .emergency => { s with poll := .retire budget prioCause }
  | .invalid => { s with poll := .inner budget }

def pollStep (s : DecongestState ι) : DecongestState ι :=
  match s.poll with
  | .idle => s
  | .read again budget =>
    { s with poll := .clear again budget (pendingCause 0 s.status) }
  | .clear again budget intCause =>
    { s with status := s.status &&& ~~~intCause, poll := .latch again budget intCause }
  | .latch again budget intCause =>
    { s with
      cause := s.cause ||| intCause
      poll := if again then .outer budget else .inner budget }
  | .inner budget =>
    if s.cause ≠ 0 ∧ budget ≠ 0 then
      let (prioCause, causeType, weight) := nssCoreGetPrioritizedCause s.cause
      { s with poll := .handle budget prioCause causeType (min budget weight.toInt) }
    else { s with poll := .read true budget }
  | .handle budget prioCause causeType weight => handleCause s budget prioCause causeType weight
  | .call budget i =>
    if i < s.clients.length then { s with poll := .call budget (i + 1) }
    else { s with decongestCbLock := false, poll := .unstop budget }
  | .unstop budget =>
    { s with
      ring := Function.update s.ring NSS_IF_DATA_QUEUE_0
        { s.ring NSS_IF_DATA_QUEUE_0 with
          flags := (s.ring NSS_IF_DATA_QUEUE_0).flags &&&
            ~~~NSS_H2N_DESC_RING_FLAGS_TX_STOPPED }
      poll := .mask budget }
  | .mask budget =>
    { s with
      intrMask := s.intrMask &&& ~~~NSS_REGS_N2H_INTR_STATUS_TX_UNBLOCKED
      poll := .retire budget NSS_REGS_N2H_INTR_STATUS_TX_UNBLOCKED }
  | .retire budget prioCause => { s with cause := s.cause &&& ~~~prioCause, poll := .inner budget }
  | .outer budget =>
    if s.cause ≠ 0 ∧ budget ≠ 0 then { s with poll := .inner budget }
    else { s with poll := .finish }
  | .finish => if s.cause = 0 then { s with poll := .complete } else { s with poll := .idle }
  -- `napi_complete`; the unmask after it may come after other polls
  | .complete => { s with sched := false, poll := .idle, finishing := s.finishing + 1 }

def pollLabel (s : DecongestState ι) : Label ι :=
  match s.poll with
  | .call _ i =>
    match s.clients[i]? with
    | some client => if client.callback = 0 then .poll else .invoke client
    | none => .poll
  | _ => .poll

def PollReady (s : DecongestState ι) : Prop :=
  s.poll ≠ .idle ∧ (s.poll.locks = true → s.decongestCbLock = false)

variable [DecidableEq ι]

/-- A sender has its ring locked while it finds the queue full. The interrupt handler
    may be late for an interrupt. `elsewhere` is the other interrupt of the core,
    what the NSS takes from the rings and what others enqueue there. -/
inductive Step : DecongestState ι → Label ι → DecongestState ι → Prop where
  | queueFull (s : DecongestState ι) (i : ι) (qid : ℕ) (hidle : s.full i = false) :
      Step s (.queueFull i qid)
        { s with
          ring := Function.update s.ring qid (s.ring qid).stopTx
          full := Function.update s.full i true }
  | failureQueue (s : DecongestState ι) (i : ι) (hfull : s.full i = true) :
      Step s (.failureQueue i)
        { s with
          intrMask := s.intrMask ||| NSS_REGS_N2H_INTR_STATUS_TX_UNBLOCKED
          full := Function.update s.full i false }
  | raise (s : DecongestState ι) (bits : U32) :
      Step s (.raise bits) { s with status := s.status ||| bits }
  | produce (s : DecongestState ι) (q k : ℕ) :
      Step s (.produce q k) { s with backlog := Function.update s.backlog q (s.backlog q + k) }
  | elsewhere (s : DecongestState ι) (status intrMask : U32) (ring : ℕ → H2nRing)
      (hstatus : pendingCause 0 status = pendingCause 0 s.status)
      (hmask : pendingCause 0 intrMask = pendingCause 0 s.intrMask) :
      Step s .elsewhere { s with status := status, intrMask := intrMask, ring := ring }
  | handleIrq (s : DecongestState ι) (hisr : s.isr = false) :
      Step s .handleIrq
        { s with intrMask := s.intrMask &&& ~~~NSS_HAL_SUPPORTED_INTERRUPTS, isr := true }
  | napiSchedule (s : DecongestState ι) (hisr : s.isr = true) :
      Step s .napiSchedule { s with sched := true, isr := false }
  | softirq (s : DecongestState ι) (budget : ℤ) (hsched : s.sched = true)
      (hidle : s.poll = .idle) (hbudget : 0 < budget) :
      Step s (.softirq budget) { s with poll := .read false budget }
  | poll (s : DecongestState ι) (hready : PollReady s) : Step s (pollLabel s) (pollStep s)
  | unmask (s : DecongestState ι) (hfinishing : 0 < s.finishing) :
      Step s .unmask
        { s with
          intrMask := s.intrMask ||| NSS_HAL_SUPPORTED_INTERRUPTS
          finishing := s.finishing - 1 }
  | register (s : DecongestState ι) (client : Client) (hlock : s.decongestCbLock = false) :
      Step s
        (.register client
          (nssCmnRegisterQueueDecongestion client.callback client.ctx s.clients).1)
        { s with
          clients :=
            (nssCmnRegisterQueueDecongestion client.callback client.ctx s.clients).2 }
  | unregister (s : DecongestState ι) (callback : ℕ) (hlock : s.decongestCbLock = false) :
      Step s (.unregister callback (nssCmnUnregisterQueueDecongestion callback s.clients).1)
        { s with clients := (nssCmnUnregisterQueueDecongestion callback s.clients).2 }

/-- After `nss_hal_probe`. -/
structure Boot (s : DecongestState ι) : Prop where
  unmasked : s.intrMask &&& NSS_HAL_SUPPORTED_INTERRUPTS = NSS_HAL_SUPPORTED_INTERRUPTS
  cause : s.cause = 0
  sched : s.sched = false
  isr : s.isr = false
  poll : s.poll = .idle
  finishing : s.finishing = 0
  lock : s.decongestCbLock = false
  clients : s.clients = List.replicate NSS_MAX_CLIENTS vacant
  full : ∀ i, s.full i = false

end Machine

/-- The bit of `TX_UNBLOCKED`. -/
def txUnblocked (causes : U32) : Bool := causes.getLsbD 11

end NssDrv.DecongestPoll

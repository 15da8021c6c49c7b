import NssDrv.CommonMessage
import NssDrv.SessionRegistration

set_option autoImplicit false

/-!
# The callbacks of crypto and of the profiler

Crypto has a notifier for its messages and a callback for its buffers, with one
context for both. The profiler has a callback and a context for each core, and
one entry in the table of handlers.
-/
namespace NssDrv.CallbackContexts
open TransitionRuns HlosInterface InterfaceTables CommonMessage
open SessionRegistration (Invoked invoke NSS_HLOS_MESSAGE_VERSION)

def NSS_SPECIAL_IF_START : ℕ := NSS_DYNAMIC_IF_START + NSS_MAX_DYNAMIC_INTERFACES
def NSS_PROFILER_INTERFACE : ℕ := NSS_SPECIAL_IF_START + 8
def NSS_CRYPTO_INTERFACE : ℕ := NSS_SPECIAL_IF_START + 9

/-- The two functions that `nss_core_register_handler` gets, as pointers. -/
def nssCryptoMsgHandlerPtr : ℕ := 1
def nssProfilerRxMsgHandlerPtr : ℕ := 2

/-- What `nss_top_instance` and `nss_rx_interface_handlers[]` hold of the two. -/
structure Notifiers where
  handlers : RxHandlers
  cryptoCtx : ℕ
  cryptoMsgCallback : ℕ
  cryptoBufCallback : ℕ
  profilerCtx : NssCoreId → ℕ
  profilerCallback : NssCoreId → ℕ

section Registration
variable (s : Notifiers)

def nssCryptoSetMsgCallback (cb cryptoCtx : ℕ) : Notifiers :=
  { s with cryptoCtx := cryptoCtx, cryptoMsgCallback := cb }

def nssCryptoGetMsgCallback : ℕ × ℕ := (s.cryptoMsgCallback, s.cryptoCtx)

def nssCryptoNotifyRegister (cb appData : ℕ) : Bool × Notifiers :=
  (true, nssCryptoSetMsgCallback s cb appData)

def nssCryptoNotifyUnregister : Notifiers := nssCryptoSetMsgCallback s 0 0

def nssCryptoDataRegister (cb appData : ℕ) : Bool × Notifiers :=
  (true, { s with cryptoCtx := appData, cryptoBufCallback := cb })

def nssCryptoDataUnregister : Notifiers := { s with cryptoCtx := 0, cryptoBufCallback := 0 }

/-- `false` where the source returns `NULL`. Only the first core asks for the
    handler. -/
def nssProfilerNotifyRegister (coreId : NssCoreId) (cb ctx : ℕ) : Bool × Notifiers :=
  let (status, handlers) := match coreId with
    | .NSS_CORE_0 =>
      nssCoreRegisterHandler NSS_PROFILER_INTERFACE nssProfilerRxMsgHandlerPtr 0 s.handlers
    | .NSS_CORE_1 => (.success, s.handlers)
  if status ≠ .success then (false, { s with handlers := handlers })
  else (true, { s with
    handlers := handlers
    profilerCtx := Function.update s.profilerCtx coreId ctx
    profilerCallback := Function.update s.profilerCallback coreId cb })

/-- The handler is to be removed by registering `NULL`. -/
def nssProfilerNotifyUnregister (coreId : NssCoreId) : Notifiers :=
  let (_, handlers) := nssCoreRegisterHandler NSS_PROFILER_INTERFACE 0 0 s.handlers
  { s with
    handlers := handlers
    profilerCallback := Function.update s.profilerCallback coreId 0
    profilerCtx := Function.update s.profilerCtx coreId 0 }

end Registration

/-- A received message, with the length of its buffer. -/
structure Message where
  version : U16
  interface : U16
  response : U32
  type : U32
  cb : ℕ
  appData : ℕ
  len : U32
  numCounters : U32
  bufLen : U32

def NSS_CMM_RESPONSE_NOTIFY : U32 := 5
def NSS_CMN_RESPONSE_LAST : U32 := 6
def NSS_CRYPTO_MSG_TYPE_MAX : U32 := 5
def NSS_PROFILER_FLOWCTRL_MSG : U32 := 3
def NSS_PROFILER_DEBUG_REPLY_MSG : U32 := 6
def NSS_PROFILER_COUNTERS_MSG : U32 := 9
def NSS_PROFILER_MAX_MSG_TYPES : U32 := 11
def PROFILE_MAX_APP_COUNTERS : U32 := 24
def sizeofNssCmnMsg : U32 := 28
def sizeofNssCryptoMsg : U32 := 280
def sizeofPcmdp : U32 := 608
def sizeofPdm : U32 := 1028
def sizeofCounter : U32 := 24

def nssCmnGetMsgLen (ncm : Message) : U32 := ncm.len + sizeofNssCmnMsg

section Receive
variable (s : Notifiers) (id : NssCoreId) (ncm : Message)

def nssCryptoBufHandler : Invoked := invoke s.cryptoBufCallback s.cryptoCtx

def nssCryptoMsgHandler : Invoked :=
  if ncm.type > NSS_CRYPTO_MSG_TYPE_MAX then none
  else if nssCmnGetMsgLen ncm > sizeofNssCryptoMsg then none
  else if ncm.interface.toNat ≠ NSS_CRYPTO_INTERFACE then none
  else if ncm.response = NSS_CMN_RESPONSE_LAST then none
  else if ncm.response = NSS_CMM_RESPONSE_NOTIFY then
    let (cb, cryptoCtx) := nssCryptoGetMsgCallback s
    invoke cb cryptoCtx
  else invoke ncm.cb ncm.appData

/-- The length is wrong for the type of the message. -/
def profilerLenBad : Bool :=
  if ncm.type ≤ NSS_PROFILER_FLOWCTRL_MSG then ncm.len > sizeofPcmdp
  else if ncm.type ≤ NSS_PROFILER_DEBUG_REPLY_MSG then ncm.len > sizeofPdm
  else if ncm.type ≤ NSS_PROFILER_COUNTERS_MSG then
    ncm.len < sizeofPcmdp - (PROFILE_MAX_APP_COUNTERS - ncm.numCounters) * sizeofCounter ||
      ncm.len > sizeofPcmdp
  else false

def nssProfilerRxMsgHandler : Invoked :=
  let ctx := s.profilerCtx id
  let cb := s.profilerCallback id
  if ncm.type ≥ NSS_PROFILER_MAX_MSG_TYPES then none
  else if profilerLenBad ncm = true then none
  else
    let cb := if ncm.response ≠ NSS_CMM_RESPONSE_NOTIFY ∧ ncm.cb ≠ 0 then ncm.cb else cb
    if cb = 0 ∨ ctx = 0 then none else some (cb, ctx)

/-- The handlers of other interfaces invoke none of these callbacks. -/
def nssCoreHandleNssStatusPkt : Invoked :=
  if ncm.version.toNat ≠ NSS_HLOS_MESSAGE_VERSION then none
  else if ncm.len > ncm.bufLen then none
  else if ncm.interface.toNat ≥ NSS_MAX_NET_INTERFACES then none
  else
    let cb := (s.handlers ncm.interface.toNat).cb
    if cb = nssCryptoMsgHandlerPtr then nssCryptoMsgHandler s ncm
    else if cb = nssProfilerRxMsgHandlerPtr then nssProfilerRxMsgHandler s id ncm
    else none

end Receive

inductive Registrant where
  | cryptoNotify
  | cryptoData
  | profiler (coreId : NssCoreId)
  deriving DecidableEq

def Registrant.register (r : Registrant) (cb appData : ℕ) (s : Notifiers) : Bool × Notifiers :=
  match r with
  | .cryptoNotify => nssCryptoNotifyRegister s cb appData
  | .cryptoData => nssCryptoDataRegister s cb appData
  | .profiler coreId => nssProfilerNotifyRegister s coreId cb appData

def Registrant.unregister (r : Registrant) (s : Notifiers) : Notifiers :=
  match r with
  | .cryptoNotify => nssCryptoNotifyUnregister s
  | .cryptoData => nssCryptoDataUnregister s
  | .profiler coreId => nssProfilerNotifyUnregister s coreId

inductive Call where
  | register (r : Registrant) (cb appData : ℕ)
  | unregister (r : Registrant)

/-- The tables, with the registrations in force, and whether one was refused to
    somebody who had none. -/
structure Book where
  top : Notifiers
  given : Registrant → Option (ℕ × ℕ)
  refused : Bool

def perform (b : Book) : Call → Book
  | .register r cb appData =>
    let (granted, top) := r.register cb appData b.top
    { top := top
      given := if granted then Function.update b.given r (some (cb, appData)) else b.given
      refused := b.refused || !granted && (b.given r).isNone }
  | .unregister r =>
    { b with top := r.unregister b.top, given := Function.update b.given r none }

/-- After `nss_crypto_register_handler`. -/
def boot (others : RxHandlers) : Book where
  top :=
    { handlers := Function.update (Function.update others NSS_CRYPTO_INTERFACE
        ⟨nssCryptoMsgHandlerPtr, 0⟩) NSS_PROFILER_INTERFACE ⟨0, 0⟩
      cryptoCtx := 0
      cryptoMsgCallback := 0
      cryptoBufCallback := 0
      profilerCtx := fun _ => 0
      profilerCallback := fun _ => 0 }
  given := fun _ => none
  refused := false

/-- What a registration is to have invoked. -/
def own (g : Option (ℕ × ℕ)) : Invoked := g.bind fun g => invoke g.1 g.2

/-- A NOTIFY message of crypto, as its handler accepts it. -/
structure CryptoEvent (ncm : Message) : Prop where
  version : ncm.version.toNat = NSS_HLOS_MESSAGE_VERSION
  len : ncm.len ≤ ncm.bufLen
  interface : ncm.interface.toNat = NSS_CRYPTO_INTERFACE
  type : ncm.type ≤ NSS_CRYPTO_MSG_TYPE_MAX
  fits : nssCmnGetMsgLen ncm ≤ sizeofNssCryptoMsg
  notify : ncm.response = NSS_CMM_RESPONSE_NOTIFY

/-- A message of the profiler that does not come with a callback of its own. -/
structure ProfilerEvent (ncm : Message) : Prop where
  version : ncm.version.toNat = NSS_HLOS_MESSAGE_VERSION
  len : ncm.len ≤ ncm.bufLen
  interface : ncm.interface.toNat = NSS_PROFILER_INTERFACE
  type : ncm.type < NSS_PROFILER_MAX_MSG_TYPES
  fits : profilerLenBad ncm = false
  unasked : ncm.response = NSS_CMM_RESPONSE_NOTIFY ∨ ncm.cb = 0

/-- Whatever comes for the registrant, its own callback is invoked with its own
    context, and nothing is while it has no registration. -/
def Served (r : Registrant) (s : Notifiers) (g : Option (ℕ × ℕ)) : Prop :=
  match r with
  | .cryptoNotify => ∀ id ncm, CryptoEvent ncm → nssCoreHandleNssStatusPkt s id ncm = own g
  | .cryptoData => nssCryptoBufHandler s = own g
  | .profiler id => ∀ ncm, ProfilerEvent ncm → nssCoreHandleNssStatusPkt s id ncm = own g

/-- Everybody is served, and nobody who was not registered was refused. -/
def Kept (b : Book) : Prop := (∀ r, Served r b.top (b.given r)) ∧ b.refused = false

/-- The other user of a context, if it has a callback, was given the same. -/
def SameContext (g : Option (ℕ × ℕ)) (appData : ℕ) : Prop :=
  ∀ cb' appData', g = some (cb', appData') → cb' ≠ 0 → appData' = appData

/-- The two of crypto have the same context. The first core registers where there
    is no handler yet, the second where there is one, and both with a context. -/
def Undisturbed (b : Book) : Call → Prop
  | .register .cryptoNotify _ appData => SameContext (b.given .cryptoData) appData
  | .register .cryptoData _ appData => SameContext (b.given .cryptoNotify) appData
  | .register (.profiler .NSS_CORE_0) cb ctx =>
    (b.given (.profiler .NSS_CORE_0)).isSome ∨
      (b.top.handlers NSS_PROFILER_INTERFACE).cb = 0 ∧ (cb = 0 ∨ ctx ≠ 0)
  | .register (.profiler .NSS_CORE_1) cb ctx =>
    cb = 0 ∨ (b.top.handlers NSS_PROFILER_INTERFACE).cb ≠ 0 ∧ ctx ≠ 0
  | .unregister .cryptoNotify => SameContext (b.given .cryptoData) 0
  | .unregister .cryptoData => SameContext (b.given .cryptoNotify) 0
  | .unregister (.profiler _) => True

variable {s : Notifiers} {r : Registrant} {id : NssCoreId} {ncm : Message} {b : Book} {l : Call}
variable {g : Option (ℕ × ℕ)} {cb ctx appData : ℕ}

theorem invoke_none : invoke cb ctx = none ↔ cb = 0 := by
  unfold invoke
  by_cases h : cb = 0
  · simp [h]
  · simp [h]

theorem invoke_pos (h : cb ≠ 0) : invoke cb ctx = some (cb, ctx) := if_neg h

theorem invoke_own (h : invoke cb ctx = own g) :
    invoke cb appData = own g ↔ SameContext g appData := by
  by_cases hcb : cb = 0
  · subst hcb
    rw [invoke_none.mpr rfl] at h ⊢
    refine ⟨fun _ => ?_, fun _ => h⟩
    intro cb' appData' hg hcb'
    rw [hg] at h
    have hown : some (cb', appData') = none := (invoke_pos hcb').symm.trans h.symm
    cases hown
  · rw [invoke_pos hcb] at h ⊢
    constructor
    · intro hown cb' appData' hg hcb'
      rw [hg] at hown
      have heq : some (cb, appData) = some (cb', appData') := hown.trans (invoke_pos hcb')
      exact (congrArg Prod.snd (Option.some.inj heq)).symm
    · intro hsame
      cases g with
      | none => cases h
      | some g =>
        obtain ⟨cb', appData'⟩ := g
        have hcb' : cb' ≠ 0 := by
          intro hzero
          have hnone : own (some (cb', appData')) = none := invoke_none.mpr hzero
          rw [hnone] at h
          cases h
        have heq : some (cb, ctx) = some (cb', appData') := h.trans (invoke_pos hcb')
        obtain rfl : cb = cb' := congrArg Prod.fst (Option.some.inj heq)
        obtain rfl := hsame cb appData' rfl hcb'
        exact (invoke_pos hcb).symm

/-- Without a handler or a context nothing is invoked. -/
def profilerInvoked (handler cb ctx : ℕ) : Invoked :=
  if handler = 0 ∨ ctx = 0 then none else invoke cb ctx

def Registrant.invoked (r : Registrant) (s : Notifiers) : Invoked :=
  match r with
  | .cryptoNotify => invoke s.cryptoMsgCallback s.cryptoCtx
  | .cryptoData => invoke s.cryptoBufCallback s.cryptoCtx
  | .profiler id =>
    profilerInvoked (s.handlers NSS_PROFILER_INTERFACE).cb (s.profilerCallback id)
      (s.profilerCtx id)

structure Handled (s : Notifiers) : Prop where
  crypto : (s.handlers NSS_CRYPTO_INTERFACE).cb = nssCryptoMsgHandlerPtr
  profiler : (s.handlers NSS_PROFILER_INTERFACE).cb = 0 ∨
    (s.handlers NSS_PROFILER_INTERFACE).cb = nssProfilerRxMsgHandlerPtr

section Messages
variable (hs : Handled s)
include hs

theorem crypto_invoked (h : CryptoEvent ncm) :
    nssCoreHandleNssStatusPkt s id ncm = Registrant.invoked .cryptoNotify s := by
  have hinterface : ¬ ncm.interface.toNat ≥ NSS_MAX_NET_INTERFACES := by
    rw [h.interface]
    decide
  have hlast : ¬ ncm.response = NSS_CMN_RESPONSE_LAST := by
    rw [h.notify]
    decide
  unfold nssCoreHandleNssStatusPkt nssCryptoMsgHandler
  rw [if_neg (not_not.mpr h.version), if_neg (BitVec.not_lt.mpr h.len), if_neg hinterface,
    h.interface, hs.crypto, if_pos rfl, if_neg (BitVec.not_lt.mpr h.type),
    if_neg (BitVec.not_lt.mpr h.fits), if_neg (not_not.mpr rfl), if_neg hlast, if_pos h.notify]
  rfl

theorem profiler_invoked (h : ProfilerEvent ncm) :
    nssCoreHandleNssStatusPkt s id ncm = Registrant.invoked (.profiler id) s := by
  have hinterface : ¬ ncm.interface.toNat ≥ NSS_MAX_NET_INTERFACES := by
    rw [h.interface]
    decide
  have hunasked : ¬ (ncm.response ≠ NSS_CMM_RESPONSE_NOTIFY ∧ ncm.cb ≠ 0) := by
    rintro ⟨hresponse, hcb⟩
    exact h.unasked.elim hresponse hcb
  unfold nssCoreHandleNssStatusPkt Registrant.invoked profilerInvoked
  rw [if_neg (not_not.mpr h.version), if_neg (BitVec.not_lt.mpr h.len), if_neg hinterface,
    h.interface]
  dsimp only
  rcases hs.profiler with hnone | hprofiler
  · rw [hnone, if_neg (by decide), if_neg (by decide), if_pos (.inl rfl)]
  · rw [hprofiler, if_neg (by decide), if_pos rfl]
    unfold nssProfilerRxMsgHandler invoke
    dsimp only
    rw [if_neg (BitVec.not_le.mpr h.type), if_neg (Bool.eq_false_iff.mp h.fits),
      if_neg hunasked]
    by_cases hctx : s.profilerCtx id = 0
    · rw [if_pos (.inr hctx), if_pos (.inr hctx)]
    · have hhandled : ¬ (nssProfilerRxMsgHandlerPtr = 0 ∨ s.profilerCtx id = 0) := by
        rintro (hzero | hzero)
        · cases hzero
        · exact hctx hzero
      rw [if_neg hhandled]
      by_cases hcb : s.profilerCallback id = 0
      · rw [if_pos (.inl hcb), if_pos hcb]
      · rw [if_neg (not_or.mpr ⟨hcb, hctx⟩), if_neg hcb]

def cryptoEvent : Message := ⟨0, 97, 5, 4, 0, 0, 252, 0, 280⟩
def profilerSample : Message := ⟨0, 96, 5, 10, 0, 0, 64, 0, 1400⟩

theorem served_iff : Served r s g ↔ r.invoked s = own g := by
  cases r with
  | cryptoNotify =>
    constructor
    · intro h
      have hevent : CryptoEvent cryptoEvent := by constructor <;> decide
      rw [← crypto_invoked hs hevent]
      exact h .NSS_CORE_0 cryptoEvent hevent
    · intro h id ncm hevent
      rw [crypto_invoked hs hevent, h]
  | cryptoData => exact Iff.rfl
  | profiler id =>
    constructor
    · intro h
      have hevent : ProfilerEvent profilerSample := by
        constructor
        case unasked => exact .inl rfl
        all_goals decide
      rw [← profiler_invoked hs hevent]
      exact h profilerSample hevent
    · intro h ncm hevent
      rw [profiler_invoked hs hevent, h]

end Messages

def withCrypto (s : Notifiers) (ctx msg buf : ℕ) : Notifiers :=
  { s with cryptoCtx := ctx, cryptoMsgCallback := msg, cryptoBufCallback := buf }

/-- A registration of the profiler that is granted. -/
def withProfiler (s : Notifiers) (handlers : RxHandlers) (id : NssCoreId) (cb ctx : ℕ) : Notifiers :=
  { s with
    handlers := handlers
    profilerCtx := Function.update s.profilerCtx id ctx
    profilerCallback := Function.update s.profilerCallback id cb }

def handled (s : Notifiers) : RxHandlers :=
  Function.update s.handlers NSS_PROFILER_INTERFACE ⟨nssProfilerRxMsgHandlerPtr, 0⟩

theorem handled_profiler : (handled s NSS_PROFILER_INTERFACE).cb = nssProfilerRxMsgHandlerPtr := by
  unfold handled
  rw [Function.update_self]

theorem handled_crypto : (handled s NSS_CRYPTO_INTERFACE).cb =
    (s.handlers NSS_CRYPTO_INTERFACE).cb := by
  have hne : NSS_CRYPTO_INTERFACE ≠ NSS_PROFILER_INTERFACE := by decide
  unfold handled
  rw [Function.update_of_ne hne]

theorem handlerPtr_pos : nssProfilerRxMsgHandlerPtr ≠ 0 := by decide

theorem register_first (h : (s.handlers NSS_PROFILER_INTERFACE).cb = 0) :
    nssProfilerNotifyRegister s .NSS_CORE_0 cb ctx =
      (true, withProfiler s (handled s) .NSS_CORE_0 cb ctx) := by
  have hrange : ¬ NSS_PROFILER_INTERFACE ≥ NSS_MAX_NET_INTERFACES := by decide
  unfold nssProfilerNotifyRegister nssCoreRegisterHandler
  rw [if_neg hrange, if_neg (not_not.mpr h)]
  rfl

theorem register_refused (h : (s.handlers NSS_PROFILER_INTERFACE).cb ≠ 0) :
    nssProfilerNotifyRegister s .NSS_CORE_0 cb ctx = (false, s) := by
  have hrange : ¬ NSS_PROFILER_INTERFACE ≥ NSS_MAX_NET_INTERFACES := by decide
  unfold nssProfilerNotifyRegister nssCoreRegisterHandler
  rw [if_neg hrange, if_pos h]
  rfl

theorem register_second : nssProfilerNotifyRegister s .NSS_CORE_1 cb ctx =
    (true, withProfiler s s.handlers .NSS_CORE_1 cb ctx) := rfl

/-- The handler that is to be removed stays, and it has no effect that there is none. -/
theorem unregister_handlers (n : ℕ) :
    ((nssProfilerNotifyUnregister s id).handlers n).cb = (s.handlers n).cb := by
  have hrange : ¬ NSS_PROFILER_INTERFACE ≥ NSS_MAX_NET_INTERFACES := by decide
  show ((nssCoreRegisterHandler NSS_PROFILER_INTERFACE 0 0 s.handlers).2 n).cb = _
  unfold nssCoreRegisterHandler
  rw [if_neg hrange]
  by_cases hcb : (s.handlers NSS_PROFILER_INTERFACE).cb = 0
  · rw [if_neg (not_not.mpr hcb)]
    dsimp only
    by_cases hn : n = NSS_PROFILER_INTERFACE
    · rw [hn, Function.update_self, hcb]
    · rw [Function.update_of_ne hn]
  · rw [if_pos hcb]

theorem profiler_quiet {handler : ℕ} : profilerInvoked handler 0 ctx = none := by
  unfold profilerInvoked
  split
  · rfl
  · exact invoke_none.mpr rfl

theorem profiler_context {handler : ℕ} (hhandler : handler ≠ 0) :
    profilerInvoked handler cb ctx = invoke cb ctx ↔ cb = 0 ∨ ctx ≠ 0 := by
  unfold profilerInvoked
  by_cases hctx : ctx = 0
  · rw [if_pos (.inr hctx)]
    constructor
    · exact fun h => .inl (invoke_none.mp h.symm)
    · rintro (hcb | hne)
      · exact (invoke_none.mpr hcb).symm
      · exact absurd hctx hne
  · rw [if_neg (not_or.mpr ⟨hhandler, hctx⟩)]
    exact ⟨fun _ => .inr hctx, fun _ => rfl⟩

theorem profiler_unhandled : profilerInvoked 0 cb ctx = invoke cb ctx ↔ cb = 0 := by
  unfold profilerInvoked
  rw [if_pos (.inl rfl), eq_comm]
  exact invoke_none

theorem profiler_self {handlers : RxHandlers} :
    Registrant.invoked (.profiler id) (withProfiler s handlers id cb ctx) =
      profilerInvoked (handlers NSS_PROFILER_INTERFACE).cb cb ctx := by
  unfold Registrant.invoked withProfiler
  dsimp only
  rw [Function.update_self, Function.update_self]

theorem profiler_other {id' : NssCoreId} (hid : id' ≠ id) {handlers : RxHandlers}
    (hhandlers : (handlers NSS_PROFILER_INTERFACE).cb = (s.handlers NSS_PROFILER_INTERFACE).cb) :
    Registrant.invoked (.profiler id') (withProfiler s handlers id cb ctx) =
      Registrant.invoked (.profiler id') s := by
  unfold Registrant.invoked withProfiler
  dsimp only
  rw [Function.update_of_ne hid, Function.update_of_ne hid, hhandlers]

/-- Only the own registration is in the tables. -/
structure Agreed (b : Book) : Prop extends Handled b.top where
  first : (b.given (.profiler .NSS_CORE_0)).isSome →
    (b.top.handlers NSS_PROFILER_INTERFACE).cb ≠ 0
  callback : ∀ id, b.top.profilerCallback id = ((b.given (.profiler id)).map Prod.fst).getD 0
  invoked : ∀ r, r.invoked b.top = own (b.given r)
  refused : b.refused = false

theorem Agreed.kept (h : Agreed b) : Kept b :=
  ⟨fun r => (served_iff h.toHandled).mpr (h.invoked r), h.refused⟩

theorem boot_agreed (others : RxHandlers) : Agreed (boot others) where
  crypto := by
    have hne : NSS_CRYPTO_INTERFACE ≠ NSS_PROFILER_INTERFACE := by decide
    show ((boot others).top.handlers NSS_CRYPTO_INTERFACE).cb = _
    unfold boot
    dsimp only
    rw [Function.update_of_ne hne, Function.update_self]
  profiler := by
    left
    unfold boot
    dsimp only
    rw [Function.update_self]
  first := nofun
  callback := fun _ => rfl
  invoked := by
    intro r
    cases r with
    | cryptoNotify => rfl
    | cryptoData => rfl
    | profiler id =>
      have hctx : (boot others).top.profilerCtx id = 0 := rfl
      unfold Registrant.invoked
      dsimp only
      rw [hctx]
      exact if_pos (Or.inr rfl)
  refused := rfl

theorem own_none (h : own g = none) : (g.map Prod.fst).getD 0 = 0 := by
  cases g with
  | none => rfl
  | some g => exact invoke_none.mp h

theorem perform_granted {top : Notifiers} (h : r.register cb appData b.top = (true, top)) :
    perform b (.register r cb appData) =
      ⟨top, Function.update b.given r (some (cb, appData)), b.refused⟩ := by
  unfold perform
  dsimp only
  rw [h]
  dsimp only
  rw [Bool.not_true, Bool.false_and, Bool.or_false, if_pos rfl]

theorem perform_refused {top : Notifiers} (h : r.register cb appData b.top = (false, top))
    (hgiven : (b.given r).isSome) :
    perform b (.register r cb appData) = ⟨top, b.given, b.refused⟩ := by
  unfold perform
  dsimp only
  rw [h]
  dsimp only
  rw [Option.isNone_eq_false_iff.mpr hgiven, Bool.and_false, Bool.or_false,
    if_neg Bool.false_ne_true]

theorem perform_rejected {top : Notifiers} (h : r.register cb appData b.top = (false, top))
    (hgiven : (b.given r).isNone) :
    (perform b (.register r cb appData)).refused = true := by
  unfold perform
  dsimp only
  rw [h]
  dsimp only
  rw [hgiven]
  exact Bool.or_true _

section Steps
variable (hb : Agreed b)
include hb

theorem Agreed.update {top : Notifiers} {g : Option (ℕ × ℕ)} (hs : Handled top)
    (hfirst : (Function.update b.given r g (.profiler .NSS_CORE_0)).isSome →
      (top.handlers NSS_PROFILER_INTERFACE).cb ≠ 0)
    (hcallback : ∀ id, top.profilerCallback id =
      ((Function.update b.given r g (.profiler id)).map Prod.fst).getD 0)
    (hself : r.invoked top = own g)
    (hothers : ∀ r', r' ≠ r → r'.invoked top = r'.invoked b.top) :
    Agreed ⟨top, Function.update b.given r g, b.refused⟩ where
  toHandled := hs
  first := hfirst
  callback := hcallback
  invoked := by
    intro r'
    show _ = own (Function.update b.given r g r')
    by_cases hr : r' = r
    · subst hr
      rw [Function.update_self, hself]
    · rw [Function.update_of_ne hr, hothers r' hr, hb.invoked r']
  refused := hb.refused

theorem Agreed.crypto_register (ctx msg buf : ℕ) (hcrypto : r = .cryptoNotify ∨ r = .cryptoData)
    (hself : r.invoked (withCrypto b.top ctx msg buf) = own g)
    (hother : ∀ r', r' ≠ r → r' = .cryptoNotify ∨ r' = .cryptoData →
      r'.invoked (withCrypto b.top ctx msg buf) = own (b.given r')) :
    Agreed ⟨withCrypto b.top ctx msg buf, Function.update b.given r g, b.refused⟩ := by
  have hgiven : ∀ id, Function.update b.given r g (.profiler id) = b.given (.profiler id) := by
    intro id
    apply Function.update_of_ne
    rintro rfl
    exact hcrypto.elim nofun nofun
  apply hb.update
  · exact ⟨hb.crypto, hb.profiler⟩
  · rw [hgiven]
    exact hb.first
  · intro id
    rw [hgiven]
    exact hb.callback id
  · exact hself
  · intro r' hr
    cases r' with
    | cryptoNotify => rw [hother _ hr (.inl rfl), hb.invoked]
    | cryptoData => rw [hother _ hr (.inr rfl), hb.invoked]
    | profiler id => rfl

theorem Agreed.profiler_register (handlers : RxHandlers)
    (hcrypto : (handlers NSS_CRYPTO_INTERFACE).cb = (b.top.handlers NSS_CRYPTO_INTERFACE).cb)
    (hprofiler : (handlers NSS_PROFILER_INTERFACE).cb =
        (b.top.handlers NSS_PROFILER_INTERFACE).cb ∨
      (b.top.handlers NSS_PROFILER_INTERFACE).cb = 0 ∧
        (handlers NSS_PROFILER_INTERFACE).cb = nssProfilerRxMsgHandlerPtr)
    (hg : (g.map Prod.fst).getD 0 = cb)
    (hfirst : g.isSome → id = .NSS_CORE_0 → (handlers NSS_PROFILER_INTERFACE).cb ≠ 0)
    (hself : profilerInvoked (handlers NSS_PROFILER_INTERFACE).cb cb ctx = own g) :
    Agreed ⟨withProfiler b.top handlers id cb ctx, Function.update b.given (.profiler id) g,
      b.refused⟩ := by
  apply hb.update
  · constructor
    · exact hcrypto.trans hb.crypto
    · rcases hprofiler with hsame | ⟨-, hnew⟩
      · show (handlers _).cb = 0 ∨ (handlers _).cb = _
        rw [hsame]
        exact hb.profiler
      · exact .inr hnew
  · intro hsome
    by_cases hid : NssCoreId.NSS_CORE_0 = id
    · subst hid
      rw [Function.update_self] at hsome
      exact hfirst hsome rfl
    · have hne : Registrant.profiler .NSS_CORE_0 ≠ .profiler id := fun h =>
        hid (Registrant.profiler.inj h)
      rw [Function.update_of_ne hne] at hsome
      show (handlers NSS_PROFILER_INTERFACE).cb ≠ 0
      rcases hprofiler with hsame | ⟨-, hnew⟩
      · rw [hsame]
        exact hb.first hsome
      · rw [hnew]
        exact nofun
  · intro id'
    by_cases hid : id' = id
    · subst hid
      rw [Function.update_self, hg]
      exact Function.update_self _ _ _
    · have hne : Registrant.profiler id' ≠ .profiler id := fun h => hid (Registrant.profiler.inj h)
      rw [Function.update_of_ne hne, ← hb.callback id']
      exact Function.update_of_ne hid _ _
  · rw [profiler_self, hself]
  · intro r' hr
    cases r' with
    | cryptoNotify => rfl
    | cryptoData => rfl
    | profiler id' =>
      have hid : id' ≠ id := fun h => hr (congrArg _ h)
      rcases hprofiler with hsame | ⟨habsent, hnew⟩
      · exact profiler_other hid hsame
      · -- without a handler nothing was invoked, so there is no callback now
        have hnone : Registrant.invoked (.profiler id') b.top = none := by
          unfold Registrant.invoked
          exact if_pos (.inl habsent)
        have hcb : b.top.profilerCallback id' = 0 := by
          rw [hb.callback id']
          exact own_none ((hb.invoked _).symm.trans hnone)
        rw [hnone]
        unfold Registrant.invoked withProfiler
        dsimp only
        rw [Function.update_of_ne hid, Function.update_of_ne hid, hcb]
        exact profiler_quiet

theorem perform_agreed (hok : Undisturbed b l) : Agreed (perform b l) := by
  have hnotify := hb.invoked .cryptoNotify
  have hdata := hb.invoked .cryptoData
  cases l with
  | register r cb appData =>
    cases r with
    | cryptoNotify =>
      rw [perform_granted rfl]
      apply hb.crypto_register appData cb b.top.cryptoBufCallback (.inl rfl) rfl
      rintro r' hr (rfl | rfl)
      · exact absurd rfl hr
      · exact (invoke_own hdata).mpr hok
    | cryptoData =>
      rw [perform_granted rfl]
      apply hb.crypto_register appData b.top.cryptoMsgCallback cb (.inr rfl) rfl
      rintro r' hr (rfl | rfl)
      · exact (invoke_own hnotify).mpr hok
      · exact absurd rfl hr
    | profiler id =>
      cases id with
      | NSS_CORE_0 =>
        by_cases hhandler : (b.top.handlers NSS_PROFILER_INTERFACE).cb = 0
        · have hcontext : cb = 0 ∨ appData ≠ 0 := by
            rcases hok with hgiven | ⟨-, hcontext⟩
            · exact absurd hhandler (hb.first hgiven)
            · exact hcontext
          rw [perform_granted (r := .profiler .NSS_CORE_0) (register_first hhandler)]
          apply hb.profiler_register (handled b.top)
          · exact handled_crypto
          · exact .inr ⟨hhandler, handled_profiler⟩
          · rfl
          · intro _ _
            rw [handled_profiler]
            exact handlerPtr_pos
          · rw [handled_profiler]
            exact (profiler_context handlerPtr_pos).mpr hcontext
        · rcases hok with hgiven | ⟨hnone, -⟩
          · rw [perform_refused (r := .profiler .NSS_CORE_0) (register_refused hhandler) hgiven]
            exact hb
          · exact absurd hnone hhandler
      | NSS_CORE_1 =>
        rw [perform_granted (r := .profiler .NSS_CORE_1) register_second]
        apply hb.profiler_register b.top.handlers rfl (.inl rfl)
        · rfl
        · exact fun _ h => nomatch h
        · by_cases hhandler : (b.top.handlers NSS_PROFILER_INTERFACE).cb = 0
          · rw [hhandler]
            exact profiler_unhandled.mpr (hok.resolve_right fun h => h.1 hhandler)
          · exact (profiler_context hhandler).mpr (hok.imp_right And.right)
  | unregister r =>
    cases r with
    | cryptoNotify =>
      apply hb.crypto_register 0 0 b.top.cryptoBufCallback (.inl rfl) rfl
      rintro r' hr (rfl | rfl)
      · exact absurd rfl hr
      · exact (invoke_own hdata).mpr hok
    | cryptoData =>
      apply hb.crypto_register 0 b.top.cryptoMsgCallback 0 (.inr rfl) rfl
      rintro r' hr (rfl | rfl)
      · exact (invoke_own hnotify).mpr hok
      · exact absurd rfl hr
    | profiler id =>
      apply hb.profiler_register (nssProfilerNotifyUnregister b.top id).handlers
      · exact unregister_handlers _
      · exact .inl (unregister_handlers _)
      · rfl
      · intro hsome
        cases hsome
      · exact profiler_quiet

theorem perform_undisturbed (hkept : Kept (perform b l)) : Undisturbed b l := by
  have hnotify := hb.invoked .cryptoNotify
  have hdata := hb.invoked .cryptoData
  obtain ⟨hserved, hrefused⟩ := hkept
  have hinvoked : Handled (perform b l).top → ∀ r,
      r.invoked (perform b l).top = own ((perform b l).given r) :=
    fun hhandled r => (served_iff hhandled).mp (hserved r)
  cases l with
  | register r cb appData =>
    cases r with
    | cryptoNotify =>
      rw [perform_granted rfl] at hinvoked
      exact (invoke_own hdata).mp (hinvoked ⟨hb.crypto, hb.profiler⟩ .cryptoData)
    | cryptoData =>
      rw [perform_granted rfl] at hinvoked
      exact (invoke_own hnotify).mp (hinvoked ⟨hb.crypto, hb.profiler⟩ .cryptoNotify)
    | profiler id =>
      cases id with
      | NSS_CORE_0 =>
        by_cases hhandler : (b.top.handlers NSS_PROFILER_INTERFACE).cb = 0
        · rw [perform_granted (r := .profiler .NSS_CORE_0) (register_first hhandler)] at hinvoked
          have hself := hinvoked ⟨handled_crypto.trans hb.crypto, .inr (handled_profiler (s := b.top))⟩
            (.profiler .NSS_CORE_0)
          rw [profiler_self, handled_profiler] at hself
          dsimp only at hself
          rw [Function.update_self] at hself
          exact .inr ⟨hhandler, (profiler_context handlerPtr_pos).mp hself⟩
        · left
          by_contra hgiven
          have hnone : (b.given (.profiler .NSS_CORE_0)).isNone = true := by
            rw [Option.isNone_iff_eq_none, ← Option.not_isSome_iff_eq_none]
            exact hgiven
          rw [perform_rejected (r := .profiler .NSS_CORE_0) (register_refused hhandler) hnone]
            at hrefused
          cases hrefused
      | NSS_CORE_1 =>
        rw [perform_granted (r := .profiler .NSS_CORE_1) register_second] at hinvoked
        have hself := hinvoked ⟨hb.crypto, hb.profiler⟩ (.profiler .NSS_CORE_1)
        rw [profiler_self] at hself
        dsimp only at hself
        rw [Function.update_self] at hself
        by_cases hhandler : (b.top.handlers NSS_PROFILER_INTERFACE).cb = 0
        · rw [hhandler] at hself
          exact .inl (profiler_unhandled.mp hself)
        · exact ((profiler_context hhandler).mp hself).imp_right fun hctx => ⟨hhandler, hctx⟩
  | unregister r =>
    cases r with
    | cryptoNotify => exact (invoke_own hdata).mp (hinvoked ⟨hb.crypto, hb.profiler⟩ .cryptoData)
    | cryptoData => exact (invoke_own hnotify).mp (hinvoked ⟨hb.crypto, hb.profiler⟩ .cryptoNotify)
    | profiler id => trivial

end Steps

/-- In every state of a run every callback runs exactly while it is registered and
    with its own context, and no new registration is refused: exactly where each
    call meets the condition. -/
theorem callbacks_own_iff (others : RxHandlers) (calls : List Call) :
    (∀ ls, ls <+: calls → Kept (ls.foldl perform (boot others))) ↔
      FoldGuard Undisturbed perform calls (boot others) := by
  apply foldGuard_iff Agreed Kept
  · exact fun _ => Agreed.kept
  · exact fun _ _ hb _ => perform_agreed hb
  · exact fun _ _ hb _ => perform_undisturbed hb
  · exact boot_agreed others
  · exact FoldGuard.always calls (boot others)

/-- The data user of crypto puts its context in the place of the notifier's, and
    the profiler of the first core cannot be registered again. -/
theorem callbacks_disturbed :
    ¬ Kept ([.register .cryptoNotify 1 10, .register .cryptoData 2 20].foldl perform
        (boot fun _ => ⟨0, 0⟩)) ∧
      ¬ Kept ([.register (.profiler .NSS_CORE_0) 1 10, .unregister (.profiler .NSS_CORE_0),
        .register (.profiler .NSS_CORE_0) 1 10].foldl perform (boot fun _ => ⟨0, 0⟩)) := by
  constructor
  · rintro ⟨hserved, -⟩
    have hevent : CryptoEvent cryptoEvent := by constructor <;> decide
    have h := hserved .cryptoNotify .NSS_CORE_0 cryptoEvent hevent
    revert h
    decide
  · rintro ⟨-, hrefused⟩
    revert hrefused
    decide

end NssDrv.CallbackContexts

import Mathlib.Logic.Function.Basic
import NssDrv.ShaperBounce
import NssDrv.TransitionRuns

set_option autoImplicit false

/-!
# Bounced callbacks beside an unregistration

Any number of NAPI contexts that deliver bounced packets to one registrant, and
one call that unregisters it, access by access.
-/
namespace NssDrv.BounceCallback
open HlosInterface CallTree ShaperBounce TransitionRuns

variable {ι : Type}

inductive Holder (ι : Type) where
  | napi (i : ι)
  | unregister
  | other

structure Shared (ι : Type) where
  lock : Option (Holder ι)
  statsLock : Bool
  registered : Bool
  callbackActive : Bool

def Shared.Step (me : Holder ι) (s : Shared ι) : ShaperEvent → Shared ι → Prop
  | .did (.spinLockBh .lock), t => s.lock = none ∧ t = { s with lock := some me }
  | .did (.spinUnlockBh .lock), t => t = { s with lock := none }
  | .did (.spinLockBh .statsLock), t => s.statsLock = false ∧ t = { s with statsLock := true }
  | .did (.spinUnlockBh .statsLock), t => t = { s with statsLock := false }
  | .did (.register _ _), t => t = { s with registered := true }
  | .did (.unregister _), t => t = { s with registered := false }
  | .did (.setCallbackActive _ b), t => t = { s with callbackActive := b }
  | .saw (.registered _) b, t => b = s.registered ∧ t = s
  | .saw (.callbackActive _) b, t => b = s.callbackActive ∧ t = s
  | _, t => t = s

/-- `gets` and `puts` are the module references that a context has taken and
    dropped, `calls` the callbacks it has started. -/
structure Refs where
  gets : List ℕ
  puts : List ℕ
  calls : ℕ

def Refs.step (r : Refs) : ShaperEvent → Refs
  | .saw (.tryModuleGet owner) got => if got then { r with gets := r.gets ++ [owner] } else r
  | .did (.modulePut owner) => { r with puts := r.puts ++ [owner] }
  | .did (.callbackStart _ _) => { r with calls := r.calls + 1 }
  | _ => r

/-- `napi` and `unregister` hold what is left of each call. -/
structure Bounce (ι : Type) where
  shared : Shared ι
  napi : ι → ShaperCall Unit
  refs : ι → Refs
  unregister : ShaperCall Unit

inductive Label (ι : Type) where
  | deliver (i : ι)
  | napi (i : ι) (e : ShaperEvent)
  | unregister (e : ShaperEvent)
  | takeLock
  | dropLock
  | statsLock (b : Bool)

inductive Step [DecidableEq ι] (reg : RegistrantId) : Bounce ι → Label ι → Bounce ι → Prop where
  | deliver (s : Bounce ι) (i : ι) (hidle : s.napi i = .ret ()) :
      Step reg s (.deliver i)
        { s with napi := Function.update s.napi i (nssCoreHandleBouncedPkt reg) }
  | napi (s : Bounce ι) (i : ι) (e : ShaperEvent) (p : ShaperCall Unit) (t : Shared ι)
      (hnext : Next (s.napi i) e p) (hshared : s.shared.Step (.napi i) e t) :
      Step reg s (.napi i e)
        { s with
          shared := t
          napi := Function.update s.napi i p
          refs := Function.update s.refs i ((s.refs i).step e) }
  | unregister (s : Bounce ι) (e : ShaperEvent) (p : ShaperCall Unit) (t : Shared ι)
      (hnext : Next s.unregister e p) (hshared : s.shared.Step .unregister e t) :
      Step reg s (.unregister e) { s with shared := t, unregister := p }
  | takeLock (s : Bounce ι) (hfree : s.shared.lock = none) :
      Step reg s .takeLock { s with shared := { s.shared with lock := some .other } }
  | dropLock (s : Bounce ι) (hheld : s.shared.lock = some .other) :
      Step reg s .dropLock { s with shared := { s.shared with lock := none } }
  | statsLock (s : Bounce ι) (b : Bool) :
      Step reg s (.statsLock b) { s with shared := { s.shared with statsLock := b } }

def unregisterCall (reg : RegistrantId) : ShaperCall Unit :=
  match reg.kind with
  | .interface => nssShaperUnregisterShaperBounceInterface reg.ifNum
  | .bridge => nssShaperUnregisterShaperBounceBridge reg.ifNum

structure Start (reg : RegistrantId) (s : Bounce ι) : Prop where
  lock : s.shared.lock = none
  registered : s.shared.registered = true
  callbackActive : s.shared.callbackActive = false
  napi : ∀ i, s.napi i = .ret ()
  refs : ∀ i, s.refs i = ⟨[], [], 0⟩
  unregister : s.unregister = unregisterCall reg

def Invoking (p : ShaperCall Unit) : Prop := ∃ k, p = .tell .callbackEnd k

def Returned (p : ShaperCall Unit) : Prop := p = .ret ()

inductive Phase where
  | idle
  | entering
  | testing
  | leaving
  | freeing
  | loading
  | marking (r : Registration)
  | marked (r : Registration)
  | getting (r : Registration)
  | refused
  | refusedClear
  | calling (r : Registration)
  | running (r : Registration)
  | endLock (r : Registration)
  | clearing (r : Registration)
  | endUnlock (r : Registration)
  | putting (r : Registration)

section Points
variable (reg : RegistrantId) (r : Registration)

def putting : ShaperCall Unit := .tell (.modulePut r.owner) (.ret ())
def endUnlock : ShaperCall Unit := .tell (.spinUnlockBh .lock) (putting r)
def clearing : ShaperCall Unit := .tell (.setCallbackActive reg false) (endUnlock r)
def endLock : ShaperCall Unit := .tell (.spinLockBh .lock) (clearing reg r)
def running : ShaperCall Unit := .tell .callbackEnd (endLock reg r)
def calling : ShaperCall Unit :=
  .tell (.callbackStart r.bouncedCallback r.appData) (running reg r)
def freeing : ShaperCall Unit := .tell .freeSkb (.ret ())
def leaving : ShaperCall Unit := .tell (.spinUnlockBh .lock) freeing
def refusedClear : ShaperCall Unit := .tell (.setCallbackActive reg false) leaving
def refused : ShaperCall Unit := .tell (.spinLockBh .lock) (refusedClear reg)
def getting : ShaperCall Unit :=
  .ask (.tryModuleGet r.owner) fun got => if !got then refused reg else calling reg r
def marked : ShaperCall Unit := .tell (.spinUnlockBh .lock) (getting reg r)
def marking : ShaperCall Unit := .tell (.setCallbackActive reg true) (marked reg r)
def loading : ShaperCall Unit := .ask (.registration reg) fun r => marking reg r
def testing : ShaperCall Unit :=
  .ask (.registered reg) fun registered => if !registered then leaving else loading reg
def entering : ShaperCall Unit := .tell (.spinLockBh .lock) (testing reg)

end Points

def Phase.code (reg : RegistrantId) : Phase → ShaperCall Unit
  | .idle => .ret ()
  | .entering => BounceCallback.entering reg
  | .testing => BounceCallback.testing reg
  | .leaving => BounceCallback.leaving
  | .freeing => BounceCallback.freeing
  | .loading => BounceCallback.loading reg
  | .marking r => BounceCallback.marking reg r
  | .marked r => BounceCallback.marked reg r
  | .getting r => BounceCallback.getting reg r
  | .refused => BounceCallback.refused reg
  | .refusedClear => BounceCallback.refusedClear reg
  | .calling r => BounceCallback.calling reg r
  | .running r => BounceCallback.running reg r
  | .endLock r => BounceCallback.endLock reg r
  | .clearing r => BounceCallback.clearing reg r
  | .endUnlock r => BounceCallback.endUnlock r
  | .putting r => BounceCallback.putting r

theorem handleBouncedPkt_eq (reg : RegistrantId) :
    nssCoreHandleBouncedPkt reg = Phase.entering.code reg := rfl

inductive PhaseStep (reg : RegistrantId) : Phase → ShaperEvent → Phase → Prop where
  | enter : PhaseStep reg .entering (.did (.spinLockBh .lock)) .testing
  | found : PhaseStep reg .testing (.saw (.registered reg) true) .loading
  | missing : PhaseStep reg .testing (.saw (.registered reg) false) .leaving
  | leave : PhaseStep reg .leaving (.did (.spinUnlockBh .lock)) .freeing
  | free : PhaseStep reg .freeing (.did .freeSkb) .idle
  | load (r : Registration) : PhaseStep reg .loading (.saw (.registration reg) r) (.marking r)
  | mark (r : Registration) :
      PhaseStep reg (.marking r) (.did (.setCallbackActive reg true)) (.marked r)
  | unlock (r : Registration) :
      PhaseStep reg (.marked r) (.did (.spinUnlockBh .lock)) (.getting r)
  | got (r : Registration) :
      PhaseStep reg (.getting r) (.saw (.tryModuleGet r.owner) true) (.calling r)
  | refuse (r : Registration) :
      PhaseStep reg (.getting r) (.saw (.tryModuleGet r.owner) false) .refused
  | refusedLock : PhaseStep reg .refused (.did (.spinLockBh .lock)) .refusedClear
  | refusedClear :
      PhaseStep reg .refusedClear (.did (.setCallbackActive reg false)) .leaving
  | call (r : Registration) :
      PhaseStep reg (.calling r) (.did (.callbackStart r.bouncedCallback r.appData)) (.running r)
  | finish (r : Registration) : PhaseStep reg (.running r) (.did .callbackEnd) (.endLock r)
  | endLock (r : Registration) :
      PhaseStep reg (.endLock r) (.did (.spinLockBh .lock)) (.clearing r)
  | clear (r : Registration) :
      PhaseStep reg (.clearing r) (.did (.setCallbackActive reg false)) (.endUnlock r)
  | endUnlock (r : Registration) :
      PhaseStep reg (.endUnlock r) (.did (.spinUnlockBh .lock)) (.putting r)
  | put (r : Registration) : PhaseStep reg (.putting r) (.did (.modulePut r.owner)) .idle

variable {reg : RegistrantId} {ph ph' : Phase} {e : ShaperEvent} {p : ShaperCall Unit}

theorem next_phase (h : Next (ph.code reg) e p) :
    ∃ ph', p = ph'.code reg ∧ PhaseStep reg ph e ph' := by
  cases ph with
  | idle => cases h
  | entering =>
    obtain ⟨rfl, rfl⟩ := next_tell h
    exact ⟨.testing, rfl, .enter⟩
  | testing =>
    obtain ⟨found, rfl, rfl⟩ := next_ask h
    cases found with
    | true => exact ⟨.loading, rfl, .found⟩
    | false => exact ⟨.leaving, rfl, .missing⟩
  | leaving =>
    obtain ⟨rfl, rfl⟩ := next_tell h
    exact ⟨.freeing, rfl, .leave⟩
  | freeing =>
    obtain ⟨rfl, rfl⟩ := next_tell h
    exact ⟨.idle, rfl, .free⟩
  | loading =>
    obtain ⟨r, rfl, rfl⟩ := next_ask h
    exact ⟨.marking r, rfl, .load r⟩
  | marking r =>
    obtain ⟨rfl, rfl⟩ := next_tell h
    exact ⟨.marked r, rfl, .mark r⟩
  | marked r =>
    obtain ⟨rfl, rfl⟩ := next_tell h
    exact ⟨.getting r, rfl, .unlock r⟩
  | getting r =>
    obtain ⟨got, rfl, rfl⟩ := next_ask h
    cases got with
    | true => exact ⟨.calling r, rfl, .got r⟩
    | false => exact ⟨.refused, rfl, .refuse r⟩
  | refused =>
    obtain ⟨rfl, rfl⟩ := next_tell h
    exact ⟨.refusedClear, rfl, .refusedLock⟩
  | refusedClear =>
    obtain ⟨rfl, rfl⟩ := next_tell h
    exact ⟨.leaving, rfl, .refusedClear⟩
  | calling r =>
    obtain ⟨rfl, rfl⟩ := next_tell h
    exact ⟨.running r, rfl, .call r⟩
  | running r =>
    obtain ⟨rfl, rfl⟩ := next_tell h
    exact ⟨.endLock r, rfl, .finish r⟩
  | endLock r =>
    obtain ⟨rfl, rfl⟩ := next_tell h
    exact ⟨.clearing r, rfl, .endLock r⟩
  | clearing r =>
    obtain ⟨rfl, rfl⟩ := next_tell h
    exact ⟨.endUnlock r, rfl, .clear r⟩
  | endUnlock r =>
    obtain ⟨rfl, rfl⟩ := next_tell h
    exact ⟨.putting r, rfl, .endUnlock r⟩
  | putting r =>
    obtain ⟨rfl, rfl⟩ := next_tell h
    exact ⟨.idle, rfl, .put r⟩

namespace Phase

/-- The delivery holds `nss_top->lock`. -/
def inLock : Phase → Bool
  | .testing | .leaving | .loading | .marking _ | .marked _ | .refusedClear | .clearing _
  | .endUnlock _ => true
  | _ => false

/-- The delivery has found the registrant and its callback has not returned. -/
def active : Phase → Bool
  | .loading | .marking _ | .marked _ | .getting _ | .calling _ | .running _ => true
  | _ => false

/-- The delivery has set `callback_active` and not yet cleared it. -/
def flagged : Phase → Bool
  | .marked _ | .getting _ | .refused | .refusedClear | .calling _ | .running _ | .endLock _
  | .clearing _ => true
  | _ => false

def held : Phase → Option ℕ
  | .calling r | .running r | .endLock r | .clearing r | .endUnlock r | .putting r => some r.owner
  | _ => none

def uncalled : Phase → ℕ
  | .calling _ => 1
  | _ => 0

end Phase

/-- The references taken are those dropped and the one held, and each has one
    callback, started or about to start. -/
structure RefsOk (ph : Phase) (refs : Refs) : Prop where
  gets : refs.gets = refs.puts ++ ph.held.toList
  calls : refs.calls + ph.uncalled = refs.gets.length

theorem PhaseStep.refsOk {refs : Refs} (h : PhaseStep reg ph e ph') (hrefs : RefsOk ph refs) :
    RefsOk ph' (refs.step e) := by
  obtain ⟨hgets, hcalls⟩ := hrefs
  cases h with
  | got r =>
    have hgets' : refs.gets = refs.puts := hgets.trans (List.append_nil _)
    constructor
    · show refs.gets ++ [r.owner] = refs.puts ++ [r.owner]
      rw [hgets']
    · show refs.calls + 1 = (refs.gets ++ [r.owner]).length
      rw [List.length_append, ← hcalls]
      rfl
  | call r => exact ⟨hgets, hcalls⟩
  | put r =>
    constructor
    · exact hgets.trans (List.append_nil _).symm
    · exact hcalls
  | _ => exact ⟨hgets, hcalls⟩

theorem PhaseStep.active (h : PhaseStep reg ph e ph') (hactive : ph'.active = true) :
    ph.active = true ∨ e = .saw (.registered reg) true := by
  cases h with
  | found => exact .inr rfl
  | load r => exact .inl rfl
  | mark r => exact .inl rfl
  | unlock r => exact .inl rfl
  | got r => exact .inl rfl
  | call r => exact .inl rfl
  | _ => cases hactive

theorem PhaseStep.nonidle (h : PhaseStep reg ph e ph') : ph ≠ .idle := by
  cases h <;> nofun

theorem PhaseStep.flagged {me : Holder ι} {s t : Shared ι} (h : PhaseStep reg ph e ph')
    (hs : s.Step me e t) (hflag : ph.flagged = true → s.callbackActive = true)
    (hflagged : ph'.flagged = true) : t.callbackActive = true := by
  cases h with
  | mark r => exact hs ▸ rfl
  | refusedLock => exact hs.2 ▸ hflag rfl
  | endLock r => exact hs.2 ▸ hflag rfl
  | unlock r => exact hs ▸ hflag rfl
  | got r => exact hs ▸ hflag rfl
  | refuse r => exact hs ▸ hflag rfl
  | call r => exact hs ▸ hflag rfl
  | finish r => exact hs ▸ hflag rfl
  | _ => cases hflagged

/-- One event of a call and the lock: outside it, on the way in, on the way out. -/
inductive LockStep (me : Holder ι) (s t : Shared ι) (before after : Bool) : Prop where
  | keep (hin : after = before) (hlock : t.lock = s.lock)
  | take (hout : before = false) (hin : after = true) (hfree : s.lock = none)
      (hlock : t.lock = some me)
  | release (hin : before = true) (hout : after = false) (hlock : t.lock = none)

theorem PhaseStep.lockStep {me : Holder ι} {s t : Shared ι} (h : PhaseStep reg ph e ph')
    (hs : s.Step me e t) : LockStep me s t ph.inLock ph'.inLock := by
  cases h with
  | enter => exact .take rfl rfl hs.1 (hs.2 ▸ rfl)
  | refusedLock => exact .take rfl rfl hs.1 (hs.2 ▸ rfl)
  | endLock r => exact .take rfl rfl hs.1 (hs.2 ▸ rfl)
  | leave => exact .release rfl rfl (hs ▸ rfl)
  | unlock r => exact .release rfl rfl (hs ▸ rfl)
  | endUnlock r => exact .release rfl rfl (hs ▸ rfl)
  | found => exact .keep rfl (hs.2 ▸ rfl)
  | missing => exact .keep rfl (hs.2 ▸ rfl)
  | _ => exact .keep rfl (hs ▸ rfl)

theorem PhaseStep.registered {me : Holder ι} {s t : Shared ι} (h : PhaseStep reg ph e ph')
    (hs : s.Step me e t) : t.registered = s.registered := by
  cases h with
  | enter => exact hs.2 ▸ rfl
  | refusedLock => exact hs.2 ▸ rfl
  | endLock r => exact hs.2 ▸ rfl
  | found => exact hs.2 ▸ rfl
  | missing => exact hs.2 ▸ rfl
  | _ => exact hs ▸ rfl

/-- Where the unregister call stands, once it has found its registrant. -/
inductive UnregisterPhase where
  | entering
  | testing
  | waiting
  | unlockStats
  | yielding
  | lockStats
  | loading
  | writing (r : Registration)
  | unlocking (r : Registration)
  | putting (r : Registration)
  | done

namespace UnregisterPhase

def putCode (r : Registration) : ShaperCall Unit := .tell (.modulePut r.owner) (.ret ())
def unlockCode (r : Registration) : ShaperCall Unit := .tell (.spinUnlockBh .lock) (putCode r)

section Code
variable (reg : RegistrantId)

def writeCode (r : Registration) : ShaperCall Unit := .tell (.unregister reg) (unlockCode r)
def loadCode : ShaperCall Unit := .ask (.registration reg) fun r => writeCode reg r
def waitCode : ShaperCall Unit :=
  .loop (.callbackActive reg) (fun (active : Bool) => active)
    [.spinUnlockBh .statsLock, .yield, .spinLockBh .statsLock] (loadCode reg)
def lockStatsCode : ShaperCall Unit := .tell (.spinLockBh .statsLock) (waitCode reg)
def yieldCode : ShaperCall Unit := .tell .yield (lockStatsCode reg)
def unlockStatsCode : ShaperCall Unit := .tell (.spinUnlockBh .statsLock) (yieldCode reg)

/-- Only the bridge call waits. -/
def restCode : ShaperCall Unit :=
  match reg.kind with
  | .interface => loadCode reg
  | .bridge => waitCode reg

def testCode : ShaperCall Unit :=
  .ask (.registered reg) fun found =>
    if !found then .tell (.spinUnlockBh .statsLock) (restCode reg) else restCode reg

end Code

def code (reg : RegistrantId) : UnregisterPhase → ShaperCall Unit
  | .entering => .tell (.spinLockBh .lock) (testCode reg)
  | .testing => testCode reg
  | .waiting => waitCode reg
  | .unlockStats => unlockStatsCode reg
  | .yielding => yieldCode reg
  | .lockStats => lockStatsCode reg
  | .loading => loadCode reg
  | .writing r => writeCode reg r
  | .unlocking r => unlockCode r
  | .putting r => putCode r
  | .done => .ret ()

def rest (reg : RegistrantId) : UnregisterPhase :=
  match reg.kind with
  | .interface => .loading
  | .bridge => .waiting

/-- The call holds `nss_top->lock`. -/
def inLock : UnregisterPhase → Bool
  | .entering | .putting _ | .done => false
  | _ => true

def written : UnregisterPhase → Bool
  | .unlocking _ | .putting _ | .done => true
  | _ => false

def decided : UnregisterPhase → Bool
  | .loading | .writing _ => true
  | _ => false

end UnregisterPhase

inductive UnregisterStep (reg : RegistrantId) :
    UnregisterPhase → ShaperEvent → UnregisterPhase → Prop where
  | enter : UnregisterStep reg .entering (.did (.spinLockBh .lock)) .testing
  | found : UnregisterStep reg .testing (.saw (.registered reg) true) (.rest reg)
  | again : UnregisterStep reg .waiting (.saw (.callbackActive reg) true) .unlockStats
  | unlockStats : UnregisterStep reg .unlockStats (.did (.spinUnlockBh .statsLock)) .yielding
  | yield : UnregisterStep reg .yielding (.did .yield) .lockStats
  | lockStats : UnregisterStep reg .lockStats (.did (.spinLockBh .statsLock)) .waiting
  | leave : UnregisterStep reg .waiting (.saw (.callbackActive reg) false) .loading
  | load (r : Registration) :
      UnregisterStep reg .loading (.saw (.registration reg) r) (.writing r)
  | write (r : Registration) :
      UnregisterStep reg (.writing r) (.did (.unregister reg)) (.unlocking r)
  | unlock (r : Registration) :
      UnregisterStep reg (.unlocking r) (.did (.spinUnlockBh .lock)) (.putting r)
  | put (r : Registration) : UnregisterStep reg (.putting r) (.did (.modulePut r.owner)) .done

variable {u u' : UnregisterPhase}

theorem unregisterCall_eq : unregisterCall reg = UnregisterPhase.entering.code reg := by
  obtain ⟨kind, ifNum⟩ := reg
  cases kind <;> rfl

theorem rest_code : (UnregisterPhase.rest reg).code reg = UnregisterPhase.restCode reg := by
  obtain ⟨kind, ifNum⟩ := reg
  cases kind <;> rfl

theorem next_unregisterPhase (h : Next (u.code reg) e p)
    (hfound : u = .testing → ∀ found, e = .saw (.registered reg) found → found = true) :
    ∃ u', p = u'.code reg ∧ UnregisterStep reg u e u' := by
  cases u with
  | entering =>
    obtain ⟨rfl, rfl⟩ := next_tell h
    exact ⟨.testing, rfl, .enter⟩
  | testing =>
    obtain ⟨found, rfl, rfl⟩ := next_ask h
    obtain rfl : found = true := hfound rfl found rfl
    exact ⟨.rest reg, rest_code.symm, .found⟩
  | waiting =>
    obtain ⟨active, rfl, rfl⟩ := next_loop h
    cases active with
    | true => exact ⟨.unlockStats, rfl, .again⟩
    | false => exact ⟨.loading, rfl, .leave⟩
  | unlockStats =>
    obtain ⟨rfl, rfl⟩ := next_tell h
    exact ⟨.yielding, rfl, .unlockStats⟩
  | yielding =>
    obtain ⟨rfl, rfl⟩ := next_tell h
    exact ⟨.lockStats, rfl, .yield⟩
  | lockStats =>
    obtain ⟨rfl, rfl⟩ := next_tell h
    exact ⟨.waiting, rfl, .lockStats⟩
  | loading =>
    obtain ⟨r, rfl, rfl⟩ := next_ask h
    exact ⟨.writing r, rfl, .load r⟩
  | writing r =>
    obtain ⟨rfl, rfl⟩ := next_tell h
    exact ⟨.unlocking r, rfl, .write r⟩
  | unlocking r =>
    obtain ⟨rfl, rfl⟩ := next_tell h
    exact ⟨.putting r, rfl, .unlock r⟩
  | putting r =>
    obtain ⟨rfl, rfl⟩ := next_tell h
    exact ⟨.done, rfl, .put r⟩
  | done => cases h

theorem rest_inLock : (UnregisterPhase.rest reg).inLock = true := by
  obtain ⟨kind, ifNum⟩ := reg
  cases kind <;> rfl

theorem rest_written : (UnregisterPhase.rest reg).written = false := by
  obtain ⟨kind, ifNum⟩ := reg
  cases kind <;> rfl

theorem UnregisterStep.lockStep {me : Holder ι} {s t : Shared ι} (h : UnregisterStep reg u e u')
    (hs : s.Step me e t) : LockStep me s t u.inLock u'.inLock := by
  cases h with
  | enter => exact .take rfl rfl hs.1 (hs.2 ▸ rfl)
  | unlock r => exact .release rfl rfl (hs ▸ rfl)
  | found => exact .keep rest_inLock (hs.2 ▸ rfl)
  | again => exact .keep rfl (hs.2 ▸ rfl)
  | leave => exact .keep rfl (hs.2 ▸ rfl)
  | lockStats => exact .keep rfl (hs.2 ▸ rfl)
  | _ => exact .keep rfl (hs ▸ rfl)

theorem UnregisterStep.written {me : Holder ι} {s t : Shared ι} (h : UnregisterStep reg u e u')
    (hs : s.Step me e t) :
    (u'.written = u.written ∧ t.registered = s.registered) ∨
      (u.inLock = true ∧ u'.written = true ∧ t.registered = false ∧
        e = .did (.unregister reg)) := by
  cases h with
  | write r => exact .inr ⟨rfl, rfl, hs ▸ rfl, rfl⟩
  | enter => exact .inl ⟨rfl, hs.2 ▸ rfl⟩
  | found => exact .inl ⟨rest_written, hs.2 ▸ rfl⟩
  | again => exact .inl ⟨rfl, hs.2 ▸ rfl⟩
  | leave => exact .inl ⟨rfl, hs.2 ▸ rfl⟩
  | lockStats => exact .inl ⟨rfl, hs.2 ▸ rfl⟩
  | _ => exact .inl ⟨rfl, hs ▸ rfl⟩

theorem UnregisterStep.callbackActive {me : Holder ι} {s t : Shared ι}
    (h : UnregisterStep reg u e u') (hs : s.Step me e t) :
    t.callbackActive = s.callbackActive := by
  cases h with
  | enter => exact hs.2 ▸ rfl
  | found => exact hs.2 ▸ rfl
  | again => exact hs.2 ▸ rfl
  | leave => exact hs.2 ▸ rfl
  | lockStats => exact hs.2 ▸ rfl
  | _ => exact hs ▸ rfl

theorem UnregisterStep.decided {me : Holder ι} {s t : Shared ι} (h : UnregisterStep reg u e u')
    (hs : s.Step me e t) (hkind : reg.kind = .bridge) (hdecided : u'.decided = true) :
    u.decided = true ∨ (u.inLock = true ∧ s.callbackActive = false) := by
  cases h with
  | found =>
    have hrest : UnregisterPhase.rest reg = .waiting := by
      show (match reg.kind with
        | .interface => UnregisterPhase.loading
        | .bridge => UnregisterPhase.waiting) = .waiting
      rw [hkind]
    rw [hrest] at hdecided
    cases hdecided
  | leave => exact .inr ⟨rfl, hs.1.symm⟩
  | load r => exact .inl rfl
  | _ => cases hdecided

theorem decided_inLock (h : u.decided = true) : u.inLock = true := by
  cases u with
  | loading => rfl
  | writing r => rfl
  | _ => cases h

theorem code_done (h : Returned (u.code reg)) : u = .done := by
  cases u with
  | done => rfl
  | _ => cases h

/-- Every call is at one of its points, alone in the locked part, and each
    context accounts for its references. -/
structure Points (reg : RegistrantId) (s : Bounce ι) (ph : ι → Phase) (u : UnregisterPhase) :
    Prop where
  napi : ∀ i, s.napi i = (ph i).code reg
  unregister : s.unregister = u.code reg
  lock : ∀ i, (ph i).inLock = true → s.shared.lock = some (.napi i)
  unregisterLock : u.inLock = true → s.shared.lock = some .unregister
  refs : ∀ i, RefsOk (ph i) (s.refs i)
  registered : u.written = false → s.shared.registered = true

variable {s t : Bounce ι} {phs : ι → Phase} {l : Label ι}

theorem Start.points (h : Start reg s) : Points reg s (fun _ => .idle) .entering where
  napi := h.napi
  unregister := h.unregister.trans unregisterCall_eq
  lock := nofun
  unregisterLock := nofun
  refs := fun i => by
    rw [h.refs i]
    exact ⟨rfl, rfl⟩
  registered := fun _ => h.registered

theorem LockStep.lock {me : Holder ι} {s t : Shared ι} {before after : Bool}
    (h : LockStep me s t before after) (hin : before = true → s.lock = some me)
    (hafter : after = true) : t.lock = some me := by
  cases h with
  | keep hsame hlock => rw [hlock, hin (hsame ▸ hafter)]
  | take _ _ _ hlock => exact hlock
  | release _ hout _ =>
    rw [hout] at hafter
    cases hafter

theorem LockStep.other {me you : Holder ι} {s t : Shared ι} {before after : Bool}
    (h : LockStep me s t before after) (hin : before = true → s.lock = some me)
    (hne : you ≠ me) (hyou : s.lock = some you) : t.lock = some you := by
  cases h with
  | keep _ hlock => rw [hlock, hyou]
  | take _ _ hfree _ =>
    rw [hfree] at hyou
    cases hyou
  | release hbefore _ _ =>
    rw [hin hbefore] at hyou
    exact absurd (Option.some.inj hyou).symm hne

theorem Points.unregister_step {t : Shared ι} (hs : Points reg s phs u)
    (hnext : Next s.unregister e p) (hshared : s.shared.Step .unregister e t) :
    ∃ u', UnregisterStep reg u e u' ∧
      Points reg { s with shared := t, unregister := p } phs u' := by
  rw [hs.unregister] at hnext
  have hfound : u = .testing → ∀ found, e = .saw (.registered reg) found → found = true := by
    rintro rfl found rfl
    exact hshared.1.trans (hs.registered rfl)
  obtain ⟨u', rfl, hstep⟩ := next_unregisterPhase hnext hfound
  have hlock := hstep.lockStep hshared
  refine ⟨u', hstep, ?_⟩
  constructor
  · exact hs.napi
  · rfl
  · exact fun i hin => hlock.other hs.unregisterLock nofun (hs.lock i hin)
  · exact fun hin => hlock.lock hs.unregisterLock hin
  · exact hs.refs
  · intro hu
    rcases hstep.written hshared with ⟨hsame, hregistered⟩ | ⟨-, hwritten, -⟩
    · exact hregistered.trans (hs.registered (hsame ▸ hu))
    · rw [hwritten] at hu
      cases hu

theorem Points.frame {t : Shared ι} (hs : Points reg s phs u)
    (hlock : ∀ h, s.shared.lock = some h → h ≠ .other → t.lock = some h)
    (hregistered : t.registered = s.shared.registered) :
    Points reg { s with shared := t } phs u where
  napi := hs.napi
  unregister := hs.unregister
  lock := fun i hin => hlock _ (hs.lock i hin) nofun
  unregisterLock := fun hin => hlock _ (hs.unregisterLock hin) nofun
  refs := hs.refs
  registered := fun hu => hregistered.trans (hs.registered hu)

/-- The delivery has found the registrant, has left the lock, and its callback
    has not returned. -/
def InDelivery (reg : RegistrantId) (p : ShaperCall Unit) : Prop :=
  ∃ r, p = getting reg r ∨ p = calling reg r ∨ p = running reg r

/-- A delivery starts where no other is under way. -/
def Apart (s : Bounce ι) (l : Label ι) : Prop := ∀ i, l = .deliver i → ∀ j, s.napi j = .ret ()

/-- No delivery is under way where the registrant is unregistered. -/
def Good (reg : RegistrantId) (s : Bounce ι) (l : Label ι) : Prop :=
  l = .unregister (.did (.unregister reg)) → ∀ i, ¬ InDelivery reg (s.napi i)

/-- After the registrant is unregistered no delivery is active. -/
def Gone (s : Bounce ι) (phs : ι → Phase) (u : UnregisterPhase) : Prop :=
  u.written = true → s.shared.registered = false ∧ ∀ i, (phs i).active = false

theorem active_cases (h : ph.active = true) : ph.inLock = true ∨ InDelivery reg (ph.code reg) := by
  cases ph with
  | loading => exact .inl rfl
  | marking r => exact .inl rfl
  | marked r => exact .inl rfl
  | getting r => exact .inr ⟨r, .inl rfl⟩
  | calling r => exact .inr ⟨r, .inr (.inl rfl)⟩
  | running r => exact .inr ⟨r, .inr (.inr rfl)⟩
  | _ => cases h

/-- A delivery that is under way is the only one, the flag stands for it, and
    the call that goes on to write has none beside it. -/
structure Alone (s : Bounce ι) (phs : ι → Phase) (u : UnregisterPhase) : Prop where
  one : ∀ i j, phs i ≠ .idle → phs j ≠ .idle → i = j
  flag : ∀ i, (phs i).flagged = true → s.shared.callbackActive = true
  decided : u.decided = true → ∀ i, (phs i).active = false

theorem active_flagged (h : ph.active = true) : ph.inLock = true ∨ ph.flagged = true := by
  cases ph with
  | loading => exact .inl rfl
  | marking r => exact .inl rfl
  | marked r => exact .inr rfl
  | getting r => exact .inr rfl
  | calling r => exact .inr rfl
  | running r => exact .inr rfl
  | _ => cases h

theorem inDelivery_active (h : InDelivery reg (ph.code reg)) : ph.active = true := by
  obtain ⟨r, hcode | hcode | hcode⟩ := h
  all_goals
    cases ph with
    | getting r => rfl
    | calling r => rfl
    | running r => rfl
    | _ => cases hcode

theorem Points.unregister_alone {t : Shared ι} {u' : UnregisterPhase} (hs : Points reg s phs u)
    (hstep : UnregisterStep reg u e u') (hshared : s.shared.Step .unregister e t)
    (hkind : reg.kind = .bridge) (halone : Alone s phs u) :
    Alone { s with shared := t, unregister := p } phs u' := by
  constructor
  · exact halone.one
  · exact fun i hi => (hstep.callbackActive hshared).trans (halone.flag i hi)
  · intro hu i
    rcases hstep.decided hshared hkind hu with hdecided | ⟨hin, hclear⟩
    · exact halone.decided hdecided i
    · by_contra hactive
      rw [Bool.not_eq_false] at hactive
      rcases active_flagged hactive with hlocked | hflagged
      · have hheld := (hs.lock i hlocked).symm.trans (hs.unregisterLock hin)
        cases hheld
      · have hset := (halone.flag i hflagged).symm.trans hclear
        cases hset

theorem Points.good {u' : UnregisterPhase} (hs : Points reg s phs u)
    (hstep : UnregisterStep reg u e u') (halone : Alone s phs u) : Good reg s (.unregister e) := by
  intro hl i hdelivery
  obtain rfl := Label.unregister.inj hl
  cases hstep with
  | write r =>
    have hidle := halone.decided rfl i
    rw [hs.napi i] at hdelivery
    rw [inDelivery_active hdelivery] at hidle
    cases hidle

theorem Points.written_gone {t : Shared ι} {u' : UnregisterPhase} (hs : Points reg s phs u)
    (hstep : UnregisterStep reg u e u') (hshared : s.shared.Step .unregister e t)
    (hgood : Good reg s (.unregister e)) (hgone : Gone s phs u) :
    Gone { s with shared := t, unregister := p } phs u' := by
  intro hu
  rcases hstep.written hshared with ⟨hsame, hregistered⟩ | ⟨hin, -, hregistered, rfl⟩
  · obtain ⟨habsent, hidle⟩ := hgone (hsame ▸ hu)
    exact ⟨hregistered.trans habsent, hidle⟩
  · refine ⟨hregistered, fun i => ?_⟩
    by_contra hactive
    rw [Bool.not_eq_false] at hactive
    have hcases : (phs i).inLock = true ∨ InDelivery reg ((phs i).code reg) :=
      active_cases hactive
    rcases hcases with hlocked | hdelivery
    · have hheld := (hs.lock i hlocked).symm.trans (hs.unregisterLock hin)
      cases hheld
    · rw [← hs.napi i] at hdelivery
      exact hgood rfl i hdelivery

theorem code_idle (h : ph.code reg = .ret ()) : ph = .idle := by
  cases ph with
  | idle => rfl
  | _ => cases h

theorem invoking_running (h : Invoking (ph.code reg)) : ∃ r, ph = .running r := by
  obtain ⟨k, hk⟩ := h
  cases ph with
  | running r => exact ⟨r, rfl⟩
  | _ => cases hk

theorem Gone.quiet (hs : Points reg s phs u) (hgone : Gone s phs u)
    (hreturned : Returned s.unregister) (i : ι) : ¬ Invoking (s.napi i) := by
  intro hinvoking
  rw [hs.unregister] at hreturned
  obtain rfl := code_done hreturned
  rw [hs.napi i] at hinvoking
  obtain ⟨r, hr⟩ := invoking_running hinvoking
  have hidle := (hgone rfl).2 i
  rw [hr] at hidle
  cases hidle

def place (reg : RegistrantId) (shared : Shared ι) (phs : ι → Phase) (refs : ι → Refs)
    (u : UnregisterPhase) : Bounce ι where
  shared := shared
  napi := fun i => (phs i).code reg
  refs := refs
  unregister := u.code reg

def idle (reg : RegistrantId) (ι : Type) : Bounce ι :=
  place reg ⟨none, false, true, false⟩ (fun _ => .idle) (fun _ => ⟨[], [], 0⟩) .entering

variable (ι reg) in
theorem idle_start : Start reg (idle reg ι) where
  lock := rfl
  registered := rfl
  callbackActive := rfl
  napi := fun _ => rfl
  refs := fun _ => rfl
  unregister := unregisterCall_eq.symm

section Runs
variable [DecidableEq ι]

theorem Points.napi_step {i : ι} {t : Shared ι} (hs : Points reg s phs u)
    (hnext : Next (s.napi i) e p) (hshared : s.shared.Step (.napi i) e t) :
    ∃ ph, PhaseStep reg (phs i) e ph ∧
      Points reg
        { s with
          shared := t
          napi := Function.update s.napi i p
          refs := Function.update s.refs i ((s.refs i).step e) }
        (Function.update phs i ph) u := by
  rw [hs.napi i] at hnext
  obtain ⟨ph, rfl, hstep⟩ := next_phase hnext
  have hlock := hstep.lockStep hshared
  refine ⟨ph, hstep, ?_⟩
  constructor
  · intro j
    show Function.update s.napi i (ph.code reg) j = (Function.update phs i ph j).code reg
    by_cases hj : j = i
    · rw [hj, Function.update_self, Function.update_self]
    · rw [Function.update_of_ne hj, Function.update_of_ne hj, hs.napi j]
  · exact hs.unregister
  · intro j hin
    by_cases hj : j = i
    · rw [hj, Function.update_self] at hin
      rw [hj]
      exact hlock.lock (hs.lock i) hin
    · rw [Function.update_of_ne hj] at hin
      exact hlock.other (hs.lock i) (fun heq => hj (Holder.napi.inj heq)) (hs.lock j hin)
  · intro hu
    exact hlock.other (hs.lock i) nofun (hs.unregisterLock hu)
  · intro j
    show RefsOk (Function.update phs i ph j) (Function.update s.refs i ((s.refs i).step e) j)
    by_cases hj : j = i
    · rw [hj, Function.update_self, Function.update_self]
      exact hstep.refsOk (hs.refs i)
    · rw [Function.update_of_ne hj, Function.update_of_ne hj]
      exact hs.refs j
  · intro hu
    exact (hstep.registered hshared).trans (hs.registered hu)

theorem Points.deliver {i : ι} (hs : Points reg s phs u) (hidle : s.napi i = .ret ()) :
    Points reg { s with napi := Function.update s.napi i (nssCoreHandleBouncedPkt reg) }
      (Function.update phs i .entering) u := by
  have hphase : phs i = .idle := code_idle ((hs.napi i).symm.trans hidle)
  constructor
  · intro j
    show Function.update s.napi i _ j = (Function.update phs i .entering j).code reg
    by_cases hj : j = i
    · rw [hj, Function.update_self, Function.update_self, handleBouncedPkt_eq]
    · rw [Function.update_of_ne hj, Function.update_of_ne hj, hs.napi j]
  · exact hs.unregister
  · intro j hin
    by_cases hj : j = i
    · rw [hj, Function.update_self] at hin
      cases hin
    · rw [Function.update_of_ne hj] at hin
      exact hs.lock j hin
  · exact hs.unregisterLock
  · intro j
    by_cases hj : j = i
    · rw [hj, Function.update_self]
      have hrefs := hs.refs i
      rw [hphase] at hrefs
      exact ⟨hrefs.gets, hrefs.calls⟩
    · rw [Function.update_of_ne hj]
      exact hs.refs j
  · exact hs.registered

theorem Points.napi_gone {i : ι} {t : Shared ι} {r : ι → Refs}
    (hstep : PhaseStep reg (phs i) e ph) (hshared : s.shared.Step (.napi i) e t)
    (hgone : Gone s phs u) :
    Gone { s with shared := t, napi := Function.update s.napi i p, refs := r }
      (Function.update phs i ph) u := by
  intro hu
  obtain ⟨habsent, hidle⟩ := hgone hu
  refine ⟨(hstep.registered hshared).trans habsent, fun j => ?_⟩
  by_cases hj : j = i
  · rw [hj, Function.update_self]
    by_contra hactive
    rw [Bool.not_eq_false] at hactive
    rcases hstep.active hactive with hwas | rfl
    · rw [hidle i] at hwas
      cases hwas
    · have hfound := hshared.1.trans habsent
      cases hfound
  · rw [Function.update_of_ne hj]
    exact hidle j

theorem Points.napi_alone {i : ι} {t : Shared ι} {r : ι → Refs} (hs : Points reg s phs u)
    (hstep : PhaseStep reg (phs i) e ph) (hshared : s.shared.Step (.napi i) e t)
    (halone : Alone s phs u) :
    Alone { s with shared := t, napi := Function.update s.napi i p, refs := r }
      (Function.update phs i ph) u := by
  have hidle : ∀ j, j ≠ i → phs j = .idle := by
    intro j hj
    by_contra hne
    exact hj (halone.one j i hne hstep.nonidle)
  constructor
  · intro j k hj hk
    have honly : ∀ j, Function.update phs i ph j ≠ .idle → j = i := by
      intro j hj
      by_contra hne
      rw [Function.update_of_ne hne] at hj
      exact hj (hidle j hne)
    rw [honly j hj, honly k hk]
  · intro j hj
    by_cases hi : j = i
    · rw [hi, Function.update_self] at hj
      exact hstep.flagged hshared (halone.flag i) hj
    · rw [Function.update_of_ne hi, hidle j hi] at hj
      cases hj
  · intro hu j
    by_cases hi : j = i
    · rw [hi, Function.update_self]
      by_contra hactive
      rw [Bool.not_eq_false] at hactive
      rcases hstep.active hactive with hwas | rfl
      · rw [halone.decided hu i] at hwas
        cases hwas
      · have hin : (phs i).inLock = true := by
          generalize phs i = before at hstep
          cases hstep
          rfl
        have hheld := (hs.lock i hin).symm.trans (hs.unregisterLock (decided_inLock hu))
        cases hheld
    · rw [Function.update_of_ne hi, hidle j hi]
      rfl

theorem Points.deliver_alone {i : ι} {f : ι → ShaperCall Unit} (hs : Points reg s phs u)
    (hapart : Apart s (.deliver i)) :
    Alone { s with napi := f } (Function.update phs i .entering) u := by
  have hidle : ∀ j, phs j = .idle := fun j => code_idle ((hs.napi j).symm.trans (hapart i rfl j))
  have honly : ∀ j, Function.update phs i .entering j ≠ .idle → j = i := by
    intro j hj
    by_contra hne
    rw [Function.update_of_ne hne] at hj
    exact hj (hidle j)
  have hquiet : ∀ j, (Function.update phs i .entering j).flagged = false ∧
      (Function.update phs i .entering j).active = false := by
    intro j
    by_cases hj : j = i
    · rw [hj, Function.update_self]
      exact ⟨rfl, rfl⟩
    · rw [Function.update_of_ne hj, hidle j]
      exact ⟨rfl, rfl⟩
  constructor
  · intro j k hj hk
    rw [honly j hj, honly k hk]
  · intro j hj
    rw [(hquiet j).1] at hj
    cases hj
  · exact fun _ j => (hquiet j).2

/-- What a step keeps: the points, what follows a good step, and for a bridge
    what follows a delivery apart. -/
theorem Points.step (hs : Points reg s phs u) (h : Step reg s l t) :
    ∃ phs' u', Points reg t phs' u' ∧ (Good reg s l → Gone s phs u → Gone t phs' u') ∧
      (reg.kind = .bridge → Apart s l → Alone s phs u → Good reg s l ∧ Alone t phs' u') := by
  cases h with
  | deliver i hidle =>
    refine ⟨_, _, hs.deliver hidle, fun _ hgone hu => ?_, fun _ hapart _ => ?_⟩
    · obtain ⟨habsent, hall⟩ := hgone hu
      refine ⟨habsent, fun j => ?_⟩
      by_cases hj : j = i
      · rw [hj, Function.update_self]
        rfl
      · rw [Function.update_of_ne hj]
        exact hall j
    · exact ⟨nofun, hs.deliver_alone hapart⟩
  | napi i e p t hnext hshared =>
    obtain ⟨ph, hstep, hpoints⟩ := hs.napi_step hnext hshared
    refine ⟨_, _, hpoints, fun _ hgone => napi_gone hstep hshared hgone, fun _ _ halone => ?_⟩
    exact ⟨nofun, hs.napi_alone hstep hshared halone⟩
  | unregister e p t hnext hshared =>
    obtain ⟨u', hstep, hpoints⟩ := hs.unregister_step hnext hshared
    refine ⟨_, _, hpoints, fun hgood hgone => hs.written_gone hstep hshared hgood hgone, ?_⟩
    intro hkind _ halone
    exact ⟨hs.good hstep halone, hs.unregister_alone hstep hshared hkind halone⟩
  | takeLock hfree =>
    refine ⟨phs, u, hs.frame (fun h hlock => ?_) rfl, fun _ hgone => hgone, fun _ _ halone => ?_⟩
    · rw [hfree] at hlock
      cases hlock
    · exact ⟨nofun, halone.one, halone.flag, halone.decided⟩
  | dropLock hheld =>
    refine ⟨phs, u, hs.frame (fun h hlock hne => ?_) rfl, fun _ hgone => hgone,
      fun _ _ halone => ?_⟩
    · rw [hheld] at hlock
      exact absurd (Option.some.inj hlock).symm hne
    · exact ⟨nofun, halone.one, halone.flag, halone.decided⟩
  | statsLock b =>
    refine ⟨phs, u, hs.frame (fun _ hlock _ => hlock) rfl, fun _ hgone => hgone,
      fun _ _ halone => ?_⟩
    exact ⟨nofun, halone.one, halone.flag, halone.decided⟩

theorem reachable_points (h : Reachable (Start reg) (Step reg) s) :
    ∃ phs u, Points reg s phs u := by
  refine h.invariant (fun s => ∃ phs u, Points reg s phs u) ?_ ?_
  · exact fun s hs => ⟨_, _, hs.points⟩
  · intro s l t ⟨phs, u, hs⟩ hstep
    obtain ⟨phs', u', ht, -⟩ := hs.step hstep
    exact ⟨phs', u', ht⟩

theorem reachable_gone (h : Reachable (Start reg) (Guarded (Step reg) (Good reg)) s) :
    ∃ phs u, Points reg s phs u ∧ Gone s phs u := by
  refine h.invariant (fun s => ∃ phs u, Points reg s phs u ∧ Gone s phs u) ?_ ?_
  · exact fun s hs => ⟨_, _, hs.points, nofun⟩
  · intro s l t ⟨phs, u, hs, hgone⟩ ⟨hstep, hgood⟩
    obtain ⟨phs', u', ht, hnext, -⟩ := hs.step hstep
    exact ⟨phs', u', ht, hnext hgood hgone⟩

theorem reachable_apart (hkind : reg.kind = .bridge)
    (h : Reachable (Start reg) (Guarded (Step reg) Apart) s) :
    ∃ phs u, Points reg s phs u ∧ Gone s phs u ∧ Alone s phs u := by
  refine h.invariant (fun s => ∃ phs u, Points reg s phs u ∧ Gone s phs u ∧ Alone s phs u) ?_ ?_
  · intro s hs
    refine ⟨_, _, hs.points, nofun, ?_, nofun, nofun⟩
    exact fun i j hi _ => absurd rfl hi
  · intro s l t ⟨phs, u, hs, hgone, halone⟩ ⟨hstep, hapart⟩
    obtain ⟨phs', u', ht, hnext, hrest⟩ := hs.step hstep
    obtain ⟨hgood, halone'⟩ := hrest hkind hapart halone
    exact ⟨phs', u', ht, hnext hgood hgone, halone'⟩

/-- A running callback has a reference taken and not yet dropped, and a call
    that has returned has dropped each exactly once. -/
structure Accounted (p : ShaperCall Unit) (r : Refs) : Prop where
  invoking : Invoking p → ∃ owner, r.gets = r.puts ++ [owner] ∧ r.calls = r.gets.length
  returned : Returned p → r.gets = r.puts ∧ r.calls = r.gets.length

theorem RefsOk.accounted {refs : Refs} (h : RefsOk ph refs) : Accounted (ph.code reg) refs := by
  constructor
  · intro hinvoking
    obtain ⟨r, rfl⟩ := invoking_running hinvoking
    exact ⟨r.owner, h.gets, h.calls⟩
  · intro hreturned
    obtain rfl := code_idle hreturned
    exact ⟨h.gets.trans (List.append_nil _), h.calls⟩

/-- Once a registrant is unregistered while no delivery is under way, its
    callback never runs again, as with a bridge and deliveries one at a time.
    Every callback has its own module reference, and each is dropped once. -/
theorem callback_quiet (reg : RegistrantId) (s : Bounce ι) :
    (Reachable (Start reg) (Guarded (Step reg) (Good reg)) s → Returned s.unregister →
      ∀ i, ¬ Invoking (s.napi i)) ∧
    (reg.kind = .bridge → Reachable (Start reg) (Guarded (Step reg) Apart) s →
      Returned s.unregister → ∀ i, ¬ Invoking (s.napi i)) ∧
    (Reachable (Start reg) (Step reg) s → ∀ i, Accounted (s.napi i) (s.refs i)) := by
  refine ⟨?_, ?_, ?_⟩
  · intro h hreturned i
    obtain ⟨phs, u, hs, hgone⟩ := reachable_gone h
    exact hgone.quiet hs hreturned i
  · intro hkind h hreturned i
    obtain ⟨phs, u, hs, hgone, -⟩ := reachable_apart hkind h
    exact hgone.quiet hs hreturned i
  · intro h i
    obtain ⟨phs, u, hs⟩ := reachable_points h
    rw [hs.napi i]
    exact (hs.refs i).accounted

theorem PhaseStep.next (h : PhaseStep reg ph e ph') : Next (ph.code reg) e (ph'.code reg) := by
  cases h with
  | found => exact Next.ask (A := Answer) (Query.registered reg) _ true
  | missing => exact Next.ask (A := Answer) (Query.registered reg) _ false
  | load r => exact Next.ask (A := Answer) (Query.registration reg) _ r
  | got r => exact Next.ask (A := Answer) (Query.tryModuleGet r.owner) _ true
  | refuse r => exact Next.ask (A := Answer) (Query.tryModuleGet r.owner) _ false
  | _ => exact .tell _ _

theorem UnregisterStep.next (h : UnregisterStep reg u e u') :
    Next (u.code reg) e (u'.code reg) := by
  cases h with
  | found =>
    rw [rest_code]
    exact Next.ask (A := Answer) (Query.registered reg) _ true
  | load r => exact Next.ask (A := Answer) (Query.registration reg) _ r
  | again => exact Next.again (A := Answer) (Query.callbackActive reg) _ _ _ true rfl
  | leave => exact Next.leave (A := Answer) (Query.callbackActive reg) _ _ _ false rfl
  | _ => exact .tell _ _

variable {sh sh' sh'' : Shared ι} {refs : ι → Refs} {ph'' : Phase} {i : ι}

theorem place_napi (h : PhaseStep reg ph e ph') (hs : sh.Step (.napi i) e sh') :
    Step reg (place reg sh (Function.update phs i ph) refs u) (.napi i e)
      (place reg sh' (Function.update phs i ph')
        (Function.update refs i ((refs i).step e)) u) := by
  have hcode : (place reg sh' (Function.update phs i ph') refs u).napi
      = Function.update (place reg sh (Function.update phs i ph) refs u).napi i (ph'.code reg) := by
    funext j
    show (Function.update phs i ph' j).code reg
      = Function.update (fun j => (Function.update phs i ph j).code reg) i (ph'.code reg) j
    by_cases hj : j = i
    · rw [hj, Function.update_self, Function.update_self]
    · rw [Function.update_of_ne hj, Function.update_of_ne hj, Function.update_of_ne hj]
  have hnext : Next ((place reg sh (Function.update phs i ph) refs u).napi i) e (ph'.code reg) := by
    show Next ((Function.update phs i ph i).code reg) e (ph'.code reg)
    rw [Function.update_self]
    exact h.next
  have hstep : Step reg _ _ _ := Step.napi _ i e _ sh' hnext hs
  rw [← hcode] at hstep
  exact hstep

theorem place_deliver (hidle : phs i = .idle) :
    Step reg (place reg sh phs refs u) (.deliver i)
      (place reg sh (Function.update phs i .entering) refs u) := by
  have hcode : (place reg sh (Function.update phs i .entering) refs u).napi
      = Function.update (place reg sh phs refs u).napi i (nssCoreHandleBouncedPkt reg) := by
    funext j
    show (Function.update phs i .entering j).code reg
      = Function.update (fun j => (phs j).code reg) i (nssCoreHandleBouncedPkt reg) j
    by_cases hj : j = i
    · rw [hj, Function.update_self, Function.update_self, handleBouncedPkt_eq]
    · rw [Function.update_of_ne hj, Function.update_of_ne hj]
  have hstep : Step reg _ _ _ :=
    Step.deliver (place reg sh phs refs u) i (congrArg (Phase.code reg) hidle)
  rw [← hcode] at hstep
  exact hstep

variable {ok : Bounce ι → Label ι → Prop} {es : List ShaperEvent}

/-- One context goes from a point to another while the rest stands still. -/
def Moves (reg : RegistrantId) (ok : Bounce ι → Label ι → Prop) (i : ι) (es : List ShaperEvent)
    (sh : Shared ι) (ph : Phase) (sh' : Shared ι) (ph' : Phase) : Prop :=
  ∀ phs refs u, ∃ ls, Run (Guarded (Step reg) ok)
    (place reg sh (Function.update phs i ph) refs u) ls
    (place reg sh' (Function.update phs i ph')
      (Function.update refs i (es.foldl Refs.step (refs i))) u)

theorem Moves.start (sh : Shared ι) (ph : Phase) : Moves reg ok i [] sh ph sh ph := by
  intro phs refs u
  rw [List.foldl_nil, Function.update_eq_self]
  exact ⟨[], .refl _⟩

theorem Moves.next (h : Moves reg ok i es sh ph sh' ph') (hok : ∀ s e, ok s (.napi i e))
    (hstep : PhaseStep reg ph' e ph'') (hs : sh'.Step (.napi i) e sh'') :
    Moves reg ok i (es ++ [e]) sh ph sh'' ph'' := by
  intro phs refs u
  obtain ⟨ls, hrun⟩ := h phs refs u
  refine ⟨_, hrun.snoc ⟨?_, hok _ e⟩⟩
  have hlast : Step reg (place reg sh' (Function.update phs i ph')
      (Function.update refs i (es.foldl Refs.step (refs i))) u) (.napi i e) _ :=
    place_napi hstep hs
  rw [Function.update_self, Function.update_idem] at hlast
  rw [List.foldl_append]
  exact hlast

def upToCallback (reg : RegistrantId) (r : Registration) : List ShaperEvent :=
  [.did (.spinLockBh .lock), .saw (.registered reg) true, .saw (.registration reg) r,
    .did (.setCallbackActive reg true), .did (.spinUnlockBh .lock),
    .saw (.tryModuleGet r.owner) true, .did (.callbackStart r.bouncedCallback r.appData)]

def afterCallback (reg : RegistrantId) (r : Registration) : List ShaperEvent :=
  [.did .callbackEnd, .did (.spinLockBh .lock), .did (.setCallbackActive reg false),
    .did (.spinUnlockBh .lock), .did (.modulePut r.owner)]

theorem moves_running (hok : ∀ s e, ok s (.napi i e)) (r : Registration)
    (statsLock callbackActive : Bool) :
    Moves reg ok i (upToCallback reg r) ⟨none, statsLock, true, callbackActive⟩ .entering
      ⟨none, statsLock, true, true⟩ (.running r) := by
  have hstart : Moves reg ok i [] ⟨none, statsLock, true, callbackActive⟩ .entering _ .entering :=
    .start _ _
  have hfound := (hstart.next hok .enter ⟨rfl, rfl⟩).next hok .found ⟨rfl, rfl⟩
  have hmarked := (hfound.next hok (.load r) rfl).next hok (.mark r) rfl
  have hgot := (hmarked.next hok (.unlock r) rfl).next hok (.got r) rfl
  exact hgot.next hok (.call r) rfl

theorem moves_idle (hok : ∀ s e, ok s (.napi i e)) (r : Registration)
    (statsLock registered callbackActive : Bool) :
    Moves reg ok i (afterCallback reg r) ⟨none, statsLock, registered, callbackActive⟩ (.running r)
      ⟨none, statsLock, registered, false⟩ .idle := by
  have hstart : Moves reg ok i [] ⟨none, statsLock, registered, callbackActive⟩ (.running r) _
      (.running r) := .start _ _
  have hlock := (hstart.next hok (.finish r) rfl).next hok (.endLock r) ⟨rfl, rfl⟩
  have hclear := hlock.next hok (.clear r) rfl
  exact (hclear.next hok (.endUnlock r) rfl).next hok (.put r) rfl

theorem place_unregister (h : UnregisterStep reg u e u') (hs : sh.Step .unregister e sh') :
    Step reg (place reg sh phs refs u) (.unregister e) (place reg sh' phs refs u') :=
  .unregister _ e _ _ h.next hs

variable (phs refs) in
/-- The unregister call can return at once, for a bridge while the flag is clear. -/
theorem unregister_run (ok : Bounce ι → Label ι → Prop) (r : Registration)
    (statsLock callbackActive : Bool) (hflag : reg.kind = .bridge → callbackActive = false)
    (hok : ∀ sh u e, ok (place reg sh phs refs u) (.unregister e)) :
    ∃ ls, Run (Guarded (Step reg) ok)
      (place reg ⟨none, statsLock, true, callbackActive⟩ phs refs .entering) ls
      (place reg ⟨none, statsLock, false, callbackActive⟩ phs refs .done) := by
  have hnext : ∀ {u u' e sh sh'}, UnregisterStep reg u e u' → sh.Step .unregister e sh' →
      Guarded (Step reg) ok (place reg sh phs refs u) (.unregister e)
        (place reg sh' phs refs u') :=
    fun h hs => ⟨place_unregister h hs, hok _ _ _⟩
  have hload : ∃ ls, Run (Guarded (Step reg) ok)
      (place reg ⟨some .unregister, statsLock, true, callbackActive⟩ phs refs (.rest reg)) ls
      (place reg ⟨some .unregister, statsLock, true, callbackActive⟩ phs refs .loading) := by
    obtain ⟨kind, ifNum⟩ := reg
    cases kind with
    | interface => exact ⟨[], .refl _⟩
    | bridge => exact ⟨_, .single (hnext .leave ⟨(hflag rfl).symm, rfl⟩)⟩
  obtain ⟨ls, hload⟩ := hload
  have henter : Run (Guarded (Step reg) ok)
      (place reg ⟨none, statsLock, true, callbackActive⟩ phs refs .entering) _
      (place reg ⟨some .unregister, statsLock, true, callbackActive⟩ phs refs .testing) :=
    .single (hnext .enter ⟨rfl, rfl⟩)
  have hloaded := ((henter.snoc (hnext .found ⟨rfl, rfl⟩)).trans hload).snoc (hnext (.load r) rfl)
  have hwritten := hloaded.snoc (hnext (.write r) rfl)
  exact ⟨_, (hwritten.snoc (hnext (.unlock r) rfl)).snoc (hnext (.put r) rfl)⟩

theorem Moves.reachable (h : Moves reg (fun _ _ => True) i es sh ph sh' ph') (hph : phs i = ph)
    (hs : ∃ refs, Reachable (Start reg) (Step reg) (place reg sh phs refs u)) :
    ∃ refs, Reachable (Start reg) (Step reg)
      (place reg sh' (Function.update phs i ph') refs u) := by
  obtain ⟨refs, hs⟩ := hs
  obtain ⟨ls, hrun⟩ := h phs refs u
  rw [← hph, Function.update_eq_self] at hrun
  exact ⟨_, hs.run (hrun.mono fun _ _ _ h => h.1)⟩

theorem reachable_running (r : Registration) (callbackActive : Bool) (hph : phs i = .idle)
    (hs : ∃ refs, Reachable (Start reg) (Step reg)
      (place reg ⟨none, false, true, callbackActive⟩ phs refs u)) :
    ∃ refs, Reachable (Start reg) (Step reg)
      (place reg ⟨none, false, true, true⟩ (Function.update phs i (.running r)) refs u) := by
  obtain ⟨refs, hs⟩ := hs
  have hentering : ∃ refs, Reachable (Start reg) (Step reg)
      (place reg ⟨none, false, true, callbackActive⟩ (Function.update phs i .entering) refs u) :=
    ⟨refs, hs.next (place_deliver hph)⟩
  have hrun := (moves_running (fun _ _ => trivial) r false callbackActive).reachable
    (Function.update_self i .entering phs) hentering
  rw [Function.update_idem] at hrun
  exact hrun

theorem idle_reachable (reg : RegistrantId) : ∃ refs, Reachable (Start reg) (Step reg)
    (place reg ⟨none, false, true, false⟩ (fun _ : ι => .idle) refs .entering) :=
  ⟨_, .start (idle_start ι reg)⟩

theorem outlived (r : Registration) (callbackActive : Bool)
    (hflag : reg.kind = .bridge → callbackActive = false) (hph : phs i = .running r)
    (hs : ∃ refs, Reachable (Start reg) (Step reg)
      (place reg ⟨none, false, true, callbackActive⟩ phs refs .entering)) :
    ∃ s, Reachable (Start reg) (Step reg) s ∧ Returned s.unregister ∧ Invoking (s.napi i) := by
  obtain ⟨refs, hs⟩ := hs
  obtain ⟨ls, hrun⟩ := unregister_run phs refs (fun _ _ => True) r false callbackActive
    hflag fun _ _ _ => trivial
  refine ⟨_, hs.run (hrun.mono fun _ _ _ h => h.1), rfl, ?_⟩
  exact ⟨endLock reg r, congrArg (Phase.code reg) hph⟩

theorem interface_outlived (r : Registration) (i : ι) :
    ∃ s : Bounce ι, Reachable (Start ⟨.interface, 0⟩) (Step ⟨.interface, 0⟩) s ∧
      Returned s.unregister ∧ Invoking (s.napi i) := by
  have hrunning := reachable_running (i := i) r false rfl (idle_reachable ⟨.interface, 0⟩)
  exact outlived r true nofun (Function.update_self i _ _) hrunning

theorem bridge_outlived (r : Registration) (i j : ι) (hij : i ≠ j) :
    ∃ s : Bounce ι, Reachable (Start ⟨.bridge, 0⟩) (Step ⟨.bridge, 0⟩) s ∧
      Returned s.unregister ∧ Invoking (s.napi i) := by
  have hfirst := reachable_running (i := i) r false rfl (idle_reachable ⟨.bridge, 0⟩)
  have hboth := reachable_running (i := j) r true (Function.update_of_ne hij.symm _ _) hfirst
  have hone := (moves_idle (fun _ _ => trivial) r false true true).reachable
    (Function.update_self j _ _) hboth
  rw [Function.update_idem] at hone
  refine outlived r false (fun _ => rfl) ?_ hone
  rw [Function.update_of_ne hij, Function.update_self]

end Runs

section Delivered
variable {ι : Type} [DecidableEq ι] {ok : Bounce ι → Label ι → Prop}

theorem delivered_run (reg : RegistrantId) (refs : ι → Refs) (u : UnregisterPhase) (i : ι)
    (r : Registration)
    (hdeliver : ∀ s : Bounce ι, (∀ j, s.napi j = .ret ()) → ok s (.deliver i))
    (hnapi : ∀ s e, ok s (.napi i e)) :
    ∃ ls, Run (Guarded (Step reg) ok)
      (place reg ⟨none, false, true, false⟩ (fun _ => .idle) refs u) ls
      (place reg ⟨none, false, true, false⟩ (fun _ => .idle)
        (Function.update refs i
          ((upToCallback reg r ++ afterCallback reg r).foldl Refs.step (refs i))) u) := by
  have hidle : Function.update (fun _ : ι => Phase.idle) i .idle = fun _ => .idle :=
    Function.update_eq_self i fun _ => Phase.idle
  obtain ⟨ls, hcalled⟩ := moves_running hnapi r false false (fun _ => .idle) refs u
  obtain ⟨ls', hended⟩ := moves_idle hnapi r false true true (fun _ => .idle)
    (Function.update refs i ((upToCallback reg r).foldl Refs.step (refs i))) u
  rw [hidle, Function.update_self, Function.update_idem, ← List.foldl_append] at hended
  have hcall : Run (Guarded (Step reg) ok)
      (place reg ⟨none, false, true, false⟩ (fun _ => .idle) refs u) [.deliver i] _ :=
    .single ⟨place_deliver rfl, hdeliver _ fun _ => rfl⟩
  exact ⟨_, (hcall.trans hcalled).trans hended⟩

/-- Two contexts deliver a packet each, one after the other, and then the call is made. -/
theorem delivered_reachable (r : Registration) {ok : Bounce Bool → Label Bool → Prop}
    (hdeliver : ∀ (s : Bounce Bool) i, (∀ j, s.napi j = .ret ()) → ok s (.deliver i))
    (hnapi : ∀ s i e, ok s (.napi i e))
    (hunregister : ∀ sh refs u e, ok (place ⟨.bridge, 0⟩ sh (fun _ => .idle) refs u)
      (.unregister e)) :
    Reachable (Start ⟨.bridge, 0⟩) (Guarded (Step ⟨.bridge, 0⟩) ok)
      (place ⟨.bridge, 0⟩ ⟨none, false, false, false⟩ (fun _ => .idle)
        (fun _ => ⟨[r.owner], [r.owner], 1⟩) .done) := by
  obtain ⟨ls₁, hfirst⟩ := delivered_run ⟨.bridge, 0⟩ (fun _ : Bool => ⟨[], [], 0⟩) .entering
    true r (fun s => hdeliver s true) fun s => hnapi s true
  obtain ⟨ls₂, hsecond⟩ := delivered_run ⟨.bridge, 0⟩
    (Function.update (fun _ : Bool => ⟨[], [], 0⟩) true ⟨[r.owner], [r.owner], 1⟩) .entering
    false r (fun s => hdeliver s false) fun s => hnapi s false
  have hrefs : Function.update
      (Function.update (fun _ : Bool => (⟨[], [], 0⟩ : Refs)) true ⟨[r.owner], [r.owner], 1⟩) false
      ⟨[r.owner], [r.owner], 1⟩ = fun _ => ⟨[r.owner], [r.owner], 1⟩ := by
    funext i
    cases i <;> rfl
  obtain ⟨ls₃, hlast⟩ := unregister_run (fun _ : Bool => .idle)
    (fun _ => ⟨[r.owner], [r.owner], 1⟩) ok r false false (fun _ => rfl)
    fun sh u e => hunregister sh _ u e
  rw [← hrefs] at hlast ⊢
  exact ⟨_, _, idle_start Bool ⟨.bridge, 0⟩, (hfirst.trans hsecond).trans hlast⟩

end Delivered

/-- The call after two packets have gone through the callback. -/
theorem callback_quiet_delivered :
    let s : Bounce Bool := place ⟨.bridge, 0⟩ ⟨none, false, false, false⟩ (fun _ => .idle)
      (fun _ => ⟨[7], [7], 1⟩) .done
    Returned s.unregister ∧ (∀ i, (s.refs i).calls = 1) ∧
    (∀ i, ¬ Invoking (s.napi i)) ∧ (∀ i, ¬ Invoking (s.napi i)) ∧
      ∀ i, Accounted (s.napi i) (s.refs i) := by
  intro s
  have hnone : ¬ InDelivery ⟨.bridge, 0⟩ (Phase.idle.code ⟨.bridge, 0⟩) := by
    intro hdelivery
    cases inDelivery_active hdelivery
  have hgood : Reachable (Start ⟨.bridge, 0⟩)
      (Guarded (Step ⟨.bridge, 0⟩) (Good ⟨.bridge, 0⟩)) s :=
    delivered_reachable ⟨3, 5, 7⟩ (fun _ _ _ => nofun) (fun _ _ _ => nofun)
      fun _ _ _ _ _ _ => hnone
  have hapart : Reachable (Start ⟨.bridge, 0⟩) (Guarded (Step ⟨.bridge, 0⟩) Apart) s :=
    delivered_reachable ⟨3, 5, 7⟩ (fun _ _ hidle _ _ => hidle) (fun _ _ _ => nofun)
      fun _ _ _ _ => nofun
  obtain ⟨hquiet, hbridge, hrefs⟩ := callback_quiet ⟨.bridge, 0⟩ s
  exact ⟨rfl, fun _ => rfl, hquiet hgood rfl, hbridge rfl hapart rfl, hrefs hgood.unguarded⟩

/-- The interface call does not wait for the callback, and the bridge call
    misses the second of two. -/
theorem callback_outlives :
    (¬ ∀ s : Bounce Unit, Reachable (Start ⟨.interface, 0⟩) (Step ⟨.interface, 0⟩) s →
      Returned s.unregister → ∀ i, ¬ Invoking (s.napi i)) ∧
    ¬ ∀ s : Bounce Bool, Reachable (Start ⟨.bridge, 0⟩) (Step ⟨.bridge, 0⟩) s →
      Returned s.unregister → ∀ i, ¬ Invoking (s.napi i) := by
  constructor
  · intro h
    obtain ⟨s, hs, hreturned, hinvoking⟩ := interface_outlived ⟨0, 0, 0⟩ ()
    exact h s hs hreturned () hinvoking
  · intro h
    obtain ⟨s, hs, hreturned, hinvoking⟩ := bridge_outlived ⟨0, 0, 0⟩ true false nofun
    exact h s hs hreturned true hinvoking

end NssDrv.BounceCallback

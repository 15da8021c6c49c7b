import NssDrv.SessionRegistration

set_option autoImplicit false

/-!
# Runs of sessions

Registrations, unregistrations and received messages of all families, one after
the other, with what was given at the registrations that are not undone.
-/
namespace NssDrv.SessionRuns
open CallTree ThreadRuns TransitionRuns HlosInterface InterfaceTables CapwapTunnel
open CapwapRegistration SessionRegistration SlotTables
open DynamicInterface (nssIsDynamicInterface)

structure Session where
  family : Family
  msgCallback : ℕ
  ctx : ℕ

/-- The sessions that are registered, and what the messages reported for an
    interface since it was registered last. -/
structure Sessions where
  top : NssTop
  given : ℕ → Option Session
  dtlsReports : ℕ → List (DtlsStat → U32)
  pptpReports : ℕ → List (PptpStat → U32)

inductive SessionCall where
  | capwap (l : Performed)
  | register (f : Family) (r : IfParams) (found : Bool)
  | unregister (f : Family) (ifNum : ℕ)
  | receive (ncm : RxMsg)

/-- The context that a family hands to the message callback. -/
def Family.context : Family → IfParams → ℕ
  | .dtls, r | .pptp, r => r.appCtx
  | _, r => r.netdev.ptr

def RxMsg.arrives (ncm : RxMsg) : Prop :=
  ncm.version = NSS_HLOS_MESSAGE_VERSION ∧ ncm.len ≤ ncm.bufLen ∧ ncm.fits = true

instance (ncm : RxMsg) : Decidable (RxMsg.arrives ncm) :=
  inferInstanceAs (Decidable (_ ∧ _ ∧ _))

namespace Sessions

def registered (w : Sessions) (f : Family) (n : ℕ) : Prop :=
  ∃ g, w.given n = some g ∧ g.family = f

def registerCapwap (w : Sessions) (n cb appData : ℕ) : ℕ → Option Session :=
  Function.update w.given n (some ⟨.capwap, cb, appData⟩)

def undo (w : Sessions) (f : Family) (n : ℕ) : ℕ → Option Session :=
  if (w.given n).map Session.family = some f then Function.update w.given n none else w.given

/-- A tunnel that only has a data callback has no message callback. -/
def afterCapwap (w : Sessions) (l : Performed) : ℕ → Option Session :=
  match l.call, l.result with
  | .notifyRegister n cb appData, some (.ctx true) => w.registerCapwap n cb appData
  | .notifyUnregister _ n, some (.status .success) => w.undo .capwap n
  | .dataRegister n _ _ _, some (.ctx true) =>
    if (w.given n).map Session.family = some .capwap then w.given else w.registerCapwap n 0 0
  | .dataUnregister n, some (.done true) => w.undo .capwap n
  | _, _ => w.given

/-- A failed registration was given nothing. -/
def afterRegister (w : Sessions) (f : Family) (r : IfParams) (found : Bool) (t : NssTop) :
    Sessions :=
  if found = false then { w with top := t }
  else
    { top := t
      given := Function.update w.given r.ifNum (some ⟨f, r.msgCallback, Family.context f r⟩)
      dtlsReports :=
        if f = .dtls then Function.update w.dtlsReports r.ifNum [] else w.dtlsReports
      pptpReports :=
        if f = .pptp then Function.update w.pptpReports r.ifNum [] else w.pptpReports }

def afterReceive (w : Sessions) (ncm : RxMsg) (t : NssTop) : Sessions :=
  let n := ncm.interface
  { top := t
    given := w.given
    dtlsReports :=
      if RxMsg.arrives ncm ∧ ncm.type = NSS_DTLS_MSG_SESSION_STATS then
        Function.update w.dtlsReports n (w.dtlsReports n ++ [ncm.dtlsStats])
      else w.dtlsReports
    pptpReports :=
      if RxMsg.arrives ncm ∧ ncm.type = NSS_PPTP_MSG_SYNC_STATS then
        Function.update w.pptpReports n (w.pptpReports n ++ [ncm.pptpStats])
      else w.pptpReports }

end Sessions

inductive SessionStep : Sessions → SessionCall → Sessions → Prop where
  | capwap (w : Sessions) (l : Performed) (t : Capwap Unit)
      (hstep : RegistrationStep w.top.toCapwap l t) :
      SessionStep w (.capwap l)
        { w with top := { w.top with toCapwap := t }, given := w.afterCapwap l }
  | register (w : Sessions) (f : Family) (r : IfParams) (found : Bool) (t : NssTop)
      (env : SessionEnv) (h : f.register env r w.top = some (found, t)) :
      SessionStep w (.register f r found) (w.afterRegister f r found t)
  | unregister (w : Sessions) (f : Family) (n : ℕ) (t : NssTop) (env : SessionEnv)
      (h : f.unregister env n w.top = some t) :
      SessionStep w (.unregister f n) { w with top := t, given := w.undo f n }
  | receive (w : Sessions) (ncm : RxMsg) (t : NssTop) (invoked : Invoked) (env : SessionEnv)
      (h : nssCoreHandleNssStatusPkt env ncm w.top = some (t, invoked)) :
      SessionStep w (.receive ncm) (w.afterReceive ncm t)

structure SessionStart (w : Sessions) : Prop where
  lock : w.top.lock = none
  hdl : ∀ n, w.top.hdl n = none
  handlers : ∀ n : ℕ, nssIsDynamicInterface n = true → (w.top.handlers n).cb = 0
  given : ∀ n, w.given n = none
  dtls : w.top.dtlsSessionDebugStats =
    List.replicate NSS_MAX_DTLS_SESSIONS (StatsSlot.empty DtlsStat)
  pptp : w.top.pptpSessionDebugStats =
    List.replicate NSS_MAX_PPTP_DYNAMIC_INTERFACES (StatsSlot.empty PptpStat)

/-! ## What a registration writes -/

inductive Store where
  | handle
  | slot (slot : MsgSlot)
  | interface

def Family.store : Family → Store
  | .capwap => .handle
  | .dtls => .slot .dtlsMsgCallback
  | .pptp => .slot .pptpMsgCallback
  | .l2tpv2 => .slot .l2tpv2MsgCallback
  | .mapT => .slot .mapTMsgCallback
  | .tun6rd => .slot .tun6rdMsgCallback
  | .greRedir => .interface
  | .wifiVdev => .interface

def Store.slots (store : Store) (cb : ℕ) (s : NssTop) : MsgSlot → ℕ :=
  match store with
  | .slot k => Function.update s.msgCallback k cb
  | _ => s.msgCallback

def Store.table (store : Store) (n cb : ℕ) (s : NssTop) : ℕ → ℕ :=
  match store with
  | .interface => Function.update s.ifRxMsgCallback n cb
  | _ => s.ifRxMsgCallback

structure Same (s t : NssTop) : Prop where
  capwap : t.toCapwap = s.toCapwap
  slots : t.msgCallback = s.msgCallback
  table : t.ifRxMsgCallback = s.ifRxMsgCallback

structure Tunnels (s t : NssTop) : Prop where
  hdl : t.hdl = s.hdl
  heap : t.heap = s.heap
  lock : t.lock = s.lock

structure Opened (f : Family) (r : IfParams) (s t : NssTop) : Prop extends Tunnels s t where
  handlers : ∃ appData,
    t.handlers = (nssCoreRegisterHandler r.ifNum f.handler appData s.handlers).2
  dp : ∃ appData,
    t.dp = Function.update s.dp r.ifNum ⟨r.netdev.ptr, r.dataCallback, appData, r.features⟩ ∧
      (f = .dtls ∨ f = .pptp ∨ f = .mapT → appData = Family.context f r)
  slots : t.msgCallback = (Family.store f).slots r.msgCallback s
  table : t.ifRxMsgCallback = (Family.store f).table r.ifNum r.msgCallback s

structure Closed (f : Family) (n : ℕ) (s t : NssTop) : Prop extends Tunnels s t where
  handlers : t.handlers = (nssCoreUnregisterHandler n s.handlers).2
  dp : t.dp = Function.update s.dp n ⟨0, 0, 0, 0⟩
  slots : t.msgCallback = (Family.store f).slots 0 s
  table : t.ifRxMsgCallback = (Family.store f).table n 0 s

def Opens (f : Family) (n : ℕ) (s : NssTop) : Prop :=
  match f with
  | .dtls => (∃ x ∈ s.dtlsSessionDebugStats, x.valid = false) ∧ (s.dp n).ndev = 0
  | .greRedir => (s.handlers n).cb = 0
  | _ => True

def Closes (f : Family) (n : ℕ) (s : NssTop) : Prop :=
  match f with
  | .dtls => (∃ x ∈ s.dtlsSessionDebugStats, x.ifNum = n) ∧ (s.dp n).ndev ≠ 0
  | _ => True

variable {f : Family} {env : SessionEnv} {r : IfParams} {n m : ℕ} {s t : NssTop} {found : Bool}

theorem handler_injective {f g : Family} (h : f.handler = g.handler) : f = g := by
  cases f <;> cases g <;> first | rfl | cases h

theorem handler_pos (f : Family) : f.handler ≠ 0 := by
  cases f <;> exact nofun

theorem ofHandler_handler (f : Family) : Family.ofHandler f.handler = some f := by
  cases f <;> rfl

theorem handler_ofHandler {k : ℕ} (h : Family.ofHandler k = some f) : k = f.handler := by
  unfold Family.ofHandler at h
  split at h <;> cases h <;> rfl

theorem claimSlot_free {κ : Type} {ifIndex : ℕ} {slots slots' : List (StatsSlot κ)}
    (h : claimSlot n ifIndex slots = some slots') : ∃ x ∈ slots, x.valid = false := by
  obtain ⟨front, x, back, rfl, -, hx, -⟩ := updateFirst_split h
  rw [Bool.not_eq_true'] at hx
  exact ⟨x, List.mem_append_right _ List.mem_cons_self, hx⟩

theorem clearSlot_found {κ : Type} {slots slots' : List (StatsSlot κ)}
    (h : clearSlot n slots = some slots') : ∃ x ∈ slots, x.ifNum = n := by
  obtain ⟨front, x, back, rfl, -, hx, -⟩ := updateFirst_split h
  exact ⟨x, List.mem_append_right _ List.mem_cons_self, beq_iff_eq.mp hx⟩

theorem register_cases (h : f.register env r s = some (found, t)) :
    (found = false ∧ Same s t) ∨
      (found = true ∧ f ≠ .capwap ∧ Opens f r.ifNum s ∧ Opened f r s t) := by
  cases f with
  | capwap => cases h
  | dtls =>
    have h : nssDtlsRegisterIf env r s = some (found, t) := h
    unfold nssDtlsRegisterIf at h
    split at h
    · cases h
    split at h
    · obtain ⟨rfl, rfl⟩ := Prod.mk.inj (Option.some.inj h)
      exact .inl ⟨rfl, rfl, rfl, rfl⟩
    rename_i slots hclaim
    dsimp only at h
    split at h
    · obtain ⟨rfl, rfl⟩ := Prod.mk.inj (Option.some.inj h)
      exact .inl ⟨rfl, rfl, rfl, rfl⟩
    · rename_i hndev
      obtain ⟨rfl, rfl⟩ := Prod.mk.inj (Option.some.inj h)
      refine .inr ⟨rfl, nofun, ⟨claimSlot_free hclaim, not_not.mp hndev⟩, ?_⟩
      exact ⟨⟨rfl, rfl, rfl⟩, ⟨_, rfl⟩, ⟨_, rfl, fun _ => rfl⟩, rfl, rfl⟩
  | greRedir =>
    have h : nssGreRedirRegisterIf r s = some (found, t) := h
    unfold nssGreRedirRegisterIf at h
    dsimp only at h
    split at h
    · obtain ⟨rfl, rfl⟩ := Prod.mk.inj (Option.some.inj h)
      exact .inl ⟨rfl, rfl, rfl, rfl⟩
    · rename_i hstatus
      obtain ⟨rfl, rfl⟩ := Prod.mk.inj (Option.some.inj h)
      refine .inr ⟨rfl, nofun, (registerHandler_success (not_not.mp hstatus)).1, ?_⟩
      exact ⟨⟨rfl, rfl, rfl⟩, ⟨_, rfl⟩, ⟨_, rfl, by simp⟩, rfl, rfl⟩
  | pptp | mapT =>
    obtain ⟨rfl, rfl⟩ := Prod.mk.inj (Option.some.inj h)
    refine .inr ⟨rfl, nofun, trivial, ?_⟩
    exact ⟨⟨rfl, rfl, rfl⟩, ⟨_, rfl⟩, ⟨_, rfl, fun _ => rfl⟩, rfl, rfl⟩
  | l2tpv2 | tun6rd | wifiVdev =>
    obtain ⟨rfl, rfl⟩ := Prod.mk.inj (Option.some.inj h)
    refine .inr ⟨rfl, nofun, trivial, ?_⟩
    exact ⟨⟨rfl, rfl, rfl⟩, ⟨_, rfl⟩, ⟨_, rfl, by simp⟩, rfl, rfl⟩

theorem unregister_cases (h : f.unregister env n s = some t) :
    Same s t ∨ (f ≠ .capwap ∧ Closes f n s ∧ Closed f n s t) := by
  cases f with
  | capwap => cases h
  | dtls =>
    have h : nssDtlsUnregisterIf env n s = some t := h
    unfold nssDtlsUnregisterIf at h
    split at h
    · cases h
    split at h
    · obtain rfl := Option.some.inj h
      exact .inl ⟨rfl, rfl, rfl⟩
    rename_i slots hclear
    dsimp only at h
    split at h
    · obtain rfl := Option.some.inj h
      exact .inl ⟨rfl, rfl, rfl⟩
    · rename_i hndev
      obtain rfl := Option.some.inj h
      refine .inr ⟨nofun, ⟨clearSlot_found hclear, hndev⟩, ?_⟩
      exact ⟨⟨rfl, rfl, rfl⟩, rfl, rfl, rfl, rfl⟩
  | greRedir =>
    have h : nssGreRedirUnregisterIf n s = some t := h
    unfold nssGreRedirUnregisterIf at h
    dsimp only at h
    split at h
    · obtain rfl := Option.some.inj h
      exact .inl ⟨rfl, rfl, rfl⟩
    · obtain rfl := Option.some.inj h
      exact .inr ⟨nofun, trivial, ⟨rfl, rfl, rfl⟩, rfl, rfl, rfl, rfl⟩
  | pptp | l2tpv2 | mapT | tun6rd | wifiVdev =>
    obtain rfl := Option.some.inj h
    exact .inr ⟨nofun, trivial, ⟨rfl, rfl, rfl⟩, rfl, rfl, rfl, rfl⟩

/-! ## Numbers and their families -/

/-- The handles of the tunnels in use, and no one sets a callback. -/
def Uncalled (x : CapwapHandle) : Prop := x.refcnt = 0 ∧ x.msgCallback = 0

structure Tunnelled (s : Capwap Unit) : Prop extends Handles Uncalled s where
  paired : ∀ n : ℕ, nssIsDynamicInterface n = true → s.hdl (hdlIndex n) ≠ none →
    (s.handlers n).cb = Family.capwap.handler

def Free (f : Family) (n : ℕ) (s : Capwap Unit) : Prop :=
  (s.handlers n).cb = 0 ∨ (s.handlers n).cb = f.handler

/-- The change of a call about `n`. -/
structure TunnelStep (n : ℕ) (s t : Capwap Unit) : Prop where
  others : ∀ m, m ≠ n → t.handlers m = s.handlers m ∧ t.dp m = s.dp m
  self : (t.handlers n = s.handlers n ∧ t.dp n = s.dp n) ∨
    (Free .capwap n s ∧ Free .capwap n t)

def Performed.ifNum (l : Performed) : ℕ :=
  match l.call with
  | .notifyRegister n _ _ => n
  | .notifyUnregister _ n => n
  | .dataRegister n _ _ _ => n
  | .dataUnregister n => n

section Tunnels
variable {s t : Capwap Unit}

theorem TunnelStep.same (hhandlers : t.handlers = s.handlers) (hdp : t.dp = s.dp) :
    TunnelStep n s t := by
  constructor
  · intro m _
    rw [hhandlers, hdp]
    exact ⟨rfl, rfl⟩
  · rw [hhandlers, hdp]
    exact .inl ⟨rfl, rfl⟩

theorem handler_updated {handlers : RxHandlers} {x : RxHandler} :
    (Function.update handlers n x n).cb = x.cb := by
  rw [Function.update_self]

theorem Tunnelled.empty (hs : Tunnelled s) (hn : nssIsDynamicInterface n = true)
    (hcb : (s.handlers n).cb = 0) : s.hdl (hdlIndex n) = none := by
  by_contra hne
  exact handler_pos .capwap ((hs.paired n hn hne).symm.trans hcb)

theorem Tunnelled.noMemory (hs : Tunnelled s) (hcb : (s.handlers n).cb = 0) :
    Tunnelled { s with handlers := Function.update s.handlers n ⟨nssCapwapMsgHandler, 0⟩ } ∧
      TunnelStep n s
        { s with handlers := Function.update s.handlers n ⟨nssCapwapMsgHandler, 0⟩ } := by
  refine ⟨⟨⟨hs.live, hs.once⟩, fun m hm hne => ?_⟩, fun m hm => ?_, .inr ⟨.inl hcb, .inr ?_⟩⟩
  · by_cases hmn : m = n
    · subst hmn
      exact handler_updated
    · exact (congrArg RxHandler.cb (Function.update_of_ne hmn _ _)).trans (hs.paired m hm hne)
  · exact ⟨Function.update_of_ne hm _ _, rfl⟩
  · exact handler_updated

theorem Tunnelled.registered {a cb netdev features : ℕ} (hs : Tunnelled s)
    (hn : nssIsDynamicInterface n = true) (hnew : s.heap a = none) (hcb : (s.handlers n).cb = 0) :
    Tunnelled (Capwap.registered s n a cb netdev features) ∧
      TunnelStep n s (Capwap.registered s n a cb netdev features) := by
  obtain ⟨hpaired, hstep⟩ := hs.noMemory hcb
  refine ⟨⟨hs.toHandles.registered ⟨rfl, rfl⟩ hnew, fun m hm hne => ?_⟩, fun m hm => ?_, ?_⟩
  · by_cases hmn : m = n
    · subst hmn
      exact handler_updated
    · have hindex : hdlIndex m ≠ hdlIndex n := fun heq => hmn (hdlIndex_injective hm hn heq)
      have hne : Function.update s.hdl (hdlIndex n) (some a) (hdlIndex m) ≠ none := hne
      rw [Function.update_of_ne hindex] at hne
      exact hpaired.paired m hm hne
  · exact ⟨(hstep.others m hm).1, Function.update_of_ne hm _ _⟩
  · exact .inr ⟨.inl hcb, .inr handler_updated⟩

theorem Tunnelled.unregistered {a : ℕ} (hs : Tunnelled s) (hn : nssIsDynamicInterface n = true)
    (ha : s.hdl (hdlIndex n) = some a) :
    Tunnelled (Capwap.unregistered s n a) ∧ TunnelStep n s (Capwap.unregistered s n a) := by
  refine ⟨⟨hs.toHandles.unregistered ha, fun m hm hne => ?_⟩, fun m hm => ?_, ?_⟩
  · have hne : Function.update s.hdl (hdlIndex n) none (hdlIndex m) ≠ none := hne
    have hmn : m ≠ n := by
      rintro rfl
      exact hne (Function.update_self _ _ _)
    have hindex : hdlIndex m ≠ hdlIndex n := fun heq => hmn (hdlIndex_injective hm hn heq)
    rw [Function.update_of_ne hindex] at hne
    show ((nssCoreUnregisterHandler n s.handlers).2 m).cb = _
    rw [unregisterHandler_other hmn]
    exact hs.paired m hm hne
  · exact ⟨unregisterHandler_other hm, Function.update_of_ne hm _ _⟩
  · refine .inr ⟨.inr (hs.paired n hn (by rw [ha]; exact nofun)), .inl ?_⟩
    exact congrArg RxHandler.cb (unregisterHandler_self (dynamic_range hn).2)

theorem tunnel_step {l : Performed} (hs : Tunnelled s) (h : RegistrationStep s l t) :
    Tunnelled t ∧ TunnelStep (Performed.ifNum l) s t := by
  have hsame : Tunnelled s ∧ TunnelStep (Performed.ifNum l) s s := ⟨hs, .same rfl rfl⟩
  obtain ⟨call, env, result⟩ := l
  cases call with
  | notifyRegister n cb appData =>
    obtain ⟨rfl, -⟩ := exec_notifyRegister cb appData h
    exact hsame
  | notifyUnregister nssTop n =>
    have hlive : ∀ h, s.hdl (hdlIndex n) = some h → ∃ x, s.heap h = some x := fun h hh => by
      obtain ⟨x, hx, -⟩ := hs.live _ h hh
      exact ⟨x, hx⟩
    rcases exec_notifyUnregister hlive h with ⟨rfl, -⟩ | ⟨a, -, rfl, -⟩
    · exact hsame
    · exact ⟨⟨hs.toHandles.setCallback fun x hx => ⟨hx.1, rfl⟩, hs.paired⟩, .same rfl rfl⟩
  | dataRegister n cb netdev features =>
    by_cases hfree : s.lock = none
    · cases exec_dataRegister hfree (fun hn hcb => hs.empty hn hcb) h with
      | refused => exact hsame
      | noMemory _ _ _ hcb => exact hs.noMemory hcb
      | registered a hnew hcb hdynamic => exact hs.registered hdynamic hnew hcb
    · obtain ⟨rfl, -⟩ := exec_dataRegister_locked hfree h
      exact hsame
  | dataUnregister n =>
    by_cases hfree : s.lock = none
    · rcases Option.eq_none_or_eq_some (s.hdl (hdlIndex n)) with hnone | ⟨a, ha⟩
      · rcases exec_dataUnregister_missing hnone h with ⟨rfl, -⟩ | ⟨rfl, -⟩
        · exact hsame
        · exact ⟨⟨⟨hs.live, hs.once⟩, hs.paired⟩, .same rfl rfl⟩
      · obtain ⟨x, hx, hzero, -⟩ := hs.live _ a ha
        rcases exec_dataUnregister hfree ha hx hzero h with ⟨rfl, -⟩ | ⟨hdynamic, rfl, -⟩
        · exact hsame
        · exact hs.unregistered hdynamic ha
    · obtain ⟨rfl, -⟩ := exec_dataUnregister_locked hfree h
      exact hsame

theorem dataRegister_handler {env : Env} {cb netdev features : ℕ} (hs : Tunnelled s)
    (h : RegistrationStep s ⟨.dataRegister n cb netdev features, env, some (.ctx true)⟩ t) :
    nssIsDynamicInterface n = true ∧ (s.handlers n).cb = 0 ∧
      (t.handlers n).cb = Family.capwap.handler := by
  have hfree : s.lock = none := by
    by_contra hlock
    cases (exec_dataRegister_locked hlock h).2
  cases exec_dataRegister hfree (fun hn hcb => hs.empty hn hcb) h with
  | registered a hnew hcb hdynamic =>
    exact ⟨hdynamic, hcb, handler_updated⟩

end Tunnels

/-- Whoever registers or unregisters a number, no other family has it. -/
def OwnNumber (w : Sessions) : SessionCall → Prop
  | .capwap ⟨.notifyRegister n _ _, env, _⟩ =>
    env.verifies n = true → w.top.hdl (hdlIndex n) = none → Free .capwap n w.top.toCapwap
  | .register f r _ => Opens f r.ifNum w.top →
    nssIsDynamicInterface r.ifNum = true ∧ Free f r.ifNum w.top.toCapwap
  | .unregister f n => Closes f n w.top → Free f n w.top.toCapwap
  | _ => True

structure Owned (w : Sessions) : Prop where
  tunnelled : Tunnelled w.top.toCapwap
  dynamic : ∀ n g, w.given n = some g → nssIsDynamicInterface n = true
  handler : ∀ n g, w.given n = some g → g.family ≠ .capwap →
    (w.top.handlers n).cb = g.family.handler
  tunnel : ∀ n g, w.given n = some g → g.family = .capwap → Free .capwap n w.top.toCapwap

variable {w w' : Sessions} {g : Session} {l : SessionCall}

theorem undo_cases (h : w.undo f n m = some g) : w.given m = some g ∧ (m = n → g.family ≠ f) := by
  unfold Sessions.undo at h
  by_cases hfamily : (w.given n).map Session.family = some f
  · rw [if_pos hfamily] at h
    by_cases hmn : m = n
    · subst hmn
      rw [Function.update_self] at h
      cases h
    · rw [Function.update_of_ne hmn] at h
      exact ⟨h, fun heq => absurd heq hmn⟩
  · rw [if_neg hfamily] at h
    refine ⟨h, ?_⟩
    rintro rfl hg
    rw [h] at hfamily
    exact hfamily (congrArg some hg)

theorem registerCapwap_cases {cb appData : ℕ} (h : w.registerCapwap n cb appData m = some g) :
    w.given m = some g ∨ (m = n ∧ g = ⟨.capwap, cb, appData⟩) := by
  unfold Sessions.registerCapwap at h
  by_cases hmn : m = n
  · subst hmn
    rw [Function.update_self] at h
    exact .inr ⟨rfl, (Option.some.inj h).symm⟩
  · rw [Function.update_of_ne hmn] at h
    exact .inl h

theorem afterCapwap_cases {l : Performed} (h : w.afterCapwap l n = some g) :
    w.given n = some g ∨
      (∃ cb appData, l.call = .notifyRegister n cb appData ∧ g = ⟨.capwap, cb, appData⟩ ∧
        l.result = some (.ctx true)) ∨
      (∃ cb netdev features, l.call = .dataRegister n cb netdev features ∧ g = ⟨.capwap, 0, 0⟩ ∧
        l.result = some (.ctx true)) := by
  obtain ⟨call, env, result⟩ := l
  unfold Sessions.afterCapwap at h
  dsimp only at h
  split at h
  · rcases registerCapwap_cases h with hgiven | ⟨rfl, rfl⟩
    · exact .inl hgiven
    · exact .inr (.inl ⟨_, _, rfl, rfl, rfl⟩)
  · exact .inl (undo_cases h).1
  · rename_i k cb netdev features
    by_cases hfamily : (w.given k).map Session.family = some .capwap
    · rw [if_pos hfamily] at h
      exact .inl h
    · rw [if_neg hfamily] at h
      rcases registerCapwap_cases h with hgiven | ⟨rfl, rfl⟩
      · exact .inl hgiven
      · exact .inr (.inr ⟨_, _, _, rfl, rfl, rfl⟩)
  · exact .inl (undo_cases h).1
  · exact .inl h

theorem afterRegister_cases (h : (w.afterRegister f r found t).given n = some g) :
    w.given n = some g ∧ (found = true → n ≠ r.ifNum) ∨
      (found = true ∧ n = r.ifNum ∧ g = ⟨f, r.msgCallback, Family.context f r⟩) := by
  unfold Sessions.afterRegister at h
  cases found with
  | false => exact .inl ⟨h, nofun⟩
  | true =>
    have h : Function.update w.given r.ifNum _ n = some g := h
    by_cases hn : n = r.ifNum
    · subst hn
      rw [Function.update_self] at h
      exact .inr ⟨rfl, rfl, (Option.some.inj h).symm⟩
    · rw [Function.update_of_ne hn] at h
      exact .inl ⟨h, fun _ => hn⟩

theorem afterRegister_top : (w.afterRegister f r found t).top = t := by
  unfold Sessions.afterRegister
  split <;> rfl

theorem Opened.handler_self (h : Opened f r s t) (hn : nssIsDynamicInterface r.ifNum = true)
    (hfree : Free f r.ifNum s.toCapwap) : (t.handlers r.ifNum).cb = f.handler := by
  obtain ⟨appData, hhandlers⟩ := h.handlers
  rw [hhandlers]
  unfold nssCoreRegisterHandler
  rw [if_neg (Nat.not_le.mpr (dynamic_range hn).2)]
  split
  · rename_i hcb
    exact hfree.resolve_left hcb
  · exact handler_updated

theorem Opened.handler_other (h : Opened f r s t) (hm : m ≠ r.ifNum) :
    t.handlers m = s.handlers m := by
  obtain ⟨appData, hhandlers⟩ := h.handlers
  rw [hhandlers]
  exact registerHandler_other hm

theorem Closed.handler_other (h : Closed f n s t) (hm : m ≠ n) :
    t.handlers m = s.handlers m := by
  rw [h.handlers]
  exact unregisterHandler_other hm

theorem Tunnels.handles (h : Tunnels s t) (hs : Handles Uncalled s.toCapwap) :
    Handles Uncalled t.toCapwap := by
  refine ⟨fun n a ha => ?_, fun n m a hn hm => ?_⟩
  · rw [h.hdl] at ha
    rw [h.heap]
    exact hs.live n a ha
  · rw [h.hdl] at hn hm
    exact hs.once n m a hn hm

theorem Owned.capwap {l : Performed} {t : Capwap Unit} (hw : Owned w)
    (hstep : RegistrationStep w.top.toCapwap l t) (hok : OwnNumber w (.capwap l)) :
    Owned { w with top := { w.top with toCapwap := t }, given := w.afterCapwap l } := by
  obtain ⟨htunnelled, hothers, hself⟩ := tunnel_step hw.tunnelled hstep
  have hkept : ∀ n, t.handlers n = w.top.handlers n ∨
      (Free .capwap n w.top.toCapwap ∧ Free .capwap n t) := by
    intro n
    by_cases hn : n = Performed.ifNum l
    · subst hn
      exact hself.imp_left And.left
    · exact .inl (hothers n hn).1
  have hnew : ∀ n g, w.afterCapwap l n = some g → w.given n = some g ∨
      (g.family = .capwap ∧ nssIsDynamicInterface n = true ∧ Free .capwap n t) := by
    intro n g hg
    rcases afterCapwap_cases hg with hgiven | ⟨cb, appData, hcall, rfl, hresult⟩ |
      ⟨cb, netdev, features, hcall, rfl, hresult⟩
    · exact .inl hgiven
    · obtain ⟨call, env, result⟩ := l
      obtain rfl : call = _ := hcall
      obtain rfl : result = _ := hresult
      obtain ⟨hverifies, hempty⟩ := exec_notifyRegister_found cb appData hstep
      obtain ⟨rfl, -⟩ := exec_notifyRegister cb appData hstep
      exact .inr ⟨rfl, (Bool.and_eq_true_iff.mp hverifies).1, hok hverifies hempty⟩
    · obtain ⟨call, env, result⟩ := l
      obtain rfl : call = _ := hcall
      obtain rfl : result = _ := hresult
      obtain ⟨hdynamic, -, hcb⟩ := dataRegister_handler hw.tunnelled hstep
      exact .inr ⟨rfl, hdynamic, .inr hcb⟩
  constructor
  · exact htunnelled
  · intro n g hg
    rcases hnew n g hg with hgiven | ⟨-, hdynamic, -⟩
    · exact hw.dynamic n g hgiven
    · exact hdynamic
  · intro n g hg hfamily
    rcases hnew n g hg with hgiven | ⟨hcapwap, -⟩
    · have hwas := hw.handler n g hgiven hfamily
      rcases hkept n with hsame | ⟨hfree, -⟩
      · exact (congrArg RxHandler.cb hsame).trans hwas
      · rcases hfree with hzero | hcapwap
        · exact absurd (hwas.symm.trans hzero) (handler_pos _)
        · exact absurd (handler_injective (hwas.symm.trans hcapwap)) hfamily
    · exact absurd hcapwap hfamily
  · intro n g hg hfamily
    rcases hnew n g hg with hgiven | ⟨-, -, hfree⟩
    · rcases hkept n with hsame | ⟨-, hfree⟩
      · have hwas := hw.tunnel n g hgiven hfamily
        unfold Free at hwas ⊢
        rwa [← hsame] at hwas
      · exact hfree
    · exact hfree

theorem Owned.register (hw : Owned w) (hstep : f.register env r w.top = some (found, t))
    (hok : OwnNumber w (.register f r found)) : Owned (w.afterRegister f r found t) := by
  rcases register_cases hstep with ⟨rfl, hsame⟩ | ⟨rfl, hfamily, hopens, hopened⟩
  · unfold Sessions.afterRegister
    rw [if_pos rfl]
    refine ⟨?_, hw.dynamic, ?_, ?_⟩
    · exact hsame.capwap ▸ hw.tunnelled
    · intro n g hg hne
      rw [hsame.capwap]
      exact hw.handler n g hg hne
    · intro n g hg hcapwap
      dsimp only
      rw [hsame.capwap]
      exact hw.tunnel n g hg hcapwap
  · obtain ⟨hdynamic, hfree⟩ := hok hopens
    have hself := hopened.handler_self hdynamic hfree
    have htop : (w.afterRegister f r true t).top = t := afterRegister_top
    constructor
    · rw [htop]
      refine ⟨hopened.handles hw.tunnelled.toHandles, fun n hn hne => ?_⟩
      rw [hopened.hdl] at hne
      have hwas := hw.tunnelled.paired n hn hne
      by_cases hnum : n = r.ifNum
      · subst hnum
        rcases hfree with hzero | hown
        · exact absurd (hwas.symm.trans hzero) (handler_pos _)
        · exact absurd (handler_injective (hwas.symm.trans hown)).symm hfamily
      · rw [hopened.handler_other hnum]
        exact hwas
    · intro n g hg
      rcases afterRegister_cases hg with ⟨hgiven, -⟩ | ⟨-, rfl, -⟩
      · exact hw.dynamic n g hgiven
      · exact hdynamic
    · intro n g hg hne
      rw [htop]
      rcases afterRegister_cases hg with ⟨hgiven, hnum⟩ | ⟨-, rfl, rfl⟩
      · rw [hopened.handler_other (hnum rfl)]
        exact hw.handler n g hgiven hne
      · exact hself
    · intro n g hg hcapwap
      rw [htop]
      rcases afterRegister_cases hg with ⟨hgiven, hnum⟩ | ⟨-, rfl, rfl⟩
      · unfold Free
        rw [hopened.handler_other (hnum rfl)]
        exact hw.tunnel n g hgiven hcapwap
      · exact absurd hcapwap hfamily

theorem Owned.unregister (hw : Owned w) (hstep : f.unregister env n w.top = some t)
    (hok : OwnNumber w (.unregister f n)) :
    Owned { w with top := t, given := w.undo f n } := by
  rcases unregister_cases hstep with hsame | ⟨hfamily, hcloses, hclosed⟩
  · refine ⟨?_, fun m g hg => hw.dynamic m g (undo_cases hg).1, fun m g hg hne => ?_,
      fun m g hg hcapwap => ?_⟩
    · exact hsame.capwap ▸ hw.tunnelled
    · dsimp only
      rw [hsame.capwap]
      exact hw.handler m g (undo_cases hg).1 hne
    · dsimp only
      rw [hsame.capwap]
      exact hw.tunnel m g (undo_cases hg).1 hcapwap
  · have hfree := hok hcloses
    refine ⟨⟨hclosed.handles hw.tunnelled.toHandles, fun m hm hne => ?_⟩,
      fun m g hg => hw.dynamic m g (undo_cases hg).1, fun m g hg hne => ?_,
      fun m g hg hcapwap => ?_⟩
    · dsimp only at hne
      rw [hclosed.hdl] at hne
      have hwas := hw.tunnelled.paired m hm hne
      by_cases hmn : m = n
      · subst hmn
        rcases hfree with hzero | hown
        · exact absurd (hwas.symm.trans hzero) (handler_pos _)
        · exact absurd (handler_injective (hwas.symm.trans hown)).symm hfamily
      · dsimp only
        rw [hclosed.handler_other hmn]
        exact hwas
    · obtain ⟨hgiven, hundone⟩ := undo_cases hg
      have hwas := hw.handler m g hgiven hne
      by_cases hmn : m = n
      · subst hmn
        rcases hfree with hzero | hown
        · exact absurd (hwas.symm.trans hzero) (handler_pos _)
        · exact absurd (handler_injective (hwas.symm.trans hown)) (hundone rfl)
      · dsimp only
        rw [hclosed.handler_other hmn]
        exact hwas
    · obtain ⟨hgiven, -⟩ := undo_cases hg
      have hwas := hw.tunnel m g hgiven hcapwap
      unfold Free at hwas ⊢
      dsimp only
      by_cases hmn : m = n
      · subst hmn
        rw [hclosed.handlers, unregisterHandler_self (dynamic_range (hw.dynamic m g hgiven)).2]
        exact .inl rfl
      · rw [hclosed.handler_other hmn]
        exact hwas

/-- What a message does to the tables of statistics, and to nothing else. -/
structure Synced (f : Family) (ncm : RxMsg) (s t : NssTop) : Prop extends Same s t where
  dtls : t.dtlsSessionDebugStats =
    if f = .dtls ∧ ncm.fits = true ∧ ncm.type = NSS_DTLS_MSG_SESSION_STATS then
      nssDtlsSessionStatsSync ncm.dtlsStats ncm.interface s.dtlsSessionDebugStats
    else s.dtlsSessionDebugStats
  pptp : t.pptpSessionDebugStats =
    if f = .pptp ∧ ncm.fits = true ∧ ncm.type = NSS_PPTP_MSG_SYNC_STATS then
      nssPptpSessionDebugStatsSync ncm.pptpStats ncm.interface s.pptpSessionDebugStats
    else s.pptpSessionDebugStats

section Receive
variable {ncm : RxMsg} {invoked : Invoked}

theorem Synced.refl (hdtls : f ≠ .dtls ∨ ncm.fits = false ∨ ncm.type ≠ NSS_DTLS_MSG_SESSION_STATS)
    (hpptp : f ≠ .pptp ∨ ncm.fits = false ∨ ncm.type ≠ NSS_PPTP_MSG_SYNC_STATS) :
    Synced f ncm s s := by
  refine ⟨⟨rfl, rfl, rfl⟩, ?_, ?_⟩
  · rw [if_neg]
    rintro ⟨hf, hfits, htype⟩
    rcases hdtls with h | h | h
    · exact h hf
    · cases hfits.symm.trans h
    · exact h htype
  · rw [if_neg]
    rintro ⟨hf, hfits, htype⟩
    rcases hpptp with h | h | h
    · exact h hf
    · cases hfits.symm.trans h
    · exact h htype

theorem dtlsHandler_synced (h : nssDtlsHandler env ncm s = some (t, invoked)) :
    Synced .dtls ncm s t := by
  unfold nssDtlsHandler at h
  split at h
  · cases h
  split at h
  · rename_i htype
    obtain ⟨rfl, -⟩ := Prod.mk.inj (Option.some.inj h)
    refine .refl (.inr (.inr fun heq => ?_)) (.inl nofun)
    rw [heq] at htype
    exact absurd htype (by decide)
  split at h
  · rename_i hfits
    obtain ⟨rfl, -⟩ := Prod.mk.inj (Option.some.inj h)
    exact .refl (.inr (.inl hfits)) (.inl nofun)
  rename_i hfits
  rw [Bool.not_eq_false] at hfits
  obtain ⟨rfl, -⟩ := Prod.mk.inj (Option.some.inj h)
  split
  · rename_i htype
    refine ⟨⟨rfl, rfl, rfl⟩, ?_, ?_⟩
    · rw [if_pos ⟨rfl, hfits, htype⟩]
    · rw [if_neg (fun hpptp => nomatch hpptp.1)]
  · rename_i htype
    exact .refl (.inr (.inr htype)) (.inl nofun)

theorem pptpHandler_synced (h : nssPptpHandler ncm s = some (t, invoked)) :
    Synced .pptp ncm s t := by
  unfold nssPptpHandler at h
  split at h
  · cases h
  split at h
  · rename_i htype
    obtain ⟨rfl, -⟩ := Prod.mk.inj (Option.some.inj h)
    refine .refl (.inl nofun) (.inr (.inr fun heq => ?_))
    rw [heq] at htype
    exact absurd htype (by decide)
  split at h
  · rename_i hfits
    obtain ⟨rfl, -⟩ := Prod.mk.inj (Option.some.inj h)
    exact .refl (.inl nofun) (.inr (.inl hfits))
  rename_i hfits
  rw [Bool.not_eq_false] at hfits
  obtain ⟨rfl, -⟩ := Prod.mk.inj (Option.some.inj h)
  split
  · rename_i htype
    refine ⟨⟨rfl, rfl, rfl⟩, ?_, ?_⟩
    · rw [if_neg (fun hdtls => nomatch hdtls.1)]
    · rw [if_pos ⟨rfl, hfits, htype⟩]
  · rename_i htype
    exact .refl (.inl nofun) (.inr (.inr htype))

theorem receiveWithDevice_same {slot : MsgSlot} {max : ℕ}
    (h : receiveWithDevice slot max ncm s = some (t, invoked)) : t = s := by
  unfold receiveWithDevice at h
  dsimp only at h
  repeat' split at h
  all_goals exact (Prod.mk.inj (Option.some.inj h)).1.symm

theorem receive_synced (h : f.receive env ncm s = some (t, invoked)) : Synced f ncm s t := by
  cases f with
  | dtls => exact dtlsHandler_synced h
  | pptp => exact pptpHandler_synced h
  | capwap =>
    have h : nssCapwapHandler ncm s = some (t, invoked) := h
    obtain rfl : t = s := by
      unfold nssCapwapHandler at h
      repeat' split at h
      all_goals exact (Prod.mk.inj (Option.some.inj h)).1.symm
    exact .refl (.inl nofun) (.inl nofun)
  | l2tpv2 =>
    have h : nssL2tpv2Handler ncm s = some (t, invoked) := h
    unfold nssL2tpv2Handler at h
    split at h
    · cases h
    · obtain rfl := receiveWithDevice_same h
      exact .refl (.inl nofun) (.inl nofun)
  | mapT =>
    have h : nssMapTHandler env ncm s = some (t, invoked) := h
    obtain rfl : t = s := by
      unfold nssMapTHandler at h
      repeat' split at h
      all_goals first | exact (Prod.mk.inj (Option.some.inj h)).1.symm | cases h
    exact .refl (.inl nofun) (.inl nofun)
  | tun6rd =>
    have h : nssTun6rdHandler ncm s = some (t, invoked) := h
    unfold nssTun6rdHandler at h
    split at h
    · cases h
    · obtain rfl := receiveWithDevice_same h
      exact .refl (.inl nofun) (.inl nofun)
  | greRedir =>
    have h : nssGreRedirMsgHandler ncm s = some (t, invoked) := h
    obtain rfl : t = s := by
      unfold nssGreRedirMsgHandler at h
      dsimp only at h
      repeat' split at h
      all_goals first | exact (Prod.mk.inj (Option.some.inj h)).1.symm | cases h
    exact .refl (.inl nofun) (.inl nofun)
  | wifiVdev =>
    have h : nssWifiVdevHandler ncm s = some (t, invoked) := h
    obtain rfl : t = s := by
      unfold nssWifiVdevHandler at h
      repeat' split at h
      all_goals first | exact (Prod.mk.inj (Option.some.inj h)).1.symm | cases h
    exact .refl (.inl nofun) (.inl nofun)

theorem status_synced (h : nssCoreHandleNssStatusPkt env ncm s = some (t, invoked)) :
    t = s ∨ ∃ f, (s.handlers ncm.interface).cb = Family.handler f ∧ Synced f ncm s t := by
  unfold nssCoreHandleNssStatusPkt at h
  split at h
  · exact .inl (Prod.mk.inj (Option.some.inj h)).1.symm
  split at h
  · exact .inl (Prod.mk.inj (Option.some.inj h)).1.symm
  split at h
  · exact .inl (Prod.mk.inj (Option.some.inj h)).1.symm
  split at h
  · exact .inl (Prod.mk.inj (Option.some.inj h)).1.symm
  · rename_i f hf
    exact .inr ⟨f, handler_ofHandler hf, receive_synced h⟩

theorem status_same (h : nssCoreHandleNssStatusPkt env ncm s = some (t, invoked)) : Same s t := by
  rcases status_synced h with rfl | ⟨f, -, hsynced⟩
  · exact ⟨rfl, rfl, rfl⟩
  · exact hsynced.toSame

end Receive

theorem Owned.same (hw : Owned w) (h : Same w.top w'.top) (hgiven : w'.given = w.given) :
    Owned w' := by
  constructor
  · exact h.capwap ▸ hw.tunnelled
  · rw [hgiven]
    exact hw.dynamic
  · rw [hgiven, h.capwap]
    exact hw.handler
  · rw [hgiven, h.capwap]
    exact hw.tunnel

theorem Owned.step (hw : Owned w) (hstep : SessionStep w l w') (hok : OwnNumber w l) :
    Owned w' := by
  cases hstep with
  | capwap l t hstep => exact hw.capwap hstep hok
  | register f r found t env h => exact hw.register h hok
  | unregister f n t env h => exact hw.unregister h hok
  | receive ncm t invoked env h => exact hw.same (status_same h) rfl

theorem SessionStart.owned (hw : SessionStart w) : Owned w := by
  refine ⟨⟨⟨fun n h hn => ?_, fun n m h hn => ?_⟩, fun n _ hne => ?_⟩, fun n g hg => ?_,
    fun n g hg => ?_, fun n g hg => ?_⟩
  · cases (hw.hdl n).symm.trans hn
  · cases (hw.hdl n).symm.trans hn
  · exact absurd (hw.hdl _) hne
  · cases (hw.given n).symm.trans hg
  · cases (hw.given n).symm.trans hg
  · cases (hw.given n).symm.trans hg

end NssDrv.SessionRuns

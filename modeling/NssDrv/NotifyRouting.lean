import NssDrv.SessionRuns

set_option autoImplicit false

/-!
# Which callback a NOTIFY message comes to

The handler of the number's family looks the callback up, and what it finds is
what was given at the number's registration.
-/
namespace NssDrv.NotifyRouting
open CallTree ThreadRuns TransitionRuns HlosInterface InterfaceTables CapwapTunnel
open CapwapRegistration SessionRegistration SessionRuns
open DynamicInterface (nssIsDynamicInterface)

def withDevice (cb ndev : ℕ) : Invoked := if ndev = 0 then none else invoke cb ndev

/-- What the handler of a family invokes for a NOTIFY message on `n`. -/
def Family.target (f : Family) (n : ℕ) (s : NssTop) : Invoked :=
  match f with
  | .capwap => invoke (nssCapwapGetMsgCallback n s).1 (nssCapwapGetMsgCallback n s).2
  | .dtls => invoke (s.msgCallback .dtlsMsgCallback) (s.dp n).appData
  | .pptp => invoke (s.msgCallback .pptpMsgCallback) (s.dp n).appData
  | .l2tpv2 => withDevice (s.msgCallback .l2tpv2MsgCallback) (s.dp n).ndev
  | .mapT => invoke (s.msgCallback .mapTMsgCallback) (s.dp n).appData
  | .tun6rd => withDevice (s.msgCallback .tun6rdMsgCallback) (s.dp n).ndev
  | .greRedir => invoke (s.ifRxMsgCallback n) (s.dp n).ndev
  | .wifiVdev => withDevice (s.ifRxMsgCallback n) (s.dp n).ndev

def Family.msgTypes : Family → ℕ
  | .capwap => NSS_CAPWAP_MSG_TYPE_MAX + 1
  | .dtls => NSS_DTLS_MSG_MAX
  | .pptp => NSS_PPTP_MSG_MAX
  | .l2tpv2 => NSS_L2TPV2_MSG_MAX
  | .mapT => NSS_MAP_T_MSG_MAX
  | .tun6rd => NSS_TUN6RD_MAX
  | .greRedir => NSS_GRE_REDIR_MAX_MSG_TYPES
  | .wifiVdev => NSS_WIFI_VDEV_MAX_MSG

/-- The families that look at the type of a dynamic interface. -/
def Family.typed : Family → SessionEnv → ℕ → Bool
  | .dtls, env, n => env.dtls n
  | .mapT, env, n => env.mapT n
  | _, _, _ => true

/-- A NOTIFY message of a family for `n`, as the handlers accept it. -/
structure Notify (f : Family) (env : SessionEnv) (n : ℕ) (ncm : RxMsg) : Prop where
  interface : ncm.interface = n
  version : ncm.version = NSS_HLOS_MESSAGE_VERSION
  len : ncm.len ≤ ncm.bufLen
  notify : ncm.notify = true
  type : ncm.type < Family.msgTypes f
  fits : ncm.fits = true
  typed : Family.typed f env n = true

/-- A NOTIFY message for `n` invokes what was given. -/
def Served (s : NssTop) (n : ℕ) (g : Session) : Prop :=
  ∀ env ncm, Notify g.family env n ncm →
    ∃ t, nssCoreHandleNssStatusPkt env ncm s = some (t, invoke g.msgCallback g.ctx)

variable {f : Family} {env : SessionEnv} {n m : ℕ} {ncm : RxMsg} {s t : NssTop} {g : Session}
variable {w w' : Sessions} {l : SessionCall} {r : IfParams} {found : Bool}

section Receive
variable (h : Notify f env n ncm) (hn : nssIsDynamicInterface n = true)
include h hn

theorem receiveWithDevice_notify {slot : MsgSlot} {max : ℕ} (hmax : ncm.type < max) :
    receiveWithDevice slot max ncm s =
      some (s, withDevice (s.msgCallback slot) (s.dp n).ndev) := by
  obtain ⟨rfl, -, -, hnotify, -, hfits, -⟩ := h
  unfold receiveWithDevice withDevice invoke
  rw [if_neg (Nat.not_le.mpr hmax), if_neg (Bool.not_eq_false _ ▸ hfits), if_pos hnotify]
  dsimp only
  split
  · split <;> rfl
  · split <;> rfl

theorem receive_notify : ∃ t, f.receive env ncm s = some (t, Family.target f n s) := by
  have htype := h.type
  have hfits : ¬ ncm.fits = false := by rw [h.fits]; exact nofun
  have hnotify := h.notify
  have htyped := h.typed
  obtain rfl := h.interface
  cases f with
  | capwap =>
    refine ⟨s, ?_⟩
    show nssCapwapHandler ncm s = _
    unfold nssCapwapHandler
    rw [if_neg (Nat.not_lt.mpr (Nat.lt_succ_iff.mp htype)), if_neg hfits, if_pos hnotify]
    rfl
  | dtls =>
    have htype : ncm.type < NSS_DTLS_MSG_MAX := htype
    have hverify : ¬ nssDtlsVerifyIfNum env ncm.interface = false := by
      have htyped : env.dtls ncm.interface = true := htyped
      unfold nssDtlsVerifyIfNum
      rw [hn, htyped]
      exact nofun
    show ∃ t, nssDtlsHandler env ncm s = some (t, _)
    unfold nssDtlsHandler
    rw [if_neg hverify, if_neg (Nat.not_le.mpr htype), if_neg hfits]
    dsimp only
    rw [if_pos hnotify]
    split
    · exact ⟨_, rfl⟩
    · exact ⟨_, rfl⟩
  | pptp =>
    have htype : ncm.type < NSS_PPTP_MSG_MAX := htype
    show ∃ t, nssPptpHandler ncm s = some (t, _)
    unfold nssPptpHandler
    rw [if_neg (not_not.mpr (.inl hn)), if_neg (Nat.not_le.mpr htype), if_neg hfits]
    dsimp only
    rw [if_pos hnotify]
    split
    · exact ⟨_, rfl⟩
    · exact ⟨_, rfl⟩
  | l2tpv2 =>
    refine ⟨s, ?_⟩
    show nssL2tpv2Handler ncm s = _
    unfold nssL2tpv2Handler
    rw [if_neg (not_not.mpr (.inl hn))]
    exact receiveWithDevice_notify h hn htype
  | mapT =>
    have htype : ncm.type < NSS_MAP_T_MSG_MAX := htype
    have hverify : ¬ nssMapTVerifyIfNum env ncm.interface = false := by
      have htyped : env.mapT ncm.interface = true := htyped
      unfold nssMapTVerifyIfNum
      rw [hn, htyped]
      exact nofun
    refine ⟨s, ?_⟩
    show nssMapTHandler env ncm s = _
    unfold nssMapTHandler
    rw [if_neg hverify, if_neg (Nat.not_le.mpr htype), if_neg hfits, if_pos hnotify]
    rfl
  | tun6rd =>
    refine ⟨s, ?_⟩
    show nssTun6rdHandler ncm s = _
    unfold nssTun6rdHandler
    rw [if_neg (not_not.mpr hn)]
    exact receiveWithDevice_notify h hn htype
  | greRedir =>
    have htype : ncm.type < NSS_GRE_REDIR_MAX_MSG_TYPES := htype
    refine ⟨s, ?_⟩
    show nssGreRedirMsgHandler ncm s = _
    unfold nssGreRedirMsgHandler
    rw [if_neg (fun hstatic => hstatic.1 hn), if_neg (Nat.not_le.mpr htype), if_neg hfits,
      if_pos hnotify]
    rfl
  | wifiVdev =>
    have htype : ncm.type < NSS_WIFI_VDEV_MAX_MSG := htype
    refine ⟨s, ?_⟩
    show nssWifiVdevHandler ncm s = some (s, withDevice _ _)
    unfold nssWifiVdevHandler withDevice
    rw [if_neg (not_not.mpr hn), if_neg (Nat.not_le.mpr htype), if_pos hnotify]
    split
    · rfl
    · rfl

theorem status_notify (hcb : (s.handlers n).cb = f.handler) :
    ∃ t, nssCoreHandleNssStatusPkt env ncm s = some (t, Family.target f n s) := by
  have hrange := (dynamic_range hn).2
  obtain ⟨t, ht⟩ := receive_notify (s := s) h hn
  refine ⟨t, ?_⟩
  unfold nssCoreHandleNssStatusPkt
  rw [if_neg (not_not.mpr h.version), if_neg (Nat.not_lt.mpr h.len), h.interface,
    if_neg (Nat.not_le.mpr hrange), hcb, ofHandler_handler]
  exact ht

theorem status_unhandled (hcb : (s.handlers n).cb = 0) :
    ∃ t, nssCoreHandleNssStatusPkt env ncm s = some (t, none) := by
  have hrange := (dynamic_range hn).2
  refine ⟨s, ?_⟩
  unfold nssCoreHandleNssStatusPkt
  rw [if_neg (not_not.mpr h.version), if_neg (Nat.not_lt.mpr h.len), h.interface,
    if_neg (Nat.not_le.mpr hrange), hcb]
  rfl

end Receive

def SessionCall.ifNum : SessionCall → ℕ
  | .capwap l => Performed.ifNum l
  | .register _ r _ => r.ifNum
  | .unregister _ n => n
  | .receive ncm => ncm.interface

/-- Another session of the family is registered. -/
def Beside (f : Family) (n : ℕ) (s : NssTop) : Prop :=
  ∃ m : ℕ, m ≠ n ∧ nssIsDynamicInterface m = true ∧ (s.handlers m).cb = f.handler

/-- Where the sessions of a family share the callback it is the same for all of
    them, and it stays until the last one is unregistered. A family that looks for
    the device gets one, and a tunnel asks for no messages. -/
def Shareable (w : Sessions) : SessionCall → Prop
  | .capwap ⟨.notifyRegister n cb _, env, _⟩ =>
    env.verifies n = true → w.top.hdl (hdlIndex n) = none → cb = 0
  | .register f r _ => Opens f r.ifNum w.top →
    (r.netdev.ptr = 0 → f = .l2tpv2 ∨ f = .tun6rd ∨ f = .wifiVdev → r.msgCallback = 0) ∧
    ∀ slot, Family.store f = .slot slot → Beside f r.ifNum w.top →
      w.top.msgCallback slot = r.msgCallback
  | .unregister f n => Closes f n w.top →
    ∀ slot, Family.store f = .slot slot → Beside f n w.top → w.top.msgCallback slot = 0
  | _ => True

def Routable (w : Sessions) (l : SessionCall) : Prop := OwnNumber w l ∧ Shareable w l

structure Routed (w : Sessions) : Prop extends Owned w where
  uncalled : ∀ n g, w.given n = some g → g.family = .capwap → g.msgCallback = 0
  target : ∀ n g, w.given n = some g → g.family ≠ .capwap →
    Family.target g.family n w.top = invoke g.msgCallback g.ctx

theorem capwap_target (hs : Tunnelled s.toCapwap) : Family.target .capwap n s = none := by
  show invoke (nssCapwapGetMsgCallback n s).1 _ = none
  unfold nssCapwapGetMsgCallback
  cases hhdl : s.hdl (hdlIndex n) with
  | none => rfl
  | some a =>
    obtain ⟨x, hx, -, hcb⟩ := hs.live _ a hhdl
    rw [Option.bind_some, hx]
    dsimp only
    rw [hcb]
    rfl

theorem Routed.served (hw : Routed w) (hg : w.given n = some g) : Served w.top n g := by
  intro env ncm hnotify
  have hn := hw.dynamic n g hg
  by_cases hfamily : g.family = .capwap
  · rw [hw.uncalled n g hg hfamily]
    rw [hfamily] at hnotify
    rcases hw.tunnel n g hg hfamily with hzero | hcapwap
    · exact status_unhandled hnotify hn hzero
    · have hstatus := status_notify hnotify hn hcapwap
      rwa [capwap_target hw.tunnelled] at hstatus
  · rw [← hw.target n g hg hfamily]
    exact status_notify hnotify hn (hw.handler n g hg hfamily)

theorem target_other (hdp : t.dp n = s.dp n) (hfamily : f ≠ .capwap)
    (hslot : ∀ slot, Family.store f = .slot slot → t.msgCallback slot = s.msgCallback slot)
    (htable : t.ifRxMsgCallback n = s.ifRxMsgCallback n) :
    Family.target f n t = Family.target f n s := by
  cases f with
  | capwap => exact absurd rfl hfamily
  | greRedir | wifiVdev =>
    unfold Family.target
    rw [hdp, htable]
  | dtls | pptp | l2tpv2 | mapT | tun6rd =>
    unfold Family.target
    rw [hdp, hslot _ rfl]

theorem slots_self {slot : MsgSlot} {cb : ℕ} (hf : Family.store f = .slot slot) :
    (Family.store f).slots cb s slot = cb := by
  rw [hf]
  exact Function.update_self _ _ _

theorem table_self {cb : ℕ} (hf : Family.store f = .interface) :
    (Family.store f).table n cb s n = cb := by
  rw [hf]
  exact Function.update_self _ _ _

theorem Opened.target (h : Opened f r s t) (hfamily : f ≠ .capwap)
    (hdevice : r.netdev.ptr = 0 → f = .l2tpv2 ∨ f = .tun6rd ∨ f = .wifiVdev → r.msgCallback = 0) :
    Family.target f r.ifNum t = invoke r.msgCallback (Family.context f r) := by
  obtain ⟨appData, hdp, hdata⟩ := h.dp
  have hslot : t.dp r.ifNum = ⟨r.netdev.ptr, r.dataCallback, appData, r.features⟩ := by
    rw [hdp, Function.update_self]
  have hinvoke : f = .l2tpv2 ∨ f = .tun6rd ∨ f = .wifiVdev →
      withDevice r.msgCallback r.netdev.ptr = invoke r.msgCallback r.netdev.ptr := by
    intro hf
    unfold withDevice
    split
    · rename_i hptr
      rw [hdevice hptr hf]
      rfl
    · rfl
  have hslots := h.slots
  have htable := h.table
  cases f with
  | capwap => exact absurd rfl hfamily
  | dtls | pptp | mapT =>
    show invoke (t.msgCallback _) (t.dp r.ifNum).appData = _
    rw [hslot, hdata (by decide), hslots, slots_self rfl]
  | l2tpv2 | tun6rd =>
    show withDevice (t.msgCallback _) (t.dp r.ifNum).ndev = _
    rw [hslot, hslots, slots_self rfl]
    exact hinvoke (by decide)
  | greRedir =>
    show invoke (t.ifRxMsgCallback r.ifNum) (t.dp r.ifNum).ndev = _
    rw [hslot, htable, table_self rfl]
    rfl
  | wifiVdev =>
    show withDevice (t.ifRxMsgCallback r.ifNum) (t.dp r.ifNum).ndev = _
    rw [hslot, htable, table_self rfl]
    exact hinvoke (by decide)

theorem store_injective {f g : Family} {slot : MsgSlot} (hf : Family.store f = .slot slot)
    (hg : Family.store g = .slot slot) : f = g := by
  cases f <;> cases hf <;> cases g <;> first | rfl | cases hg

theorem slots_other {f g : Family} {slot : MsgSlot} {cb : ℕ}
    (hshared : ∀ k, Family.store f = .slot k → f = g → s.msgCallback k = cb)
    (hg : Family.store g = .slot slot) :
    (Family.store f).slots cb s slot = s.msgCallback slot := by
  cases hf : Family.store f with
  | handle => rfl
  | interface => rfl
  | slot k =>
    show Function.update s.msgCallback k cb slot = _
    by_cases hk : slot = k
    · subst hk
      rw [Function.update_self, hshared slot hf (store_injective hf hg)]
    · rw [Function.update_of_ne hk]

theorem table_other {store : Store} {cb : ℕ} (hm : m ≠ n) :
    store.table n cb s m = s.ifRxMsgCallback m := by
  cases store with
  | interface => exact Function.update_of_ne hm _ _
  | handle | slot => rfl

theorem Routed.register (hw : Routed w) (hstep : f.register env r w.top = some (found, t))
    (hok : Routable w (.register f r found)) : Routed (w.afterRegister f r found t) := by
  have howned := hw.toOwned.register hstep hok.1
  have htop : (w.afterRegister f r found t).top = t := afterRegister_top
  rcases register_cases hstep with ⟨rfl, hsame⟩ | ⟨rfl, hfamily, hopens, hopened⟩
  · refine ⟨howned, hw.uncalled, fun n g hg hne => ?_⟩
    rw [htop, target_other (s := w.top) ?_ hne ?_ ?_]
    · exact hw.target n g hg hne
    · rw [hsame.capwap]
    · rw [hsame.slots]
      exact fun _ _ => rfl
    · rw [hsame.table]
  obtain ⟨hdevice, hshared⟩ := hok.2 hopens
  refine ⟨howned, fun n g hg hcapwap => ?_, fun n g hg hne => ?_⟩
  · rcases afterRegister_cases hg with ⟨hgiven, -⟩ | ⟨-, rfl, rfl⟩
    · exact hw.uncalled n g hgiven hcapwap
    · exact absurd hcapwap hfamily
  · rw [htop]
    rcases afterRegister_cases hg with ⟨hgiven, hnum⟩ | ⟨-, rfl, rfl⟩
    · obtain ⟨appData, hdp, -⟩ := hopened.dp
      have hnum := hnum rfl
      rw [target_other (s := w.top) ?_ hne ?_ ?_]
      · exact hw.target n g hgiven hne
      · rw [hdp, Function.update_of_ne hnum]
      · intro slot hslot
        rw [hopened.slots]
        refine slots_other (fun k hk hfg => ?_) hslot
        refine hshared k hk ⟨n, hnum, hw.dynamic n g hgiven, ?_⟩
        rw [hfg]
        exact hw.handler n g hgiven hne
      · rw [hopened.table, table_other hnum]
    · exact Opened.target hopened hfamily hdevice

theorem Routed.unregister (hw : Routed w) (hstep : f.unregister env n w.top = some t)
    (hok : Routable w (.unregister f n)) :
    Routed { w with top := t, given := w.undo f n } := by
  have howned := hw.toOwned.unregister hstep hok.1
  refine ⟨howned, fun m g hg => hw.uncalled m g (undo_cases hg).1, fun m g hg hne => ?_⟩
  obtain ⟨hgiven, hundone⟩ := undo_cases hg
  rw [← hw.target m g hgiven hne]
  rcases unregister_cases hstep with hsame | ⟨hfamily, hcloses, hclosed⟩
  · refine target_other ?_ hne ?_ ?_
    · exact congrFun (congrArg Capwap.dp hsame.capwap) m
    · exact fun slot _ => congrFun hsame.slots slot
    · exact congrFun hsame.table m
  · have hmn : m ≠ n := by
      rintro rfl
      have hwas := hw.handler m g hgiven hne
      rcases hok.1 hcloses with hzero | hown
      · exact handler_pos _ (hwas.symm.trans hzero)
      · exact hundone rfl (handler_injective (hwas.symm.trans hown))
    refine target_other ?_ hne ?_ ?_
    · dsimp only
      rw [hclosed.dp, Function.update_of_ne hmn]
    · intro slot hslot
      dsimp only
      rw [hclosed.slots]
      refine slots_other (fun k hk hfg => ?_) hslot
      refine hok.2 hcloses k hk ⟨m, hmn, hw.dynamic m g hgiven, ?_⟩
      rw [hfg]
      exact hw.handler m g hgiven hne
    · dsimp only
      rw [hclosed.table, table_other hmn]

theorem Routed.capwap {l : Performed} {t : Capwap Unit} (hw : Routed w)
    (hstep : RegistrationStep w.top.toCapwap l t) (hok : Routable w (.capwap l)) :
    Routed { w with top := { w.top with toCapwap := t }, given := w.afterCapwap l } := by
  have howned := hw.toOwned.capwap hstep hok.1
  obtain ⟨-, hothers, hself⟩ := tunnel_step hw.tunnelled hstep
  refine ⟨howned, fun n g hg hcapwap => ?_, fun n g hg hne => ?_⟩
  · rcases afterCapwap_cases hg with hgiven | ⟨cb, appData, hcall, rfl, hresult⟩ |
      ⟨cb, netdev, features, -, rfl, -⟩
    · exact hw.uncalled n g hgiven hcapwap
    · obtain ⟨call, env, result⟩ := l
      obtain rfl : call = _ := hcall
      obtain rfl : result = _ := hresult
      obtain ⟨hverifies, hempty⟩ := exec_notifyRegister_found cb appData hstep
      exact hok.2 hverifies hempty
    · rfl
  · have hgiven : w.given n = some g := by
      rcases afterCapwap_cases hg with hgiven | ⟨_, _, -, rfl, -⟩ | ⟨_, _, _, -, rfl, -⟩
      · exact hgiven
      · exact absurd rfl hne
      · exact absurd rfl hne
    rw [← hw.target n g hgiven hne]
    refine target_other ?_ hne (fun _ _ => rfl) rfl
    by_cases hn : n = Performed.ifNum l
    · subst hn
      rcases hself with ⟨-, hdp⟩ | ⟨hfree, -⟩
      · exact hdp
      · have hwas := hw.handler _ g hgiven hne
        rcases hfree with hzero | hcapwap
        · exact absurd (hwas.symm.trans hzero) (handler_pos _)
        · exact absurd (handler_injective (hwas.symm.trans hcapwap)) hne
    · exact (hothers n hn).2

theorem Routed.receive {invoked : Invoked} (hw : Routed w)
    (h : nssCoreHandleNssStatusPkt env ncm w.top = some (t, invoked)) :
    Routed (w.afterReceive ncm t) := by
  have hsame := status_same h
  refine ⟨hw.toOwned.same hsame rfl, hw.uncalled, fun n g hg hne => ?_⟩
  rw [← hw.target n g hg hne]
  refine target_other ?_ hne ?_ ?_
  · exact congrFun (congrArg Capwap.dp hsame.capwap) n
  · exact fun slot _ => congrFun hsame.slots slot
  · exact congrFun hsame.table n

theorem Routed.step (hw : Routed w) (hstep : SessionStep w l w') (hok : Routable w l) :
    Routed w' := by
  cases hstep with
  | capwap l t hstep => exact hw.capwap hstep hok
  | register f r found t env h => exact hw.register h hok
  | unregister f n t env h => exact hw.unregister h hok
  | receive ncm t invoked env h => exact hw.receive h

theorem SessionStart.routed (hw : SessionStart w) : Routed w := by
  refine ⟨hw.owned, fun n g hg => ?_, fun n g hg => ?_⟩
  · cases (hw.given n).symm.trans hg
  · cases (hw.given n).symm.trans hg

theorem afterCapwap_other {l : Performed} (hm : m ≠ Performed.ifNum l) :
    w.afterCapwap l m = w.given m := by
  have hundo : ∀ {k}, m ≠ k → w.undo .capwap k m = w.given m := by
    intro k hk
    unfold Sessions.undo
    split
    · exact Function.update_of_ne hk _ _
    · rfl
  obtain ⟨call, env, result⟩ := l
  unfold Sessions.afterCapwap
  dsimp only
  split
  · exact Function.update_of_ne hm _ _
  · exact hundo hm
  · split
    · rfl
    · exact Function.update_of_ne hm _ _
  · exact hundo hm
  · rfl

theorem given_other (hstep : SessionStep w l w') (hm : m ≠ SessionCall.ifNum l) :
    w'.given m = w.given m := by
  cases hstep with
  | capwap l t hstep => exact afterCapwap_other hm
  | register f r found t env h =>
    cases found with
    | false => rfl
    | true => exact Function.update_of_ne hm _ _
  | unregister f n t env h =>
    dsimp only
    unfold Sessions.undo
    split
    · exact Function.update_of_ne hm _ _
    · rfl
  | receive ncm t invoked env h => rfl

/-- Every session is served by what was given at its registration, and no call
    about another number changes that. -/
theorem notify_routed (h : Reachable SessionStart (Guarded SessionStep Routable) w) :
    (∀ n g, w.given n = some g → Served w.top n g) ∧
    ∀ l w', SessionStep w l w' → Routable w l → ∀ m g, m ≠ SessionCall.ifNum l →
      w.given m = some g → Served w'.top m g := by
  have hrouted : Routed w := by
    refine h.invariant Routed (fun w hw => SessionStart.routed hw) ?_
    intro w l w' hw ⟨hstep, hok⟩
    exact hw.step hstep hok
  refine ⟨fun n g hg => hrouted.served hg, fun l w' hstep hok m g hm hg => ?_⟩
  exact (hrouted.step hstep hok).served ((given_other hstep hm).trans hg)

def blankTop : NssTop :=
  { bare with
    msgCallback := fun _ => 0
    ifRxMsgCallback := fun _ => 0
    dtlsSessionDebugStats := List.replicate NSS_MAX_DTLS_SESSIONS (StatsSlot.empty DtlsStat)
    pptpSessionDebugStats :=
      List.replicate NSS_MAX_PPTP_DYNAMIC_INTERFACES (StatsSlot.empty PptpStat) }

def blank : Sessions := ⟨blankTop, fun _ => none, fun _ => [], fun _ => []⟩

theorem blank_start : SessionStart blank :=
  ⟨rfl, fun _ => rfl, fun _ _ => rfl, fun _ => rfl, rfl, rfl⟩

def l2tpv2Params (n cb ptr : ℕ) : IfParams := ⟨n, 1, cb, ⟨ptr, 0⟩, 0, 0⟩

def withL2tpv2 (w : Sessions) (n cb ptr : ℕ) : Sessions :=
  let r := l2tpv2Params n cb ptr
  w.afterRegister .l2tpv2 r true (w.top.registerIf .l2tpv2 .l2tpv2MsgCallback 0 0 r)

theorem l2tpv2_step (w : Sessions) (n cb ptr : ℕ) :
    SessionStep w (.register .l2tpv2 (l2tpv2Params n cb ptr) true) (withL2tpv2 w n cb ptr) :=
  .register w .l2tpv2 _ true _ ⟨fun _ => true, fun _ => true⟩ rfl

/-- Two sessions of L2TPv2 whose users have the same callback. -/
theorem notify_routed_two : ∃ w, Served w.top 24 ⟨.l2tpv2, 5, 9⟩ ∧
    Served w.top 25 ⟨.l2tpv2, 5, 10⟩ ∧
    ∀ l w', SessionStep w l w' → Routable w l → ∀ m g, m ≠ SessionCall.ifNum l →
      w.given m = some g → Served w'.top m g := by
  have hfirst : Routable blank (.register .l2tpv2 (l2tpv2Params 24 5 9) true) := by
    refine ⟨fun _ => ⟨rfl, .inl rfl⟩, fun _ => ⟨nofun, ?_⟩⟩
    rintro slot - ⟨m, -, -, hcb⟩
    cases hcb
  have hsecond : Routable (withL2tpv2 blank 24 5 9)
      (.register .l2tpv2 (l2tpv2Params 25 5 10) true) := by
    refine ⟨fun _ => ⟨rfl, .inl rfl⟩, fun _ => ⟨nofun, ?_⟩⟩
    rintro slot hslot -
    obtain rfl := Store.slot.inj hslot
    rfl
  have hone : Reachable SessionStart (Guarded SessionStep Routable) (withL2tpv2 blank 24 5 9) :=
    (Reachable.start blank_start).next ⟨l2tpv2_step blank 24 5 9, hfirst⟩
  have hrun := hone.next ⟨l2tpv2_step (withL2tpv2 blank 24 5 9) 25 5 10, hsecond⟩
  obtain ⟨hserved, hkept⟩ := notify_routed hrun
  exact ⟨_, hserved 24 _ rfl, hserved 25 _ rfl, hkept⟩

def notifyMsg (n type : ℕ) : RxMsg :=
  ⟨0, 0, 0, n, type, true, .NSS_CMM_RESPONSE_NOTIFY, 0, 0, fun _ => 0, fun _ => 0⟩

theorem notifyMsg_notify {n type : ℕ} (htype : type < Family.msgTypes f) :
    Notify f ⟨fun _ => true, fun _ => true⟩ n (notifyMsg n type) := by
  refine ⟨rfl, rfl, Nat.le_refl 0, rfl, htype, rfl, ?_⟩
  cases f <;> rfl

theorem two_unserved : ¬ Served (withL2tpv2 (withL2tpv2 blank 24 5 9) 25 6 10).top 24
    ⟨.l2tpv2, 5, 9⟩ := by
  intro hserved
  obtain ⟨t, ht⟩ := hserved _ _ (notifyMsg_notify (n := 24) (by decide : 0 < 3))
  have hinvoked := congrArg (Option.map Prod.snd) ht
  cases hinvoked

def notifyRegistered : Performed :=
  ⟨.notifyRegister 24 5 9, ⟨fun _ => true, true⟩, some (.ctx true)⟩

theorem bare_notifyRegister : RegistrationStep bare notifyRegistered bare := by
  refine .ask (q := .isCapwap 24) true rfl ⟨rfl, rfl⟩ ?_
  refine .tell (c := .spinLock) rfl ⟨⟨rfl, rfl⟩, trivial⟩ ?_
  refine .ask (q := .hdl 0) none rfl ⟨⟨rfl, rfl⟩, trivial⟩ ?_
  exact .tell (c := .spinUnlock) rfl ⟨rfl, trivial⟩ (.done rfl)

/-- Two sessions of a family have one callback, and a tunnel none. -/
theorem notify_misrouted :
    (¬ ∀ w, Reachable SessionStart SessionStep w → ∀ n g, w.given n = some g →
      Served w.top n g) ∧
    (¬ ∀ w l w', Reachable SessionStart SessionStep w → SessionStep w l w' →
      ∀ m g, m ≠ SessionCall.ifNum l → w.given m = some g → Served w.top m g →
        Served w'.top m g) ∧
    ¬ ∀ w, Reachable SessionStart SessionStep w → ∀ n g, w.given n = some g →
      g.family = .capwap → Served w.top n g := by
  have hblank : Reachable SessionStart SessionStep blank := .start blank_start
  have hone := hblank.next (l2tpv2_step blank 24 5 9)
  refine ⟨fun hall => ?_, fun hall => ?_, fun hall => ?_⟩
  · exact two_unserved (hall _ (hone.next (l2tpv2_step _ 25 6 10)) 24 _ rfl)
  · refine two_unserved (hall _ _ _ hone (l2tpv2_step _ 25 6 10) 24 _ (by decide) rfl ?_)
    intro env ncm hnotify
    exact status_notify hnotify rfl rfl
  · have htunnel : SessionStep blank (.capwap notifyRegistered) _ :=
      .capwap blank _ _ bare_notifyRegister
    have hboth := (hblank.next htunnel).next
      (.capwap _ (firstRegister true true) _ bare_registers)
    obtain ⟨t, ht⟩ := hall _ hboth 24 _ rfl rfl _ _
      (notifyMsg_notify (n := 24) (by decide : 0 < 10))
    have hinvoked := congrArg (Option.map Prod.snd) ht
    cases hinvoked

end NssDrv.NotifyRouting

import NssDrv.NotifyRouting

set_option autoImplicit false

/-!
# What the handlers assert of the interface

A handler of messages has a `BUG_ON` on the interface of its message. The handlers
of DTLS and of MAP-T look at the type of the node as well, which the messages of
the dynamic interface change.
-/
namespace NssDrv.HandlerAssertions
open TransitionRuns HlosInterface InterfaceTables CommonMessage
open SessionRegistration SessionRuns
open DynamicInterface (Di NodeMsg NodeResponse nssIsDynamicInterface
  NSS_DYNAMIC_INTERFACE_TYPE_NONE)
open CapwapRegistration (dynamic_range)

def NSS_DYNAMIC_INTERFACE_TYPE_DTLS : ℕ := 13
def NSS_DYNAMIC_INTERFACE_TYPE_MAP_T : ℕ := 14
def NSS_DYNAMIC_INTERFACE_ALLOC_NODE : ℕ := 0
def NSS_DYNAMIC_INTERFACE_MAX : ℕ := 2

def NSS_TUNIPIP6_INTERFACE : ℕ := 23
def NSS_N2H_INTERFACE : ℕ := 88
def NSS_PPPOE_RX_INTERFACE : ℕ := 91
def NSS_IPV4_RX_INTERFACE : ℕ := 93
def NSS_IPV6_RX_INTERFACE : ℕ := 95
def NSS_DYNAMIC_INTERFACE : ℕ := 108
def NSS_SJACK_INTERFACE : ℕ := 111
def NSS_IPV4_REASM_INTERFACE : ℕ := 112
def NSS_DEBUG_INTERFACE : ℕ := 113
def NSS_WIFI_INTERFACE0 : ℕ := 114
def NSS_WIFI_INTERFACE1 : ℕ := 115
def NSS_WIFI_INTERFACE2 : ℕ := 116
def NSS_IPV6_REASM_INTERFACE : ℕ := 117
def NSS_LAG0_INTERFACE_NUM : ℕ := 118
def NSS_LAG1_INTERFACE_NUM : ℕ := 119
def NSS_LAG2_INTERFACE_NUM : ℕ := 120
def NSS_LAG3_INTERFACE_NUM : ℕ := 121
def NSS_PORTID_INTERFACE : ℕ := 125
def NSS_MAP_T_INTERFACE : ℕ := 127

/-- The handlers of the static interfaces that assert their interface. -/
inductive StaticHandler where
  | portid | dynamicInterface | ipv4Rx | ipv4Reasm | ipv6Rx | ipv6Reasm | lag
  | debugInterface | n2hInterface | pppoeRx | sjack | tunipip6 | wifi
  deriving DecidableEq

/-- The functions as pointers, after those of the families. -/
def StaticHandler.ptr : StaticHandler → ℕ
  | .portid => 9
  | .dynamicInterface => 10
  | .ipv4Rx => 11
  | .ipv4Reasm => 12
  | .ipv6Rx => 13
  | .ipv6Reasm => 14
  | .lag => 15
  | .debugInterface => 16
  | .n2hInterface => 17
  | .pppoeRx => 18
  | .sjack => 19
  | .tunipip6 => 20
  | .wifi => 21

def StaticHandler.ofPtr : ℕ → Option StaticHandler
  | 9 => some .portid
  | 10 => some .dynamicInterface
  | 11 => some .ipv4Rx
  | 12 => some .ipv4Reasm
  | 13 => some .ipv6Rx
  | 14 => some .ipv6Reasm
  | 15 => some .lag
  | 16 => some .debugInterface
  | 17 => some .n2hInterface
  | 18 => some .pppoeRx
  | 19 => some .sjack
  | 20 => some .tunipip6
  | 21 => some .wifi
  | _ => none

/-- What the `BUG_ON` of the handler asserts. -/
def StaticHandler.asserts (h : StaticHandler) (interface : ℕ) : Bool :=
  match h with
  | .portid => interface = NSS_PORTID_INTERFACE
  | .dynamicInterface => interface = NSS_DYNAMIC_INTERFACE
  | .ipv4Rx => interface = NSS_IPV4_RX_INTERFACE
  | .ipv4Reasm => interface = NSS_IPV4_REASM_INTERFACE
  | .ipv6Rx => interface = NSS_IPV6_RX_INTERFACE
  | .ipv6Reasm => interface = NSS_IPV6_REASM_INTERFACE
  | .lag => interface = NSS_LAG0_INTERFACE_NUM ∨ interface = NSS_LAG1_INTERFACE_NUM ∨
      interface = NSS_LAG2_INTERFACE_NUM ∨ interface = NSS_LAG3_INTERFACE_NUM
  | .debugInterface => interface = NSS_DEBUG_INTERFACE
  | .n2hInterface => interface = NSS_N2H_INTERFACE
  | .pppoeRx => interface = NSS_PPPOE_RX_INTERFACE
  | .sjack => interface = NSS_SJACK_INTERFACE
  | .tunipip6 => interface = NSS_TUNIPIP6_INTERFACE
  | .wifi => ¬ (interface < NSS_WIFI_INTERFACE0 ∨ interface > NSS_WIFI_INTERFACE2)

/-- The interfaces that the handler is registered for when the driver starts. -/
def StaticHandler.sites : StaticHandler → List ℕ
  | .portid => [NSS_PORTID_INTERFACE]
  | .dynamicInterface => [NSS_DYNAMIC_INTERFACE]
  | .ipv4Rx => [NSS_IPV4_RX_INTERFACE]
  | .ipv4Reasm => [NSS_IPV4_REASM_INTERFACE]
  | .ipv6Rx => [NSS_IPV6_RX_INTERFACE]
  | .ipv6Reasm => [NSS_IPV6_REASM_INTERFACE]
  | .lag => [NSS_LAG0_INTERFACE_NUM, NSS_LAG1_INTERFACE_NUM, NSS_LAG2_INTERFACE_NUM,
      NSS_LAG3_INTERFACE_NUM]
  | .debugInterface => [NSS_DEBUG_INTERFACE]
  | .n2hInterface => [NSS_N2H_INTERFACE]
  | .pppoeRx => [NSS_PPPOE_RX_INTERFACE]
  | .sjack => [NSS_SJACK_INTERFACE]
  | .tunipip6 => [NSS_TUNIPIP6_INTERFACE]
  | .wifi => [NSS_WIFI_INTERFACE0, NSS_WIFI_INTERFACE1, NSS_WIFI_INTERFACE2]

/-- The base node of a family, for which its handler is registered as well. -/
def Family.base : Family → Option ℕ
  | .greRedir => some NSS_GRE_REDIR_INTERFACE
  | .l2tpv2 => some NSS_L2TPV2_INTERFACE
  | .pptp => some NSS_PPTP_INTERFACE
  | .mapT => some NSS_MAP_T_INTERFACE
  | _ => none

/-- The handlers with the types of the dynamic interfaces. -/
structure Interfaces extends NssTop where
  di : Di

def nssDynamicInterfaceGetType (di : Di) (ifNum : ℤ) : ℕ :=
  if nssIsDynamicInterface ifNum = false then NSS_DYNAMIC_INTERFACE_TYPE_NONE
  else di.type (ifNum - DynamicInterface.NSS_DYNAMIC_IF_START)

/-- What `nss_dtls_verify_if_num` and `nss_map_t_verify_if_num` find. -/
def typeEnv (di : Di) : SessionEnv where
  dtls n := nssDynamicInterfaceGetType di n = NSS_DYNAMIC_INTERFACE_TYPE_DTLS
  mapT n := nssDynamicInterfaceGetType di n = NSS_DYNAMIC_INTERFACE_TYPE_MAP_T

/-- A message, with the node where it is one of the dynamic interface. -/
structure InterfaceMsg extends RxMsg where
  nodeType : ℕ
  ifNum : ℤ

def nssDynamicInterfaceHandler (ncm : InterfaceMsg) (di : Di) : Di :=
  if ncm.type ≥ NSS_DYNAMIC_INTERFACE_MAX then di
  else if ncm.fits = false then di
  else
    let ndim : NodeMsg :=
      if ncm.type = NSS_DYNAMIC_INTERFACE_ALLOC_NODE then .allocNode ncm.nodeType
      else .deallocNode ncm.nodeType ncm.ifNum
    DynamicInterface.nssDynamicInterfaceHandler ndim ⟨ncm.response, ncm.nodeType, ncm.ifNum⟩ di

/-- `none` is a `BUG_ON`. The handlers without one leave all of this as it is. -/
def nssCoreHandleNssStatusPkt (ncm : InterfaceMsg) (s : Interfaces) : Option Interfaces :=
  if ncm.version ≠ NSS_HLOS_MESSAGE_VERSION then some s
  else if ncm.len > ncm.bufLen then some s
  else if ncm.interface ≥ NSS_MAX_NET_INTERFACES then some s
  else match StaticHandler.ofPtr (s.handlers ncm.interface).cb with
    | some h =>
      if h.asserts ncm.interface = false then none
      else if h = .dynamicInterface then
        some { s with di := nssDynamicInterfaceHandler ncm s.di }
      else some s
    | none =>
      (SessionRegistration.nssCoreHandleNssStatusPkt (typeEnv s.di) ncm.toRxMsg s.toNssTop).map
        fun received => { s with toNssTop := received.1 }

/-! ## Runs -/

inductive InterfaceCall where
  | registerStatic (h : StaticHandler) (n : ℕ)
  | registerBase (f : Family) (n : ℕ)
  | register (f : Family) (r : IfParams)
  | unregister (f : Family) (n : ℕ)
  | registerOther (cb n : ℕ)
  | unregisterOther (n : ℕ)
  | receive (ncm : InterfaceMsg)

/-- The handlers that assert nothing of the interface. -/
def Unasserting (cb : ℕ) : Prop :=
  StaticHandler.ofPtr cb = none ∧
    (Family.ofHandler cb = none ∨ Family.ofHandler cb = some .capwap)

/-- The registration functions, with the handlers of others by themselves. -/
inductive InterfaceStep : Interfaces → InterfaceCall → Interfaces → Prop where
  | registerStatic (s : Interfaces) (h : StaticHandler) (n : ℕ) (hsite : n ∈ h.sites) :
      InterfaceStep s (.registerStatic h n)
        { s with toNssTop := s.registerHandler n h.ptr 0 }
  | registerBase (s : Interfaces) (f : Family) (n : ℕ) (hbase : Family.base f = some n) :
      InterfaceStep s (.registerBase f n)
        { s with toNssTop := s.registerHandler n f.handler 0 }
  | register (s : Interfaces) (f : Family) (r : IfParams) (found : Bool) (t : NssTop)
      (h : f.register (typeEnv s.di) r s.toNssTop = some (found, t)) :
      InterfaceStep s (.register f r) { s with toNssTop := t }
  | unregister (s : Interfaces) (f : Family) (n : ℕ) (t : NssTop)
      (h : f.unregister (typeEnv s.di) n s.toNssTop = some t) :
      InterfaceStep s (.unregister f n) { s with toNssTop := t }
  | registerOther (s : Interfaces) (cb n appData : ℕ) (hcb : Unasserting cb) :
      InterfaceStep s (.registerOther cb n)
        { s with toNssTop := s.registerHandler n cb appData }
  | unregisterOther (s : Interfaces) (n : ℕ) :
      InterfaceStep s (.unregisterOther n)
        { s with toNssTop := s.unregisterHandler n }
  | receive (s : Interfaces) (ncm : InterfaceMsg) (t : Interfaces)
      (h : nssCoreHandleNssStatusPkt ncm s = some t) : InterfaceStep s (.receive ncm) t

structure InterfaceStart (s : Interfaces) : Prop where
  handlers : ∀ n, (s.handlers n).cb = 0
  type : ∀ i, s.di.type i = NSS_DYNAMIC_INTERFACE_TYPE_NONE

/-- The handler of a family is registered for a dynamic interface or for the base,
    and the numbers of nodes are those of dynamic interfaces. -/
def OwnNumbers (s : Interfaces) : InterfaceCall → Prop
  | .register f r => r.ifNum < NSS_MAX_NET_INTERFACES → (s.handlers r.ifNum).cb = 0 →
    nssIsDynamicInterface r.ifNum = true ∨ Family.base f = some r.ifNum
  | .receive ncm => ncm.interface = NSS_DYNAMIC_INTERFACE →
    ncm.response = .NSS_CMN_RESPONSE_ACK → nssIsDynamicInterface ncm.ifNum = true
  | _ => True

/-- The families whose handler asserts the type of the node. -/
def Family.nodeType : Family → Option ℕ
  | .dtls => some NSS_DYNAMIC_INTERFACE_TYPE_DTLS
  | .mapT => some NSS_DYNAMIC_INTERFACE_TYPE_MAP_T
  | _ => none

def LetThrough (ncm : InterfaceMsg) : Prop :=
  ncm.version = NSS_HLOS_MESSAGE_VERSION ∧ ncm.len ≤ ncm.bufLen ∧
    ncm.interface < NSS_MAX_NET_INTERFACES

/-- Where the handler is that of DTLS or MAP-T, the message comes for a dynamic
    interface whose node is one of that family. -/
def Typed (s : Interfaces) (ncm : InterfaceMsg) : Prop :=
  LetThrough ncm → ∀ f type, Family.ofHandler (s.handlers ncm.interface).cb = some f →
    Family.nodeType f = some type →
    nssIsDynamicInterface ncm.interface = true ∧
      s.di.type (ncm.interface - DynamicInterface.NSS_DYNAMIC_IF_START) = type

variable {s t : Interfaces} {l : InterfaceCall} {ncm : InterfaceMsg} {f : Family} {n m cb : ℕ}
variable {h : StaticHandler} {env : SessionEnv} {top top' : NssTop}

theorem ofPtr_ptr (h : StaticHandler) : StaticHandler.ofPtr h.ptr = some h := by cases h <;> rfl

theorem ptr_ofPtr {k : ℕ} (hk : StaticHandler.ofPtr k = some h) : k = h.ptr := by
  unfold StaticHandler.ofPtr at hk
  split at hk <;> cases hk <;> rfl

theorem ofHandler_ptr (h : StaticHandler) : Family.ofHandler h.ptr = none := by cases h <;> rfl

theorem ofPtr_handler (f : Family) : StaticHandler.ofPtr f.handler = none := by cases f <;> rfl

theorem site_asserted (hn : n ∈ h.sites) : h.asserts n = true := by
  revert n
  cases h <;> decide

/-- The assertion of the handler of a family. -/
def Family.asserts (f : Family) (env : SessionEnv) (interface : ℕ) : Bool :=
  match f with
  | .capwap => true
  | .dtls => nssDtlsVerifyIfNum env interface
  | .mapT => nssMapTVerifyIfNum env interface
  | .pptp => nssIsDynamicInterface interface ∨ interface = NSS_PPTP_INTERFACE
  | .l2tpv2 => nssIsDynamicInterface interface ∨ interface = NSS_L2TPV2_INTERFACE
  | .tun6rd => nssIsDynamicInterface interface
  | .greRedir => nssIsDynamicInterface interface ∨ interface = NSS_GRE_REDIR_INTERFACE
  | .wifiVdev => nssIsDynamicInterface interface

theorem ite_isSome {α : Type} {p : Prop} [Decidable p] {x y : Option α} (hx : x.isSome = true)
    (hy : y.isSome = true) : (if p then x else y).isSome = true := by
  split
  · exact hx
  · exact hy

/-- A `BUG_ON` before a body that has none. -/
theorem bugOn_isSome {α : Type} {p : Prop} [Decidable p] {b : Bool} {x : Option α}
    (hp : p ↔ b = false) (hx : x.isSome = true) : (if p then none else x).isSome = b := by
  cases b with
  | false =>
    rw [if_pos (hp.mpr rfl)]
    rfl
  | true =>
    rw [if_neg (fun h => nomatch hp.mp h)]
    exact hx

theorem receive_asserted (ncm : RxMsg) :
    (f.receive env ncm top).isSome = Family.asserts f env ncm.interface := by
  have hdevice : ∀ slot max, (receiveWithDevice slot max ncm top).isSome = true := by
    intro slot max
    exact ite_isSome rfl (ite_isSome rfl (ite_isSome rfl (ite_isSome rfl rfl)))
  cases f with
  | capwap => exact ite_isSome (y := ite _ _ _) rfl (ite_isSome rfl rfl)
  | dtls => exact bugOn_isSome Iff.rfl (ite_isSome rfl (ite_isSome rfl rfl))
  | mapT => exact bugOn_isSome Iff.rfl (ite_isSome rfl (ite_isSome rfl rfl))
  | pptp =>
    exact bugOn_isSome decide_eq_false_iff_not.symm (ite_isSome rfl (ite_isSome rfl rfl))
  | l2tpv2 => exact bugOn_isSome decide_eq_false_iff_not.symm (hdevice _ _)
  | tun6rd => exact bugOn_isSome (Bool.not_eq_true _ ▸ Iff.rfl) (hdevice _ _)
  | greRedir =>
    apply bugOn_isSome
    · rw [← not_or]
      exact decide_eq_false_iff_not.symm
    · exact ite_isSome rfl (ite_isSome rfl rfl)
  | wifiVdev =>
    exact bugOn_isSome (Bool.not_eq_true _ ▸ Iff.rfl)
      (ite_isSome rfl (ite_isSome rfl rfl))

/-! ## The invariant -/

/-- The handler, if it asserts anything but a type, accepts the interface. -/
structure Admits (n cb : ℕ) : Prop where
  static : ∀ h, StaticHandler.ofPtr cb = some h → h.asserts n = true
  family : ∀ f, Family.ofHandler cb = some f →
    f = .capwap ∨ nssIsDynamicInterface n = true ∨ Family.base f = some n

def Handled (handlers : RxHandlers) : Prop := ∀ n, Admits n (handlers n).cb

theorem admits_zero : Admits n 0 := by
  constructor
  · intro h hnone
    cases hnone
  · intro f hnone
    cases hnone

theorem admits_static (hn : n ∈ h.sites) : Admits n h.ptr := by
  constructor
  · intro g hg
    rw [ofPtr_ptr] at hg
    obtain rfl := Option.some.inj hg
    exact site_asserted hn
  · intro f hf
    rw [ofHandler_ptr] at hf
    cases hf

theorem admits_family (hn : nssIsDynamicInterface n = true ∨ Family.base f = some n) :
    Admits n f.handler := by
  constructor
  · intro g hg
    rw [ofPtr_handler] at hg
    cases hg
  · intro g hg
    rw [ofHandler_handler] at hg
    obtain rfl := Option.some.inj hg
    exact .inr hn

theorem admits_other (hcb : Unasserting cb) : Admits n cb := by
  obtain ⟨hstatic, hfamily⟩ := hcb
  constructor
  · intro g hg
    rw [hstatic] at hg
    cases hg
  · intro f hf
    rcases hfamily with hnone | hcapwap
    · rw [hnone] at hf
      cases hf
    · rw [hcapwap] at hf
      exact .inl (Option.some.inj hf).symm

theorem register_entry (n cb appData : ℕ) (handlers : RxHandlers) (m : ℕ) :
    (nssCoreRegisterHandler n cb appData handlers).2 m = handlers m ∨
      m = n ∧ n < NSS_MAX_NET_INTERFACES ∧ (handlers n).cb = 0 ∧
        ((nssCoreRegisterHandler n cb appData handlers).2 m).cb = cb := by
  unfold nssCoreRegisterHandler
  split
  · exact .inl rfl
  rename_i hrange
  split
  · exact .inl rfl
  rename_i hfree
  dsimp only
  by_cases hm : m = n
  · subst hm
    rw [Function.update_self]
    exact .inr ⟨rfl, Nat.not_le.mp hrange, not_not.mp hfree, rfl⟩
  · exact .inl (Function.update_of_ne hm _ _)

theorem unregister_entry (n : ℕ) (handlers : RxHandlers) (m : ℕ) :
    (nssCoreUnregisterHandler n handlers).2 m = handlers m ∨
      ((nssCoreUnregisterHandler n handlers).2 m).cb = 0 := by
  unfold nssCoreUnregisterHandler
  split
  · exact .inl rfl
  · dsimp only
    by_cases hm : m = n
    · subst hm
      rw [Function.update_self]
      exact .inr rfl
    · exact .inl (Function.update_of_ne hm _ _)

theorem Handled.register {handlers : RxHandlers} {appData : ℕ} (hs : Handled handlers)
    (hnew : n < NSS_MAX_NET_INTERFACES → (handlers n).cb = 0 → Admits n cb) :
    Handled (nssCoreRegisterHandler n cb appData handlers).2 := by
  intro m
  rcases register_entry n cb appData handlers m with
    hsame | ⟨rfl, hrange, hfree, hcb⟩
  · rw [hsame]
    exact hs m
  · rw [hcb]
    exact hnew hrange hfree

theorem Handled.unregister {handlers : RxHandlers} (hs : Handled handlers) :
    Handled (nssCoreUnregisterHandler n handlers).2 := by
  intro m
  rcases unregister_entry n handlers m with hsame | hcb
  · rw [hsame]
    exact hs m
  · rw [hcb]
    exact admits_zero

theorem status_handlers (h : nssCoreHandleNssStatusPkt ncm s = some t) :
    t.handlers = s.handlers := by
  unfold nssCoreHandleNssStatusPkt at h
  split at h
  · rw [← Option.some.inj h]
  split at h
  · rw [← Option.some.inj h]
  split at h
  · rw [← Option.some.inj h]
  split at h
  · split at h
    · cases h
    split at h
    · rw [← Option.some.inj h]
    · rw [← Option.some.inj h]
  · obtain ⟨⟨top, invoked⟩, htop, rfl⟩ := Option.map_eq_some_iff.mp h
    exact congrArg CapwapTunnel.Capwap.handlers (status_same htop).capwap

theorem Handled.step (hs : Handled s.handlers) (hstep : InterfaceStep s l t)
    (hok : OwnNumbers s l) : Handled t.handlers := by
  cases hstep with
  | registerStatic h n hsite => exact hs.register fun _ _ => admits_static hsite
  | registerBase f n hbase => exact hs.register fun _ _ => admits_family (.inr hbase)
  | register f r found top h =>
    rcases register_cases h with ⟨-, hsame⟩ | ⟨-, -, -, hopened⟩
    · have hhandlers := congrArg CapwapTunnel.Capwap.handlers hsame.capwap
      intro m
      show Admits m (top.handlers m).cb
      rw [hhandlers]
      exact hs m
    · obtain ⟨appData, hhandlers⟩ := hopened.handlers
      intro m
      show Admits m (top.handlers m).cb
      rw [hhandlers]
      exact hs.register (fun hrange hfree => admits_family (hok hrange hfree)) m
  | unregister f n top h =>
    rcases unregister_cases h with hsame | ⟨-, -, hclosed⟩
    · have hhandlers := congrArg CapwapTunnel.Capwap.handlers hsame.capwap
      intro m
      show Admits m (top.handlers m).cb
      rw [hhandlers]
      exact hs m
    · intro m
      show Admits m (top.handlers m).cb
      rw [hclosed.handlers]
      exact hs.unregister m
  | registerOther cb n appData hcb => exact hs.register fun _ _ => admits_other hcb
  | unregisterOther n => exact hs.unregister
  | receive ncm t h =>
    rw [status_handlers h]
    exact hs

theorem base_asserted (hn : nssIsDynamicInterface n = true ∨ Family.base f = some n)
    (htype : Family.nodeType f = none) (hcapwap : f ≠ .capwap) : Family.asserts f env n = true := by
  cases f with
  | capwap => exact absurd rfl hcapwap
  | dtls => cases htype
  | mapT => cases htype
  | tun6rd => exact hn.resolve_right nofun
  | wifiVdev => exact hn.resolve_right nofun
  | pptp => exact decide_eq_true (hn.imp_right fun h => (Option.some.inj h).symm)
  | l2tpv2 => exact decide_eq_true (hn.imp_right fun h => (Option.some.inj h).symm)
  | greRedir => exact decide_eq_true (hn.imp_right fun h => (Option.some.inj h).symm)

theorem type_asserted {di : Di} {type : ℕ} (htype : Family.nodeType f = some type) :
    Family.asserts f (typeEnv di) n = true ↔ nssIsDynamicInterface n = true ∧
      di.type (n - DynamicInterface.NSS_DYNAMIC_IF_START) = type := by
  have hverify : ∀ type, (if nssIsDynamicInterface n = false then false
      else decide (nssDynamicInterfaceGetType di n = type)) = true ↔
      nssIsDynamicInterface n = true ∧
        di.type (n - DynamicInterface.NSS_DYNAMIC_IF_START) = type := by
    intro type
    unfold nssDynamicInterfaceGetType
    by_cases hn : nssIsDynamicInterface n = true
    · simp [hn]
    · simp [hn]
  cases f with
  | dtls =>
    obtain rfl := Option.some.inj htype
    exact hverify _
  | mapT =>
    obtain rfl := Option.some.inj htype
    exact hverify _
  | capwap | pptp | l2tpv2 | tun6rd | greRedir | wifiVdev => cases htype

/-- What gets to a handler passes its assertion exactly where the node has the type
    that the handler asserts. -/
theorem Handled.accepts_iff (hs : Handled s.handlers) (ncm : InterfaceMsg) :
    (nssCoreHandleNssStatusPkt ncm s).isSome = true ↔ Typed s ncm := by
  unfold nssCoreHandleNssStatusPkt
  by_cases hthrough : LetThrough ncm
  · obtain ⟨hversion, hlen, hrange⟩ := hthrough
    have hadmits := hs ncm.interface
    rw [if_neg (not_not.mpr hversion), if_neg (Nat.not_lt.mpr hlen), if_neg (Nat.not_le.mpr hrange)]
    cases hstatic : StaticHandler.ofPtr (s.handlers ncm.interface).cb with
    | some h =>
      have hassert : ¬ h.asserts ncm.interface = false := by
        rw [hadmits.static h hstatic]
        exact nofun
      constructor
      · intro _ _ f type hf
        rw [ptr_ofPtr hstatic, ofHandler_ptr] at hf
        cases hf
      · intro _
        dsimp only
        rw [if_neg hassert]
        exact ite_isSome rfl rfl
    | none =>
      dsimp only
      rw [Option.isSome_map]
      unfold SessionRegistration.nssCoreHandleNssStatusPkt
      rw [if_neg (not_not.mpr hversion), if_neg (Nat.not_lt.mpr hlen),
        if_neg (Nat.not_le.mpr hrange)]
      cases hfamily : Family.ofHandler (s.handlers ncm.interface).cb with
      | none =>
        constructor
        · intro _ _ f type hf
          rw [hfamily] at hf
          cases hf
        · exact fun _ => rfl
      | some f =>
        dsimp only
        rw [receive_asserted]
        cases htype : Family.nodeType f with
        | none =>
          constructor
          · intro _ _ g type hg hgtype
            obtain rfl := Option.some.inj (hfamily.symm.trans hg)
            cases htype.symm.trans hgtype
          · intro _
            by_cases hcapwap : f = .capwap
            · subst hcapwap
              rfl
            · exact base_asserted ((hadmits.family f hfamily).resolve_left hcapwap) htype hcapwap
        | some type =>
          rw [type_asserted htype]
          constructor
          · intro hnode _ g type' hg hgtype
            obtain rfl := Option.some.inj (hfamily.symm.trans hg)
            obtain rfl := Option.some.inj (htype.symm.trans hgtype)
            exact hnode
          · exact fun htyped => htyped ⟨hversion, hlen, hrange⟩ f type hfamily htype
  · constructor
    · exact fun _ hlet => absurd hlet hthrough
    · intro _
      by_cases hversion : ncm.version = NSS_HLOS_MESSAGE_VERSION
      · rw [if_neg (not_not.mpr hversion)]
        by_cases hlen : ncm.len ≤ ncm.bufLen
        · rw [if_neg (Nat.not_lt.mpr hlen)]
          have hrange : ncm.interface ≥ NSS_MAX_NET_INTERFACES :=
            Nat.not_lt.mp fun hrange => hthrough ⟨hversion, hlen, hrange⟩
          rw [if_pos hrange]
          rfl
        · rw [if_pos (Nat.not_le.mp hlen)]
          rfl
      · rw [if_pos hversion]
        rfl

theorem InterfaceStart.handled (h : InterfaceStart s) : Handled s.handlers := by
  intro n
  rw [h.handlers n]
  exact admits_zero

/-! ## Nodes that keep their type -/

/-- A handler is registered for a node of its own type, and until it is
    unregistered the node is neither deallocated nor allocated with another type. -/
def KeepsType (s : Interfaces) : InterfaceCall → Prop
  | .register f r => r.ifNum < NSS_MAX_NET_INTERFACES → (s.handlers r.ifNum).cb = 0 →
    ∀ type, Family.nodeType f = some type →
      s.di.type (r.ifNum - DynamicInterface.NSS_DYNAMIC_IF_START) = type
  | .receive ncm => ncm.interface = NSS_DYNAMIC_INTERFACE →
    ncm.response = .NSS_CMN_RESPONSE_ACK → ∀ f type,
      Family.ofHandler (s.handlers ncm.ifNum.toNat).cb = some f →
      Family.nodeType f = some type → ncm.type = NSS_DYNAMIC_INTERFACE_ALLOC_NODE ∧
        ncm.nodeType = type
  | _ => True

/-- The nodes have the types that the handlers of their interfaces assert. -/
def Settled (s : Interfaces) : Prop :=
  ∀ (n : ℕ) f type, nssIsDynamicInterface n = true →
    Family.ofHandler (s.handlers n).cb = some f → Family.nodeType f = some type →
    s.di.type (n - DynamicInterface.NSS_DYNAMIC_IF_START) = type

theorem handler_type (ncm : InterfaceMsg) (di : Di) {i : ℤ} :
    (nssDynamicInterfaceHandler ncm di).type i = di.type i ∨
      ncm.response = .NSS_CMN_RESPONSE_ACK ∧
        i = ncm.ifNum - DynamicInterface.NSS_DYNAMIC_IF_START ∧
        (ncm.type = NSS_DYNAMIC_INTERFACE_ALLOC_NODE →
          (nssDynamicInterfaceHandler ncm di).type i = ncm.nodeType) := by
  unfold nssDynamicInterfaceHandler
  split
  · exact .inl rfl
  split
  · exact .inl rfl
  dsimp only
  split
  · rename_i halloc
    unfold DynamicInterface.nssDynamicInterfaceHandler
    dsimp only
    split
    · rename_i hack
      split
      · by_cases hi : i = ncm.ifNum - DynamicInterface.NSS_DYNAMIC_IF_START
        · subst hi
          exact .inr ⟨hack, rfl, fun _ => Function.update_self _ _ _⟩
        · exact .inl (Function.update_of_ne hi _ _)
      · exact .inl rfl
    · exact .inl rfl
  · rename_i halloc
    unfold DynamicInterface.nssDynamicInterfaceHandler
    dsimp only
    split
    · rename_i hack
      by_cases hi : i = ncm.ifNum - DynamicInterface.NSS_DYNAMIC_IF_START
      · exact .inr ⟨hack, hi, fun h => absurd h halloc⟩
      · exact .inl (Function.update_of_ne hi _ _)
    · exact .inl rfl

theorem status_di (h : nssCoreHandleNssStatusPkt ncm s = some t) :
    t.di = s.di ∨ ncm.interface = NSS_DYNAMIC_INTERFACE ∧
      t.di = nssDynamicInterfaceHandler ncm s.di := by
  unfold nssCoreHandleNssStatusPkt at h
  split at h
  · rw [← Option.some.inj h]
    exact .inl rfl
  split at h
  · rw [← Option.some.inj h]
    exact .inl rfl
  split at h
  · rw [← Option.some.inj h]
    exact .inl rfl
  split at h
  · split at h
    · cases h
    rename_i hasserts
    split at h
    · rename_i hdynamic
      subst hdynamic
      rw [← Option.some.inj h]
      refine .inr ⟨?_, rfl⟩
      exact of_decide_eq_true (Bool.not_eq_false _ ▸ hasserts)
    · rw [← Option.some.inj h]
      exact .inl rfl
  · obtain ⟨received, -, rfl⟩ := Option.map_eq_some_iff.mp h
    exact .inl rfl

theorem Settled.entries (hs : Settled s) (hdi : t.di = s.di)
    (hentries : ∀ m, (t.handlers m).cb = (s.handlers m).cb ∨ (t.handlers m).cb = 0 ∨
      (nssIsDynamicInterface m = true → ∀ f type, Family.ofHandler (t.handlers m).cb = some f →
        Family.nodeType f = some type →
        s.di.type (m - DynamicInterface.NSS_DYNAMIC_IF_START) = type)) : Settled t := by
  intro m f type hm hf htype
  rw [hdi]
  rcases hentries m with hsame | hzero | hnew
  · rw [hsame] at hf
    exact hs m f type hm hf htype
  · rw [hzero] at hf
    cases hf
  · exact hnew hm f type hf htype

theorem Settled.register {appData : ℕ} (hs : Settled s) (hdi : t.di = s.di)
    (hhandlers : t.handlers = (nssCoreRegisterHandler n cb appData s.handlers).2)
    (hnew : n < NSS_MAX_NET_INTERFACES → (s.handlers n).cb = 0 →
      nssIsDynamicInterface n = true → ∀ f type,
      Family.ofHandler cb = some f → Family.nodeType f = some type →
      s.di.type (n - DynamicInterface.NSS_DYNAMIC_IF_START) = type) : Settled t := by
  apply hs.entries hdi
  intro m
  rw [hhandlers]
  rcases register_entry n cb appData s.handlers m with
    hsame | ⟨rfl, hrange, hfree, hcb⟩
  · exact .inl (congrArg RxHandler.cb hsame)
  · rw [hcb]
    exact .inr (.inr (hnew hrange hfree))

theorem Settled.unregister (hs : Settled s) (hdi : t.di = s.di)
    (hhandlers : t.handlers = (nssCoreUnregisterHandler n s.handlers).2) : Settled t := by
  apply hs.entries hdi
  intro m
  rw [hhandlers]
  rcases unregister_entry n s.handlers m with hsame | hcb
  · exact .inl (congrArg RxHandler.cb hsame)
  · exact .inr (.inl hcb)

theorem Settled.receive (hs : Settled s) (h : nssCoreHandleNssStatusPkt ncm s = some t)
    (hok : KeepsType s (.receive ncm)) : Settled t := by
  have hhandlers := status_handlers h
  rcases status_di h with hdi | ⟨hinterface, hdi⟩
  · exact hs.entries hdi fun m => .inl (congrArg (fun handlers => (handlers m).cb) hhandlers)
  · intro n f type hn hf htype
    rw [hhandlers] at hf
    rw [hdi]
    rcases handler_type ncm s.di with hsame | ⟨hack, hnum, hnew⟩
    · rw [hsame]
      exact hs n f type hn hf htype
    · have hifNum : ncm.ifNum.toNat = n := by omega
      rw [← hifNum] at hf
      obtain ⟨halloc, hnode⟩ := hok hinterface hack f type hf htype
      rw [hnew halloc, hnode]

theorem base_static (h : Family.base f = some n) : nssIsDynamicInterface n = false := by
  cases f <;> cases h <;> rfl

theorem Settled.step (hs : Settled s) (hstep : InterfaceStep s l t) (hok : KeepsType s l) :
    Settled t := by
  cases hstep with
  | registerStatic h n hsite =>
    refine hs.register ?_ rfl ?_
    · rfl
    intro _ _ _ f type hf
    rw [ofHandler_ptr] at hf
    cases hf
  | registerBase f n hbase =>
    refine hs.register ?_ rfl ?_
    · rfl
    intro _ _ hn
    cases hn.symm.trans (base_static hbase)
  | register f r found top h =>
    rcases register_cases h with ⟨-, hsame⟩ | ⟨-, -, -, hopened⟩
    · have hhandlers := congrArg CapwapTunnel.Capwap.handlers hsame.capwap
      refine hs.entries ?_ fun m => .inl (congrArg (fun handlers => (handlers m).cb) hhandlers)
      rfl
    · obtain ⟨appData, hhandlers⟩ := hopened.handlers
      refine hs.register ?_ hhandlers ?_
      · rfl
      intro hrange hfree _ g type hg htype
      rw [ofHandler_handler] at hg
      obtain rfl := Option.some.inj hg
      exact hok hrange hfree type htype
  | unregister f n top h =>
    rcases unregister_cases h with hsame | ⟨-, -, hclosed⟩
    · have hhandlers := congrArg CapwapTunnel.Capwap.handlers hsame.capwap
      refine hs.entries ?_ fun m => .inl (congrArg (fun handlers => (handlers m).cb) hhandlers)
      rfl
    · refine hs.unregister ?_ hclosed.handlers
      rfl
  | registerOther cb n appData hcb =>
    refine hs.register ?_ rfl ?_
    · rfl
    intro _ _ _ f type hf htype
    rcases hcb.2 with hnone | hcapwap
    · cases hnone.symm.trans hf
    · obtain rfl := Option.some.inj (hcapwap.symm.trans hf)
      cases htype
  | unregisterOther n =>
    refine hs.unregister ?_ rfl
    rfl
  | receive ncm t h => exact hs.receive h hok

/-- Where the nodes keep their types, every message is accepted but those for the
    base node of MAP-T. -/
theorem Settled.accepts (hsettled : Settled s) (hhandled : Handled s.handlers) {ncm : InterfaceMsg}
    (hbase : ncm.interface ≠ NSS_MAP_T_INTERFACE) :
    (nssCoreHandleNssStatusPkt ncm s).isSome = true := by
  rw [hhandled.accepts_iff]
  intro _ f type hf htype
  have hdynamic : nssIsDynamicInterface ncm.interface = true := by
    rcases (hhandled ncm.interface).family f hf with rfl | hn | hn
    · cases htype
    · exact hn
    · cases f with
      | mapT => exact absurd (Option.some.inj hn).symm hbase
      | capwap | dtls | pptp | l2tpv2 | tun6rd | greRedir | wifiVdev =>
        first | cases hn | cases htype
  exact ⟨hdynamic, hsettled _ f type hdynamic hf htype⟩

/-- In every run whose registrations are for the family's own numbers, a message
    gets past the assertion of its handler exactly where it meets the condition on
    the type of its node. Nodes that keep their types meet it. -/
theorem messages_accepted_iff {s : Interfaces}
    (h : Reachable InterfaceStart (Guarded InterfaceStep OwnNumbers) s) (ncm : InterfaceMsg) :
    ((nssCoreHandleNssStatusPkt ncm s).isSome = true ↔ Typed s ncm) ∧
    (Reachable InterfaceStart
        (Guarded InterfaceStep fun s l => OwnNumbers s l ∧ KeepsType s l) s →
      ncm.interface ≠ NSS_MAP_T_INTERFACE → (nssCoreHandleNssStatusPkt ncm s).isSome = true) := by
  have hhandled : Handled s.handlers := by
    refine h.invariant (fun s => Handled s.handlers) (fun s hs => InterfaceStart.handled hs) ?_
    intro s l t hs ⟨hstep, hok⟩
    exact Handled.step hs hstep hok
  refine ⟨hhandled.accepts_iff ncm, fun hkeeps hbase => ?_⟩
  have hs : Handled s.handlers ∧ Settled s := by
    refine hkeeps.invariant (fun s => Handled s.handlers ∧ Settled s) ?_ ?_
    · intro s hs
      refine ⟨hs.handled, fun n f type _ hf => ?_⟩
      rw [hs.handlers n] at hf
      cases hf
    · intro s l t ⟨hs, hsettled⟩ ⟨hstep, hok⟩
      exact ⟨Handled.step hs hstep hok.1, hsettled.step hstep hok.2⟩
  exact hs.2.accepts hhandled hbase

def blankInterfaces : Interfaces where
  toNssTop := { NotifyRouting.blankTop with handlers := fun _ => ⟨0, 0⟩ }
  di := ⟨-1, .NSS_CMN_RESPONSE_ACK, fun _ => NSS_DYNAMIC_INTERFACE_TYPE_NONE⟩

theorem blankInterfaces_start : InterfaceStart blankInterfaces := ⟨fun _ => rfl, fun _ => rfl⟩

/-- A message of the first type, acknowledged, about a node of DTLS. -/
def acknowledged (interface : ℕ) : InterfaceMsg where
  version := 0
  len := 0
  bufLen := 100
  interface := interface
  type := NSS_DYNAMIC_INTERFACE_ALLOC_NODE
  fits := true
  response := .NSS_CMN_RESPONSE_ACK
  cb := 0
  appData := 0
  dtlsStats := fun _ => 0
  pptpStats := fun _ => 0
  nodeType := NSS_DYNAMIC_INTERFACE_TYPE_DTLS
  ifNum := 24

def dtlsParams : IfParams := ⟨24, 1, 5, ⟨9, 3⟩, 0, 0⟩

/-- A node of DTLS is allocated and registered. -/
theorem messages_accepted_dtls : ∃ s, Family.ofHandler (s.handlers 24).cb = some .dtls ∧
    ((nssCoreHandleNssStatusPkt (acknowledged 24) s).isSome = true ↔
      Typed s (acknowledged 24)) ∧
    (nssCoreHandleNssStatusPkt (acknowledged 24) s).isSome = true := by
  have hstart : Reachable InterfaceStart
      (Guarded InterfaceStep fun s l => OwnNumbers s l ∧ KeepsType s l) blankInterfaces :=
    .start blankInterfaces_start
  have hone := hstart.next
    ⟨.registerStatic _ .dynamicInterface NSS_DYNAMIC_INTERFACE (by decide), trivial, trivial⟩
  have htwo := hone.next
    ⟨.receive _ (acknowledged NSS_DYNAMIC_INTERFACE) _ rfl, fun _ _ => rfl,
      fun _ _ _ _ hf => nomatch hf⟩
  have hthree := htwo.next
    ⟨.register _ .dtls (dtlsParams) true _ rfl, fun _ _ => .inl rfl,
      fun _ _ type htype => Option.some.inj htype⟩
  have hweak := hthree.weaken fun _ _ h => h.1
  have haccepted := messages_accepted_iff hweak (acknowledged 24)
  exact ⟨_, rfl, haccepted.1, haccepted.2 hthree (by decide)⟩

/-- The handler of MAP-T is registered for its base node, and does not accept it. -/
theorem messages_refused : ¬ ∀ s, Reachable InterfaceStart InterfaceStep s → ∀ ncm,
    (nssCoreHandleNssStatusPkt ncm s).isSome = true := by
  intro hall
  have hstart : Reachable InterfaceStart InterfaceStep blankInterfaces :=
    .start blankInterfaces_start
  have hbase := hstart.next (.registerBase _ .mapT NSS_MAP_T_INTERFACE rfl)
  have haccepted := hall _ hbase (acknowledged NSS_MAP_T_INTERFACE)
  cases haccepted

end NssDrv.HandlerAssertions

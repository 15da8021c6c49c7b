import NssDrv.CapwapTunnel
import NssDrv.ThreadRuns

set_option autoImplicit false

/-!
# Registration of CAPWAP tunnels

The registration calls one after the other.
-/
namespace NssDrv.CapwapRegistration
open CallTree ThreadRuns TransitionRuns HlosInterface InterfaceTables CapwapTunnel TransmitApi
open DynamicInterface (nssIsDynamicInterface)

inductive RegistrationCall where
  | notifyRegister (ifNum cb appData : ℕ)
  | notifyUnregister (nssTop ifNum : ℕ)
  | dataRegister (ifNum cb netdev features : ℕ)
  | dataUnregister (ifNum : ℕ)

def RegistrationCall.call : RegistrationCall → CapwapCall CapwapResult
  | .notifyRegister ifNum cb appData => nssCapwapNotifyRegister ifNum cb appData
  | .notifyUnregister nssTop ifNum => nssCapwapNotifyUnregister nssTop ifNum
  | .dataRegister ifNum cb netdev features => nssCapwapDataRegister ifNum cb netdev features
  | .dataUnregister ifNum => nssCapwapDataUnregister ifNum

/-- What a call meets: the dynamic interfaces of CAPWAP, and whether there is
    memory for a handle. -/
structure Env where
  capwap : ℕ → Bool
  memory : Bool

namespace Env

def Allows (env : Env) : CapwapEvent → Prop
  | .saw (.isCapwap ifNum) a => a = env.capwap ifNum
  | .saw .kmalloc (some _) => env.memory = true
  | .saw .kmalloc none => env.memory = false
  | _ => True

def verifies (env : Env) (ifNum : ℕ) : Bool := nssIsDynamicInterface ifNum && env.capwap ifNum

def effect (env : Env) (s : Capwap Unit) (e : CapwapEvent) (t : Capwap Unit) : Prop :=
  s.Effect () e t ∧ env.Allows e

end Env

structure Performed where
  call : RegistrationCall
  env : Env
  result : Option CapwapResult

def RegistrationStep (s : Capwap Unit) (l : Performed) (t : Capwap Unit) : Prop :=
  Exec l.env.effect s l.call.call t l.result

def Failed : CapwapResult → Prop
  | .ctx found => found = false
  | .status status => status ≠ .success
  | .done ok => ok = false

variable {α : Type} {env : Env} {s t u : Capwap Unit} {r : Option α} {ifNum : ℕ}

theorem exec_verify {k : Bool → CapwapCall α}
    (h : Exec env.effect s (nssCapwapVerifyIfNum ifNum >>= k) u r) :
    Exec env.effect s (k (env.verifies ifNum)) u r := by
  unfold nssCapwapVerifyIfNum at h
  unfold Env.verifies
  split at h
  · rename_i hstatic
    rwa [hstatic]
  · rename_i hdynamic
    rw [Bool.not_eq_false] at hdynamic
    rcases exec_ask h with ⟨-, -, hempty⟩ | ⟨a, t, ⟨rfl, ha⟩, hrest⟩
    · exact hempty.elim true
    · obtain rfl : a = env.capwap ifNum := ha
      rwa [hdynamic, Bool.true_and]

theorem exec_lock {k : Unit → CapwapCall α}
    (h : Exec env.effect s (tell .spinLock >>= k) u r) :
    s.lock = none ∧ Exec env.effect { s with lock := some () } (k ()) u r := by
  obtain ⟨t, ⟨⟨hfree, rfl⟩, -⟩, hrest⟩ := exec_tell h
  exact ⟨hfree, hrest⟩

theorem exec_unlock {k : Unit → CapwapCall α}
    (h : Exec env.effect s (tell .spinUnlock >>= k) u r) :
    Exec env.effect { s with lock := none } (k ()) u r := by
  obtain ⟨t, ⟨rfl, -⟩, hrest⟩ := exec_tell h
  exact hrest

theorem exec_hdl {k : Option ℕ → CapwapCall α}
    (h : Exec env.effect s (readHdl ifNum >>= k) u r) :
    Exec env.effect s (k (s.hdl (hdlIndex ifNum))) u r := by
  rcases exec_ask h with ⟨-, -, hempty⟩ | ⟨a, t, ⟨⟨rfl, rfl⟩, -⟩, hrest⟩
  · exact hempty.elim none
  · exact hrest

theorem exec_refcnt {a : ℕ} {x : CapwapHandle} {k : ℤ → CapwapCall α}
    (ha : s.hdl (hdlIndex ifNum) = some a) (hx : s.heap a = some x)
    (h : Exec env.effect s (nssCapwapRefcnt ifNum >>= k) u r) :
    Exec env.effect s (k x.refcnt) u r := by
  rw [nssCapwapRefcnt, bind_assoc] at h
  have h := exec_hdl h
  rw [ha] at h
  rcases exec_ask h with ⟨-, -, hempty⟩ | ⟨v, t, ⟨⟨hv, rfl⟩, -⟩, hrest⟩
  · exact hempty.elim (0 : ℤ)
  · rwa [hv x hx] at hrest

theorem exec_giveUp {a : α} (hfree : s.lock = none)
    (h : Exec env.effect { s with lock := some () }
      (tell .spinUnlock >>= fun _ => pure a) u r) :
    u = s ∧ r = some a := by
  have h := exec_unlock h
  obtain ⟨rfl, rfl⟩ := exec_ret h
  refine ⟨?_, rfl⟩
  cases s
  cases hfree
  rfl

theorem lock_unlock (hfree : s.lock = none) :
    ({ s with lock := none } : Capwap Unit) = s := by
  cases s
  cases hfree
  rfl

theorem exec_notifyRegister (cb appData : ℕ) {r : Option CapwapResult}
    (h : Exec env.effect s (nssCapwapNotifyRegister ifNum cb appData) u r) :
    u = s ∧ ∃ found, r = some (.ctx found) := by
  have h := exec_verify h
  split at h
  · obtain ⟨rfl, rfl⟩ := exec_ret h
    exact ⟨rfl, _, rfl⟩
  · obtain ⟨hfree, h⟩ := exec_lock h
    have h := exec_hdl h
    split at h
    · obtain ⟨rfl, rfl⟩ := exec_giveUp hfree h
      exact ⟨rfl, _, rfl⟩
    · obtain ⟨rfl, rfl⟩ := exec_giveUp hfree h
      exact ⟨rfl, _, rfl⟩

/-- `Refused` where nothing has changed. -/
theorem exec_notifyUnregister {nssTop : ℕ} {r : Option CapwapResult}
    (hlive : ∀ h, s.hdl (hdlIndex ifNum) = some h → ∃ x, s.heap h = some x)
    (h : Exec env.effect s (nssCapwapNotifyUnregister nssTop ifNum) u r) :
    (u = s ∧ ∃ why, r = some (.status (.refused why))) ∨
      (∃ h, s.hdl (hdlIndex ifNum) = some h ∧
        u = s.modify h (fun x => { x with appData := 0, msgCallback := 0 }) ∧
          r = some (.status .success)) := by
  have h := exec_verify h
  split at h
  · obtain ⟨rfl, rfl⟩ := exec_ret h
    exact .inl ⟨rfl, _, rfl⟩
  split at h
  · obtain ⟨rfl, rfl⟩ := exec_ret h
    exact .inl ⟨rfl, _, rfl⟩
  obtain ⟨hfree, h⟩ := exec_lock h
  have h := exec_hdl h
  split at h
  · obtain ⟨rfl, rfl⟩ := exec_giveUp hfree h
    exact .inl ⟨rfl, _, rfl⟩
  rename_i hne
  obtain ⟨a, ha⟩ := Option.ne_none_iff_exists'.mp hne
  obtain ⟨x, hx⟩ := hlive a ha
  have h := exec_refcnt ha hx h
  split at h
  · obtain ⟨rfl, rfl⟩ := exec_giveUp hfree h
    exact .inl ⟨rfl, _, rfl⟩
  rw [nssCapwapSetMsgCallback, bind_assoc] at h
  have h := exec_hdl h
  rw [ha] at h
  obtain ⟨t, ⟨rfl, -⟩, h⟩ := exec_tell h
  have h := exec_unlock h
  obtain ⟨rfl, rfl⟩ := exec_ret h
  refine .inr ⟨a, ha, ?_, rfl⟩
  exact lock_unlock (s := s.modify a _) hfree

theorem exec_setDp {f : DpRegister → DpRegister} {k : Unit → CapwapCall α}
    (h : Exec env.effect s (tell (.setDp ifNum f) >>= k) u r) :
    Exec env.effect { s with dp := Function.update s.dp ifNum (f (s.dp ifNum)) } (k ()) u r := by
  obtain ⟨t, ⟨rfl, -⟩, hrest⟩ := exec_tell h
  exact hrest

theorem exec_setSlot {ndev cb appData features : ℕ} {k : Unit → CapwapCall α}
    (h : Exec env.effect s (do
      tell (.setDp ifNum fun dp => { dp with cb := cb })
      tell (.setDp ifNum fun dp => { dp with appData := appData })
      tell (.setDp ifNum fun dp => { dp with ndev := ndev })
      tell (.setDp ifNum fun dp => { dp with features := features }) >>= k) u r) :
    Exec env.effect { s with dp := Function.update s.dp ifNum ⟨ndev, cb, appData, features⟩ }
      (k ()) u r := by
  have h := exec_setDp (exec_setDp (exec_setDp (exec_setDp h)))
  simpa only [Function.update_idem, Function.update_self] using h

def Capwap.registered (s : Capwap Unit) (ifNum a cb netdev features : ℕ) : Capwap Unit :=
  { s with
    hdl := Function.update s.hdl (hdlIndex ifNum) (some a)
    heap := Function.update s.heap a (some ⟨0, ifNum, 0, 0⟩)
    handlers := Function.update s.handlers ifNum ⟨nssCapwapMsgHandler, 0⟩
    dp := Function.update s.dp ifNum ⟨netdev, cb, 0, features⟩ }

def Capwap.unregistered (s : Capwap Unit) (ifNum a : ℕ) : Capwap Unit :=
  { s with
    hdl := Function.update s.hdl (hdlIndex ifNum) none
    heap := Function.update s.heap a none
    handlers := (nssCoreUnregisterHandler ifNum s.handlers).2
    dp := Function.update s.dp ifNum ⟨0, 0, 0, 0⟩ }

theorem exec_instanceAlloc {r : Option Bool}
    (h : Exec env.effect s (nssCapwapInstanceAlloc ifNum) u r) (hfree : s.lock = none)
    (hempty : s.hdl (hdlIndex ifNum) = none) :
    (env.memory = false ∧ u = s ∧ r = some false) ∨
      (env.memory = true ∧ ∃ a, s.heap a = none ∧ u = { s with
        hdl := Function.update s.hdl (hdlIndex ifNum) (some a)
        heap := Function.update s.heap a (some ⟨0, ifNum, 0, 0⟩) } ∧ r = some true) := by
  rcases exec_ask h with ⟨-, -, hnone⟩ | ⟨a, t, ⟨heffect, hallows⟩, hrest⟩
  · exact hnone.elim none
  cases a with
  | none =>
    obtain rfl := heffect
    obtain ⟨rfl, rfl⟩ := exec_ret hrest
    exact .inl ⟨hallows, rfl, rfl⟩
  | some a =>
    obtain ⟨hnew, x, rfl⟩ := heffect
    obtain ⟨t, ⟨rfl, -⟩, h⟩ := exec_tell hrest
    obtain ⟨-, h⟩ := exec_lock h
    have h := exec_hdl h
    have hempty' : ∀ heap, ({ s with heap := heap, lock := some () } : Capwap Unit).hdl
        (hdlIndex ifNum) = none := fun _ => hempty
    unfold Capwap.modify at h
    rw [hempty'] at h
    obtain ⟨t, ⟨rfl, -⟩, h⟩ := exec_tell h
    have h := exec_unlock h
    obtain ⟨rfl, rfl⟩ := exec_ret h
    refine .inr ⟨hallows, a, hnew, ?_, rfl⟩
    cases s
    cases hfree
    simp only [Function.update_idem, Function.update_self, Option.map_some]

theorem exec_ndev {k : ℕ → CapwapCall α} (h : Exec env.effect s (readNdev ifNum >>= k) u r) :
    Exec env.effect s (k (s.dp ifNum).ndev) u r := by
  rcases exec_ask h with ⟨-, -, hnone⟩ | ⟨a, t, ⟨⟨rfl, rfl⟩, -⟩, hrest⟩
  · exact hnone.elim (0 : ℕ)
  · exact hrest

theorem exec_registerHandler {cb appData : ℕ} {k : CoreStatus → CapwapCall α}
    (h : Exec env.effect s (registerHandler ifNum cb appData >>= k) u r) :
    Exec env.effect { s with handlers := (nssCoreRegisterHandler ifNum cb appData s.handlers).2 }
      (k (nssCoreRegisterHandler ifNum cb appData s.handlers).1) u r := by
  rcases exec_ask h with ⟨-, -, hnone⟩ | ⟨a, t, ⟨⟨rfl, rfl⟩, -⟩, hrest⟩
  · exact hnone.elim CoreStatus.success
  · exact hrest

/-- What a registration does where a handle has its handler. -/
inductive DataRegistered (env : Env) (s : Capwap Unit) (ifNum cb netdev features : ℕ) :
    Capwap Unit → Option CapwapResult → Prop where
  | refused : DataRegistered env s ifNum cb netdev features s (some (.ctx false))
  | noMemory (hmemory : env.memory = false) (hverifies : env.verifies ifNum = true)
      (hndev : (s.dp ifNum).ndev = 0) (hcb : (s.handlers ifNum).cb = 0) :
      DataRegistered env s ifNum cb netdev features
        { s with handlers := Function.update s.handlers ifNum ⟨nssCapwapMsgHandler, 0⟩ }
        (some (.ctx false))
  | registered (a : ℕ) (hnew : s.heap a = none) (hcb : (s.handlers ifNum).cb = 0)
      (hdynamic : nssIsDynamicInterface ifNum = true) :
      DataRegistered env s ifNum cb netdev features
        (Capwap.registered s ifNum a cb netdev features) (some (.ctx true))

theorem exec_dataRegister {cb netdev features : ℕ} {r : Option CapwapResult} (hfree : s.lock = none)
    (hexact : nssIsDynamicInterface ifNum = true → (s.handlers ifNum).cb = 0 →
      s.hdl (hdlIndex ifNum) = none)
    (h : Exec env.effect s (nssCapwapDataRegister ifNum cb netdev features) u r) :
    DataRegistered env s ifNum cb netdev features u r := by
  have h := exec_verify h
  split at h
  · obtain ⟨rfl, rfl⟩ := exec_ret h
    exact .refused
  rename_i hverifies
  rw [Bool.not_eq_false] at hverifies
  have hdynamic : nssIsDynamicInterface ifNum = true := (Bool.and_eq_true_iff.mp hverifies).1
  obtain ⟨-, h⟩ := exec_lock h
  have h := exec_ndev h
  split at h
  · obtain ⟨rfl, rfl⟩ := exec_giveUp hfree h
    exact .refused
  rename_i hndev
  have h := exec_unlock h
  dsimp only at h
  rw [lock_unlock hfree] at h
  have h := exec_registerHandler h
  split at h
  · rename_i hstatus
    obtain ⟨rfl, rfl⟩ := exec_ret h
    rw [registerHandler_failure hstatus]
    exact .refused
  rename_i hstatus
  obtain ⟨hcb, hhandlers⟩ := registerHandler_success (not_not.mp hstatus)
  rw [hhandlers] at h
  have hempty := hexact hdynamic hcb
  rcases exec_bind h with ⟨t, ok, halloc, h⟩ | ⟨halloc, rfl⟩
  · rcases exec_instanceAlloc halloc hfree hempty with
      ⟨hmemory, rfl, hok⟩ | ⟨-, a, hnew, rfl, hok⟩
    · obtain rfl := Option.some.inj hok
      obtain ⟨rfl, rfl⟩ := exec_ret h
      exact .noMemory hmemory hverifies (not_not.mp hndev) hcb
    · obtain rfl := Option.some.inj hok
      have h := exec_setSlot h
      obtain ⟨rfl, rfl⟩ := exec_ret h
      exact .registered a hnew hcb hdynamic
  · rcases exec_instanceAlloc halloc hfree hempty with ⟨-, -, hok⟩ | ⟨-, a, -, -, hok⟩
    · cases hok
    · cases hok

theorem exec_dataUnregister {a : ℕ} {x : CapwapHandle} {r : Option CapwapResult}
    (hfree : s.lock = none) (ha : s.hdl (hdlIndex ifNum) = some a) (hx : s.heap a = some x)
    (hcount : x.refcnt = 0) (h : Exec env.effect s (nssCapwapDataUnregister ifNum) u r) :
    (u = s ∧ r = some (.done false)) ∨ (nssIsDynamicInterface ifNum = true ∧
      u = Capwap.unregistered s ifNum a ∧ r = some (.done true)) := by
  have h := exec_verify h
  split at h
  · obtain ⟨rfl, rfl⟩ := exec_ret h
    exact .inl ⟨rfl, rfl⟩
  rename_i hverifies
  rw [Bool.not_eq_false] at hverifies
  obtain ⟨-, h⟩ := exec_lock h
  have h := exec_refcnt (s := { s with lock := some () }) ha hx h
  split at h
  · exact absurd hcount ‹_›
  have h := exec_hdl h
  dsimp only at h
  rw [ha] at h
  obtain ⟨t, ⟨rfl, -⟩, h⟩ := exec_tell h
  have h := exec_unlock h
  obtain ⟨t, ⟨rfl, -⟩, h⟩ := exec_tell h
  have h := exec_setSlot h
  obtain ⟨t, ⟨rfl, -⟩, h⟩ := exec_tell h
  obtain ⟨rfl, rfl⟩ := exec_ret h
  refine .inr ⟨(Bool.and_eq_true_iff.mp hverifies).1, ?_, rfl⟩
  cases s
  cases hfree
  rfl

theorem exec_unverified {r : Option CapwapResult} (hverifies : env.verifies ifNum = false)
    (h : Exec env.effect s (nssCapwapDataUnregister ifNum) u r) :
    u = s ∧ r = some (.done false) := by
  have h := exec_verify h
  rw [if_pos hverifies] at h
  exact exec_ret h

/-- Behind a lock that nobody releases there is nothing but the refusals before it. -/
theorem exec_dataRegister_locked {cb netdev features : ℕ} {r : Option CapwapResult}
    (hlock : s.lock ≠ none)
    (h : Exec env.effect s (nssCapwapDataRegister ifNum cb netdev features) u r) :
    u = s ∧ r = some (.ctx false) := by
  have h := exec_verify h
  split at h
  · exact exec_ret h
  · exact absurd (exec_lock h).1 hlock

theorem exec_dataUnregister_locked {r : Option CapwapResult} (hlock : s.lock ≠ none)
    (h : Exec env.effect s (nssCapwapDataUnregister ifNum) u r) :
    u = s ∧ r = some (.done false) := by
  have h := exec_verify h
  split at h
  · exact exec_ret h
  · exact absurd (exec_lock h).1 hlock

theorem exec_dataUnregister_missing {r : Option CapwapResult}
    (hmissing : s.hdl (hdlIndex ifNum) = none)
    (h : Exec env.effect s (nssCapwapDataUnregister ifNum) u r) :
    (u = s ∧ r = some (.done false)) ∨ (u = { s with lock := some () } ∧ r = none) := by
  have h := exec_verify h
  split at h
  · exact .inl (exec_ret h)
  obtain ⟨-, h⟩ := exec_lock h
  rw [nssCapwapRefcnt, bind_assoc] at h
  have h := exec_hdl h
  dsimp only at h
  rw [hmissing] at h
  obtain ⟨t, ⟨rfl, -⟩, h⟩ := exec_tell h
  rcases exec_ask h with ⟨rfl, rfl, -⟩ | ⟨a, -⟩
  · exact .inr ⟨rfl, rfl⟩
  · exact a.elim

theorem exec_notifyRegister_found (cb appData : ℕ)
    (h : Exec env.effect s (nssCapwapNotifyRegister ifNum cb appData) u (some (.ctx true))) :
    env.verifies ifNum = true ∧ s.hdl (hdlIndex ifNum) = none := by
  have h := exec_verify h
  split at h
  · cases (exec_ret h).2
  rename_i hverifies
  obtain ⟨hfree, h⟩ := exec_lock h
  have h := exec_hdl h
  split at h
  · cases (exec_giveUp hfree h).2
  · rename_i hnone
    exact ⟨Bool.not_eq_false _ ▸ hverifies, not_not.mp hnone⟩

/-- A handle has its handler. -/
def Paired (s : Capwap Unit) : Prop :=
  ∀ n : ℕ, nssIsDynamicInterface n = true →
    ((s.handlers n).cb ≠ 0 ↔ s.hdl (hdlIndex n) ≠ none)

/-- A call that fails has changed nothing, and to unregister what is not
    registered is refused. -/
structure Honest (s : Capwap Unit) (l : Performed) (t : Capwap Unit) : Prop where
  failed : ∀ a, l.result = some a → Failed a → t = s
  refused : ∀ n, (l.call = .dataUnregister n ∨ ∃ nssTop, l.call = .notifyUnregister nssTop n) →
    s.hdl (hdlIndex n) = none → t = s ∧ ∃ a, l.result = some a ∧ Failed a

/-- There is memory where a handle is allocated, and the tunnel is there where
    one is unregistered. -/
def Prepared (s : Capwap Unit) (l : Performed) : Prop :=
  match l.call with
  | .dataRegister n _ _ _ => l.env.memory = true ∨ l.env.verifies n = false ∨
    (s.dp n).ndev ≠ 0 ∨ (s.handlers n).cb ≠ 0
  | .dataUnregister n => l.env.verifies n = false ∨ s.hdl (hdlIndex n) ≠ none
  | _ => True

structure RegistrationStart (s : Capwap Unit) : Prop where
  lock : s.lock = none
  hdl : ∀ n, s.hdl n = none
  handlers : ∀ n : ℕ, nssIsDynamicInterface n = true → (s.handlers n).cb = 0

structure Consistent (s : Capwap Unit) : Prop where
  lock : s.lock = none
  paired : Paired s
  uncounted : ∀ n h, s.hdl n = some h → ∃ x, s.heap h = some x ∧ x.refcnt = 0
  once : ∀ n m h, s.hdl n = some h → s.hdl m = some h → n = m

theorem dynamic_range {n : ℕ} (h : nssIsDynamicInterface n = true) :
    NSS_DYNAMIC_IF_START ≤ n ∧ n < NSS_MAX_NET_INTERFACES := by
  obtain ⟨hge, hlt⟩ := Bool.and_eq_true_iff.mp h
  have hge : (24 : ℤ) ≤ n := of_decide_eq_true hge
  have hlt : (n : ℤ) < 88 := of_decide_eq_true hlt
  change 24 ≤ n ∧ n < 128
  omega

theorem hdlIndex_injective {n m : ℕ} (hn : nssIsDynamicInterface n = true)
    (hm : nssIsDynamicInterface m = true) (h : hdlIndex n = hdlIndex m) : n = m := by
  have hn := (dynamic_range hn).1
  have hm := (dynamic_range hm).1
  unfold hdlIndex at h
  omega

/-- Every tunnel of the table has a handle of its own. -/
structure Handles (P : CapwapHandle → Prop) (s : Capwap Unit) : Prop where
  live : ∀ n h, s.hdl n = some h → ∃ x, s.heap h = some x ∧ P x
  once : ∀ n m h, s.hdl n = some h → s.hdl m = some h → n = m

section Handles
variable {P : CapwapHandle → Prop} {a : ℕ}

theorem Handles.registered {cb netdev features : ℕ} (h : Handles P s) (hP : P ⟨0, ifNum, 0, 0⟩)
    (hnew : s.heap a = none) : Handles P (Capwap.registered s ifNum a cb netdev features) := by
  have hfresh : ∀ n, s.hdl n ≠ some a := by
    intro n hn
    obtain ⟨x, hx, -⟩ := h.live n a hn
    cases hnew.symm.trans hx
  constructor
  · intro n b hb
    rcases entry_cases hb with ⟨-, hba⟩ | ⟨-, hwas⟩
    · obtain rfl := Option.some.inj hba
      exact ⟨_, Function.update_self _ _ _, hP⟩
    · obtain ⟨x, hx, hPx⟩ := h.live n b hwas
      have hne : b ≠ a := by
        rintro rfl
        exact hfresh n hwas
      exact ⟨x, (Function.update_of_ne hne _ _).trans hx, hPx⟩
  · intro n m b hn hm
    rcases entry_cases hn with ⟨rfl, hba⟩ | ⟨-, hwas⟩
    · rcases entry_cases hm with ⟨rfl, -⟩ | ⟨-, hwas⟩
      · rfl
      · exact absurd (hwas.trans hba.symm) (hfresh m)
    · rcases entry_cases hm with ⟨rfl, hba⟩ | ⟨-, hwas'⟩
      · exact absurd (hwas.trans hba.symm) (hfresh n)
      · exact h.once n m b hwas hwas'

theorem Handles.unregistered (h : Handles P s) (ha : s.hdl (hdlIndex ifNum) = some a) :
    Handles P (Capwap.unregistered s ifNum a) := by
  have hwas : ∀ {m b}, Function.update s.hdl (hdlIndex ifNum) none m = some b →
      m ≠ hdlIndex ifNum ∧ s.hdl m = some b := by
    intro m b hb
    rcases entry_cases hb with ⟨-, hnone⟩ | hwas
    · cases hnone
    · exact hwas
  constructor
  · intro n b hb
    obtain ⟨hne, hlisted⟩ := hwas hb
    obtain ⟨x, hx, hPx⟩ := h.live n b hlisted
    have hba : b ≠ a := by
      rintro rfl
      exact hne (h.once n _ b hlisted ha)
    exact ⟨x, (Function.update_of_ne hba _ _).trans hx, hPx⟩
  · exact fun n m b hn hm => h.once n m b (hwas hn).2 (hwas hm).2

theorem Handles.setCallback (h : Handles P s)
    (hP : ∀ x, P x → P { x with appData := 0, msgCallback := 0 }) :
    Handles P (s.modify a fun x => { x with appData := 0, msgCallback := 0 }) := by
  refine ⟨fun n b hb => ?_, h.once⟩
  obtain ⟨x, hx, hPx⟩ := h.live n b hb
  by_cases hba : b = a
  · subst hba
    refine ⟨_, ?_, hP x hPx⟩
    show Function.update s.heap b ((s.heap b).map _) b = _
    rw [Function.update_self, hx]
    rfl
  · exact ⟨x, (Function.update_of_ne hba _ _).trans hx, hPx⟩

end Handles

theorem Consistent.handles (h : Consistent s) : Handles (fun x => x.refcnt = 0) s :=
  ⟨h.uncounted, h.once⟩

theorem Consistent.registered {a cb netdev features : ℕ} (h : Consistent s)
    (hdynamic : nssIsDynamicInterface ifNum = true) (hnew : s.heap a = none) :
    Consistent (Capwap.registered s ifNum a cb netdev features) := by
  obtain ⟨hlive, honce⟩ : Handles _ (Capwap.registered s ifNum a cb netdev features) :=
    h.handles.registered rfl hnew
  refine ⟨h.lock, fun n hn => ?_, hlive, honce⟩
  by_cases hnum : n = ifNum
  · subst hnum
    show (Function.update s.handlers n _ n).cb ≠ 0 ↔
      Function.update s.hdl (hdlIndex n) (some a) (hdlIndex n) ≠ none
    rw [Function.update_self, Function.update_self]
    exact ⟨fun _ => nofun, fun _ => nofun⟩
  · have hindex : hdlIndex n ≠ hdlIndex ifNum := fun heq =>
      hnum (hdlIndex_injective hn hdynamic heq)
    show (Function.update s.handlers ifNum _ n).cb ≠ 0 ↔
      Function.update s.hdl (hdlIndex ifNum) (some a) (hdlIndex n) ≠ none
    rw [Function.update_of_ne hnum, Function.update_of_ne hindex]
    exact h.paired n hn

theorem Consistent.unregistered {a : ℕ} (h : Consistent s)
    (hdynamic : nssIsDynamicInterface ifNum = true) (ha : s.hdl (hdlIndex ifNum) = some a) :
    Consistent (Capwap.unregistered s ifNum a) := by
  obtain ⟨hlive, honce⟩ := h.handles.unregistered ha
  refine ⟨h.lock, fun n hn => ?_, hlive, honce⟩
  show ((nssCoreUnregisterHandler ifNum s.handlers).2 n).cb ≠ 0 ↔
    Function.update s.hdl (hdlIndex ifNum) none (hdlIndex n) ≠ none
  by_cases hnum : n = ifNum
  · subst hnum
    rw [unregisterHandler_self (dynamic_range hn).2, Function.update_self]
    exact ⟨fun hne => absurd rfl hne, fun hne => absurd rfl hne⟩
  · have hindex : hdlIndex n ≠ hdlIndex ifNum := fun heq =>
      hnum (hdlIndex_injective hn hdynamic heq)
    rw [unregisterHandler_other hnum, Function.update_of_ne hindex]
    exact h.paired n hn

theorem Consistent.setCallback {a : ℕ} (h : Consistent s) :
    Consistent (s.modify a fun x => { x with appData := 0, msgCallback := 0 }) := by
  obtain ⟨hlive, honce⟩ : Handles _ (s.modify a _) := h.handles.setCallback fun _ hx => hx
  exact ⟨h.lock, h.paired, hlive, honce⟩

variable {l : Performed}

theorem Consistent.dataRegister {n cb netdev features : ℕ} (h : Consistent s)
    (hcall : l.call = .dataRegister n cb netdev features) (hstep : RegistrationStep s l t)
    (hok : Prepared s l) : Consistent t ∧ Honest s l t := by
  unfold RegistrationStep at hstep
  unfold Prepared at hok
  rw [hcall] at hstep hok
  have hexact : nssIsDynamicInterface n = true → (s.handlers n).cb = 0 →
      s.hdl (hdlIndex n) = none :=
    fun hdynamic hcb => not_not.mp fun hne => (h.paired n hdynamic).mpr hne hcb
  have hother : ∀ m, ¬ (l.call = .dataUnregister m ∨ ∃ nssTop, l.call = .notifyUnregister nssTop m) := by
    rw [hcall]
    rintro m (hm | ⟨nssTop, hm⟩) <;> cases hm
  generalize hresult : l.result = result at hstep
  cases exec_dataRegister h.lock hexact hstep with
  | refused => exact ⟨h, fun _ _ _ => rfl, fun m hm => absurd hm (hother m)⟩
  | noMemory hmemory hverifies hndev hcb =>
    rcases hok with hok | hok | hok | hok
    · cases hmemory.symm.trans hok
    · cases hverifies.symm.trans hok
    · exact absurd hndev hok
    · exact absurd hcb hok
  | registered a hnew hcb hdynamic =>
    refine ⟨h.registered hdynamic hnew, fun b hb hfailed => ?_, fun m hm => absurd hm (hother m)⟩
    obtain rfl := Option.some.inj (hresult.symm.trans hb)
    cases hfailed

theorem Consistent.dataUnregister {n : ℕ} (h : Consistent s) (hcall : l.call = .dataUnregister n)
    (hstep : RegistrationStep s l t) (hok : Prepared s l) : Consistent t ∧ Honest s l t := by
  unfold RegistrationStep at hstep
  unfold Prepared at hok
  rw [hcall] at hstep hok
  have hrefused : t = s → l.result = some (.done false) → Consistent t ∧ Honest s l t := by
    rintro rfl hresult
    exact ⟨h, fun _ _ _ => rfl, fun m _ _ => ⟨rfl, _, hresult, rfl⟩⟩
  rcases hok with hverifies | hlisted
  · obtain ⟨ht, hresult⟩ := exec_unverified hverifies hstep
    exact hrefused ht hresult
  · obtain ⟨a, ha⟩ := Option.ne_none_iff_exists'.mp hlisted
    obtain ⟨x, hx, hzero⟩ := h.uncounted _ a ha
    rcases exec_dataUnregister h.lock ha hx hzero hstep with ⟨ht, hresult⟩ | ⟨hdynamic, rfl, hresult⟩
    · exact hrefused ht hresult
    · refine ⟨h.unregistered hdynamic ha, fun b hb hfailed => ?_, fun m hm hnone => ?_⟩
      · obtain rfl := Option.some.inj (hresult.symm.trans hb)
        cases hfailed
      · rw [hcall] at hm
        rcases hm with hm | ⟨nssTop, hm⟩
        · obtain rfl := RegistrationCall.dataUnregister.inj hm
          exact absurd hnone hlisted
        · cases hm

theorem Consistent.notifyUnregister {nssTop n : ℕ} (h : Consistent s)
    (hcall : l.call = .notifyUnregister nssTop n) (hstep : RegistrationStep s l t) :
    Consistent t ∧ Honest s l t := by
  unfold RegistrationStep at hstep
  rw [hcall] at hstep
  have hlive : ∀ a, s.hdl (hdlIndex n) = some a → ∃ x, s.heap a = some x := by
    intro a ha
    obtain ⟨x, hx, -⟩ := h.uncounted _ a ha
    exact ⟨x, hx⟩
  rcases exec_notifyUnregister hlive hstep with ⟨rfl, why, hresult⟩ | ⟨a, ha, rfl, hresult⟩
  · exact ⟨h, fun _ _ _ => rfl, fun m _ _ => ⟨rfl, _, hresult, nofun⟩⟩
  · refine ⟨h.setCallback, fun b hb hfailed => ?_, fun m hm hnone => ?_⟩
    · obtain rfl := Option.some.inj (hresult.symm.trans hb)
      exact absurd rfl hfailed
    · rw [hcall] at hm
      rcases hm with hm | ⟨nssTop, hm⟩
      · cases hm
      · obtain ⟨-, rfl⟩ := RegistrationCall.notifyUnregister.inj hm
        cases ha.symm.trans hnone

theorem Consistent.step (h : Consistent s) (hstep : RegistrationStep s l t) (hok : Prepared s l) :
    Consistent t ∧ Honest s l t := by
  cases hcall : l.call with
  | notifyRegister n cb appData =>
    have hexec := hstep
    unfold RegistrationStep at hexec
    rw [hcall] at hexec
    obtain ⟨rfl, -⟩ := exec_notifyRegister cb appData hexec
    refine ⟨h, fun _ _ _ => rfl, fun m hm => ?_⟩
    rw [hcall] at hm
    rcases hm with hm | ⟨nssTop, hm⟩ <;> cases hm
  | notifyUnregister nssTop n => exact h.notifyUnregister hcall hstep
  | dataRegister n cb netdev features => exact h.dataRegister hcall hstep hok
  | dataUnregister n => exact h.dataUnregister hcall hstep hok

theorem RegistrationStart.consistent (h : RegistrationStart s) : Consistent s where
  lock := h.lock
  paired n hn := ⟨fun hcb => absurd (h.handlers n hn) hcb, fun hne => absurd (h.hdl _) hne⟩
  uncounted n a ha := by cases (h.hdl n).symm.trans ha
  once n m a ha := by cases (h.hdl n).symm.trans ha

/-- In a run of prepared calls a handle exists exactly while its handler is
    registered, and no call fails half-way. -/
theorem registration_honest (h : Reachable RegistrationStart (Guarded RegistrationStep Prepared) s) :
    Paired s ∧ ∀ l t, RegistrationStep s l t → Prepared s l → Honest s l t := by
  have hconsistent : Consistent s := by
    refine h.invariant Consistent (fun s hs => hs.consistent) ?_
    intro s l t hs ⟨hstep, hok⟩
    exact (hs.step hstep hok).1
  exact ⟨hconsistent.paired, fun l t hstep hok => (hconsistent.step hstep hok).2⟩

def bare : Capwap Unit :=
  ⟨fun _ => none, fun _ => none, none, fun _ => ⟨0, 0⟩, fun _ => ⟨0, 0, 0, 0⟩⟩

theorem bare_start : RegistrationStart bare := ⟨rfl, fun _ => rfl, fun _ _ => rfl⟩

def firstRegister (memory : Bool) (found : Bool) : Performed :=
  ⟨.dataRegister 24 1 2 0, ⟨fun _ => true, memory⟩, some (.ctx found)⟩

theorem bare_registers : RegistrationStep bare (firstRegister true true)
    (Capwap.registered bare 24 7 1 2 0) := by
  refine .ask (q := .isCapwap 24) true rfl ⟨rfl, rfl⟩ ?_
  refine .tell (c := .spinLock) rfl ⟨⟨rfl, rfl⟩, trivial⟩ ?_
  refine .ask (q := .ndev 24) (0 : ℕ) rfl ⟨⟨rfl, rfl⟩, trivial⟩ ?_
  refine .tell (c := .spinUnlock) rfl ⟨rfl, trivial⟩ ?_
  refine .ask (q := .registerHandler 24 1 0) CoreStatus.success rfl ⟨⟨rfl, rfl⟩, trivial⟩ ?_
  refine .ask (q := .kmalloc) (some 7) rfl ⟨⟨rfl, ⟨0, 0, 0, 0⟩, rfl⟩, rfl⟩ ?_
  refine .tell (c := .clearHandle 7 24) rfl ⟨rfl, trivial⟩ ?_
  refine .tell (c := .spinLock) rfl ⟨⟨rfl, rfl⟩, trivial⟩ ?_
  refine .ask (q := .hdl 0) none rfl ⟨⟨rfl, rfl⟩, trivial⟩ ?_
  refine .tell (c := .setHdl 0 (some 7)) rfl ⟨rfl, trivial⟩ ?_
  refine .tell (c := .spinUnlock) rfl ⟨rfl, trivial⟩ ?_
  refine .tell (c := .setDp 24 _) rfl ⟨rfl, trivial⟩ ?_
  refine .tell (c := .setDp 24 _) rfl ⟨rfl, trivial⟩ ?_
  refine .tell (c := .setDp 24 _) rfl ⟨rfl, trivial⟩ ?_
  refine .tell (c := .setDp 24 _) rfl ⟨rfl, trivial⟩ (.done ?_)
  simp only [Capwap.modify, Function.update_idem, Function.update_self, Option.map_some]
  rfl

def thenUnregister : Performed :=
  ⟨.dataUnregister 24, ⟨fun _ => true, true⟩, some (.done true)⟩

theorem bare_unregisters : RegistrationStep (Capwap.registered bare 24 7 1 2 0) thenUnregister
    (Capwap.unregistered (Capwap.registered bare 24 7 1 2 0) 24 7) := by
  refine .ask (q := .isCapwap 24) true rfl ⟨rfl, rfl⟩ ?_
  refine .tell (c := .spinLock) rfl ⟨⟨rfl, rfl⟩, trivial⟩ ?_
  refine .ask (q := .hdl 0) (some 7) rfl ⟨⟨rfl, rfl⟩, trivial⟩ ?_
  refine .ask (q := .atomicRead 7) (0 : ℤ) rfl ⟨⟨?_, rfl⟩, trivial⟩ ?_
  · intro x hx
    exact congrArg CapwapHandle.refcnt (Option.some.inj hx)
  refine .ask (q := .hdl 0) (some 7) rfl ⟨⟨rfl, rfl⟩, trivial⟩ ?_
  refine .tell (c := .setHdl 0 none) rfl ⟨rfl, trivial⟩ ?_
  refine .tell (c := .spinUnlock) rfl ⟨rfl, trivial⟩ ?_
  refine .tell (c := .unregisterHandler 24) rfl ⟨rfl, trivial⟩ ?_
  refine .tell (c := .setDp 24 _) rfl ⟨rfl, trivial⟩ ?_
  refine .tell (c := .setDp 24 _) rfl ⟨rfl, trivial⟩ ?_
  refine .tell (c := .setDp 24 _) rfl ⟨rfl, trivial⟩ ?_
  refine .tell (c := .setDp 24 _) rfl ⟨rfl, trivial⟩ ?_
  refine .tell (c := .kfree 7) rfl ⟨rfl, trivial⟩ (.done ?_)
  simp only [Function.update_idem, Function.update_self]
  rfl

/-- A tunnel is registered and unregistered. -/
theorem registration_honest_both : ∃ s t, s.hdl 0 = some 7 ∧ t.hdl 0 = none ∧
    Paired s ∧ Honest s thenUnregister t ∧ Paired t := by
  have hone : Reachable RegistrationStart (Guarded RegistrationStep Prepared) _ :=
    (Reachable.start bare_start).next ⟨bare_registers, .inl rfl⟩
  have hprepared : Prepared (Capwap.registered bare 24 7 1 2 0) thenUnregister := .inr nofun
  have htwo := hone.next ⟨bare_unregisters, hprepared⟩
  exact ⟨_, _, rfl, rfl, (registration_honest hone).1,
    (registration_honest hone).2 _ _ bare_unregisters hprepared, (registration_honest htwo).1⟩

theorem bare_noMemory : RegistrationStep bare (firstRegister false false)
    { bare with handlers := Function.update bare.handlers 24 ⟨nssCapwapMsgHandler, 0⟩ } := by
  refine .ask (q := .isCapwap 24) true rfl ⟨rfl, rfl⟩ ?_
  refine .tell (c := .spinLock) rfl ⟨⟨rfl, rfl⟩, trivial⟩ ?_
  refine .ask (q := .ndev 24) (0 : ℕ) rfl ⟨⟨rfl, rfl⟩, trivial⟩ ?_
  refine .tell (c := .spinUnlock) rfl ⟨rfl, trivial⟩ ?_
  refine .ask (q := .registerHandler 24 1 0) CoreStatus.success rfl ⟨⟨rfl, rfl⟩, trivial⟩ ?_
  exact .ask (q := .kmalloc) none rfl ⟨rfl, rfl⟩ (.ret _ _)

theorem bare_unregister : RegistrationStep bare ⟨.dataUnregister 24, ⟨fun _ => true, true⟩, none⟩
    { bare with lock := some () } := by
  refine .ask (q := .isCapwap 24) true rfl ⟨rfl, rfl⟩ ?_
  refine .tell (c := .spinLock) rfl ⟨⟨rfl, rfl⟩, trivial⟩ ?_
  refine .ask (q := .hdl 0) none rfl ⟨⟨rfl, rfl⟩, trivial⟩ ?_
  exact .tell (c := .oops) rfl ⟨rfl, trivial⟩ (.halt _ _ _ ⟨Empty.elim⟩)

/-- A registration without memory fails and is not undone, and to unregister
    what is not registered does not return. -/
theorem registration_dishonest :
    (¬ ∀ s, Reachable RegistrationStart RegistrationStep s → Paired s) ∧
    (¬ ∀ s l t, Reachable RegistrationStart RegistrationStep s → RegistrationStep s l t →
      ∀ a, l.result = some a → Failed a → t = s) ∧
    ¬ ∀ s l t, Reachable RegistrationStart RegistrationStep s → RegistrationStep s l t →
      Honest s l t := by
  have hbare : Reachable RegistrationStart RegistrationStep bare := .start bare_start
  refine ⟨fun hall => ?_, fun hall => ?_, fun hall => ?_⟩
  · exact (hall _ (hbare.next bare_noMemory) 24 rfl).mp nofun rfl
  · have hsame := hall _ _ _ hbare bare_noMemory _ rfl rfl
    have hcb := congrFun (congrArg Capwap.handlers hsame) 24
    cases hcb
  · obtain ⟨-, a, ha, -⟩ := (hall _ _ _ hbare bare_unregister).refused 24 (.inl rfl) rfl
    cases ha

end NssDrv.CapwapRegistration

import NssDrv.N2hRequests
import NssDrv.SequentialRequests

set_option autoImplicit false

/-!
# The settings of the N2H node

The files of `sysctl` for the pools, the water marks, RPS and mitigation, read
and written one after the other: what a write leaves behind and what a later
read shows.
-/
namespace NssDrv.N2hSettings
open CallTree SyncRequest ThreadRuns SequentialRequests TransitionRuns
open CommonMessage HlosInterface ConnectionConfig N2hRequests

/-- What `proc_dointvec` leaves in a number, where the user brings `proc.value`. -/
def left (proc : Dointvec) (write : Bool) (old : U32) : U32 :=
  if write = true ∧ proc.ret = 0 then proc.value else old

section Pool

/-- The numbers of a pool: what the driver shows, and what the firmware holds. -/
structure PoolNumbers where
  poolSize : U32
  lowWater : U32
  highWater : U32

def shown (p : PoolCfg) : PoolNumbers := ⟨p.newVal, p.low, p.high⟩

inductive PoolFile where
  | emptyPoolBuf
  | lowWater
  | highWater
  deriving DecidableEq

namespace PoolFile

def number : PoolFile → PoolNumbers → U32
  | .emptyPoolBuf, n => n.poolSize
  | .lowWater, n => n.lowWater
  | .highWater, n => n.highWater

def set (x : PoolFile) (v : U32) (n : PoolNumbers) : PoolNumbers :=
  match x with
  | .emptyPoolBuf => { n with poolSize := v }
  | .lowWater => { n with lowWater := v }
  | .highWater => { n with highWater := v }

def handler : PoolFile → PoolHandler
  | .emptyPoolBuf => N2hRequests.emptyPoolBuf
  | .lowWater => waterMark
  | .highWater => waterMark

def call : PoolFile → Bool → poolService.Asked SysctlResult
  | .emptyPoolBuf => nssN2hSetEmptyPoolBuf
  | .lowWater => nssN2hSetWaterMark
  | .highWater => nssN2hSetWaterMark

/-- The variables of the handler. -/
def stored : PoolFile → PoolNumbers → List U32
  | .emptyPoolBuf, n => [n.poolSize]
  | _, n => [n.lowWater, n.highWater]

/-- `proc_dointvec` writes the number of the file alone. -/
def user (x : PoolFile) (write : Bool) (proc : Dointvec) :
    (q : PoolInput) → PoolCfg → PoolAnswer q
  | .procDointvec, p => ⟨proc.ret, left proc write p.newVal⟩
  | .procDointvecPair, p =>
    ⟨proc.ret, if x = .lowWater then left proc write p.low else p.low,
      if x = .highWater then left proc write p.high else p.high⟩

end PoolFile

def poolNumbers : PoolMsg → List U32
  | .getPayloadInfo => []
  | .emptyPoolBufCfg poolSize => [poolSize]
  | .setWaterMark lowWater highWater => [lowWater, highWater]

/-- The firmware reports the numbers that it has acknowledged. -/
def poolAnswers (n : PoolNumbers) (m : PoolMsg) (r : PayloadInfo) (n' : PoolNumbers) : Prop :=
  if r.response ≠ .NSS_CMN_RESPONSE_ACK then n' = n
  else
    match m with
    | .getPayloadInfo => n' = n ∧ (⟨r.poolSize, r.lowWater, r.highWater⟩ : PoolNumbers) = n
    | .emptyPoolBufCfg poolSize => n' = { n with poolSize := poolSize }
    | .setWaterMark lowWater highWater =>
      n' = { n with lowWater := lowWater, highWater := highWater }

def poolPeer : Peer poolService where
  State := PoolNumbers
  acks r := r.response = .NSS_CMN_RESPONSE_ACK
  answers := poolAnswers

end Pool

section Wifi

def wifiPeer : Peer wifiPoolService where
  State := Unit
  acks r := r = .NSS_CMN_RESPONSE_ACK
  answers _ _ _ _ := True

def wifiUser (write : Bool) (proc : Dointvec) (_ : Unit) (wp : WifiPool) : Dointvec :=
  ⟨proc.ret, left proc write wp.payloads⟩

end Wifi

section Switch

def enablePeer : Peer enableService where
  State := Unit
  acks r := r.response = .NSS_CMN_RESPONSE_ACK
  answers _ _ _ _ := True

/-- A number that `sysctl` shows, with the requests that switch it on or off. -/
structure Switch where
  config : U32
  line : Line enableService enablePeer

/-- `cfg` is the request as a whole. -/
inductive SwitchQuery where
  | procDointvec
  | config
  | cfg (enable : U32)

abbrev SwitchAnswer : SwitchQuery → Type
  | .procDointvec => ℤ
  | .config => U32
  | .cfg _ => ℤ

abbrev SwitchCall (α : Type) : Type := Call Empty SwitchAnswer α

def procDointvec : SwitchCall ℤ := .ask .procDointvec .ret
def config : SwitchCall U32 := .ask .config .ret
def cfg (enable : U32) : SwitchCall ℤ := .ask (.cfg enable) .ret

/-- A 0, which is not supported, and any other number are only warned about. -/
def nssN2hRpscfgHandler (write : Bool) : SwitchCall SysctlResult := do
  let ret ← procDointvec
  if ret ≠ 0 then return ⟨write, ret⟩
  else if !write then return ⟨write, ret⟩
  else if (← config) = 1 then return ⟨write, ← cfg 1⟩
  else return ⟨write, ret⟩

def mitigationcfgHandler (write : Bool) : SwitchCall SysctlResult := do
  let ret ← procDointvec
  if ret ≠ 0 then return ⟨write, ret⟩
  else if !write then return ⟨write, ret⟩
  else if (← config) = 0 then
    -- what the request returns is not looked at
    let _ ← cfg 0
    return ⟨write, 0⟩
  else return ⟨write, -einval⟩

def nssN2hMitigationcfgCore0Handler (write : Bool) := mitigationcfgHandler write
def nssN2hMitigationcfgCore1Handler (write : Bool) := mitigationcfgHandler write

/-- `proc_dointvec` stores the number before anything else is done. -/
def switchEffect (request : U32 → enableService.Asked ℤ) (write : Bool) (proc : Dointvec)
    (s : Switch) : Event Empty SwitchAnswer → Switch → Prop
  | .saw .procDointvec ret, t =>
    ret = proc.ret ∧ t = { s with config := left proc write s.config }
  | .saw .config v, t => v = s.config ∧ t = s
  | .saw (.cfg enable) ret, t =>
    t.config = s.config ∧
      Exec (effect fun (q : Empty) _ => q.elim) s.line (request enable) t.line (some ret)

end Switch

inductive Sysctl where
  | pool (file : PoolFile) (core : NssCoreId)
  | wifiPoolBuf
  | rps
  | mitigation (core : NssCoreId)
  deriving DecidableEq

/-- `written` is the number of the last successful write to a file. -/
structure Settings where
  pool : NssCoreId → Line poolService poolPeer
  wifiPool : Line wifiPoolService wifiPeer
  rps : Switch
  mitigation : NssCoreId → Switch
  written : Sysctl → Option U32

namespace Settings

def value (s : Settings) : Sysctl → U32
  | .pool file core => file.number (shown (s.pool core).mem)
  | .wifiPoolBuf => s.wifiPool.mem.payloads
  | .rps => s.rps.config
  | .mitigation core => (s.mitigation core).config

def stored (s : Settings) : Sysctl → List U32
  | .pool file core => file.stored (shown (s.pool core).mem)
  | x => [s.value x]

def record (s : Settings) (x : Sysctl) (write : Bool) (proc : Dointvec) (ret : ℤ) :
    Sysctl → Option U32 :=
  if write = true ∧ ret = 0 then Function.update s.written x (some proc.value) else s.written

end Settings

/-- An access with the number that the user brings, the numbers that the firmware
    acknowledges, whether a late response comes, and what is returned. -/
inductive Label where
  | access (x : Sysctl) (write : Bool) (proc : Dointvec) (acked : List (List U32)) (late : Bool)
      (ret : ℤ)
  | late

section Observed
variable {S : Service} {F : Peer S}

def acked (numbers : S.Msg → List U32) (l t : Line S F) : List (List U32) :=
  ((since l t).filter fun x => F.acks x.resp).map fun x => numbers x.msg

def late (l t : Line S F) : Bool := (since l t).any fun x => x.late

theorem acked_answered {numbers : S.Msg → List U32} {l l' : Line S F} {m : S.Msg} {r : S.Resp}
    {f : F.State} (hl : l'.arrived = l.arrived) :
    acked numbers l (l'.answered m r f) = if F.acks r = true then [numbers m] else [] := by
  unfold acked
  rw [since_answered hl, List.filter_singleton]
  split <;> simp [*]

theorem acked_same {numbers : S.Msg → List U32} {l t : Line S F} (h : t.arrived = l.arrived) :
    acked numbers l t = [] := by
  unfold acked since
  rw [h, List.drop_length]
  rfl

theorem punctual_since {l t : Line S F} (hl : Punctual l) (hgrows : l.arrived <+: t.arrived)
    (h : late l t = false) : Punctual t := by
  obtain ⟨xs, hxs⟩ := hgrows
  have hsince : since l t = xs := by
    unfold since
    rw [← hxs, List.drop_left]
  unfold late at h
  rw [hsince, List.any_eq_false] at h
  intro x hx
  rw [← hxs, List.mem_append] at hx
  rcases hx with hx | hx
  · exact hl x hx
  · exact Bool.eq_false_iff.mpr (h x hx)

end Observed

def single (n : U32) : List U32 := [n]

/-- The handler of a file as an access, or a response between the accesses. -/
inductive Step : Settings → Label → Settings → Prop where
  | pool (s : Settings) (file : PoolFile) (core : NssCoreId) (write : Bool) (proc : Dointvec)
      (l : Line poolService poolPeer) (a : SysctlResult)
      (h : Exec (effect (file.user write proc)) (s.pool core) (file.call write) l (some a)) :
      Step s
        (.access (.pool file core) write proc (acked poolNumbers (s.pool core) l)
          (late (s.pool core) l) a.ret)
        { s with
          pool := Function.update s.pool core l
          written := s.record (.pool file core) write proc a.ret }
  | wifiPool (s : Settings) (write : Bool) (proc : Dointvec) (l : Line wifiPoolService wifiPeer)
      (a : SysctlResult)
      (h : Exec (effect (wifiUser write proc)) s.wifiPool (nssN2hCfgWifiPool write) l (some a)) :
      Step s
        (.access .wifiPoolBuf write proc (acked single s.wifiPool l) (late s.wifiPool l) a.ret)
        { s with wifiPool := l, written := s.record .wifiPoolBuf write proc a.ret }
  | rps (s : Settings) (write : Bool) (proc : Dointvec) (x : Switch) (a : SysctlResult)
      (h : Exec (switchEffect nssN2hRpsCfg write proc) s.rps (nssN2hRpscfgHandler write) x
        (some a)) :
      Step s
        (.access .rps write proc (acked single s.rps.line x.line) (late s.rps.line x.line) a.ret)
        { s with rps := x, written := s.record .rps write proc a.ret }
  | mitigation (s : Settings) (core : NssCoreId) (write : Bool) (proc : Dointvec) (x : Switch)
      (a : SysctlResult)
      (h : Exec (switchEffect nssN2hMitigationCfg write proc) (s.mitigation core)
        (mitigationcfgHandler write) x (some a)) :
      Step s
        (.access (.mitigation core) write proc
          (acked single (s.mitigation core).line x.line) (late (s.mitigation core).line x.line)
          a.ret)
        { s with
          mitigation := Function.update s.mitigation core x
          written := s.record (.mitigation core) write proc a.ret }
  | latePool (s : Settings) (core : NssCoreId) (l : Line poolService poolPeer)
      (h : Arrives (s.pool core) l) :
      Step s .late { s with pool := Function.update s.pool core l }
  | lateWifiPool (s : Settings) (l : Line wifiPoolService wifiPeer) (h : Arrives s.wifiPool l) :
      Step s .late { s with wifiPool := l }
  | lateRps (s : Settings) (l : Line enableService enablePeer) (h : Arrives s.rps.line l) :
      Step s .late { s with rps := { s.rps with line := l } }
  | lateMitigation (s : Settings) (core : NssCoreId) (l : Line enableService enablePeer)
      (h : Arrives (s.mitigation core).line l) :
      Step s .late
        { s with
          mitigation := Function.update s.mitigation core { s.mitigation core with line := l } }

structure Fresh {S : Service} {F : Peer S} (l : Line S F) : Prop where
  quiet : Quiet l
  expired : l.expired = []
  arrived : l.arrived = []

structure Start (s : Settings) : Prop where
  pool : ∀ core, Fresh (s.pool core)
  wifiPool : Fresh s.wifiPool
  rps : Fresh s.rps.line
  mitigation : ∀ core, Fresh (s.mitigation core).line
  written : ∀ x, s.written x = none

/-- From `NSS_N2H_MIN_EMPTY_POOL_BUF_SZ` to `NSS_N2H_MAX_EMPTY_POOL_BUF_SZ`. -/
def InPool (n : U32) : Prop :=
  NSS_N2H_MIN_EMPTY_POOL_BUF_SZ.sle n = true ∧ n.sle NSS_N2H_MAX_EMPTY_POOL_BUF_SZ = true

/-- What the numbers of a setting may be: 1 for RPS, which can only be enabled, and
    0 for mitigation, which can only be disabled. -/
def Documented : Sysctl → List U32 → Prop
  | .pool .emptyPoolBuf _, ns => ∃ n, ns = [n] ∧ InPool n
  | .pool _ _, ns => ∃ low high, ns = [low, high] ∧ InPool low ∧ InPool high ∧
    low.sle high = true
  | .wifiPoolBuf, ns => ∃ n, ns = [n] ∧ InPool n
  | .rps, ns => ns = [0] ∨ ns = [1]
  | .mitigation _, ns => ns = [0]

/-- A failed write changes nothing, a successful one stores a documented number that
    the firmware has acknowledged, and a read shows the last of these. -/
def Kept (s : Settings) (l : Label) (t : Settings) : Prop :=
  match l with
  | .access x write proc acked _ ret =>
    (write = true → ret ≠ 0 → t.stored x = s.stored x) ∧
    (write = true → ret = 0 →
      t.value x = proc.value ∧ Documented x (t.stored x) ∧ acked = [t.stored x]) ∧
    (write = false → ret = 0 → ∀ n, s.written x = some n → t.value x = n)
  | .late => True

/-- No response comes late, the firmware does not take more empty buffers than there
    may be, a number of Wi-Fi payloads that it does not take was there before and one that
    it takes is not read, RPS and mitigation are written with the one number that the
    firmware then acknowledges or that was there before. -/
def Heeded (s : Settings) (l : Label) : Prop :=
  match l with
  | .access x write proc acked late _ =>
    late = false ∧ (x = .wifiPoolBuf → write = false → proc.ret = 0 → s.written x = none) ∧
    (write = true → proc.ret = 0 →
      match x with
      | .pool .emptyPoolBuf _ => NSS_N2H_MAX_EMPTY_POOL_BUF_SZ.slt proc.value = false ∨ acked = []
      | .pool _ _ => True
      | .wifiPoolBuf => acked ≠ [] ∨ proc.value = s.value x
      | .rps => proc.value = 1 ∧ (s.value x = 1 ∨ acked ≠ [])
      | .mitigation _ => proc.value = 0 ∧ acked ≠ [] ∨ proc.value ≠ 0 ∧ proc.value = s.value x)
  | .late => False

section PoolLemmas
variable {file : PoolFile} {proc : Dointvec} {write : Bool} {p : PoolCfg} {r : PayloadInfo}
  {l u : Line poolService poolPeer} {a : SysctlResult}

theorem call_handler : file.call write = file.handler.run write := by
  cases file <;> rfl

def brought (file : PoolFile) (proc : Dointvec) (p : PoolCfg) : PoolCfg :=
  file.handler.store (file.user true proc file.handler.q (file.handler.snapshot p))
    (file.handler.snapshot p)

theorem user_ret {p : PoolCfg} :
    file.handler.ret (file.user write proc file.handler.q p) = proc.ret := by
  cases file <;> rfl

theorem left_failed {old : U32} (h : proc.ret ≠ 0) : left proc write old = old :=
  if_neg fun hand => h hand.2

theorem left_stored {old : U32} (h : proc.ret = 0) : left proc true old = proc.value :=
  if_pos ⟨rfl, h⟩

theorem shown_brought :
    shown (brought file proc p) =
      file.set (left proc true (file.number (shown p))) (shown p) := by
  cases file <;> rfl

theorem set_number {n : PoolNumbers} : file.set (file.number n) n = n := by
  cases file <;> rfl

theorem number_set {file' : PoolFile} {v : U32} {n : PoolNumbers} :
    file'.number (file.set v n) = if file' = file then v else file'.number n := by
  cases file <;> cases file' <;> rfl

theorem shown_restore {ret : ℤ} :
    shown (file.handler.restore { brought file proc p with response := ret }) = shown p := by
  cases file <;> rfl

theorem callback_refused {m : PoolMsg} (h : r.response ≠ .NSS_CMN_RESPONSE_ACK) :
    nssN2hPayloadStatsCallback m r p = { p with response := NSS_FAILURE } :=
  if_pos h

theorem callback_acked (h : r.response = .NSS_CMN_RESPONSE_ACK) {q : PoolCfg} :
    nssN2hPayloadStatsCallback (file.handler.nnm q) r p = { p with response := NSS_SUCCESS } := by
  unfold nssN2hPayloadStatsCallback
  rw [if_neg (not_not_intro h)]
  cases file <;> rfl

/-- The check that the handler makes before it sends its request. -/
def Accepted : PoolFile → PoolNumbers → Prop
  | .emptyPoolBuf, n => n.poolSize.slt NSS_N2H_MIN_EMPTY_POOL_BUF_SZ = false
  | _, n => waterMarkRejected n.lowWater n.highWater = false

theorem accepted_shown (h : ¬ file.handler.rejected p = true) : Accepted file (shown p) := by
  cases file <;> exact Bool.eq_false_iff.mpr h

theorem numbers_nnm : poolNumbers (file.handler.nnm p) = file.stored (shown p) := by
  cases file <;> rfl

/-- A failed write, as the two sides see it. -/
structure Unwritten (l u : Line poolService poolPeer) (a : SysctlResult) : Prop where
  ret : a.ret ≠ 0
  shown : shown u.mem = shown l.mem
  peer : u.peer = l.peer

structure Written (file : PoolFile) (proc : Dointvec) (l u : Line poolService poolPeer)
    (a : SysctlResult) : Prop where
  ret : a.ret = 0
  brought : proc.ret = 0
  shown : shown u.mem = file.set proc.value (shown l.mem)
  accepted : Accepted file (N2hSettings.shown u.mem)
  acked : acked poolNumbers l u = [file.stored (N2hSettings.shown u.mem)]
  peer : ∀ x : PoolFile, x.number u.peer = x.number (N2hSettings.shown u.mem) ∨
    x ≠ file ∧ x.number u.peer = x.number l.peer

theorem exec_fail (h : Exec (effect (file.user true proc)) l file.handler.fail u (some a))
    (hl : Quiet l) (hu : Punctual u) :
    Quiet u ∧ a.ret ≠ 0 ∧ u.mem = file.handler.restore l.mem ∧ u.peer = l.peer := by
  have hup := exec_assign h hl hu
  have hexec := exec_up hup (quiet_write hl) hu
  obtain ⟨rfl, hret⟩ := exec_ret hexec
  obtain rfl := Option.some.inj hret
  exact ⟨quiet_write hl, file.handler.failure_ne, rfl, rfl⟩

theorem poolAnswers_refused {n n' : PoolNumbers} {m : PoolMsg} (h : poolAnswers n m r n')
    (hr : r.response ≠ .NSS_CMN_RESPONSE_ACK) : n' = n := by
  unfold poolAnswers at h
  rwa [if_pos hr] at h

theorem poolAnswers_nnm {n n' : PoolNumbers} (h : poolAnswers n (file.handler.nnm p) r n')
    (hr : r.response = .NSS_CMN_RESPONSE_ACK) (x : PoolFile) :
    x.number n' = x.number (shown p) ∨ x ≠ file ∧ x.number n' = x.number n := by
  unfold poolAnswers at h
  rw [if_neg (not_not_intro hr)] at h
  cases file with
  | emptyPoolBuf =>
    obtain rfl : n' = { n with poolSize := p.newVal } := h
    cases x with
    | emptyPoolBuf => exact .inl rfl
    | _ => exact .inr ⟨nofun, rfl⟩
  | _ =>
    obtain rfl : n' = { n with lowWater := p.low, highWater := p.high } := h
    cases x with
    | emptyPoolBuf => exact .inr ⟨nofun, rfl⟩
    | _ => exact .inl rfl

/-- A write in which nothing comes late: it fails and nothing has changed, or it has the
    firmware's acknowledgement for what it stores. -/
theorem exec_poolWrite
    (h : Exec (effect (file.user true proc)) l (file.call true) u (some a)) (hl : Quiet l)
    (hu : Punctual u) : Quiet u ∧ (Unwritten l u a ∨ Written file proc l u a) := by
  rw [call_handler] at h
  have hdown := exec_down h hl hu
  have hsnap := exec_assign hdown hl hu
  rw [if_neg nofun] at hsnap
  have hproc := exec_input hsnap (quiet_write hl) hu
  have hstore := exec_assign hproc (quiet_write hl) hu
  generalize hl' : ({ l with mem := brought file proc l.mem } : Line poolService poolPeer) = l'
  have hmem : l'.mem = brought file proc l.mem := by rw [← hl']
  have hpeer : l'.peer = l.peer := by rw [← hl']
  have harrived : l'.arrived = l.arrived := by rw [← hl']
  have hquiet : Quiet l' := hl' ▸ ⟨hl.1, hl.2⟩
  have hstore : Exec (effect (file.user true proc)) l' _ u (some a) := hl' ▸ hstore
  have hfailed : ∀ t ret, Exec (effect (file.user true proc)) t file.handler.fail u (some a) →
      Quiet t → t.mem = { l'.mem with response := ret } → t.peer = l.peer →
      Quiet u ∧ (Unwritten l u a ∨ Written file proc l u a) := by
    intro t ret hexec ht htmem htpeer
    obtain ⟨hquiet, hret, humem, hupeer⟩ := exec_fail hexec ht hu
    refine ⟨hquiet, .inl ⟨hret, ?_, hupeer.trans htpeer⟩⟩
    rw [humem, htmem, hmem]
    exact shown_restore
  by_cases hret : proc.ret ≠ 0
  · rw [if_pos (user_ret ▸ hret)] at hstore
    have hexec := exec_up hstore hquiet hu
    obtain ⟨rfl, ha⟩ := exec_ret hexec
    obtain rfl := Option.some.inj ha
    refine ⟨hquiet, .inl ⟨user_ret ▸ hret, ?_, hpeer⟩⟩
    rw [hmem, shown_brought, left_failed hret, set_number]
  · rw [if_neg (user_ret ▸ hret)] at hstore
    have hload := exec_load hstore hquiet hu
    by_cases hrejected : file.handler.rejected l'.mem = true
    · rw [if_pos hrejected] at hload
      exact hfailed l' _ hload hquiet rfl hpeer
    · rw [if_neg hrejected] at hload
      rcases exec_request hload hquiet hu with hfail | hfail | ⟨r, f, hanswers, hexec⟩
      · exact hfailed l' _ hfail hquiet rfl hpeer
      · exact hfailed _ _ hfail (quiet_timedOut hquiet) rfl hpeer
      · by_cases hr : r.response = .NSS_CMN_RESPONSE_ACK
        · rw [if_neg (poolFailed_callback.not.mpr (not_not_intro hr))] at hexec
          have hup := exec_up hexec (quiet_answered hquiet) hu
          obtain ⟨rfl, ha⟩ := exec_ret hup
          obtain rfl := Option.some.inj ha
          have hshown : shown (l'.answered (file.handler.nnm l'.mem) r f).mem = shown l'.mem := by
            show shown (nssN2hPayloadStatsCallback _ r _) = _
            rw [callback_acked hr]
            rfl
          refine ⟨quiet_answered hquiet, .inr ⟨rfl, not_not.mp hret, ?_, ?_, ?_, ?_⟩⟩
          · rw [hshown, hmem, shown_brought, left_stored (not_not.mp hret)]
          · rw [hshown]
            exact accepted_shown hrejected
          · have hack : poolPeer.acks r = true := decide_eq_true hr
            rw [hshown, acked_answered harrived, if_pos hack, numbers_nnm]
          · intro x
            rw [hshown, ← hpeer]
            exact poolAnswers_nnm hanswers hr x
        · rw [if_pos (poolFailed_callback.mpr hr)] at hexec
          refine hfailed _ NSS_FAILURE hexec (quiet_answered hquiet) (callback_refused hr) ?_
          exact (poolAnswers_refused hanswers hr).trans hpeer

theorem exec_getPayloadInfo {k : ℤ → poolService.Asked SysctlResult}
    (h : Exec (effect (file.user false proc)) l (nssN2hGetPayloadInfo >>= k) u (some a))
    (hl : Quiet l) (hu : Punctual u) :
    (∃ l', Exec (effect (file.user false proc)) l' (k NSS_FAILURE) u (some a) ∧ Quiet l' ∧
      l'.peer = l.peer ∧ ∃ ret, l'.mem = { l.mem with response := ret }) ∨
    ∃ r, Exec (effect (file.user false proc)) (l.answered .getPayloadInfo r l.peer)
      (k NSS_SUCCESS) u (some a) ∧ r.response = .NSS_CMN_RESPONSE_ACK ∧
      (⟨r.poolSize, r.lowWater, r.highWater⟩ : PoolNumbers) = l.peer := by
  unfold nssN2hGetPayloadInfo at h
  rw [bind_assoc] at h
  rcases exec_send h hl hu with hfail | hsent
  · exact .inl ⟨l, hfail, hl, rfl, _, rfl⟩
  · rw [if_neg nofun, bind_assoc] at hsent
    rcases exec_wait hsent hl hu with hfail | ⟨r, f, hanswers, hwoken⟩
    · exact .inl ⟨_, hfail, quiet_timedOut hl, rfl, _, rfl⟩
    · rw [if_neg nofun, bind_assoc] at hwoken
      have hload := exec_load hwoken (quiet_answered hl) hu
      have hfailed : poolFailed (l.answered .getPayloadInfo r f).mem = true ↔
          r.response ≠ .NSS_CMN_RESPONSE_ACK := poolFailed_callback
      by_cases hr : r.response = .NSS_CMN_RESPONSE_ACK
      · have hanswers : poolAnswers l.peer .getPayloadInfo r f := hanswers
        unfold poolAnswers at hanswers
        rw [if_neg (not_not_intro hr)] at hanswers
        obtain ⟨rfl, hpeer⟩ := hanswers
        rw [if_neg (hfailed.not.mpr (not_not_intro hr))] at hload
        exact .inr ⟨r, hload, hr, hpeer⟩
      · rw [if_pos (hfailed.mpr hr)] at hload
        have hmem : (l.answered .getPayloadInfo r f).mem = { l.mem with response := NSS_FAILURE } :=
          callback_refused (m := .getPayloadInfo) (p := l.mem) hr
        have hpeer : f = l.peer := poolAnswers_refused (m := .getPayloadInfo) hanswers hr
        exact .inl ⟨_, hload, quiet_answered hl, hpeer, _, hmem⟩

def reported (file : PoolFile) (r : PayloadInfo) (p : PoolCfg) : PoolNumbers :=
  shown (file.handler.restore
    (nssN2hPayloadStatsCallback .getPayloadInfo r (file.handler.snapshot p)))

theorem reported_eq (hr : r.response = .NSS_CMN_RESPONSE_ACK) :
    reported file r p =
      match file with
      | .emptyPoolBuf => { shown p with poolSize := r.poolSize }
      | _ => { shown p with lowWater := r.lowWater, highWater := r.highWater } := by
  unfold reported nssN2hPayloadStatsCallback
  rw [if_neg (not_not_intro hr)]
  cases file <;> rfl

theorem reported_own (hr : r.response = .NSS_CMN_RESPONSE_ACK) :
    file.number (reported file r p) = file.number ⟨r.poolSize, r.lowWater, r.highWater⟩ := by
  rw [reported_eq hr]
  cases file <;> rfl

theorem reported_all (hr : r.response = .NSS_CMN_RESPONSE_ACK) (x : PoolFile) :
    x.number (reported file r p) = x.number (shown p) ∨
      x.number (reported file r p) = x.number ⟨r.poolSize, r.lowWater, r.highWater⟩ := by
  rw [reported_eq hr]
  cases file <;> cases x <;> first | exact .inl rfl | exact .inr rfl

/-- A read in which nothing comes late shows what the firmware has acknowledged. -/
structure Read (file : PoolFile) (l u : Line poolService poolPeer) (a : SysctlResult) : Prop where
  own : a.ret = 0 → file.number (shown u.mem) = file.number l.peer
  all : ∀ x : PoolFile, x.number (shown u.mem) = x.number (shown l.mem) ∨
    x.number (shown u.mem) = x.number l.peer
  peer : u.peer = l.peer

theorem exec_poolRead
    (h : Exec (effect (file.user false proc)) l (file.call false) u (some a)) (hl : Quiet l)
    (hu : Punctual u) : Quiet u ∧ Read file l u a := by
  rw [call_handler] at h
  have hdown := exec_down h hl hu
  have hsnap := exec_assign hdown hl hu
  rw [if_pos (show (!false) = true from rfl)] at hsnap
  rcases exec_getPayloadInfo hsnap (quiet_write hl) hu with
    ⟨l', hfail, hl', hpeer, ret, hmem⟩ | ⟨r, hok, hr, hnumbers⟩
  · have hrestore := exec_assign hfail hl' hu
    rw [if_pos rfl] at hrestore
    have hup := exec_up hrestore (quiet_write hl') hu
    obtain ⟨rfl, ha⟩ := exec_ret hup
    obtain rfl := Option.some.inj ha
    refine ⟨quiet_write hl', nofun, fun x => .inl ?_, hpeer⟩
    show x.number (shown (file.handler.restore l'.mem)) = x.number (shown l.mem)
    rw [hmem]
    cases file <;> rfl
  · have hrestore := exec_assign hok (quiet_answered (quiet_write hl)) hu
    rw [if_neg (show ¬ NSS_SUCCESS = NSS_FAILURE by decide)] at hrestore
    have hup := exec_up hrestore (quiet_write (quiet_answered (quiet_write hl))) hu
    have hproc := exec_input hup (quiet_write (quiet_answered (quiet_write hl))) hu
    obtain ⟨rfl, ha⟩ := exec_ret hproc
    have hown : file.number (reported file r l.mem) = file.number l.peer := by
      rw [reported_own hr, hnumbers]
    have hall : ∀ x : PoolFile, x.number (reported file r l.mem) = x.number (shown l.mem) ∨
        x.number (reported file r l.mem) = x.number l.peer := by
      intro x
      rw [← hnumbers]
      exact reported_all hr x
    exact ⟨quiet_write (quiet_answered (quiet_write hl)), fun _ => hown, hall, rfl⟩

end PoolLemmas

section WifiLemmas
variable {proc : Dointvec} {l u : Line wifiPoolService wifiPeer} {a : SysctlResult}

theorem exec_failWifi {write : Bool}
    (h : Exec (effect (wifiUser write proc)) l failWifiPool u (some a)) (hl : Quiet l)
    (hu : Punctual u) : u = l ∧ a.ret ≠ 0 := by
  have hexec := exec_up h hl hu
  obtain ⟨rfl, ha⟩ := exec_ret hexec
  obtain rfl := Option.some.inj ha
  exact ⟨rfl, by decide⟩

/-- Every write leaves the number of the user, also one that fails. -/
structure WifiWritten (proc : Dointvec) (ret : ℤ) (l u : Line wifiPoolService wifiPeer) : Prop where
  quiet : Quiet u
  payloads : u.mem.payloads = left proc true l.mem.payloads
  failed : ret ≠ 0 → acked single l u = []
  written : ret = 0 → proc.ret = 0 ∧ InPool u.mem.payloads ∧ acked single l u = [[u.mem.payloads]]

theorem exec_wifiWrite (h : Exec (effect (wifiUser true proc)) l (nssN2hCfgWifiPool true) u (some a))
    (hl : Quiet l) (hu : Punctual u) : WifiWritten proc a.ret l u := by
  have hdown := exec_down h hl hu
  rw [if_neg (show ¬ (!true) = true from nofun)] at hdown
  have hproc := exec_input hdown hl hu
  have hstore := exec_assign hproc hl hu
  generalize hl' : ({ l with mem := { l.mem with payloads := left proc true l.mem.payloads } } :
    Line wifiPoolService wifiPeer) = l'
  have hmem : l'.mem.payloads = left proc true l.mem.payloads := by rw [← hl']
  have harrived : l'.arrived = l.arrived := by rw [← hl']
  have hquiet : Quiet l' := hl' ▸ ⟨hl.1, hl.2⟩
  have hstore : Exec (effect (wifiUser true proc)) l' _ u (some a) := hl' ▸ hstore
  have hfailed : ∀ t, Exec (effect (wifiUser true proc)) t failWifiPool u (some a) → Quiet t →
      t.mem.payloads = l'.mem.payloads → acked single l t = [] → WifiWritten proc a.ret l u := by
    intro t hexec ht htmem hacked
    obtain ⟨rfl, hret⟩ := exec_failWifi hexec ht hu
    exact ⟨ht, htmem.trans hmem, fun _ => hacked, fun h => absurd h hret⟩
  by_cases hret : proc.ret ≠ 0
  · rw [if_pos (c := (wifiUser true proc () l.mem).ret ≠ 0) hret] at hstore
    have hexec := exec_up hstore hquiet hu
    obtain ⟨rfl, ha⟩ := exec_ret hexec
    obtain rfl := Option.some.inj ha
    exact ⟨hquiet, hmem, fun _ => acked_same harrived, fun h => absurd h hret⟩
  · rw [if_neg (c := (wifiUser true proc () l.mem).ret ≠ 0) hret] at hstore
    have hload := exec_load hstore hquiet hu
    by_cases hunset : l'.mem.payloads = -1
    · rw [if_pos hunset] at hload
      exact hfailed l' hload hquiet rfl (acked_same harrived)
    · rw [if_neg hunset] at hload
      by_cases hsmall : l'.mem.payloads.slt NSS_N2H_MIN_EMPTY_POOL_BUF_SZ = true
      · rw [if_pos hsmall] at hload
        exact hfailed l' hload hquiet rfl (acked_same harrived)
      · rw [if_neg hsmall] at hload
        by_cases hlarge : NSS_N2H_MAX_EMPTY_POOL_BUF_SZ.slt l'.mem.payloads = true
        · rw [if_pos hlarge] at hload
          exact hfailed l' hload hquiet rfl (acked_same harrived)
        · rw [if_neg hlarge] at hload
          have hin : InPool l'.mem.payloads := by
            simp [InPool, BitVec.sle_eq_not_slt, hsmall, hlarge]
          rcases exec_request hload hquiet hu with hfail | hfail | ⟨r, f, -, hexec⟩
          · exact hfailed l' hfail hquiet rfl (acked_same harrived)
          · exact hfailed _ hfail (quiet_timedOut hquiet) rfl (acked_same harrived)
          · by_cases hr : r = .NSS_CMN_RESPONSE_ACK
            · rw [if_neg (by simpa using callbackResponse_failure.not.mpr (not_not_intro hr))]
                at hexec
              have hup := exec_up hexec (quiet_answered hquiet) hu
              obtain ⟨rfl, ha⟩ := exec_ret hup
              obtain rfl := Option.some.inj ha
              have hack : wifiPeer.acks r = true := decide_eq_true hr
              refine ⟨quiet_answered hquiet, hmem, fun hne => absurd rfl hne,
                fun _ => ⟨not_not.mp hret, hin, ?_⟩⟩
              rw [acked_answered harrived, if_pos hack]
              rfl
            · have hack : ¬ wifiPeer.acks r = true := by simpa [wifiPeer] using hr
              rw [if_pos (by simpa using callbackResponse_failure.mpr hr)] at hexec
              refine hfailed _ hexec (quiet_answered hquiet) rfl ?_
              rw [acked_answered harrived, if_neg hack]

theorem exec_wifiRead (h : Exec (effect (wifiUser false proc)) l (nssN2hCfgWifiPool false) u (some a))
    (hl : Quiet l) (hu : Punctual u) : Quiet u ∧ a.ret = proc.ret := by
  have hdown := exec_down h hl hu
  rw [if_pos (show (!false) = true from rfl)] at hdown
  have hread := exec_assign hdown hl hu
  have hup := exec_up hread ⟨hl.1, hl.2⟩ hu
  have hproc := exec_input hup ⟨hl.1, hl.2⟩ hu
  obtain ⟨rfl, ha⟩ := exec_ret hproc
  obtain rfl := Option.some.inj ha
  exact ⟨⟨hl.1, hl.2⟩, rfl⟩

end WifiLemmas

section SwitchLemmas
variable {proc : Dointvec} {s t : Switch} {a : SysctlResult} {l u : Line enableService enablePeer}

/-- A request to enable or disable, as the firmware has seen it. -/
structure Requested (enable : U32) (ret : ℤ) (l u : Line enableService enablePeer) : Prop where
  quiet : Quiet u
  ret : ret = 0 ↔ acked single l u ≠ []
  acked : acked single l u = [] ∨ acked single l u = [[enable]]

theorem exec_enableCfg {enable : U32} {ret : ℤ} {user : (q : Empty) → EnableCfg → Empty.elim q}
    (h : Exec (effect user) l (enableCfg enable) u (some ret)) (hl : Quiet l) (hu : Punctual u) :
    Requested enable ret l u := by
  have hdown := exec_down h hl hu
  have hfailed : ∀ t, Exec (effect user) t failEnable u (some ret) → Quiet t →
      N2hSettings.acked single l t = [] → Requested enable ret l u := by
    intro t hexec ht hacked
    have hup := exec_up hexec ht hu
    obtain ⟨rfl, ha⟩ := exec_ret hup
    obtain rfl := Option.some.inj ha
    exact ⟨ht, ⟨nofun, fun h => absurd hacked h⟩, .inl hacked⟩
  rcases exec_request hdown hl hu with hfail | hfail | ⟨r, f, -, hexec⟩
  · exact hfailed l hfail hl (acked_same rfl)
  · exact hfailed _ hfail (quiet_timedOut hl) (acked_same rfl)
  · have hack : enablePeer.acks r = true ↔ r.response = .NSS_CMN_RESPONSE_ACK :=
      decide_eq_true_iff
    have hacked : N2hSettings.acked single l (l.answered enable r f) =
        if enablePeer.acks r = true then [[enable]] else [] := acked_answered rfl
    by_cases hr : r.response = .NSS_CMN_RESPONSE_ACK
    · rw [if_neg (by simpa using enableCallback_failure.not.mpr (not_not_intro hr))] at hexec
      have hup := exec_up hexec (quiet_answered hl) hu
      obtain ⟨rfl, ha⟩ := exec_ret hup
      obtain rfl := Option.some.inj ha
      rw [if_pos (hack.mpr hr)] at hacked
      exact ⟨quiet_answered hl, ⟨fun _ => hacked ▸ nofun, fun _ => rfl⟩, .inr hacked⟩
    · rw [if_pos (by simpa using enableCallback_failure.mpr hr)] at hexec
      rw [if_neg (hack.not.mpr hr)] at hacked
      exact hfailed _ hexec (quiet_answered hl) hacked

variable {request : U32 → enableService.Asked ℤ} {write : Bool}

theorem exec_switchProc {k : ℤ → SwitchCall SysctlResult}
    (h : Exec (switchEffect request write proc) s (procDointvec >>= k) t (some a)) :
    Exec (switchEffect request write proc) { s with config := left proc write s.config }
      (k proc.ret) t (some a) := by
  rcases exec_ask (q := SwitchQuery.procDointvec) h with ⟨-, hnone, -⟩ | ⟨ret, u, heffect, hrest⟩
  · cases hnone
  · obtain ⟨rfl, rfl⟩ := heffect
    exact hrest

theorem exec_switchConfig {k : U32 → SwitchCall SysctlResult}
    (h : Exec (switchEffect request write proc) s (config >>= k) t (some a)) :
    Exec (switchEffect request write proc) s (k s.config) t (some a) := by
  rcases exec_ask (q := SwitchQuery.config) h with ⟨-, hnone, -⟩ | ⟨v, u, heffect, hrest⟩
  · cases hnone
  · obtain ⟨rfl, rfl⟩ := heffect
    exact hrest

theorem exec_switchCfg {enable : U32} {k : ℤ → SwitchCall SysctlResult}
    (h : Exec (switchEffect request write proc) s (cfg enable >>= k) t (some a)) :
    ∃ ret u, Exec (effect fun (q : Empty) _ => q.elim) s.line (request enable) u.line (some ret) ∧
      u.config = s.config ∧ Exec (switchEffect request write proc) u (k ret) t (some a) := by
  rcases exec_ask (q := SwitchQuery.cfg enable) h with ⟨-, hnone, -⟩ | ⟨ret, u, heffect, hrest⟩
  · cases hnone
  · exact ⟨ret, u, heffect.2, heffect.1, hrest⟩

/-- An access to RPS or mitigation: the number that is left, and what the firmware has
    acknowledged where a request was sent. -/
structure Switched (write : Bool) (proc : Dointvec) (enable : U32) (s t : Switch) : Prop where
  quiet : Quiet t.line
  config : t.config = left proc write s.config
  acked : N2hSettings.acked single s.line t.line = [] ∨
    N2hSettings.acked single s.line t.line = [[enable]]

theorem switched_alone {enable : U32} (hs : Quiet s.line) :
    Switched write proc enable s { s with config := left proc write s.config } :=
  ⟨hs, rfl, .inl (acked_same rfl)⟩

theorem exec_rps (h : Exec (switchEffect nssN2hRpsCfg write proc) s (nssN2hRpscfgHandler write) t
    (some a)) (hs : Quiet s.line) (ht : Punctual t.line) :
    Switched write proc 1 s t ∧ (proc.ret ≠ 0 → a.ret ≠ 0) ∧
      (write = true → proc.ret = 0 → t.config = 1 →
        (a.ret = 0 ↔ acked single s.line t.line ≠ [])) := by
  have hproc := exec_switchProc h
  by_cases hret : proc.ret ≠ 0
  · rw [if_pos hret] at hproc
    obtain ⟨rfl, ha⟩ := exec_ret hproc
    obtain rfl := Option.some.inj ha
    exact ⟨switched_alone hs, id, fun _ h => absurd h hret⟩
  · rw [if_neg hret] at hproc
    cases write with
    | false =>
      rw [if_pos (show (!false) = true from rfl)] at hproc
      obtain ⟨rfl, -⟩ := exec_ret hproc
      exact ⟨switched_alone hs, fun h => absurd h hret, nofun⟩
    | true =>
      rw [if_neg (show ¬ (!true) = true from nofun)] at hproc
      have hconfig := exec_switchConfig hproc
      by_cases hone : left proc true s.config = 1
      · rw [if_pos (c := _ = _) hone] at hconfig
        obtain ⟨ret, u, hcfg, hsame, hexec⟩ := exec_switchCfg hconfig
        obtain ⟨rfl, ha⟩ := exec_ret hexec
        obtain rfl := Option.some.inj ha
        obtain ⟨hquiet, hiff, hacked⟩ := exec_enableCfg hcfg hs ht
        exact ⟨⟨hquiet, hsame, hacked⟩, fun h => absurd h hret, fun _ _ _ => hiff⟩
      · rw [if_neg (c := _ = _) hone] at hconfig
        obtain ⟨rfl, -⟩ := exec_ret hconfig
        exact ⟨switched_alone hs, fun h => absurd h hret, fun _ _ h => absurd h hone⟩

theorem exec_mitigation (h : Exec (switchEffect nssN2hMitigationCfg write proc) s
    (mitigationcfgHandler write) t (some a)) (hs : Quiet s.line) (ht : Punctual t.line) :
    Switched write proc 0 s t ∧ (proc.ret ≠ 0 → a.ret ≠ 0) ∧
      (write = true → proc.ret = 0 → (a.ret = 0 ↔ t.config = 0)) := by
  have hproc := exec_switchProc h
  by_cases hret : proc.ret ≠ 0
  · rw [if_pos hret] at hproc
    obtain ⟨rfl, ha⟩ := exec_ret hproc
    obtain rfl := Option.some.inj ha
    exact ⟨switched_alone hs, id, fun _ h => absurd h hret⟩
  · rw [if_neg hret] at hproc
    cases write with
    | false =>
      rw [if_pos (show (!false) = true from rfl)] at hproc
      obtain ⟨rfl, -⟩ := exec_ret hproc
      exact ⟨switched_alone hs, fun h => absurd h hret, nofun⟩
    | true =>
      rw [if_neg (show ¬ (!true) = true from nofun)] at hproc
      have hconfig := exec_switchConfig hproc
      by_cases hzero : left proc true s.config = 0
      · rw [if_pos (c := _ = _) hzero] at hconfig
        obtain ⟨ret, u, hcfg, hsame, hexec⟩ := exec_switchCfg hconfig
        obtain ⟨rfl, ha⟩ := exec_ret hexec
        obtain rfl := Option.some.inj ha
        obtain ⟨hquiet, -, hacked⟩ := exec_enableCfg hcfg hs ht
        refine ⟨⟨hquiet, hsame, hacked⟩, fun h => absurd h hret, fun _ _ => ?_⟩
        exact iff_of_true rfl (hsame.trans hzero)
      · rw [if_neg (c := _ = _) hzero] at hconfig
        obtain ⟨rfl, ha⟩ := exec_ret hconfig
        obtain rfl := Option.some.inj ha
        refine ⟨switched_alone hs, fun h => absurd h hret, fun _ _ => ?_⟩
        exact iff_of_false (by decide) hzero

theorem switch_grows {p : SwitchCall SysctlResult} {r : Option SysctlResult}
    (h : Exec (switchEffect request write proc) s p t r) : s.line.arrived <+: t.line.arrived := by
  induction h with
  | ret => exact List.prefix_refl _
  | halt => exact List.prefix_refl _
  | @next _ _ _ _ _ e _ _ heffect _ ih =>
    refine List.IsPrefix.trans ?_ ih
    match e, heffect with
    | .saw .procDointvec ret, ⟨_, ht⟩ => exact ht ▸ List.prefix_refl _
    | .saw .config v, ⟨_, ht⟩ => exact ht ▸ List.prefix_refl _
    | .saw (.cfg enable) ret, ⟨_, hexec⟩ => exact exec_grows hexec

/-- What an access that is heeded does to RPS or mitigation. -/
structure Obeyed (write : Bool) (proc : Dointvec) (enable : U32) (ret : ℤ) (s t : Switch) :
    Prop where
  quiet : Quiet t.line
  punctual : Punctual t.line
  failed : ret ≠ 0 ∨ write = false → t.config = s.config
  written : write = true → ret = 0 → t.config = proc.value ∧ proc.value = enable ∧
    acked single s.line t.line = [[enable]]

theorem obeyed_rps (h : Exec (switchEffect nssN2hRpsCfg write proc) s (nssN2hRpscfgHandler write) t
    (some a)) (hs : Quiet s.line) (ht : Punctual t.line)
    (hok : write = true → proc.ret = 0 →
      proc.value = 1 ∧ (s.config = 1 ∨ acked single s.line t.line ≠ [])) :
    Obeyed write proc 1 a.ret s t := by
  obtain ⟨⟨hquiet, hconfig, hacked⟩, hbad, hiff⟩ := exec_rps h hs ht
  refine ⟨hquiet, ht, fun hfailed => ?_, fun hwrite hret => ?_⟩
  · by_cases hand : write = true ∧ proc.ret = 0
    · obtain ⟨rfl, hproc⟩ := hand
      obtain ⟨hone, hcase⟩ := hok rfl hproc
      have hnow : t.config = 1 := by rw [hconfig, left_stored hproc, hone]
      rcases hcase with hwas | hsome
      · rw [hnow, hwas]
      · exact absurd ((hiff rfl hproc hnow).mpr hsome) (hfailed.resolve_right nofun)
    · rw [hconfig]
      exact if_neg hand
  · have hproc : proc.ret = 0 := not_not.mp fun hne => hbad hne hret
    obtain ⟨hone, -⟩ := hok hwrite hproc
    subst hwrite
    have hnow : t.config = proc.value := by rw [hconfig, left_stored hproc]
    refine ⟨hnow, hone, hacked.resolve_left ?_⟩
    exact (hiff rfl hproc (hnow.trans hone)).mp hret

theorem obeyed_mitigation (h : Exec (switchEffect nssN2hMitigationCfg write proc) s
    (mitigationcfgHandler write) t (some a)) (hs : Quiet s.line) (ht : Punctual t.line)
    (hok : write = true → proc.ret = 0 → proc.value = 0 ∧ acked single s.line t.line ≠ [] ∨
      proc.value ≠ 0 ∧ proc.value = s.config) : Obeyed write proc 0 a.ret s t := by
  obtain ⟨⟨hquiet, hconfig, hacked⟩, hbad, hiff⟩ := exec_mitigation h hs ht
  refine ⟨hquiet, ht, fun hfailed => ?_, fun hwrite hret => ?_⟩
  · by_cases hand : write = true ∧ proc.ret = 0
    · obtain ⟨rfl, hproc⟩ := hand
      have hnow : t.config = proc.value := by rw [hconfig, left_stored hproc]
      rcases hok rfl hproc with ⟨hzero, -⟩ | ⟨-, hsame⟩
      · exact absurd ((hiff rfl hproc).mpr (hnow.trans hzero)) (hfailed.resolve_right nofun)
      · exact hnow.trans hsame
    · rw [hconfig]
      exact if_neg hand
  · have hproc : proc.ret = 0 := not_not.mp fun hne => hbad hne hret
    subst hwrite
    have hnow : t.config = proc.value := by rw [hconfig, left_stored hproc]
    have hzero : proc.value = 0 := hnow.symm.trans ((hiff rfl hproc).mp hret)
    rcases hok rfl hproc with ⟨-, hsome⟩ | ⟨hne, -⟩
    · exact ⟨hnow, hzero, hacked.resolve_left hsome⟩
    · exact absurd hzero hne

end SwitchLemmas

section Runs
variable {s t : Settings} {x y : Sysctl} {write : Bool} {proc : Dointvec} {ret : ℤ}
  {acked : List (List U32)}

/-- What holds between the accesses of a run that is heeded. -/
structure Settled (s : Settings) : Prop where
  pool : ∀ core, Quiet (s.pool core) ∧ Punctual (s.pool core)
  wifiPool : Quiet s.wifiPool ∧ Punctual s.wifiPool
  rps : Quiet s.rps.line ∧ Punctual s.rps.line
  mitigation : ∀ core, Quiet (s.mitigation core).line ∧ Punctual (s.mitigation core).line
  value : ∀ x n, x ≠ .wifiPoolBuf → s.written x = some n → s.value x = n
  peer : ∀ (file : PoolFile) core n, s.written (.pool file core) = some n →
    file.number (s.pool core).peer = n

theorem Start.settled (h : Start s) : Settled s := by
  have hnone : ∀ x n, s.written x ≠ some n := fun x n hx => by cases (h.written x).symm.trans hx
  have hcalm : ∀ {S : Service} {F : Peer S} {l : Line S F}, Fresh l → Quiet l ∧ Punctual l :=
    fun hl => ⟨hl.quiet, fun x hx => absurd (hl.arrived ▸ hx) List.not_mem_nil⟩
  constructor
  · exact fun core => hcalm (h.pool core)
  · exact hcalm h.wifiPool
  · exact hcalm h.rps
  · exact fun core => hcalm (h.mitigation core)
  · exact fun x n _ hx => absurd hx (hnone x n)
  · exact fun file core n hx => absurd hx (hnone _ n)

theorem record_failed (h : ¬ (write = true ∧ ret = 0)) : s.record x write proc ret = s.written :=
  if_neg h

theorem record_other (h : y ≠ x) : s.record x write proc ret y = s.written y := by
  unfold Settings.record
  split
  · exact Function.update_of_ne h _ _
  · rfl

theorem record_written (hwrite : write = true) (hret : ret = 0) :
    s.record x write proc ret x = some proc.value := by
  unfold Settings.record
  rw [if_pos ⟨hwrite, hret⟩, Function.update_self]

theorem accepted_documented {file : PoolFile} {core : NssCoreId} {n : PoolNumbers}
    (h : Accepted file n)
    (hmax : file = .emptyPoolBuf → NSS_N2H_MAX_EMPTY_POOL_BUF_SZ.slt n.poolSize = false) :
    Documented (.pool file core) (file.stored n) := by
  have hmarks : waterMarkRejected n.lowWater n.highWater = false →
      InPool n.lowWater ∧ InPool n.highWater ∧ n.lowWater.sle n.highWater = true := by
    intro h
    simp only [waterMarkRejected, Bool.or_eq_false_iff, decide_eq_false_iff_not] at h
    obtain ⟨⟨⟨⟨⟨-, hlow⟩, hhigh⟩, hlow'⟩, hhigh'⟩, horder⟩ := h
    simp [InPool, BitVec.sle_eq_not_slt, *]
  cases file with
  | emptyPoolBuf =>
    have hmin : n.poolSize.slt NSS_N2H_MIN_EMPTY_POOL_BUF_SZ = false := h
    refine ⟨n.poolSize, rfl, ?_⟩
    simp [InPool, BitVec.sle_eq_not_slt, hmin, hmax rfl]
  | lowWater => exact ⟨_, _, rfl, hmarks h⟩
  | highWater => exact ⟨_, _, rfl, hmarks h⟩

theorem update_pool {core core' : NssCoreId} {l : Line poolService poolPeer}
    {P : Line poolService poolPeer → Prop} (hl : core' = core → P l)
    (hother : core' ≠ core → P (s.pool core')) : P (Function.update s.pool core l core') := by
  by_cases h : core' = core
  · rw [h, Function.update_self]
    exact hl h
  · rw [Function.update_of_ne h]
    exact hother h

theorem Settled.withPool {core : NssCoreId} {l : Line poolService poolPeer}
    {written : Sysctl → Option U32} (hs : Settled s) (hl : Quiet l ∧ Punctual l)
    (hcore : ∀ (file : PoolFile) n, written (.pool file core) = some n →
      file.number (shown l.mem) = n ∧ file.number l.peer = n)
    (hother : ∀ x, (∀ file : PoolFile, x ≠ .pool file core) → written x = s.written x) :
    Settled { s with pool := Function.update s.pool core l, written := written } := by
  have hcores : ∀ (file : PoolFile) core', core' ≠ core →
      written (.pool file core') = s.written (.pool file core') := fun file core' hne =>
    hother _ fun file' heq => hne (by cases heq; rfl)
  refine ⟨fun core' => ?_, hs.wifiPool, hs.rps, hs.mitigation, fun x n hne hx => ?_,
    fun file core' n hx => ?_⟩
  · exact update_pool (P := fun l => Quiet l ∧ Punctual l) (fun _ => hl) fun _ => hs.pool core'
  · cases x with
    | pool file core' =>
      refine update_pool (P := fun l => file.number (shown l.mem) = n) (fun heq => ?_) fun hne => ?_
      · exact (hcore file n (heq ▸ hx)).1
      · exact hs.value (.pool file core') n nofun ((hcores file core' hne).symm.trans hx)
    | wifiPoolBuf => exact absurd rfl hne
    | rps => exact hs.value .rps n nofun ((hother .rps fun _ => nofun).symm.trans hx)
    | mitigation core' =>
      have hsame := hother (.mitigation core') fun _ => nofun
      exact hs.value (.mitigation core') n nofun (hsame.symm.trans hx)
  · refine update_pool (P := fun l => file.number l.peer = n) (fun heq => ?_) fun hne => ?_
    · exact (hcore file n (heq ▸ hx)).2
    · exact hs.peer file core' n ((hcores file core' hne).symm.trans hx)

theorem settled_pool {file : PoolFile} {core : NssCoreId} {l : Line poolService poolPeer}
    {a : SysctlResult} (hs : Settled s)
    (h : Exec (effect (file.user write proc)) (s.pool core) (file.call write) l (some a))
    (hok : Heeded s (.access (.pool file core) write proc
      (N2hSettings.acked poolNumbers (s.pool core) l) (late (s.pool core) l) a.ret)) :
    Settled { s with
      pool := Function.update s.pool core l
      written := s.record (.pool file core) write proc a.ret } ∧
    Kept s
      (.access (.pool file core) write proc (N2hSettings.acked poolNumbers (s.pool core) l)
        (late (s.pool core) l) a.ret)
      { s with
        pool := Function.update s.pool core l
        written := s.record (.pool file core) write proc a.ret } := by
  obtain ⟨hlate, -, hok⟩ := hok
  obtain ⟨hquiet, hpunctual⟩ := hs.pool core
  have hu := punctual_since hpunctual (exec_grows h) hlate
  have hnow : ∀ {α : Type} (f : Line poolService poolPeer → α),
      f (Function.update s.pool core l core) = f l := fun f =>
    congrArg f (Function.update_self _ _ _)
  have hwas : ∀ (x : PoolFile) n, s.written (.pool x core) = some n →
      x.number (shown (s.pool core).mem) = n ∧ x.number (s.pool core).peer = n :=
    fun x n hx => ⟨hs.value (.pool x core) n nofun hx, hs.peer x core n hx⟩
  cases write with
  | false =>
    obtain ⟨hl, hown, hall, hpeer⟩ := exec_poolRead h hquiet hu
    have hrecord : s.record (.pool file core) false proc a.ret = s.written := record_failed nofun
    constructor
    · rw [hrecord]
      refine hs.withPool ⟨hl, hu⟩ (fun x n hx => ⟨?_, hpeer ▸ (hwas x n hx).2⟩) fun _ _ => rfl
      exact (hall x).elim (fun h => h.trans (hwas x n hx).1) fun h => h.trans (hwas x n hx).2
    · refine ⟨nofun, nofun, fun _ hret n hx => ?_⟩
      refine (hnow fun l => file.number (shown l.mem)).trans ?_
      exact (hown hret).trans (hwas file n hx).2
  | true =>
    obtain ⟨hl, hfailed | hwritten⟩ := exec_poolWrite h hquiet hu
    · have hrecord : s.record (.pool file core) true proc a.ret = s.written :=
        record_failed fun hand => hfailed.ret hand.2
      constructor
      · rw [hrecord]
        refine hs.withPool ⟨hl, hu⟩ (fun x n hx => ?_) fun _ _ => rfl
        rw [hfailed.shown, hfailed.peer]
        exact hwas x n hx
      · refine ⟨fun _ _ => ?_, fun _ hret => absurd hret hfailed.ret, nofun⟩
        refine (hnow fun l => file.stored (shown l.mem)).trans ?_
        exact congrArg file.stored hfailed.shown
    · have hnumber : file.number (shown l.mem) = proc.value := by
        rw [hwritten.shown, number_set, if_pos rfl]
      constructor
      · refine hs.withPool ⟨hl, hu⟩ (fun x n hx => ?_) fun y hy => record_other (hy file)
        have hshown : x.number (shown l.mem) = n := by
          by_cases heq : x = file
          · subst heq
            rw [record_written rfl hwritten.ret] at hx
            exact hnumber.trans (Option.some.inj hx)
          · rw [record_other (fun h => heq (by cases h; rfl))] at hx
            rw [hwritten.shown, number_set, if_neg heq]
            exact (hwas x n hx).1
        refine ⟨hshown, ?_⟩
        rcases hwritten.peer x with hpeer | ⟨hne, hpeer⟩
        · exact hpeer.trans hshown
        · rw [record_other (fun h => hne (by cases h; rfl))] at hx
          exact hpeer.trans (hwas x n hx).2
      · refine ⟨fun _ hret => absurd hwritten.ret hret, fun _ _ => ⟨?_, ?_, ?_⟩, nofun⟩
        · exact (hnow fun l => file.number (shown l.mem)).trans hnumber
        · refine (hnow fun l => Documented _ (file.stored (shown l.mem))).mpr ?_
          refine accepted_documented hwritten.accepted fun heq => ?_
          subst heq
          rcases hok rfl hwritten.brought with hmax | hnone
          · exact (congrArg (BitVec.slt _) hnumber).trans hmax
          · rw [hwritten.acked] at hnone
            cases hnone
        · rw [hwritten.acked]
          exact congrArg (fun ns => [ns]) (hnow fun l => file.stored (shown l.mem)).symm

theorem settled_wifiPool {l : Line wifiPoolService wifiPeer} {a : SysctlResult} (hs : Settled s)
    (h : Exec (effect (wifiUser write proc)) s.wifiPool (nssN2hCfgWifiPool write) l (some a))
    (hok : Heeded s (.access .wifiPoolBuf write proc (N2hSettings.acked single s.wifiPool l)
      (late s.wifiPool l) a.ret)) :
    Settled { s with wifiPool := l, written := s.record .wifiPoolBuf write proc a.ret } ∧
    Kept s
      (.access .wifiPoolBuf write proc (N2hSettings.acked single s.wifiPool l)
        (late s.wifiPool l) a.ret)
      { s with wifiPool := l, written := s.record .wifiPoolBuf write proc a.ret } := by
  obtain ⟨hlate, hread, hok⟩ := hok
  obtain ⟨hquiet, hpunctual⟩ := hs.wifiPool
  have hu := punctual_since hpunctual (exec_grows h) hlate
  have hother : ∀ y, y ≠ .wifiPoolBuf → s.record .wifiPoolBuf write proc a.ret y = s.written y :=
    fun y hy => record_other hy
  have hsettled : Quiet l →
      Settled { s with wifiPool := l, written := s.record .wifiPoolBuf write proc a.ret } := by
    intro hl
    refine ⟨hs.pool, ⟨hl, hu⟩, hs.rps, hs.mitigation, fun x n hne hx => ?_, fun file core n hx => ?_⟩
    · have hsame := hs.value x n hne ((hother x hne).symm.trans hx)
      cases x with
      | wifiPoolBuf => exact absurd rfl hne
      | _ => exact hsame
    · exact hs.peer file core n ((hother (.pool file core) nofun).symm.trans hx)
  cases write with
  | false =>
    obtain ⟨hl, hret⟩ := exec_wifiRead h hquiet hu
    refine ⟨hsettled hl, nofun, nofun, fun _ hzero n hx => ?_⟩
    cases (hread rfl rfl (hret ▸ hzero)).symm.trans hx
  | true =>
    have hw := exec_wifiWrite h hquiet hu
    refine ⟨hsettled hw.quiet, fun _ hret => ?_, fun _ hret => ?_, nofun⟩
    · refine congrArg (fun n => [n]) (hw.payloads.trans ?_)
      by_cases hproc : proc.ret = 0
      · have hsame := (hok rfl hproc).resolve_left fun hne => hne (hw.failed hret)
        exact (left_stored hproc).trans hsame
      · exact left_failed hproc
    · obtain ⟨hproc, hin, hacked⟩ := hw.written hret
      exact ⟨hw.payloads.trans (left_stored hproc), ⟨_, rfl, hin⟩, hacked⟩

theorem record_value {enable : U32} {w w' : Switch} {n : U32}
    (h : Obeyed write proc enable ret w w') (hwas : ∀ n, s.written x = some n → w.config = n)
    (hx : s.record x write proc ret x = some n) : w'.config = n := by
  by_cases hand : write = true ∧ ret = 0
  · rw [record_written hand.1 hand.2] at hx
    exact (h.written hand.1 hand.2).1.trans (Option.some.inj hx)
  · rw [record_failed hand] at hx
    refine (h.failed ?_).trans (hwas n hx)
    by_cases hret : ret = 0
    · exact .inr (Bool.eq_false_iff.mpr fun hwrite => hand ⟨hwrite, hret⟩)
    · exact .inl hret

/-- `Kept` for a setting that is one switch. -/
theorem obeyed_kept {enable : U32} {w w' : Switch} (h : Obeyed write proc enable ret w w')
    (hstored : ∀ s : Settings, s.stored x = [s.value x]) (hw : s.value x = w.config)
    (hw' : t.value x = w'.config) (hdoc : Documented x [enable])
    (hwas : ∀ n, s.written x = some n → w.config = n) :
    Kept s (.access x write proc (N2hSettings.acked single w.line w'.line) false ret) t := by
  refine ⟨fun _ hret => ?_, fun hwrite hret => ?_, fun hwrite _ n hx => ?_⟩
  · rw [hstored, hstored, hw, hw', h.failed (.inl hret)]
  · obtain ⟨hnow, henable, hacked⟩ := h.written hwrite hret
    rw [hstored, hw', hacked, hnow, henable]
    exact ⟨rfl, hdoc, rfl⟩
  · rw [hw', h.failed (.inr hwrite)]
    exact hwas n hx

theorem settled_rps {w : Switch} {a : SysctlResult} (hs : Settled s)
    (h : Exec (switchEffect nssN2hRpsCfg write proc) s.rps (nssN2hRpscfgHandler write) w (some a))
    (hok : Heeded s (.access .rps write proc (N2hSettings.acked single s.rps.line w.line)
      (late s.rps.line w.line) a.ret)) :
    Settled { s with rps := w, written := s.record .rps write proc a.ret } ∧
    Kept s
      (.access .rps write proc (N2hSettings.acked single s.rps.line w.line)
        (late s.rps.line w.line) a.ret)
      { s with rps := w, written := s.record .rps write proc a.ret } := by
  obtain ⟨hlate, -, hok⟩ := hok
  have hw := punctual_since hs.rps.2 (switch_grows h) hlate
  have hobeyed := obeyed_rps h hs.rps.1 hw hok
  have hwas : ∀ n, s.written .rps = some n → s.rps.config = n := fun n => hs.value .rps n nofun
  have hother : ∀ y, y ≠ .rps → s.record .rps write proc a.ret y = s.written y :=
    fun y hy => record_other hy
  constructor
  · refine ⟨hs.pool, hs.wifiPool, ⟨hobeyed.quiet, hw⟩, hs.mitigation, fun x n hne hx => ?_,
      fun file core n hx => ?_⟩
    · by_cases hrps : x = .rps
      · subst hrps
        exact record_value hobeyed hwas hx
      · have hsame := hs.value x n hne ((hother x hrps).symm.trans hx)
        cases x with
        | rps => exact absurd rfl hrps
        | _ => exact hsame
    · exact hs.peer file core n ((hother (.pool file core) nofun).symm.trans hx)
  · rw [hlate]
    exact obeyed_kept hobeyed (fun _ => rfl) rfl rfl (.inr rfl) hwas

theorem settled_mitigation {core : NssCoreId} {w : Switch} {a : SysctlResult} (hs : Settled s)
    (h : Exec (switchEffect nssN2hMitigationCfg write proc) (s.mitigation core)
      (mitigationcfgHandler write) w (some a))
    (hok : Heeded s (.access (.mitigation core) write proc
      (N2hSettings.acked single (s.mitigation core).line w.line)
      (late (s.mitigation core).line w.line) a.ret)) :
    Settled { s with
      mitigation := Function.update s.mitigation core w
      written := s.record (.mitigation core) write proc a.ret } ∧
    Kept s
      (.access (.mitigation core) write proc
        (N2hSettings.acked single (s.mitigation core).line w.line)
        (late (s.mitigation core).line w.line) a.ret)
      { s with
        mitigation := Function.update s.mitigation core w
        written := s.record (.mitigation core) write proc a.ret } := by
  obtain ⟨hlate, -, hok⟩ := hok
  have hw := punctual_since (hs.mitigation core).2 (switch_grows h) hlate
  have hobeyed := obeyed_mitigation h (hs.mitigation core).1 hw hok
  have hwas : ∀ n, s.written (.mitigation core) = some n → (s.mitigation core).config = n :=
    fun n => hs.value (.mitigation core) n nofun
  have hnow : (Function.update s.mitigation core w core).config = w.config :=
    congrArg Switch.config (Function.update_self _ _ _)
  have hother : ∀ y, y ≠ .mitigation core →
      s.record (.mitigation core) write proc a.ret y = s.written y := fun y hy => record_other hy
  constructor
  · refine ⟨hs.pool, hs.wifiPool, hs.rps, fun core' => ?_, fun x n hne hx => ?_,
      fun file core' n hx => ?_⟩
    · by_cases hcore : core' = core
      · subst hcore
        show Quiet (Function.update s.mitigation core' w core').line ∧
          Punctual (Function.update s.mitigation core' w core').line
        rw [Function.update_self]
        exact ⟨hobeyed.quiet, hw⟩
      · show Quiet (Function.update s.mitigation core w core').line ∧
          Punctual (Function.update s.mitigation core w core').line
        rw [Function.update_of_ne hcore]
        exact hs.mitigation core'
    · by_cases hcore : x = .mitigation core
      · subst hcore
        exact hnow.trans (record_value hobeyed hwas hx)
      · have hsame := hs.value x n hne ((hother x hcore).symm.trans hx)
        cases x with
        | mitigation core' =>
          have hne' : core' ≠ core := fun h => hcore (congrArg Sysctl.mitigation h)
          exact (congrArg Switch.config (Function.update_of_ne hne' _ _)).trans hsame
        | _ => exact hsame
    · exact hs.peer file core' n ((hother (.pool file core') nofun).symm.trans hx)
  · rw [hlate]
    exact obeyed_kept hobeyed (fun _ => rfl) rfl hnow rfl hwas

theorem Settled.step {l : Label} (hs : Settled s) (hstep : Step s l t) (hok : Heeded s l) :
    Settled t ∧ Kept s l t := by
  cases hstep with
  | pool file core write proc l a h => exact settled_pool hs h hok
  | wifiPool write proc l a h => exact settled_wifiPool hs h hok
  | rps write proc w a h => exact settled_rps hs h hok
  | mitigation core write proc w a h => exact settled_mitigation hs h hok
  | latePool core l h => exact hok.elim
  | lateWifiPool l h => exact hok.elim
  | lateRps l h => exact hok.elim
  | lateMitigation core l h => exact hok.elim

/-- In a run that is heeded, every write that fails restores what it found, every write
    that succeeds stores what the firmware has acknowledged, and reads show it. -/
theorem settings_kept {l : Label} (hs : Reachable Start (Guarded Step Heeded) s)
    (hstep : Step s l t) (hok : Heeded s l) : Kept s l t := by
  have hsettled : Settled s := by
    refine hs.invariant Settled (fun _ h => h.settled) ?_
    intro s l t hs hstep
    exact (hs.step hstep.1 hstep.2).1
  exact (hsettled.step hstep hok).2

end Runs

section Examples

def idle {S : Service} {F : Peer S} (mem : S.Mem) (peer : F.State) : Line S F :=
  ⟨mem, 0, peer, none, [], []⟩

/-- The values that the driver starts with, and a firmware with some numbers of its own. -/
def initial : Settings where
  pool _ := idle ⟨NSS_SUCCESS, -1, -1, -1, -1, -1, -1⟩ (⟨8192, 32, 8192⟩ : PoolNumbers)
  wifiPool := idle ⟨NSS_SUCCESS, 0, -1⟩ ()
  rps := ⟨0, idle ⟨NSS_SUCCESS, 0⟩ ()⟩
  mitigation _ := ⟨1, idle ⟨NSS_SUCCESS, 1⟩ ()⟩
  written _ := none

theorem initial_start : Start initial :=
  ⟨fun _ => ⟨⟨rfl, rfl⟩, rfl, rfl⟩, ⟨⟨rfl, rfl⟩, rfl, rfl⟩, ⟨⟨rfl, rfl⟩, rfl, rfl⟩,
    fun _ => ⟨⟨rfl, rfl⟩, rfl, rfl⟩, fun _ => rfl⟩

def pooled : Line poolService poolPeer where
  mem := ⟨NSS_SUCCESS, -1, -1, -1, 64, -1, -1⟩
  done := 0
  peer := (⟨64, 32, 8192⟩ : PoolNumbers)
  awaited := none
  expired := []
  arrived := [⟨.emptyPoolBufCfg 64, ⟨.NSS_CMN_RESPONSE_ACK, 0, 0, 0⟩, false⟩]

def asked : Line poolService poolPeer where
  mem := ⟨NSS_SUCCESS, -1, -1, -1, 64, -1, -1⟩
  done := 0
  peer := (⟨8192, 32, 8192⟩ : PoolNumbers)
  awaited := some (.emptyPoolBufCfg 64)
  expired := []
  arrived := []

theorem asked_wait {user : (q : PoolInput) → PoolCfg → PoolAnswer q} :
    effect user asked (.saw .wait true) pooled := by
  have harrives : Arrives asked { asked.receive (.emptyPoolBufCfg 64)
      ⟨.NSS_CMN_RESPONSE_ACK, 0, 0, 0⟩ false ⟨64, 32, 8192⟩ with awaited := none } :=
    .awaited asked _ _ _ rfl rfl
  exact ⟨_, .single harrives, Nat.one_pos, rfl⟩

theorem pooled_exec : Exec (effect (PoolFile.user .emptyPoolBuf true ⟨0, 64⟩))
    (initial.pool .NSS_CORE_0) (PoolFile.call .emptyPoolBuf true) pooled (some ⟨true, 0⟩) := by
  have hnow : ∀ {user} {l t : Line poolService poolPeer} {e},
      act user l e t → effect user l e t := fun h => ⟨_, .refl, h⟩
  refine .tell rfl (hnow rfl) (.tell rfl (hnow rfl) (.ask (⟨0, 64⟩ : Dointvec) rfl
    (hnow ⟨rfl, rfl⟩) ?_))
  refine .tell rfl (hnow rfl) (.ask _ rfl (hnow ⟨rfl, rfl⟩) ?_)
  refine .ask (t := asked) (q := Query.send (PoolMsg.emptyPoolBufCfg 64)) true rfl (hnow rfl) ?_
  refine .ask (q := Query.wait) true rfl asked_wait ?_
  exact .ask _ rfl (hnow ⟨rfl, rfl⟩) (.tell rfl (hnow rfl) (.done rfl))

/-- A write that the firmware acknowledges. -/
theorem settings_kept_pooled : Kept initial
    (.access (.pool .emptyPoolBuf .NSS_CORE_0) true ⟨0, 64⟩ [[64]] false 0)
    { initial with
      pool := Function.update initial.pool .NSS_CORE_0 pooled
      written := initial.record (.pool .emptyPoolBuf .NSS_CORE_0) true ⟨0, 64⟩ 0 } :=
  settings_kept (.start initial_start)
    (.pool initial .emptyPoolBuf .NSS_CORE_0 true ⟨0, 64⟩ pooled ⟨true, 0⟩ pooled_exec)
    ⟨rfl, nofun, fun _ _ => .inl (by decide)⟩

/-- A rejected number of Wi-Fi payloads, which stays where the user has put it. -/
theorem settings_not_kept : ¬ ∀ (s : Settings) (l : Label) (t : Settings),
    Reachable Start Step s → Step s l t → Kept s l t := by
  intro hkept
  have hnow : ∀ {user} {l t : Line wifiPoolService wifiPeer} {e},
      act user l e t → effect user l e t := fun h => ⟨_, .refl, h⟩
  have hexec : Exec (effect (wifiUser true ⟨0, 5⟩)) initial.wifiPool (nssN2hCfgWifiPool true)
      (idle ⟨NSS_SUCCESS, 0, 5⟩ ()) (some ⟨true, -einval⟩) := by
    refine .tell rfl (hnow rfl) (.ask (⟨0, 5⟩ : Dointvec) rfl (hnow ⟨rfl, rfl⟩) ?_)
    refine .tell rfl (hnow rfl) (.ask _ rfl (hnow ⟨rfl, rfl⟩) ?_)
    exact .tell rfl (hnow rfl) (.done rfl)
  have hstored := (hkept initial _ _ (.start initial_start) (.wifiPool _ _ _ _ _ hexec)).1 rfl
    (by decide)
  exact absurd hstored (by decide)

end Examples

end NssDrv.N2hSettings

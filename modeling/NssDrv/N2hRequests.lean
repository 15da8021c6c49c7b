import NssDrv.ConnectionConfig

set_option autoImplicit false

/-!
# Requests to the N2H node

Pool, water mark, Wi-Fi pool, RPS, mitigation and buffer pool requests. The
first two share the completion of their core, the last shares one message
between the cores.
-/
namespace NssDrv.N2hRequests
open CallTree SyncRequest CommonMessage HlosInterface ConnectionConfig

def NSS_N2H_MIN_EMPTY_POOL_BUF_SZ : U32 := 32
def NSS_N2H_MAX_EMPTY_POOL_BUF_SZ : U32 := 65536
def MAX_PAGES_PER_MSG : ℕ := 32
def PAGE_SIZE : ℕ := 4096

section Pool

/-- The `nss_n2h_nepbcfgp` of a core with the numbers that `sysctl` shows. -/
structure PoolCfg where
  response : ℤ
  emptyBufPool : U32
  lowWater : U32
  highWater : U32
  newVal : U32
  low : U32
  high : U32

inductive PoolMsg where
  | getPayloadInfo
  | emptyPoolBufCfg (poolSize : U32)
  | setWaterMark (lowWater highWater : U32)

structure PayloadInfo where
  response : NssCmnResponse
  poolSize : U32
  lowWater : U32
  highWater : U32

/-- What `proc_dointvec` returns and leaves in the two water marks. -/
structure DointvecPair where
  ret : ℤ
  low : U32
  high : U32

inductive PoolInput where
  | procDointvec
  | procDointvecPair

abbrev PoolAnswer : PoolInput → Type
  | .procDointvec => Dointvec
  | .procDointvecPair => DointvecPair

def nssN2hPayloadStatsCallback (nnm : PoolMsg) (r : PayloadInfo) (p : PoolCfg) : PoolCfg :=
  if r.response ≠ .NSS_CMN_RESPONSE_ACK then { p with response := NSS_FAILURE }
  else
    match nnm with
    | .getPayloadInfo =>
      { p with
        emptyBufPool := r.poolSize
        lowWater := r.lowWater
        highWater := r.highWater
        response := NSS_SUCCESS }
    | _ => { p with response := NSS_SUCCESS }

def Acked (os : List (Option PayloadInfo)) : Prop :=
  ∃ r, os = [some r] ∧ r.response = .NSS_CMN_RESPONSE_ACK

abbrev poolService : Service where
  Mem := PoolCfg
  Msg := PoolMsg
  Resp := PayloadInfo
  Result := SysctlResult
  Input := PoolInput
  Ans := PoolAnswer
  home _ := true
  Shared := False
  Ready _ _ := True
  callback := nssN2hPayloadStatsCallback
  Fair _ _ := True
  Drift := Eq
  drift_refl _ := rfl
  drift_trans _ _ _ := Eq.trans
  Returns os a := (a.ret = 0 → Acked os) ∧ (a.write = true → Acked os → a.ret = 0)

def poolFailed (p : PoolCfg) : Bool := p.response = NSS_FAILURE

def nssN2hGetPayloadInfo : poolService.Asked ℤ := do
  if !(← send (S := poolService) .getPayloadInfo) then return NSS_FAILURE
  if !(← wait) then return NSS_FAILURE
  if poolFailed (← load) then return NSS_FAILURE
  return NSS_SUCCESS

/-- Where the handlers of the pool and of the water marks differ: what they
    show, how it is kept and brought back, and what they accept and send. -/
structure PoolHandler where
  q : PoolInput
  ret : PoolAnswer q → ℤ
  store : PoolAnswer q → PoolCfg → PoolCfg
  snapshot : PoolCfg → PoolCfg
  restore : PoolCfg → PoolCfg
  rejected : PoolCfg → Bool
  nnm : PoolCfg → PoolMsg
  failure : ℤ
  failure_ne : failure ≠ 0

namespace PoolHandler
variable (x : PoolHandler)

def procDointvec : poolService.Asked (PoolAnswer x.q) := input (S := poolService) x.q

/-- The label `failure`. -/
def fail : poolService.Asked SysctlResult := do
  assign x.restore
  up
  return ⟨true, x.failure⟩

def read : poolService.Asked SysctlResult := do
  let ret ← nssN2hGetPayloadInfo
  assign x.restore
  if ret = NSS_FAILURE then
    up
    return ⟨false, -ebusy⟩
  up
  let proc ← x.procDointvec
  return ⟨false, x.ret proc⟩

def run (write : Bool) : poolService.Asked SysctlResult := do
  down
  assign x.snapshot
  if !write then x.read
  else
    let proc ← x.procDointvec
    assign (x.store proc)
    if x.ret proc ≠ 0 then
      up
      return ⟨true, x.ret proc⟩
    let p ← load
    if x.rejected p then x.fail
    else request (x.nnm p) poolFailed x.fail do
      up
      return ⟨true, NSS_SUCCESS⟩

end PoolHandler

def emptyPoolBuf : PoolHandler where
  q := .procDointvec
  ret proc := proc.ret
  store proc p := { p with newVal := proc.value }
  snapshot p := { p with emptyBufPool := p.newVal }
  restore p := { p with newVal := p.emptyBufPool }
  rejected p := p.newVal.slt NSS_N2H_MIN_EMPTY_POOL_BUF_SZ
  nnm p := .emptyPoolBufCfg p.newVal
  failure := NSS_FAILURE
  failure_ne := by decide

/-- Either mark is not set, too small or too large, or they are in the wrong order. -/
def waterMarkRejected (low high : U32) : Bool :=
  low = -1 || high = -1 ||
    low.slt NSS_N2H_MIN_EMPTY_POOL_BUF_SZ || high.slt NSS_N2H_MIN_EMPTY_POOL_BUF_SZ ||
    NSS_N2H_MAX_EMPTY_POOL_BUF_SZ.slt low || NSS_N2H_MAX_EMPTY_POOL_BUF_SZ.slt high ||
    high.slt low

def waterMark : PoolHandler where
  q := .procDointvecPair
  ret proc := proc.ret
  store proc p := { p with low := proc.low, high := proc.high }
  snapshot p := { p with lowWater := p.low, highWater := p.high }
  restore p := { p with low := p.lowWater, high := p.highWater }
  rejected p := waterMarkRejected p.low p.high
  nnm p := .setWaterMark p.low p.high
  failure := -einval
  failure_ne := by decide

def nssN2hSetEmptyPoolBuf (write : Bool) := emptyPoolBuf.run write
def nssN2hSetWaterMark (write : Bool) := waterMark.run write

theorem poolFailed_callback {nnm : PoolMsg} {r : PayloadInfo} {p : PoolCfg} :
    poolFailed (nssN2hPayloadStatsCallback nnm r p) = true ↔
      r.response ≠ .NSS_CMN_RESPONSE_ACK := by
  unfold poolFailed nssN2hPayloadStatsCallback
  by_cases hack : r.response = .NSS_CMN_RESPONSE_ACK
  · cases nnm <;> simp [hack, NSS_SUCCESS, NSS_FAILURE]
  · simp [hack]

theorem obeys_getPayloadInfo {k : ℤ → poolService.Asked SysctlResult} {p : PoolCfg}
    (hnone : ∀ t, Obeys (k NSS_FAILURE) (.inside [none] t))
    (hnack : ∀ r t, r.response ≠ .NSS_CMN_RESPONSE_ACK →
      Obeys (k NSS_FAILURE) (.answered [some r] t))
    (hack : ∀ r t, r.response = .NSS_CMN_RESPONSE_ACK →
      Obeys (k NSS_SUCCESS) (.answered [some r] t)) :
    Obeys (nssN2hGetPayloadInfo >>= k) (.inside [] p) := by
  unfold nssN2hGetPayloadInfo
  rw [bind_assoc]
  apply obeys_send rfl (fun _ _ => trivial)
  · rw [if_neg nofun, bind_assoc]
    apply obeys_wait
    · intro t r _
      rw [if_neg nofun, bind_assoc]
      apply obeys_loadAnswered
      by_cases hr : r.response = .NSS_CMN_RESPONSE_ACK
      · rw [if_neg (poolFailed_callback.not.mpr (not_not_intro hr))]
        exact hack r _ hr
      · rw [if_pos (poolFailed_callback.mpr hr)]
        exact hnack r _ hr
    · exact hnone p
  · exact hnone p

theorem not_acked_none : ¬ Acked [none] := by
  rintro ⟨r, hr, -⟩
  simp at hr

theorem not_acked_some {r : PayloadInfo} (h : r.response ≠ .NSS_CMN_RESPONSE_ACK) :
    ¬ Acked [some r] := by
  rintro ⟨r', hr, hack⟩
  simp at hr
  exact h (hr ▸ hack)

theorem returns_failure {os : List (Option PayloadInfo)} {write : Bool} {ret : ℤ}
    (hret : ret ≠ 0) (hos : ¬ Acked os) : poolService.Returns os ⟨write, ret⟩ :=
  ⟨fun h => absurd h hret, fun _ h => absurd h hos⟩

theorem not_acked_nil : ¬ Acked [] := by
  rintro ⟨r, hr, -⟩
  simp at hr

section Handler
variable {x : PoolHandler} {p : PoolCfg}

theorem obeys_read : Obeys x.read (.inside [] p) := by
  apply obeys_getPayloadInfo
  · intro t
    apply obeys_assignInside
    intro u _
    apply obeys_upInside
    apply obeys_ret
    exact returns_failure (by decide) not_acked_none
  · intro r t hnack
    apply obeys_assignAnswered
    apply obeys_upAnswered
    apply obeys_ret
    exact returns_failure (by decide) (not_acked_some hnack)
  · intro r t hack
    apply obeys_assignAnswered
    rw [if_neg (by decide)]
    apply obeys_upAnswered
    apply obeys_inputOutside
    intro proc _
    apply obeys_ret
    exact ⟨fun _ => ⟨r, rfl, hack⟩, nofun⟩

theorem obeys_failInside {os : List (Option PayloadInfo)} (hos : ¬ Acked os) :
    Obeys x.fail (.inside os p) := by
  apply obeys_assignInside
  intro t _
  apply obeys_upInside
  exact obeys_ret (returns_failure x.failure_ne hos)

theorem obeys_failAnswered {os : List (Option PayloadInfo)} (hos : ¬ Acked os) :
    Obeys x.fail (.answered os p) := by
  apply obeys_assignAnswered
  apply obeys_upAnswered
  exact obeys_ret (returns_failure x.failure_ne hos)

theorem obeys_run (write : Bool) : Obeys (x.run write) (.outside [] none) := by
  apply obeys_down
  intro v
  apply obeys_assignInside
  intro t _
  apply obeys_ite
  · intro _
    exact obeys_read
  · intro _
    apply obeys_inputInside
    intro proc _
    apply obeys_assignInside
    intro t _
    apply obeys_ite
    · intro hret
      apply obeys_upInside
      exact obeys_ret (returns_failure hret not_acked_nil)
    · intro _
      apply obeys_loadInside
      intro t _
      apply obeys_ite
      · intro _
        exact obeys_failInside not_acked_nil
      · intro _
        apply obeys_request rfl (fun _ _ => trivial)
        · intro u
          exact obeys_failInside not_acked_none
        · intro u r _
          by_cases hr : r.response = .NSS_CMN_RESPONSE_ACK
          · rw [if_neg (poolFailed_callback.not.mpr (not_not_intro hr))]
            apply obeys_upAnswered
            exact obeys_ret ⟨fun _ => ⟨r, rfl, hr⟩, fun _ _ => rfl⟩
          · rw [if_pos (poolFailed_callback.mpr hr)]
            exact obeys_failAnswered (not_acked_some hr)

end Handler

end Pool

section WifiPool

/-- `nss_n2h_wp` with the number that `sysctl` shows. -/
structure WifiPool where
  response : ℤ
  wifiPool : U32
  payloads : U32

abbrev wifiPoolService : Service where
  Mem := WifiPool
  Msg := U32
  Resp := NssCmnResponse
  Result := SysctlResult
  Input := Unit
  Ans _ := Dointvec
  home _ := true
  Shared := False
  Ready _ _ := True
  callback _ r wp := { wp with response := callbackResponse r }
  Fair _ _ := True
  Drift := Eq
  drift_refl _ := rfl
  drift_trans _ _ _ := Eq.trans
  Returns os a := a.write = true → (a.ret = 0 ↔ os = [some .NSS_CMN_RESPONSE_ACK])

def wifiDointvec : wifiPoolService.Asked Dointvec := input (S := wifiPoolService) ()

/-- The label `failure`, which leaves the rejected number in place. -/
def failWifiPool : wifiPoolService.Asked SysctlResult := do
  up
  return ⟨true, -einval⟩

def nssN2hCfgWifiPool (write : Bool) : wifiPoolService.Asked SysctlResult := do
  down
  if !write then
    assign fun wp => { wp with payloads := wp.wifiPool }
    up
    let proc ← wifiDointvec
    return ⟨false, proc.ret⟩
  else
    let proc ← wifiDointvec
    assign fun wp => { wp with payloads := proc.value }
    if proc.ret ≠ 0 then
      up
      return ⟨true, proc.ret⟩
    let wp ← load
    if wp.payloads = -1 then failWifiPool
    else if wp.payloads.slt NSS_N2H_MIN_EMPTY_POOL_BUF_SZ then failWifiPool
    else if NSS_N2H_MAX_EMPTY_POOL_BUF_SZ.slt wp.payloads then failWifiPool
    else request wp.payloads (fun wp => wp.response = NSS_FAILURE) failWifiPool do
      up
      return ⟨true, NSS_SUCCESS⟩

variable {os : List (Option NssCmnResponse)} {wp : WifiPool}

theorem obeys_failWifiInside (hos : os ≠ [some .NSS_CMN_RESPONSE_ACK]) :
    Obeys failWifiPool (.inside os wp) := by
  apply obeys_upInside
  apply obeys_ret
  intro _
  simp [hos, einval]

theorem obeys_failWifiAnswered (hos : os ≠ [some .NSS_CMN_RESPONSE_ACK]) :
    Obeys failWifiPool (.answered os wp) := by
  apply obeys_upAnswered
  apply obeys_ret
  intro _
  simp [hos, einval]

theorem obeys_cfgWifiPool (write : Bool) : Obeys (nssN2hCfgWifiPool write) (.outside [] none) := by
  apply obeys_down
  intro v
  apply obeys_ite
  · intro _
    apply obeys_assignInside
    intro t _
    apply obeys_upInside
    apply obeys_inputOutside
    intro proc _
    apply obeys_ret
    exact nofun
  · intro _
    apply obeys_inputInside
    intro proc _
    apply obeys_assignInside
    intro t _
    apply obeys_ite
    · intro hret
      apply obeys_upInside
      apply obeys_ret
      intro _
      simp [hret]
    · intro _
      apply obeys_loadInside
      intro t _
      apply obeys_ite
      · intro _
        exact obeys_failWifiInside nofun
      · intro _
        apply obeys_ite
        · intro _
          exact obeys_failWifiInside nofun
        · intro _
          apply obeys_ite
          · intro _
            exact obeys_failWifiInside nofun
          · intro _
            apply obeys_request rfl (fun _ _ => trivial)
            · intro u
              exact obeys_failWifiInside nofun
            · intro u r _
              by_cases hack : r = .NSS_CMN_RESPONSE_ACK
              · rw [if_neg (by simpa using callbackResponse_failure.not.mpr (not_not_intro hack))]
                apply obeys_upAnswered
                apply obeys_ret
                simp [hack, NSS_SUCCESS]
              · rw [if_pos (by simpa using callbackResponse_failure.mpr hack)]
                apply obeys_failWifiAnswered
                simp [hack]

end WifiPool

section Enable

/-- A configuration with the switch that its callback sets. -/
structure EnableCfg where
  response : ℤ
  enabled : U32

structure EnableResponse where
  response : NssCmnResponse
  enable : U32

def enableCallback (r : EnableResponse) (c : EnableCfg) : EnableCfg :=
  if r.response ≠ .NSS_CMN_RESPONSE_ACK then { c with response := NSS_FAILURE }
  else ⟨NSS_SUCCESS, r.enable⟩

abbrev enableService : Service where
  Mem := EnableCfg
  Msg := U32
  Resp := EnableResponse
  Result := ℤ
  Input := Empty
  Ans := Empty.elim
  home _ := true
  Shared := False
  Ready _ _ := True
  callback _ := enableCallback
  Fair _ _ := True
  Drift := Eq
  drift_refl _ := rfl
  drift_trans _ _ _ := Eq.trans
  Returns os a := a = 0 ↔ ∃ r, os = [some r] ∧ r.response = .NSS_CMN_RESPONSE_ACK

def failEnable : enableService.Asked ℤ := do
  up
  return NSS_FAILURE

def enableCfg (enable : U32) : enableService.Asked ℤ := do
  down
  request enable (fun c => c.response = NSS_FAILURE) failEnable do
    up
    return NSS_SUCCESS

def nssN2hRpsCfg (enableRps : U32) := enableCfg enableRps
def nssN2hMitigationCfg (enableMitigation : U32) := enableCfg enableMitigation

theorem enableCallback_failure {r : EnableResponse} {c : EnableCfg} :
    (enableCallback r c).response = NSS_FAILURE ↔ r.response ≠ .NSS_CMN_RESPONSE_ACK := by
  unfold enableCallback
  split
  · simp [*]
  · simp [*, NSS_SUCCESS, NSS_FAILURE]

theorem obeys_enableCfg (enable : U32) : Obeys (enableCfg enable) (.outside [] none) := by
  apply obeys_down
  intro v
  apply obeys_request rfl (fun _ _ => trivial)
  · intro t
    apply obeys_upInside
    apply obeys_ret
    simp [NSS_FAILURE]
  · intro t r _
    by_cases hack : r.response = .NSS_CMN_RESPONSE_ACK
    · rw [if_neg (by simpa using enableCallback_failure.not.mpr (not_not_intro hack))]
      apply obeys_upAnswered
      apply obeys_ret
      simp [NSS_SUCCESS, hack]
    · rw [if_pos (by simpa using enableCallback_failure.mpr hack)]
      apply obeys_upAnswered
      apply obeys_ret
      simp [NSS_FAILURE, hack]

end Enable

section BufPool

/-- The `nss_n2h_bufcp` of a core with what its callback counts. -/
structure BufPool where
  response : ℤ
  bufSzAllocated : U32

/-- The one message of both cores: the core whose callback it names, and its pages. -/
structure BufPoolMsg where
  core : ℕ
  numPages : ℕ

structure BufPoolResponse where
  response : NssCmnResponse
  nssBufPageSize : U32
  nssBufNumPages : U32

/-- `kzalloc` answers how many pages there are before it fails, `message` what
    the shared message says when it is copied. -/
inductive BufPoolInput where
  | kzalloc
  | message (own : BufPoolMsg)
  | bug

abbrev BufPoolAnswer : BufPoolInput → Type
  | .kzalloc => ℕ
  | .message _ => BufPoolMsg
  | .bug => Unit

def nssN2hBufsCfgCallback (r : BufPoolResponse) (p : BufPool) : BufPool :=
  if r.response ≠ .NSS_CMN_RESPONSE_ACK then { p with response := NSS_FAILURE }
  else ⟨NSS_SUCCESS, p.bufSzAllocated + r.nssBufPageSize * r.nssBufNumPages⟩

def AllAcked (os : List (Option BufPoolResponse)) : Prop :=
  ∀ o ∈ os, ∃ r, o = some r ∧ r.response = .NSS_CMN_RESPONSE_ACK

/-- In a fair run nobody else has written the message since the call has. -/
abbrev bufPoolService (core : ℕ) : Service where
  Mem := BufPool
  Msg := BufPoolMsg
  Resp := BufPoolResponse
  Result := ℤ
  Input := BufPoolInput
  Ans := BufPoolAnswer
  home nnm := nnm.core = core
  Shared := True
  Ready _ _ := True
  callback _ := nssN2hBufsCfgCallback
  Fair
    | .message own, nnm => nnm = own
    | _, _ => True
  Drift := Eq
  drift_refl _ := rfl
  drift_trans _ _ _ := Eq.trans
  Returns os a := a = 0 ↔ os ≠ [] ∧ AllAcked os

def pageCount (numPages got : ℕ) : ℕ := min (min MAX_PAGES_PER_MSG numPages) got

theorem remaining_lt {numPages got : ℕ} (hbug : ¬ (got = 0 ∧ numPages ≠ 0))
    (hmore : numPages - pageCount numPages got ≠ 0) :
    numPages - pageCount numPages got < numPages := by
  unfold pageCount MAX_PAGES_PER_MSG at *
  omega

variable {core : ℕ}

def kzalloc : (bufPoolService core).Asked ℕ := input (S := bufPoolService core) .kzalloc

def message (own : BufPoolMsg) : (bufPoolService core).Asked BufPoolMsg :=
  input (S := bufPoolService core) (.message own)

/-- `BUG_ON`, which does not return. -/
def bug : (bufPoolService core).Asked ℤ :=
  .loop (.input (.bug : BufPoolInput)) (fun _ => true) [] (.ret NSS_FAILURE)

/-- The label `failure`. -/
def failBufPool : (bufPoolService core).Asked ℤ := do
  up
  return NSS_FAILURE

/-- The rounds of the loop, up to 32 pages each. -/
def sendPages (core numPages : ℕ) : (bufPoolService core).Asked ℤ := do
  down
  let got ← kzalloc
  if _hbug : got = 0 ∧ numPages ≠ 0 then bug
  else
    let nnm ← message ⟨core, pageCount numPages got⟩
    request nnm (fun p => p.response = NSS_FAILURE) failBufPool do
      up
      if _hmore : numPages - pageCount numPages got ≠ 0 then
        sendPages core (numPages - pageCount numPages got)
      else return NSS_SUCCESS
termination_by numPages
decreasing_by
  exact remaining_lt ‹_› ‹_›

def nssN2hBufPoolCfg (core bufPoolSize : ℕ) : (bufPoolService core).Asked ℤ :=
  sendPages core ((bufPoolSize + PAGE_SIZE - 1) / PAGE_SIZE)

theorem bufsCfgCallback_failure {r : BufPoolResponse} {p : BufPool} :
    (nssN2hBufsCfgCallback r p).response = NSS_FAILURE ↔ r.response ≠ .NSS_CMN_RESPONSE_ACK := by
  unfold nssN2hBufsCfgCallback
  split
  · simp [*]
  · simp [*, NSS_SUCCESS, NSS_FAILURE]

theorem allAcked_concat {os : List (Option BufPoolResponse)} {o : Option BufPoolResponse} :
    AllAcked (os ++ [o]) ↔
      AllAcked os ∧ ∃ r, o = some r ∧ r.response = .NSS_CMN_RESPONSE_ACK := by
  unfold AllAcked
  simp only [List.mem_append, List.mem_singleton]
  constructor
  · intro h
    exact ⟨fun o ho => h o (.inl ho), h o (.inr rfl)⟩
  · rintro ⟨hos, ho⟩ o' (hmem | rfl)
    · exact hos o' hmem
    · exact ho

theorem obeys_sendPages (numPages : ℕ) (os : List (Option BufPoolResponse))
    (known : Option BufPool) (hos : AllAcked os) :
    Obeys (sendPages core numPages) (.outside os known) := by
  induction numPages using Nat.strong_induction_on generalizing os known with
  | _ numPages ih =>
    unfold sendPages
    apply obeys_down
    intro v
    apply obeys_inputInside
    intro got _
    by_cases hbug : got = 0 ∧ numPages ≠ 0
    · rw [dif_pos hbug]
      exact nofun
    · rw [dif_neg hbug]
      apply obeys_inputInside
      rintro nnm rfl
      apply obeys_request (by simp) (fun _ _ => trivial)
      · intro t
        apply obeys_upInside
        apply obeys_ret
        simp [NSS_FAILURE, allAcked_concat]
      · intro t r _
        by_cases hack : r.response = .NSS_CMN_RESPONSE_ACK
        · rw [if_neg (by simpa using bufsCfgCallback_failure.not.mpr (not_not_intro hack))]
          have hnext : AllAcked (os ++ [some r]) := allAcked_concat.mpr ⟨hos, r, rfl, hack⟩
          apply obeys_upAnswered
          by_cases hmore : numPages - pageCount numPages got ≠ 0
          · rw [dif_pos hmore]
            exact ih _ (remaining_lt hbug hmore) _ _ hnext
          · rw [dif_neg hmore]
            apply obeys_ret
            simp [NSS_SUCCESS, hnext]
        · rw [if_pos (by simpa using bufsCfgCallback_failure.mpr hack)]
          apply obeys_upAnswered
          apply obeys_ret
          simp [NSS_FAILURE, allAcked_concat, hack]

theorem obeys_bufPoolCfg (bufPoolSize : ℕ) :
    Obeys (nssN2hBufPoolCfg core bufPoolSize) (.outside [] none) :=
  obeys_sendPages _ _ _ nofun

end BufPool

end NssDrv.N2hRequests

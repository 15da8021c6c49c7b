import Mathlib.Data.Nat.Notation
import Mathlib.Logic.Function.Basic
import NssDrv.HlosInterface

set_option autoImplicit false

/-!
# The clients of the power management

`nss_pm.c`: the handle of a client is its entry in `nss_pm_client[]`, and the handle
that it has with the bus driver is a number, `NULL` where the entry has none. What
the kernel answers is an argument of the call.
-/
namespace NssDrv.PmClients
open HlosInterface

inductive NssPmClient where
  | gmac
  | crypto
  | netap
  deriving DecidableEq

/-- The entry of a client id; there is none from `NSS_PM_MAX_CLIENTS` on. -/
def pmClient : ℕ → Option NssPmClient
  | 0 => some .gmac
  | 1 => some .crypto
  | 2 => some .netap
  | _ => none

inductive NssPmPerfLevel where
  | suspend
  | idle
  | nominal
  | turbo
  | maxLevels
  deriving DecidableEq

structure NssPmClientData where
  busPerfClient : Option ℕ
  currentPerfLvl : NssPmPerfLevel
  clientId : NssPmClient

/-- The crypto clocks: the two ports of the fabric and the core. -/
inductive Ce5Clock where
  | aclk
  | hclk
  | core
  deriving DecidableEq

/-- The registers `SRC0_NS` and `SRC_CTL` of a clock. -/
structure ClkSrc where
  src0Ns : U32
  srcCtl : U32
  deriving DecidableEq

/-- `live` are the handles that the bus driver has given and not taken back. `requested` is the
    level of the last request of a client that it granted, `registered` whether the client's
    last registration was not undone, and `misused` whether a dead handle was given to it. -/
structure PmState where
  turboSupport : Bool
  client : NssPmClient → NssPmClientData
  tcmSrcCtl : U32
  ce5 : Ce5Clock → ClkSrc
  nextBus : ℕ
  live : ℕ → Bool
  requested : NssPmClient → Option NssPmPerfLevel
  registered : NssPmClient → Bool
  misused : Bool

namespace PmState

def setBus (c : NssPmClient) (bus : Option ℕ) (s : PmState) : PmState :=
  { s with client := Function.update s.client c { s.client c with busPerfClient := bus } }

def setLevel (c : NssPmClient) (lvl : NssPmPerfLevel) (s : PmState) : PmState :=
  { s with client := Function.update s.client c { s.client c with currentPerfLvl := lvl } }

def setId (c : NssPmClient) (s : PmState) : PmState :=
  { s with client := Function.update s.client c { s.client c with clientId := c } }

def setRegistered (c : NssPmClient) (registered : Bool) (s : PmState) : PmState :=
  { s with registered := Function.update s.registered c registered }

/-- `msm_bus_scale_register_client`, which gives a new handle. -/
def busRegister (s : PmState) : PmState :=
  { s with nextBus := s.nextBus + 1, live := Function.update s.live s.nextBus true }

/-- `msm_bus_scale_client_update_request`. -/
def busRequest (c : NssPmClient) (bus : ℕ) (lvl : NssPmPerfLevel) (granted : Bool) (s : PmState) :
    PmState :=
  { s with
    misused := s.misused || !s.live bus
    requested := if granted then Function.update s.requested c (some lvl) else s.requested }

/-- `msm_bus_scale_unregister_client`. -/
def busUnregister (bus : ℕ) (s : PmState) : PmState :=
  { s with misused := s.misused || !s.live bus, live := Function.update s.live bus false }

end PmState

/-- The answer is whether there is a handle, or whether the call was a success. `dir` is whether
    the directory in debugfs could be made. -/
def nssPmClientRegister (id : ℕ) (bus granted dir : Bool) (s : PmState) : Bool × PmState :=
  match pmClient id with
  | none => (false, s)
  | some c =>
    if bus then
      let asked := ((s.busRegister.setBus c (some s.nextBus)).busRequest c s.nextBus .idle granted)
      if granted then
        let ready := (asked.setLevel c .idle).setRegistered c true
        (true, if dir then ready.setId c else ready)
      else (false, asked.busUnregister s.nextBus)
    else (false, s.setBus c none)

def nssPmClientUnregister (id : ℕ) (s : PmState) : Bool × PmState :=
  match pmClient id with
  | none => (false, s)
  | some c =>
    match (s.client c).busPerfClient with
    | some bus => (true, (s.busUnregister bus).setRegistered c false)
    | none => (true, s.setRegistered c false)

def tcmTurbo : U32 := 0x3
def tcmNominal : U32 := 0x2
def ce5Turbo : ClkSrc := ⟨0x23, 0x2⟩

/-- `lvl` is turbo, and the platform supports it. -/
def turboAsked (lvl : NssPmPerfLevel) (s : PmState) : Bool := lvl = .turbo && s.turboSupport

/-- The clocks of the client, and the level that is requested for it. -/
def clientClocks (id : NssPmClient) (lvl : NssPmPerfLevel) (s : PmState) :
    PmState × NssPmPerfLevel :=
  match id with
  | .gmac => (s, lvl)
  | .crypto =>
    if turboAsked lvl s then ({ s with ce5 := fun _ => ce5Turbo }, lvl) else (s, .nominal)
  | .netap =>
    if turboAsked lvl s then ({ s with tcmSrcCtl := tcmTurbo }, lvl)
    else ({ s with tcmSrcCtl := tcmNominal }, if lvl = .turbo then .nominal else lvl)

/-- The request for the level that the clocks leave. -/
def requestLevel (c : NssPmClient) (bus : ℕ) (granted : Bool)
    (switched : PmState × NssPmPerfLevel) : Bool × PmState :=
  let asked := switched.1.busRequest c bus switched.2 granted
  if granted then (true, asked.setLevel c switched.2) else (false, asked)

/-- The handle is the entry of `c`; the client is the one that the entry names. -/
def nssPmSetPerfLevel (c : NssPmClient) (lvl : NssPmPerfLevel) (granted : Bool) (s : PmState) :
    Bool × PmState :=
  if (s.client c).currentPerfLvl = lvl then (true, s)
  else
    match (s.client c).busPerfClient with
    | none => (false, s)
    | some bus => requestLevel c bus granted (clientClocks (s.client c).clientId lvl s)

def nssPmSetTurbo (s : PmState) : PmState := { s with turboSupport := true }

/-- The state after `nss_pm_init`, with the clocks as they are then. -/
def nssPmInit (tcm : U32) (ce5 : Ce5Clock → ClkSrc) : PmState where
  turboSupport := false
  client := fun _ => ⟨none, .suspend, .gmac⟩
  tcmSrcCtl := tcm
  ce5 := ce5
  nextBus := 0
  live := fun _ => false
  requested := fun _ => none
  registered := fun _ => false
  misused := false

inductive PmCall where
  | register (id : ℕ) (bus granted dir : Bool)
  | setPerfLevel (c : NssPmClient) (lvl : NssPmPerfLevel) (granted : Bool)
  | unregister (id : ℕ)
  | setTurbo

def perform (s : PmState) : PmCall → Bool × PmState
  | .register id bus granted dir => nssPmClientRegister id bus granted dir s
  | .setPerfLevel c lvl granted => nssPmSetPerfLevel c lvl granted s
  | .unregister id => nssPmClientUnregister id s
  | .setTurbo => (true, nssPmSetTurbo s)

def step (s : PmState) (call : PmCall) : PmState := (perform s call).2

end NssDrv.PmClients

import NssDrv.EarlyExit
import NssDrv.FrequencyScaling
import NssDrv.HandlerAssertions

set_option autoImplicit false

/-!
# The probe of a core

`nss_hal_probe` of the two hardware layers. A resource is noted when the call gets
it and when the call gives it back; `err` is the variable of the call, which a
jump to a label leaves as it is. The kernel answers an error with a negative code.
-/
namespace NssDrv.CoreProbe
open EarlyExit HlosInterface InterfaceTables HandlerAssertions
open FrequencyScaling (NssScaleInfo NSS_FREQ_MAX_SCALE)

def ENOMEM : ℤ := 12
def EFAULT : ℤ := 14
def EBUSY : ℤ := 16
def ENODEV : ℤ := 19

def NSS_MAX_CORES : ℕ := 2
def MIN_IMG_SIZE : ℕ := 64 * 1024

def NSS_FREQ_110 : U32 := 110000000
def NSS_FREQ_275 : U32 := 275000000
def NSS_FREQ_550 : U32 := 550000000
def NSS_FREQ_600 : U32 := 600000000
def NSS_FREQ_733 : U32 := 733000000
def NSS_FREQ_800 : U32 := 800000000

def NSS_FREQ_LOW_SCALE : ℕ := 0
def NSS_FREQ_MID_SCALE : ℕ := 1
def NSS_FREQ_HIGH_SCALE : ℕ := 2

def NSS_IPSEC_ENCAP_IF_NUMBER : ℕ := 20
def NSS_IPSEC_DECAP_IF_NUMBER : ℕ := 21
def NSS_ETH_RX_INTERFACE : ℕ := 90
def NSS_CRYPTO_INTERFACE : ℕ := 97
def NSS_COREFREQ_INTERFACE : ℕ := 107
def NSS_GRE_REDIR_INTERFACE : ℕ := 109
def NSS_LSO_RX_INTERFACE : ℕ := 110
def NSS_L2TPV2_INTERFACE : ℕ := 122
def NSS_PPTP_INTERFACE : ℕ := 124
def NSS_OAM_INTERFACE : ℕ := 126

/-- The layer, and for ipq806x the options of the build: the device tree, MAP-T and the
    scaling of frequencies. -/
inductive Hal where
  | ipq806x (dt mapT freqScale : Bool)
  | fsm9010
  deriving DecidableEq

def Hal.devicetree : Hal → Bool
  | .ipq806x dt _ _ => dt
  | .fsm9010 => true

/-- The layer loads the firmware and sets the clocks. -/
def Hal.boots : Hal → Bool
  | .ipq806x _ _ _ => true
  | .fsm9010 => false

/-- The features that have message handlers. -/
inductive Feature where
  | ipv4
  | ipv4Reasm
  | ipv6
  | ipv6Reasm
  | crypto
  | ipsec
  | pptp
  | l2tpv2
  | mapT
  | tunipip6
  | greRedir
  | portid
  | wifioffload
  | oam
  deriving DecidableEq

/-- The features in the order in which the probe asks for them. -/
def Hal.features : Hal → List Feature
  | .ipq806x _ mapT _ =>
    [.ipv4, .ipv4Reasm, .ipv6, .ipv6Reasm, .crypto, .ipsec, .pptp, .l2tpv2] ++
      (if mapT then [.mapT] else []) ++ [.tunipip6, .greRedir, .portid, .wifioffload]
  | .fsm9010 =>
    [.ipv4, .ipv4Reasm, .ipv6, .ipv6Reasm, .crypto, .ipsec, .l2tpv2, .tunipip6, .oam]

/-- The interfaces that the `nss_*_register_handler` of a feature register, in their order. -/
def Feature.interfaces (hal : Hal) : Feature → List ℕ
  | .ipv4 =>
    [NSS_IPV4_RX_INTERFACE] ++ (if hal.boots then [NSS_PPPOE_RX_INTERFACE] else []) ++
      [NSS_ETH_RX_INTERFACE, NSS_N2H_INTERFACE, NSS_LAG0_INTERFACE_NUM, NSS_LAG1_INTERFACE_NUM,
        NSS_LAG2_INTERFACE_NUM, NSS_LAG3_INTERFACE_NUM, NSS_DYNAMIC_INTERFACE]
  | .ipv4Reasm => [NSS_IPV4_REASM_INTERFACE]
  | .ipv6 => [NSS_IPV6_RX_INTERFACE]
  | .ipv6Reasm => [NSS_IPV6_REASM_INTERFACE]
  | .crypto => [NSS_CRYPTO_INTERFACE]
  | .ipsec => [NSS_IPSEC_ENCAP_IF_NUMBER, NSS_IPSEC_DECAP_IF_NUMBER]
  | .pptp => [NSS_PPTP_INTERFACE]
  | .l2tpv2 => [NSS_L2TPV2_INTERFACE]
  | .mapT => [NSS_MAP_T_INTERFACE]
  | .tunipip6 => [NSS_TUNIPIP6_INTERFACE]
  | .greRedir => [NSS_GRE_REDIR_INTERFACE, NSS_SJACK_INTERFACE]
  | .portid => [NSS_PORTID_INTERFACE]
  | .wifioffload => [NSS_WIFI_INTERFACE0, NSS_WIFI_INTERFACE1, NSS_WIFI_INTERFACE2]
  | .oam => [NSS_OAM_INTERFACE]

/-- The interrupts of a core, by their place in `int_ctx[]`. -/
inductive IntCtx where
  | first
  | second
  deriving DecidableEq

/-- The platform of a core: its platform data, the frequencies that its device node has and
    the size of its firmware image. -/
structure Platform where
  id : ℕ
  numIrq : ℕ
  oneOrTwo : numIrq = 1 ∨ numIrq = 2
  irq : IntCtx → ℕ
  turboFrequency : Bool
  lowFrequency : Option U32
  midFrequency : Option U32
  maxFrequency : Option U32
  enabled : Feature → Bool
  imageSize : ℕ

abbrev Errno := { e : ℤ // e < 0 }

inductive ResetLine where
  | clkrstClamp
  | clamp
  | ahb
  | axi
  deriving DecidableEq

/-- What the kernel answers in one call; `none` is the 0 of a call that succeeds. -/
structure Kernel where
  noTcmSrc : Bool
  noTcmClk : Bool
  noNode : Bool
  noPdata : Bool
  noProperty : Bool
  noNphys : Bool
  noVphys : Bool
  noNmap : Bool
  noVmap : Bool
  irqUnmapped : IntCtx → Bool
  requestFirmware : Option Errno
  noLoadMem : Bool
  coreClk : Option Errno
  setRate : U32 → Bool
  noNetdev : IntCtx → Bool
  registerNetdev : IntCtx → Option Errno
  requestIrq : IntCtx → Option Errno
  noReset : ResetLine → Bool
  rxMsgHandler : ℕ → ℕ

inductive Mapping where
  | load
  | nmap
  | vmap
  deriving DecidableEq

abbrev FreqTable := ℕ → NssScaleInfo

def setFrequency (i : ℕ) (f : U32) (table : FreqTable) : FreqTable :=
  Function.update table i { table i with frequency := f }

/-- The instructions per ms of each frequency that the driver knows. -/
def frequencyRange (f : U32) : Option (U32 × U32) :=
  if f = NSS_FREQ_110 ∨ f = NSS_FREQ_275 then some (0x03000, 0x07000)
  else if f = NSS_FREQ_550 ∨ f = NSS_FREQ_600 then some (0x07000, 0x08000)
  else if f = NSS_FREQ_733 ∨ f = NSS_FREQ_800 then some (0x07000, 0x25000)
  else none

def setupRanges (table : FreqTable) : FreqTable := fun i =>
  match frequencyRange (table i).frequency with
  | some (lowest, highest) =>
    if i < NSS_FREQ_MAX_SCALE.toNat then
      { table i with minimum := lowest, maximum := highest }
    else table i
  | none => table i

def scales : List ℕ := [NSS_FREQ_LOW_SCALE, NSS_FREQ_MID_SCALE, NSS_FREQ_HIGH_SCALE]

def tableGiven (table : FreqTable) : Bool := scales.all fun i => (table i).frequency != 0

def tableKnown (table : FreqTable) : Bool :=
  scales.all fun i => (frequencyRange (table i).frequency).isSome

/-- A property of the node that cannot be read leaves the table. -/
def readFrequency (i : ℕ) (f : Option U32) (table : FreqTable) : FreqTable :=
  match f with
  | none => table
  | some f => setFrequency i f table

def readFrequencies (npd : Platform) (table : FreqTable) : FreqTable :=
  readFrequency NSS_FREQ_HIGH_SCALE npd.maxFrequency
    (readFrequency NSS_FREQ_MID_SCALE npd.midFrequency
      (readFrequency NSS_FREQ_LOW_SCALE npd.lowFrequency table))

/-- What a probe gets and has to give back. A net_device is allocated and freed, its
    registration made and undone; a NAPI context is enabled and disabled. -/
inductive Resource where
  | firmware
  | mapping (m : Mapping)
  | netDevice (n : ℕ)
  | registration (n : ℕ)
  | interrupt (line : ℕ)
  | napi (i : IntCtx)
  | handler (interface : ℕ)
  deriving DecidableEq

/-- The state that the probes of a core share, and that of the call: `err`, and the resources
    that it got and gave back. `ndev` is `int_ctx[].ndev` of the core. -/
structure ProbeState where
  commonInitDone : Bool
  freqScale : FreqTable
  ndev : IntCtx → Option ℕ
  nextNdev : ℕ
  irqHeld : ℕ → Bool
  handlers : RxHandlers
  numNss : ℕ
  err : ℤ
  acquired : List Resource
  released : List Resource

inductive Label where
  | errInit5
  | errInit4
  | errInit3
  | errInit2
  | errInit1
  | errInit0
  deriving DecidableEq

/-- How a part of the probe leaves: to a label, out of the probe, or not at all. -/
inductive Exit where
  | goto (l : Label)
  | ret (err : ℤ)
  | oops
  deriving DecidableEq

abbrev Walk := EStateM Exit ProbeState

namespace ProbeState

def acquire (r : Resource) (s : ProbeState) : ProbeState :=
  { s with acquired := s.acquired ++ [r] }

def release (r : Resource) (s : ProbeState) : ProbeState :=
  { s with released := s.released ++ [r] }

def setErr (e : ℤ) (s : ProbeState) : ProbeState := { s with err := e }

def onTable (g : FreqTable → FreqTable) (s : ProbeState) : ProbeState :=
  { s with freqScale := g s.freqScale }

def setHeld (line : ℕ) (held : Bool) (s : ProbeState) : ProbeState :=
  { s with irqHeld := Function.update s.irqHeld line held }

def registerHandler (k : Kernel) (interface : ℕ) (s : ProbeState) : ProbeState :=
  match nssCoreRegisterHandler interface (k.rxMsgHandler interface) 0 s.handlers with
  | (.success, handlers) => { s with handlers := handlers }.acquire (.handler interface)
  | (_, handlers) => { s with handlers := handlers }

end ProbeState

/-- The access to `nss_top->nss[id]`. -/
def coreInstance (npd : Platform) : Walk Unit := refuse (decide (NSS_MAX_CORES ≤ npd.id)) .oops

def commonInit (k : Kernel) : Walk Unit := do
  refuse k.noTcmSrc (.ret (-EFAULT))
  refuse k.noTcmClk (.ret (-EFAULT))
  modify fun s => { s with commonInitDone := true }

/-- The label `out`: no platform data. -/
def pdataOut (maps : List Mapping) : Walk Bool := do
  maps.forM fun m => modify (·.release (.mapping m))
  return false

def nssHalOfGetPdata (hal : Hal) (npd : Platform) (k : Kernel) : Walk Bool := do
  if k.noPdata then return false
  if k.noProperty then pdataOut []
  else
    modify (·.onTable fun table => if hal.boots then readFrequencies npd table else table)
    coreInstance npd
    if k.noNphys || k.noVphys then pdataOut []
    else if k.noNmap then pdataOut []
    else
      modify (·.acquire (.mapping .nmap))
      if k.noVmap then pdataOut [.nmap]
      else
        modify (·.acquire (.mapping .vmap))
        if k.irqUnmapped .first || (decide (npd.numIrq > 1) && k.irqUnmapped .second) then
          pdataOut [.nmap, .vmap]
        else return true

def platformData (hal : Hal) (npd : Platform) (k : Kernel) : Walk Unit := do
  refuse k.noNode (.ret (-ENODEV))
  let got ← nssHalOfGetPdata hal npd k
  refuse (!got) (.ret (-EFAULT))

def requestFirmware (npd : Platform) (k : Kernel) : Option Errno :=
  if npd.id = 0 ∨ npd.id = 1 then k.requestFirmware else some ⟨-ENODEV, by decide⟩

def loadFirmware (npd : Platform) (k : Kernel) : Walk Unit := do
  match requestFirmware npd k with
  | some rc =>
    modify (·.setErr rc)
    throw (.goto .errInit0)
  | none =>
    modify (·.acquire .firmware)
    refuse (decide (npd.imageSize < MIN_IMG_SIZE)) (.goto .errInit0)
    if k.noLoadMem then
      modify (·.release .firmware)
      throw (.goto .errInit0)
    else modify fun s => ((s.acquire (.mapping .load)).release .firmware).release (.mapping .load)

def coreClock (k : Kernel) : Walk Unit := do
  match k.coreClk with
  | some e =>
    modify (·.setErr e)
    throw (.ret e)
  | none => pure ()

/-- `clk_set_rate`, and the scale of the table when it is set. -/
def tryRate (k : Kernel) (i : ℕ) (f : U32) : Walk Bool := do
  if k.setRate f then
    modify (·.onTable (setFrequency i f))
    return true
  else return false

def queryFrequencies (npd : Platform) (k : Kernel) : Walk Bool :=
  tryRate k NSS_FREQ_LOW_SCALE NSS_FREQ_110 <&&>
    if npd.turboFrequency then
      (tryRate k NSS_FREQ_MID_SCALE NSS_FREQ_600 <||>
        tryRate k NSS_FREQ_MID_SCALE NSS_FREQ_550) <&&>
      (tryRate k NSS_FREQ_HIGH_SCALE NSS_FREQ_800 <||>
        tryRate k NSS_FREQ_HIGH_SCALE NSS_FREQ_733)
    else
      tryRate k NSS_FREQ_MID_SCALE NSS_FREQ_275 <&&>
        tryRate k NSS_FREQ_HIGH_SCALE NSS_FREQ_550

/-- The node has given all frequencies, or the clock is asked. -/
def findFrequencies (npd : Platform) (k : Kernel) : Walk Bool := do
  if tableGiven (← get).freqScale then return true
  else queryFrequencies npd k

def frequencies (npd : Platform) (k : Kernel) : Walk Unit := do
  let found ← findFrequencies npd k
  refuse (!found) (.goto .errInit0)
  modify (·.onTable setupRanges)
  refuse (!tableKnown (← get).freqScale) (.goto .errInit0)

def allocNetdev (k : Kernel) (i : IntCtx) (refused : Label) : Walk Unit := do
  if k.noNetdev i then
    modify fun s => { s with ndev := Function.update s.ndev i none }.setErr (-ENOMEM)
    throw (.goto refused)
  else
    modify fun s => { s with ndev := Function.update s.ndev i (some s.nextNdev),
                             nextNdev := s.nextNdev + 1 }.acquire (.netDevice s.nextNdev)

/-- `err` takes what the kernel answers. -/
def checked (answer : Option Errno) (refused : Label) : Walk Unit := do
  match answer with
  | some e =>
    modify (·.setErr e)
    throw (.goto refused)
  | none => modify (·.setErr 0)

/-- What is done with the net_device of an interrupt, which the kernel reads. -/
def withNdev (i : IntCtx) (f : ℕ → ProbeState → ProbeState) : Walk Unit := do
  match (← get).ndev i with
  | none => throw .oops
  | some n => modify (f n)

def registerNetdev (k : Kernel) (i : IntCtx) (refused : Label) : Walk Unit := do
  checked (k.registerNetdev i) refused
  withNdev i fun n => .acquire (.registration n)

/-- The line is not shared. -/
def irqAnswer (npd : Platform) (k : Kernel) (i : IntCtx) (held : ℕ → Bool) : Option Errno :=
  if held (npd.irq i) then some ⟨-EBUSY, by decide⟩ else k.requestIrq i

def requestIrq (npd : Platform) (k : Kernel) (i : IntCtx) (refused : Label) : Walk Unit := do
  checked (irqAnswer npd k i (← get).irqHeld) refused
  modify fun s => (s.setHeld (npd.irq i) true).acquire (.interrupt (npd.irq i))

/-- One interrupt of the core: its net_device, its line and its NAPI context. -/
def bringUp (npd : Platform) (k : Kernel) (i : IntCtx) (noDevice unregistered noInterrupt : Label) :
    Walk Unit := do
  allocNetdev k i noDevice
  registerNetdev k i unregistered
  requestIrq npd k i noInterrupt
  modify (·.acquire (.napi i))

def registered (hal : Hal) (npd : Platform) : List ℕ :=
  ((hal.features.filter npd.enabled).flatMap (Feature.interfaces hal)) ++
    (match hal with
      | .ipq806x _ _ freqScale => if freqScale then [NSS_COREFREQ_INTERFACE] else []
      | .fsm9010 => []) ++ [NSS_LSO_RX_INTERFACE]

def registerHandlers (hal : Hal) (npd : Platform) (k : Kernel) : Walk Unit :=
  (registered hal npd).forM fun interface => modify (·.registerHandler k interface)

def deassert (k : Kernel) (line : ResetLine) : Walk Unit := do
  if k.noReset line then
    modify (·.setErr (-EFAULT))
    throw (.goto .errInit5)

def resetLines : List ResetLine := [.clkrstClamp, .clamp, .ahb, .axi]

def commonClocks (hal : Hal) (k : Kernel) : Walk Unit := do
  let s ← get
  if hal.boots && hal.devicetree && !s.commonInitDone then commonInit k else pure ()

def corePlatform (hal : Hal) (npd : Platform) (k : Kernel) : Walk Unit :=
  if hal.devicetree then platformData hal npd k else coreInstance npd

/-- Only core 0 sets the clocks. -/
def bootClocks (npd : Platform) (k : Kernel) : Walk Unit :=
  if npd.id = 0 then do
    coreClock k
    frequencies npd k
  else pure ()

def bootCore (hal : Hal) (npd : Platform) (k : Kernel) : Walk Unit :=
  if hal.boots then do
    loadFirmware npd k
    bootClocks npd k
  else pure ()

def secondInterrupt (npd : Platform) (k : Kernel) : Walk Unit :=
  if npd.numIrq > 1 then bringUp npd k .second .errInit3 .errInit4 .errInit5 else pure ()

def leaveReset (hal : Hal) (k : Kernel) : Walk Unit :=
  if hal.boots && hal.devicetree then resetLines.forM (deassert k) else pure ()

/-- The probe up to the jump that ends it. -/
def probeBody (hal : Hal) (npd : Platform) (k : Kernel) : Walk Unit := do
  commonClocks hal k
  corePlatform hal npd k
  bootCore hal npd k
  bringUp npd k .first .errInit0 .errInit1 .errInit2
  secondInterrupt npd k
  registerHandlers hal npd k
  leaveReset hal k
  modify fun s => { s with numNss := s.numNss + 1 }

def freeNetdev (i : IntCtx) : Walk Unit := withNdev i fun n => .release (.netDevice n)
def unregisterNetdev (i : IntCtx) : Walk Unit := withNdev i fun n => .release (.registration n)

def freeIrq (line : ℕ) : Walk Unit :=
  modify fun s => (s.setHeld line false).release (.interrupt line)

def errInit0 : Walk Unit := pure ()

def errInit1 (hal : Hal) : Walk Unit := do
  freeNetdev .first
  if hal.devicetree then
    modify (·.release (.mapping .nmap))
    modify (·.release (.mapping .vmap))
  errInit0

def errInit2 (hal : Hal) : Walk Unit := do
  unregisterNetdev .first
  errInit1 hal

def errInit3 (hal : Hal) (npd : Platform) : Walk Unit := do
  freeIrq (npd.irq .first)
  errInit2 hal

def errInit4 (hal : Hal) (npd : Platform) : Walk Unit := do
  freeNetdev .second
  errInit3 hal npd

def errInit5 (hal : Hal) (npd : Platform) : Walk Unit := do
  unregisterNetdev .second
  errInit4 hal npd

def unwind (hal : Hal) (npd : Platform) : Label → Walk Unit
  | .errInit5 => errInit5 hal npd
  | .errInit4 => errInit4 hal npd
  | .errInit3 => errInit3 hal npd
  | .errInit2 => errInit2 hal
  | .errInit1 => errInit1 hal
  | .errInit0 => errInit0

/-- How the probe ends. A probe that is done has brought the core out of reset. -/
inductive Outcome where
  | done (err : ℤ)
  | failed (err : ℤ)
  | oops
  deriving DecidableEq

/-- The return after the label `errInit0`. -/
def returned : EStateM.Result Exit ProbeState Unit → Outcome × ProbeState
  | .ok _ t => (.failed t.err, t)
  | .error _ t => (.oops, t)

/-- What follows a jump. -/
def settle (hal : Hal) (npd : Platform) (e : Exit) (s : ProbeState) : Outcome × ProbeState :=
  match e with
  | .ret err => (.failed err, s)
  | .oops => (.oops, s)
  | .goto l => returned (unwind hal npd l s)

/-- A call starts with nothing and with `err` 0. -/
def ProbeState.enter (s : ProbeState) : ProbeState :=
  { s with err := 0, acquired := [], released := [] }

def nssHalProbe (hal : Hal) (npd : Platform) (k : Kernel) (s : ProbeState) : Outcome × ProbeState :=
  match probeBody hal npd k s.enter with
  | .ok _ t => (.done t.err, t)
  | .error e t => settle hal npd e t

end NssDrv.CoreProbe

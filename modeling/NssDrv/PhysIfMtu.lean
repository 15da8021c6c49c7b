import NssDrv.ThreadPool
import NssDrv.TransmitApi

set_option autoImplicit false

/-!
# The MTU of the physical interfaces

`nss_phys_if_register`, `nss_phys_if_unregister` and `nss_phys_if_change_mtu` of
`nss_phys_if.c` one after the other, beside the refills that the cores' interrupts
start at any time. A refill copies `max_buf_size` when it starts and fills with the
copy.
-/
namespace NssDrv.PhysIfMtu
open HlosInterface SharedThread ThreadPool TransmitApi

def NSS_GMAC_NORMAL_FRAME_MTU : U16 := 1500
def NSS_GMAC_MINI_JUMBO_FRAME_MTU : U16 := 1978
def NSS_GMAC_FULL_JUMBO_FRAME_MTU : U16 := 9600
def ETH_HLEN : U32 := 14
def NSS_NBUF_PAD_EXTRA : U32 := 256

/-- `NSS_MAX_CORES` and `NSS_MAX_PHYSICAL_INTERFACES`. -/
abbrev CoreId := Fin 2

abbrev PhysIf := Fin 4

/-- What a build of the driver and its kernel fix: `NSS_EMPTY_BUFFER_SIZE`, which the
    makefiles set, `SMP_CACHE_BYTES` and `NET_SKB_PAD`. -/
structure Build where
  payloadSize : U32
  smpCacheBytes : U32
  netSkbPad : U16
  payload : payloadSize = 1792 ∨ payloadSize = 1984
  cache : ∃ k ≤ 7, smpCacheBytes.toNat = 2 ^ k
  pad : netSkbPad.toNat ≤ 128

structure Core where
  physIfMtu : PhysIf → U16
  maxBufSize : U32

/-- A refill under way: its copy of `max_buf_size`, and whether the class of its core
    has gone up since. -/
structure Loaded where
  core : CoreId
  maxBufSize : U16
  outgrown : Bool

def Loaded.outgrow (k : CoreId) (raised : Bool) (l : Loaded) : Loaded :=
  { l with outgrown := l.outgrown || (decide (l.core = k) && raised) }

/-- A buffer that a refill fills in: its core at that time, the copy that the refill
    goes by, and the length that it maps. -/
structure Refill where
  core : Core
  maxBufSize : U16
  bufferLen : U16

/-- A call that has come through, and what became of the flush if it asked for one. -/
inductive Done where
  | registered (k : CoreId) (n : PhysIf)
  | unregistered (n : PhysIf)
  | changed (k : CoreId) (n : PhysIf) (mtu : U16) (flush : Option Bool)

/-- The fields of `nss_top` and the cores, and the refills under way. The rest are
    ghosts: the core whose MTU and buffer size are being stored; what became of the
    flush of the last change; the buffers filled in and the calls so far. -/
structure PhysIfTop where
  core : CoreId → Core
  prevMtuSz : U16
  cryptoEnabled : Bool
  loaded : List Loaded
  settling : Option CoreId
  flush : Option Bool
  refills : List Refill
  done : List Done

/-- `nss_phys_if_get_mtu_sz`. -/
def nssPhysIfGetMtuSz (c : Core) : U16 :=
  let maxMtu := [1, 2, 3].foldl
    (fun maxMtu i => if maxMtu < c.physIfMtu i then c.physIfMtu i else maxMtu) (c.physIfMtu 0)
  if maxMtu ≤ NSS_GMAC_NORMAL_FRAME_MTU then NSS_GMAC_NORMAL_FRAME_MTU
  else if maxMtu ≤ NSS_GMAC_MINI_JUMBO_FRAME_MTU then NSS_GMAC_MINI_JUMBO_FRAME_MTU
  else if maxMtu ≤ NSS_GMAC_FULL_JUMBO_FRAME_MTU then NSS_GMAC_FULL_JUMBO_FRAME_MTU
  else NSS_GMAC_NORMAL_FRAME_MTU

namespace PhysIfTop

def onCore (k : CoreId) (f : Core → Core) (d : PhysIfTop) : PhysIfTop :=
  { d with core := Function.update d.core k (f (d.core k)) }

def setMtu (k : CoreId) (n : PhysIf) (mtu : U16) : PhysIfTop → PhysIfTop :=
  onCore k fun c => { c with physIfMtu := Function.update c.physIfMtu n mtu }

def setMaxBufSize (k : CoreId) (size : U32) : PhysIfTop → PhysIfTop :=
  onCore k fun c => { c with maxBufSize := size }

def begin (k : CoreId) (d : PhysIfTop) : PhysIfTop := { d with settling := some k, flush := none }

def settle (d : PhysIfTop) : PhysIfTop := { d with settling := none }

def log (x : Done) (d : PhysIfTop) : PhysIfTop := { d with done := d.done ++ [x] }

/-- The store that begins a change. -/
def change (k : CoreId) (n : PhysIf) (mtu : U16) (d : PhysIfTop) : PhysIfTop :=
  let d' := (d.begin k).setMtu k n mtu
  let raised := decide (nssPhysIfGetMtuSz (d.core k) < nssPhysIfGetMtuSz (d'.core k))
  { d' with loaded := d.loaded.map (Loaded.outgrow k raised) }

/-- Stores `prev_mtu_sz`, which ends the change. -/
def record (k : CoreId) (n : PhysIf) (mtu mtuSz : U16) (d : PhysIfTop) : PhysIfTop :=
  { d with prevMtuSz := mtuSz, done := d.done ++ [.changed k n mtu d.flush] }

end PhysIfTop

section Calls
variable (b : Build) (handlerId : PhysIf → CoreId)

def nssPhysIfRegister (n : PhysIf) : Proc PhysIfTop TxStatus := do
  Proc.modify fun d =>
    (d.setMtu (handlerId n) n NSS_GMAC_NORMAL_FRAME_MTU).log (.registered (handlerId n) n)
  return .success

def nssPhysIfUnregister (n : PhysIf) : Proc PhysIfTop TxStatus := do
  Proc.modify (PhysIfTop.setMtu 0 n 0)
  Proc.modify fun d => (d.setMtu 1 n 0).log (.unregistered n)
  return .success

def alignedBufSize (mtuSz : U16) : U32 :=
  ((mtuSz.setWidth 32 + ETH_HLEN + b.smpCacheBytes - 1) &&& ~~~(b.smpCacheBytes - 1)) +
    NSS_NBUF_PAD_EXTRA

/-- Sends the message that makes the NSS give up its empty buffers. -/
def nssN2hFlushPayloads (sent : Bool) : Proc PhysIfTop Unit :=
  Proc.modify fun d => { d with flush := some sent }

/-- From the ACK on. -/
def applyMtu (k : CoreId) (mtu : U32) (n : PhysIf) (flushed : Bool) : Proc PhysIfTop TxStatus := do
  Proc.modify (PhysIfTop.change k n (mtu.setWidth 16))
  let mtuSz ← Proc.read fun d => nssPhysIfGetMtuSz (d.core k)
  Proc.modify (PhysIfTop.setMaxBufSize k (alignedBufSize b mtuSz))
  let maxBufSize ← Proc.read fun d => (d.core k).maxBufSize
  if maxBufSize < b.payloadSize then
    Proc.modify fun d => (d.setMaxBufSize k b.payloadSize).settle
  else
    Proc.modify PhysIfTop.settle
  let prevMtuSz ← Proc.read PhysIfTop.prevMtuSz
  let cryptoEnabled ← Proc.read PhysIfTop.cryptoEnabled
  if mtuSz > prevMtuSz && cryptoEnabled then
    nssN2hFlushPayloads flushed
  Proc.modify (PhysIfTop.record k n (mtu.setWidth 16) mtuSz)
  return .success

/-- `acked` and `flushed` say whether the message of the change is acknowledged in time,
    and whether that of the flush can be sent. -/
def nssPhysIfChangeMtu (k : CoreId) (mtu : U32) (n : PhysIf) (acked flushed : Bool) :
    Proc PhysIfTop TxStatus :=
  if mtu > NSS_GMAC_FULL_JUMBO_FRAME_MTU.setWidth 32 then return .refused .failure
  else if acked then applyMtu b k mtu n flushed
  else return .refused .failure

/-- The calls of the configuration, one after the other. -/
inductive PhysIfCall : Unit → Proc PhysIfTop TxStatus → Prop where
  | register (n : PhysIf) : PhysIfCall () (nssPhysIfRegister handlerId n)
  | unregister (n : PhysIf) : PhysIfCall () (nssPhysIfUnregister n)
  | changeMtu (k : CoreId) (mtu : U32) (n : PhysIf) (acked flushed : Bool) :
      PhysIfCall () (nssPhysIfChangeMtu b k mtu n acked flushed)

/-- A refill starts, with its copy of `max_buf_size`. -/
def load (k : CoreId) (d : PhysIfTop) : PhysIfTop :=
  { d with loaded := d.loaded ++ [⟨k, (d.core k).maxBufSize.setWidth 16, false⟩] }

/-- A refill under way fills in a buffer. -/
def fill (l : Loaded) (d : PhysIfTop) : PhysIfTop :=
  { d with refills := d.refills ++ [⟨d.core l.core, l.maxBufSize, l.maxBufSize + b.netSkbPad⟩] }

inductive Refills (d : PhysIfTop) : PhysIfTop → Prop where
  | load (k : CoreId) : Refills d (load k d)
  | fill (l : Loaded) (hl : l ∈ d.loaded) : Refills d (fill b l d)

/-- No refill starts or fills between two stores of a change of its core, and none goes
    on filling when the class of its core has gone up. -/
inductive QuietRefills (d : PhysIfTop) : PhysIfTop → Prop where
  | load (k : CoreId) (hquiet : d.settling ≠ some k) : QuietRefills d (load k d)
  | fill (l : Loaded) (hl : l ∈ d.loaded) (hquiet : d.settling ≠ some l.core)
      (hkept : l.outgrown = false) : QuietRefills d (fill b l d)

/-- Both cores are up, and nothing is registered. -/
structure Booted (d : PhysIfTop) : Prop where
  mtu : ∀ k n, (d.core k).physIfMtu n = 0
  maxBufSize : ∀ k, (d.core k).maxBufSize = b.payloadSize
  prevMtuSz : d.prevMtuSz = NSS_GMAC_NORMAL_FRAME_MTU
  settling : d.settling = none
  loaded : d.loaded = []
  refills : d.refills = []
  done : d.done = []

end Calls

def firstCore : CoreId := 0

def firstPort : PhysIf := 0

def boardBuild : Build where
  payloadSize := 1792
  smpCacheBytes := 64
  netSkbPad := 64
  payload := .inl rfl
  cache := ⟨6, by decide, rfl⟩
  pad := by decide

def bootedTop : PhysIfTop where
  core _ := ⟨fun _ => 0, 1792⟩
  prevMtuSz := NSS_GMAC_NORMAL_FRAME_MTU
  cryptoEnabled := true
  loaded := []
  settling := none
  flush := none
  refills := []
  done := []

def bootedPool : Pool Unit PhysIfTop TxStatus := ⟨bootedTop, fun _ => .ret .success⟩

end NssDrv.PhysIfMtu

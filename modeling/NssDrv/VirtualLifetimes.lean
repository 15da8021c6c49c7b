import Mathlib.Logic.Function.Basic
import NssDrv.RunHistories
import NssDrv.VirtualInterfaces

set_option autoImplicit false

/-!
# Lifetimes of virtual interface handles

The calls that create and destroy the handles of the three families, step by
step, beside the message handlers and the readers of statistics, which find a
handle under the lock of its table and use it after they have dropped the lock.
A handle is one allocation. It has one caller at a time, but where an
asynchronous create fails after its acknowledgement: the user's callback gets
the handle with that acknowledgement while the driver destroys it.
-/
namespace NssDrv.VirtualLifetimes
open RunHistories TransitionRuns
open VirtualInterfaces (VirtFamily)

inductive Memory where
  | none
  | allocated
  | freed
  deriving DecidableEq

/-- A handle and the block that its `pvt` points to. -/
inductive Part where
  | handle
  | pvt
  deriving DecidableEq

/-- Where the call stands that has the handle. `byOwner` tells the caller's destroy from that
    of a create that has failed, `sync` the blocking destroy from the callback. -/
inductive Stage where
  | unborn
  | allocated
  | built
  | published
  | registered
  | waiting
  | created
  | owned
  | destroying (byOwner : Bool)
  | cleared (byOwner : Bool)
  | deallocated (sync : Bool)
  | unlisted (sync : Bool)
  | hollow
  | freed
  | lost
  | drafted
  | requested
  | accepted
  | handled
  | told
  | dismissing (byOwner : Bool)
  | dismissed (byOwner : Bool)
  | absent
  | answering
  deriving DecidableEq

/-- What a call does to its handle. The numbers are those that the dynamic interface has
    given; the names that begin with `cb` are of `nss_virt_if_handle_create_cb`, and `grant`
    is its call of the user's callback where it has failed. -/
inductive Act where
  | kzalloc (ifNum : ℕ)
  | kzallocPvt (given : Bool)
  | publish
  | registerHandler (ok : Bool)
  | txMsg (ok : Bool)
  | wake (ok : Bool)
  | timeout
  | attach
  | use
  | setNdev (present : Bool)
  | destroy (async proceeds : Bool)
  | deallocNode (ok : Bool)
  | clear
  | kfreePvt
  | kfree
  | kzallocAsync
  | txAlloc (ok : Bool)
  | createCb (ifNum : Option ℕ)
  | cbRegister (ok : Bool)
  | cbTxMsg (ok : Bool)
  | cbAttach
  | txDealloc (byOwner ok : Bool)
  | destroyCb (ack : Bool)
  | grant
  deriving DecidableEq

def Stage.kept (byOwner : Bool) : Stage := if byOwner then .owned else .lost

/-- The walk of the calls along a handle of the family. -/
inductive Moves (f : VirtFamily) : Stage → Act → Stage → Prop where
  -- `nss_virt_if_handle_create_sync` and its likes
  | kzalloc (n : ℕ) : Moves f .unborn (.kzalloc n) .allocated
  | kzallocPvt : Moves f .allocated (.kzallocPvt true) .built
  | noPvt : Moves f .allocated (.kzallocPvt false) .freed
  | publish : Moves f .built .publish .published
  -- the rest of `nss_virt_if_create_sync` and its likes
  | registered : Moves f .published (.registerHandler true) .registered
  | unregistered : Moves f .published (.registerHandler false) (.destroying false)
  | sent : Moves f .registered (.txMsg true) .waiting
  | unsent : Moves f .registered (.txMsg false) (.destroying false)
  | acked : Moves f .waiting (.wake true) .created
  | nacked : Moves f .waiting (.wake false) (.destroying false)
  | timeout : Moves f .waiting .timeout (.destroying false)
  | attach : Moves f .created .attach .owned
  -- the caller
  | use : Moves f .owned .use .owned
  | setNdev (present : Bool) : Moves f .owned (.setNdev present) .owned
  | refused (async : Bool) : Moves f .owned (.destroy async false) .owned
  | destroy : Moves f .owned (.destroy false true) (.destroying true)
  | destroyAsync (hf : f = .virtIf) : Moves f .owned (.destroy true true) (.dismissing true)
  -- `nss_virt_if_handle_destroy_sync`, `nss_tx_rx_virt_if_handle_destroy`
  | deallocated (b : Bool) (hf : f ≠ .wifiIf) :
      Moves f (.destroying b) (.deallocNode true) (.deallocated true)
  | undealloc (b : Bool) (hf : f ≠ .wifiIf) :
      Moves f (.destroying b) (.deallocNode false) (.kept b)
  | clear (sync : Bool) : Moves f (.deallocated sync) .clear (.unlisted sync)
  -- `nss_wifi_if_handle_destroy`
  | clearFirst (b : Bool) (hf : f = .wifiIf) : Moves f (.destroying b) .clear (.cleared b)
  | deallocatedLast (b : Bool) : Moves f (.cleared b) (.deallocNode true) (.unlisted true)
  | undeallocLast (b : Bool) : Moves f (.cleared b) (.deallocNode false) (.kept b)
  | kfreePvt : Moves f (.unlisted true) .kfreePvt .hollow
  | kfree : Moves f .hollow .kfree .freed
  -- `nss_virt_if_create`
  | kzallocAsync (hf : f = .virtIf) : Moves f .unborn .kzallocAsync .drafted
  | requested : Moves f .drafted (.txAlloc true) .requested
  | unrequested : Moves f .drafted (.txAlloc false) .freed
  -- `nss_virt_if_handle_create_cb`
  | refusedCb : Moves f .requested (.createCb none) .freed
  | accepted (n : ℕ) : Moves f .requested (.createCb (some n)) .accepted
  | cbRegistered : Moves f .accepted (.cbRegister true) .handled
  | cbUnregistered : Moves f .accepted (.cbRegister false) (.dismissing false)
  | cbSent : Moves f .handled (.cbTxMsg true) .told
  | cbUnsent : Moves f .handled (.cbTxMsg false) (.dismissing false)
  | cbAttach : Moves f .told .cbAttach .owned
  -- `nss_virt_if_handle_destroy` and its callback
  | dismissed (b : Bool) : Moves f (.dismissing b) (.txDealloc b true) (.dismissed b)
  | undismissed (b : Bool) : Moves f (.dismissing b) (.txDealloc b false) (.kept b)
  | gone (b : Bool) : Moves f (.dismissed b) (.destroyCb true) (.deallocated false)
  | stays (b : Bool) : Moves f (.dismissed b) (.destroyCb false) (.kept b)
  | kfreeAsync : Moves f (.unlisted false) .kfree .freed
  -- the user who is told of a create that has failed
  | granted : Moves f .answering .grant .owned

namespace Act

/-- What of the handle is read or written; the index is at hand when the table is cleared, but
    for `nss_wifi_if_handle_destroy`, which starts with that. -/
def touches (f : VirtFamily) : Act → List Part
  | .kzallocPvt _ => [.handle]
  | .publish => [.handle]
  | .registerHandler ok => if ok then [.handle, .pvt] else [.handle]
  | .txMsg _ => [.handle, .pvt]
  | .wake _ => [.pvt]
  | .timeout => [.pvt]
  | .attach => [.handle]
  | .use => [.handle]
  | .setNdev _ => [.handle]
  | .destroy _ _ => [.handle]
  | .deallocNode _ => if f = .wifiIf then [] else [.handle]
  | .clear => if f = .wifiIf then [.handle] else []
  | .kfreePvt => [.handle]
  | .txAlloc _ => [.handle]
  | .createCb _ => [.handle]
  | .cbRegister _ => [.handle]
  | .cbTxMsg _ => [.handle]
  | .cbAttach => [.handle]
  | .txDealloc _ _ => [.handle]
  | .destroyCb _ => [.handle]
  | _ => []

def frees : Act → Option Part
  | .kzallocPvt false => some .handle
  | .txAlloc false => some .handle
  | .createCb none => some .handle
  | .kfreePvt => some .pvt
  | .kfree => some .handle
  | _ => none

def allocates : Act → Option Part
  | .kzalloc _ => some .handle
  | .kzallocAsync => some .handle
  | .kzallocPvt true => some .pvt
  | _ => none

/-- `kfree` of a null pointer does nothing. -/
def memory (a : Act) (p : Part) (m : Memory) : Memory :=
  if a.allocates = some p then .allocated
  else if a.frees = some p ∧ m ≠ .none then .freed
  else m

/-- `handle->if_num`. -/
def ifNum (old : ℕ) : Act → ℕ
  | .kzalloc n => n
  | .createCb (some n) => n
  | _ => old

def slot (x : ℕ) (old : Option ℕ) : Act → Option ℕ
  | .publish => some x
  | .createCb (some _) => some x
  | .clear => none
  | _ => old

def ndev (old : Bool) : Act → Bool
  | .attach => true
  | .cbAttach => true
  | .setNdev present => present
  | .destroy _ true => false
  | _ => old

def inFlight (old : Bool) : Act → Bool
  | .txMsg true => true
  | _ => old

/-- The last of a create that has failed, before the user's callback is called. -/
def tells : Act → Bool
  | .txDealloc false _ => true
  | _ => false

end Act

/-- The messages that the handlers of the families tell apart: the response to the create
    message has the handle as its `app_data`. -/
inductive Message where
  | stats (notify : Bool)
  | created (x : ℕ) (ok : Bool)
  | other (notify : Bool)
  deriving DecidableEq

def Message.notify : Message → Bool
  | .stats notify => notify
  | .created _ _ => false
  | .other notify => notify

/-- Where a message handler or a reader stands, with what it found in the table: `handling` and
    `tended` around the statistics, then in `nss_virt_if_callback` and its likes. -/
inductive Position where
  | idle
  | handling (m : Message) (n y : ℕ)
  | tended (m : Message) (n y : ℕ)
  | answering (x : ℕ) (ok : Bool) (n y : ℕ)
  | checking (x : ℕ) (ok : Bool) (n y : ℕ)
  | completing (x : ℕ) (ok : Bool) (y : ℕ)
  | copying (y : ℕ)
  deriving DecidableEq

namespace Position

def found : Position → Option ℕ
  | .idle => none
  | .handling _ _ y => some y
  | .tended _ _ y => some y
  | .answering _ _ _ y => some y
  | .checking _ _ _ y => some y
  | .completing _ _ y => some y
  | .copying y => some y

def carries : Position → Option ℕ
  | .handling (.created x _) _ _ => some x
  | .tended (.created x _) _ _ => some x
  | .answering x _ _ _ => some x
  | .checking x _ _ _ => some x
  | .completing x _ _ => some x
  | _ => none

def handle (m : Message) (n : ℕ) : Option ℕ → Position
  | none => .idle
  | some y => .handling m n y

def copy : Option ℕ → Position
  | none => .idle
  | some y => .copying y

def dispatch (m : Message) (n y : ℕ) : Position :=
  match m with
  | .created x ok => .answering x ok n y
  | _ => .idle

/-- `nss_tx_rx_virt_if_callback` looks at the table once more. -/
def callback (f : VirtFamily) (x : ℕ) (ok : Bool) (n y : ℕ) : Position :=
  if f = .txRxVirtIf then .checking x ok n y else .completing x ok y

def recheck (x : ℕ) (ok : Bool) (y : ℕ) : Option ℕ → Position
  | none => .idle
  | some _ => .completing x ok y

end Position

/-- `guest` is where the user stands that is told of a create that has failed. -/
structure State where
  stage : ℕ → Stage
  guest : ℕ → Stage
  ifNum : ℕ → ℕ
  memory : ℕ → Part → Memory
  table : VirtFamily → ℕ → Option ℕ
  ndev : ℕ → Bool
  inFlight : ℕ → Bool
  answer : ℕ → Option Bool
  pool : ℕ → Position

inductive Label where
  | act (x : ℕ) (a : Act)
  | guest (x : ℕ) (a : Act)
  | lookup (i : ℕ) (f : VirtFamily) (n : ℕ) (m : Message) (found : Option ℕ)
  | tend (i : ℕ)
  | dispatch (i : ℕ)
  | callback (i : ℕ)
  | recheck (i : ℕ)
  | complete (i : ℕ)
  | look (i : ℕ) (f : VirtFamily) (n : ℕ) (found : Option ℕ)
  | copy (i : ℕ)
  deriving DecidableEq

section System
variable (family : ℕ → VirtFamily)

namespace State
variable (s : State)

/-- What the call is told: the completion and the device that is entered. -/
def permits (x : ℕ) : Act → Prop
  | .wake ok => s.answer x = some ok
  | .timeout => s.answer x = none
  | .destroy _ true => s.ndev (s.ifNum x) = true
  | _ => True

def setSlot (f : VirtFamily) (n : ℕ) (v : Option ℕ) : VirtFamily → ℕ → Option ℕ :=
  Function.update s.table f (Function.update (s.table f) n v)

def effect (x : ℕ) (a : Act) : State :=
  let n := a.ifNum (s.ifNum x)
  { s with
    ifNum := Function.update s.ifNum x n
    memory := Function.update s.memory x fun p => a.memory p (s.memory x p)
    table := s.setSlot (family x) n (a.slot x (s.table (family x) n))
    ndev := Function.update s.ndev n (a.ndev (s.ndev n))
    inFlight := Function.update s.inFlight x (a.inFlight (s.inFlight x)) }

/-- The state after an act of the call that has `x`. -/
def after (x : ℕ) (a : Act) (st : Stage) : State :=
  { s.effect family x a with
    stage := Function.update s.stage x st
    guest := if a.tells then Function.update s.guest x .answering else s.guest }

/-- The state after an act of the user that was told of `x`. -/
def afterGuest (x : ℕ) (a : Act) (st : Stage) : State :=
  { s.effect family x a with guest := Function.update s.guest x st }

def place (i : ℕ) (p : Position) : State := { s with pool := Function.update s.pool i p }

/-- A response to a create message is one that is to come, and comes once, to the number and
    the handler of its family: the table of handlers is not modelled. -/
def comes (f : VirtFamily) (n : ℕ) : Message → Prop
  | .created x _ => s.inFlight x = true ∧ family x = f ∧ s.ifNum x = n
  | _ => True

def took : Message → State
  | .created x _ => { s with inFlight := Function.update s.inFlight x false }
  | _ => s

def answered (x : ℕ) (ok : Bool) : State :=
  { s with answer := Function.update s.answer x (some ok) }

/-- The response to the create message of `x` is on its way or being handled. -/
def owing (x : ℕ) : Prop := s.inFlight x = true ∨ ∃ i, (s.pool i).carries = some x

end State

inductive Step : State → Label → State → Prop where
  | act (s : State) (x : ℕ) (a : Act) (st : Stage) (hmove : Moves (family x) (s.stage x) a st)
      (hpermits : s.permits x a) : Step s (.act x a) (s.after family x a st)
  | guest (s : State) (x : ℕ) (a : Act) (st : Stage) (hmove : Moves (family x) (s.guest x) a st)
      (hpermits : s.permits x a) : Step s (.guest x a) (s.afterGuest family x a st)
  | lookup (s : State) (i : ℕ) (f : VirtFamily) (n : ℕ) (m : Message) (hidle : s.pool i = .idle)
      (hcomes : s.comes family f n m) :
      Step s (.lookup i f n m (s.table f n))
        ((s.took m).place i (.handle m n (s.table f n)))
  | tend (s : State) (i : ℕ) (m : Message) (n y : ℕ) (hpos : s.pool i = .handling m n y) :
      Step s (.tend i) (s.place i (.tended m n y))
  | dispatch (s : State) (i : ℕ) (m : Message) (n y : ℕ) (hpos : s.pool i = .tended m n y) :
      Step s (.dispatch i) (s.place i (.dispatch m n y))
  | callback (s : State) (i x : ℕ) (ok : Bool) (n y : ℕ) (hpos : s.pool i = .answering x ok n y) :
      Step s (.callback i) (s.place i (.callback (family x) x ok n y))
  | recheck (s : State) (i x : ℕ) (ok : Bool) (n y : ℕ) (hpos : s.pool i = .checking x ok n y) :
      Step s (.recheck i) (s.place i (.recheck x ok y (s.table .txRxVirtIf n)))
  | complete (s : State) (i x : ℕ) (ok : Bool) (y : ℕ) (hpos : s.pool i = .completing x ok y) :
      Step s (.complete i) ((s.answered x ok).place i .idle)
  | look (s : State) (i : ℕ) (f : VirtFamily) (n : ℕ) (hidle : s.pool i = .idle) :
      Step s (.look i f n (s.table f n)) (s.place i (.copy (s.table f n)))
  | copy (s : State) (i y : ℕ) (hpos : s.pool i = .copying y) :
      Step s (.copy i) (s.place i .idle)

/-- What a step reads or writes of the handles. The statistics are added to what was found, and
    `nss_wifi_if_msg_handler` takes the callback of a notification from it; the callbacks
    use the `app_data` of the message. -/
def State.touches (s : State) (x : ℕ) (p : Part) : Label → Prop
  | .act y a => y = x ∧ p ∈ a.touches (family x)
  | .guest y a => y = x ∧ p ∈ a.touches (family x)
  | .tend i => p = .handle ∧ ∃ notify n, s.pool i = .handling (.stats notify) n x
  | .dispatch i =>
    p = .handle ∧ family x = .wifiIf ∧ ∃ m n, s.pool i = .tended m n x ∧ m.notify = true
  | .callback i => p = .handle ∧ ∃ ok n y, s.pool i = .answering x ok n y
  | .recheck i => p = .handle ∧ ∃ ok n y, s.pool i = .checking x ok n y
  | .complete i => p = .pvt ∧ ∃ ok y, s.pool i = .completing x ok y
  | .copy i => p = .handle ∧ s.pool i = .copying x
  | _ => False

end System

def Label.frees (x : ℕ) (p : Part) : Label → Prop
  | .act y a => y = x ∧ a.frees = some p
  | .guest y a => y = x ∧ a.frees = some p
  | _ => False

/-- The handler or reader `i` has found `x` in its table. -/
def Label.finds (i x : ℕ) : Label → Prop
  | .lookup j _ _ _ found => j = i ∧ found = some x
  | .look j _ _ found => j = i ∧ found = some x
  | _ => False

end NssDrv.VirtualLifetimes

import Mathlib.Algebra.Order.Ring.Int
import NssDrv.LogBuffer
import NssDrv.TransitionRuns

set_option autoImplicit false

/-!
# References to log buffers

Any number of files and of allocation calls, over all cores. Which buffer
belongs to which call is read off the events of the call.
-/
namespace NssDrv.LogReferences
open HlosInterface CallTree CommonMessage LogBuffer TransitionRuns

/-- Memory at an address, or its mapping for the device. -/
inductive Resource where
  | memory (addr : ℕ)
  | mapping (dmaAddr : ℕ)
  deriving DecidableEq

/-- What all calls share: `nss_rbe`, the answer of the firmware, the open files,
    and what of the memory and of the mappings exists. -/
structure Shared where
  rbe : ℕ → RingBufferAddr
  live : Resource → Bool
  files : List LogData
  msgEvent : Bool
  msgResponse : NssCmnResponse

namespace Shared

def setRbe (s : Shared) (nssId : ℕ) (b : RingBufferAddr) : Shared :=
  { s with rbe := Function.update s.rbe nssId b }

def setLive (s : Shared) (r : Resource) (b : Bool) : Shared :=
  { s with live := Function.update s.live r b }

/-- What an event of an allocation call requires and does. -/
def Step (s : Shared) : LogEvent → Shared → Prop
  | .did (.kfree addr), t => t = s.setLive (.memory addr) false
  | .did (.dmaUnmapSingle dmaAddr _), t => t = s.setLive (.mapping dmaAddr) false
  | .did .wakeUp, t => t = s
  | .did .clearMsgEvent, t => t = { s with msgEvent := false }
  | .did (.restore nssId old), t => t = s.setRbe nssId old
  | .did (.reset nssId), t => t = s.setRbe nssId ⟨0, 0, 0, 0⟩
  | .did (.done nssId), t =>
    t = s.setRbe nssId { s.rbe nssId with refcnt := (s.rbe nssId).refcnt - 1 }
  | .saw (.coreInitialized _) _, t => t = s
  | .saw (.kmalloc _) addr, t =>
    if (addr : ℕ) = 0 then t = s
    else s.live (.memory addr) = false ∧ t = s.setLive (.memory addr) true
  | .saw (.dmaMapSingle _ _) mapped, t =>
    match (mapped : Option ℕ) with
    | none => t = s
    | some dmaAddr =>
      s.live (.mapping dmaAddr) = false ∧ t = s.setLive (.mapping dmaAddr) true
  | .saw (.attach nssId new) empty, t =>
    empty = (attach new (s.rbe nssId)).1 ∧ t = s.setRbe nssId (attach new (s.rbe nssId)).2
  | .saw (.waitForRefcnt nssId) woken, t => woken = decide ((s.rbe nssId).refcnt = 0) ∧ t = s
  | .saw (.reattach nssId new) old, t =>
    old = (reattach new (s.rbe nssId)).1 ∧ t = s.setRbe nssId (reattach new (s.rbe nssId)).2
  | .saw (.debugInterfaceTx _ _) _, t => t = s
  | .saw .waitForEvent event, t => event = s.msgEvent ∧ t = s
  | .saw .msgResponse response, t => response = s.msgResponse ∧ t = s

end Shared

/-- `calls` holds what is left of each allocation call. -/
structure LogState (ι : Type) where
  shared : Shared
  calls : ι → LogCall Bool

inductive Label (ι : Type) where
  | call (i : ι) (nssId : ℕ) (nentry : U32)
  | alloc (i : ι) (e : LogEvent)
  | openFile (nssId : ℤ) (kzalloc : Bool)
  | read (data : LogData) (lastEntry : U32)
  | release (data : LogData)
  | event (response : NssCmnResponse)

variable {ι : Type}

def Shared.openFile (s : Shared) (nssId : ℤ) (kzalloc : Bool) : Shared :=
  match nssLogOpen nssId kzalloc s.rbe with
  | .ok (data, rbe) => { s with rbe := rbe, files := data :: s.files }
  | .error _ => s

inductive Step [DecidableEq ι] : LogState ι → Label ι → LogState ι → Prop where
  | call (s : LogState ι) (i : ι) (nssId : ℕ) (nentry : U32) (b : Bool)
      (hidle : s.calls i = .ret b) :
      Step s (.call i nssId nentry)
        { s with calls := Function.update s.calls i (nssDebugLogBufferAlloc nssId nentry) }
  | alloc (s : LogState ι) (i : ι) (e : LogEvent) (p : LogCall Bool) (t : Shared)
      (hnext : Next (s.calls i) e p) (hshared : s.shared.Step e t) :
      Step s (.alloc i e) { shared := t, calls := Function.update s.calls i p }
  | openFile (s : LogState ι) (nssId : ℤ) (kzalloc : Bool) :
      Step s (.openFile nssId kzalloc) { s with shared := s.shared.openFile nssId kzalloc }
  /-- A read moves its file along and reads `load_mem`. -/
  | read (s : LogState ι) (data : LogData) (lastEntry : U32) (front back : List LogData)
      (hfiles : s.shared.files = front ++ data :: back) :
      Step s (.read data lastEntry)
        { s with
          shared := { s.shared with
            files := front ++ { data with lastEntry := lastEntry } :: back } }
  | release (s : LogState ι) (data : LogData) (front back : List LogData)
      (hfiles : s.shared.files = front ++ data :: back) :
      Step s (.release data)
        { s with
          shared := { s.shared with
            rbe := nssLogRelease data s.shared.rbe
            files := front ++ back } }
  /-- `nss_debug_interface_event`, for whatever the firmware sends. -/
  | event (s : LogState ι) (response : NssCmnResponse) :
      Step s (.event response)
        { s with shared := { s.shared with msgEvent := true, msgResponse := response } }

/-- `nss_log_init`, and no call yet. -/
structure Start (s : LogState ι) : Prop where
  rbe : ∀ c, s.shared.rbe c = ⟨0, 0, 0, 0⟩
  live : ∀ r, s.shared.live r = false
  files : s.shared.files = []
  calls : ∀ i, ∃ b, s.calls i = .ret b

def openFiles (s : Shared) (nssId : ℕ) : ℕ := s.files.countP (fun data => data.nssId == nssId)

/-- The counts cover the open files, and what these read is there. -/
structure Sound (s : Shared) : Prop where
  counted : ∀ c, (openFiles s c : ℤ) ≤ (s.rbe c).refcnt
  live : ∀ data ∈ s.files,
    s.live (.memory data.loadMem) = true ∧ s.live (.mapping data.dmaAddr) = true

/-- The event puts the entry of a core back after a failure. -/
def restores : LogEvent → Option ℕ
  | .did (.restore nssId _) => some nssId
  | .did (.reset nssId) => some nssId
  | _ => none

/-- An entry is put back only while the call itself is its one reference. -/
def Alone (s : LogState ι) (l : Label ι) : Prop :=
  ∀ i e c, l = .alloc i e → restores e = some c → (s.shared.rbe c).refcnt = 1

/-- What an allocation call has in its hands. -/
inductive Stage where
  | nothing
  | memory (addr : ℕ)
  | buffer (addr dmaAddr : ℕ)
  | published (nssId addr dmaAddr : ℕ) (old : Option RingBufferAddr)
  | freeing (nssId addr dmaAddr oldAddr : ℕ)
  | wrong

namespace Stage

/-- What an event makes of it; what a call may not do there is `wrong`. -/
def step : Stage → LogEvent → Stage
  | .nothing, .saw (.kmalloc _) addr => if (addr : ℕ) = 0 then .nothing else .memory addr
  | .memory addr, .saw (.dmaMapSingle addr' _) mapped =>
    if addr' = addr then
      match (mapped : Option ℕ) with
      | none => .memory addr
      | some dmaAddr => .buffer addr dmaAddr
    else .wrong
  | .memory addr, .did (.kfree addr') => if addr' = addr then .nothing else .wrong
  | .buffer addr dmaAddr, .did (.dmaUnmapSingle dmaAddr' _) =>
    if dmaAddr' = dmaAddr then .memory addr else .wrong
  | .buffer addr dmaAddr, .saw (.attach nssId new) empty =>
    if new.addr = addr ∧ new.dmaAddr = dmaAddr then
      if (empty : Bool) then .published nssId addr dmaAddr none else .buffer addr dmaAddr
    else .wrong
  | .buffer addr dmaAddr, .saw (.reattach nssId new) old =>
    if new.addr = addr ∧ new.dmaAddr = dmaAddr then
      match (old : Option RingBufferAddr) with
      | none => .buffer addr dmaAddr
      | some old => .published nssId addr dmaAddr (some old)
    else .wrong
  | .published nssId addr dmaAddr (some old), .did (.dmaUnmapSingle dmaAddr' _) =>
    if dmaAddr' = old.dmaAddr then .freeing nssId addr dmaAddr old.addr else .wrong
  | .freeing nssId addr dmaAddr oldAddr, .did (.kfree addr') =>
    if addr' = oldAddr then .published nssId addr dmaAddr none else .wrong
  | .published nssId addr dmaAddr (some old), .did (.restore nssId' old') =>
    if nssId' = nssId ∧ old' = old then .buffer addr dmaAddr else .wrong
  | .published nssId addr dmaAddr none, .did (.reset nssId') =>
    if nssId' = nssId then .buffer addr dmaAddr else .wrong
  | .published nssId _ _ none, .did (.done nssId') => if nssId' = nssId then .nothing else .wrong
  | _, .did (.kfree _) => .wrong
  | _, .did (.dmaUnmapSingle _ _) => .wrong
  | _, .did (.restore _ _) => .wrong
  | _, .did (.reset _) => .wrong
  | _, .did (.done _) => .wrong
  | _, .saw (.kmalloc _) _ => .wrong
  | _, .saw (.dmaMapSingle _ _) _ => .wrong
  | _, .saw (.attach _ _) _ => .wrong
  | _, .saw (.reattach _ _) _ => .wrong
  | stage, _ => stage
end Stage

/-- A call that stays within its stages and returns with nothing. -/
abbrev Staged : LogCall Bool → Stage → Prop :=
  Always Stage.step (fun stage => stage ≠ .wrong) (fun _ stage => stage = .nothing)

theorem fail2_staged (addr : ℕ) : Staged (fail2 addr) (.memory addr) :=
  .tell nofun (.of_eq (if_pos rfl) (.tell nofun (.ret nofun rfl)))

theorem fail1_staged {addr : ℕ} (dmaAddr : ℕ) (size : U32) (haddr : addr ≠ 0) :
    Staged (fail1 addr dmaAddr size) (.buffer addr dmaAddr) := by
  unfold fail1
  rw [if_pos haddr]
  exact .tell nofun (.of_eq (if_pos rfl) (fail2_staged addr))

theorem logBufInit_staged (nssId addr dmaAddr : ℕ) (new : RingBufferAddr)
    (old : Option RingBufferAddr) :
    Always Stage.step (fun stage => stage ≠ .wrong)
      (fun _ stage => stage = .published nssId addr dmaAddr old) (logBufInit nssId new)
      (.published nssId addr dmaAddr old) := by
  have hret : ∀ err : Bool, Always Stage.step (fun stage => stage ≠ .wrong)
      (fun _ stage => stage = .published nssId addr dmaAddr old)
      (.ret err : LogCall Bool) (.published nssId addr dmaAddr old) := fun _ => .ret nofun rfl
  cases old
  all_goals
    refine .tell nofun (.ask nofun fun sent => ?_)
    refine .ite (fun _ => hret true) fun _ => .ask nofun fun answered => ?_
    exact .ite (fun _ => hret true) fun _ => .ask nofun fun _ => hret _

theorem finishAlloc_staged (nssId : ℕ) (new : RingBufferAddr) (old : Option RingBufferAddr)
    (haddr : new.addr ≠ 0) :
    Staged (finishAlloc nssId new old) (.published nssId new.addr new.dmaAddr old) := by
  refine (logBufInit_staged nssId new.addr new.dmaAddr new old).bind fun err stage hstage => ?_
  subst hstage
  have hfail := fail1_staged new.dmaAddr (bufferSize new.nentries) haddr
  have hdone : Staged (.tell (.done nssId) (.tell .wakeUp (.ret true)))
      (.published nssId new.addr new.dmaAddr none) :=
    .tell nofun (.of_eq (if_pos rfl) (.tell nofun (.ret nofun rfl)))
  cases old with
  | none =>
    cases err with
    | false => exact hdone
    | true => exact .tell nofun (.of_eq (if_pos rfl) (.tell nofun hfail))
  | some old =>
    cases err with
    | false => exact .tell nofun (.of_eq (if_pos rfl) (.tell nofun (.of_eq (if_pos rfl) hdone)))
    | true => exact .tell nofun (.of_eq (if_pos ⟨rfl, rfl⟩) (.tell nofun hfail))

theorem alloc_staged (nssId : ℕ) (nentry : U32) :
    Staged (nssDebugLogBufferAlloc nssId nentry) .nothing := by
  refine .ite (fun _ => .ret nofun rfl) fun _ => .ask nofun fun initialized => ?_
  refine .ite (fun _ => .ret nofun rfl) fun _ => .ask nofun fun (addr : ℕ) => ?_
  refine .ite (fun (haddr : addr = 0) => .of_eq (if_pos haddr) (.ret nofun rfl)) fun haddr => ?_
  refine .of_eq (if_neg haddr) (.ask nofun fun (mapped : Option ℕ) => ?_)
  have hfail2 := fail2_staged addr
  cases mapped with
  | none => exact .of_eq (if_pos rfl) hfail2
  | some dmaAddr =>
    have hfail1 := fail1_staged dmaAddr (bufferSize nentry) haddr
    refine .of_eq (if_pos rfl) (.ask nofun fun (empty : Bool) => ?_)
    have hfinish := finishAlloc_staged nssId ⟨addr, dmaAddr, nentry, 1⟩
    cases empty with
    | true => exact .of_eq (if_pos ⟨rfl, rfl⟩) (hfinish none haddr)
    | false =>
      refine .of_eq (if_pos ⟨rfl, rfl⟩) (.ask nofun fun waited => ?_)
      refine .ite (fun _ => hfail1) fun _ => .ask nofun fun (old : Option RingBufferAddr) => ?_
      cases old with
      | none => exact .of_eq (if_pos ⟨rfl, rfl⟩) hfail1
      | some old => exact .of_eq (if_pos ⟨rfl, rfl⟩) (hfinish (some old) haddr)

def Buffer (addr dmaAddr : ℕ) (r : Resource) : Prop := r = .memory addr ∨ r = .mapping dmaAddr

def Entry (b : RingBufferAddr) (r : Resource) : Prop := b.addr ≠ 0 ∧ Buffer b.addr b.dmaAddr r

namespace Stage

def Holds : Stage → Resource → Prop
  | .memory addr, r => r = .memory addr
  | .buffer addr dmaAddr, r => Buffer addr dmaAddr r
  | .published _ _ _ (some old), r => Entry old r
  | .freeing _ _ _ oldAddr, r => r = .memory oldAddr
  | _, _ => False

def core : Stage → Option ℕ
  | .published nssId _ _ _ => some nssId
  | .freeing nssId _ _ _ => some nssId
  | _ => none

/-- No buffer is null, and an entry that was replaced had no reference. -/
def WellFormed : Stage → Prop
  | .memory addr => addr ≠ 0
  | .buffer addr _ => addr ≠ 0
  | .published _ addr _ old => addr ≠ 0 ∧ ∀ b, old = some b → b.addr ≠ 0 ∧ b.refcnt = 0
  | .freeing _ addr _ _ => addr ≠ 0
  | _ => True

def Placed (rbe : ℕ → RingBufferAddr) : Stage → Prop
  | .published nssId addr dmaAddr _ => (rbe nssId).addr = addr ∧ (rbe nssId).dmaAddr = dmaAddr
  | .freeing nssId addr dmaAddr _ => (rbe nssId).addr = addr ∧ (rbe nssId).dmaAddr = dmaAddr
  | _ => True

end Stage

/-- What an event does to the stage of its call and to what is shared. -/
inductive Moved (s : Shared) : Stage → LogEvent → Shared → Stage → Prop where
  | quiet {stage : Stage} {e : LogEvent} {t : Shared} (hrbe : t.rbe = s.rbe)
      (hlive : t.live = s.live) (hfiles : t.files = s.files) : Moved s stage e t stage
  | take {stage stage' : Stage} {e : LogEvent} {r : Resource} (hfresh : s.live r = false)
      (hholds : ∀ x, stage'.Holds x → x = r ∨ stage.Holds x) (hcore : stage.core = none)
      (hcore' : stage'.core = none) (hformed : stage'.WellFormed) (hplaced : stage'.Placed s.rbe) :
      Moved s stage e (s.setLive r true) stage'
  | drop {stage stage' : Stage} {e : LogEvent} {r : Resource} (hheld : stage.Holds r)
      (hholds : ∀ x, stage'.Holds x → stage.Holds x ∧ x ≠ r) (hcore : stage'.core = stage.core)
      (hformed : stage'.WellFormed) (hplaced : stage.Placed s.rbe → stage'.Placed s.rbe) :
      Moved s stage e (s.setLive r false) stage'
  | publish {nssId addr dmaAddr : ℕ} {old : Option RingBufferAddr} {new : RingBufferAddr}
      {e : LogEvent} (haddr : new.addr = addr) (hdma : new.dmaAddr = dmaAddr)
      (hrefcnt : new.refcnt = 1)
      (hfree : (s.rbe nssId).addr = 0 ∨ (s.rbe nssId).refcnt ≤ 0)
      (hholds : ∀ x, (Stage.published nssId addr dmaAddr old).Holds x → Entry (s.rbe nssId) x)
      (hold : ∀ b, old = some b → b = s.rbe nssId ∧ b.addr ≠ 0) :
      Moved s (.buffer addr dmaAddr) e (s.setRbe nssId new) (.published nssId addr dmaAddr old)
  | withdraw {nssId addr dmaAddr : ℕ} {old : Option RingBufferAddr} {b : RingBufferAddr}
      {e : LogEvent} (hrestores : restores e = some nssId) (hrefcnt : b.refcnt = 0)
      (hholds : ∀ x, Entry b x → (Stage.published nssId addr dmaAddr old).Holds x) :
      Moved s (.published nssId addr dmaAddr old) e (s.setRbe nssId b) (.buffer addr dmaAddr)
  | settle {nssId addr dmaAddr : ℕ} {e : LogEvent} :
      Moved s (.published nssId addr dmaAddr none) e
        (s.setRbe nssId { s.rbe nssId with refcnt := (s.rbe nssId).refcnt - 1 }) .nothing

variable {s t : Shared} {stage : Stage} {e : LogEvent}

def Quiet : LogEvent → Prop
  | .did .wakeUp => True
  | .did .clearMsgEvent => True
  | .saw (.coreInitialized _) _ => True
  | .saw (.waitForRefcnt _) _ => True
  | .saw (.debugInterfaceTx _ _) _ => True
  | .saw .waitForEvent _ => True
  | .saw .msgResponse _ => True
  | _ => False

theorem quiet_step (h : Quiet e) : stage.step e = stage := by
  cases e with
  | did c =>
    cases c with
    | wakeUp => rcases stage with _ | _ | _ | ⟨_, _, _, _ | _⟩ | _ | _ <;> rfl
    | clearMsgEvent => rcases stage with _ | _ | _ | ⟨_, _, _, _ | _⟩ | _ | _ <;> rfl
    | _ => cases h
  | saw q a =>
    cases q with
    | coreInitialized c => rcases stage with _ | _ | _ | ⟨_, _, _, _ | _⟩ | _ | _ <;> rfl
    | waitForRefcnt c => rcases stage with _ | _ | _ | ⟨_, _, _, _ | _⟩ | _ | _ <;> rfl
    | debugInterfaceTx c new => rcases stage with _ | _ | _ | ⟨_, _, _, _ | _⟩ | _ | _ <;> rfl
    | waitForEvent => rcases stage with _ | _ | _ | ⟨_, _, _, _ | _⟩ | _ | _ <;> rfl
    | msgResponse => rcases stage with _ | _ | _ | ⟨_, _, _, _ | _⟩ | _ | _ <;> rfl
    | _ => cases h

theorem quiet_moved (h : Quiet e) (hs : s.Step e t) : Moved s stage e t (stage.step e) := by
  rw [quiet_step h]
  cases e with
  | did c =>
    cases c with
    | wakeUp => exact .quiet (hs ▸ rfl) (hs ▸ rfl) (hs ▸ rfl)
    | clearMsgEvent => exact .quiet (hs ▸ rfl) (hs ▸ rfl) (hs ▸ rfl)
    | _ => cases h
  | saw q a =>
    cases q with
    | coreInitialized c => exact .quiet (hs ▸ rfl) (hs ▸ rfl) (hs ▸ rfl)
    | waitForRefcnt c => exact .quiet (hs.2 ▸ rfl) (hs.2 ▸ rfl) (hs.2 ▸ rfl)
    | debugInterfaceTx c new => exact .quiet (hs ▸ rfl) (hs ▸ rfl) (hs ▸ rfl)
    | waitForEvent => exact .quiet (hs.2 ▸ rfl) (hs.2 ▸ rfl) (hs.2 ▸ rfl)
    | msgResponse => exact .quiet (hs.2 ▸ rfl) (hs.2 ▸ rfl) (hs.2 ▸ rfl)
    | _ => cases h

theorem kfree_moved {addr : ℕ} (hstage : stage.step (.did (.kfree addr)) ≠ .wrong)
    (hformed : stage.WellFormed) (hs : s.Step (.did (.kfree addr)) t) :
    Moved s stage (.did (.kfree addr)) t (stage.step (.did (.kfree addr))) := by
  have ht : t = s.setLive (.memory addr) false := hs
  subst ht
  cases stage with
  | memory held =>
    by_cases haddr : addr = held
    · rw [show (Stage.memory held).step (.did (.kfree addr)) = .nothing from if_pos haddr]
      exact .drop (congrArg _ haddr) (fun _ h => h.elim) rfl trivial fun _ => trivial
    · exact absurd (if_neg haddr) hstage
  | freeing nssId new dmaAddr held =>
    by_cases haddr : addr = held
    · rw [show (Stage.freeing nssId new dmaAddr held).step (.did (.kfree addr))
        = .published nssId new dmaAddr none from if_pos haddr]
      exact .drop (congrArg _ haddr) (fun _ h => h.elim) rfl ⟨hformed, nofun⟩ fun h => h
    · exact absurd (if_neg haddr) hstage
  | published nssId new dmaAddr old =>
    cases old <;> exact absurd rfl hstage
  | _ => exact absurd rfl hstage

theorem unmap_moved {dmaAddr : ℕ} {size : U32}
    (hstage : stage.step (.did (.dmaUnmapSingle dmaAddr size)) ≠ .wrong)
    (hformed : stage.WellFormed) (hs : s.Step (.did (.dmaUnmapSingle dmaAddr size)) t) :
    Moved s stage (.did (.dmaUnmapSingle dmaAddr size)) t
      (stage.step (.did (.dmaUnmapSingle dmaAddr size))) := by
  have ht : t = s.setLive (.mapping dmaAddr) false := hs
  subst ht
  cases stage with
  | buffer addr held =>
    by_cases hdma : dmaAddr = held
    · rw [show (Stage.buffer addr held).step (.did (.dmaUnmapSingle dmaAddr size)) = .memory addr
        from if_pos hdma]
      refine .drop (.inr (congrArg _ hdma)) (fun x hx => ?_) rfl hformed fun _ => trivial
      obtain rfl : x = .memory addr := hx
      exact ⟨.inl rfl, nofun⟩
    · exact absurd (if_neg hdma) hstage
  | published nssId new newDma old =>
    cases old with
    | none => exact absurd rfl hstage
    | some old =>
      obtain ⟨hnew, hold⟩ := hformed
      obtain ⟨haddr, -⟩ := hold old rfl
      by_cases hdma : dmaAddr = old.dmaAddr
      · rw [show (Stage.published nssId new newDma (some old)).step
            (.did (.dmaUnmapSingle dmaAddr size)) = .freeing nssId new newDma old.addr
          from if_pos hdma]
        refine .drop ⟨haddr, .inr (congrArg _ hdma)⟩ (fun x hx => ?_) rfl hnew fun h => h
        obtain rfl : x = .memory old.addr := hx
        exact ⟨⟨haddr, .inl rfl⟩, nofun⟩
      · exact absurd (if_neg hdma) hstage
  | _ => exact absurd rfl hstage

theorem restore_moved {nssId : ℕ} {b : RingBufferAddr}
    (hstage : stage.step (.did (.restore nssId b)) ≠ .wrong)
    (hformed : stage.WellFormed) (hs : s.Step (.did (.restore nssId b)) t) :
    Moved s stage (.did (.restore nssId b)) t (stage.step (.did (.restore nssId b))) := by
  have ht : t = s.setRbe nssId b := hs
  subst ht
  cases stage with
  | published core addr dmaAddr old =>
    cases old with
    | none => exact absurd rfl hstage
    | some old =>
      by_cases hsame : nssId = core ∧ b = old
      · rw [show (Stage.published core addr dmaAddr (some old)).step (.did (.restore nssId b))
          = .buffer addr dmaAddr from if_pos hsame]
        obtain ⟨rfl, rfl⟩ := hsame
        exact .withdraw rfl (hformed.2 b rfl).2 fun _ h => h
      · exact absurd (if_neg hsame) hstage
  | _ => exact absurd rfl hstage

theorem reset_moved {nssId : ℕ} (hstage : stage.step (.did (.reset nssId)) ≠ .wrong)
    (hs : s.Step (.did (.reset nssId)) t) :
    Moved s stage (.did (.reset nssId)) t (stage.step (.did (.reset nssId))) := by
  have ht : t = s.setRbe nssId ⟨0, 0, 0, 0⟩ := hs
  subst ht
  cases stage with
  | published core addr dmaAddr old =>
    cases old with
    | none =>
      by_cases hsame : nssId = core
      · rw [show (Stage.published core addr dmaAddr none).step (.did (.reset nssId))
          = .buffer addr dmaAddr from if_pos hsame]
        subst hsame
        exact .withdraw rfl rfl fun _ h => absurd rfl h.1
      · exact absurd (if_neg hsame) hstage
    | some old => exact absurd rfl hstage
  | _ => exact absurd rfl hstage

theorem done_moved {nssId : ℕ} (hstage : stage.step (.did (.done nssId)) ≠ .wrong)
    (hs : s.Step (.did (.done nssId)) t) :
    Moved s stage (.did (.done nssId)) t (stage.step (.did (.done nssId))) := by
  have ht : t = s.setRbe nssId { s.rbe nssId with refcnt := (s.rbe nssId).refcnt - 1 } := hs
  subst ht
  cases stage with
  | published core addr dmaAddr old =>
    cases old with
    | none =>
      by_cases hsame : nssId = core
      · rw [show (Stage.published core addr dmaAddr none).step (.did (.done nssId)) = .nothing
          from if_pos hsame]
        subst hsame
        exact .settle
      · exact absurd (if_neg hsame) hstage
    | some old => exact absurd rfl hstage
  | _ => exact absurd rfl hstage

theorem kmalloc_moved {size : U32} {addr : ℕ}
    (hstage : stage.step (.saw (.kmalloc size) addr) ≠ .wrong)
    (hs : s.Step (.saw (.kmalloc size) addr) t) :
    Moved s stage (.saw (.kmalloc size) addr) t (stage.step (.saw (.kmalloc size) addr)) := by
  have ht : if addr = 0 then t = s
      else s.live (.memory addr) = false ∧ t = s.setLive (.memory addr) true := hs
  cases stage with
  | nothing =>
    by_cases haddr : addr = 0
    · rw [if_pos haddr] at ht
      rw [show Stage.nothing.step (.saw (.kmalloc size) addr) = .nothing from if_pos haddr]
      exact .quiet (ht ▸ rfl) (ht ▸ rfl) (ht ▸ rfl)
    · rw [if_neg haddr] at ht
      obtain ⟨hfresh, rfl⟩ := ht
      rw [show Stage.nothing.step (.saw (.kmalloc size) addr) = .memory addr from if_neg haddr]
      exact .take hfresh (fun _ hx => .inl hx) rfl rfl haddr trivial
  | published nssId new dmaAddr old =>
    cases old <;> exact absurd rfl hstage
  | _ => exact absurd rfl hstage

theorem map_moved {addr : ℕ} {size : U32} {mapped : Option ℕ}
    (hstage : stage.step (.saw (.dmaMapSingle addr size) mapped) ≠ .wrong)
    (hformed : stage.WellFormed) (hs : s.Step (.saw (.dmaMapSingle addr size) mapped) t) :
    Moved s stage (.saw (.dmaMapSingle addr size) mapped) t
      (stage.step (.saw (.dmaMapSingle addr size) mapped)) := by
  cases stage with
  | memory held =>
    by_cases haddr : addr = held
    · subst haddr
      cases mapped with
      | none =>
        have ht : t = s := hs
        rw [show (Stage.memory addr).step (.saw (.dmaMapSingle addr size) (none : Option ℕ))
          = .memory addr from if_pos rfl]
        exact .quiet (ht ▸ rfl) (ht ▸ rfl) (ht ▸ rfl)
      | some dmaAddr =>
        have ht : s.live (.mapping dmaAddr) = false ∧ t = s.setLive (.mapping dmaAddr) true := hs
        obtain ⟨hfresh, rfl⟩ := ht
        rw [show (Stage.memory addr).step (.saw (.dmaMapSingle addr size) (some dmaAddr))
          = .buffer addr dmaAddr from if_pos rfl]
        exact .take hfresh (fun _ hx => hx.symm) rfl rfl hformed trivial
    · exact absurd (if_neg haddr) hstage
  | published nssId new dmaAddr old =>
    cases old <;> exact absurd rfl hstage
  | _ => exact absurd rfl hstage

theorem setRbe_self (s : Shared) (nssId : ℕ) : s.setRbe nssId (s.rbe nssId) = s := by
  unfold Shared.setRbe
  rw [Function.update_eq_self]

theorem attach_moved {nssId : ℕ} {new : RingBufferAddr} {empty : Bool}
    (hstage : stage.step (.saw (.attach nssId new) empty) ≠ .wrong)
    (hs : s.Step (.saw (.attach nssId new) empty) t) :
    Moved s stage (.saw (.attach nssId new) empty) t
      (stage.step (.saw (.attach nssId new) empty)) := by
  obtain ⟨hempty, ht⟩ := hs
  cases stage with
  | buffer addr dmaAddr =>
    by_cases hnew : new.addr = addr ∧ new.dmaAddr = dmaAddr
    · by_cases hb : (s.rbe nssId).addr = 0
      · have hattach : attach new (s.rbe nssId) = (true, { new with refcnt := 1 }) :=
          if_neg (not_not.mpr hb)
        rw [hattach] at hempty ht
        obtain rfl : empty = true := hempty
        subst ht
        rw [show (Stage.buffer addr dmaAddr).step (.saw (.attach nssId new) true)
          = .published nssId addr dmaAddr none from if_pos hnew]
        exact .publish hnew.1 hnew.2 rfl (.inl hb) (fun _ hx => hx.elim) nofun
      · have hattach : attach new (s.rbe nssId) = (false, s.rbe nssId) := if_pos hb
        rw [hattach] at hempty ht
        obtain rfl : empty = false := hempty
        rw [setRbe_self] at ht
        rw [show (Stage.buffer addr dmaAddr).step (.saw (.attach nssId new) false)
          = .buffer addr dmaAddr from if_pos hnew]
        exact .quiet (ht ▸ rfl) (ht ▸ rfl) (ht ▸ rfl)
    · exact absurd (if_neg hnew) hstage
  | published core addr dmaAddr old =>
    cases old <;> exact absurd rfl hstage
  | _ => exact absurd rfl hstage

theorem reattach_cases (new b : RingBufferAddr) :
    reattach new b = (none, b) ∨
      (b.addr ≠ 0 ∧ b.refcnt ≤ 0 ∧ reattach new b = (some b, { new with refcnt := 1 })) := by
  unfold reattach
  by_cases haddr : b.addr = 0
  · exact .inl (if_pos haddr)
  · rw [if_neg haddr]
    by_cases hrefcnt : b.refcnt > 0
    · exact .inl (if_pos hrefcnt)
    · exact .inr ⟨haddr, not_lt.mp hrefcnt, if_neg hrefcnt⟩

theorem reattach_moved {nssId : ℕ} {new : RingBufferAddr} {old : Option RingBufferAddr}
    (hstage : stage.step (.saw (.reattach nssId new) old) ≠ .wrong)
    (hs : s.Step (.saw (.reattach nssId new) old) t) :
    Moved s stage (.saw (.reattach nssId new) old) t
      (stage.step (.saw (.reattach nssId new) old)) := by
  obtain ⟨hold, ht⟩ := hs
  cases stage with
  | buffer addr dmaAddr =>
    by_cases hnew : new.addr = addr ∧ new.dmaAddr = dmaAddr
    · rcases reattach_cases new (s.rbe nssId) with hkept | ⟨haddr, hrefcnt, hreplaced⟩
      · rw [hkept] at hold ht
        obtain rfl : old = none := hold
        rw [setRbe_self] at ht
        rw [show (Stage.buffer addr dmaAddr).step
            (.saw (.reattach nssId new) (none : Option RingBufferAddr)) = .buffer addr dmaAddr
          from if_pos hnew]
        exact .quiet (ht ▸ rfl) (ht ▸ rfl) (ht ▸ rfl)
      · rw [hreplaced] at hold ht
        obtain rfl : old = some (s.rbe nssId) := hold
        subst ht
        rw [show (Stage.buffer addr dmaAddr).step
            (.saw (.reattach nssId new) (some (s.rbe nssId)))
            = .published nssId addr dmaAddr (some (s.rbe nssId)) from if_pos hnew]
        refine .publish hnew.1 hnew.2 rfl (.inr hrefcnt) (fun _ hx => hx) fun b hb => ?_
        obtain rfl := Option.some.inj hb
        exact ⟨rfl, haddr⟩
    · exact absurd (if_neg hnew) hstage
  | published core addr dmaAddr old =>
    cases old <;> exact absurd rfl hstage
  | _ => exact absurd rfl hstage

theorem moved (hstage : stage.step e ≠ .wrong) (hformed : stage.WellFormed) (hs : s.Step e t) :
    Moved s stage e t (stage.step e) := by
  cases e with
  | did c =>
    cases c with
    | kfree addr => exact kfree_moved hstage hformed hs
    | dmaUnmapSingle dmaAddr size => exact unmap_moved hstage hformed hs
    | restore nssId b => exact restore_moved hstage hformed hs
    | reset nssId => exact reset_moved hstage hs
    | done nssId => exact done_moved hstage hs
    | _ => exact quiet_moved trivial hs
  | saw q a =>
    cases q with
    | kmalloc size => exact kmalloc_moved hstage hs
    | dmaMapSingle addr size => exact map_moved hstage hformed hs
    | attach nssId new => exact attach_moved hstage hs
    | reattach nssId new => exact reattach_moved hstage hs
    | _ => exact quiet_moved trivial hs

inductive Owner (ι : Type) where
  | call (i : ι)
  | core (nssId : ℕ)

/-- Every resource that exists has one owner, an entry counts the open files of
    its core and the call that has written it, and open files read the entry. -/
structure Accounts (s : Shared) (g : ι → Stage) (owner : Resource → Option (Owner ι)) : Prop where
  formed : ∀ i, (g i).WellFormed
  placed : ∀ i, (g i).Placed s.rbe
  callOwns : ∀ i r, (g i).Holds r → owner r = some (.call i)
  coreOwns : ∀ c r, Entry (s.rbe c) r → owner r = some (.core c)
  live : ∀ r, owner r ≠ none → s.live r = true
  alone : ∀ i j c, (g i).core = some c → (g j).core = some c → i = j
  busy : ∀ i c, (g i).core = some c → (s.rbe c).refcnt = openFiles s c + 1
  settled : ∀ c, (∀ i, (g i).core ≠ some c) → (s.rbe c).refcnt = openFiles s c
  files : ∀ data ∈ s.files, data.loadMem ≠ 0 ∧ (s.rbe data.nssId).addr = data.loadMem ∧
    (s.rbe data.nssId).dmaAddr = data.dmaAddr

variable {g : ι → Stage} {owner : Resource → Option (Owner ι)} {i : ι} {c : ℕ}

theorem Accounts.sound (h : Accounts s g owner) : Sound s where
  counted := by
    intro c
    by_cases hbusy : ∃ i, (g i).core = some c
    · obtain ⟨i, hi⟩ := hbusy
      have hcount := h.busy i c hi
      omega
    · have hcount := h.settled c fun i hi => hbusy ⟨i, hi⟩
      omega
  live := by
    intro data hdata
    obtain ⟨haddr, hmem, hdma⟩ := h.files data hdata
    have hentry : ∀ r, Buffer data.loadMem data.dmaAddr r → s.live r = true := by
      intro r hr
      have howns := h.coreOwns data.nssId r ⟨hmem ▸ haddr, by rwa [hmem, hdma]⟩
      exact h.live r (howns ▸ nofun)
    exact ⟨hentry _ (.inl rfl), hentry _ (.inr rfl)⟩

theorem Sound.release_counted {data : LogData} (h : Sound s) (hdata : data ∈ s.files) :
    ¬ bugOn data s.rbe := by
  have hopen : 0 < openFiles s data.nssId :=
    List.countP_pos_iff.mpr ⟨data, hdata, beq_self_eq_true _⟩
  have hcount := h.counted data.nssId
  unfold bugOn nssLogRelease
  rw [Function.update_self]
  show ¬ (s.rbe data.nssId).refcnt - 1 < 0
  omega

theorem core_placed {stage : Stage} {rbe : ℕ → RingBufferAddr} (hcore : stage.core = some c)
    (hformed : stage.WellFormed) (hplaced : stage.Placed rbe) : (rbe c).addr ≠ 0 := by
  cases stage with
  | published nssId addr dmaAddr old =>
    obtain rfl := Option.some.inj hcore
    exact hplaced.1 ▸ hformed.1
  | freeing nssId addr dmaAddr oldAddr =>
    obtain rfl := Option.some.inj hcore
    exact hplaced.1 ▸ hformed
  | _ => cases hcore

theorem openFiles_eq_zero (h : ∀ data ∈ s.files, data.nssId ≠ c) : openFiles s c = 0 := by
  apply List.countP_eq_zero.mpr
  intro data hdata hsame
  exact h data hdata (beq_iff_eq.mp hsame)

theorem file_ne (h : openFiles s c = 0) : ∀ data ∈ s.files, data.nssId ≠ c := by
  intro data hdata hsame
  exact List.countP_eq_zero.mp h data hdata (beq_iff_eq.mpr hsame)

theorem Accounts.unused (h : Accounts s g owner)
    (hfree : (s.rbe c).addr = 0 ∨ (s.rbe c).refcnt ≤ 0) :
    (∀ i, (g i).core ≠ some c) ∧ openFiles s c = 0 ∧ (s.rbe c).refcnt = 0 := by
  have hcore : ∀ i, (g i).core ≠ some c := by
    intro i hi
    rcases hfree with haddr | hrefcnt
    · exact core_placed hi (h.formed i) (h.placed i) haddr
    · have hcount := h.busy i c hi
      omega
  have hcount := h.settled c hcore
  have hnone : openFiles s c = 0 := by
    rcases hfree with haddr | hrefcnt
    · apply openFiles_eq_zero
      intro data hdata hsame
      obtain ⟨hnull, hmem, -⟩ := h.files data hdata
      exact hnull (hmem.symm.trans (hsame ▸ haddr))
    · omega
  exact ⟨hcore, hnone, by omega⟩

theorem Accounts.congr (h : Accounts s g owner) (hrbe : t.rbe = s.rbe) (hlive : t.live = s.live)
    (hfiles : t.files = s.files) : Accounts t g owner := by
  obtain ⟨rbe, live, files, event, response⟩ := s
  obtain ⟨rbe', live', files', event', response'⟩ := t
  obtain rfl : rbe' = rbe := hrbe
  obtain rfl : live' = live := hlive
  obtain rfl : files' = files := hfiles
  exact ⟨h.formed, h.placed, h.callOwns, h.coreOwns, h.live, h.alone, h.busy, h.settled, h.files⟩

theorem Accounts.recount {g' : ι → Stage} (h : Accounts s g owner)
    (hsame : ∀ c, (t.rbe c).addr = (s.rbe c).addr ∧ (t.rbe c).dmaAddr = (s.rbe c).dmaAddr)
    (hlive : t.live = s.live) (hstages : ∀ j, g' j = g j ∨ g' j = .nothing)
    (hbusy : ∀ i c, (g' i).core = some c → (t.rbe c).refcnt = openFiles t c + 1)
    (hsettled : ∀ c, (∀ i, (g' i).core ≠ some c) → (t.rbe c).refcnt = openFiles t c)
    (hfiles : ∀ data ∈ t.files, data.loadMem ≠ 0 ∧ (s.rbe data.nssId).addr = data.loadMem ∧
      (s.rbe data.nssId).dmaAddr = data.dmaAddr) : Accounts t g' owner := by
  have hplaced : ∀ stage : Stage, stage.Placed s.rbe → stage.Placed t.rbe := by
    intro stage hstage
    cases stage with
    | published nssId addr dmaAddr old =>
      exact ⟨(hsame nssId).1.trans hstage.1, (hsame nssId).2.trans hstage.2⟩
    | freeing nssId addr dmaAddr oldAddr =>
      exact ⟨(hsame nssId).1.trans hstage.1, (hsame nssId).2.trans hstage.2⟩
    | _ => trivial
  have hwas : ∀ {j c}, (g' j).core = some c → (g j).core = some c := by
    intro j c hj
    rcases hstages j with hsame | hnone
    · rwa [hsame] at hj
    · rw [hnone] at hj
      cases hj
  constructor
  · intro j
    rcases hstages j with hsame | hnone
    · exact hsame ▸ h.formed j
    · exact hnone ▸ trivial
  · intro j
    rcases hstages j with hsame | hnone
    · exact hsame ▸ hplaced _ (h.placed j)
    · exact hnone ▸ trivial
  · intro j x hx
    rcases hstages j with hsame | hnone
    · exact h.callOwns j x (hsame ▸ hx)
    · rw [hnone] at hx
      exact hx.elim
  · intro c x hx
    obtain ⟨haddr, hdma⟩ := hsame c
    unfold Entry at hx
    rw [haddr, hdma] at hx
    exact h.coreOwns c x hx
  · exact fun x hx => hlive ▸ h.live x hx
  · exact fun j k c hj hk => h.alone j k c (hwas hj) (hwas hk)
  · exact hbusy
  · exact hsettled
  · intro data hdata
    obtain ⟨haddr, hdma⟩ := hsame data.nssId
    rw [haddr, hdma]
    exact hfiles data hdata

theorem setRbe_same {b : RingBufferAddr} (haddr : b.addr = (s.rbe c).addr)
    (hdma : b.dmaAddr = (s.rbe c).dmaAddr) (c' : ℕ) :
    ((s.setRbe c b).rbe c').addr = (s.rbe c').addr ∧
      ((s.setRbe c b).rbe c').dmaAddr = (s.rbe c').dmaAddr := by
  show (Function.update s.rbe c b c').addr = _ ∧ (Function.update s.rbe c b c').dmaAddr = _
  by_cases hc : c' = c
  · rw [hc, Function.update_self]
    exact ⟨haddr, hdma⟩
  · rw [Function.update_of_ne hc]
    exact ⟨rfl, rfl⟩

theorem Accounts.balance (h : Accounts s g owner)
    (hsame : ∀ c, (t.rbe c).addr = (s.rbe c).addr ∧ (t.rbe c).dmaAddr = (s.rbe c).dmaAddr)
    (hlive : t.live = s.live)
    (hcount : ∀ c, (t.rbe c).refcnt - openFiles t c = (s.rbe c).refcnt - openFiles s c)
    (hfiles : ∀ data ∈ t.files, data.loadMem ≠ 0 ∧ (s.rbe data.nssId).addr = data.loadMem ∧
      (s.rbe data.nssId).dmaAddr = data.dmaAddr) : Accounts t g owner := by
  refine h.recount hsame hlive (fun _ => .inl rfl) (fun j c hj => ?_) (fun c hc => ?_) hfiles
  · have hbefore := h.busy j c hj
    have hdiff := hcount c
    omega
  · have hbefore := h.settled c hc
    have hdiff := hcount c
    omega

theorem openFile_cases (s : Shared) (nssId : ℤ) (kzalloc : Bool) :
    s.openFile nssId kzalloc = s ∨ ∃ c, (s.rbe c).addr ≠ 0 ∧ s.openFile nssId kzalloc =
      { s.setRbe c { s.rbe c with refcnt := (s.rbe c).refcnt + 1 } with
        files := ⟨(s.rbe c).addr, (s.rbe c).dmaAddr, 0, (s.rbe c).nentries, c⟩ :: s.files } := by
  unfold Shared.openFile nssLogOpen
  by_cases hrange : nssId < 0 ∨ nssId ≥ NSS_MAX_CORES
  · rw [if_pos hrange]
    exact .inl rfl
  · rw [if_neg hrange]
    cases kzalloc with
    | false => exact .inl rfl
    | true =>
      by_cases haddr : (s.rbe nssId.toNat).addr = 0
      · left
        simp [haddr]
      · right
        refine ⟨nssId.toNat, haddr, ?_⟩
        simp [haddr, Shared.setRbe]

theorem Accounts.openFile (h : Accounts s g owner) (nssId : ℤ) (kzalloc : Bool) :
    Accounts (s.openFile nssId kzalloc) g owner := by
  rcases openFile_cases s nssId kzalloc with hsame | ⟨c, haddr, hopen⟩
  · rwa [hsame]
  · rw [hopen]
    refine h.balance (setRbe_same rfl rfl) rfl (fun c' => ?_) fun data hdata => ?_
    · show ((s.setRbe c { s.rbe c with refcnt := (s.rbe c).refcnt + 1 }).rbe c').refcnt
        - ((List.countP _ (_ :: s.files) : ℕ) : ℤ) = _
      rw [List.countP_cons]
      show (Function.update s.rbe c { s.rbe c with refcnt := (s.rbe c).refcnt + 1 } c').refcnt
        - ((openFiles s c' + if (c == c') = true then 1 else 0 : ℕ) : ℤ) = _
      by_cases hc : c' = c
      · rw [hc, Function.update_self, if_pos (beq_self_eq_true c)]
        push_cast
        omega
      · rw [Function.update_of_ne hc, if_neg (fun heq => hc (beq_iff_eq.mp heq).symm)]
        rfl
    · rcases List.mem_cons.mp hdata with rfl | hdata
      · exact ⟨haddr, rfl, rfl⟩
      · exact h.files data hdata

variable {data : LogData} {front back : List LogData}

theorem openFiles_middle (hfiles : s.files = front ++ data :: back) (c : ℕ) :
    openFiles s c = (front ++ back).countP (fun data => data.nssId == c) +
      if (data.nssId == c) = true then 1 else 0 := by
  unfold openFiles
  rw [hfiles, List.countP_append, List.countP_cons, List.countP_append]
  omega

theorem Accounts.read (h : Accounts s g owner) (hfiles : s.files = front ++ data :: back)
    (lastEntry : U32) :
    Accounts { s with files := front ++ { data with lastEntry := lastEntry } :: back } g owner := by
  refine h.balance (fun _ => ⟨rfl, rfl⟩) rfl (fun c => ?_) fun other hother => ?_
  · have hafter := openFiles_middle
      (s := { s with files := front ++ { data with lastEntry := lastEntry } :: back }) rfl c
    rw [hafter, openFiles_middle hfiles c]
  · have hdata := h.files data (hfiles ▸ List.mem_append_right _ (List.mem_cons_self ..))
    rcases List.mem_append.mp hother with hfront | hback
    · exact h.files other (hfiles ▸ List.mem_append_left _ hfront)
    · rcases List.mem_cons.mp hback with rfl | hback
      · exact hdata
      · exact h.files other (hfiles ▸ List.mem_append_right _ (List.mem_cons_of_mem _ hback))

theorem Accounts.release (h : Accounts s g owner) (hfiles : s.files = front ++ data :: back) :
    Accounts { s with rbe := nssLogRelease data s.rbe, files := front ++ back } g owner := by
  refine h.balance (setRbe_same rfl rfl) rfl (fun c => ?_) fun other hother => ?_
  · have hbefore := openFiles_middle hfiles c
    show (Function.update s.rbe data.nssId
        { s.rbe data.nssId with refcnt := (s.rbe data.nssId).refcnt - 1 } c).refcnt
      - (((front ++ back).countP (fun data => data.nssId == c) : ℕ) : ℤ) = _
    by_cases hc : c = data.nssId
    · rw [hc, if_pos (beq_self_eq_true _)] at hbefore
      rw [hc, Function.update_self]
      show (s.rbe data.nssId).refcnt - 1 - _ = _
      omega
    · rw [if_neg (fun heq => hc (beq_iff_eq.mp heq).symm)] at hbefore
      rw [Function.update_of_ne hc]
      omega
  · rcases List.mem_append.mp hother with hfront | hback
    · exact h.files other (hfiles ▸ List.mem_append_left _ hfront)
    · exact h.files other (hfiles ▸ List.mem_append_right _ (List.mem_cons_of_mem _ hback))

def Ordered (s : LogState ι) : Prop :=
  ∃ g owner, (∀ i, Staged (s.calls i) (g i)) ∧ Accounts s.shared g owner

theorem Start.ordered {s : LogState ι} (h : Start s) : Ordered s := by
  refine ⟨fun _ => .nothing, fun _ => none, fun i => ?_, ?_⟩
  · obtain ⟨b, hb⟩ := h.calls i
    rw [hb]
    exact .ret nofun rfl
  · have hnull : ∀ c, (s.shared.rbe c).addr = 0 := fun c => by rw [h.rbe c]
    have hzero : ∀ c, openFiles s.shared c = 0 := fun c => by
      apply openFiles_eq_zero
      rw [h.files]
      exact nofun
    constructor
    · exact fun _ => trivial
    · exact fun _ => trivial
    · exact fun _ _ hx => hx.elim
    · exact fun c _ hx => absurd (hnull c) hx.1
    · exact fun _ hx => absurd rfl hx
    · exact fun _ _ _ hi => by cases hi
    · exact fun _ _ hi => by cases hi
    · intro c _
      rw [h.rbe c, hzero c]
      rfl
    · rw [h.files]
      exact nofun

section Moves
variable [DecidableEq ι] {stage' : Stage} {r : Resource} {live' : Resource → Bool}
  {owner' : Resource → Option (Owner ι)}

theorem Accounts.hold (h : Accounts s g owner) (hcore : stage'.core = (g i).core)
    (hformed : stage'.WellFormed) (hplaced : stage'.Placed s.rbe)
    (hmine : ∀ x, stage'.Holds x → owner' x = some (.call i))
    (hkeep : ∀ x o, o ≠ .call i → owner x = some o → owner' x = some o)
    (hlive : ∀ x, owner' x ≠ none → live' x = true) :
    Accounts { s with live := live' } (Function.update g i stage') owner' := by
  have hsame : ∀ j, (Function.update g i stage' j).core = (g j).core :=
    (Function.forall_update_iff g fun j st => st.core = (g j).core).mpr ⟨hcore, fun _ _ => rfl⟩
  constructor
  · exact (Function.forall_update_iff g fun _ st => st.WellFormed).mpr
      ⟨hformed, fun j _ => h.formed j⟩
  · exact (Function.forall_update_iff g fun _ st => st.Placed s.rbe).mpr
      ⟨hplaced, fun j _ => h.placed j⟩
  · refine (Function.forall_update_iff g fun j st => ∀ x, st.Holds x →
      owner' x = some (.call j)).mpr ⟨hmine, fun j hj x hx => ?_⟩
    exact hkeep x _ (fun heq => hj (Owner.call.inj heq)) (h.callOwns j x hx)
  · exact fun c x hx => hkeep x _ nofun (h.coreOwns c x hx)
  · exact hlive
  · intro j k c hj hk
    rw [hsame] at hj hk
    exact h.alone j k c hj hk
  · intro j c hj
    rw [hsame] at hj
    exact h.busy j c hj
  · exact fun c hc => h.settled c fun j hj => hc j ((hsame j).trans hj)
  · exact h.files

theorem Accounts.take (h : Accounts s g owner) (hfresh : s.live r = false)
    (hholds : ∀ x, stage'.Holds x → x = r ∨ (g i).Holds x) (hcore : stage'.core = (g i).core)
    (hformed : stage'.WellFormed) (hplaced : stage'.Placed s.rbe) :
    Accounts (s.setLive r true) (Function.update g i stage')
      (Function.update owner r (some (.call i))) := by
  have hunowned : owner r = none := by
    by_contra howned
    rw [h.live r howned] at hfresh
    cases hfresh
  have hkeep : ∀ x o, owner x = some o → Function.update owner r (some (.call i)) x = some o := by
    intro x o hx
    have hne : x ≠ r := fun hxr => by
      rw [hxr, hunowned] at hx
      cases hx
    rw [Function.update_of_ne hne, hx]
  refine h.hold hcore hformed hplaced (fun x hx => ?_) (fun x o _ => hkeep x o) fun x hx => ?_
  · rcases hholds x hx with rfl | hwas
    · exact Function.update_self _ _ _
    · exact hkeep x _ (h.callOwns i x hwas)
  · by_cases hxr : x = r
    · rw [hxr, Function.update_self]
    · rw [Function.update_of_ne hxr] at hx ⊢
      exact h.live x hx

theorem Accounts.drop (h : Accounts s g owner) (hheld : (g i).Holds r)
    (hholds : ∀ x, stage'.Holds x → (g i).Holds x ∧ x ≠ r) (hcore : stage'.core = (g i).core)
    (hformed : stage'.WellFormed) (hplaced : stage'.Placed s.rbe) :
    Accounts (s.setLive r false) (Function.update g i stage') (Function.update owner r none) := by
  have hmine : owner r = some (.call i) := h.callOwns i r hheld
  refine h.hold hcore hformed hplaced (fun x hx => ?_) (fun x o hne hx => ?_) fun x hx => ?_
  · obtain ⟨hwas, hxr⟩ := hholds x hx
    rw [Function.update_of_ne hxr]
    exact h.callOwns i x hwas
  · have hxr : x ≠ r := fun hxr => by
      rw [hxr, hmine] at hx
      exact hne (Option.some.inj hx).symm
    rw [Function.update_of_ne hxr, hx]
  · by_cases hxr : x = r
    · rw [hxr, Function.update_self] at hx
      exact absurd rfl hx
    · rw [Function.update_of_ne hxr] at hx ⊢
      exact h.live x hx

theorem placed_update {stage : Stage} {rbe : ℕ → RingBufferAddr} {b : RingBufferAddr}
    (hcore : stage.core ≠ some c) (h : stage.Placed rbe) :
    stage.Placed (Function.update rbe c b) := by
  have hne : ∀ {nssId}, some nssId ≠ some c → Function.update rbe c b nssId = rbe nssId :=
    fun h => Function.update_of_ne (fun heq => h (congrArg some heq)) _ _
  cases stage with
  | published nssId addr dmaAddr old =>
    show (Function.update rbe c b nssId).addr = addr ∧ _
    rw [hne hcore]
    exact h
  | freeing nssId addr dmaAddr oldAddr =>
    show (Function.update rbe c b nssId).addr = addr ∧ _
    rw [hne hcore]
    exact h
  | _ => trivial

/-- A call writes the entry of a core that nothing else of the invariant is
    about: no open file and no other call. -/
theorem Accounts.write {b : RingBufferAddr} (h : Accounts s g owner)
    (hothers : ∀ j, j ≠ i → (g j).core ≠ some c) (hfiles : openFiles s c = 0)
    (hformed : stage'.WellFormed) (hplaced : stage'.Placed (Function.update s.rbe c b))
    (hmine : ∀ x, stage'.Holds x → owner' x = some (.call i))
    (hcore : ∀ x, Entry b x → owner' x = some (.core c))
    (hkeep : ∀ x o, o ≠ .call i → o ≠ .core c → owner x = some o → owner' x = some o)
    (hlive : ∀ x, owner' x ≠ none → owner x ≠ none)
    (hbusy : stage'.core = some c ∧ b.refcnt = 1 ∨
      stage'.core = none ∧ b.refcnt = 0 ) (honly : ∀ c', (g i).core = some c' → c' = c) :
    Accounts (s.setRbe c b) (Function.update g i stage') owner' := by
  have hat : ∀ j c', (Function.update g i stage' j).core = some c' →
      (j = i ∧ c' = c) ∨ (j ≠ i ∧ c' ≠ c ∧ (g j).core = some c') := by
    intro j c' hj
    by_cases hji : j = i
    · rw [hji, Function.update_self] at hj
      rcases hbusy with ⟨hcore, -⟩ | ⟨hcore, -⟩
      · exact .inl ⟨hji, Option.some.inj (hj.symm.trans hcore)⟩
      · rw [hcore] at hj
        cases hj
    · rw [Function.update_of_ne hji] at hj
      exact .inr ⟨hji, fun hc => hothers j hji (hc ▸ hj), hj⟩
  have hrbe : ∀ c', c' ≠ c → (s.setRbe c b).rbe c' = s.rbe c' :=
    fun c' hc => Function.update_of_ne hc _ _
  have hrbeSelf : (s.setRbe c b).rbe c = b := Function.update_self _ _ _
  constructor
  · exact (Function.forall_update_iff g fun _ st => st.WellFormed).mpr
      ⟨hformed, fun j _ => h.formed j⟩
  · exact (Function.forall_update_iff g fun _ st => st.Placed (s.setRbe c b).rbe).mpr
      ⟨hplaced, fun j hj => placed_update (hothers j hj) (h.placed j)⟩
  · refine (Function.forall_update_iff g fun j st => ∀ x, st.Holds x →
      owner' x = some (.call j)).mpr ⟨hmine, fun j hj x hx => ?_⟩
    exact hkeep x _ (fun heq => hj (Owner.call.inj heq)) nofun (h.callOwns j x hx)
  · intro c' x hx
    by_cases hc : c' = c
    · rw [hc, hrbeSelf] at hx
      rw [hc]
      exact hcore x hx
    · rw [hrbe c' hc] at hx
      exact hkeep x _ nofun (fun heq => hc (Owner.core.inj heq)) (h.coreOwns c' x hx)
  · exact fun x hx => h.live x (hlive x hx)
  · intro j k c' hj hk
    rcases hat j c' hj with ⟨rfl, rfl⟩ | ⟨hji, hc, hj⟩
    · rcases hat k c' hk with ⟨rfl, -⟩ | ⟨-, hc, -⟩
      · rfl
      · exact absurd rfl hc
    · rcases hat k c' hk with ⟨-, rfl⟩ | ⟨-, -, hk⟩
      · exact absurd rfl hc
      · exact h.alone j k c' hj hk
  · intro j c' hj
    show _ = ((openFiles s c' : ℕ) : ℤ) + 1
    rcases hat j c' hj with ⟨rfl, rfl⟩ | ⟨-, hc, hj⟩
    · rw [Function.update_self] at hj
      rcases hbusy with ⟨-, hrefcnt⟩ | ⟨hnone, -⟩
      · rw [hrbeSelf, hrefcnt, hfiles]
        rfl
      · rw [hnone] at hj
        cases hj
    · rw [hrbe c' hc]
      exact h.busy j c' hj
  · intro c' hc'
    show _ = ((openFiles s c' : ℕ) : ℤ)
    by_cases hc : c' = c
    · rcases hbusy with ⟨hsome, -⟩ | ⟨-, hrefcnt⟩
      · have hnot := hc' i
        rw [Function.update_self, hc] at hnot
        exact absurd hsome hnot
      · rw [hc, hrbeSelf, hrefcnt, hfiles]
        rfl
    · rw [hrbe c' hc]
      refine h.settled c' fun j hj => ?_
      by_cases hji : j = i
      · exact hc (honly c' (hji ▸ hj))
      · have hnot := hc' j
        rw [Function.update_of_ne hji] at hnot
        exact hnot hj
  · intro data hdata
    rw [hrbe _ (file_ne hfiles data hdata)]
    exact h.files data hdata

open Classical in
theorem Accounts.exchange {b : RingBufferAddr} {A B : Resource → Prop} (h : Accounts s g owner)
    (hA : ∀ x, A x → owner x = some (.call i)) (hB : ∀ x, B x → owner x = some (.core c))
    (hmine : ∀ x, stage'.Holds x → B x) (hcore : ∀ x, Entry b x → A x)
    (hothers : ∀ j, j ≠ i → (g j).core ≠ some c) (hfiles : openFiles s c = 0)
    (hformed : stage'.WellFormed) (hplaced : stage'.Placed (Function.update s.rbe c b))
    (hbusy : stage'.core = some c ∧ b.refcnt = 1 ∨ stage'.core = none ∧ b.refcnt = 0)
    (honly : ∀ c', (g i).core = some c' → c' = c) :
    ∃ owner', Accounts (s.setRbe c b) (Function.update g i stage') owner' := by
  have hnot : ∀ x, B x → ¬ A x := by
    intro x hb ha
    have hboth := (hA x ha).symm.trans (hB x hb)
    cases hboth
  refine ⟨fun x => if A x then some (.core c) else if B x then some (.call i) else owner x, ?_⟩
  refine h.write hothers hfiles hformed hplaced (fun x hx => ?_) (fun x hx => ?_)
    (fun x o hcall hcore ho => ?_) (fun x hx => ?_) hbusy honly
  · have hb := hmine x hx
    exact (if_neg (hnot x hb)).trans (if_pos hb)
  · exact if_pos (hcore x hx)
  · have ha : ¬ A x := fun ha => hcall (Option.some.inj (ho.symm.trans (hA x ha)))
    have hb : ¬ B x := fun hb => hcore (Option.some.inj (ho.symm.trans (hB x hb)))
    exact ((if_neg ha).trans (if_neg hb)).trans ho
  · by_cases ha : A x
    · rw [hA x ha]
      exact nofun
    · by_cases hb : B x
      · rw [hB x hb]
        exact nofun
      · rw [if_neg ha, if_neg hb] at hx
        exact hx

theorem Accounts.settle (h : Accounts s g owner) (hcore : (g i).core = some c) :
    Accounts (s.setRbe c { s.rbe c with refcnt := (s.rbe c).refcnt - 1 })
      (Function.update g i .nothing) owner := by
  have hrbe : ∀ c', c' ≠ c →
      (s.setRbe c { s.rbe c with refcnt := (s.rbe c).refcnt - 1 }).rbe c' = s.rbe c' :=
    fun c' hc => Function.update_of_ne hc _ _
  refine h.recount (setRbe_same rfl rfl) rfl (fun j => ?_) (fun j c' hj => ?_) (fun c' hc' => ?_)
    h.files
  · by_cases hji : j = i
    · rw [hji, Function.update_self]
      exact .inr rfl
    · rw [Function.update_of_ne hji]
      exact .inl rfl
  · by_cases hji : j = i
    · rw [hji, Function.update_self] at hj
      cases hj
    · rw [Function.update_of_ne hji] at hj
      have hc : c' ≠ c := fun hc => hji (h.alone j i c (hc ▸ hj) hcore)
      rw [hrbe c' hc]
      exact h.busy j c' hj
  · by_cases hc : c' = c
    · have hcount := h.busy i c hcore
      have hself : (s.setRbe c { s.rbe c with refcnt := (s.rbe c).refcnt - 1 }).rbe c
          = { s.rbe c with refcnt := (s.rbe c).refcnt - 1 } := Function.update_self _ _ _
      rw [hc, hself]
      show (s.rbe c).refcnt - 1 = ((openFiles s c : ℕ) : ℤ)
      omega
    · rw [hrbe c' hc]
      refine h.settled c' fun j hj => ?_
      by_cases hji : j = i
      · rw [hji, hcore] at hj
        exact hc (Option.some.inj hj).symm
      · have hnot := hc' j
        rw [Function.update_of_ne hji] at hnot
        exact hnot hj

theorem Accounts.moved (h : Accounts s g owner) (hm : Moved s (g i) e t stage')
    (hone : ∀ c, restores e = some c → (s.rbe c).refcnt = 1) :
    ∃ owner', Accounts t (Function.update g i stage') owner' := by
  generalize hstage : g i = stage at hm
  cases hm with
  | quiet hrbe hlive hfiles =>
    rw [← hstage, Function.update_eq_self]
    exact ⟨owner, h.congr hrbe hlive hfiles⟩
  | take hfresh hholds hcore hcore' hformed hplaced =>
    subst hstage
    exact ⟨_, h.take hfresh hholds (hcore'.trans hcore.symm) hformed hplaced⟩
  | drop hheld hholds hcore hformed hplaced =>
    subst hstage
    exact ⟨_, h.drop hheld hholds hcore hformed (hplaced (h.placed i))⟩
  | @publish nssId addr dmaAddr old new _ haddr hdma hrefcnt hfree hholds hold =>
    obtain ⟨hothers, hfiles, hzero⟩ := h.unused hfree
    have hbuffer := h.callOwns i
    have hnew := h.formed i
    rw [hstage] at hbuffer hnew
    refine h.exchange (B := Entry (s.rbe nssId)) hbuffer (h.coreOwns nssId) hholds
      (fun x hx => ?_) (fun j _ => hothers j) hfiles ⟨hnew, fun b hb => ?_⟩ ?_ (.inl ⟨rfl, hrefcnt⟩)
      fun c' hc' => ?_
    · have hparts := hx.2
      rwa [haddr, hdma] at hparts
    · obtain ⟨rfl, hb⟩ := hold b hb
      exact ⟨hb, hzero⟩
    · show (Function.update s.rbe nssId new nssId).addr = addr ∧ _
      rw [Function.update_self]
      exact ⟨haddr, hdma⟩
    · rw [hstage] at hc'
      cases hc'
  | @withdraw nssId addr dmaAddr old b _ hrestores hrefcnt hholds =>
    have hcore : (g i).core = some nssId := by rw [hstage]; rfl
    have hheld := h.callOwns i
    have hformed := h.formed i
    have hplaced := h.placed i
    rw [hstage] at hheld hformed hplaced
    have hcount := h.busy i nssId hcore
    have hsingle := hone nssId hrestores
    have hfiles : openFiles s nssId = 0 := by omega
    refine h.exchange (A := Entry b) (B := Buffer addr dmaAddr) (fun x hx => hheld x (hholds x hx))
      (fun x hx => ?_) (fun x hx => hx) (fun x hx => hx) (fun j hj hcore' => ?_) hfiles hformed.1
      trivial (.inr ⟨rfl, hrefcnt⟩) fun c' hc' => ?_
    · have haddr : (s.rbe nssId).addr ≠ 0 := hplaced.1 ▸ hformed.1
      refine h.coreOwns nssId x ⟨haddr, ?_⟩
      rw [hplaced.1, hplaced.2]
      exact hx
    · exact hj (h.alone j i nssId hcore' hcore)
    · exact Option.some.inj (hc'.symm.trans hcore)
  | @settle nssId addr dmaAddr e =>
    have hcore : (g i).core = some nssId := by rw [hstage]; rfl
    exact ⟨owner, h.settle hcore⟩

theorem idle_nothing {stage : Stage} {b : Bool} (h : Staged (.ret b) stage) : stage = .nothing :=
  h.2

variable {l : Label ι}

theorem Ordered.step {s t : LogState ι} (h : Ordered s) (hstep : Step s l t) (hok : Alone s l) :
    Ordered t := by
  obtain ⟨g, owner, hcalls, haccounts⟩ := h
  cases hstep with
  | call i nssId nentry b hidle =>
    have hnothing : g i = .nothing := idle_nothing (hidle ▸ hcalls i)
    refine ⟨g, owner, ?_, haccounts⟩
    refine (Function.forall_update_iff s.calls fun j p => Staged p (g j)).mpr
      ⟨?_, fun j _ => hcalls j⟩
    rw [hnothing]
    exact alloc_staged nssId nentry
  | alloc i e p t hnext hshared =>
    have hp : Staged p ((g i).step e) := (hcalls i).next hnext
    have hm := moved hp.here (haccounts.formed i) hshared
    obtain ⟨owner', haccounts'⟩ := haccounts.moved hm fun c hc => hok i e c rfl hc
    refine ⟨_, owner', fun j => ?_, haccounts'⟩
    show Staged (Function.update s.calls i p j) (Function.update g i ((g i).step e) j)
    by_cases hj : j = i
    · rw [hj, Function.update_self, Function.update_self]
      exact hp
    · rw [Function.update_of_ne hj, Function.update_of_ne hj]
      exact hcalls j
  | openFile nssId kzalloc => exact ⟨g, owner, hcalls, haccounts.openFile nssId kzalloc⟩
  | read data lastEntry front back hfiles =>
    exact ⟨g, owner, hcalls, haccounts.read hfiles lastEntry⟩
  | release data front back hfiles => exact ⟨g, owner, hcalls, haccounts.release hfiles⟩
  | event response => exact ⟨g, owner, hcalls, haccounts.congr rfl rfl rfl⟩

/-- As long as an entry is put back only while no file holds it, the counts
    cover the open files, what these read stays, and no release stops the kernel. -/
theorem log_sound (s : LogState ι) (h : Reachable Start (Guarded Step Alone) s) :
    Sound s.shared ∧ ∀ data ∈ s.shared.files, ¬ bugOn data s.shared.rbe := by
  have hordered : Ordered s := h.invariant Ordered (fun _ hs => hs.ordered)
    fun _ _ _ hs hstep => hs.step hstep.1 hstep.2
  obtain ⟨g, owner, -, haccounts⟩ := hordered
  exact ⟨haccounts.sound, fun _ hdata => haccounts.sound.release_counted hdata⟩

end Moves

def logAt (s : Shared) (p : LogCall Bool) : LogState Unit := ⟨s, fun _ => p⟩

theorem alloc_at {p p' : LogCall Bool} (hnext : Next p e p') (hs : s.Step e t)
    (hquiet : restores e = none) :
    Guarded Step Alone (logAt s p) (.alloc () e) (logAt t p') := by
  constructor
  · have hstep := Step.alloc (logAt s p) () e p' t hnext hs
    have hcalls : Function.update (fun _ : Unit => p) () p' = fun _ => p' := by
      funext i
      exact Function.update_self ..
    rwa [show Function.update (logAt s p).calls () p' = fun _ => p' from hcalls] at hstep
  · intro i e' c hl hrestores
    obtain rfl := (Label.alloc.inj hl).2
    rw [hquiet] at hrestores
    cases hrestores

def booted : Shared :=
  ⟨fun _ => ⟨0, 0, 0, 0⟩, fun _ => false, [], false, .NSS_CMN_RESPONSE_ACK⟩

/-- A first buffer is published, a file is opened on it, the firmware answers. -/
def answered (response : NssCmnResponse) : Shared :=
  let s := (booted.setLive (.memory 1) true).setLive (.mapping 2) true
  { (s.setRbe 0 ⟨1, 2, 32, 1⟩).openFile 0 true with msgEvent := true, msgResponse := response }

variable {p : LogCall Bool}

theorem call_at {b : Bool} (nssId : ℕ) (nentry : U32) :
    Guarded Step Alone (logAt s (.ret b)) (.call () nssId nentry)
      (logAt s (nssDebugLogBufferAlloc nssId nentry)) := by
  constructor
  · have hstep := Step.call (logAt s (.ret b)) () nssId nentry b rfl
    have hcalls : Function.update (logAt s (.ret b)).calls () (nssDebugLogBufferAlloc nssId nentry)
        = fun _ => nssDebugLogBufferAlloc nssId nentry := by
      funext i
      exact Function.update_self ..
    rwa [hcalls] at hstep
  · exact nofun

theorem answered_reachable (response : NssCmnResponse) : ∃ p p' : LogCall Bool,
    Next p (.saw .msgResponse response) p' ∧
    p' = (if response = .NSS_CMN_RESPONSE_ACK then .tell (.done 0) (.tell .wakeUp (.ret true))
      else .tell (.reset 0) (.tell .wakeUp (fail1 1 2 (bufferSize 32)))) ∧
    Reachable Start (Guarded Step Alone) (logAt (answered response) p) := by
  have hstart : Start (logAt booted (.ret false)) :=
    ⟨fun _ => rfl, fun _ => rfl, rfl, fun _ => ⟨false, rfl⟩⟩
  have hcall := (Reachable.start hstart).next (call_at 0 32)
  have hinit := hcall.next (alloc_at (.ask (A := LogAnswer) (.coreInitialized 0) _ true) rfl rfl)
  have hmem := hinit.next (alloc_at (.ask (A := LogAnswer) (.kmalloc _) _ (1 : ℕ)) ⟨rfl, rfl⟩ rfl)
  have hmap := hmem.next
    (alloc_at (.ask (A := LogAnswer) (.dmaMapSingle _ _) _ (some 2 : Option ℕ)) ⟨rfl, rfl⟩ rfl)
  have hattach := hmap.next
    (alloc_at (.ask (A := LogAnswer) (.attach _ _) _ true) ⟨rfl, rfl⟩ rfl)
  have hclear := hattach.next (alloc_at (p := finishAlloc 0 ⟨1, 2, 32, 1⟩ none)
    (Next.tell (A := LogAnswer) LogCommand.clearMsgEvent _) rfl rfl)
  have hopen := hclear.next ⟨.openFile _ 0 true, nofun⟩
  have hsent := hopen.next
    (alloc_at (.ask (A := LogAnswer) (.debugInterfaceTx _ _) _ true) rfl rfl)
  have hevent := hsent.next ⟨.event _ response, nofun⟩
  have hwait := hevent.next
    (alloc_at (.ask (A := LogAnswer) .waitForEvent _ true) ⟨rfl, rfl⟩ rfl)
  refine ⟨_, _, .ask (A := LogAnswer) .msgResponse _ response, ?_, hwait⟩
  cases response <;> rfl

/-- An open file beside an allocation that the firmware has acknowledged. -/
theorem log_sound_acked :
    let s := answered .NSS_CMN_RESPONSE_ACK
    let t := s.setRbe 0 { s.rbe 0 with refcnt := (s.rbe 0).refcnt - 1 }
    Sound t ∧ ∀ data ∈ t.files, ¬ bugOn data t.rbe := by
  intro s t
  obtain ⟨p, p', hnext, hp', hreach⟩ := answered_reachable .NSS_CMN_RESPONSE_ACK
  rw [if_pos rfl] at hp'
  subst hp'
  have hanswer := hreach.next (alloc_at hnext ⟨rfl, rfl⟩ rfl)
  have hdone := hanswer.next
    (alloc_at (t := t) (Next.tell (A := LogAnswer) (LogCommand.done 0) _) rfl rfl)
  exact log_sound (logAt t (.tell .wakeUp (.ret true))) hdone

/-- A file opened before the firmware refuses the first buffer is not counted. -/
theorem log_unsound : ¬ ∀ s : LogState Unit, Reachable Start Step s → Sound s.shared := by
  intro h
  obtain ⟨p, p', hnext, hp', hreach⟩ := answered_reachable .NSS_CMN_RESPONSE_EMSG
  rw [if_neg nofun] at hp'
  subst hp'
  have hanswer := hreach.next (alloc_at hnext ⟨rfl, rfl⟩ rfl)
  have hreset := hanswer.unguarded.next (Step.alloc (logAt (answered .NSS_CMN_RESPONSE_EMSG) _) ()
    (.did (.reset 0)) _ ((answered .NSS_CMN_RESPONSE_EMSG).setRbe 0 ⟨0, 0, 0, 0⟩) (.tell _ _) rfl)
  have hcount := (h _ hreset).counted 0
  have hopen : openFiles ((answered .NSS_CMN_RESPONSE_EMSG).setRbe 0 ⟨0, 0, 0, 0⟩) 0 = 1 := rfl
  have hrefcnt : (((answered .NSS_CMN_RESPONSE_EMSG).setRbe 0 ⟨0, 0, 0, 0⟩).rbe 0).refcnt = 0 := rfl
  rw [show openFiles _ 0 = 1 from hopen] at hcount
  exact absurd (hcount.trans hrefcnt.le) (by decide)

end NssDrv.LogReferences

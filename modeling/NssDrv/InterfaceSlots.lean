import Mathlib.Data.BitVec
import NssDrv.NotifyRouting

set_option autoImplicit false

/-!
# The slots of GRE redirect tunnels and of PortID ports

A tunnel takes the first slot that is not valid, a port the slot of its number.
Neither registration nor unregistration touches the counters.
-/
namespace NssDrv.InterfaceSlots
open TransitionRuns SlotTables HlosInterface InterfaceTables SessionRegistration SessionRuns
open DynamicInterface (nssIsDynamicInterface)

inductive GreStat where
  | rxPackets | rxBytes | rxDropped | txPackets | txBytes | nodeTxDropped
  deriving DecidableEq

inductive PortStat where
  | rxPackets | rxBytes | rxDropped | txPackets | txBytes
  deriving DecidableEq

/-- `nss_gre_redir_tunnel_stats`. -/
structure TunnelStats where
  ifNum : ℤ
  valid : Bool
  stats : GreStat → U32

structure NssPortidHandle where
  ifNum : ℕ
  stats : PortStat → BitVec 64

def NSS_GRE_REDIR_MAX_INTERFACES : ℕ := 24
def NSS_PORTID_MAX_SWITCH_PORT : ℕ := 7
def NSS_PORTID_INTERFACE : ℕ := 125
def NSS_GRE_REDIR_RX_STATS_SYNC_MSG : ℕ := 3
def NSS_PORTID_STATS_SYNC_MSG : ℕ := 2
def NSS_PORTID_MAX_MSG_TYPE : ℕ := 3

/-- The handler of the base node, as a pointer. -/
def nssPortidHandlerPtr : ℕ := 9

structure SlotTop extends NssTop where
  tunStats : List TunnelStats
  nssPortidHdl : List NssPortidHandle
  portidNode : PortStat → BitVec 64
  portidRxInvalidHeader : BitVec 64

/-- A message with the statistics of either family. -/
structure SlotMsg extends RxMsg where
  tunnelStats : GreStat → U32
  nodeStats : PortStat → U32
  rxInvalidHeader : U32
  portId : ℕ

section Tunnels
variable (ifNum : ℤ) (slots : List TunnelStats)

def claimTunnel : List TunnelStats :=
  (updateFirst (fun x => !x.valid) (fun x => { x with valid := true, ifNum := ifNum })
    slots).getD slots

def clearTunnel : List TunnelStats :=
  (updateFirst (fun x => x.ifNum == ifNum && x.valid)
    (fun x => { x with valid := false, ifNum := -1 }) slots).getD slots

def nssGreRedirTunnelUpdateStats (delta : GreStat → U32) : List TunnelStats :=
  (updateFirst (fun x => x.ifNum == ifNum && x.valid)
    (fun x => { x with stats := fun k => x.stats k + delta k }) slots).getD slots

end Tunnels

section Functions
variable (s : SlotTop)

def nssGreRedirRegisterIf (r : IfParams) : Option (Bool × SlotTop) :=
  match SessionRegistration.nssGreRedirRegisterIf r s.toNssTop with
  | none => none
  | some (false, top) => some (false, { s with toNssTop := top })
  | some (true, top) =>
    some (true, { s with toNssTop := top, tunStats := claimTunnel r.ifNum s.tunStats })

def nssGreRedirUnregisterIf (ifNum : ℕ) : Option SlotTop :=
  if (nssCoreUnregisterHandler ifNum s.handlers).1 ≠ .success then some s
  else
    (SessionRegistration.nssGreRedirUnregisterIf ifNum s.toNssTop).map fun top =>
      { s with toNssTop := top, tunStats := clearTunnel ifNum s.tunStats }

def nssGreRedirGetStats (index : ℕ) : Option TunnelStats :=
  match s.tunStats[index]? with
  | none => none
  | some x =>
    if x.valid = false then none
    else if nssIsDynamicInterface x.ifNum = false then none
    else some x

/-- `typed` tells which dynamic interfaces have the type of a port. -/
def nssPortidVerifyIfNum (typed : ℕ → Bool) (ifNum : ℕ) : Bool :=
  if nssIsDynamicInterface ifNum = false then false else typed ifNum

/-- The features stay. -/
def nssPortidRegisterPortIf (typed : ℕ → Bool) (r : IfParams) (portId : ℕ) : Bool × SlotTop :=
  if nssPortidVerifyIfNum typed r.ifNum = false then (false, s)
  else match s.nssPortidHdl[portId]? with
    | none => (false, s)
    | some hdl =>
      if hdl.ifNum ≠ 0 then (false, s)
      else
        let top := s.toNssTop.setDp r.ifNum
          ⟨r.netdev.ptr, r.dataCallback, 0, (s.dp r.ifNum).features⟩
        (true, { s with
          toNssTop := top
          nssPortidHdl := s.nssPortidHdl.set portId { hdl with ifNum := r.ifNum } })

def nssPortidUnregisterPortIf (typed : ℕ → Bool) (ifNum : ℕ) : Bool × SlotTop :=
  if nssPortidVerifyIfNum typed ifNum = false then (false, s)
  else
    let top := (s.toNssTop.unregisterHandler ifNum).setDp ifNum ⟨0, 0, 0, 0⟩
    (true, { s with
      toNssTop := top
      nssPortidHdl := s.nssPortidHdl.map fun x =>
        if x.ifNum = ifNum then { x with ifNum := 0 } else x })

def nssPortidGetStats (ifNum : ℕ) : Option (PortStat → BitVec 64) :=
  (s.nssPortidHdl.find? fun x => x.ifNum == ifNum).map NssPortidHandle.stats

def nssPortidSyncUpdate (npsm : SlotMsg) : SlotTop :=
  if npsm.portId = NSS_PORTID_MAX_SWITCH_PORT then
    { s with
      portidNode := fun k => s.portidNode k + (npsm.nodeStats k).setWidth 64
      portidRxInvalidHeader := s.portidRxInvalidHeader + npsm.rxInvalidHeader.setWidth 64 }
  else match s.nssPortidHdl[npsm.portId]? with
    | none => s
    | some hdl =>
      if hdl.ifNum = 0 then s
      else { s with
        nssPortidHdl := s.nssPortidHdl.set npsm.portId
          { hdl with stats := fun k => hdl.stats k + (npsm.nodeStats k).setWidth 64 } }

/-- `none` is a `BUG_ON`. -/
def nssPortidHandler (ncm : SlotMsg) : Option (SlotTop × Invoked) :=
  if ncm.interface ≠ NSS_PORTID_INTERFACE then none
  else if ncm.type ≥ NSS_PORTID_MAX_MSG_TYPE then some (s, none)
  else if ncm.fits = false then some (s, none)
  else
    let s := if ncm.type = NSS_PORTID_STATS_SYNC_MSG then nssPortidSyncUpdate s ncm else s
    let (cb, appData) :=
      if ncm.notify then (s.ifRxMsgCallback ncm.interface, (s.dp ncm.interface).ndev)
      else (ncm.cb, ncm.appData)
    some (s, invoke cb appData)

def nssGreRedirMsgHandler (ncm : SlotMsg) : Option (SlotTop × Invoked) :=
  if ¬ nssIsDynamicInterface ncm.interface ∧ ncm.interface ≠ NSS_GRE_REDIR_INTERFACE then none
  else if ncm.type ≥ NSS_GRE_REDIR_MAX_MSG_TYPES then some (s, none)
  else if ncm.fits = false then some (s, none)
  else
    let cb := if ncm.notify then s.ifRxMsgCallback ncm.interface else ncm.cb
    let s :=
      if ncm.type = NSS_GRE_REDIR_RX_STATS_SYNC_MSG ∧ nssIsDynamicInterface ncm.interface then
        { s with
          tunStats := nssGreRedirTunnelUpdateStats ncm.interface s.tunStats ncm.tunnelStats }
      else s
    some (s, invoke cb (s.dp ncm.interface).ndev)

/-- The handlers of other interfaces leave these tables as they are. -/
def nssCoreHandleNssStatusPkt (ncm : SlotMsg) : Option (SlotTop × Invoked) :=
  if ncm.version ≠ NSS_HLOS_MESSAGE_VERSION then some (s, none)
  else if ncm.len > ncm.bufLen then some (s, none)
  else if ncm.interface ≥ NSS_MAX_NET_INTERFACES then some (s, none)
  else
    let cb := (s.handlers ncm.interface).cb
    if cb = nssPortidHandlerPtr then nssPortidHandler s ncm
    else if cb = Family.greRedir.handler then nssGreRedirMsgHandler s ncm
    else some (s, none)

end Functions

/-! ## Runs -/

/-- The tables, and for every interface that is registered what was reported since
    then, for a port with its number. -/
structure Slots where
  top : SlotTop
  tunnel : ℤ → Option (List (GreStat → U32))
  port : ℕ → Option (ℕ × List (PortStat → U32))

def tunnelReport (ncm : SlotMsg) : Prop :=
  RxMsg.arrives ncm.toRxMsg ∧ ncm.type = NSS_GRE_REDIR_RX_STATS_SYNC_MSG ∧
    nssIsDynamicInterface ncm.interface = true

def portReport (ncm : SlotMsg) : Prop :=
  RxMsg.arrives ncm.toRxMsg ∧ ncm.type = NSS_PORTID_STATS_SYNC_MSG ∧
    ncm.interface = NSS_PORTID_INTERFACE

instance (ncm : SlotMsg) : Decidable (tunnelReport ncm) := inferInstanceAs (Decidable (_ ∧ _ ∧ _))
instance (ncm : SlotMsg) : Decidable (portReport ncm) := inferInstanceAs (Decidable (_ ∧ _ ∧ _))

/-- The reports of one port count for the interface it is registered for. -/
def credit (p : ℕ) (report : PortStat → U32) (g : ℕ × List (PortStat → U32)) :
    ℕ × List (PortStat → U32) :=
  if g.1 = p then (g.1, g.2 ++ [report]) else g

namespace Slots

def afterReceive (w : Slots) (ncm : SlotMsg) (top : SlotTop) : Slots :=
  { top := top
    tunnel := if tunnelReport ncm then
        Function.update w.tunnel ncm.interface
          ((w.tunnel ncm.interface).map (· ++ [ncm.tunnelStats]))
      else w.tunnel
    port := if portReport ncm then fun n => (w.port n).map (credit ncm.portId ncm.nodeStats)
      else w.port }

end Slots

inductive SlotCall where
  | greRegister (r : IfParams) (granted : Bool)
  | greUnregister (ifNum : ℕ)
  | portRegister (typed : ℕ → Bool) (r : IfParams) (portId : ℕ) (granted : Bool)
  | portUnregister (typed : ℕ → Bool) (ifNum : ℕ) (done : Bool)
  | receive (ncm : SlotMsg)

inductive SlotStep : Slots → SlotCall → Slots → Prop where
  | greRegister (w : Slots) (r : IfParams) (granted : Bool) (t : SlotTop)
      (h : nssGreRedirRegisterIf w.top r = some (granted, t)) :
      SlotStep w (.greRegister r granted)
        { w with
          top := t
          tunnel := if granted then Function.update w.tunnel r.ifNum (some []) else w.tunnel }
  | greUnregister (w : Slots) (ifNum : ℕ) (t : SlotTop)
      (h : nssGreRedirUnregisterIf w.top ifNum = some t) :
      SlotStep w (.greUnregister ifNum)
        { w with top := t, tunnel := Function.update w.tunnel ifNum none }
  | portRegister (w : Slots) (typed : ℕ → Bool) (r : IfParams) (portId : ℕ) (granted : Bool)
      (t : SlotTop) (h : nssPortidRegisterPortIf w.top typed r portId = (granted, t)) :
      SlotStep w (.portRegister typed r portId granted)
        { w with
          top := t
          port := if granted then Function.update w.port r.ifNum (some (portId, [])) else w.port }
  | portUnregister (w : Slots) (typed : ℕ → Bool) (ifNum : ℕ) (done : Bool) (t : SlotTop)
      (h : nssPortidUnregisterPortIf w.top typed ifNum = (done, t)) :
      SlotStep w (.portUnregister typed ifNum done)
        { w with
          top := t
          port := if done then Function.update w.port ifNum none else w.port }
  | receive (w : Slots) (ncm : SlotMsg) (t : SlotTop) (invoked : Invoked)
      (h : nssCoreHandleNssStatusPkt w.top ncm = some (t, invoked)) :
      SlotStep w (.receive ncm) (w.afterReceive ncm t)

def freeTunnel : TunnelStats := ⟨0, false, fun _ => 0⟩
def freePort : NssPortidHandle := ⟨0, fun _ => 0⟩

/-- After the handlers of the two base nodes were registered. -/
structure SlotStart (w : Slots) : Prop where
  tunStats : w.top.tunStats = List.replicate NSS_GRE_REDIR_MAX_INTERFACES freeTunnel
  ports : w.top.nssPortidHdl = List.replicate NSS_PORTID_MAX_SWITCH_PORT freePort
  handler : (w.top.handlers NSS_PORTID_INTERFACE).cb = nssPortidHandlerPtr
  tunnel : ∀ n, w.tunnel n = none
  port : ∀ n, w.port n = none

def tunnelOwner (x : TunnelStats) : Option ℤ := if x.valid = true then some x.ifNum else none
def portOwner (x : NssPortidHandle) : Option ℕ := if x.ifNum = 0 then none else some x.ifNum

def tunnelSum (reports : List (GreStat → U32)) (k : GreStat) : U32 := (reports.map (· k)).sum

def portSum (reports : List (PortStat → U32)) (k : PortStat) : BitVec 64 :=
  (reports.map fun report => (report k).setWidth 64).sum

variable {n : ℤ} {m : ℕ} {x : TunnelStats}

theorem map_update {α β ν : Type} [DecidableEq ν] (g : α → β) (f : ν → Option α) (n : ν)
    (v : Option α) : (fun m => (Function.update f n v m).map g) =
      Function.update (fun m => (f m).map g) n (v.map g) := by
  funext m
  by_cases hm : m = n
  · subst hm
    rw [Function.update_self, Function.update_self]
  · rw [Function.update_of_ne hm, Function.update_of_ne hm]

theorem tunnelSum_snoc (reports : List (GreStat → U32)) (report : GreStat → U32) :
    tunnelSum (reports ++ [report]) = fun k => tunnelSum reports k + report k := by
  funext k
  unfold tunnelSum
  rw [List.map_append, List.sum_append, List.map_singleton, List.sum_singleton]

theorem portSum_snoc (reports : List (PortStat → U32)) (report : PortStat → U32) :
    portSum (reports ++ [report]) = fun k => portSum reports k + (report k).setWidth 64 := by
  funext k
  unfold portSum
  rw [List.map_append, List.sum_append, List.map_singleton, List.sum_singleton]

theorem tunnelOwner_some : tunnelOwner x = some n ↔ x.valid = true ∧ x.ifNum = n := by
  unfold tunnelOwner
  split
  · rename_i hvalid
    rw [Option.some.injEq]
    exact ⟨fun h => ⟨hvalid, h⟩, And.right⟩
  · rename_i hvalid
    exact ⟨nofun, fun h => absurd h.1 hvalid⟩

theorem portOwner_some {x : NssPortidHandle} : portOwner x = some m ↔ x.ifNum = m ∧ m ≠ 0 := by
  unfold portOwner
  split
  · rename_i hzero
    exact ⟨nofun, fun h => absurd (h.1.symm.trans hzero) h.2⟩
  · rename_i hnonzero
    rw [Option.some.injEq]
    exact ⟨fun h => ⟨h, h ▸ hnonzero⟩, And.left⟩

theorem dynamic_nonzero (h : nssIsDynamicInterface m = true) : m ≠ 0 := by
  rintro rfl
  cases h

/-! ## The tunnels -/

section Tunnels
variable {tunnel : ℤ → Option (List (GreStat → U32))} {slots : List TunnelStats}

def tunnelGiven (tunnel : ℤ → Option (List (GreStat → U32))) (n : ℤ) : Option (GreStat → U32) :=
  (tunnel n).map tunnelSum

/-- The table of the tunnels. While one of them has no slot, all slots are taken. -/
structure TunnelTable (tunnel : ℤ → Option (List (GreStat → U32))) (slots : List TunnelStats) :
    Prop where
  held : Held tunnelOwner (fun _ x => x.stats) (tunnelGiven tunnel) slots
  placed : (∀ x ∈ slots, x.valid = true) ∨ Placed tunnelOwner (tunnelGiven tunnel) slots

theorem tunnelGiven_none (h : tunnel n = none) : tunnelGiven tunnel n = none := by
  unfold tunnelGiven
  rw [h]
  rfl

theorem TunnelTable.unowned (h : TunnelTable tunnel slots) (hn : tunnel n = none) {j : ℕ}
    (hx : slots[j]? = some x) : tunnelOwner x ≠ some n := by
  intro hown
  have hgiven := h.held.held j x n hx hown
  rw [tunnelGiven_none hn] at hgiven
  cases hgiven

theorem TunnelTable.claim (h : TunnelTable tunnel slots) (hn : tunnel n = none)
    (hzero : ∀ x, slots.find? (fun x => !x.valid) = some x → x.stats = fun _ => 0) :
    TunnelTable (Function.update tunnel n (some [])) (claimTunnel n slots) := by
  have hgiven : tunnelGiven (Function.update tunnel n (some [])) =
      Function.update (tunnelGiven tunnel) n (some (tunnelSum [])) :=
    map_update tunnelSum tunnel n (some [])
  unfold claimTunnel
  cases hclaim : updateFirst (fun x => !x.valid)
      (fun x : TunnelStats => { x with valid := true, ifNum := n }) slots with
  | none =>
    have hfull : ∀ x ∈ slots, x.valid = true := by
      intro x hx
      have hnot := updateFirst_none hclaim x hx
      rwa [Bool.not_eq_false'] at hnot
    constructor
    · rw [hgiven]
      exact h.held.absent (fun j z hz => h.unowned hn hz) _
    · exact .inl hfull
  | some slots' =>
    obtain ⟨i, x, hx, hfree, hfind, rfl⟩ := updateFirst_set hclaim
    have hown : tunnelOwner { x with valid := true, ifNum := n } = some n := rfl
    have hstats : x.stats = tunnelSum [] := hzero x hfind
    rw [Bool.not_eq_true'] at hfree
    constructor
    · rw [hgiven, ← hstats]
      exact h.held.assign hown fun j z hz hzn => absurd hzn (h.unowned hn hz)
    · right
      rcases h.placed with hfull | hplaced
      · cases hfree.symm.trans (hfull x (List.mem_of_getElem? hx))
      · rw [hgiven]
        refine hplaced.assign hx (fun m hm => ?_) hown
        cases hfree.symm.trans (tunnelOwner_some.mp hm).1

theorem tunnel_search {f : TunnelStats → TunnelStats} {slots' : List TunnelStats}
    (h : updateFirst (fun x => x.ifNum == n && x.valid) f slots = some slots') :
    ∃ (i : ℕ) (x : TunnelStats), slots[i]? = some x ∧ tunnelOwner x = some n ∧
      slots' = slots.set i (f x) := by
  obtain ⟨i, x, hx, hmatch, -, hset⟩ := updateFirst_set h
  rw [Bool.and_eq_true, beq_iff_eq] at hmatch
  exact ⟨i, x, hx, tunnelOwner_some.mpr hmatch.symm, hset⟩

theorem tunnel_missing {f : TunnelStats → TunnelStats}
    (h : updateFirst (fun x => x.ifNum == n && x.valid) f slots = none) {j : ℕ}
    (hx : slots[j]? = some x) : tunnelOwner x ≠ some n := by
  intro hown
  obtain ⟨hvalid, hnum⟩ := tunnelOwner_some.mp hown
  have hnot := updateFirst_none h x (List.mem_of_getElem? hx)
  rw [hvalid, hnum, beq_self_eq_true] at hnot
  cases hnot

theorem TunnelTable.clear (h : TunnelTable tunnel slots)
    (hplaced : (∀ (j : ℕ) x, slots[j]? = some x → tunnelOwner x ≠ some n) ∨
      Placed tunnelOwner (tunnelGiven tunnel) slots) :
    TunnelTable (Function.update tunnel n none) (clearTunnel n slots) := by
  have hgiven : tunnelGiven (Function.update tunnel n none) =
      Function.update (tunnelGiven tunnel) n none :=
    map_update tunnelSum tunnel n none
  unfold clearTunnel
  cases hclear : updateFirst (fun x => x.ifNum == n && x.valid)
      (fun x : TunnelStats => { x with valid := false, ifNum := -1 }) slots with
  | none =>
    constructor
    · rw [hgiven]
      exact h.held.absent (fun j z hz => tunnel_missing hclear hz) _
    · rw [hgiven]
      exact h.placed.imp_right fun hall => hall.release fun j z m hz _ _ => hz
  | some slots' =>
    obtain ⟨i, x, hx, hown, rfl⟩ := tunnel_search hclear
    constructor
    · rw [hgiven]
      refine h.held.release fun j z m hz hm => ?_
      rcases set_cases hz with ⟨-, rfl⟩ | ⟨hij, hz⟩
      · cases hm
      · refine ⟨?_, hz⟩
        rintro rfl
        exact hij (h.held.once i j x z m hx hz hown hm)
    · right
      rw [hgiven]
      have hall := hplaced.resolve_left fun hnone => hnone i x hx hown
      refine hall.release fun j z m hz hm hmn => ?_
      have hij : i ≠ j := by
        rintro rfl
        obtain rfl := Option.some.inj (hx.symm.trans hz)
        exact hmn (Option.some.inj (hm.symm.trans hown))
      rw [Option.getD_some, List.getElem?_set_ne hij]
      exact hz

theorem TunnelTable.sync (h : TunnelTable tunnel slots) (delta : GreStat → U32) :
    TunnelTable (Function.update tunnel n ((tunnel n).map (· ++ [delta])))
      (nssGreRedirTunnelUpdateStats n slots delta) := by
  have hgiven : tunnelGiven (Function.update tunnel n ((tunnel n).map (· ++ [delta]))) =
      Function.update (tunnelGiven tunnel) n
        (((tunnel n).map (· ++ [delta])).map tunnelSum) :=
    map_update tunnelSum tunnel n _
  unfold nssGreRedirTunnelUpdateStats
  cases hsync : updateFirst (fun x => x.ifNum == n && x.valid)
      (fun x : TunnelStats => { x with stats := fun k => x.stats k + delta k }) slots with
  | none =>
    constructor
    · rw [hgiven]
      exact h.held.absent (fun j z hz => tunnel_missing hsync hz) _
    · refine h.placed.imp_right fun hall m hm => hall m ?_
      rw [hgiven] at hm
      by_cases hmn : m = n
      · subst hmn
        rw [Function.update_self] at hm
        unfold tunnelGiven
        simpa using hm
      · rwa [Function.update_of_ne hmn] at hm
  | some slots' =>
    obtain ⟨i, x, hx, hown, rfl⟩ := tunnel_search hsync
    obtain ⟨reports, hreports, hsum⟩ := Option.map_eq_some_iff.mp (h.held.held i x n hx hown)
    have hvalue : ((tunnel n).map (· ++ [delta])).map tunnelSum =
        some fun k => x.stats k + delta k := by
      rw [hreports, Option.map_some, Option.map_some, tunnelSum_snoc, hsum]
    rw [hvalue] at hgiven
    have hown' : tunnelOwner { x with stats := fun k => x.stats k + delta k } = some n := hown
    constructor
    · rw [hgiven]
      exact h.held.assign hown' fun j z hz hzn => h.held.once j i z x n hz hx hzn hown
    · refine h.placed.imp (fun hfull z hz => ?_) fun hall => ?_
      · obtain ⟨j, hj⟩ := List.getElem?_of_mem hz
        rcases set_cases hj with ⟨-, rfl⟩ | ⟨-, hj⟩
        · exact (tunnelOwner_some.mp hown).1
        · exact hfull z (List.mem_of_getElem? hj)
      · rw [hgiven]
        exact hall.assign hx (fun m hm => Option.some.inj (hm.symm.trans hown)) hown

end Tunnels

/-! ## The ports -/

section Ports
variable {port : ℕ → Option (ℕ × List (PortStat → U32))} {hdl : List NssPortidHandle}
variable {p : ℕ} {x : NssPortidHandle}

def portGiven (port : ℕ → Option (ℕ × List (PortStat → U32))) (n : ℕ) :
    Option (ℕ × (PortStat → BitVec 64)) :=
  (port n).map fun g => (g.1, portSum g.2)

/-- Every port that is registered has the slot of its number. -/
structure PortTable (port : ℕ → Option (ℕ × List (PortStat → U32)))
    (hdl : List NssPortidHandle) : Prop where
  held : Held portOwner (fun i x => (i, x.stats)) (portGiven port) hdl
  placed : Placed portOwner (portGiven port) hdl

theorem PortTable.register (h : PortTable port hdl) (hm : m ≠ 0) (hnew : port m = none)
    (hx : hdl[p]? = some x) (hfree : x.ifNum = 0) (hzero : x.stats = fun _ => 0) :
    PortTable (Function.update port m (some (p, []))) (hdl.set p { x with ifNum := m }) := by
  have hgiven : portGiven (Function.update port m (some (p, []))) =
      Function.update (portGiven port) m (some (p, portSum [])) :=
    map_update _ port m (some (p, []))
  have hstats : x.stats = portSum [] := hzero
  have hown : portOwner { x with ifNum := m } = some m := portOwner_some.mpr ⟨rfl, hm⟩
  have hnone : ∀ (j : ℕ) z, hdl[j]? = some z → portOwner z ≠ some m := by
    intro j z hz hzm
    have hgiven := h.held.held j z m hz hzm
    unfold portGiven at hgiven
    rw [hnew] at hgiven
    cases hgiven
  constructor
  · rw [hgiven, ← hstats]
    exact h.held.assign hown fun j z hz hzm => absurd hzm (hnone j z hz)
  · rw [hgiven]
    refine h.placed.assign hx (fun k hk => ?_) hown
    obtain ⟨hnum, hk⟩ := portOwner_some.mp hk
    exact absurd (hnum.symm.trans hfree) hk

theorem PortTable.unregister (h : PortTable port hdl) :
    PortTable (Function.update port m none)
      (hdl.map fun x => if x.ifNum = m then { x with ifNum := 0 } else x) := by
  have hgiven : portGiven (Function.update port m none) =
      Function.update (portGiven port) m none :=
    map_update _ port m none
  constructor
  · rw [hgiven]
    refine h.held.release fun j z k hz hk => ?_
    rw [List.getElem?_map] at hz
    obtain ⟨y, hy, rfl⟩ := Option.map_eq_some_iff.mp hz
    split at hk
    · obtain ⟨hzero, hk⟩ := portOwner_some.mp hk
      exact absurd hzero.symm hk
    · rename_i hne
      rw [if_neg hne]
      refine ⟨?_, hy⟩
      rintro rfl
      exact hne (portOwner_some.mp hk).1
  · rw [hgiven]
    refine h.placed.release fun j z k hz hk hkm => ?_
    have hne : z.ifNum ≠ m := fun hnum => hkm ((portOwner_some.mp hk).1.symm.trans hnum)
    rw [List.getElem?_map, hz, Option.map_some, if_neg hne]

theorem PortTable.place (h : PortTable port hdl) {g : ℕ × List (PortStat → U32)}
    (hm : port m = some g) : ∃ x, hdl[g.1]? = some x ∧ portOwner x = some m ∧
      x.stats = portSum g.2 := by
  have hgiven : portGiven port m = some (g.1, portSum g.2) := by
    unfold portGiven
    rw [hm]
    rfl
  obtain ⟨i, x, hx, hown⟩ := h.placed m (by rw [hgiven]; rfl)
  have hvalue := Option.some.inj ((h.held.held i x m hx hown).symm.trans hgiven)
  obtain rfl := congrArg Prod.fst hvalue
  exact ⟨x, hx, hown, congrArg Prod.snd hvalue⟩

theorem PortTable.sync (h : PortTable port hdl) (report : PortStat → U32)
    (hx : hdl[p]? = some x) (hused : x.ifNum ≠ 0) :
    PortTable (fun n => (port n).map (credit p report))
      (hdl.set p { x with stats := fun k => x.stats k + (report k).setWidth 64 }) := by
  have hown : portOwner x = some x.ifNum := portOwner_some.mpr ⟨rfl, hused⟩
  obtain ⟨g, hg, hpair⟩ := Option.map_eq_some_iff.mp (h.held.held p x _ hx hown)
  obtain ⟨rfl, hsum⟩ := Prod.mk.inj hpair
  have hgiven : portGiven (fun n => (port n).map (credit g.1 report)) =
      Function.update (portGiven port) x.ifNum
        (some (g.1, fun k => x.stats k + (report k).setWidth 64)) := by
    funext n
    unfold portGiven
    dsimp only
    by_cases hn : n = x.ifNum
    · subst hn
      rw [Function.update_self, hg, Option.map_some, Option.map_some]
      unfold credit
      rw [if_pos rfl, portSum_snoc, hsum]
    · rw [Function.update_of_ne hn]
      cases hport : port n with
      | none => rfl
      | some g' =>
        have hother : g'.1 ≠ g.1 := by
          intro hsame
          obtain ⟨y, hy, hyn, -⟩ := h.place hport
          rw [hsame, hx] at hy
          obtain rfl := Option.some.inj hy
          exact hn (Option.some.inj (hyn.symm.trans hown))
        rw [Option.map_some, Option.map_some]
        unfold credit
        rw [if_neg hother]
        rfl
  have hown' : portOwner { x with stats := fun k => x.stats k + (report k).setWidth 64 } =
      some x.ifNum := hown
  constructor
  · rw [hgiven]
    exact h.held.assign hown' fun j z hz hzn => h.held.once j g.1 z x _ hz hx hzn hown
  · rw [hgiven]
    exact h.placed.assign hx (fun k hk => Option.some.inj (hk.symm.trans hown)) hown'

theorem PortTable.unclaimed (h : PortTable port hdl) (report : PortStat → U32)
    (hx : ∀ x, hdl[p]? = some x → x.ifNum = 0) :
    (fun n => (port n).map (credit p report)) = port := by
  funext n
  cases hport : port n with
  | none => rfl
  | some g =>
    have hother : g.1 ≠ p := by
      rintro rfl
      obtain ⟨y, hy, hyn, -⟩ := h.place hport
      obtain ⟨hnum, hn⟩ := portOwner_some.mp hyn
      exact hn (hnum.symm.trans (hx y hy))
    rw [Option.map_some]
    unfold credit
    rw [if_neg hother]

end Ports

end NssDrv.InterfaceSlots

import Mathlib.Data.BitVec
import Mathlib.Logic.Function.Basic
import NssDrv.HlosInterface
import NssDrv.TransitionRuns

set_option autoImplicit false

/-!
# PPPoE statistics

The messages of `nss_pppoe.c` that change statistics, and what a statistics file
shows of these. The table of exceptions has a row for each session of each
interface, both numbered from one.
-/
namespace NssDrv.PppoeStats
open HlosInterface TransitionRuns

def NSS_PPPOE_NUM_SESSION_PER_INTERFACE : ℕ := 4
def NSS_PPPOE_EXCEPTION_EVENT_MAX : ℕ := 5

def NSS_PPPOE_RX_CONN_STATS_SYNC : U32 := 2
def NSS_PPPOE_RX_NODE_STATS_SYNC : U32 := 3
def NSS_PPPOE_RX_SESSION_RESET : U32 := 4
def NSS_PPPOE_MAX : U32 := 5

def sizeofNssCmnMsg : U32 := 28
def sizeofNssPppoeMsg : U32 := 64

inductive NodeStat where
  | rxPkts | rxBytes | rxDropped | txPkts | txBytes
  deriving DecidableEq

inductive PppoeStat where
  | sessionCreateRequests | sessionCreateFailures | sessionDestroyRequests | sessionDestroyMisses
  deriving DecidableEq

abbrev Exceptions := Fin NSS_PPPOE_EXCEPTION_EVENT_MAX → BitVec 64

/-- The statistics in `nss_top_main`, those of the node being the row of
    `NSS_PPPOE_RX_INTERFACE`. `outside` is set where the table of exceptions is left. -/
structure Stats where
  statsNode : NodeStat → BitVec 64
  statsPppoe : PppoeStat → BitVec 64
  statsIfExceptionPppoe : Fin (NSS_MAX_PHYSICAL_INTERFACES + 1) →
    Fin (NSS_PPPOE_NUM_SESSION_PER_INTERFACE + 1) → Exceptions
  outside : Bool

structure ConnStatsSyncMsg where
  exceptionEventsPppoe : Fin NSS_PPPOE_EXCEPTION_EVENT_MAX → U32
  index : U32
  interfaceNum : U32

structure NodeStatsSyncMsg where
  rxPackets : U32
  rxBytes : U32
  rxDropped : U32
  txPackets : U32
  txBytes : U32
  pppoeSessionCreateRequests : U32
  pppoeSessionCreateFailures : U32
  pppoeSessionDestroyRequests : U32
  pppoeSessionDestroyMisses : U32

structure SessionResetMsg where
  interface : U32
  sessionIndex : U32

/-- The type says which of the three is meant. -/
structure PppoeMsg where
  type : U32
  len : U32
  connStatsSync : ConnStatsSyncMsg
  nodeStatsSync : NodeStatsSyncMsg
  sessionReset : SessionResetMsg

def nssCmnGetMsgLen (m : PppoeMsg) : U32 := m.len + sizeofNssCmnMsg

def Stats.onSession (interface index : U32) (f : Exceptions → Exceptions) (s : Stats) : Stats :=
  if interface.toNat ≤ NSS_MAX_PHYSICAL_INTERFACES ∧
      index.toNat ≤ NSS_PPPOE_NUM_SESSION_PER_INTERFACE then
    { s with
      statsIfExceptionPppoe := fun i k =>
        if i.val = interface.toNat ∧ k.val = index.toNat then f (s.statsIfExceptionPppoe i k)
        else s.statsIfExceptionPppoe i k }
  else { s with outside := true }

def nssPppoeSessionReset (npsr : SessionResetMsg) (s : Stats) : Stats :=
  s.onSession npsr.interface npsr.sessionIndex fun _ _ => 0

def nssPppoeExceptionStatsSync (npess : ConnStatsSyncMsg) (s : Stats) : Stats :=
  if npess.interfaceNum.toNat ≥ NSS_MAX_PHYSICAL_INTERFACES then s
  else
    s.onSession npess.interfaceNum npess.index fun row i =>
      row i + (npess.exceptionEventsPppoe i).setWidth 64

def addTo {κ : Type} [DecidableEq κ] (x : κ) (count : U32) (stats : κ → BitVec 64) : κ → BitVec 64 :=
  Function.update stats x (stats x + count.setWidth 64)

def nssPppoeNodeStatsSync (npess : NodeStatsSyncMsg) (s : Stats) : Stats :=
  { s with
    statsNode := s.statsNode
      |> addTo .rxPkts npess.rxPackets
      |> addTo .rxBytes npess.rxBytes
      |> addTo .rxDropped npess.rxDropped
      |> addTo .txPkts npess.txPackets
      |> addTo .txBytes npess.txBytes
    statsPppoe := s.statsPppoe
      |> addTo .sessionCreateRequests npess.pppoeSessionCreateRequests
      |> addTo .sessionCreateFailures npess.pppoeSessionCreateFailures
      |> addTo .sessionDestroyRequests npess.pppoeSessionDestroyRequests
      -- and again, where the misses are not added
      |> addTo .sessionDestroyRequests npess.pppoeSessionDestroyRequests }

def nssPppoeRxMsgHandler (m : PppoeMsg) (s : Stats) : Stats :=
  if m.type > NSS_PPPOE_MAX then s
  else if nssCmnGetMsgLen m > sizeofNssPppoeMsg then s
  else if m.type = NSS_PPPOE_RX_NODE_STATS_SYNC then nssPppoeNodeStatsSync m.nodeStatsSync s
  else if m.type = NSS_PPPOE_RX_CONN_STATS_SYNC then nssPppoeExceptionStatsSync m.connStatsSync s
  else if m.type = NSS_PPPOE_RX_SESSION_RESET then nssPppoeSessionReset m.sessionReset s
  else s

/-- The counters in the text of the file: those of the node, and for each interface and
    each of its sessions the exceptions. -/
structure Shown where
  node : NodeStat → BitVec 64
  pppoe : PppoeStat → BitVec 64
  session : Fin NSS_MAX_PHYSICAL_INTERFACES → Fin NSS_PPPOE_NUM_SESSION_PER_INTERFACE → Exceptions

def nssStatsPppoeRead (s : Stats) : Shown where
  node := s.statsNode
  pppoe := s.statsPppoe
  -- both loops start from one
  session j k := s.statsIfExceptionPppoe j.succ k.succ

/-- What a message is about, if the handler takes it. -/
inductive Report where
  | conn (npess : ConnStatsSyncMsg)
  | node (npess : NodeStatsSyncMsg)
  | reset (npsr : SessionResetMsg)
  | other

def PppoeMsg.report (m : PppoeMsg) : Report :=
  if m.type > NSS_PPPOE_MAX ∨ nssCmnGetMsgLen m > sizeofNssPppoeMsg then .other
  else if m.type = NSS_PPPOE_RX_NODE_STATS_SYNC then .node m.nodeStatsSync
  else if m.type = NSS_PPPOE_RX_CONN_STATS_SYNC then .conn m.connStatsSync
  else if m.type = NSS_PPPOE_RX_SESSION_RESET then .reset m.sessionReset
  else .other

/-- The exceptions that were reported for a session since it was last reset. -/
def sinceReset (interface index : ℕ) (i : Fin NSS_PPPOE_EXCEPTION_EVENT_MAX) (total : ℕ) :
    Report → ℕ
  | .conn npess =>
    if npess.interfaceNum.toNat = interface ∧ npess.index.toNat = index then
      total + (npess.exceptionEventsPppoe i).toNat
    else total
  | .reset npsr =>
    if npsr.interface.toNat = interface ∧ npsr.sessionIndex.toNat = index then 0 else total
  | _ => total

def sessionTotal (msgs : List PppoeMsg) (interface index : ℕ)
    (i : Fin NSS_PPPOE_EXCEPTION_EVENT_MAX) : ℕ :=
  (msgs.map PppoeMsg.report).foldl (sinceReset interface index i) 0

def NodeStat.field : NodeStat → NodeStatsSyncMsg → U32
  | .rxPkts => NodeStatsSyncMsg.rxPackets
  | .rxBytes => NodeStatsSyncMsg.rxBytes
  | .rxDropped => NodeStatsSyncMsg.rxDropped
  | .txPkts => NodeStatsSyncMsg.txPackets
  | .txBytes => NodeStatsSyncMsg.txBytes

def PppoeStat.field : PppoeStat → NodeStatsSyncMsg → U32
  | .sessionCreateRequests => NodeStatsSyncMsg.pppoeSessionCreateRequests
  | .sessionCreateFailures => NodeStatsSyncMsg.pppoeSessionCreateFailures
  | .sessionDestroyRequests => NodeStatsSyncMsg.pppoeSessionDestroyRequests
  | .sessionDestroyMisses => NodeStatsSyncMsg.pppoeSessionDestroyMisses

def reportedCount (field : NodeStatsSyncMsg → U32) : Report → ℕ
  | .node npess => (field npess).toNat
  | _ => 0

def nodeTotal (msgs : List PppoeMsg) (field : NodeStatsSyncMsg → U32) : ℕ :=
  ((msgs.map PppoeMsg.report).map (reportedCount field)).sum

/-- The statistics and the messages that made them. -/
structure PppoeRun where
  stats : Stats
  msgs : List PppoeMsg

def PppoeRun.receive (w : PppoeRun) (m : PppoeMsg) : PppoeRun :=
  ⟨nssPppoeRxMsgHandler m w.stats, w.msgs ++ [m]⟩

def loaded : PppoeRun := ⟨⟨fun _ => 0, fun _ => 0, fun _ _ _ => 0, false⟩, []⟩

/-- The table was not left, and all that is shown is what was reported: `total` of the
    sessions, and `count` in each field of the node's messages. -/
structure Exact (s : Stats) (total : ℕ → ℕ → Fin NSS_PPPOE_EXCEPTION_EVENT_MAX → ℕ)
    (count : (NodeStatsSyncMsg → U32) → ℕ) : Prop where
  inside : s.outside = false
  session : ∀ j k i, (nssStatsPppoeRead s).session j k i = BitVec.ofNat 64 (total (j + 1) (k + 1) i)
  node : ∀ x, (nssStatsPppoeRead s).node x = BitVec.ofNat 64 (count x.field)
  pppoe : ∀ x, (nssStatsPppoeRead s).pppoe x = BitVec.ofNat 64 (count x.field)

def PppoeRun.Exact (w : PppoeRun) : Prop :=
  PppoeStats.Exact w.stats (sessionTotal w.msgs) (nodeTotal w.msgs)

/-- Sessions are named within the table, nothing is reported for those of the last interface,
    and no session was destroyed, nor missed. -/
def Report.Fine : Report → Prop
  | .conn npess =>
    (npess.interfaceNum.toNat < NSS_MAX_PHYSICAL_INTERFACES →
      npess.index.toNat ≤ NSS_PPPOE_NUM_SESSION_PER_INTERFACE) ∧
    (npess.interfaceNum.toNat = NSS_MAX_PHYSICAL_INTERFACES → 0 < npess.index.toNat →
      npess.index.toNat ≤ NSS_PPPOE_NUM_SESSION_PER_INTERFACE → ∀ i, npess.exceptionEventsPppoe i = 0)
  | .node npess => npess.pppoeSessionDestroyRequests = 0 ∧ npess.pppoeSessionDestroyMisses = 0
  | .reset npsr =>
    npsr.interface.toNat ≤ NSS_MAX_PHYSICAL_INTERFACES ∧
      npsr.sessionIndex.toNat ≤ NSS_PPPOE_NUM_SESSION_PER_INTERFACE
  | .other => True

section Steps
variable {w : PppoeRun} {m : PppoeMsg} {s : Stats}

def Report.act : Report → Stats → Stats
  | .conn npess => nssPppoeExceptionStatsSync npess
  | .node npess => nssPppoeNodeStatsSync npess
  | .reset npsr => nssPppoeSessionReset npsr
  | .other => id

theorem handler_eq (m : PppoeMsg) (s : Stats) : nssPppoeRxMsgHandler m s = m.report.act s := by
  unfold nssPppoeRxMsgHandler PppoeMsg.report
  by_cases htype : m.type > NSS_PPPOE_MAX
  · rw [if_pos htype, if_pos (.inl htype)]
    rfl
  · by_cases hlen : nssCmnGetMsgLen m > sizeofNssPppoeMsg
    · rw [if_neg htype, if_pos hlen, if_pos (.inr hlen)]
      rfl
    · rw [if_neg htype, if_neg hlen, if_neg (not_or.mpr ⟨htype, hlen⟩)]
      split
      · rfl
      · split
        · rfl
        · split <;> rfl

theorem sessionTotal_snoc (msgs : List PppoeMsg) (m : PppoeMsg) (interface index : ℕ)
    (i : Fin NSS_PPPOE_EXCEPTION_EVENT_MAX) :
    sessionTotal (msgs ++ [m]) interface index i =
      sinceReset interface index i (sessionTotal msgs interface index i) m.report := by
  unfold sessionTotal
  rw [List.map_append, List.foldl_append]
  rfl

theorem nodeTotal_snoc (msgs : List PppoeMsg) (m : PppoeMsg) (field : NodeStatsSyncMsg → U32) :
    nodeTotal (msgs ++ [m]) field = nodeTotal msgs field + reportedCount field m.report := by
  unfold nodeTotal
  rw [List.map_append, List.map_append, List.sum_append]
  rfl

variable {total : ℕ → ℕ → Fin NSS_PPPOE_EXCEPTION_EVENT_MAX → ℕ}
  {count : (NodeStatsSyncMsg → U32) → ℕ} {npess : ConnStatsSyncMsg}

theorem ofNat_add_count (n : ℕ) (x : U32) :
    BitVec.ofNat 64 (n + x.toNat) = BitVec.ofNat 64 n + x.setWidth 64 := by
  rw [BitVec.ofNat_add, BitVec.ofNat_toNat]

theorem count_eq_zero {v : BitVec 64} {x : U32} (h : v = v + x.setWidth 64) : x = 0 := by
  bv_omega

theorem onSession_outside {interface index : U32} {f : Exceptions → Exceptions} :
    (s.onSession interface index f).outside = false ↔
      s.outside = false ∧ interface.toNat ≤ NSS_MAX_PHYSICAL_INTERFACES ∧
        index.toNat ≤ NSS_PPPOE_NUM_SESSION_PER_INTERFACE := by
  unfold Stats.onSession
  split
  · rename_i hin
    exact (and_iff_left hin).symm
  · rename_i hout
    exact iff_of_false nofun (fun hin => hout hin.2)

theorem onSession_node {interface index : U32} {f : Exceptions → Exceptions} :
    (s.onSession interface index f).statsNode = s.statsNode ∧
      (s.onSession interface index f).statsPppoe = s.statsPppoe := by
  unfold Stats.onSession
  split
  · exact ⟨rfl, rfl⟩
  · exact ⟨rfl, rfl⟩

theorem session_onSession {interface index : U32} {f : Exceptions → Exceptions}
    (hif : interface.toNat ≤ NSS_MAX_PHYSICAL_INTERFACES)
    (hidx : index.toNat ≤ NSS_PPPOE_NUM_SESSION_PER_INTERFACE) (j : Fin NSS_MAX_PHYSICAL_INTERFACES)
    (k : Fin NSS_PPPOE_NUM_SESSION_PER_INTERFACE) :
    (nssStatsPppoeRead (s.onSession interface index f)).session j k =
      if interface.toNat = j + 1 ∧ index.toNat = k + 1 then f ((nssStatsPppoeRead s).session j k)
      else (nssStatsPppoeRead s).session j k := by
  unfold Stats.onSession
  rw [if_pos ⟨hif, hidx⟩]
  change (if (j.val + 1 = interface.toNat ∧ k.val + 1 = index.toNat) then _ else _) = _
  split
  · rw [if_pos ⟨by omega, by omega⟩]
    rfl
  · rw [if_neg (by omega)]
    rfl

theorem exact_conn (h : Exact s total count) :
    Exact (nssPppoeExceptionStatsSync npess s)
      (fun interface index i => sinceReset interface index i (total interface index i) (.conn npess))
      count ↔ (Report.conn npess).Fine := by
  unfold nssPppoeExceptionStatsSync
  by_cases hif : npess.interfaceNum.toNat ≥ NSS_MAX_PHYSICAL_INTERFACES
  · -- nothing is counted, which shows where a session of the last interface is meant
    rw [if_pos hif]
    constructor
    · intro hnext
      refine ⟨fun hlt => absurd hif (by omega), fun hlast hpos hidx i => ?_⟩
      have hsession := hnext.session ⟨3, by decide⟩ ⟨npess.index.toNat - 1, by omega⟩ i
      have hmeant : npess.interfaceNum.toNat = 3 + 1 ∧
          npess.index.toNat = npess.index.toNat - 1 + 1 := ⟨hlast, by omega⟩
      rw [h.session] at hsession
      dsimp only [sinceReset] at hsession
      rw [if_pos hmeant, ofNat_add_count] at hsession
      exact count_eq_zero hsession
    · rintro ⟨-, hnone⟩
      refine ⟨h.inside, fun j k i => ?_, h.node, h.pppoe⟩
      rw [h.session]
      dsimp only [sinceReset]
      split
      · rename_i hmeant
        have hmax : NSS_MAX_PHYSICAL_INTERFACES = 4 := rfl
        have hzero := hnone (by omega) (by omega) (by omega) i
        rw [hzero]
        rfl
      · rfl
  · rw [if_neg hif]
    have hle : npess.interfaceNum.toNat ≤ NSS_MAX_PHYSICAL_INTERFACES := by omega
    constructor
    · intro hnext
      exact ⟨fun _ => (onSession_outside.mp hnext.inside).2.2, fun hlast => absurd hlast (by omega)⟩
    · rintro ⟨hidx, -⟩
      have hidx := hidx (by omega)
      refine ⟨onSession_outside.mpr ⟨h.inside, hle, hidx⟩, fun j k i => ?_, fun x => ?_, fun x => ?_⟩
      · rw [session_onSession hle hidx]
        dsimp only [sinceReset]
        split
        · rw [ofNat_add_count, ← h.session]
        · exact h.session j k i
      · exact (congrFun onSession_node.1 x).trans (h.node x)
      · exact (congrFun onSession_node.2 x).trans (h.pppoe x)

theorem exact_reset {npsr : SessionResetMsg} (h : Exact s total count) :
    Exact (nssPppoeSessionReset npsr s)
      (fun interface index i => sinceReset interface index i (total interface index i) (.reset npsr))
      count ↔ (Report.reset npsr).Fine := by
  unfold nssPppoeSessionReset
  constructor
  · exact fun hnext => (onSession_outside.mp hnext.inside).2
  · rintro ⟨hif, hidx⟩
    refine ⟨onSession_outside.mpr ⟨h.inside, hif, hidx⟩, fun j k i => ?_, fun x => ?_, fun x => ?_⟩
    · rw [session_onSession hif hidx]
      dsimp only [sinceReset]
      split
      · rfl
      · exact h.session j k i
    · exact (congrFun onSession_node.1 x).trans (h.node x)
    · exact (congrFun onSession_node.2 x).trans (h.pppoe x)

theorem node_added (npess : NodeStatsSyncMsg) (s : Stats) (x : NodeStat) :
    (nssPppoeNodeStatsSync npess s).statsNode x = s.statsNode x + (x.field npess).setWidth 64 := by
  cases x <;> rfl

/-- Of those of the sessions, the requests to destroy one get theirs twice, and the misses
    nothing. -/
theorem pppoe_added (npess : NodeStatsSyncMsg) (s : Stats) (x : PppoeStat) :
    (nssPppoeNodeStatsSync npess s).statsPppoe x =
      match x with
      | .sessionDestroyRequests => s.statsPppoe x + (x.field npess).setWidth 64 +
          (x.field npess).setWidth 64
      | .sessionDestroyMisses => s.statsPppoe x
      | _ => s.statsPppoe x + (x.field npess).setWidth 64 := by
  cases x <;> rfl

theorem exact_node {npess : NodeStatsSyncMsg} (h : Exact s total count) :
    Exact (nssPppoeNodeStatsSync npess s) total
      (fun field => count field + reportedCount field (.node npess)) ↔ (Report.node npess).Fine := by
  constructor
  · intro hnext
    have hrequests := hnext.pppoe .sessionDestroyRequests
    have hmisses := hnext.pppoe .sessionDestroyMisses
    have hold := h.pppoe
    dsimp only [nssStatsPppoeRead, reportedCount] at hrequests hmisses hold
    rw [pppoe_added, ofNat_add_count, ← hold] at hrequests hmisses
    exact ⟨count_eq_zero hrequests.symm, count_eq_zero hmisses⟩
  · rintro ⟨hrequests, hmisses⟩
    have hnode := h.node
    have hpppoe := h.pppoe
    dsimp only [nssStatsPppoeRead] at hnode hpppoe
    refine ⟨h.inside, h.session, fun x => ?_, fun x => ?_⟩
    · dsimp only [nssStatsPppoeRead, reportedCount]
      rw [node_added, ofNat_add_count, hnode]
    · dsimp only [nssStatsPppoeRead, reportedCount]
      rw [pppoe_added, ofNat_add_count, ← hpppoe]
      cases x with
      | sessionCreateRequests => rfl
      | sessionCreateFailures => rfl
      | sessionDestroyRequests =>
        dsimp only [PppoeStat.field]
        rw [hrequests]
        exact BitVec.add_zero _
      | sessionDestroyMisses =>
        dsimp only [PppoeStat.field]
        rw [hmisses]
        exact (BitVec.add_zero _).symm

/-- With one message more all is exact still, exactly where the message is fine. -/
theorem exact_receive (h : w.Exact) : (w.receive m).Exact ↔ m.report.Fine := by
  have htotal : sessionTotal (w.msgs ++ [m]) = fun interface index i =>
      sinceReset interface index i (sessionTotal w.msgs interface index i) m.report := by
    funext interface index i
    exact sessionTotal_snoc w.msgs m interface index i
  have hcount : nodeTotal (w.msgs ++ [m]) = fun field =>
      nodeTotal w.msgs field + reportedCount field m.report := by
    funext field
    exact nodeTotal_snoc w.msgs m field
  change Exact (nssPppoeRxMsgHandler m w.stats) (sessionTotal (w.msgs ++ [m]))
    (nodeTotal (w.msgs ++ [m])) ↔ _
  rw [handler_eq, htotal, hcount]
  cases m.report with
  | conn npess => exact exact_conn h
  | node npess => exact exact_node h
  | reset npsr => exact exact_reset h
  | other => exact iff_of_true h trivial

theorem loaded_exact : loaded.Exact :=
  ⟨rfl, fun _ _ _ => rfl, fun _ => rfl, fun _ => rfl⟩

end Steps

/-- All along the messages the table is not left and all that is shown is what was reported,
    exactly where every message is fine. -/
theorem pppoe_exact_iff (msgs : List PppoeMsg) :
    (∀ before, before <+: msgs → (before.foldl PppoeRun.receive loaded).Exact) ↔
      ∀ m ∈ msgs, m.report.Fine := by
  rw [foldGuard_iff PppoeRun.Exact PppoeRun.Exact (fun _ h => h)
    (fun _ _ h _ hfine => (exact_receive h).mpr hfine)
    (fun _ _ h _ hnext => (exact_receive h).mp hnext) loaded_exact (FoldGuard.always msgs loaded)]
  generalize loaded = w
  induction msgs generalizing w with
  | nil => exact iff_of_true trivial nofun
  | cons m msgs ih =>
    rw [List.forall_mem_cons, ← ih (w.receive m)]
    rfl

def emptyMsg (type : U32) : PppoeMsg :=
  ⟨type, 36, ⟨fun _ => 0, 1, 1⟩, ⟨0, 0, 0, 0, 0, 0, 0, 0, 0⟩, ⟨1, 1⟩⟩

def lastInterfaceMsg : PppoeMsg :=
  { emptyMsg NSS_PPPOE_RX_CONN_STATS_SYNC with connStatsSync := ⟨fun _ => 1, 1, 4⟩ }

def missMsg : PppoeMsg :=
  { emptyMsg NSS_PPPOE_RX_NODE_STATS_SYNC with nodeStatsSync := ⟨0, 0, 0, 0, 0, 0, 0, 0, 1⟩ }

def farResetMsg : PppoeMsg :=
  { emptyMsg NSS_PPPOE_RX_SESSION_RESET with sessionReset := ⟨1, 100⟩ }

theorem pppoe_not_exact :
    (¬ ∀ before, before <+: [lastInterfaceMsg] →
      (before.foldl PppoeRun.receive loaded).Exact) ∧
    (¬ ∀ before, before <+: [missMsg] → (before.foldl PppoeRun.receive loaded).Exact) ∧
    ¬ ∀ before, before <+: [farResetMsg] → (before.foldl PppoeRun.receive loaded).Exact := by
  have hfine : ∀ m, (∀ before, before <+: [m] → (before.foldl PppoeRun.receive loaded).Exact) →
      m.report.Fine := fun m hall => (exact_receive loaded_exact).mp (hall [m] (List.prefix_refl _))
  refine ⟨fun hall => ?_, fun hall => ?_, fun hall => ?_⟩
  · have hlast := (hfine _ hall).2 rfl (by decide) (by decide) ⟨0, by decide⟩
    exact absurd hlast (by decide)
  · exact absurd (hfine _ hall).2 (by decide)
  · exact absurd (hfine _ hall).2 (by decide)

end NssDrv.PppoeStats

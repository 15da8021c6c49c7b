import Mathlib.Algebra.BigOperators.Group.List.Basic
import Mathlib.Algebra.Order.BigOperators.Group.List
import Mathlib.Data.BitVec
import NssDrv.ReceiveDelivery

set_option autoImplicit false

/-!
# Connection statistics

The messages by which the firmware reports connections of `nss_ipv4.c` and
`nss_ipv6.c`. Both families add the same counters; a connection and a message
of theirs have different sizes.
-/
namespace NssDrv.ConnectionSync
open HlosInterface SkbMemory ReceivePath ReceiveDelivery

inductive Family where
  | ipv4
  | ipv6
  deriving DecidableEq

/-- `NSS_STATS_IPV4_ACCELERATED_*` and `NSS_STATS_IPV6_ACCELERATED_*`. -/
inductive AcceleratedStat where
  | rxPkts
  | rxBytes
  | txPkts
  | txBytes
  deriving DecidableEq

/-- What the driver reads of a `nss_ipv4_conn_sync` or a `nss_ipv6_conn_sync`. -/
structure ConnSync where
  flowRxPacketCount : U32
  flowRxByteCount : U32
  flowTxPacketCount : U32
  flowTxByteCount : U32
  returnRxPacketCount : U32
  returnRxByteCount : U32
  returnTxPacketCount : U32
  returnTxByteCount : U32
  deriving DecidableEq

/-- `connSync` is the memory behind the header, as far as anyone reads it. -/
structure ConnSyncMany where
  size : U16
  count : U16
  connSync : ℕ → ConnSync

abbrev Stats := AcceleratedStat → BitVec 64

/-- The statistics of a family, and the entries of batches that were read. -/
structure Account where
  stats : Stats
  read : List ℕ

/-- Both counts are added in 32 bits. -/
def ConnSync.sum (nirs : ConnSync) : AcceleratedStat → U32
  | .rxPkts => nirs.flowRxPacketCount + nirs.returnRxPacketCount
  | .rxBytes => nirs.flowRxByteCount + nirs.returnRxByteCount
  | .txPkts => nirs.flowTxPacketCount + nirs.returnTxPacketCount
  | .txBytes => nirs.flowTxByteCount + nirs.returnTxByteCount

def connSyncUpdate (nirs : ConnSync) (stats : Stats) : Stats :=
  fun k => stats k + (nirs.sum k).setWidth 64

namespace Family

def connSyncSize : Family → U32
  | ipv4 => 132
  | ipv6 => 140

/-- The sizes of `nss_ipv4_msg` and `nss_ipv6_msg`, where a batch has no entry. -/
def msgSize : Family → U32
  | ipv4 => 796
  | ipv6 => 692

/-- `NSS_IPV4_RX_INTERFACE` and `NSS_IPV6_RX_INTERFACE`. -/
def rxInterface : Family → U16
  | ipv4 => 93
  | ipv6 => 95

end Family

/-- The sanity check for the stats count. -/
def countFits (f : Family) (nicsm : ConnSyncMany) : Bool :=
  !(nicsm.size.setWidth 32).ule (nicsm.count.setWidth 32 * f.connSyncSize)

def connSyncEntry (nicsm : ConnSyncMany) (a : Account) (i : ℕ) : Account :=
  ⟨connSyncUpdate (nicsm.connSync i) a.stats, a.read ++ [i]⟩

def connSyncManyUpdate (f : Family) (nicsm : ConnSyncMany) (a : Account) : Account :=
  if countFits f nicsm then (List.range nicsm.count.toNat).foldl (connSyncEntry nicsm) a else a

def nssIpv4DriverConnSyncUpdate := connSyncUpdate
def nssIpv6DriverConnSyncUpdate := connSyncUpdate
def nssIpv4DriverConnSyncManyUpdate := connSyncManyUpdate .ipv4
def nssIpv6DriverConnSyncManyUpdate := connSyncManyUpdate .ipv6

inductive SyncMsg where
  | connStats (f : Family) (nirs : ConnSync)
  | connStatsMany (f : Family) (nicsm : ConnSyncMany)

/-- `stats_ipv4` and `stats_ipv6`. -/
abbrev Accounts := Family → Account

def SyncMsg.update (a : Accounts) : SyncMsg → Accounts
  | .connStats .ipv4 nirs =>
    Function.update a .ipv4 { a .ipv4 with stats := nssIpv4DriverConnSyncUpdate nirs (a .ipv4).stats }
  | .connStats .ipv6 nirs =>
    Function.update a .ipv6 { a .ipv6 with stats := nssIpv6DriverConnSyncUpdate nirs (a .ipv6).stats }
  | .connStatsMany .ipv4 nicsm =>
    Function.update a .ipv4 (nssIpv4DriverConnSyncManyUpdate nicsm (a .ipv4))
  | .connStatsMany .ipv6 nicsm =>
    Function.update a .ipv6 (nssIpv6DriverConnSyncManyUpdate nicsm (a .ipv6))

def run (msgs : List SyncMsg) (a : Accounts) : Accounts := msgs.foldl SyncMsg.update a

namespace ConnSync

def flow (nirs : ConnSync) : AcceleratedStat → U32
  | .rxPkts => nirs.flowRxPacketCount
  | .rxBytes => nirs.flowRxByteCount
  | .txPkts => nirs.flowTxPacketCount
  | .txBytes => nirs.flowTxByteCount

def back (nirs : ConnSync) : AcceleratedStat → U32
  | .rxPkts => nirs.returnRxPacketCount
  | .rxBytes => nirs.returnRxByteCount
  | .txPkts => nirs.returnTxPacketCount
  | .txBytes => nirs.returnTxByteCount

/-- What a connection reports, and what of it fits into 32 bits. -/
def total (nirs : ConnSync) (k : AcceleratedStat) : ℕ := (nirs.flow k).toNat + (nirs.back k).toNat

def added (nirs : ConnSync) (k : AcceleratedStat) : ℕ := nirs.total k % 2 ^ 32

/-- No count carries out of 32 bits. -/
def NoCarry (nirs : ConnSync) : Prop := ∀ k, nirs.total k < 2 ^ 32

end ConnSync

def ConnSyncMany.conns (nicsm : ConnSyncMany) : List ConnSync :=
  (List.range nicsm.count.toNat).map nicsm.connSync

def SyncMsg.reported (f : Family) : SyncMsg → List ConnSync
  | .connStats g nirs => if g = f then [nirs] else []
  | .connStatsMany g nicsm => if g = f then nicsm.conns else []

def reported (f : Family) (msgs : List SyncMsg) : List ConnSync := msgs.flatMap (SyncMsg.reported f)

def totals (k : AcceleratedStat) (conns : List ConnSync) : ℕ := (conns.map (·.total k)).sum

def Counted (msgs : List SyncMsg) (a b : Accounts) : Prop :=
  ∀ f k, ∀ conns : List ConnSync, conns.Perm (reported f msgs) →
    (b f).stats k = (a f).stats k + BitVec.ofNat 64 (totals k conns)

/-- The message is counted exactly: nothing carries where it is taken, and
    nothing is reported where it is not. -/
def Exact : SyncMsg → Prop
  | .connStats _ nirs => nirs.NoCarry
  | .connStatsMany f nicsm =>
    ∀ nirs ∈ nicsm.conns, if countFits f nicsm then nirs.NoCarry else ∀ k, nirs.total k = 0

theorem connSyncUpdate_stat (nirs : ConnSync) (stats : Stats) (k : AcceleratedStat) :
    connSyncUpdate nirs stats k = stats k + BitVec.ofNat 64 (nirs.added k) := by
  have hwidth : ∀ x y : U32,
      (x + y).setWidth 64 = BitVec.ofNat 64 ((x.toNat + y.toNat) % 2 ^ 32) := by
    intro x y
    apply BitVec.eq_of_toNat_eq
    rw [BitVec.toNat_setWidth, BitVec.toNat_add, BitVec.toNat_ofNat]
  cases k <;> exact congrArg (_ + ·) (hwidth _ _)

def addeds (k : AcceleratedStat) (conns : List ConnSync) : ℕ := (conns.map (·.added k)).sum

theorem entries_stats {nicsm : ConnSyncMany} (l : List ℕ) (a : Account) (k : AcceleratedStat) :
    (l.foldl (connSyncEntry nicsm) a).stats k =
      a.stats k + BitVec.ofNat 64 (addeds k (l.map nicsm.connSync)) := by
  induction l generalizing a with
  | nil => exact (BitVec.add_zero _).symm
  | cons i l ih =>
    rw [List.foldl_cons, ih]
    show connSyncUpdate (nicsm.connSync i) a.stats k + _ = _
    rw [connSyncUpdate_stat, BitVec.add_assoc, ← BitVec.ofNat_add]
    rfl

theorem entries_read (nicsm : ConnSyncMany) (l : List ℕ) (a : Account) :
    (l.foldl (connSyncEntry nicsm) a).read = a.read ++ l := by
  induction l generalizing a with
  | nil => exact (List.append_nil _).symm
  | cons i l ih =>
    rw [List.foldl_cons, ih]
    exact List.append_assoc a.read [i] l

/-- The connections of a message that the driver takes. -/
def SyncMsg.taken (f : Family) : SyncMsg → List ConnSync
  | .connStats g nirs => if g = f then [nirs] else []
  | .connStatsMany g nicsm => if g = f ∧ countFits g nicsm then nicsm.conns else []

theorem manyUpdate_stats (f : Family) (nicsm : ConnSyncMany) (a : Account) (k : AcceleratedStat) :
    (connSyncManyUpdate f nicsm a).stats k =
      a.stats k + BitVec.ofNat 64 (addeds k (if countFits f nicsm then nicsm.conns else [])) := by
  unfold connSyncManyUpdate
  by_cases hfits : countFits f nicsm = true
  · rw [if_pos hfits, if_pos hfits]
    exact entries_stats _ a k
  · rw [if_neg hfits, if_neg hfits]
    exact (BitVec.add_zero _).symm

theorem singleton_stats (nirs : ConnSync) (stats : Stats) (k : AcceleratedStat) :
    connSyncUpdate nirs stats k = stats k + BitVec.ofNat 64 (addeds k [nirs]) := by
  rw [connSyncUpdate_stat]
  rfl

theorem update_stats (m : SyncMsg) (a : Accounts) (f : Family) (k : AcceleratedStat) :
    (m.update a f).stats k = (a f).stats k + BitVec.ofNat 64 (addeds k (m.taken f)) := by
  have hzero : ∀ x : BitVec 64, x = x + BitVec.ofNat 64 (addeds k []) := fun x =>
    (BitVec.add_zero x).symm
  have hmany : ∀ g nicsm, (connSyncManyUpdate g nicsm (a g)).stats k = (a g).stats k +
      BitVec.ofNat 64 (addeds k ((SyncMsg.connStatsMany g nicsm).taken g)) := by
    intro g nicsm
    rw [manyUpdate_stats]
    simp [SyncMsg.taken]
  cases m with
  | connStats g nirs =>
    cases g <;> cases f
    · exact singleton_stats nirs _ k
    · exact hzero _
    · exact hzero _
    · exact singleton_stats nirs _ k
  | connStatsMany g nicsm =>
    cases g <;> cases f
    · exact hmany .ipv4 nicsm
    · exact hzero _
    · exact hzero _
    · exact hmany .ipv6 nicsm

theorem added_le (nirs : ConnSync) (k : AcceleratedStat) : nirs.added k ≤ nirs.total k :=
  Nat.mod_le _ _

theorem total_lt (nirs : ConnSync) (k : AcceleratedStat) : nirs.total k < 2 ^ 33 := by
  have hflow := (nirs.flow k).isLt
  have hback := (nirs.back k).isLt
  unfold ConnSync.total
  omega

theorem added_eq_total {nirs : ConnSync} {k : AcceleratedStat} :
    nirs.added k = nirs.total k ↔ nirs.total k < 2 ^ 32 := by
  unfold ConnSync.added
  omega

theorem addeds_le (k : AcceleratedStat) (conns : List ConnSync) : addeds k conns ≤ totals k conns := by
  induction conns with
  | nil => exact Nat.le_refl 0
  | cons nirs conns ih => exact Nat.add_le_add (added_le nirs k) ih

theorem totals_le (k : AcceleratedStat) (conns : List ConnSync) :
    totals k conns ≤ conns.length * 2 ^ 33 := by
  induction conns with
  | nil => exact Nat.le_refl 0
  | cons nirs conns ih =>
    have hlt := total_lt nirs k
    show nirs.total k + totals k conns ≤ (conns.length + 1) * 2 ^ 33
    omega

theorem addeds_eq_totals {k : AcceleratedStat} {conns : List ConnSync} :
    addeds k conns = totals k conns ↔ ∀ nirs ∈ conns, nirs.total k < 2 ^ 32 := by
  induction conns with
  | nil => simp [addeds, totals]
  | cons nirs conns ih =>
    have hone := added_le nirs k
    have hrest := addeds_le k conns
    have hsplit : addeds k (nirs :: conns) = totals k (nirs :: conns) ↔
        nirs.added k = nirs.total k ∧ addeds k conns = totals k conns := by
      show nirs.added k + addeds k conns = nirs.total k + totals k conns ↔ _
      omega
    rw [hsplit, ih, added_eq_total, List.forall_mem_cons]

theorem totals_eq_zero {k : AcceleratedStat} {conns : List ConnSync} :
    totals k conns = 0 ↔ ∀ nirs ∈ conns, nirs.total k = 0 := by
  induction conns with
  | nil => simp [totals]
  | cons nirs conns ih =>
    rw [List.forall_mem_cons, ← ih]
    exact Nat.add_eq_zero_iff

theorem ofNat_inj {m n : ℕ} (hm : m < 2 ^ 49) (hn : n < 2 ^ 49) :
    BitVec.ofNat 64 m = BitVec.ofNat 64 n ↔ m = n := by
  refine ⟨fun h => ?_, fun h => h ▸ rfl⟩
  have h' := congrArg BitVec.toNat h
  rw [BitVec.toNat_ofNat, BitVec.toNat_ofNat] at h'
  omega

theorem reported_length (f : Family) (m : SyncMsg) : (m.reported f).length < 2 ^ 16 := by
  cases m with
  | connStats g nirs =>
    show (if g = f then [nirs] else []).length < 2 ^ 16
    split
    · exact Nat.one_lt_two_pow (by decide)
    · exact Nat.two_pow_pos 16
  | connStatsMany g nicsm =>
    show (if g = f then nicsm.conns else []).length < 2 ^ 16
    split
    · rw [ConnSyncMany.conns, List.length_map, List.length_range]
      exact nicsm.count.isLt
    · exact Nat.two_pow_pos 16

theorem reported_totals (f : Family) (m : SyncMsg) (k : AcceleratedStat) :
    totals k (m.reported f) < 2 ^ 49 := by
  have hle := totals_le k (m.reported f)
  have hlength := reported_length f m
  omega

theorem taken_exact_iff (m : SyncMsg) :
    (∀ f k, BitVec.ofNat 64 (addeds k (m.taken f)) = BitVec.ofNat 64 (totals k (m.reported f))) ↔
      Exact m := by
  have hbound : ∀ f k, addeds k (m.taken f) < 2 ^ 49 := by
    intro f k
    have hreported := reported_totals f m k
    cases m with
    | connStats g nirs => exact (addeds_le k _).trans_lt hreported
    | connStatsMany g nicsm =>
      show addeds k (if g = f ∧ countFits g nicsm then nicsm.conns else []) < 2 ^ 49
      split
      · rename_i htaken
        rw [SyncMsg.reported, if_pos htaken.1] at hreported
        exact (addeds_le k _).trans_lt hreported
      · exact Nat.two_pow_pos 49
  have hnat : (∀ f k, BitVec.ofNat 64 (addeds k (m.taken f)) =
      BitVec.ofNat 64 (totals k (m.reported f))) ↔
        ∀ f k, addeds k (m.taken f) = totals k (m.reported f) :=
    forall_congr' fun f => forall_congr' fun k => ofNat_inj (hbound f k) (reported_totals f m k)
  rw [hnat]
  cases m with
  | connStats g nirs =>
    refine ⟨fun h k => ?_, fun h f k => ?_⟩
    · have hg := h g k
      rw [SyncMsg.taken, SyncMsg.reported, if_pos rfl] at hg
      exact addeds_eq_totals.mp hg nirs List.mem_cons_self
    · rw [SyncMsg.taken, SyncMsg.reported]
      split
      · apply addeds_eq_totals.mpr
        intro c hc
        obtain rfl := List.mem_singleton.mp hc
        exact h k
      · rfl
  | connStatsMany g nicsm =>
    by_cases hfits : countFits g nicsm = true
    · have hexact : Exact (.connStatsMany g nicsm) ↔ ∀ nirs ∈ nicsm.conns, nirs.NoCarry := by
        simp [Exact, hfits]
      rw [hexact]
      refine ⟨fun h nirs hnirs k => ?_, fun h f k => ?_⟩
      · have hg := h g k
        rw [SyncMsg.taken, SyncMsg.reported, if_pos rfl, if_pos ⟨rfl, hfits⟩] at hg
        exact addeds_eq_totals.mp hg nirs hnirs
      · rw [SyncMsg.taken, SyncMsg.reported]
        by_cases hgf : g = f
        · rw [if_pos hgf, if_pos ⟨hgf, hfits⟩]
          exact addeds_eq_totals.mpr fun nirs hnirs => h nirs hnirs k
        · rw [if_neg hgf, if_neg fun h => hgf h.1]
          rfl
    · have hexact : Exact (.connStatsMany g nicsm) ↔
          ∀ nirs ∈ nicsm.conns, ∀ k, nirs.total k = 0 := by
        simp [Exact, hfits]
      rw [hexact]
      have hnone : ∀ f, SyncMsg.taken f (.connStatsMany g nicsm) = [] := fun f =>
        if_neg fun h => hfits h.2
      refine ⟨fun h nirs hnirs k => ?_, fun h f k => ?_⟩
      · have hg := h g k
        rw [hnone, SyncMsg.reported, if_pos rfl] at hg
        exact totals_eq_zero.mp hg.symm nirs hnirs
      · rw [hnone, SyncMsg.reported]
        split
        · exact (totals_eq_zero.mpr fun nirs hnirs => h nirs hnirs k).symm
        · rfl

theorem totals_perm {k : AcceleratedStat} {conns conns' : List ConnSync} (h : conns.Perm conns') :
    totals k conns = totals k conns' := (h.map _).sum_eq

theorem totals_append (k : AcceleratedStat) (conns conns' : List ConnSync) :
    totals k (conns ++ conns') = totals k conns + totals k conns' := by
  unfold totals
  rw [List.map_append, List.sum_append]

theorem counted_iff {msgs : List SyncMsg} {a b : Accounts} :
    Counted msgs a b ↔
      ∀ f k, (b f).stats k = (a f).stats k + BitVec.ofNat 64 (totals k (reported f msgs)) := by
  refine ⟨fun h f k => h f k _ (.refl _), fun h f k conns hconns => ?_⟩
  rw [h f k, totals_perm hconns]

theorem counted_cons {m : SyncMsg} {msgs : List SyncMsg} {a b : Accounts}
    (hm : Counted [m] a (m.update a)) : Counted (m :: msgs) a b ↔ Counted msgs (m.update a) b := by
  rw [counted_iff] at hm
  rw [counted_iff, counted_iff]
  apply forall_congr'
  intro f
  apply forall_congr'
  intro k
  have hsplit : totals k (reported f (m :: msgs)) =
      totals k (reported f [m]) + totals k (reported f msgs) := by
    rw [← totals_append]
    simp [reported]
  rw [hm f k, hsplit, BitVec.ofNat_add, BitVec.add_assoc]

theorem counted_one (m : SyncMsg) (a : Accounts) : Counted [m] a (m.update a) ↔ Exact m := by
  rw [counted_iff, ← taken_exact_iff]
  apply forall_congr'
  intro f
  apply forall_congr'
  intro k
  rw [update_stats, show reported f [m] = m.reported f from List.append_nil _, BitVec.add_right_inj]

/-- The statistics are exact all along a sequence of messages if and only if
    each message is counted exactly. -/
theorem counted_iff_exact (msgs : List SyncMsg) (a : Accounts) :
    (∀ pre, pre <+: msgs → Counted pre a (run pre a)) ↔ ∀ m ∈ msgs, Exact m := by
  induction msgs generalizing a with
  | nil =>
    refine ⟨fun _ => nofun, fun _ pre hpre => ?_⟩
    obtain rfl := List.prefix_nil.mp hpre
    exact counted_iff.mpr fun f k => (BitVec.add_zero _).symm
  | cons m msgs ih =>
    rw [List.forall_mem_cons, ← ih (m.update a), ← counted_one m a]
    refine ⟨fun h => ?_, fun ⟨hm, h⟩ pre hpre => ?_⟩
    · have hm := h [m] ⟨msgs, rfl⟩
      refine ⟨hm, fun pre hpre => ?_⟩
      exact (counted_cons hm).mp (h (m :: pre) (List.prefix_cons_inj m |>.mpr hpre))
    · cases pre with
      | nil => exact counted_iff.mpr fun f k => (BitVec.add_zero _).symm
      | cons m' pre =>
        obtain ⟨rfl, hrest⟩ := List.cons_prefix_cons.mp hpre
        exact (counted_cons hm).mpr (h pre hrest)

def longFlow : ConnSync := ⟨0, 0x80000000, 0, 0, 0, 0x80000000, 0, 0⟩

theorem counted_not : ¬ Counted [.connStats .ipv4 longFlow] (fun _ => ⟨fun _ => 0, []⟩)
    (run [.connStats .ipv4 longFlow] fun _ => ⟨fun _ => 0, []⟩) := by
  intro h
  have hexact := (counted_one _ _).mp h
  exact absurd (hexact .rxBytes) (by decide)

/-! ## What a received batch lets the driver read -/

/-- What follows the header of a message for this driver. -/
structure SyncBody where
  type : U32
  connStats : ConnSync
  connStatsMany : ConnSyncMany

def NSS_IPV4_RX_CONN_STATS_SYNC_MSG : U32 := 3
def NSS_IPV4_TX_CONN_STATS_SYNC_MANY_MSG : U32 := 7
def NSS_IPV4_MAX_MSG_TYPES : U32 := 8

def nssCmnGetMsgLen (ncm : NssCmnMsg) : U32 := ncm.len + BitVec.ofNat 32 NSS_CMN_MSG_SIZE

/-- The handler up to the callback. The statistics of the node are others. -/
def rxMsgHandler (f : Family) (ncm : NssCmnMsg) (msg : SyncBody) (a : Account) : Account :=
  if msg.type ≥ NSS_IPV4_MAX_MSG_TYPES then a
  else if nssCmnGetMsgLen ncm > f.msgSize then a
  else if msg.type = NSS_IPV4_RX_CONN_STATS_SYNC_MSG then
    { a with stats := connSyncUpdate msg.connStats a.stats }
  else if msg.type = NSS_IPV4_TX_CONN_STATS_SYNC_MANY_MSG then
    connSyncManyUpdate f msg.connStatsMany a
  else a

def nssIpv4RxMsgHandler := rxMsgHandler .ipv4
def nssIpv6RxMsgHandler := rxMsgHandler .ipv6

/-- A message that arrives in a buffer, where both handlers are registered. -/
def nssCoreHandleNssStatusPkt (nbuf : Skb) (msg : SyncBody) (a : Accounts) : Accounts :=
  if !accepted nbuf then a
  else if nbuf.ncm.interface = Family.rxInterface .ipv4 then
    Function.update a .ipv4 (nssIpv4RxMsgHandler nbuf.ncm msg (a .ipv4))
  else if nbuf.ncm.interface = Family.rxInterface .ipv6 then
    Function.update a .ipv6 (nssIpv6RxMsgHandler nbuf.ncm msg (a .ipv6))
  else a

/-- The bytes of a message up to an entry of its batch. -/
def entryOffset (f : Family) (i : ℕ) : ℕ := NSS_CMN_MSG_SIZE + 8 + i * f.connSyncSize.toNat

structure IsMany (f : Family) (nbuf : Skb) (msg : SyncBody) : Prop where
  version : nbuf.ncm.version.toNat = NSS_HLOS_MESSAGE_VERSION
  interface : nbuf.ncm.interface = f.rxInterface
  type : msg.type = NSS_IPV4_TX_CONN_STATS_SYNC_MANY_MSG

/-- All entries have been delivered. -/
def Present (f : Family) (nbuf : Skb) (nicsm : ConnSyncMany) : Prop :=
  entryOffset f nicsm.count.toNat ≤ messageArea nbuf

/-- The lengths that the driver looks at: that of the message, against the
    buffer and the largest message, and that of the batch. -/
def LengthsPass (f : Family) (nbuf : Skb) (nicsm : ConnSyncMany) : Prop :=
  nbuf.ncm.len ≤ nbuf.len ∧ nssCmnGetMsgLen nbuf.ncm ≤ f.msgSize ∧ countFits f nicsm = true

/-- The entries that were read are in the message, and where all of them are,
    all were read and counted. -/
def ReadsWhatCame (f : Family) (nbuf : Skb) (nicsm : ConnSyncMany) (stats : Stats) (b : Account) :
    Prop :=
  (∀ i ∈ b.read, entryOffset f (i + 1) ≤ messageArea nbuf) ∧
    (Present f nbuf nicsm →
      b = (List.range nicsm.count.toNat).foldl (connSyncEntry nicsm) ⟨stats, []⟩)

section Batch
variable {f : Family} {nbuf : Skb} {msg : SyncBody} {a : Accounts}

theorem many_dispatched (h : IsMany f nbuf msg) (ha : accepted nbuf = true) :
    nssCoreHandleNssStatusPkt nbuf msg a f = rxMsgHandler f nbuf.ncm msg (a f) := by
  have hinterface := h.interface
  unfold nssCoreHandleNssStatusPkt
  rw [if_neg (by simp [ha])]
  cases f with
  | ipv4 =>
    rw [if_pos hinterface, Function.update_self]
    rfl
  | ipv6 =>
    rw [if_neg (by rw [hinterface]; decide), if_pos hinterface, Function.update_self]
    rfl

theorem many_accepted (h : IsMany f nbuf msg) : accepted nbuf = true ↔ nbuf.ncm.len ≤ nbuf.len := by
  have hinterface : nbuf.ncm.interface.toNat < NSS_MAX_NET_INTERFACES := by
    rw [h.interface]
    cases f <;> decide
  simp [accepted, h.version, hinterface]

theorem many_read (h : IsMany f nbuf msg) (hpass : LengthsPass f nbuf msg.connStatsMany) :
    nssCoreHandleNssStatusPkt nbuf msg a f =
      (List.range msg.connStatsMany.count.toNat).foldl (connSyncEntry msg.connStatsMany) (a f) := by
  obtain ⟨hlen, hmsg, hfits⟩ := hpass
  rw [many_dispatched h ((many_accepted h).mpr hlen)]
  unfold rxMsgHandler
  rw [h.type, if_neg (by decide), if_neg (BitVec.not_lt.mpr hmsg), if_neg (by decide), if_pos rfl,
    connSyncManyUpdate, if_pos hfits]

theorem many_dropped (h : IsMany f nbuf msg) (hpass : ¬ LengthsPass f nbuf msg.connStatsMany) :
    nssCoreHandleNssStatusPkt nbuf msg a f = a f := by
  by_cases ha : accepted nbuf = true
  · rw [many_dispatched h ha]
    unfold rxMsgHandler
    rw [h.type, if_neg (by decide)]
    by_cases hmsg : nssCmnGetMsgLen nbuf.ncm > f.msgSize
    · rw [if_pos hmsg]
    · rw [if_neg hmsg, if_neg (by decide), if_pos rfl, connSyncManyUpdate, if_neg]
      intro hfits
      exact hpass ⟨(many_accepted h).mp ha, BitVec.not_lt.mp hmsg, hfits⟩
  · unfold nssCoreHandleNssStatusPkt
    rw [if_pos (by simpa using ha)]

theorem present_iff (nicsm : ConnSyncMany) (hcount : nicsm.count ≠ 0) :
    Present f nbuf nicsm ↔
      ∀ i ∈ List.range nicsm.count.toNat, entryOffset f (i + 1) ≤ messageArea nbuf := by
  have hpos : 0 < nicsm.count.toNat := by
    apply Nat.pos_of_ne_zero
    intro hzero
    exact hcount (BitVec.eq_of_toNat_eq hzero)
  unfold Present entryOffset
  refine ⟨fun h i hi => ?_, fun h => ?_⟩
  · have hle : (i + 1) * f.connSyncSize.toNat ≤ nicsm.count.toNat * f.connSyncSize.toNat :=
      Nat.mul_le_mul_right _ (List.mem_range.mp hi)
    omega
  · have hlast := h (nicsm.count.toNat - 1) (List.mem_range.mpr (Nat.sub_one_lt hpos.ne'))
    rwa [Nat.sub_add_cancel hpos] at hlast

/-- A batch is read as it came if and only if it is empty, or its lengths pass
    where all its entries are there and only there. -/
theorem reads_iff_present (f : Family) (nbuf : Skb) (msg : SyncBody) (stats : Family → Stats)
    (h : IsMany f nbuf msg) :
    ReadsWhatCame f nbuf msg.connStatsMany (stats f)
        (nssCoreHandleNssStatusPkt nbuf msg (fun f => ⟨stats f, []⟩) f) ↔
      msg.connStatsMany.count = 0 ∨
        (LengthsPass f nbuf msg.connStatsMany ↔ Present f nbuf msg.connStatsMany) := by
  by_cases hcount : msg.connStatsMany.count = 0
  · refine ⟨fun _ => .inl hcount, fun _ => ?_⟩
    have hsame : nssCoreHandleNssStatusPkt nbuf msg (fun f => ⟨stats f, []⟩) f = ⟨stats f, []⟩ := by
      by_cases hpass : LengthsPass f nbuf msg.connStatsMany
      · rw [many_read h hpass, hcount]
        rfl
      · exact many_dropped h hpass
    rw [hsame]
    refine ⟨nofun, fun _ => ?_⟩
    rw [hcount]
    rfl
  · rw [or_iff_right hcount]
    by_cases hpass : LengthsPass f nbuf msg.connStatsMany
    · have hread := entries_read msg.connStatsMany
        (List.range msg.connStatsMany.count.toNat) ⟨stats f, []⟩
      rw [List.nil_append] at hread
      rw [many_read h hpass, ReadsWhatCame, hread, ← present_iff _ hcount]
      exact ⟨fun hreads => iff_of_true hpass hreads.1, fun hiff => ⟨hiff.mp hpass, fun _ => rfl⟩⟩
    · rw [many_dropped h hpass]
      refine ⟨fun hreads => iff_of_false hpass fun hpresent => ?_, fun hiff => ⟨nofun, ?_⟩⟩
      · have hread := congrArg Account.read (hreads.2 hpresent)
        rw [entries_read, List.nil_append] at hread
        have hzero := congrArg List.length hread
        rw [List.length_nil, List.length_range] at hzero
        exact hcount (BitVec.eq_of_toNat_eq hzero.symm)
      · exact fun hpresent => absurd (hiff.mpr hpresent) hpass

end Batch

def linearBuf (area : ℕ) (len : U32) : Skb where
  data := 0
  tail := area
  len := BitVec.ofNat 32 area
  dataLen := 0
  frags := []
  fragList := .empty
  next := none
  ncm := ⟨0, 93, len⟩

def batch (size count : U16) : SyncBody :=
  ⟨7, ⟨0, 0, 0, 0, 0, 0, 0, 0⟩, ⟨size, count, fun _ => ⟨1, 0, 0, 0, 0, 0, 0, 0⟩⟩⟩

theorem linearBuf_many (area : ℕ) (len : U32) (size count : U16) :
    IsMany .ipv4 (linearBuf area len) (batch size count) := ⟨rfl, rfl, rfl⟩

/-- Two entries, and a message that holds them. -/
theorem reads_iff_present_two :
    ReadsWhatCame .ipv4 (linearBuf 300 272) (batch 300 2).connStatsMany (fun _ => 0)
      (nssCoreHandleNssStatusPkt (linearBuf 300 272) (batch 300 2) (fun _ => ⟨fun _ => 0, []⟩)
        .ipv4) :=
  (reads_iff_present .ipv4 _ _ (fun _ _ => 0) (linearBuf_many 300 272 300 2)).mpr
    (.inr (iff_of_true ⟨by decide, by decide, rfl⟩ (by decide : 300 ≤ 300)))

/-- Ten entries are announced in a message of 100 bytes. -/
theorem reads_outside :
    ¬ ReadsWhatCame .ipv4 (linearBuf 100 72) (batch 2000 10).connStatsMany (fun _ => 0)
      (nssCoreHandleNssStatusPkt (linearBuf 100 72) (batch 2000 10) (fun _ => ⟨fun _ => 0, []⟩)
        .ipv4) := by
  intro h
  have hpass : LengthsPass .ipv4 (linearBuf 100 72) (batch 2000 10).connStatsMany :=
    ⟨by decide, by decide, rfl⟩
  rw [many_read (linearBuf_many 100 72 2000 10) hpass, ReadsWhatCame, entries_read] at h
  exact absurd (h.1 0 (List.mem_range.mpr (by decide))) (by decide)

end NssDrv.ConnectionSync

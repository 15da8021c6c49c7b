import NssDrv.HandlerAssertions
import NssDrv.LogRead
import NssDrv.PagedText

set_option autoImplicit false

/-!
# Statistics files of tunnels

The readers of `nss_stats.c` that go through tunnels one by one: a file keeps the
number of the tunnel at which the next read begins. Every line is shorter than the
80 bytes of its buffer, and all of them together are far below `2 ^ 32` bytes.
-/
namespace NssDrv.StatsFiles
open HlosInterface LogRead PagedText
open DynamicInterface (Di nssIsDynamicInterface)
open HandlerAssertions (nssDynamicInterfaceGetType)

def NSS_DYNAMIC_INTERFACE_TYPE_CAPWAP : ℕ := 2
def NSS_DYNAMIC_INTERFACE_TYPE_802_3_REDIR : ℕ := 4
def NSS_DYNAMIC_INTERFACE_TYPE_WIFI : ℕ := 5
def NSS_GRE_REDIR_MAX_INTERFACES : ℕ := 24

abbrev Text := List Char

/-- `nss_capwap_tunnel_stats`, as far as it is shown. -/
structure CapwapTunnelStats where
  rxPackets : BitVec 64
  rxBytes : BitVec 64
  rxDropped : BitVec 64
  txPackets : BitVec 64
  txBytes : BitVec 64
  dtlsPkts : BitVec 64
  rxDupFrag : BitVec 64
  rxSegments : BitVec 64
  rxOversizeDrops : BitVec 64
  rxFragTimeoutDrops : BitVec 64
  rxQueueFullDrops : BitVec 64
  rxN2hQueueFullDrops : BitVec 64
  rxCsumDrops : BitVec 64
  rxMalformed : BitVec 64
  rxMemFailureDrops : BitVec 64
  rxFragGapDrops : BitVec 64
  txSegments : BitVec 64
  txQueueFullDrops : BitVec 64
  txMemFailureDrops : BitVec 64
  txDroppedSgRef : BitVec 64
  txDroppedVerMis : BitVec 64
  txDroppedUnalign : BitVec 64
  txDroppedHroom : BitVec 64
  txDroppedDtls : BitVec 64
  txDroppedNwireless : BitVec 64

structure GreRedirTunnelStats where
  ifNum : ℤ
  valid : Bool
  rxPackets : U32
  rxBytes : U32
  rxDropped : U32
  txPackets : U32
  txBytes : U32
  txDropped : U32

/-- `nss_wifi_if_stats`, and `nss_virt_if_stats`, which is the same. -/
structure VirtIfStats where
  rxPackets : U32
  rxBytes : U32
  rxDropped : U32
  txPackets : U32
  txBytes : U32
  txEnqueueFailed : U32
  shaperEnqueueFailed : U32

structure Tunnels where
  di : Di
  nssCapwapHdl : ℕ → Option CapwapTunnelStats
  tunStats : ℕ → GreRedirTunnelStats
  wifiHandle : ℕ → Option VirtIfStats
  virtHandle : ℕ → Option VirtIfStats

/-- `%llu`. -/
def number (x : BitVec 64) : Text := Nat.toDigits 10 x.toNat

/-- `%2d`. -/
def paddedNumber (z : ℤ) : Text := (decimal z).leftpad 2 ' '

/-- The rows of a record, one after the other, up to the last one that has a value. -/
def rowsOf (equals : String) (header : List String) (values : List Text) : List Text :=
  List.zipWith (fun name value => name.toList ++ (equals.toList ++ value ++ ['\n'])) header values

def nssStatsCapwapEncap (s : CapwapTunnelStats) : List Text :=
  rowsOf " = " ["packets", "bytes", "fragments", "drop_ref", "drop_ver", "drop_unalign",
    "drop_hroom", "drop_dtls", "drop_nwireless", "drop_qfull", "drop_memfail", "unknown"]
    [number s.txPackets, number s.txBytes, number s.txSegments, number s.txDroppedSgRef,
      number s.txDroppedVerMis, number s.txDroppedUnalign, number s.txDroppedHroom,
      number s.txDroppedDtls, number s.txDroppedNwireless, number s.txQueueFullDrops,
      number s.txMemFailureDrops]

def nssStatsCapwapDecap (s : CapwapTunnelStats) : List Text :=
  rowsOf " = " ["packets", "bytes", "DTLS_pkts", "fragments", "rx_dropped", "drop_oversize",
    "drop_frag_timeout", "drop_frag_dup", "drop_frag_gap", "drop_qfull", "drop_memfail",
    "drop_csum", "drop_malformed", "unknown"]
    [number s.rxPackets, number s.rxBytes, number s.dtlsPkts, number s.rxSegments,
      number s.rxDropped, number s.rxOversizeDrops, number s.rxFragTimeoutDrops,
      number s.rxDupFrag, number s.rxFragGapDrops,
      number s.rxQueueFullDrops ++ " (n2h = ".toList ++ number s.rxN2hQueueFullDrops ++ [')'],
      number s.rxMemFailureDrops, number s.rxCsumDrops, number s.rxMalformed]

def nssStatsGreRedir (s : GreRedirTunnelStats) : List Text :=
  rowsOf " = " ["TX Packets", "TX Bytes", "TX Drops", "RX Packets", "RX Bytes", "Rx Drops"]
    ([s.txPackets, s.txBytes, s.txDropped, s.rxPackets, s.rxBytes, s.rxDropped].map fun x =>
      number (x.setWidth 64))

/-- `nss_wifi_if_copy_stats` and `nss_virt_if_copy_stats`: nothing where there is no handle. -/
def copyStats (handle : Option VirtIfStats) : List Text :=
  match handle with
  | none => []
  | some s =>
    rowsOf "=" ["rx_packets", "rx_bytes", "rx_dropped", "tx_packets", "tx_bytes",
      "tx_enqueue_failed", "shaper_enqueue_failed"]
      ([s.rxPackets, s.rxBytes, s.rxDropped, s.txPackets, s.txBytes, s.txEnqueueFailed,
        s.shaperEnqueueFailed].map fun x => decimal x.toInt)

/-- The names of the rows begin with something else than `mark`. -/
def otherwise (mark : Char) (header : List String) : Bool :=
  header.all fun name => name.toList.head?.any (· ≠ mark)

theorem rowsOf_mark {mark : Char} {equals : String} {header : List String} {values : List Text}
    (h : otherwise mark header = true) :
    ∀ row ∈ rowsOf equals header values, ∃ c, row.head? = some c ∧ c ≠ mark := by
  intro row hrow
  obtain ⟨j, hj⟩ := List.mem_iff_getElem?.mp hrow
  obtain ⟨name, value, hname, -, rfl⟩ := List.getElem?_zipWith_eq_some.mp hj
  have hfirst := List.all_eq_true.mp h name (List.mem_of_getElem? hname)
  cases hname : name.toList with
  | nil =>
    rw [hname] at hfirst
    cases hfirst
  | cons c cs =>
    rw [hname] at hfirst
    exact ⟨c, rfl, of_decide_eq_true hfirst⟩

def capwapEntry (encap : Bool) (ifNum : ℕ) (stats : CapwapTunnelStats) : Entry '-' where
  header := "----if_num : ".toList ++ (paddedNumber ifNum ++ "----\n".toList)
  rows := if encap then nssStatsCapwapEncap stats else nssStatsCapwapDecap stats
  footer := none
  header_mark := rfl
  rows_mark := by
    cases encap with
    | true => exact rowsOf_mark rfl
    | false => exact rowsOf_mark rfl
  footer_mark := nofun
  footer_le := nofun
  footer_apart := nofun

def greRedirEntry (stats : GreRedirTunnelStats) : Entry '\n' where
  header := "\nTunnel if_num: ".toList ++ (paddedNumber stats.ifNum ++ "\n".toList)
  rows := nssStatsGreRedir stats
  footer := none
  header_mark := rfl
  rows_mark := rowsOf_mark rfl
  footer_mark := nofun
  footer_le := nofun
  footer_apart := nofun

def virtIfEntry (ifNum : ℕ) (handle : Option VirtIfStats) : Entry 'i' where
  header := "if_num ".toList ++ (decimal ifNum ++ " stats start:\n\n".toList)
  rows := copyStats handle
  footer := some ("if_num ".toList ++ (decimal ifNum ++ " stats end:\n\n".toList))
  header_mark := rfl
  rows_mark := by
    cases handle with
    | none => nofun
    | some s => exact rowsOf_mark rfl
  footer_mark := by
    rintro f ⟨⟩
    rfl
  footer_le := by
    rintro f ⟨⟩
    simp only [List.length_append, Nat.add_le_add_iff_left]
    decide
  footer_apart := by
    rintro f ⟨⟩ x y h
    simp only [List.append_assoc, List.append_cancel_left_eq] at h
    cases h

/-- A file of `nss_stats.c`: the record that is shown for a number, if any, the numbers
    that its reader goes through, and where it finds itself to be done at once. -/
structure StatsFile where
  mark : Char
  record : ℕ → Option (Entry mark)
  first : ℕ
  limit : ℕ
  past : ℕ → Bool
  past_limit : ∀ n, past n = true → limit ≤ n

structure UserBuffer where
  sz : U32
  copyToUser : ℕ → ℕ → Bool

section Reading
variable (u : UserBuffer)

def copyLine (out line : Text) : Option Text :=
  if u.copyToUser out.length line.length then some (out ++ line) else none

def readRows : List Text → Text → Option Text
  | [], out => some out
  | row :: rest, out =>
    if out.length < u.sz.toNat then
      if out.length + row.length > u.sz.toNat then some out
      else do readRows rest (← copyLine u out row)
    else some out

/-- The loop over `left` numbers from `n` on: what was copied, and the number that was
    come to. -/
def readTunnels (f : StatsFile) : ℕ → ℕ → Text → Option (Text × ℕ)
  | 0, n, out => some (out, n)
  | left + 1, n, out =>
    match f.record n with
    | none => readTunnels f left (n + 1) out
    | some e =>
      if out.length + e.header.length > u.sz.toNat then some (out, n)
      else do
        let out ← copyLine u out e.header
        let out ← readRows u e.rows out
        match e.footer with
        | none => readTunnels f left (n + 1) out
        | some footer =>
          -- `sz - bytes` in words
          if out.length > (u.sz - BitVec.ofNat 32 footer.length).toNat then some (out, n)
          else do readTunnels f left (n + 1) (← copyLine u out footer)

/-- The number that the file keeps, and what the caller gets. -/
structure ReadResult where
  index : ℕ
  ret : ℤ
  text : Text

def StatsFile.read (f : StatsFile) (index : ℕ) : ReadResult :=
  if f.past index then ⟨index, 0, []⟩
  else
    match readTunnels u f (f.limit - index) index [] with
    | none => ⟨index, -EFAULT.toInt, []⟩
    | some (out, n) => ⟨n, out.length, out⟩

end Reading

section Files
variable (s : Tunnels)

def NSS_DYNAMIC_IF_START : ℕ := 24
def NSS_MAX_DYNAMIC_INTERFACES : ℕ := 64

def maxIfNum : ℕ := NSS_DYNAMIC_IF_START + NSS_MAX_DYNAMIC_INTERFACES

def nssCapwapGetStats (ifNum : ℕ) : Option CapwapTunnelStats :=
  if nssIsDynamicInterface ifNum = false then none
  else if nssDynamicInterfaceGetType s.di ifNum ≠ NSS_DYNAMIC_INTERFACE_TYPE_CAPWAP then none
  else s.nssCapwapHdl (ifNum - NSS_DYNAMIC_IF_START)

def nssGreRedirGetStats (index : ℕ) : Option GreRedirTunnelStats :=
  if !(s.tunStats index).valid then none
  else if nssIsDynamicInterface (s.tunStats index).ifNum = false then none
  else some (s.tunStats index)

/-- `nss_stats_capwap_read`, whose loop takes `max_if_num` along. -/
def capwapFile (encap : Bool) : StatsFile where
  mark := '-'
  record ifNum :=
    if nssIsDynamicInterface ifNum = false then none
    else if nssDynamicInterfaceGetType s.di ifNum ≠ NSS_DYNAMIC_INTERFACE_TYPE_CAPWAP then none
    else (nssCapwapGetStats s ifNum).map (capwapEntry encap ifNum)
  first := NSS_DYNAMIC_IF_START
  limit := maxIfNum + 1
  past ifNum := ifNum > maxIfNum
  past_limit := fun _ => of_decide_eq_true

/-- `nss_stats_gre_redir_read`. -/
def greRedirFile : StatsFile where
  mark := '\n'
  record index := (nssGreRedirGetStats s index).map greRedirEntry
  first := 0
  limit := NSS_GRE_REDIR_MAX_INTERFACES
  past index := index ≥ NSS_GRE_REDIR_MAX_INTERFACES
  past_limit := fun _ => of_decide_eq_true

/-- `nss_stats_wifi_if_read` and `nss_stats_virt_if_read`. -/
def virtualFile (type : ℕ) (handle : ℕ → Option VirtIfStats) : StatsFile where
  mark := 'i'
  record ifNum :=
    if nssDynamicInterfaceGetType s.di ifNum ≠ type then none
    else some (virtIfEntry ifNum (handle (ifNum - NSS_DYNAMIC_IF_START)))
  first := NSS_DYNAMIC_IF_START
  limit := maxIfNum
  past ifNum := ifNum > maxIfNum
  past_limit := fun _ hpast => Nat.le_of_lt (of_decide_eq_true hpast)

def wifiIfFile : StatsFile := virtualFile s NSS_DYNAMIC_INTERFACE_TYPE_WIFI s.wifiHandle

def virtIfFile : StatsFile := virtualFile s NSS_DYNAMIC_INTERFACE_TYPE_802_3_REDIR s.virtHandle

def nssStatsCapwapRead (u : UserBuffer) (type : Bool) : ℕ → ReadResult := (capwapFile s type).read u

def nssStatsCapwapDecapRead (u : UserBuffer) : ℕ → ReadResult := nssStatsCapwapRead s u false

def nssStatsCapwapEncapRead (u : UserBuffer) : ℕ → ReadResult := nssStatsCapwapRead s u true

def nssStatsGreRedirRead (u : UserBuffer) : ℕ → ReadResult := (greRedirFile s).read u

def nssStatsWifiIfRead (u : UserBuffer) : ℕ → ReadResult := (wifiIfFile s).read u

def nssStatsVirtIfRead (u : UserBuffer) : ℕ → ReadResult := (virtIfFile s).read u

end Files

/-- Reads from the place that the one before left, up to the first that returns 0. -/
inductive Reads (f : StatsFile) (u : UserBuffer) : ℕ → List ReadResult → Prop where
  | last {index : ℕ} (h : (f.read u index).ret = 0) : Reads f u index []
  | page {index : ℕ} {rs : List ReadResult} (h : (f.read u index).ret ≠ 0)
      (rest : Reads f u (f.read u index).index rs) : Reads f u index (f.read u index :: rs)

def StatsFile.remaining (f : StatsFile) (n : ℕ) : List (Entry f.mark) :=
  (List.range' n (f.limit - n)).filterMap f.record

def StatsFile.records (f : StatsFile) : List (Entry f.mark) := f.remaining f.first

/-- Reads of an open file return no more than is asked for, come to an end, and give every
    record once and whole. -/
structure Paginates (f : StatsFile) (u : UserBuffer) : Prop where
  bounded : ∀ n, (f.read u n).ret ≤ u.sz.toNat
  complete : ∃ rs, Reads f u f.first rs ∧ rs.flatMap ReadResult.text = texts f.records

section Refinement
variable {f : StatsFile} {u : UserBuffer} {n : ℕ} {out : Text}

theorem remaining_past (f : StatsFile) (h : f.limit ≤ n) : f.remaining n = [] := by
  unfold StatsFile.remaining
  rw [Nat.sub_eq_zero_of_le h]
  rfl

theorem remaining_none (hn : n < f.limit) (h : f.record n = none) :
    f.remaining n = f.remaining (n + 1) := by
  unfold StatsFile.remaining
  rw [show f.limit - n = (f.limit - (n + 1)) + 1 by omega, List.range'_succ,
    List.filterMap_cons_none h]

theorem remaining_some (hn : n < f.limit) {e : Entry f.mark} (h : f.record n = some e) :
    f.remaining n = e :: f.remaining (n + 1) := by
  unfold StatsFile.remaining
  rw [show f.limit - n = (f.limit - (n + 1)) + 1 by omega, List.range'_succ,
    List.filterMap_cons_some h]

section Writable
variable (hall : ∀ offset length, u.copyToUser offset length = true)

include hall in
theorem copyLine_eq (out line : Text) : copyLine u out line = some (out ++ line) := by
  unfold copyLine
  rw [if_pos (hall _ _)]

include hall in
theorem readRows_eq (rows : List Text) (out : Text) :
    readRows u rows out = some (copyRows u.sz.toNat rows out) := by
  induction rows generalizing out with
  | nil => rfl
  | cons row rows ih =>
    unfold readRows copyRows
    rw [copyLine_eq hall]
    split
    · split
      · rfl
      · exact ih _
    · rfl

theorem footer_room {e : Entry f.mark} {footer : Text} (hfooter : e.footer = some footer)
    (hroom : ¬ out.length + e.header.length > u.sz.toNat) :
    (u.sz - BitVec.ofNat 32 footer.length).toNat = u.sz.toNat - footer.length := by
  have hle := e.footer_le footer hfooter
  have hlt := u.sz.isLt
  have hlength : (BitVec.ofNat 32 footer.length).toNat = footer.length := by
    rw [BitVec.toNat_ofNat]
    exact Nat.mod_eq_of_lt (by omega)
  rw [BitVec.toNat_sub_of_le, hlength]
  rw [BitVec.le_def, hlength]
  omega

include hall in
/-- The loop fills a page, and the number that it comes to stands for what is left. -/
theorem readTunnels_fill (out : Text) (left : ℕ) (hlimit : n + left = f.limit) :
    ∃ n', readTunnels u f left n out = some ((fill u.sz.toNat (f.remaining n) out).1, n') ∧
      f.remaining n' = (fill u.sz.toNat (f.remaining n) out).2 := by
  induction left generalizing n out with
  | zero =>
    have hnil : f.remaining n = [] := remaining_past f (by omega)
    refine ⟨n, ?_, ?_⟩
    · rw [hnil]
      rfl
    · rw [hnil]
      rfl
  | succ left ih =>
    have hlt : n < f.limit := by omega
    have hlimit' : n + 1 + left = f.limit := by omega
    unfold readTunnels
    cases hrecord : f.record n with
    | none =>
      rw [remaining_none hlt hrecord]
      exact ih _ hlimit'
    | some e =>
      have hremaining := remaining_some hlt hrecord
      rw [hremaining]
      unfold fill
      dsimp only
      by_cases hfull : out.length + e.header.length > u.sz.toNat
      · rw [if_pos hfull, if_pos hfull]
        exact ⟨n, rfl, hremaining⟩
      · rw [if_neg hfull, if_neg hfull, copyLine_eq hall, Option.bind_eq_bind, Option.bind_some,
          readRows_eq hall, Option.bind_some]
        generalize copyRows u.sz.toNat e.rows (out ++ e.header) = rowed
        cases hfooter : e.footer with
        | none => exact ih _ hlimit'
        | some footer =>
          dsimp only
          rw [footer_room hfooter hfull, copyLine_eq hall, Option.bind_some]
          by_cases hbroken : rowed.length > u.sz.toNat - footer.length
          · rw [if_pos hbroken, if_pos hbroken]
            exact ⟨n, rfl, hremaining⟩
          · rw [if_neg hbroken, if_neg hbroken]
            exact ih _ hlimit'

include hall in
theorem read_fill (n : ℕ) :
    (f.read u n).ret = (f.read u n).text.length ∧
      fill u.sz.toNat (f.remaining n) [] = ((f.read u n).text, f.remaining (f.read u n).index) := by
  unfold StatsFile.read
  by_cases hpast : f.past n = true
  · rw [if_pos hpast, remaining_past f (f.past_limit n hpast)]
    exact ⟨rfl, rfl⟩
  · rw [if_neg hpast]
    by_cases hlimit : n ≤ f.limit
    · have hleft : n + (f.limit - n) = f.limit := by omega
      obtain ⟨n', hread, hremaining⟩ := readTunnels_fill hall [] (f.limit - n) hleft
      rw [hread]
      exact ⟨rfl, Prod.ext rfl hremaining.symm⟩
    · have hnil : f.remaining n = [] := remaining_past f (by omega)
      rw [Nat.sub_eq_zero_of_le (by omega), hnil]
      exact ⟨rfl, Prod.ext rfl hnil.symm⟩

include hall in
theorem Reads.session {rs : List ReadResult} (h : Reads f u n rs) :
    Session u.sz.toNat (f.remaining n) (rs.map ReadResult.text) := by
  induction h with
  | @last index hret =>
    obtain ⟨hlength, hfill⟩ := read_fill (f := f) hall index
    have hnil : (f.read u index).text = [] := by
      apply List.length_eq_zero_iff.mp
      omega
    rw [hnil] at hfill
    exact .last hfill
  | @page index rs hret rest ih =>
    obtain ⟨hlength, hfill⟩ := read_fill (f := f) hall index
    refine .page hfill ?_ ih
    intro hnil
    rw [hnil] at hlength
    exact hret hlength

include hall in
theorem reads_of_session {es : List (Entry f.mark)} {outs : List Text}
    (h : Session u.sz.toNat es outs) (hes : f.remaining n = es) :
    ∃ rs, Reads f u n rs ∧ rs.map ReadResult.text = outs := by
  induction h generalizing n with
  | last hempty =>
    obtain ⟨hlength, hfill⟩ := read_fill hall n
    rw [hes, hempty] at hfill
    rw [← (Prod.mk.inj hfill).1] at hlength
    exact ⟨[], .last hlength, rfl⟩
  | page hpage hsome rest ih =>
    obtain ⟨hlength, hfill⟩ := read_fill hall n
    rw [hes, hpage] at hfill
    obtain ⟨htext, hindex⟩ := Prod.mk.inj hfill
    obtain ⟨rs, hreads, htexts⟩ := ih hindex.symm
    refine ⟨f.read u n :: rs, .page ?_ hreads, ?_⟩
    · rw [hlength, ← htext]
      have hpos := List.length_pos_iff.mpr hsome
      omega
    · rw [List.map_cons, htexts, htext]

include hall in
theorem paginates_iff (hline : ∀ e ∈ f.records, e.header.length ≤ u.sz.toNat) :
    Paginates f u ↔ NeverSplit u.sz.toNat 0 f.records := by
  rw [← session_iff hline]
  constructor
  · rintro ⟨-, rs, hreads, htext⟩
    refine ⟨_, hreads.session hall, ?_⟩
    rw [← htext]
    rfl
  · rintro ⟨outs, hsession, htext⟩
    obtain ⟨rs, hreads, rfl⟩ := reads_of_session hall hsession rfl
    refine ⟨fun n => ?_, rs, hreads, htext⟩
    obtain ⟨hlength, hfill⟩ := read_fill hall n
    have hbounded : (fill u.sz.toNat (f.remaining n) []).1.length ≤ u.sz.toNat :=
      fill_bounded (Nat.zero_le _)
    rw [hlength]
    rw [hfill] at hbounded
    exact_mod_cast hbounded

end Writable
end Refinement

inductive TunnelFile where
  | capwapEncap | capwapDecap | greRedir | wifiIf | virtIf
  deriving DecidableEq, Repr

def TunnelFile.file (s : Tunnels) : TunnelFile → StatsFile
  | .capwapEncap => capwapFile s true
  | .capwapDecap => capwapFile s false
  | .greRedir => greRedirFile s
  | .wifiIf => wifiIfFile s
  | .virtIf => virtIfFile s

/-- Whatever tunnels are there: reads of a file whose size has room for the first line of a
    record give every record once and whole exactly where none has to be split. -/
theorem tunnel_files_paginate_iff (s : Tunnels) (x : TunnelFile) (u : UserBuffer)
    (hall : ∀ offset length, u.copyToUser offset length = true)
    (hline : ∀ e ∈ (x.file s).records, e.header.length ≤ u.sz.toNat) :
    Paginates (x.file s) u ↔ NeverSplit u.sz.toNat 0 (x.file s).records :=
  paginates_iff hall hline

/-- One interface of a type, the first one, whose counters are all zero. -/
def oneTunnel (type : ℕ) : Tunnels where
  di := ⟨-1, .NSS_CMN_RESPONSE_ACK, fun i => if i = 0 then type else 0⟩
  nssCapwapHdl _ := some ⟨0, 0, 0, 0, 0, 0, 0, 0, 0, 0, 0, 0, 0, 0, 0, 0, 0, 0, 0, 0, 0, 0, 0, 0, 0⟩
  tunStats _ := ⟨24, false, 0, 0, 0, 0, 0, 0⟩
  wifiHandle _ := some ⟨0, 0, 0, 0, 0, 0, 0⟩
  virtHandle _ := some ⟨0, 0, 0, 0, 0, 0, 0⟩

def wholeBuffer (sz : U32) : UserBuffer := ⟨sz, fun _ _ => true⟩

def twoTunnels : Tunnels :=
  { oneTunnel NSS_DYNAMIC_INTERFACE_TYPE_CAPWAP with
    di := ⟨-1, .NSS_CMN_RESPONSE_ACK, fun i =>
      if i = 0 ∨ i = 1 then NSS_DYNAMIC_INTERFACE_TYPE_CAPWAP else 0⟩ }

/-- Two tunnels, and a page for each. -/
theorem tunnel_files_paginate_iff_two :
    (TunnelFile.capwapEncap.file twoTunnels).records.length = 2 ∧
    Paginates (TunnelFile.capwapEncap.file twoTunnels) (wholeBuffer 180) :=
  ⟨by decide +kernel, (tunnel_files_paginate_iff twoTunnels .capwapEncap (wholeBuffer 180)
    (fun _ _ => rfl) (by decide +kernel)).mpr (by decide +kernel)⟩

/-- A hundred bytes are too few for a record, and enough for any of its lines: rows of the
    first file are never shown, and those of the second again and again. -/
theorem tunnel_files_split :
    ¬ Paginates (TunnelFile.capwapEncap.file (oneTunnel NSS_DYNAMIC_INTERFACE_TYPE_CAPWAP))
      (wholeBuffer 100) ∧
    ¬ Paginates (TunnelFile.virtIf.file (oneTunnel NSS_DYNAMIC_INTERFACE_TYPE_802_3_REDIR))
      (wholeBuffer 100) := by
  constructor
  · rw [paginates_iff (fun _ _ => rfl) (by decide +kernel)]
    decide +kernel
  · rw [paginates_iff (fun _ _ => rfl) (by decide +kernel)]
    decide +kernel

end NssDrv.StatsFiles

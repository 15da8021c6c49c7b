import NssDrv.SkbOwnership

set_option autoImplicit false

/-!
# Pages of scattered frames

`nss_core_handle_nr_frag_skb` once more, with the references to pages that it
takes and drops. An skb owns one reference to the page of each of its frags.
-/
namespace NssDrv.PagedReassembly
open HlosInterface SkbMemory ReceivePath SegmentParser ReceiveAssembly ReceiveDelivery
open ReceiveQueue ReceiveStream SkbOwnership ThreadPool TransitionRuns

def pagesOf (m : Memory) (a : U32) : List U32 :=
  (m.heap a).elim [] fun nbuf => nbuf.frags.map Frag.page

def pagesUnder (m : Memory) (a : U32) : List U32 := (a :: m.chainOf a).flatMap (pagesOf m)

/-- `refs` counts the references that the host holds. `passed` are the skbs that
    have gone to `nss_core_rx_pbuf`, with the references to their pages then. -/
structure PagedHost where
  host : RxHost
  refs : U32 → ℤ
  passed : List (Skb × List ℤ)

namespace PagedHost

def onHost (f : RxHost → RxHost) (s : PagedHost) : PagedHost := { s with host := f s.host }

def take (pages : List U32) (s : PagedHost) : PagedHost :=
  { s with refs := fun q => s.refs q + pages.count q }

def put (pages : List U32) (s : PagedHost) : PagedHost :=
  { s with refs := fun q => s.refs q - pages.count q }

def kfreeSkb (nbuf : U32) (s : PagedHost) : PagedHost :=
  (s.put (pagesUnder s.host.mem nbuf)).onHost (RxHost.kfreeSkb nbuf)

def kfreeHeld (p : Option U32) : PagedHost → PagedHost := p.elim id kfreeSkb

end PagedHost

section Segments
variable (k : Kernel) (env : RxEnv) (d : N2hDescriptor) (nbuf : U32) (s : PagedHost)

def pullEthHeader : PagedHost × Option U32 :=
  if d.bufferType ≠ N2H_BUFFER_STATUS &&
      !(s.host.mem.heap nbuf).elim false (pskbMayPull env) then
    (s.kfreeSkb nbuf, none)
  else (s, some nbuf)

def pagedWhole : PagedHost × Option U32 :=
  let s := (s.kfreeHeld s.host.jumboStart).onHost fun h => { h with jumboStart := none }
  pullEthHeader env d nbuf (s.onHost (RxHost.modify nbuf (fillPage d)))

def pagedFirst : PagedHost × Option U32 :=
  let s := s.kfreeHeld s.host.jumboStart
  (s.onHost fun h => { h.modify nbuf (fillPage d) with jumboStart := some nbuf }, none)

def pagedMiddle : PagedHost × Option U32 :=
  match s.host.jumboStart with
  | none => (s.kfreeSkb nbuf, none)
  | some jumboStart =>
    let page := s.host.mem.page nbuf
    let s := s.onHost
      (.onMem fun m => m.addRxFrag jumboStart k.maxSkbFrags ⟨page, d.payloadOffs, d.payloadLen⟩)
    -- `skb_frag_ref` comes before the donor is freed
    let s := (s.take [page]).kfreeSkb nbuf
    if !isLast d then (s, none)
    else pullEthHeader env d jumboStart (s.onHost fun h => { h with jumboStart := none })

def nssCoreHandleNrFragSkb : PagedHost × Option U32 :=
  if isFirst d && isLast d then pagedWhole env d nbuf s
  else if isFirst d then pagedFirst d nbuf (s.onHost (.count .fragSegProcessed 1))
  else pagedMiddle k env d nbuf (s.onHost (.count .fragSegProcessed 1))

def abortHead : PagedHost :=
  match s.host.head with
  | some head =>
    ((s.onHost (.count .nssSkbCount (-1))).kfreeSkb head).onHost fun h => { h with head := none }
  | none => s

/-- A complete skb goes to `nss_core_rx_pbuf` with the references of its pages. -/
def passOn : PagedHost :=
  let pages := pagesUnder s.host.mem nbuf
  { host := nssCoreRxPbuf env d nbuf s.host
    refs := (s.put pages).refs
    passed := s.passed ++ (s.host.mem.heap nbuf).toList.map fun skb => (skb, pages.map s.refs) }

/-- An skb comes back with the references to its pages. -/
def arrive : PagedHost :=
  (s.onHost (.onMem fun m => m.arrive nbuf env.nbuf)).take (env.nbuf.frags.map Frag.page)

end Segments

/-- A pass of the loop of `nss_core_handle_cause_queue` for a paged segment. -/
def takeSegment (k : Kernel) (s : PagedHost) (x : RxEnv × N2hDescriptor) : PagedHost :=
  let nbuf := x.2.opaqueWord
  let r := nssCoreHandleNrFragSkb k x.1 x.2 nbuf (abortHead (arrive x.1 nbuf s))
  match r.2 with
  | none => r.1
  | some nbuf => passOn x.1 x.2 nbuf (r.1.onHost (.count .rxNrFrags 1))

/-- A data or status descriptor whose skb has pages. -/
structure Paged (k : Kernel) (x : RxEnv × N2hDescriptor) : Prop where
  handsOver : handsOver k x.2 = true
  data : passesThrough x.2 = false
  frags : 0 < x.1.nbuf.frags.length

section Projection
variable {k : Kernel} {env : RxEnv} {d : N2hDescriptor} {nbuf : U32} {s : PagedHost}

/-- On the host both do the same. -/
def Agrees (r : PagedHost × Option U32) (r' : RxHost × Option U32) : Prop :=
  r.1.host = r'.1 ∧ r.2 = r'.2

theorem kfreeHeld_host (p : Option U32) (s : PagedHost) :
    (s.kfreeHeld p).host = s.host.kfreeHeld p := by
  cases p <;> rfl

theorem pullEthHeader_agrees :
    Agrees (pullEthHeader env d nbuf s) (ReceivePath.pullEthHeader env d nbuf s.host) := by
  unfold pullEthHeader ReceivePath.pullEthHeader
  split
  · exact ⟨rfl, rfl⟩
  · exact ⟨rfl, rfl⟩

theorem pagedMiddle_agrees :
    Agrees (pagedMiddle k env d nbuf s) (ReceivePath.pagedMiddle k env d nbuf s.host) := by
  unfold pagedMiddle ReceivePath.pagedMiddle
  cases s.host.jumboStart with
  | none => exact ⟨rfl, rfl⟩
  | some jumboStart =>
    dsimp only
    split
    · exact ⟨rfl, rfl⟩
    · exact pullEthHeader_agrees

theorem pagedWhole_agrees :
    Agrees (pagedWhole env d nbuf s) (ReceivePath.pagedWhole env d nbuf s.host) := by
  unfold pagedWhole ReceivePath.pagedWhole
  rw [← kfreeHeld_host]
  exact pullEthHeader_agrees

theorem pagedFirst_agrees :
    Agrees (pagedFirst d nbuf s) (ReceivePath.pagedFirst d nbuf s.host) := by
  unfold pagedFirst ReceivePath.pagedFirst
  rw [← kfreeHeld_host]
  exact ⟨rfl, rfl⟩

theorem handleNrFragSkb_agrees (k : Kernel) (env : RxEnv) (d : N2hDescriptor) (nbuf : U32)
    (s : PagedHost) : Agrees (nssCoreHandleNrFragSkb k env d nbuf s)
    (ReceivePath.nssCoreHandleNrFragSkb k env d nbuf s.host) := by
  unfold nssCoreHandleNrFragSkb ReceivePath.nssCoreHandleNrFragSkb
  split
  · exact pagedWhole_agrees
  · split
    · exact pagedFirst_agrees
    · exact pagedMiddle_agrees

theorem abortHead_host : (abortHead s).host = ReceivePath.abortHead s.host := by
  unfold abortHead ReceivePath.abortHead
  cases s.host.head <;> rfl

theorem assemble_segment (hx : Paged k (env, d)) (s : RxHost) :
    let r := ReceivePath.nssCoreHandleNrFragSkb k env d d.opaqueWord
      (ReceivePath.abortHead (s.onMem fun m => m.arrive d.opaqueWord env.nbuf))
    assemble k env d s = (r.2.elim r.1 fun _ => r.1.count .rxNrFrags 1, r.2) := by
  obtain ⟨hands, hdata, hfrags⟩ := hx
  simp only [handsOver, Bool.and_eq_true, decide_eq_true_eq, Bool.not_eq_true',
    decide_eq_false_iff_not] at hands
  simp only [passesThrough, Bool.or_eq_false_iff, decide_eq_false_iff_not] at hdata
  have hpaged : (s.onMem fun m => m.arrive d.opaqueWord env.nbuf).mem.nrFrags d.opaqueWord > 0 := by
    simpa [RxHost.onMem, Memory.nrFrags, Memory.arrive] using hfrags
  unfold assemble
  rw [if_neg hands.1, if_neg hands.2]
  dsimp only
  rw [if_neg hdata.1, if_neg (by simp [hdata.2]), if_pos hpaged]

theorem takeSegment_host {x : RxEnv × N2hDescriptor} (hx : Paged k x) (s : PagedHost) :
    (takeSegment k s x).host = feed k s.host x := by
  obtain ⟨env, d⟩ := x
  have hagrees := handleNrFragSkb_agrees k env d d.opaqueWord
    (abortHead (arrive env d.opaqueWord s))
  rw [abortHead_host] at hagrees
  have hassemble := assemble_segment hx s.host
  unfold takeSegment feed processDescriptor
  dsimp only at hassemble ⊢
  rw [hassemble]
  change Agrees _ (ReceivePath.nssCoreHandleNrFragSkb k env d d.opaqueWord
    (ReceivePath.abortHead (s.host.onMem fun m => m.arrive d.opaqueWord env.nbuf))) at hagrees
  generalize ReceivePath.nssCoreHandleNrFragSkb k env d d.opaqueWord
    (ReceivePath.abortHead (s.host.onMem fun m => m.arrive d.opaqueWord env.nbuf)) = r' at hagrees ⊢
  generalize nssCoreHandleNrFragSkb k env d d.opaqueWord
    (abortHead (arrive env d.opaqueWord s)) = r at hagrees ⊢
  obtain ⟨hhost, hnbuf⟩ := hagrees
  rw [← hnbuf, ← hhost]
  cases r.2 <;> rfl

end Projection

/-- A segment with the one page that its skb brings. -/
structure PageSegment where
  nbuf : U32
  page : U32
  offset : U16
  size : U16

def PageSegment.frag (g : PageSegment) : Frag := ⟨g.page, g.offset, g.size⟩

def pageSegmentOf (x : RxEnv × N2hDescriptor) : PageSegment :=
  ⟨x.2.opaqueWord, x.1.nbuf.frags.head?.elim 0 Frag.page, x.2.payloadOffs, x.2.payloadLen⟩

def payload (gs : List PageSegment) : ℕ := (gs.map fun g => g.size.toNat).sum

/-- The head of a frame has its segments as frags, in their order. -/
structure Built (p : Packet PageSegment) (skb : Skb) : Prop where
  frags : skb.frags = p.segments.map PageSegment.frag
  dataLen : skb.dataLen = skb.len
  len : skb.len = BitVec.ofNat 32 (payload p.segments)
  plain : skb.fragList.first = none

def pages (st : Option (Packet PageSegment)) : List U32 :=
  st.elim [] fun p => p.segments.map PageSegment.page

/-- One reference for every occurrence of a page in a list. -/
def Counts (s : PagedHost) (qs : List U32) : Prop := ∀ q, s.refs q = qs.count q

/-- The ring holds the unfinished frame `st` with one reference to each page. -/
structure Reassembling (s : PagedHost) (st : Option (Packet PageSegment)) : Prop where
  head : s.host.head = none
  jumboStart : s.host.jumboStart = st.map fun p => p.first.nbuf
  content : ∀ p, st = some p →
    p.mode = .paged ∧ ∃ skb, s.host.mem.heap p.first.nbuf = some skb ∧ Built p skb
  refs : Counts s (pages st)
  distinct : (pages st).Nodup

/-- The header of a complete frame can be pulled, or need not be. -/
def pullable (x : RxEnv × N2hDescriptor) (p : Packet PageSegment) : Bool :=
  x.2.bufferType = N2H_BUFFER_STATUS ||
    ETH_HLEN ≤ (BitVec.ofNat 32 (payload p.segments)).toNat && x.1.pulls

def parsed (st : Option (Packet PageSegment)) (x : RxEnv × N2hDescriptor) :
    Option (Packet PageSegment) × Option (Packet PageSegment) :=
  parse st (pageSegmentOf x) (.segment .paged (isFirst x.2) (isLast x.2))

/-- After the handler: the frame that goes on is `out`. -/
structure Handled (s s' : PagedHost) (nbuf : Option U32)
    (st out : Option (Packet PageSegment)) : Prop where
  head : s'.host.head = none
  jumboStart : s'.host.jumboStart = st.map fun p => p.first.nbuf
  content : ∀ p, st = some p ∨ out = some p →
    p.mode = .paged ∧ ∃ skb, s'.host.mem.heap p.first.nbuf = some skb ∧ Built p skb
  refs : Counts s' (pages out ++ pages st)
  distinct : (pages out ++ pages st).Nodup
  nbuf : nbuf = out.map fun p => p.first.nbuf
  passed : s'.passed = s.passed

section Pages
variable {s : PagedHost} {a b : U32} {skb : Skb} {qs rs : List U32}

theorem chainOf_plain {m : Memory} (h : m.heap a = some skb) (hplain : skb.fragList.first = none) :
    m.chainOf a = [] := by
  have hlist : m.fragList a = skb.fragList := by
    unfold Memory.fragList
    rw [h]
    rfl
  unfold Memory.chainOf
  rw [hlist, hplain]
  cases m.handed.length <;> rfl

theorem pagesUnder_plain {m : Memory} (h : m.heap a = some skb)
    (hplain : skb.fragList.first = none) : pagesUnder m a = skb.frags.map Frag.page := by
  unfold pagesUnder pagesOf
  rw [chainOf_plain h hplain]
  simp [h]

theorem Counts.take (rs : List U32) (h : Counts s qs) : Counts (s.take rs) (rs ++ qs) := by
  intro q
  show s.refs q + rs.count q = _
  rw [h q, List.count_append]
  push_cast
  ring

theorem Counts.put (h : Counts s (rs ++ qs)) : Counts (s.put rs) qs := by
  intro q
  show s.refs q - rs.count q = _
  rw [h q, List.count_append]
  push_cast
  ring

theorem Counts.perm (h : Counts s qs) (hperm : qs.Perm rs) : Counts s rs := by
  intro q
  rw [h q, hperm.count_eq]

theorem Counts.kfreeSkb (h : Counts s (skb.frags.map Frag.page ++ qs))
    (hskb : s.host.mem.heap a = some skb) (hplain : skb.fragList.first = none) :
    Counts (s.kfreeSkb a) qs ∧
      ∀ b, b ≠ a → (s.kfreeSkb a).host.mem.heap b = s.host.mem.heap b := by
  constructor
  · have hput : Counts (s.put (pagesUnder s.host.mem a)) qs := by
      rw [pagesUnder_plain hskb hplain]
      exact h.put
    exact hput
  · intro b hb
    have hheap : (s.host.mem.kfreeSkb a).heap b =
        if b ∈ a :: s.host.mem.chainOf a then none else s.host.mem.heap b := rfl
    rw [chainOf_plain hskb hplain] at hheap
    exact hheap.trans (if_neg (by simpa using hb))

end Pages

/-- The host with the skb of a segment, before the handler looks at it. -/
structure Arrived (x : RxEnv × N2hDescriptor) (s : PagedHost)
    (st : Option (Packet PageSegment)) : Prop where
  head : s.host.head = none
  jumboStart : s.host.jumboStart = st.map fun p => p.first.nbuf
  content : ∀ p, st = some p → p.mode = .paged ∧ p.first.nbuf ≠ x.2.opaqueWord ∧
    ∃ skb, s.host.mem.heap p.first.nbuf = some skb ∧ Built p skb
  nbuf : ∃ skb frag, s.host.mem.heap x.2.opaqueWord = some skb ∧ skb.frags = [frag] ∧
    frag.page = (pageSegmentOf x).page ∧ skb.fragList.first = none
  refs : Counts s ((pageSegmentOf x).page :: pages st)
  distinct : ((pageSegmentOf x).page :: pages st).Nodup

section Handler
variable {k : Kernel} {x : RxEnv × N2hDescriptor} {s : PagedHost}
  {st : Option (Packet PageSegment)} {p : Packet PageSegment} {skb : Skb} {frag : Frag}

def alone (x : RxEnv × N2hDescriptor) : Packet PageSegment := ⟨.paged, pageSegmentOf x, []⟩

theorem built_alone (hfrags : skb.frags = [frag]) (hpage : frag.page = (pageSegmentOf x).page)
    (hplain : skb.fragList.first = none) : Built (alone x) (fillPage x.2 skb) where
  frags := by
    show skb.frags.modifyHead _ = _
    rw [hfrags]
    show [({ frag with offset := x.2.payloadOffs, size := x.2.payloadLen } : Frag)] = _
    rw [show frag = ⟨frag.page, frag.offset, frag.size⟩ from rfl, hpage]
    rfl
  dataLen := rfl
  len := by
    show x.2.payloadLen.setWidth 32 = BitVec.ofNat 32 (x.2.payloadLen.toNat + 0)
    rw [Nat.add_zero]
    exact (BitVec.ofNat_toNat ..).symm
  plain := hplain

theorem Built.withPage (h : Built p skb) :
    Built (p.append (pageSegmentOf x)) (skb.withPage (pageSegmentOf x).frag) where
  frags := by
    show skb.frags ++ [(pageSegmentOf x).frag] = _
    rw [h.frags]
    simp [Packet.segments]
  dataLen := by
    show skb.dataLen + _ = skb.len + _
    rw [h.dataLen]
  len := by
    show skb.len + x.2.payloadLen.setWidth 32 = _
    have hsum : payload (p.append (pageSegmentOf x)).segments =
        payload p.segments + x.2.payloadLen.toNat := by
      simp [payload, Packet.segments, pageSegmentOf, Nat.add_assoc]
    rw [h.len, hsum, BitVec.ofNat_add, BitVec.ofNat_toNat]
  plain := h.plain

theorem Built.pages_eq (h : Built p skb) : skb.frags.map Frag.page = pages (some p) := by
  rw [h.frags, List.map_map]
  rfl

theorem Arrived.kfreeHeld (h : Arrived x s st) :
    Counts (s.kfreeHeld s.host.jumboStart) [(pageSegmentOf x).page] ∧
      (s.kfreeHeld s.host.jumboStart).host.mem.heap x.2.opaqueWord =
        s.host.mem.heap x.2.opaqueWord := by
  rw [h.jumboStart]
  cases st with
  | none => exact ⟨h.refs, rfl⟩
  | some p =>
    obtain ⟨-, hne, skb, hskb, hbuilt⟩ := h.content p rfl
    have hrefs : Counts s (skb.frags.map Frag.page ++ [(pageSegmentOf x).page]) := by
      rw [hbuilt.pages_eq]
      exact h.refs.perm (List.perm_append_singleton _ _).symm
    obtain ⟨hcounts, hheap⟩ := hrefs.kfreeSkb hskb hbuilt.plain
    exact ⟨hcounts, hheap _ hne.symm⟩

theorem pullEthHeader_handled (hhead : s.host.head = none) (hjumbo : s.host.jumboStart = none)
    (hmode : p.mode = .paged) (hskb : s.host.mem.heap p.first.nbuf = some skb)
    (hbuilt : Built p skb) (hrefs : Counts s (pages (some p)))
    (hdistinct : (pages (some p)).Nodup) :
    Handled s (pullEthHeader x.1 x.2 p.first.nbuf s).1
      (pullEthHeader x.1 x.2 p.first.nbuf s).2 none ((some p).filter (pullable x)) := by
  have hpull : pskbMayPull x.1 skb =
      (decide (ETH_HLEN ≤ (BitVec.ofNat 32 (payload p.segments)).toNat) && x.1.pulls) := by
    rw [pskbMayPull, hbuilt.dataLen, hbuilt.len]
    simp [ETH_HLEN]
  have hcond : (decide (x.2.bufferType ≠ N2H_BUFFER_STATUS) &&
      !(s.host.mem.heap p.first.nbuf).elim false (pskbMayPull x.1)) = !pullable x p := by
    rw [hskb, Option.elim_some, hpull, pullable, Bool.not_or, decide_not]
  unfold pullEthHeader
  rw [hcond]
  cases hok : pullable x p with
  | true =>
    rw [if_neg (by simp)]
    have hout : (some p).filter (pullable x) = some p := by simp [Option.filter, hok]
    rw [hout]
    constructor
    · exact hhead
    · exact hjumbo
    · rintro q (hq | hq)
      · cases hq
      · obtain rfl := Option.some.inj hq
        exact ⟨hmode, skb, hskb, hbuilt⟩
    · simpa [pages] using hrefs
    · simpa [pages] using hdistinct
    · rfl
    · rfl
  | false =>
    rw [if_pos (by simp)]
    have hout : (some p).filter (pullable x) = none := by simp [Option.filter, hok]
    rw [hout]
    have hheld : Counts s (skb.frags.map Frag.page ++ []) := by
      rw [List.append_nil, hbuilt.pages_eq]
      exact hrefs
    obtain ⟨hcounts, -⟩ := hheld.kfreeSkb hskb hbuilt.plain
    constructor
    · exact hhead
    · exact hjumbo
    · rintro q (hq | hq)
      · cases hq
      · cases hq
    · exact hcounts
    · exact List.nodup_nil
    · rfl
    · rfl

theorem Handled.of_passed {s' : PagedHost} {nbuf : Option U32}
    {out : Option (Packet PageSegment)} (s₀ : PagedHost) (h : Handled s s' nbuf st out)
    (hpassed : s.passed = s₀.passed) : Handled s₀ s' nbuf st out :=
  { h with passed := h.passed.trans hpassed }

theorem kfreeHeld_passed (a : Option U32) (s : PagedHost) :
    (s.kfreeHeld a).passed = s.passed := by
  cases a <;> rfl

theorem kfreeHeld_head (a : Option U32) (s : PagedHost) :
    (s.kfreeHeld a).host.head = s.host.head := by
  cases a <;> rfl

theorem pagedWhole_handled (h : Arrived x s st) :
    Handled s (pagedWhole x.1 x.2 x.2.opaqueWord s).1 (pagedWhole x.1 x.2 x.2.opaqueWord s).2
      none ((some (alone x)).filter (pullable x)) := by
  obtain ⟨hcounts, hheap⟩ := h.kfreeHeld
  obtain ⟨skb, frag, hskb, hfrags, hpage, hplain⟩ := h.nbuf
  let t := ((s.kfreeHeld s.host.jumboStart).onHost fun h => { h with jumboStart := none }).onHost
    (RxHost.modify x.2.opaqueWord (fillPage x.2))
  have hfilled : t.host.mem.heap x.2.opaqueWord = some (fillPage x.2 skb) := by
    have hmodify : t.host.mem.heap x.2.opaqueWord =
        ((s.kfreeHeld s.host.jumboStart).host.mem.heap x.2.opaqueWord).map (fillPage x.2) := by
      simp [t, PagedHost.onHost, RxHost.modify, RxHost.onMem, Memory.modify]
    rw [hmodify, hheap, hskb]
    rfl
  have hhead : t.host.head = none := (kfreeHeld_head _ s).trans h.head
  have hjumbo : t.host.jumboStart = none := rfl
  have hrefs : Counts t (pages (some (alone x))) := hcounts
  have hhandled : Handled t (pullEthHeader x.1 x.2 x.2.opaqueWord t).1
      (pullEthHeader x.1 x.2 x.2.opaqueWord t).2 none ((some (alone x)).filter (pullable x)) :=
    pullEthHeader_handled hhead hjumbo rfl hfilled (built_alone hfrags hpage hplain) hrefs
      (List.nodup_singleton _)
  exact hhandled.of_passed s (kfreeHeld_passed _ s)

theorem pagedFirst_handled (h : Arrived x s st) :
    Handled s (pagedFirst x.2 x.2.opaqueWord s).1 (pagedFirst x.2 x.2.opaqueWord s).2
      (some (alone x)) none := by
  obtain ⟨hcounts, hheap⟩ := h.kfreeHeld
  obtain ⟨skb, frag, hskb, hfrags, hpage, hplain⟩ := h.nbuf
  constructor
  · exact (kfreeHeld_head _ s).trans h.head
  · rfl
  · rintro q (hq | hq)
    · obtain rfl := Option.some.inj hq
      refine ⟨rfl, fillPage x.2 skb, ?_, built_alone hfrags hpage hplain⟩
      have hmodify : ((s.kfreeHeld s.host.jumboStart).host.modify x.2.opaqueWord
          (fillPage x.2)).mem.heap x.2.opaqueWord =
          ((s.kfreeHeld s.host.jumboStart).host.mem.heap x.2.opaqueWord).map (fillPage x.2) := by
        simp [RxHost.modify, RxHost.onMem, Memory.modify]
      rw [hheap, hskb] at hmodify
      exact hmodify
    · cases hq
  · exact hcounts
  · exact List.nodup_singleton _
  · rfl
  · exact kfreeHeld_passed _ s

theorem pagedMiddle_none (h : Arrived x s none) :
    Handled s (pagedMiddle k x.1 x.2 x.2.opaqueWord s).1
      (pagedMiddle k x.1 x.2 x.2.opaqueWord s).2 none none := by
  obtain ⟨skb, frag, hskb, hfrags, hpage, hplain⟩ := h.nbuf
  have hrefs : Counts s (skb.frags.map Frag.page ++ []) := by
    rw [List.append_nil, hfrags, List.map_singleton, hpage]
    exact h.refs
  obtain ⟨hcounts, -⟩ := hrefs.kfreeSkb hskb hplain
  have hjumbo : s.host.jumboStart = none := h.jumboStart
  unfold pagedMiddle
  rw [hjumbo]
  constructor
  · exact h.head
  · exact hjumbo
  · rintro q (hq | hq)
    · cases hq
    · cases hq
  · exact hcounts
  · exact List.nodup_nil
  · rfl
  · rfl

theorem pagedMiddle_some (k : Kernel) (h : Arrived x s (some p)) :
    Handled s (pagedMiddle k x.1 x.2 x.2.opaqueWord s).1
      (pagedMiddle k x.1 x.2 x.2.opaqueWord s).2
      (if isLast x.2 then none else some (p.append (pageSegmentOf x)))
      (if isLast x.2 then (some (p.append (pageSegmentOf x))).filter (pullable x) else none) := by
  obtain ⟨hmode, hne, head, hhead, hbuilt⟩ := h.content p rfl
  obtain ⟨skb, frag, hskb, hfrags, hpage, hplain⟩ := h.nbuf
  have hjumbo : s.host.jumboStart = some p.first.nbuf := h.jumboStart
  have hdonor : s.host.mem.page x.2.opaqueWord = (pageSegmentOf x).page := by
    unfold Memory.page
    rw [hskb, Option.elim_some, hfrags]
    exact hpage
  let t := s.onHost (.onMem fun m =>
    m.addRxFrag p.first.nbuf k.maxSkbFrags (pageSegmentOf x).frag)
  let u := (t.take [(pageSegmentOf x).page]).kfreeSkb x.2.opaqueWord
  have hgrown : t.host.mem.heap p.first.nbuf = some (head.withPage (pageSegmentOf x).frag) := by
    simp [t, PagedHost.onHost, RxHost.onMem, Memory.addRxFrag, Memory.modify, hhead]
  have hkept : (t.take [(pageSegmentOf x).page]).host.mem.heap x.2.opaqueWord = some skb := by
    simp [t, PagedHost.take, PagedHost.onHost, RxHost.onMem, Memory.addRxFrag, Memory.modify,
      hne.symm, hskb]
  have htaken : Counts (t.take [(pageSegmentOf x).page])
      (skb.frags.map Frag.page ++ ((pageSegmentOf x).page :: pages (some p))) := by
    have hrefs : Counts t ((pageSegmentOf x).page :: pages (some p)) := h.refs
    rw [hfrags, List.map_singleton, hpage]
    exact hrefs.take _
  obtain ⟨hcounts, hheap⟩ := htaken.kfreeSkb hkept hplain
  have hpages : pages (some (p.append (pageSegmentOf x))) =
      pages (some p) ++ [(pageSegmentOf x).page] := by
    simp [pages, Packet.segments]
  have hperm : ((pageSegmentOf x).page :: pages (some p)).Perm
      (pages (some (p.append (pageSegmentOf x)))) := by
    rw [hpages]
    exact (List.perm_append_singleton _ _).symm
  have hrefs : Counts u (pages (some (p.append (pageSegmentOf x)))) := hcounts.perm hperm
  have hdistinct := hperm.nodup_iff.mp h.distinct
  have hlast : u.host.mem.heap p.first.nbuf = some (head.withPage (pageSegmentOf x).frag) :=
    (hheap _ hne).trans hgrown
  have hmiddle : pagedMiddle k x.1 x.2 x.2.opaqueWord s =
      if !isLast x.2 then (u, none)
      else pullEthHeader x.1 x.2 p.first.nbuf
        (u.onHost fun h => { h with jumboStart := none }) := by
    unfold pagedMiddle
    rw [hjumbo]
    dsimp only
    rw [hdonor]
    rfl
  rw [hmiddle]
  cases isLast x.2 with
  | true =>
    have hhandled : Handled (u.onHost fun h => { h with jumboStart := none }) _ _ none
        ((some (p.append (pageSegmentOf x))).filter (pullable x)) :=
      pullEthHeader_handled h.head rfl hmode hlast hbuilt.withPage hrefs hdistinct
    exact hhandled.of_passed s rfl
  | false =>
    constructor
    · exact h.head
    · exact hjumbo
    · rintro q (hq | hq)
      · obtain rfl := Option.some.inj hq
        exact ⟨hmode, _, hlast, hbuilt.withPage⟩
      · cases hq
    · exact hrefs
    · exact hdistinct
    · rfl
    · rfl

theorem Arrived.count (h : Arrived x s st) (c : DrvStat) (n : Int) :
    Arrived x (s.onHost (.count c n)) st :=
  ⟨h.head, h.jumboStart, h.content, h.nbuf, h.refs, h.distinct⟩

theorem handler_handled (k : Kernel) (h : Arrived x s st) :
    Handled s (nssCoreHandleNrFragSkb k x.1 x.2 x.2.opaqueWord s).1
      (nssCoreHandleNrFragSkb k x.1 x.2 x.2.opaqueWord s).2
      (parsed st x).1 ((parsed st x).2.filter (pullable x)) := by
  unfold nssCoreHandleNrFragSkb parsed
  cases hfirst : isFirst x.2 with
  | true =>
    cases hlast : isLast x.2 with
    | true => exact pagedWhole_handled h
    | false => exact (pagedFirst_handled (h.count .fragSegProcessed 1)).of_passed s rfl
  | false =>
    have hcount := h.count .fragSegProcessed 1
    cases st with
    | none =>
      have hnone : ∀ last, parse none (pageSegmentOf x) (.segment .paged false last) =
          (none, none) := by
        intro last
        cases last <;> rfl
      rw [hnone]
      exact (pagedMiddle_none hcount).of_passed s rfl
    | some p =>
      have hmode := (h.content p rfl).1
      have hsame : sameMode .paged (some p) = some p := by
        rw [sameMode_some, if_pos hmode]
      have hhandled := (pagedMiddle_some k hcount).of_passed s rfl
      cases hlast : isLast x.2 with
      | true =>
        rw [hlast] at hhandled
        simpa [parse, hsame, hfirst, hlast] using hhandled
      | false =>
        rw [hlast] at hhandled
        simpa [parse, hsame, hfirst, hlast] using hhandled

end Handler

/-- An skb that comes back is not held, has no frag_list, and its pages are not
    held either. -/
structure Arrives (s : PagedHost) (x : RxEnv × N2hDescriptor) : Prop where
  nbuf : s.host.mem.heap x.2.opaqueWord = none
  plain : x.1.nbuf.fragList.first = none
  pages : ∀ frag ∈ x.1.nbuf.frags, s.refs frag.page = 0

/-- A frame that has gone on, with one reference to each of its pages. -/
structure Delivered (p : Packet PageSegment) (y : Skb × List ℤ) : Prop where
  built : Built p y.1
  refs : y.2 = p.segments.map fun _ => 1

section Passes
variable {k : Kernel} {x : RxEnv × N2hDescriptor} {s : PagedHost}
  {st : Option (Packet PageSegment)} {p : Packet PageSegment}

theorem Reassembling.arrived (h : Reassembling s st) (harrives : Arrives s x)
    (hone : x.1.nbuf.frags.length = 1) :
    Arrived x (abortHead (arrive x.1 x.2.opaqueWord s)) st := by
  obtain ⟨frag, hfrags⟩ := List.length_eq_one_iff.mp hone
  have hpage : (pageSegmentOf x).page = frag.page := by
    unfold pageSegmentOf
    rw [hfrags]
    rfl
  have habort : abortHead (arrive x.1 x.2.opaqueWord s) = arrive x.1 x.2.opaqueWord s := by
    have hhead : (arrive x.1 x.2.opaqueWord s).host.head = none := h.head
    unfold abortHead
    rw [hhead]
  have hnew : (pageSegmentOf x).page ∉ pages st := by
    have hzero := harrives.pages frag (by rw [hfrags]; exact List.mem_singleton_self _)
    rw [hpage, ← List.count_eq_zero]
    have hcount := h.refs frag.page
    rw [hzero] at hcount
    exact_mod_cast hcount.symm
  rw [habort]
  constructor
  · exact h.head
  · exact h.jumboStart
  · intro p hp
    obtain ⟨hmode, skb, hskb, hbuilt⟩ := h.content p hp
    have hne : p.first.nbuf ≠ x.2.opaqueWord := by
      intro heq
      rw [heq, harrives.nbuf] at hskb
      cases hskb
    refine ⟨hmode, hne, skb, ?_, hbuilt⟩
    exact (Function.update_of_ne hne _ _).trans hskb
  · exact ⟨x.1.nbuf, frag, Function.update_self _ _ _, hfrags, hpage.symm, harrives.plain⟩
  · have hcounts := h.refs.take (x.1.nbuf.frags.map Frag.page)
    rw [hfrags, List.map_singleton, ← hpage] at hcounts
    unfold arrive
    rw [hfrags, List.map_singleton, ← hpage]
    exact hcounts
  · exact List.nodup_cons.mpr ⟨hnew, h.distinct⟩

theorem rxPbuf_held (env : RxEnv) (d : N2hDescriptor) {nbuf : U32} {skb : Skb} {t : RxHost}
    (hskb : t.mem.heap nbuf = some skb) :
    (nssCoreRxPbuf env d nbuf t).head = t.head ∧
      (nssCoreRxPbuf env d nbuf t).jumboStart = t.jumboStart := by
  cases hknown : knownType d.bufferType with
  | true =>
    have hsettles := rxPbuf_settles env hskb hknown
    exact ⟨hsettles.head, hsettles.jumboStart⟩
  | false =>
    rw [rxPbuf_unknown _ _ hknown]
    exact ⟨rfl, rfl⟩

theorem passOn_reassembling (x : RxEnv × N2hDescriptor) {s' : PagedHost} {a : U32}
    (h : Handled s s' (some a) none (some p)) :
    Reassembling (passOn x.1 x.2 a (s'.onHost (.count .rxNrFrags 1))) none ∧
      ∃ y, (passOn x.1 x.2 a (s'.onHost (.count .rxNrFrags 1))).passed = s.passed ++ [y] ∧
        Delivered p y := by
  obtain rfl : a = p.first.nbuf := Option.some.inj h.nbuf
  obtain ⟨hmode, skb, hskb, hbuilt⟩ := h.content p (.inr rfl)
  have hunder : pagesUnder s'.host.mem p.first.nbuf = pages (some p) := by
    rw [pagesUnder_plain hskb hbuilt.plain, hbuilt.pages_eq]
  have hcounted : (s'.host.count .rxNrFrags 1).mem.heap p.first.nbuf = some skb := hskb
  obtain ⟨hhead, hjumbo⟩ := rxPbuf_held x.1 x.2 hcounted
  constructor
  · constructor
    · exact hhead.trans h.head
    · exact hjumbo.trans h.jumboStart
    · intro q hq
      cases hq
    · have hcounts : Counts (s'.put (pages (some p))) [] := h.refs.put
      rw [← hunder] at hcounts
      exact hcounts
    · exact List.nodup_nil
  · refine ⟨(skb, (pagesUnder s'.host.mem p.first.nbuf).map s'.refs), ?_, hbuilt, ?_⟩
    · show s'.passed ++ (s'.host.mem.heap p.first.nbuf).toList.map _ = _
      rw [hskb, h.passed]
      rfl
    · show (pagesUnder s'.host.mem p.first.nbuf).map s'.refs = _
      have hdistinct : (pages (some p)).Nodup := by simpa [pages] using h.distinct
      have hones : (pages (some p)).map s'.refs = (pages (some p)).map fun _ => 1 := by
        apply List.map_congr_left
        intro q hq
        rw [h.refs q]
        show (((pages (some p) ++ []).count q : ℕ) : ℤ) = 1
        rw [List.append_nil, List.count_eq_one_of_mem hdistinct hq]
        rfl
      rw [hunder, hones]
      unfold pages
      rw [Option.elim_some, List.map_map]
      rfl

theorem takeSegment_step (k : Kernel) (h : Reassembling s st) (harrives : Arrives s x)
    (hone : x.1.nbuf.frags.length = 1) :
    Reassembling (takeSegment k s x) (parsed st x).1 ∧
      ∃ ys, (takeSegment k s x).passed = s.passed ++ ys ∧
        List.Forall₂ Delivered ((parsed st x).2.filter (pullable x)).toList ys := by
  have hhandled := handler_handled k (h.arrived harrives hone)
  have hpassed : (abortHead (arrive x.1 x.2.opaqueWord s)).passed = s.passed := by
    have hhead : (arrive x.1 x.2.opaqueWord s).host.head = none := h.head
    unfold abortHead
    rw [hhead]
    rfl
  have hnext := hhandled.of_passed s hpassed
  unfold takeSegment
  dsimp only
  generalize nssCoreHandleNrFragSkb k x.1 x.2 x.2.opaqueWord
    (abortHead (arrive x.1 x.2.opaqueWord s)) = r at hnext ⊢
  cases hout : (parsed st x).2.filter (pullable x) with
  | none =>
    rw [hout] at hnext
    rw [show r.2 = none from hnext.nbuf]
    refine ⟨⟨hnext.head, hnext.jumboStart, fun q hq => hnext.content q (.inl hq), hnext.refs,
      hnext.distinct⟩, [], ?_, .nil⟩
    rw [List.append_nil]
    exact hnext.passed
  | some p =>
    have hnone : (parsed st x).1 = none := parse_complete (Option.filter_eq_some_iff.mp hout).1
    rw [hout, hnone] at hnext
    have hnbuf : r.2 = some p.first.nbuf := hnext.nbuf
    rw [hnbuf] at hnext ⊢
    rw [hnone]
    obtain ⟨hreassembling, y, hy, hdelivered⟩ := passOn_reassembling x hnext
    exact ⟨hreassembling, [y], hy, .cons hdelivered .nil⟩

end Passes

/-- The frames to expect: what the parser completes and the header does not stop. -/
def expected : Option (Packet PageSegment) → List (RxEnv × N2hDescriptor) →
    List (Packet PageSegment)
  | _, [] => []
  | st, x :: xs => ((parsed st x).2.filter (pullable x)).toList ++ expected (parsed st x).1 xs

/-- The segment brings one page, and the held head has room for it. -/
def Fits (k : Kernel) (s : PagedHost) (x : RxEnv × N2hDescriptor) : Prop :=
  x.1.nbuf.frags.length = 1 ∧ overruns k s.host x.2 = false

/-- The held head has at most `MAX_SKB_FRAGS` pages. -/
def Bounded (k : Kernel) (s : PagedHost) : Prop :=
  ∀ a skb, s.host.jumboStart = some a → s.host.mem.heap a = some skb →
    skb.frags.length ≤ k.maxSkbFrags

section Stream
variable {k : Kernel} {x : RxEnv × N2hDescriptor} {s : PagedHost}
  {st : Option (Packet PageSegment)} {xs : List (RxEnv × N2hDescriptor)}

/-- A frame in the parser has no more segments than an skb has room for. -/
def Short (k : Kernel) (st : Option (Packet PageSegment)) : Prop :=
  ∀ p, st = some p → p.segments.length ≤ k.maxSkbFrags

theorem Reassembling.bounded (h : Reassembling s st) (hshort : Short k st) : Bounded k s := by
  intro a skb ha hskb
  rw [h.jumboStart] at ha
  obtain ⟨p, hp, rfl⟩ := Option.map_eq_some_iff.mp ha
  obtain ⟨-, skb', hskb', hbuilt⟩ := h.content p hp
  obtain rfl : skb' = skb := Option.some.inj (hskb'.symm.trans hskb)
  rw [hbuilt.frags, List.length_map]
  exact hshort p hp

theorem Short.parsed (h : Reassembling s st) (hmax : 1 ≤ k.maxSkbFrags)
    (hfits : Fits k s x) :
    Short k (parsed st x).1 ∧ Short k (PagedReassembly.parsed st x).2 := by
  have hone : Short k (some (alone x)) := by
    intro p hp
    obtain rfl := Option.some.inj hp
    exact hmax
  have hnothing : Short k none := fun p hp => nomatch hp
  have hmore : ∀ p, ((sameMode .paged st).map fun p => p.append (pageSegmentOf x)) = some p →
      isFirst x.2 = false → p.segments.length ≤ k.maxSkbFrags := by
    intro p hp hfirst
    obtain ⟨q, hq, rfl⟩ := Option.map_eq_some_iff.mp hp
    obtain ⟨hst, -⟩ := sameMode_eq_some hq
    obtain ⟨-, skb, hskb, hbuilt⟩ := h.content q hst
    have hroom := hfits.2
    unfold overruns at hroom
    rw [hfirst, h.jumboStart, hst] at hroom
    have hlt : ¬ k.maxSkbFrags ≤ s.host.mem.nrFrags q.first.nbuf := by simpa using hroom
    have hnr : s.host.mem.nrFrags q.first.nbuf = q.segments.length := by
      unfold Memory.nrFrags
      rw [hskb, Option.elim_some, hbuilt.frags, List.length_map]
    have hlength : (q.append (pageSegmentOf x)).segments.length = q.segments.length + 1 := by
      simp [Packet.segments]
    omega
  unfold PagedReassembly.parsed
  cases hfirst : isFirst x.2 with
  | true =>
    cases isLast x.2 with
    | true => exact ⟨hnothing, hone⟩
    | false => exact ⟨hone, hnothing⟩
  | false =>
    cases isLast x.2 with
    | true => exact ⟨hnothing, fun p hp => hmore p hp hfirst⟩
    | false => exact ⟨fun p hp => hmore p hp hfirst, hnothing⟩

theorem stream_reassembling (hmax : 1 ≤ k.maxSkbFrags) (h : Reassembling s st)
    (hshort : Short k st) (harrives : FoldGuard Arrives (takeSegment k) xs s)
    (hfits : FoldGuard (Fits k) (takeSegment k) xs s) :
    ∃ st' ys, Reassembling (xs.foldl (takeSegment k) s) st' ∧ Short k st' ∧
      (xs.foldl (takeSegment k) s).passed = s.passed ++ ys ∧
      List.Forall₂ Delivered (expected st xs) ys ∧
      ∀ p ∈ expected st xs, p.segments.length ≤ k.maxSkbFrags := by
  induction xs generalizing s st with
  | nil => exact ⟨st, [], h, hshort, (List.append_nil _).symm, .nil, fun p hp => nomatch hp⟩
  | cons x xs ih =>
    obtain ⟨hnext, ys, hys, hdelivered⟩ := takeSegment_step k h harrives.1 hfits.1.1
    obtain ⟨hshort', hout⟩ := Short.parsed h hmax hfits.1
    obtain ⟨st', zs, hlast, hlastShort, hzs, hrest, hall⟩ := ih hnext hshort' harrives.2 hfits.2
    refine ⟨st', ys ++ zs, hlast, hlastShort, ?_, List.rel_append hdelivered hrest, ?_⟩
    · rw [List.foldl_cons, hzs, hys, List.append_assoc]
    · intro p hp
      rcases List.mem_append.mp hp with hp | hp
      · exact hout p (Option.filter_eq_some_iff.mp (Option.mem_toList.mp hp)).1
      · exact hall p hp

end Stream

def unpaged (s : RxHost) : PagedHost := ⟨s, fun _ => 0, []⟩

/-- The pages of the head that waits for more segments. -/
def heldPages (s : PagedHost) : List U32 := s.host.jumboStart.elim [] (pagesOf s.host.mem)

/-- A delivered frame has the length of its segments and at most
    `MAX_SKB_FRAGS` pages. -/
structure Complete (k : Kernel) (p : Packet PageSegment) (y : Skb × List ℤ) : Prop where
  delivered : Delivered p y
  len : y.1.len.toNat = payload p.segments
  bounded : y.1.frags.length ≤ k.maxSkbFrags

structure Reassembled (k : Kernel) (xs : List (RxEnv × N2hDescriptor)) (s : PagedHost) : Prop where
  bounded : Bounded k s
  refs : ∀ q, s.refs q = if q ∈ heldPages s then 1 else 0
  passed : List.Forall₂ (Complete k) (expected none xs) s.passed

section Runs
variable {k : Kernel} {x : RxEnv × N2hDescriptor} {s : PagedHost}
  {st : Option (Packet PageSegment)} {p : Packet PageSegment}
  {xs : List (RxEnv × N2hDescriptor)}

theorem foldl_takeSegment_host (hpaged : ∀ x ∈ xs, Paged k x) (s : PagedHost) :
    (xs.foldl (takeSegment k) s).host = xs.foldl (feed k) s.host := by
  induction xs generalizing s with
  | nil => rfl
  | cons x xs ih =>
    rw [List.foldl_cons, ih (fun y hy => hpaged y (List.mem_cons_of_mem _ hy)),
      takeSegment_host (hpaged x (List.mem_cons_self ..)), List.foldl_cons]

theorem Fresh.reassembling {s : RxHost} (h : Fresh s) : Reassembling (unpaged s) none where
  head := h.head
  jumboStart := h.jumboStart
  content := fun _ hp => nomatch hp
  refs := fun _ => rfl
  distinct := List.nodup_nil

theorem Reassembling.heldPages_eq (h : Reassembling s st) : heldPages s = pages st := by
  unfold heldPages
  rw [h.jumboStart]
  cases st with
  | none => rfl
  | some p =>
    obtain ⟨-, skb, hskb, hbuilt⟩ := h.content p rfl
    show pagesOf s.host.mem p.first.nbuf = _
    unfold pagesOf
    rw [hskb]
    exact hbuilt.pages_eq

theorem Reassembling.refs_eq (h : Reassembling s st) (q : U32) :
    s.refs q = if q ∈ heldPages s then 1 else 0 := by
  rw [h.refs q, h.heldPages_eq]
  split
  case isTrue hin =>
    rw [List.count_eq_one_of_mem h.distinct hin]
    rfl
  case isFalse hout =>
    rw [List.count_eq_zero_of_not_mem hout]
    rfl

/-- The payload of at most `n` segments. -/
theorem payload_le (gs : List PageSegment) : payload gs ≤ gs.length * 65535 := by
  unfold payload
  induction gs with
  | nil => exact Nat.zero_le _
  | cons g gs ih =>
    have hsize := g.size.isLt
    rw [List.map_cons, List.sum_cons, List.length_cons]
    omega

theorem Delivered.complete {y : Skb × List ℤ} (h : Delivered p y) (hfew : k.maxSkbFrags ≤ 2 ^ 16)
    (hshort : p.segments.length ≤ k.maxSkbFrags) : Complete k p y where
  delivered := h
  len := by
    have hpayload := payload_le p.segments
    rw [h.built.len, BitVec.toNat_ofNat]
    exact Nat.mod_eq_of_lt (by omega)
  bounded := by
    rw [h.built.frags, List.length_map]
    exact hshort

/-- In every run of paged segments, however the descriptors fall into calls:
    as long as each skb brings one page and a head has room for it, pages and
    frames are as they should be. -/
theorem pages_reassembled {k : Kernel} {envs : ℕ → RxEnv} {s : RxHost}
    {c : QueuePool (ℕ × RxHost)} (fresh : Fresh s)
    (run : Reachable (Idle (Start s)) (StreamStep k envs) c)
    (hmax : 0 < k.maxSkbFrags) (hfew : k.maxSkbFrags ≤ 2 ^ 16)
    (paged : ∀ x ∈ inputs envs c.shared.ring.processed, Paged k x)
    (arrives : FoldGuard Arrives (takeSegment k) (inputs envs c.shared.ring.processed) (unpaged s))
    (fits : FoldGuard (Fits k) (takeSegment k) (inputs envs c.shared.ring.processed) (unpaged s)) :
    ∃ t : PagedHost, t = (inputs envs c.shared.ring.processed).foldl (takeSegment k) (unpaged s) ∧
      t.host = c.shared.host.2 ∧ Reassembled k (inputs envs c.shared.ring.processed) t := by
  obtain ⟨st, ys, hlast, hshort, hpassed, hdelivered, hall⟩ :=
    stream_reassembling hmax (Fresh.reassembling fresh) (fun p hp => nomatch hp) arrives fits
  refine ⟨_, rfl, ?_, hlast.bounded hshort, hlast.refs_eq, ?_⟩
  · rw [foldl_takeSegment_host paged, (reachable_stream run).2]
    rfl
  · rw [hpassed]
    show List.Forall₂ (Complete k) _ ([] ++ ys)
    rw [List.nil_append]
    obtain ⟨hlength, hzip⟩ := List.forall₂_iff_zip.mp hdelivered
    refine List.forall₂_iff_zip.mpr ⟨hlength, fun {p y} hy => ?_⟩
    exact (hzip hy).complete hfew (hall p (List.of_mem_zip hy).1)

end Runs

def pageSkb (page : U32) : Skb := { linearSkb with frags := [⟨page, 0, 0⟩] }

def pagedEnvs (i : ℕ) : RxEnv := bareEnv (pageSkb (BitVec.ofNat 32 i))

theorem pages_reassembled_two : ∃ c : QueuePool (ℕ × RxHost),
    Reachable (Idle (Start freshHost)) (StreamStep lowmem pagedEnvs) c ∧
      c.shared.ring.processed = chainOfTwo ∧
      ∃ t : PagedHost, t.host = c.shared.host.2 ∧ t.passed.length = 1 ∧
        Reassembled lowmem (inputs pagedEnvs c.shared.ring.processed) t := by
  obtain ⟨c, hc⟩ : ∃ c, (handedOver freshHost chainOfTwo).follow
      (serveAll lowmem pagedEnvs chainOfTwo) = some c := ⟨_, rfl⟩
  have hreach := serveAll_reachable lowmem _ freshHost chainOfTwo (by decide) hc
  have hprocessed : c.shared.ring.processed = chainOfTwo := by
    obtain rfl := Option.some.inj hc
    rfl
  have hpaged : ∀ x ∈ inputs pagedEnvs c.shared.ring.processed, Paged lowmem x := by
    rw [hprocessed]
    intro x hx
    simp only [chainOfTwo, inputs, List.mapIdx_cons, List.mapIdx_nil, List.mem_cons,
      List.not_mem_nil, or_false] at hx
    rcases hx with rfl | rfl
    · exact ⟨rfl, rfl, Nat.one_pos⟩
    · exact ⟨rfl, rfl, Nat.one_pos⟩
  have harrives : FoldGuard Arrives (takeSegment lowmem)
      (inputs pagedEnvs c.shared.ring.processed) (unpaged freshHost) := by
    rw [hprocessed]
    refine ⟨⟨rfl, rfl, ?_⟩, ⟨rfl, rfl, ?_⟩, trivial⟩
    · intro frag hfrag
      obtain rfl := List.mem_singleton.mp hfrag
      rfl
    · intro frag hfrag
      obtain rfl := List.mem_singleton.mp hfrag
      rfl
  have hfits : FoldGuard (Fits lowmem) (takeSegment lowmem)
      (inputs pagedEnvs c.shared.ring.processed) (unpaged freshHost) := by
    rw [hprocessed]
    exact ⟨⟨rfl, rfl⟩, ⟨rfl, rfl⟩, trivial⟩
  obtain ⟨t, ht, hhost, hreassembled⟩ :=
    pages_reassembled freshHost_fresh hreach (by decide) (by decide) hpaged harrives hfits
  refine ⟨c, hreach, hprocessed, t, hhost, ?_, hreassembled⟩
  rw [ht, hprocessed]
  rfl

/-- A middle segment of a frame, whose donor lies at `donor`. -/
structure Middle (k : Kernel) (donor : U32) (x : RxEnv × N2hDescriptor) : Prop where
  paged : Paged k x
  nbuf : x.2.opaqueWord = donor
  first : isFirst x.2 = false
  last : isLast x.2 = false
  one : x.1.nbuf.frags.length = 1
  plain : x.1.nbuf.fragList.first = none

section Long
variable {k : Kernel} {donor : U32} {x : RxEnv × N2hDescriptor} {s : PagedHost}
  {p : Packet PageSegment} {xs : List (RxEnv × N2hDescriptor)}

theorem middle_freed (h : Reassembling s (some p)) (hx : Middle k donor x) :
    (takeSegment k s x).host.mem.heap donor = none := by
  obtain ⟨-, rfl, hfirst, hlast, -, -⟩ := hx
  have habort : abortHead (arrive x.1 x.2.opaqueWord s) = arrive x.1 x.2.opaqueWord s := by
    have hhead : (arrive x.1 x.2.opaqueWord s).host.head = none := h.head
    unfold abortHead
    rw [hhead]
  let t := (arrive x.1 x.2.opaqueWord s).onHost (.count .fragSegProcessed 1)
  have hjumbo : t.host.jumboStart = some p.first.nbuf := h.jumboStart
  let u := (t.onHost (.onMem fun m => m.addRxFrag p.first.nbuf k.maxSkbFrags
    ⟨t.host.mem.page x.2.opaqueWord, x.2.payloadOffs, x.2.payloadLen⟩)).take
      [t.host.mem.page x.2.opaqueWord]
  have hu : nssCoreHandleNrFragSkb k x.1 x.2 x.2.opaqueWord
      (abortHead (arrive x.1 x.2.opaqueWord s)) = (u.kfreeSkb x.2.opaqueWord, none) := by
    unfold nssCoreHandleNrFragSkb
    rw [habort, hfirst, hlast]
    show pagedMiddle k x.1 x.2 x.2.opaqueWord t = _
    unfold pagedMiddle
    rw [hjumbo, hlast]
    rfl
  unfold takeSegment
  dsimp only
  rw [hu]
  exact kfreeSkb_self u.host.mem x.2.opaqueWord

theorem Reassembling.arrives (h : Reassembling s (some p)) (hx : Middle k donor x)
    (hfree : s.host.mem.heap donor = none)
    (hnew : (pageSegmentOf x).page ∉ pages (some p)) : Arrives s x := by
  obtain ⟨frag, hfrags⟩ := List.length_eq_one_iff.mp hx.one
  refine ⟨hx.nbuf ▸ hfree, hx.plain, fun f hf => ?_⟩
  rw [hfrags] at hf
  obtain rfl := List.mem_singleton.mp hf
  have hpage : (pageSegmentOf x).page = f.page := by
    unfold pageSegmentOf
    rw [hfrags]
    rfl
  rw [← hpage, h.refs, List.count_eq_zero_of_not_mem hnew]
  rfl

/-- Middle segments are taken one after another, whatever the head has room for. -/
theorem middles_taken (h : Reassembling s (some p)) (hfree : s.host.mem.heap donor = none)
    (hmiddle : ∀ x ∈ xs, Middle k donor x)
    (nodup : (pages (some p) ++ xs.map fun x => (pageSegmentOf x).page).Nodup) :
    FoldGuard Arrives (takeSegment k) xs s ∧
      Reassembling (xs.foldl (takeSegment k) s)
        (some { p with rest := p.rest ++ xs.map pageSegmentOf }) := by
  induction xs generalizing s p with
  | nil => exact ⟨trivial, by simpa using h⟩
  | cons x xs ih =>
    have hx := hmiddle x (List.mem_cons_self ..)
    have hnew : (pageSegmentOf x).page ∉ pages (some p) := fun hin =>
      List.disjoint_of_nodup_append nodup hin (List.mem_cons_self ..)
    have harrives := h.arrives hx hfree hnew
    obtain ⟨hnext, -⟩ := takeSegment_step k h harrives hx.one
    have hparsed : (parsed (some p) x).1 = some (p.append (pageSegmentOf x)) := by
      have hsame : sameMode .paged (some p) = some p := by
        rw [sameMode_some, if_pos (h.content p rfl).1]
      simp [parsed, parse, hx.first, hx.last, hsame]
    rw [hparsed] at hnext
    obtain ⟨hguard, hlast⟩ := ih hnext (middle_freed h hx)
      (fun y hy => hmiddle y (List.mem_cons_of_mem _ hy)) (by
        simpa [pages, Packet.segments, List.append_assoc] using nodup)
    refine ⟨⟨harrives, hguard⟩, ?_⟩
    simpa [Packet.append, List.append_assoc] using hlast

end Long

def firstSegment : N2hDescriptor :=
  segment 0xC0001000 N2H_BUFFER_PACKET N2H_BIT_FLAG_FIRST_SEGMENT 100

/-- More middle segments than an skb has room for, behind the first. -/
def moreSegments : List N2hDescriptor :=
  List.replicate 17 (segment 0xC0002000 N2H_BUFFER_PACKET 0 100)

def firstPage : RxEnv × N2hDescriptor := (pagedEnvs 0, firstSegment)

def morePages : List (RxEnv × N2hDescriptor) := inputs (fun i => pagedEnvs (i + 1)) moreSegments

theorem morePages_middle {x : RxEnv × N2hDescriptor} (hx : x ∈ morePages) :
    Middle lowmem 0xC0002000 x := by
  obtain ⟨i, hi, rfl⟩ := List.mem_mapIdx.mp hx
  have hsame : moreSegments[i] = segment 0xC0002000 N2H_BUFFER_PACKET 0 100 :=
    List.getElem_replicate ..
  have hflags : ((0 : U16) &&& N2H_BIT_FLAG_FIRST_SEGMENT != 0) = false ∧
      ((0 : U16) &&& N2H_BIT_FLAG_LAST_SEGMENT != 0) = false := by decide
  rw [hsame]
  exact ⟨⟨rfl, rfl, Nat.one_pos⟩, rfl, hflags.1, hflags.2, rfl, rfl⟩

theorem longFrame_pages : (pages (some (alone firstPage)) ++
    morePages.map fun x => (pageSegmentOf x).page).Nodup := by
  have hpages : pages (some (alone firstPage)) ++ morePages.map (fun x => (pageSegmentOf x).page) =
      (List.range 18).map (BitVec.ofNat 32) := rfl
  rw [hpages]
  decide

theorem longFrame_reassembling : FoldGuard Arrives (takeSegment lowmem) (firstPage :: morePages)
      (unpaged freshHost) ∧
    Reassembling ((firstPage :: morePages).foldl (takeSegment lowmem) (unpaged freshHost))
      (some { alone firstPage with
        rest := (alone firstPage).rest ++ morePages.map pageSegmentOf }) := by
  have hfirst : Arrives (unpaged freshHost) firstPage := ⟨rfl, rfl, fun _ _ => rfl⟩
  obtain ⟨hhead, -⟩ := takeSegment_step lowmem (Fresh.reassembling freshHost_fresh) hfirst rfl
  have hparsed : (parsed none firstPage).1 = some (alone firstPage) := rfl
  rw [hparsed] at hhead
  have hfree : (takeSegment lowmem (unpaged freshHost) firstPage).host.mem.heap 0xC0002000 =
      none := by decide
  obtain ⟨hguard, hlast⟩ := middles_taken hhead hfree (fun _ => morePages_middle) longFrame_pages
  rw [List.foldl_cons]
  exact ⟨⟨hfirst, hguard⟩, hlast⟩

/-- The head of a long frame gets more pages than `MAX_SKB_FRAGS`. -/
theorem long_frame_overruns : ∃ c : QueuePool (ℕ × RxHost),
    Reachable (Idle (Start freshHost)) (StreamStep lowmem pagedEnvs) c ∧
      (∀ x ∈ inputs pagedEnvs c.shared.ring.processed, Paged lowmem x) ∧
      FoldGuard Arrives (takeSegment lowmem) (inputs pagedEnvs c.shared.ring.processed)
        (unpaged freshHost) ∧
      ¬ Bounded lowmem ((inputs pagedEnvs c.shared.ring.processed).foldl (takeSegment lowmem)
        (unpaged freshHost)) := by
  obtain ⟨c, hc⟩ := stream_drained lowmem pagedEnvs freshHost (firstSegment :: moreSegments)
  have hinputs : inputs pagedEnvs (firstSegment :: moreSegments) = firstPage :: morePages :=
    List.mapIdx_cons ..
  refine ⟨c, hc.reachable, ?_⟩
  rw [hc.processed, hinputs]
  obtain ⟨hguard, hlast⟩ := longFrame_reassembling
  refine ⟨?_, hguard, fun hbounded => ?_⟩
  · intro x hx
    rcases List.mem_cons.mp hx with rfl | hx
    · exact ⟨rfl, rfl, Nat.one_pos⟩
    · exact (morePages_middle hx).paged
  · obtain ⟨-, skb, hskb, hbuilt⟩ := hlast.content _ rfl
    have hle := hbounded _ skb hlast.jumboStart hskb
    rw [hbuilt.frags] at hle
    exact absurd hle (by decide)

end NssDrv.PagedReassembly

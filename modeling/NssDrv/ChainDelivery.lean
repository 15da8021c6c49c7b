import NssDrv.ReceiveBounds

set_option autoImplicit false

/-!
# What the host receives of a stream

The packets passed to `nss_core_rx_pbuf` over a whole run, against the segment
parser fed with the same descriptors.
-/
namespace NssDrv.ChainDelivery
open HlosInterface SkbMemory ReceivePath SegmentParser ReceiveAssembly ReceiveDelivery
open ReceiveQueue ReceiveStream SkbOwnership ReceiveBounds ThreadPool TransitionRuns

/-- The packets to expect, each with the descriptor that completes it. -/
def reference (k : Kernel) : Option (Packet Segment) → List (RxEnv × N2hDescriptor) →
    List (N2hDescriptor × Delivery)
  | _, [] => []
  | st, (env, d) :: xs =>
    (delivery k env d st).toList.map (fun x => (d, x)) ++
      reference k (parse st (segmentOf env d) (event k env d)).1 xs

structure Delivers (y : N2hDescriptor × Delivery) (r : Received) : Prop where
  bufferType : r.bufferType = y.1.bufferType
  interfaceNum : r.interfaceNum = y.1.interfaceNum
  nbuf : r.nbuf = y.2.package.1
  chain : r.chain = y.2.package.2
  skb : ∃ skb, r.skb = some skb ∧ y.2.Shows skb

/-- The skb of a data descriptor: linear, and with no frag_list of its own. -/
structure LinearData (k : Kernel) (x : RxEnv × N2hDescriptor) : Prop where
  handsOver : handsOver k x.2 = true
  data : passesThrough x.2 = false
  linear : x.1.nbuf.frags = []
  plain : x.1.nbuf.fragList = .empty

def linearTag (x : RxEnv × N2hDescriptor) : Segment × Event :=
  (segmentOf x.1 x.2, .segment .linear (isFirst x.2) (isLast x.2))

/-- A linear FIRST segment brings no frag_list. -/
def Plain (k : Kernel) (x : RxEnv × N2hDescriptor) : Prop := event k x.1 x.2 ≠ .refused

section Stream
variable {k : Kernel} {s : RxHost} {st : Option (Packet Segment)} {loose : List Package}
  {xs : List (RxEnv × N2hDescriptor)}

theorem LinearData.event_eq {x : RxEnv × N2hDescriptor} (h : LinearData k x) :
    event k x.1 x.2 = .segment .linear (isFirst x.2) (isLast x.2) := by
  simp [event, h.handsOver, h.data, h.linear, linearEvent, Skb.hasFragList, h.plain]

theorem LinearData.parsed {x : RxEnv × N2hDescriptor} (h : LinearData k x) :
    (delivery k x.1 x.2 st) =
      (parse st (segmentOf x.1 x.2) (linearTag x).2).2.map .packet := by
  have hthrough : (ReceiveAssembly.handsOver k x.2 && passesThrough x.2) = false := by simp [h.data]
  rw [delivery, hthrough, completed, h.event_eq, linearTag]
  cases hp : (parse st (segmentOf x.1 x.2) (.segment .linear (isFirst x.2) (isLast x.2))).2 with
  | none => simp
  | some p => simp [Option.filter, deliverable, parse_mode hp]

theorem reference_linear (st : Option (Packet Segment)) (h : ∀ x ∈ xs, LinearData k x) :
    (reference k st xs).map Prod.snd = (parseAll st (xs.map linearTag)).2.map .packet := by
  induction xs generalizing st with
  | nil => rfl
  | cons x xs ih =>
    have hx := h x (List.mem_cons_self ..)
    have hrest := ih (parse st (segmentOf x.1 x.2) (linearTag x).2).1
      fun y hy => h y (List.mem_cons_of_mem _ hy)
    have hstep : ((delivery k x.1 x.2 st).toList.map fun y => (x.2, y)).map Prod.snd =
        (parse st (segmentOf x.1 x.2) (linearTag x).2).2.toList.map .packet := by
      rw [hx.parsed]
      cases (parse st (segmentOf x.1 x.2) (linearTag x).2).2 <;> rfl
    have hevent : event k x.1 x.2 = (linearTag x).2 := hx.event_eq
    obtain ⟨env, d⟩ := x
    rw [reference, List.map_append, hstep, hevent, hrest, ← List.map_append]
    rfl

theorem delivers_of_shown {env : RxEnv} {d : N2hDescriptor} {s' : RxHost} {x : Option Delivery}
    (h : Shown env d x s s') : ∃ rs, s'.received = s.received ++ rs ∧
      List.Forall₂ Delivers (x.toList.map fun y => (d, y)) rs := by
  cases x with
  | none => exact ⟨[], by simpa using h.1, .nil⟩
  | some y =>
    obtain ⟨skb, hshows, hreceived, _⟩ := h
    exact ⟨_, hreceived, .cons ⟨rfl, rfl, rfl, rfl, skb, rfl, hshows⟩ .nil⟩

theorem stream_delivers (h : Tracks s st loose) (distinct : FoldGuard (Distinct k) (feed k) xs s)
    (plain : ∀ x ∈ xs, Plain k x) : ∃ rs, (xs.foldl (feed k) s).received = s.received ++ rs ∧
      List.Forall₂ Delivers (reference k st xs) rs := by
  induction xs generalizing s st loose with
  | nil => exact ⟨[], (List.append_nil _).symm, .nil⟩
  | cons x xs ih =>
    obtain ⟨env, d⟩ := x
    have hplain : Plain k (env, d) := plain _ (List.mem_cons_self ..)
    have hout := processDescriptor_outcome h distinct.1 fun he => (hplain he).elim
    obtain ⟨rs, hreceived, hrs⟩ := delivers_of_shown hout.shown
    obtain ⟨rs', hrest, hrs'⟩ := ih hout.tracks distinct.2 fun y hy =>
      plain y (List.mem_cons_of_mem _ hy)
    refine ⟨rs ++ rs', ?_, List.rel_append hrs hrs'⟩
    rw [List.foldl_cons, ← List.append_assoc, ← hreceived]
    exact hrest

end Stream

/-- In every run, however the descriptors fall into calls, the packets received
    are those the parser finds in the descriptors processed; on linear data that
    is the grammar of chains. -/
theorem chains_delivered {k : Kernel} {envs : ℕ → RxEnv} {s : RxHost} {c : QueuePool (ℕ × RxHost)}
    (fresh : Fresh s) (quiet : s.received = [])
    (run : Reachable (Idle (Start s)) (StreamStep k envs) c)
    (distinct : FoldGuard (Distinct k) (feed k) (inputs envs c.shared.ring.processed) s)
    (plain : ∀ x ∈ inputs envs c.shared.ring.processed, Plain k x) :
    c.shared.host.2 = (inputs envs c.shared.ring.processed).foldl (feed k) s ∧
      List.Forall₂ Delivers (reference k none (inputs envs c.shared.ring.processed))
        c.shared.host.2.received ∧
      ((∀ x ∈ inputs envs c.shared.ring.processed, LinearData k x) →
        (reference k none (inputs envs c.shared.ring.processed)).map Prod.snd =
          (parseAll none ((inputs envs c.shared.ring.processed).map linearTag)).2.map .packet) ∧
      ∀ (p : Packet Segment) (g : Segment) (mode : Mode) (first last : Bool),
        first = true ∨ mode ≠ p.mode →
          parse (some p) g (.segment mode first last) = parse none g (.segment mode first last) := by
  have hhost := (reachable_stream run).2
  obtain ⟨rs, hreceived, hrs⟩ := stream_delivers fresh.tracks distinct plain
  refine ⟨hhost, ?_, reference_linear none, fun p g mode first last h => parse_interrupted h g last⟩
  rw [hhost, hreceived, quiet, List.nil_append]
  exact hrs

theorem chains_delivered_two : ∃ c : QueuePool (ℕ × RxHost),
    Reachable (Idle (Start freshHost)) (StreamStep lowmem fun _ => bareEnv linearSkb) c ∧
      c.shared.ring.processed = chainOfTwo ∧
      List.Forall₂ Delivers
        (reference lowmem none (inputs (fun _ => bareEnv linearSkb) c.shared.ring.processed))
        c.shared.host.2.received := by
  obtain ⟨c, hc⟩ : ∃ c, (handedOver freshHost chainOfTwo).follow
      (serveAll lowmem (fun _ => bareEnv linearSkb) chainOfTwo) = some c := ⟨_, rfl⟩
  have hreach := serveAll_reachable lowmem _ freshHost chainOfTwo (by decide) hc
  have hprocessed : c.shared.ring.processed = chainOfTwo := by
    obtain rfl := Option.some.inj hc
    rfl
  refine ⟨c, hreach, hprocessed, (chains_delivered freshHost_fresh rfl hreach ?_ ?_).2.1⟩
  · rw [hprocessed]
    refine ⟨fun _ => ⟨rfl, rfl⟩, fun _ => ⟨?_, rfl⟩, trivial⟩
    rfl
  · rw [hprocessed]
    intro x hx hrefused
    simp only [chainOfTwo, inputs, List.mapIdx_cons, List.mapIdx_nil, List.mem_cons,
      List.not_mem_nil, or_false] at hx
    rcases hx with rfl | rfl
    · exact absurd hrefused (by decide)
    · exact absurd hrefused (by decide)

section Long
variable {k : Kernel} {s : RxHost} {p : Packet Segment} {xs : List (RxEnv × N2hDescriptor)}

theorem heap_free (h : Tracks s (some p) []) (hmode : p.mode = .linear) {a : U32}
    (ha : a ∉ p.segments.map Segment.nbuf) : s.mem.heap a = none := by
  by_contra hne
  have hlive := (h.holds.live a).mp (Option.isSome_iff_ne_none.mpr hne)
  simp only [Option.map_some, Option.toList_some, List.append_nil, packageOf, hmode] at hlive
  exact ha (by simpa [Packet.segments] using hlive)

theorem middles_tracked (h : Tracks s (some p) []) (hmode : p.mode = .linear)
    (hmiddle : ∀ x ∈ xs, LinearData k x ∧ isFirst x.2 = false ∧ isLast x.2 = false)
    (nodup : (p.segments.map Segment.nbuf ++ xs.map fun x => x.2.opaqueWord).Nodup) :
    FoldGuard (Distinct k) (feed k) xs s ∧
      Tracks (xs.foldl (feed k) s)
        (some { p with rest := p.rest ++ xs.map fun x => segmentOf x.1 x.2 }) [] := by
  induction xs generalizing s p with
  | nil => exact ⟨trivial, by simpa using h⟩
  | cons x xs ih =>
    obtain ⟨hlinear, hf, hl⟩ := hmiddle x (List.mem_cons_self ..)
    have hnew : x.2.opaqueWord ∉ p.segments.map Segment.nbuf := by
      intro hin
      exact List.disjoint_of_nodup_append nodup hin (List.mem_cons_self ..)
    have hand : Distinct k s x := fun _ =>
      ⟨heap_free h hmode hnew, by rw [hlinear.plain]; rfl⟩
    have hevent : event k x.1 x.2 = .segment p.mode false false := by
      rw [hlinear.event_eq, hf, hl, hmode]
    have hparse : parse (some p) (segmentOf x.1 x.2) (event k x.1 x.2) =
        (some (p.append (segmentOf x.1 x.2)), none) := by
      rw [hevent]
      simp [parse]
    have hout := processDescriptor_outcome h hand fun he => by rw [hevent] at he; cases he
    have htracks := hout.tracks
    have hnone : leaked k x.1 x.2 (some p) = none := by
      have hdelivery : delivery k x.1 x.2 (some p) = none := by
        rw [hlinear.parsed, linearTag, ← hlinear.event_eq, hparse]
        rfl
      rw [leaked, hdelivery]
      split <;> rfl
    rw [hparse, hnone] at htracks
    have hrest := ih (p := p.append (segmentOf x.1 x.2)) htracks hmode
      (fun y hy => hmiddle y (List.mem_cons_of_mem _ hy)) (by
        simpa [Packet.segments, List.append_assoc] using nodup)
    refine ⟨⟨hand, hrest.1⟩, ?_⟩
    have hlast := hrest.2
    simp only [Packet.append, List.append_assoc, List.singleton_append] at hlast
    exact hlast

theorem chain_distinct {x y : RxEnv × N2hDescriptor} (h : Tracks s none [])
    (hx : LinearData k x ∧ isFirst x.2 = true ∧ isLast x.2 = false)
    (hmiddle : ∀ z ∈ xs, LinearData k z ∧ isFirst z.2 = false ∧ isLast z.2 = false)
    (hy : LinearData k y)
    (nodup : ((x :: xs ++ [y]).map fun z => z.2.opaqueWord).Nodup) :
    FoldGuard (Distinct k) (feed k) (x :: xs ++ [y]) s := by
  obtain ⟨hlinear, hf, hl⟩ := hx
  have hempty (a : U32) : s.mem.heap a = none := by
    by_contra hne
    have hlive := (h.holds.live a).mp (Option.isSome_iff_ne_none.mpr hne)
    cases hlive
  have hand : Distinct k s x := fun _ => ⟨hempty _, by rw [hlinear.plain]; rfl⟩
  have hevent : event k x.1 x.2 = .segment .linear true false := by
    rw [hlinear.event_eq, hf, hl]
  have htracks := (processDescriptor_outcome h hand fun _ => rfl).tracks
  have hnone : leaked k x.1 x.2 none = none := by
    rw [leaked, hlinear.parsed, linearTag, ← hlinear.event_eq, hevent]
    split <;> rfl
  rw [hevent, hnone] at htracks
  have hfirst : Tracks (feed k s x) (some ⟨.linear, segmentOf x.1 x.2, []⟩) [] := htracks
  have hmap : (x :: xs ++ [y]).map (fun z => z.2.opaqueWord) =
      ([segmentOf x.1 x.2].map Segment.nbuf ++ xs.map fun z => z.2.opaqueWord) ++
        [y.2.opaqueWord] := by simp
  rw [hmap] at nodup
  obtain ⟨hguard, hchain⟩ := middles_tracked hfirst rfl hmiddle (List.Nodup.of_append_left nodup)
  have hnew : y.2.opaqueWord ∉
      (segmentOf x.1 x.2 :: xs.map fun z => segmentOf z.1 z.2).map Segment.nbuf := by
    intro hin
    refine List.disjoint_of_nodup_append nodup ?_ (List.mem_singleton_self _)
    simpa using hin
  have hlast : Distinct k (xs.foldl (feed k) (feed k s x)) y := fun _ =>
    ⟨heap_free hchain rfl hnew, by rw [hy.plain]; rfl⟩
  exact ⟨hand, hguard.append ⟨hlast, trivial⟩⟩

end Long

/-- A segment of the greatest length, at its own address. -/
def farSegment (i : ℕ) (bitFlags : U16) : N2hDescriptor :=
  segment (BitVec.ofNat 32 (0xC0000000 + i)) N2H_BUFFER_PACKET bitFlags 0xFFFF

/-- A chain of such segments, `n` of them in the middle. -/
def farChain (n : ℕ) : List N2hDescriptor :=
  farSegment 0 N2H_BIT_FLAG_FIRST_SEGMENT :: ((List.range n).map fun i => farSegment (i + 1) 0) ++
    [farSegment (n + 1) N2H_BIT_FLAG_LAST_SEGMENT]

theorem inputs_same (e : RxEnv) (ds : List N2hDescriptor) :
    inputs (fun _ => e) ds = ds.map fun d => (e, d) := by
  induction ds with
  | nil => rfl
  | cons d ds ih =>
    rw [inputs, List.mapIdx_cons]
    exact congrArg ((e, d) :: ·) ih

@[simp] theorem farSegment_first (i : ℕ) (bitFlags : U16) :
    isFirst (farSegment i bitFlags) = (bitFlags &&& N2H_BIT_FLAG_FIRST_SEGMENT != 0) := rfl

@[simp] theorem farSegment_last (i : ℕ) (bitFlags : U16) :
    isLast (farSegment i bitFlags) = (bitFlags &&& N2H_BIT_FLAG_LAST_SEGMENT != 0) := rfl

theorem farSegment_linear {i : ℕ} (hi : i < 2 ^ 30) (bitFlags : U16) :
    LinearData lowmem (bareEnv linearSkb, farSegment i bitFlags) := by
  have haddr : ¬ (farSegment i bitFlags).opaqueWord < lowmem.pageOffset := by
    rw [BitVec.not_lt]
    change (0xC0000000#32).toNat ≤ (BitVec.ofNat 32 (0xC0000000 + i)).toNat
    rw [BitVec.toNat_ofNat, BitVec.toNat_ofNat]
    omega
  refine ⟨?_, rfl, rfl, rfl⟩
  simp only [handsOver, haddr, decide_false, Bool.not_false, Bool.and_true]
  rfl

theorem farChain_addresses (n : ℕ) : (farChain n).map N2hDescriptor.opaqueWord =
    (List.range (n + 2)).map fun i => BitVec.ofNat 32 (0xC0000000 + i) := by
  rw [List.range_succ, List.range_succ_eq_map]
  simp only [farChain, List.map_append, List.map_cons, List.map_map, List.map_nil]
  rfl

theorem farChain_nodup {n : ℕ} (hn : n + 2 < 2 ^ 30) :
    ((farChain n).map N2hDescriptor.opaqueWord).Nodup := by
  rw [farChain_addresses]
  refine List.Nodup.map_on (fun i hi j hj heq => ?_) List.nodup_range
  have hnat := congrArg BitVec.toNat heq
  rw [List.mem_range] at hi hj
  rw [BitVec.toNat_ofNat, BitVec.toNat_ofNat] at hnat
  omega

/-- The segments of such a chain, and the one packet they are. -/
def farPacket (n : ℕ) : Packet Segment :=
  ⟨.linear, segmentOf (bareEnv linearSkb) (farSegment 0 N2H_BIT_FLAG_FIRST_SEGMENT),
    ((List.range n).map fun i => segmentOf (bareEnv linearSkb) (farSegment (i + 1) 0)) ++
      [segmentOf (bareEnv linearSkb) (farSegment (n + 1) N2H_BIT_FLAG_LAST_SEGMENT)]⟩

theorem farPacket_total (n : ℕ) : total (farPacket n).segments = (n + 2) * 65535 := by
  simp only [total, farPacket, Packet.segments, List.map_cons, List.map_append, List.map_map,
    List.map_nil, Function.comp_def, List.sum_cons, List.sum_append, List.sum_nil]
  change 65535 + (((List.range n).map fun _ => 65535).sum + (65535 + 0)) = _
  rw [List.map_const', List.sum_replicate_nat, List.length_range]
  ring

theorem farChain_parse (n : ℕ) :
    (parseAll none (((farChain n).map fun d => (bareEnv linearSkb, d)).map linearTag)).2 =
      [farPacket n] := by
  let seg (i : ℕ) (bitFlags : U16) := segmentOf (bareEnv linearSkb) (farSegment i bitFlags)
  have htags : ((farChain n).map fun d => (bareEnv linearSkb, d)).map linearTag =
      (seg 0 N2H_BIT_FLAG_FIRST_SEGMENT, .segment .linear true false) ::
        (((List.range n).map fun i => seg (i + 1) 0).map fun g => (g, .segment .linear false false)) ++
          [(seg (n + 1) N2H_BIT_FLAG_LAST_SEGMENT, .segment .linear false true)] := by
    simp only [farChain, List.map_append, List.map_cons, List.map_map, List.map_nil,
      Function.comp_def, linearTag, farSegment_first, farSegment_last]
    rfl
  rw [htags, parseAll_chain]
  rfl

theorem farChain_linear {n : ℕ} (hn : n + 2 < 2 ^ 30) {d : N2hDescriptor} (hd : d ∈ farChain n) :
    LinearData lowmem (bareEnv linearSkb, d) := by
  simp only [farChain, List.mem_append, List.mem_cons, List.mem_map, List.mem_range,
    List.not_mem_nil, or_false] at hd
  rcases hd with (rfl | ⟨i, hi, rfl⟩) | rfl
  · exact farSegment_linear (by omega) _
  · exact farSegment_linear (by omega) _
  · exact farSegment_linear (by omega) _

theorem farChain_distinct {n : ℕ} (hn : n + 2 < 2 ^ 30) :
    FoldGuard (Distinct lowmem) (feed lowmem) ((farChain n).map fun d => (bareEnv linearSkb, d))
      freshHost := by
  have hnodup := farChain_nodup hn
  have hall (d : N2hDescriptor) (hd : d ∈ farChain n) := farChain_linear hn hd
  have hsplit : (farChain n).map (fun d => (bareEnv linearSkb, d)) =
      (bareEnv linearSkb, farSegment 0 N2H_BIT_FLAG_FIRST_SEGMENT) ::
        ((List.range n).map fun i => (bareEnv linearSkb, farSegment (i + 1) 0)) ++
          [(bareEnv linearSkb, farSegment (n + 1) N2H_BIT_FLAG_LAST_SEGMENT)] := by
    simp only [farChain, List.map_append, List.map_cons, List.map_map, List.map_nil]
    rfl
  have haddr : ((farChain n).map fun d => (bareEnv linearSkb, d)).map
      (fun z => z.2.opaqueWord) = (farChain n).map N2hDescriptor.opaqueWord := by
    rw [List.map_map]
    rfl
  rw [← haddr] at hnodup
  rw [hsplit] at hnodup ⊢
  refine chain_distinct freshHost_fresh.tracks ⟨farSegment_linear (by omega) _, rfl, rfl⟩ ?_
    (farSegment_linear (by omega) _) hnodup
  intro z hz
  obtain ⟨i, hi, rfl⟩ := List.mem_map.mp hz
  rw [List.mem_range] at hi
  exact ⟨farSegment_linear (by omega) _, by rw [farSegment_first]; decide,
    by rw [farSegment_last]; decide⟩

/-- A chain of more than four gigabytes: the length of its head is short. -/
theorem long_chain_wraps : ∃ c : QueuePool (ℕ × RxHost),
    Reachable (Idle (Start freshHost)) (StreamStep lowmem fun _ => bareEnv linearSkb) c ∧
      FoldGuard (Distinct lowmem) (feed lowmem)
        (inputs (fun _ => bareEnv linearSkb) c.shared.ring.processed) freshHost ∧
      (∀ x ∈ inputs (fun _ => bareEnv linearSkb) c.shared.ring.processed, LinearData lowmem x) ∧
      ∃ p r skb, (parseAll none ((inputs (fun _ => bareEnv linearSkb)
          c.shared.ring.processed).map linearTag)).2 = [p] ∧
        c.shared.host.2.received = [r] ∧ r.skb = some skb ∧
        skb.len.toNat ≠ total p.segments := by
  obtain ⟨c, hc⟩ := stream_drained lowmem (fun _ => bareEnv linearSkb) freshHost (farChain 65536)
  have hhost := (reachable_stream hc.reachable).2
  have hdistinct := farChain_distinct (n := 65536) (by decide)
  have hall (x : RxEnv × N2hDescriptor)
      (hx : x ∈ (farChain 65536).map fun d => (bareEnv linearSkb, d)) : LinearData lowmem x := by
    obtain ⟨d, hd, rfl⟩ := List.mem_map.mp hx
    exact farChain_linear (by decide) hd
  have hplain (x : RxEnv × N2hDescriptor)
      (hx : x ∈ (farChain 65536).map fun d => (bareEnv linearSkb, d)) : Plain lowmem x := by
    intro hrefused
    rw [(hall x hx).event_eq] at hrefused
    cases hrefused
  obtain ⟨rs, hreceived, hrs⟩ := stream_delivers freshHost_fresh.tracks hdistinct hplain
  have hreference := reference_linear none hall
  rw [farChain_parse] at hreference
  obtain ⟨y, hy, hpacket⟩ : ∃ y, reference lowmem none
      ((farChain 65536).map fun d => (bareEnv linearSkb, d)) = [y] ∧
        y.2 = .packet (farPacket 65536) := by
    obtain ⟨y, hy, hrest⟩ := List.map_eq_singleton_iff.mp hreference
    exact ⟨y, hy, hrest⟩
  rw [hy] at hrs
  obtain ⟨r, _, hr, hnil, rfl⟩ := List.forall₂_cons_left_iff.mp hrs
  obtain rfl := List.forall₂_nil_left_iff.mp hnil
  obtain ⟨skb, hskb, hshows⟩ := hr.skb
  rw [hpacket] at hshows
  refine ⟨c, hc.reachable, ?_⟩
  rw [hc.processed, inputs_same] at hhost ⊢
  refine ⟨hdistinct, hall, farPacket 65536, r, skb, farChain_parse 65536, ?_, hskb, ?_⟩
  · rw [hhost, hreceived]
    rfl
  · have hlen : skb.len = BitVec.ofNat 32 (total (farPacket 65536).segments) := hshows.len
    rw [hlen, farPacket_total, BitVec.toNat_ofNat]
    decide

end NssDrv.ChainDelivery

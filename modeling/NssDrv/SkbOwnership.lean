import NssDrv.ReceiveStream

set_option autoImplicit false

/-!
# Who owns a received skb

Every skb the NSS hands over is passed on once, freed once, or held by the
ring; with the descriptors for which that fails.
-/
namespace NssDrv.SkbOwnership
open HlosInterface SkbMemory ReceivePath SegmentParser ReceiveAssembly ReceiveDelivery
open ReceiveQueue ReceiveStream ThreadPool TransitionRuns LinkedChain

/-- An skb that a pointer of the ring refers to, with what hangs on it. -/
def bundle (s : RxHost) (p : Option U32) : List U32 :=
  p.toList.flatMap fun a => a :: s.mem.chainOf a

def held (s : RxHost) : List U32 := bundle s s.head ++ bundle s s.jumboStart

structure Accounted (s : RxHost) : Prop where
  places : s.mem.handed.Perm (s.mem.given.map Prod.snd ++ s.mem.freed ++ held s)
  live : ∀ a, (s.mem.heap a).isSome ↔ a ∈ held s
  once : (held s).Nodup
  tail : ∀ a, s.head = some a → s.mem.hasFragList a → ∃ t, s.tail = some t ∧ t ∈ held s
  defined : s.mem.misuse = false

/-- The frame under way with this segment. -/
def frameLen (d : N2hDescriptor) (s : RxHost) : U32 :=
  if isFirst d then d.payloadLen.setWidth 32
  else s.jumboStart.elim 0 (fun a => (s.mem.heap a).elim 0 Skb.len) + d.payloadLen.setWidth 32

/-- This segment is the last of a packet that will go on. -/
def completes (k : Kernel) (env : RxEnv) (d : N2hDescriptor) (s : RxHost) : Bool :=
  handsOver k d && !passesThrough d && isLast d &&
    if env.nbuf.frags.length > 0 then
      (isFirst d || s.jumboStart.isSome) && (d.bufferType = N2H_BUFFER_STATUS ||
        ETH_HLEN ≤ (frameLen d s).toNat && env.pulls)
    else isFirst d || s.head.isSome

/-- The three descriptors the receive path does not cope with: a chain within
    a chain, a frame of more pages than an skb has room for, and a packet of a
    type that does not exist. -/
structure Sane (k : Kernel) (s : RxHost) (x : RxEnv × N2hDescriptor) : Prop where
  single : ¬ (event k x.1 x.2 = .refused ∧ s.head.isSome)
  room : overflows k x.1 x.2 s = false
  known : completes k x.1 x.2 s → knownType x.2.bufferType

def Distinct (k : Kernel) (s : RxHost) (x : RxEnv × N2hDescriptor) : Prop := Handover k x.1 x.2 s

section Step
variable {s : RxHost} {st : Option (Packet Segment)} {loose : List Package} {k : Kernel}
  {env : RxEnv} {d : N2hDescriptor}

theorem Tracks.held_eq (h : Tracks s st loose) : held s = units (st.map packageOf).toList := by
  have hholds := h.holds
  unfold held bundle
  rw [h.head, h.jumboStart]
  cases st with
  | none => rfl
  | some p =>
    have hchain : s.mem.chainOf p.first.nbuf = (packageOf p).2 :=
      hholds.chainOf_eq (show (p.first.nbuf, (packageOf p).2) ∈ _ by simp [packageOf])
    cases hmode : p.mode <;> simp [hmode, hchain, packageOf]

theorem Tracks.accounted (h : Tracks s st []) (hdefined : s.mem.misuse = false) : Accounted s := by
  have hholds := h.holds
  have heq := Tracks.held_eq h
  rw [List.append_nil] at hholds
  refine ⟨?_, ?_, ?_, ?_, hdefined⟩
  · rw [heq]
    exact hholds.places
  · rw [heq]
    exact hholds.live
  · rw [heq]
    exact hholds.nodup
  · intro a hhead hlist
    rw [h.head, Option.map_eq_some_iff] at hhead
    obtain ⟨p, hp, rfl⟩ := hhead
    obtain ⟨rfl, hmode⟩ := sameMode_eq_some hp
    obtain ⟨skb, hskb, hgrow⟩ := h.content p rfl
    have hpackage : packageOf p = (p.first.nbuf, p.rest.map Segment.nbuf) := by
      simp [packageOf, hmode]
    have hlinked := (hholds.linked_of_mem
      (show (p.first.nbuf, p.rest.map Segment.nbuf) ∈ _ by simp [hpackage])).2
    have hrest : p.rest ≠ [] := by
      intro hnil
      rw [hnil] at hlinked
      have hfirst := hlinked.eq_nil_iff.mpr rfl
      have hown := (hgrow.linear hmode).2.1
      simp only [Memory.fragList, Memory.hasFragList, hskb, Option.elim_some] at hfirst hlist
      cases hl : skb.fragList <;> simp_all [FragList.first, Skb.hasFragList]
    obtain ⟨g, hg⟩ : ∃ g, p.rest.getLast? = some g :=
      Option.isSome_iff_exists.mp (by simp [hrest])
    refine ⟨g.nbuf, h.tail p g rfl hmode hg, ?_⟩
    rw [heq, Option.map_some, hpackage]
    have hmem := List.mem_of_getLast? hg
    simp only [Option.toList_some, units_cons, units_nil, List.append_nil, List.mem_cons,
      List.mem_map]
    exact .inr ⟨g, hmem, rfl⟩

theorem linearEvent_last {skb : Skb} (hl : isLast d = true) :
    linearEvent d skb = .segment .linear (isFirst d) true := by
  simp [linearEvent, hl]

theorem parse_not_last {e : Event} {g : Segment}
    (he : e = .refused ∨ ∃ mode, e = .segment mode (isFirst d) false) :
    (parse st g e).2 = none := by
  rcases he with rfl | ⟨mode, rfl⟩
  · rfl
  · cases isFirst d <;> rfl

theorem filter_isSome {α : Type} (f : α → Bool) (x : α) : ((some x).filter f).isSome = f x := by
  cases h : f x <;> simp [Option.filter, h]

theorem completed_isSome (h : Tracks s st loose) :
    (completed k env d st).isSome = completes k env d s := by
  unfold completed completes
  cases hdata : handsOver k d && !passesThrough d with
  | false => simp [event, hdata, parse]
  | true =>
    have hevent : event k env d = if env.nbuf.frags.length > 0 then
        .segment .paged (isFirst d) (isLast d) else linearEvent d env.nbuf := by
      simp only [event, hdata, if_true]
    rw [hevent]
    cases hl : isLast d with
    | false =>
      rw [parse_not_last (d := d)]
      · simp
      · split
        · exact .inr ⟨_, rfl⟩
        · cases hf : isFirst d <;> cases hs : env.nbuf.hasFragList <;>
            simp [linearEvent, hl, hf, hs]
    | true =>
      rw [linearEvent_last hl]
      have hhead := h.head
      have hjumbo := h.jumboStart
      by_cases hfrags : env.nbuf.frags.length > 0
      · simp only [hfrags, if_true, Bool.true_and]
        cases hf : isFirst d with
        | true =>
          have hlen : frameLen d s = bytes [segmentOf env d] := by
            rw [frameLen, hf, bytes_singleton]
            rfl
          simp only [parse, hlen, filter_isSome]
          rfl
        | false =>
          cases hsame : sameMode .paged st with
          | none => simp [parse, hsame, hjumbo]
          | some p =>
            obtain ⟨rfl, hmode⟩ := sameMode_eq_some hsame
            obtain ⟨skb, hskb, hgrow⟩ := h.content p rfl
            have hlen : frameLen d s = bytes (p.append (segmentOf env d)).segments := by
              rw [frameLen, hf, hjumbo, hsame]
              simp only [Bool.false_eq_true, if_false, Option.map_some, Option.elim_some, hskb,
                hgrow.len]
              exact (bytes_append p.segments (segmentOf env d)).symm
            simp only [parse, hsame, hjumbo, Option.map_some, hlen, filter_isSome]
            rw [deliverable, Packet.append_mode, hmode]
            rfl
      · simp only [hfrags, if_false, Bool.true_and]
        cases hf : isFirst d with
        | true => simp [parse, deliverable, Option.filter]
        | false =>
          cases hsame : sameMode .linear st with
          | none => simp [parse, hsame, hhead]
          | some p =>
            have hmode := (sameMode_eq_some hsame).2
            simp [parse, hsame, hhead, deliverable, hmode, Option.filter]

theorem delivery_isSome (h : Tracks s st loose) :
    (delivery k env d st).isSome =
      (handsOver k d && passesThrough d || completes k env d s) := by
  unfold delivery
  cases hthrough : handsOver k d && passesThrough d with
  | true => simp
  | false => simp [completed_isSome h]

theorem knownType_of_passesThrough (h : passesThrough d = true) : knownType d.bufferType = true := by
  simp only [passesThrough, Bool.or_eq_true, decide_eq_true_eq] at h
  rcases h with h | h <;> simp [knownType, h]

theorem head_isSome (h : Tracks s st loose) : s.head.isSome = (sameMode .linear st).isSome := by
  rw [h.head, Option.isSome_map]

theorem feed_accounted (h : Tracks s st []) (hdefined : s.mem.misuse = false)
    (hand : Handover k env d s) (hsane : Sane k s (env, d)) :
    ∃ st', Tracks (feed k s (env, d)) st' [] ∧ (feed k s (env, d)).mem.misuse = false := by
  have hsingle : event k env d = .refused → sameMode .linear st = none := by
    intro he
    have hno : ¬ s.head.isSome := fun hhead => hsane.single ⟨he, hhead⟩
    rw [head_isSome h] at hno
    simpa using hno
  have hout := processDescriptor_outcome h hand hsingle
  have hleaked : leaked k env d st = none := by
    unfold leaked
    split
    · rfl
    · rename_i hunknown
      have hpass : passesThrough d = false := by
        by_contra hpass
        exact hunknown (knownType_of_passesThrough (by simpa using hpass))
      have hnone : (delivery k env d st).isSome = false := by
        rw [delivery_isSome h, hpass]
        cases hc : completes k env d s with
        | false => simp
        | true => exact (hunknown (hsane.known hc)).elim
      rw [Option.isSome_eq_false_iff, Option.isNone_iff_eq_none] at hnone
      rw [hnone]
      rfl
  have htracks := hout.tracks
  rw [hleaked] at htracks
  refine ⟨_, htracks, ?_⟩
  have hmisuse := hout.misuse
  rw [hsane.room, hdefined] at hmisuse
  exact hmisuse

theorem kfreeSkb_none {m : Memory} {a b : U32} (h : m.heap b = none) :
    (m.kfreeSkb a).heap b = none := by
  simp [Memory.kfreeSkb, Memory.drop, h]

theorem kfreeSkb_self (m : Memory) (a : U32) : (m.kfreeSkb a).heap a = none := by
  simp [Memory.kfreeSkb, Memory.drop]

theorem refused_iff : event k env d = .refused ↔ handsOver k d = true ∧ passesThrough d = false ∧
    env.nbuf.frags.length = 0 ∧ isFirst d = true ∧ isLast d = false ∧
      env.nbuf.hasFragList = true := by
  unfold event linearEvent
  constructor
  · intro h
    split at h
    · rename_i hdata
      split at h
      · cases h
      · rename_i hfrags
        split at h
        · rename_i hown
          simp only [Bool.and_eq_true, Bool.not_eq_true'] at hdata hown
          exact ⟨hdata.1, hdata.2, by omega, hown.1.1, hown.1.2, hown.2⟩
        · cases h
    · cases h
  · rintro ⟨hover, hpass, hfrags, hf, hl, hown⟩
    simp [hover, hpass, hfrags, hf, hl, hown]

theorem refused_head (h : Tracks s st []) (hand : Handover k env d s)
    (he : event k env d = .refused) {a : U32} (hhead : s.head = some a) :
    (feed k s (env, d)).head = some a ∧ (feed k s (env, d)).mem.heap a = none := by
  obtain ⟨hover, hpass, hfrags, hf, hl, hown⟩ := refused_iff.mp he
  obtain ⟨free, plain⟩ := hand hover
  have hlinear := h.head
  rw [hhead] at hlinear
  obtain ⟨p, hp, hfirst⟩ := Option.map_eq_some_iff.mp hlinear.symm
  obtain ⟨rfl, hmode⟩ := sameMode_eq_some hp
  have hjumbo : s.jumboStart = none := by simpa [hmode] using h.jumboStart
  simp only [handsOver, Bool.and_eq_true, decide_eq_true_eq, Bool.not_eq_true',
    decide_eq_false_iff_not] at hover
  simp only [passesThrough, Bool.or_eq_false_iff, decide_eq_false_iff_not] at hpass
  let s₁ := s.onMem fun m => m.arrive d.opaqueWord env.nbuf
  let s₂ := (s₁.modify d.opaqueWord (linearPayload d)).count .chainSegProcessed 1
  have habort : abortJumbo s₁ = s₁ := by
    unfold abortJumbo
    rw [show s₁.jumboStart = none from hjumbo]
  have hnr : s₁.mem.nrFrags d.opaqueWord = 0 := by
    rw [Memory.nrFrags, arrive_heap]
    exact hfrags
  have hassemble : assemble k env d s = linearFirst d.opaqueWord s₂ := by
    have hlinear : nssCoreHandleLinearSkb d d.opaqueWord s₁ = linearFirst d.opaqueWord s₂ := by
      simp [nssCoreHandleLinearSkb, hf, hl, s₂]
    have hdef : assemble k env d s = nssCoreHandleLinearSkb d d.opaqueWord (abortJumbo s₁) := by
      simp only [assemble, hover.1, hover.2, hpass.1, hpass.2, if_false, Bool.false_eq_true]
      rw [if_neg (by rw [hnr]; omega)]
    rw [hdef, habort, hlinear]
  have htracks₁ := h.arrive free plain
  have htracks₂ : Tracks s₂ (some p) [(d.opaqueWord, [])] :=
    (htracks₁.modify (a := d.opaqueWord) (by simp) (linearPayload d) (fun _ _ => rfl)
      fun _ => rfl).count _ _
  have hheap₂ : s₂.mem.heap d.opaqueWord = some (linearPayload d env.nbuf) := by
    simp [s₂, s₁, RxHost.count, RxHost.modify, RxHost.onMem, Memory.modify, Memory.arrive]
  have hkept := (htracks₂.kfreeHeld (p := some a) (by simp [hfirst])).2.2 d.opaqueWord (by simp)
  have hlist : (s₂.kfreeHeld (some a)).mem.hasFragList d.opaqueWord = true := by
    rw [Memory.hasFragList, hkept, hheap₂]
    exact hown
  have hfirst : linearFirst d.opaqueWord s₂ =
      ((s₂.kfreeHeld (some a)).kfreeSkb d.opaqueWord, none) := by
    rw [linearFirst, show s₂.head = some a from hhead]
    simp only [hlist, if_true]
  have hfeed : feed k s (env, d) = (s₂.kfreeHeld (some a)).kfreeSkb d.opaqueWord := by
    rw [feed, processDescriptor, hassemble, hfirst]
  rw [hfeed]
  exact ⟨hhead, kfreeSkb_none (kfreeSkb_self _ a)⟩

theorem sane_of_accounted (h : Tracks s st []) (hdefined : s.mem.misuse = false)
    (hand : Handover k env d s) (hacc : Accounted (feed k s (env, d))) : Sane k s (env, d) := by
  have hsingle : ¬ (event k env d = .refused ∧ s.head.isSome) := by
    rintro ⟨he, hhead⟩
    obtain ⟨a, ha⟩ := Option.isSome_iff_exists.mp hhead
    obtain ⟨hstale, hfreed⟩ := refused_head h hand he ha
    have hin : a ∈ held (feed k s (env, d)) := by simp [held, bundle, hstale]
    rw [← hacc.live, hfreed] at hin
    cases hin
  have hsame : event k env d = .refused → sameMode .linear st = none := by
    intro he
    have hno : ¬ s.head.isSome := fun hhead => hsingle ⟨he, hhead⟩
    rw [head_isSome h] at hno
    simpa using hno
  have hout := processDescriptor_outcome h hand hsame
  refine ⟨hsingle, ?_, fun hc => ?_⟩
  · have hmisuse := hout.misuse
    rw [hdefined, Bool.or_false] at hmisuse
    exact hmisuse.symm.trans hacc.defined
  · by_contra hunknown
    have hsome : (delivery k env d st).isSome = true := by rw [delivery_isSome h, hc, Bool.or_true]
    obtain ⟨x, hx⟩ := Option.isSome_iff_exists.mp hsome
    have htracks := hout.tracks
    have hleaked : leaked k env d st = some x.package := by
      rw [leaked, if_neg hunknown, hx]
      rfl
    rw [hleaked] at htracks
    have hin : x.package.1 ∈ held (feed k s (env, d)) := by
      rw [← hacc.live]
      exact (htracks.holds.live _).mpr (by simp)
    have hheld : held (feed k s (env, d)) = _ := Tracks.held_eq htracks
    rw [hheld] at hin
    have hnodup := htracks.holds.nodup
    rw [units_append] at hnodup
    exact List.disjoint_of_nodup_append hnodup hin (by simp)

end Step

/-- The ring holds nothing and no skb was handed over. -/
structure Fresh (s : RxHost) : Prop where
  head : s.head = none
  jumboStart : s.jumboStart = none
  heap : ∀ a, s.mem.heap a = none
  handed : s.mem.handed = []
  given : s.mem.given = []
  freed : s.mem.freed = []
  misuse : s.mem.misuse = false

theorem Fresh.tracks {s : RxHost} (h : Fresh s) : Tracks s none [] :=
  .clear (.empty h.heap h.handed h.given h.freed) h.head h.jumboStart

/-- In every run, however the descriptors fall into calls: all skbs are
    accounted for at every moment exactly when every descriptor is sane. -/
theorem skbs_accounted {k : Kernel} {envs : ℕ → RxEnv} {s : RxHost} {c : QueuePool (ℕ × RxHost)}
    (fresh : Fresh s) (run : Reachable (Idle (Start s)) (StreamStep k envs) c)
    (distinct : FoldGuard (Distinct k) (feed k) (inputs envs c.shared.ring.processed) s) :
    c.shared.ring.processed <+: c.shared.ring.produced ∧
      c.shared.host.2 = (inputs envs c.shared.ring.processed).foldl (feed k) s ∧
      ((∀ xs, xs <+: inputs envs c.shared.ring.processed → Accounted (xs.foldl (feed k) s)) ↔
        FoldGuard (Sane k) (feed k) (inputs envs c.shared.ring.processed) s) := by
  obtain ⟨hpre, hhost⟩ := reachable_stream run
  refine ⟨hpre, hhost, ?_⟩
  refine foldGuard_iff (fun s => ∃ st, Tracks s st [] ∧ s.mem.misuse = false) Accounted
    ?_ ?_ ?_ ⟨none, fresh.tracks, fresh.misuse⟩ distinct
  · rintro s ⟨st, htracks, hdefined⟩
    exact Tracks.accounted htracks hdefined
  · rintro s ⟨env, d⟩ ⟨st, htracks, hdefined⟩ hand hsane
    exact feed_accounted htracks hdefined hand hsane
  · rintro s ⟨env, d⟩ ⟨st, htracks, hdefined⟩ hand hacc
    exact sane_of_accounted htracks hdefined hand hacc

theorem freshHost_fresh : Fresh freshHost := ⟨rfl, rfl, fun _ => rfl, rfl, rfl, rfl, rfl⟩

def segment (opaqueWord : U32) (bufferType : U8) (bitFlags payloadLen : U16) : N2hDescriptor :=
  ⟨opaqueWord, 0, payloadLen, 0, 0, bufferType, bitFlags⟩

def chainOfTwo : List N2hDescriptor :=
  [segment 0xC0001000 N2H_BUFFER_PACKET N2H_BIT_FLAG_FIRST_SEGMENT 100,
    segment 0xC0002000 N2H_BUFFER_PACKET N2H_BIT_FLAG_LAST_SEGMENT 50]

theorem skbs_accounted_chain : ∃ c : QueuePool (ℕ × RxHost),
    Reachable (Idle (Start freshHost)) (StreamStep lowmem fun _ => bareEnv linearSkb) c ∧
      c.shared.ring.processed = chainOfTwo ∧ Accounted c.shared.host.2 := by
  obtain ⟨c, hc⟩ : ∃ c, (handedOver freshHost chainOfTwo).follow
      (serveAll lowmem (fun _ => bareEnv linearSkb) chainOfTwo) = some c := ⟨_, rfl⟩
  have hreach := serveAll_reachable lowmem _ freshHost chainOfTwo (by decide) hc
  have hprocessed : c.shared.ring.processed = chainOfTwo := by
    obtain rfl := Option.some.inj hc
    rfl
  refine ⟨c, hreach, hprocessed, ?_⟩
  have hdistinct : FoldGuard (Distinct lowmem) (feed lowmem)
      (inputs (fun _ => bareEnv linearSkb) c.shared.ring.processed) freshHost := by
    rw [hprocessed]
    refine ⟨fun _ => ⟨rfl, rfl⟩, fun _ => ⟨?_, rfl⟩, trivial⟩
    rfl
  have hall := skbs_accounted freshHost_fresh hreach hdistinct
  rw [hall.2.1]
  refine hall.2.2.mpr ?_ _ List.prefix_rfl
  rw [hprocessed]
  refine ⟨⟨?_, rfl, ?_⟩, ⟨?_, rfl, ?_⟩, trivial⟩
  · rintro ⟨_, hhead⟩
    cases hhead
  · intro hc
    cases hc
  · rintro ⟨he, _⟩
    cases he
  · exact fun _ => rfl

/-- A packet of a type that does not exist stays behind. -/
def strayPacket : List N2hDescriptor :=
  [segment 0xC0001000 2 (N2H_BIT_FLAG_FIRST_SEGMENT ||| N2H_BIT_FLAG_LAST_SEGMENT) 100]

theorem stray_packet_leaks : ∃ c : QueuePool (ℕ × RxHost),
    Reachable (Idle (Start freshHost)) (StreamStep lowmem fun _ => bareEnv linearSkb) c ∧
      FoldGuard (Distinct lowmem) (feed lowmem)
        (inputs (fun _ => bareEnv linearSkb) c.shared.ring.processed) freshHost ∧
      ¬ Accounted c.shared.host.2 := by
  obtain ⟨c, hc⟩ : ∃ c, (handedOver freshHost strayPacket).follow
      (serveAll lowmem (fun _ => bareEnv linearSkb) strayPacket) = some c := ⟨_, rfl⟩
  have hreach := serveAll_reachable lowmem _ freshHost strayPacket (by decide) hc
  have hprocessed : c.shared.ring.processed = strayPacket := by
    obtain rfl := Option.some.inj hc
    rfl
  refine ⟨c, hreach, ?_, fun hacc => ?_⟩
  · rw [hprocessed]
    exact ⟨fun _ => ⟨rfl, rfl⟩, trivial⟩
  · have hhost := (reachable_stream hreach).2
    rw [hprocessed] at hhost
    have hlive := (hacc.live 0xC0001000).mp (by rw [hhost]; rfl)
    rw [hhost] at hlive
    exact absurd hlive (by decide)

end NssDrv.SkbOwnership

import NssDrv.SkbOwnership

set_option autoImplicit false

/-!
# What the receive path indexes and reads

Tables are indexed by numbers the NSS chose, and messages go to their handlers
with the length the NSS wrote; only status messages are checked.
-/
namespace NssDrv.ReceiveBounds
open HlosInterface SkbMemory ReceivePath SegmentParser ReceiveAssembly ReceiveDelivery
open ReceiveQueue ReceiveStream SkbOwnership ThreadPool TransitionRuns

structure InBounds (s : RxHost) : Prop where
  tables : ∀ x ∈ s.accesses, x.2.toNat < NSS_MAX_NET_INTERFACES
  bodies : ∀ c ∈ s.messages, NSS_CMN_MSG_SIZE + c.ncm.len.toNat ≤ c.area

/-- The first skb of the unfinished frame that the segment at hand belongs to. -/
def front (env : RxEnv) (s : RxHost) : Option Skb :=
  (if env.nbuf.frags.length > 0 then s.jumboStart else s.head).bind s.mem.heap

/-- The message of a frame, the bytes there are from its header on, and the
    length the frame has with this segment. -/
def message (env : RxEnv) (d : N2hDescriptor) (s : RxHost) : NssCmnMsg :=
  if isFirst d then env.nbuf.ncm else (front env s).elim env.nbuf.ncm Skb.ncm

def area (env : RxEnv) (d : N2hDescriptor) (s : RxHost) : ℕ :=
  if isFirst d then d.payloadLen.toNat else (front env s).elim 0 messageArea

def length (env : RxEnv) (d : N2hDescriptor) (s : RxHost) : U32 :=
  (if isFirst d then 0 else (front env s).elim 0 Skb.len) + d.payloadLen.setWidth 32

/-- Buffer types whose interface number indexes a table. -/
def indexes (bufferType : U8) : Bool :=
  isBounced bufferType || bufferType = N2H_BUFFER_PACKET_VIRTUAL ||
    bufferType = N2H_BUFFER_PACKET || bufferType = N2H_BUFFER_PACKET_EXT

def handled (env : RxEnv) (d : N2hDescriptor) (s : RxHost) : Bool :=
  let ncm := message env d s
  ncm.version.toNat = NSS_HLOS_MESSAGE_VERSION && ncm.len ≤ length env d s &&
    ncm.interface.toNat < NSS_MAX_NET_INTERFACES && env.nssRxInterfaceHandlers ncm.interface

/-- No chain within a chain, which leaves the ring pointing at a freed skb. -/
def Single (k : Kernel) (s : RxHost) (x : RxEnv × N2hDescriptor) : Prop :=
  ¬ (event k x.1 x.2 = .refused ∧ s.head.isSome)

structure Sound (k : Kernel) (s : RxHost) (x : RxEnv × N2hDescriptor) : Prop where
  interface : (handsOver k x.2 && passesThrough x.2 || completes k x.1 x.2 s) →
    indexes x.2.bufferType → x.2.interfaceNum.toNat < NSS_MAX_NET_INTERFACES
  body : completes k x.1 x.2 s → x.2.bufferType = N2H_BUFFER_STATUS → handled x.1 x.2 s →
    NSS_CMN_MSG_SIZE + (message x.1 x.2 s).len.toNat ≤ area x.1 x.2 s

section Step
variable {s : RxHost} {st : Option (Packet Segment)} {loose : List Package} {k : Kernel}
  {env : RxEnv} {d : N2hDescriptor}

theorem event_segment {mode : Mode} {first last : Bool}
    (h : event k env d = .segment mode first last) :
    first = isFirst d ∧ (mode = .paged ↔ env.nbuf.frags.length > 0) := by
  unfold event linearEvent at h
  split at h
  · split at h
    · rename_i hfrags
      injection h with hmode hfirst _
      exact ⟨hfirst.symm, by simp [← hmode, hfrags]⟩
    · rename_i hfrags
      split at h
      · cases h
      · injection h with hmode hfirst _
        exact ⟨hfirst.symm, by simp [← hmode, hfrags]⟩
  · cases h

theorem parse_completes {g : Segment} {e : Event} {p : Packet Segment}
    (h : (parse st g e).2 = some p) : ∃ mode first, e = .segment mode first true ∧
      if first then p = ⟨mode, g, []⟩ else ∃ q, sameMode mode st = some q ∧ p = q.append g := by
  cases e with
  | skip => cases h
  | refused => cases h
  | segment mode first last =>
    cases first <;> cases last <;> simp only [parse, reduceCtorEq] at h
    · obtain ⟨q, hq, rfl⟩ := Option.map_eq_some_iff.mp h
      exact ⟨mode, false, rfl, q, hq, rfl⟩
    · exact ⟨mode, true, rfl, (Option.some.inj h).symm⟩

theorem shaped_front (h : Tracks s st loose) {p : Packet Segment}
    (hp : completed k env d st = some p) {skb : Skb} (hskb : Shaped p skb) :
    skb.ncm = message env d s ∧ messageArea skb = area env d s ∧ skb.len = length env d s := by
  have hparse := (Option.filter_eq_some_iff.mp hp).1
  obtain ⟨mode, first, he, hwhere⟩ := parse_completes hparse
  obtain ⟨hfirst, hmode⟩ := event_segment he
  rw [hskb.ncm, hskb.area, hskb.len, message, area, length]
  cases first with
  | true =>
    obtain rfl : p = ⟨mode, segmentOf env d, []⟩ := hwhere
    simp [← hfirst, segmentOf, Packet.segments, bytes_singleton]
  | false =>
    obtain ⟨q, hq, rfl⟩ := hwhere
    obtain ⟨rfl, hqmode⟩ := sameMode_eq_some hq
    obtain ⟨old, hold, hgrow⟩ := h.content q rfl
    have hfront : front env s = some old := by
      unfold front
      cases mode with
      | linear =>
        have hfrags : ¬ env.nbuf.frags.length > 0 := fun hlen => by simpa using hmode.mpr hlen
        rw [if_neg hfrags, h.head, hq]
        exact hold
      | paged =>
        rw [if_pos (hmode.mp rfl), h.jumboStart, hq]
        exact hold
    have hlen : bytes (q.append (segmentOf env d)).segments =
        bytes q.segments + d.payloadLen.setWidth 32 := bytes_append q.segments (segmentOf env d)
    simp [← hfirst, hfront, hgrow.ncm, hgrow.area, hgrow.len, hlen]

theorem tablesOf_status {skb : Skb} (ht : d.bufferType = N2H_BUFFER_STATUS) :
    ∀ x ∈ tablesOf d skb, x.2.toNat < NSS_MAX_NET_INTERFACES := by
  intro x hx
  have hunfold : tablesOf d skb =
      if accepted skb then [(.nssRxInterfaceHandlers, skb.ncm.interface)] else [] := by
    simp [tablesOf, ht, N2H_BUFFER_STATUS, N2H_BUFFER_SHAPER_BOUNCED_INTERFACE,
      N2H_BUFFER_SHAPER_BOUNCED_BRIDGE, N2H_BUFFER_PACKET_VIRTUAL, N2H_BUFFER_PACKET,
      N2H_BUFFER_PACKET_EXT]
  rw [hunfold] at hx
  split at hx
  · rename_i hacc
    obtain rfl := List.mem_singleton.mp hx
    simp only [accepted, Bool.and_eq_true, decide_eq_true_eq] at hacc
    exact hacc.2
  · cases hx

theorem tablesOf_bounded {skb : Skb} : (∀ x ∈ tablesOf d skb, x.2.toNat < NSS_MAX_NET_INTERFACES) ↔
    (indexes d.bufferType → d.interfaceNum.toNat < NSS_MAX_NET_INTERFACES) := by
  by_cases ht : d.bufferType = N2H_BUFFER_STATUS
  · have hno : indexes d.bufferType = false := by rw [ht]; rfl
    rw [hno]
    exact ⟨fun _ => by simp, fun _ => tablesOf_status ht⟩
  · unfold tablesOf indexes isBounced
    split
    · rename_i h; simp [h]
    · rename_i h₁
      split
      · rename_i h; simp [h]
      · rename_i h₂
        split
        · rename_i h; simp [h]
        · rename_i h₃
          split
          · rename_i h; simp [h]
          · rename_i h₄
            split
            · rename_i h; simp [h]
            · rename_i h₅
              simp [h₁, h₂, h₃, h₄, h₅, ht]

theorem callsOf_bounded (h : Tracks s st loose) {p : Packet Segment}
    (hp : completed k env d st = some p) {skb : Skb} (hskb : Shaped p skb) :
    (∀ c ∈ callsOf env d skb, NSS_CMN_MSG_SIZE + c.ncm.len.toNat ≤ c.area) ↔
      (d.bufferType = N2H_BUFFER_STATUS → handled env d s →
        NSS_CMN_MSG_SIZE + (message env d s).len.toNat ≤ area env d s) := by
  obtain ⟨hncm, harea, hlen⟩ := shaped_front h hp hskb
  have hhandled : (accepted skb && env.nssRxInterfaceHandlers skb.ncm.interface) =
      handled env d s := by
    rw [accepted, handled, hncm, hlen]
  unfold callsOf statusCalls
  rw [hhandled]
  by_cases ht : d.bufferType = N2H_BUFFER_STATUS
  · cases handled env d s <;> simp [ht, hncm, harea]
  · simp [ht]

theorem sameMode_of_single (h : Tracks s st loose) (single : Single k s (env, d)) :
    event k env d = .refused → sameMode .linear st = none := by
  intro he
  have hno : ¬ s.head.isSome := fun hhead => single ⟨he, hhead⟩
  rw [head_isSome h] at hno
  simpa using hno

theorem feed_inBounds (h : Tracks s st loose) (hand : Handover k env d s)
    (single : Single k s (env, d)) :
    InBounds (feed k s (env, d)) ↔ InBounds s ∧ Sound k s (env, d) := by
  have hshown := (processDescriptor_outcome h hand (sameMode_of_single h single)).shown
  have hgoes : (delivery k env d st).isSome = _ := delivery_isSome h
  change InBounds (processDescriptor k env d s) ↔ _
  cases hx : delivery k env d st with
  | none =>
    rw [hx] at hshown hgoes
    obtain ⟨_, haccesses, hmessages⟩ := hshown
    have hstays : (handsOver k d && passesThrough d || completes k env d s) = false := hgoes.symm
    have hsound : Sound k s (env, d) := by
      refine ⟨fun hgo => ?_, fun hc => ?_⟩
      · rw [hstays] at hgo
        cases hgo
      · rw [hc, Bool.or_true] at hstays
        cases hstays
    constructor
    · exact fun hb => ⟨⟨haccesses ▸ hb.tables, hmessages ▸ hb.bodies⟩, hsound⟩
    · exact fun hb => ⟨haccesses.symm ▸ hb.1.tables, hmessages.symm ▸ hb.1.bodies⟩
  | some x =>
    rw [hx] at hshown hgoes
    obtain ⟨skb, hshows, _, haccesses, hmessages⟩ := hshown
    have hsplit : InBounds (processDescriptor k env d s) ↔ InBounds s ∧
        (∀ y ∈ tablesOf d skb, y.2.toNat < NSS_MAX_NET_INTERFACES) ∧
          ∀ c ∈ callsOf env d skb, NSS_CMN_MSG_SIZE + c.ncm.len.toNat ≤ c.area := by
      constructor
      · intro hb
        have htables := hb.tables
        have hbodies := hb.bodies
        rw [haccesses, List.forall_mem_append] at htables
        rw [hmessages, List.forall_mem_append] at hbodies
        exact ⟨⟨htables.1, hbodies.1⟩, htables.2, hbodies.2⟩
      · rintro ⟨hb, htables, hbodies⟩
        refine ⟨?_, ?_⟩
        · rw [haccesses, List.forall_mem_append]
          exact ⟨hb.tables, htables⟩
        · rw [hmessages, List.forall_mem_append]
          exact ⟨hb.bodies, hbodies⟩
    have hgo : (handsOver k d && passesThrough d || completes k env d s) = true := hgoes.symm
    rw [hsplit, tablesOf_bounded]
    refine and_congr_right fun _ => ?_
    cases hthrough : handsOver k d && passesThrough d with
    | true =>
      have hpass : passesThrough d = true := (Bool.and_eq_true_iff.mp hthrough).2
      have hcomplete : completes k env d s = false := by simp [completes, hpass]
      have hstatus : d.bufferType ≠ N2H_BUFFER_STATUS := by
        intro ht
        simp [passesThrough, isBounced, ht] at hpass
        revert hpass
        decide
      constructor
      · rintro ⟨hindex, _⟩
        refine ⟨fun _ => hindex, fun hc => ?_⟩
        rw [hcomplete] at hc
        cases hc
      · intro hsound
        exact ⟨hsound.interface (by simp [hthrough]), by simp [callsOf, hstatus]⟩
    | false =>
      have hcomplete : completes k env d s = true := by simpa [hthrough] using hgo
      have hp : ∃ p, completed k env d st = some p ∧ x = .packet p := by
        rw [delivery, hthrough] at hx
        obtain ⟨p, hp, rfl⟩ := Option.map_eq_some_iff.mp hx
        exact ⟨p, hp, rfl⟩
      obtain ⟨p, hp, rfl⟩ := hp
      rw [callsOf_bounded h hp hshows]
      constructor
      · rintro ⟨hindex, hbody⟩
        exact ⟨fun _ => hindex, fun _ => hbody⟩
      · exact fun hsound => ⟨hsound.interface (by simp [hcomplete]), hsound.body hcomplete⟩

end Step

/-- In every run the receive path stays in bounds while every descriptor is
    sound and no chain is within a chain, and while only the last holds it stays
    in bounds no longer than the descriptors are sound. -/
theorem receive_in_bounds {k : Kernel} {envs : ℕ → RxEnv} {s : RxHost}
    {c : QueuePool (ℕ × RxHost)} (fresh : Fresh s) (quiet : s.accesses = [] ∧ s.messages = [])
    (run : Reachable (Idle (Start s)) (StreamStep k envs) c)
    (distinct : FoldGuard (Distinct k) (feed k) (inputs envs c.shared.ring.processed) s) :
    c.shared.host.2 = (inputs envs c.shared.ring.processed).foldl (feed k) s ∧
      (FoldGuard (fun s x => Single k s x ∧ Sound k s x) (feed k)
          (inputs envs c.shared.ring.processed) s → InBounds c.shared.host.2) ∧
      (FoldGuard (Single k) (feed k) (inputs envs c.shared.ring.processed) s →
        (∀ xs, xs <+: inputs envs c.shared.ring.processed → InBounds (xs.foldl (feed k) s)) →
        FoldGuard (Sound k) (feed k) (inputs envs c.shared.ring.processed) s) := by
  have hhost := (reachable_stream run).2
  have hstart : InBounds s := ⟨by simp [quiet.1], by simp [quiet.2]⟩
  have hiff : FoldGuard (Single k) (feed k) (inputs envs c.shared.ring.processed) s →
      ((∀ xs, xs <+: inputs envs c.shared.ring.processed → InBounds (xs.foldl (feed k) s)) ↔
        FoldGuard (Sound k) (feed k) (inputs envs c.shared.ring.processed) s) := by
    intro single
    refine foldGuard_iff (fun s => (∃ st loose, Tracks s st loose) ∧ InBounds s) InBounds
      (fun _ hs => hs.2) ?_ ?_ ⟨⟨none, [], fresh.tracks⟩, hstart⟩ (distinct.and single)
    · rintro s ⟨env, d⟩ ⟨⟨st, loose, htracks⟩, hb⟩ ⟨hand, hsingle⟩ hsound
      refine ⟨?_, (feed_inBounds htracks hand hsingle).mpr ⟨hb, hsound⟩⟩
      have hsame := sameMode_of_single htracks hsingle
      exact ⟨_, _, (processDescriptor_outcome htracks hand hsame).tracks⟩
    · rintro s ⟨env, d⟩ ⟨⟨st, loose, htracks⟩, hb⟩ ⟨hand, hsingle⟩ hafter
      exact ((feed_inBounds htracks hand hsingle).mp hafter).2
  refine ⟨hhost, fun hok => ?_, fun single => (hiff single).mp⟩
  rw [hhost]
  exact (hiff (hok.imp fun _ _ h => h.1)).mpr (hok.imp fun _ _ h => h.2) _ List.prefix_rfl

theorem receive_in_bounds_chain : ∃ c : QueuePool (ℕ × RxHost),
    Reachable (Idle (Start freshHost)) (StreamStep lowmem fun _ => bareEnv linearSkb) c ∧
      c.shared.ring.processed = chainOfTwo ∧ InBounds c.shared.host.2 := by
  obtain ⟨c, hc⟩ : ∃ c, (handedOver freshHost chainOfTwo).follow
      (serveAll lowmem (fun _ => bareEnv linearSkb) chainOfTwo) = some c := ⟨_, rfl⟩
  have hreach := serveAll_reachable lowmem _ freshHost chainOfTwo (by decide) hc
  have hprocessed : c.shared.ring.processed = chainOfTwo := by
    obtain rfl := Option.some.inj hc
    rfl
  refine ⟨c, hreach, hprocessed, ?_⟩
  have hdistinct : FoldGuard (Distinct lowmem) (feed lowmem)
      (inputs (fun _ => bareEnv linearSkb) c.shared.ring.processed) freshHost := by
    rw [hprocessed]
    refine ⟨fun _ => ⟨rfl, rfl⟩, fun _ => ⟨?_, rfl⟩, trivial⟩
    rfl
  refine (receive_in_bounds freshHost_fresh ⟨rfl, rfl⟩ hreach hdistinct).2.1 ?_
  rw [hprocessed]
  refine ⟨⟨?_, fun _ _ => by decide, ?_⟩, ⟨?_, fun _ _ => by decide, ?_⟩, trivial⟩
  · rintro ⟨_, hhead⟩
    cases hhead
  · intro _ ht
    revert ht
    decide
  · rintro ⟨he, _⟩
    cases he
  · intro _ ht
    revert ht
    decide

def wildBounce : List N2hDescriptor :=
  [⟨0xC0001000, 0, 0, 0, 0xFFFF, N2H_BUFFER_SHAPER_BOUNCED_INTERFACE, 0⟩]

theorem wild_bounce_out_of_bounds : ∃ c : QueuePool (ℕ × RxHost),
    Reachable (Idle (Start freshHost)) (StreamStep lowmem fun _ => bareEnv linearSkb) c ∧
      FoldGuard (Distinct lowmem) (feed lowmem)
        (inputs (fun _ => bareEnv linearSkb) c.shared.ring.processed) freshHost ∧
      ¬ InBounds c.shared.host.2 := by
  obtain ⟨c, hc⟩ : ∃ c, (handedOver freshHost wildBounce).follow
      (serveAll lowmem (fun _ => bareEnv linearSkb) wildBounce) = some c := ⟨_, rfl⟩
  have hreach := serveAll_reachable lowmem _ freshHost wildBounce (by decide) hc
  have hprocessed : c.shared.ring.processed = wildBounce := by
    obtain rfl := Option.some.inj hc
    rfl
  refine ⟨c, hreach, ?_, fun hbounds => ?_⟩
  · rw [hprocessed]
    exact ⟨fun _ => ⟨rfl, rfl⟩, trivial⟩
  · have hhost := (reachable_stream hreach).2
    rw [hprocessed] at hhost
    have haccesses : c.shared.host.2.accesses = [(.bounceInterfaceRegistrants, 0xFFFF)] := by
      rw [hhost]
      rfl
    have hindex := hbounds.tables (.bounceInterfaceRegistrants, 0xFFFF) (by simp [haccesses])
    exact absurd hindex (by decide)

end NssDrv.ReceiveBounds

import NssDrv.ProducerRuns
import NssDrv.SkbOwnership

set_option autoImplicit false

/-!
# The count of skbs the NSS has

Transmits and refills raise `NSS_STATS_DRV_NSS_SKB_COUNT`, the receive path
lowers it: once for each packet it passes on and once for each chain it drops
at a change of mode.
-/
namespace NssDrv.SkbCount
open HlosInterface SharedThread DescriptorRing TransmitEncoders TransmitQueue EmptyBufferRefill
open SkbMemory ReceivePath SegmentParser ReceiveAssembly ReceiveDelivery ReceiveStream
open SkbOwnership TransitionRuns

/-- The receive side with the counters, and the skbs that were sent or refilled
    and have not come back. -/
structure Counted where
  rx : RxHost
  owned : List U32

namespace Counted

def skbCount (s : Counted) : Int := s.rx.stats .nssSkbCount

/-- The counters as a call on some H2N ring leaves them. -/
def withStats (s : Counted) (stats : DrvStats) (taken : List U32) : Counted :=
  ⟨{ s.rx with stats := stats }, taken ++ s.owned⟩

end Counted

inductive Traffic where
  | send (cpu : ℕ) (env : TxEnv) (ifNum : U32) (nbuf : TxSkb) (bufferType : U8) (flags : U16)
  | sendCrypto (cpu : ℕ) (buf bufPaddr : U32) (len : U16)
  | refill (cpu : ℕ) (env : RefillEnv)
  | back (env : RxEnv) (d : N2hDescriptor)

/-- One call or one pass. A call meets its ring in any state; the NSS hands back
    an skb that it has and that the host has not. -/
inductive CountStep (k : Kernel) : Counted → Traffic → Counted → Prop where
  | send {s : Counted} {cpu : ℕ} {env : TxEnv} {ifNum : U32} {nbuf : TxSkb} {bufferType : U8}
      {flags : U16} {ring : H2nRing} {coreId intrMask : U32} {v : CoreStatus} {p : H2nPort}
      (done : (nssCoreSendBuffer cpu env ifNum nbuf bufferType flags).exec
        ⟨ring, coreId, s.rx.stats, intrMask⟩ = some (v, p)) :
      CountStep k s (.send cpu env ifNum nbuf bufferType flags)
        (s.withStats p.stats (if v = .success then [nbuf.addr] else []))
  | sendCrypto {s : Counted} {cpu : ℕ} {buf bufPaddr : U32} {len : U16} {ring : H2nRing}
      {coreId intrMask : U32} {v : CoreStatus} {p : H2nPort}
      (done : (nssCoreSendCrypto cpu buf bufPaddr len).exec
        ⟨ring, coreId, s.rx.stats, intrMask⟩ = some (v, p)) :
      CountStep k s (.sendCrypto cpu buf bufPaddr len) (s.withStats p.stats [])
  | refill {s : Counted} {cpu : ℕ} {env : RefillEnv} {ring : H2nRing} {coreId intrMask : U32}
      {given : List U32} {p : H2nPort}
      (done : (refillEmptyBuffers cpu env).exec
        ⟨ring, coreId, s.rx.stats, intrMask⟩ = some (given, p)) :
      CountStep k s (.refill cpu env) (s.withStats p.stats given)
  | back {s : Counted} {env : RxEnv} {d : N2hDescriptor} (hand : Handover k env d s.rx)
      (has : handsOver k d → d.opaqueWord ∈ s.owned) :
      CountStep k s (.back env d) ⟨processDescriptor k env d s.rx,
        if handsOver k d then s.owned.erase d.opaqueWord else s.owned⟩

section Raise
variable {cpu : ℕ} {env : TxEnv} {size : U16} {ifNum : U32} {nbuf : TxSkb} {bufferType : U8}
  {mss bitFlags hlosIndex flags : U16}

def counter (p : H2nPort) : Int := p.stats .nssSkbCount

abbrev Keeps {α : Type} (p : Proc H2nPort α) : Prop := Adds counter (fun _ => 0) p

theorem keeps_stat {x : DrvStat} (hx : x ≠ .nssSkbCount) : Keeps (nssPktStatsIncrement x) :=
  .keep (fun p => DrvStats.add_of_ne p.stats 1 hx.symm) fun _ => .ret rfl

theorem keeps_writeOneDescriptor {idx : U16} {buffer opaqueWord : U32}
    {payloadOff payloadLen bufferLen : U16} {qosTag : U32} :
    Keeps (nssCoreWriteOneDescriptor idx bufferType buffer ifNum opaqueWord payloadOff
      payloadLen bufferLen qosTag mss bitFlags) :=
  .keep (fun _ => rfl) fun _ => .ret rfl

theorem keeps_simpleSkb :
    Keeps (nssCoreSendBufferSimpleSkb env ifNum nbuf hlosIndex flags bufferType mss) := by
  unfold nssCoreSendBufferSimpleSkb
  simp only
  split
  · apply keeps_writeOneDescriptor.after
    exact fun _ => (keeps_stat (by decide)).after fun _ => .ret rfl
  · split
    · exact .ret rfl
    · apply keeps_writeOneDescriptor.after
      exact fun _ => (keeps_stat (by decide)).after fun _ => .ret rfl

theorem keeps_nrFragsFrom (i : ℕ) (frags : List U32) :
    Keeps (nrFragsFrom env size ifNum nbuf bufferType mss bitFlags i frags hlosIndex) := by
  induction frags generalizing i hlosIndex with
  | nil => exact .keep (fun _ => rfl) fun _ => (keeps_stat (by decide)).after fun _ => .ret rfl
  | cons frag rest ih =>
    unfold nrFragsFrom
    split
    · exact .ret rfl
    · exact keeps_writeOneDescriptor.after fun _ => ih _

theorem keeps_nrFrags :
    Keeps (nssCoreSendBufferNrFrags env size ifNum nbuf hlosIndex flags bufferType mss) := by
  unfold nssCoreSendBufferNrFrags
  split
  · exact .ret rfl
  · apply keeps_writeOneDescriptor.after
    intro _
    split
    · exact .halt
    · apply keeps_nrFragsFrom

theorem keeps_fraglistFrom (i : ℕ) (members : List TxSegment) :
    Keeps (fraglistFrom env size ifNum bufferType mss bitFlags i members hlosIndex) := by
  induction members generalizing i hlosIndex with
  | nil => exact .keep (fun _ => rfl) fun _ => (keeps_stat (by decide)).after fun _ => .ret rfl
  | cons iter rest ih =>
    unfold fraglistFrom
    split
    · exact .ret rfl
    · split
      · exact .ret rfl
      · exact keeps_writeOneDescriptor.after fun _ => ih _

theorem keeps_fraglist :
    Keeps (nssCoreSendBufferFraglist env size ifNum nbuf hlosIndex flags bufferType mss) := by
  unfold nssCoreSendBufferFraglist
  split
  · exact .ret rfl
  · exact keeps_writeOneDescriptor.after fun _ => keeps_fraglistFrom _ _

theorem keeps_encode : Keeps (encode env ifNum nbuf bufferType flags size hlosIndex) := by
  unfold encode
  simp only
  split
  · exact keeps_simpleSkb
  · split
    · exact keeps_fraglist
    · exact keeps_nrFrags

theorem keeps_unlock : Keeps spinUnlockBh := .keep (fun _ => rfl) fun _ => .ret rfl

theorem keeps_lock : Keeps (spinLockBh cpu) := .keep (fun _ => rfl) fun _ => .ret rfl

def sentCount (v : CoreStatus) : ℤ := if v = .success then 1 else 0

theorem queueFull_adds {n : CoreStatus → ℤ} (hn : n .failureQueue = 0) :
    Adds counter n queueFull := by
  refine .keep (fun _ => rfl) fun _ => ?_
  refine keeps_unlock.after fun _ => .keep (fun p => ?_) fun _ => ?_
  · rw [counter]
    have hother (x : DrvStat) (hx : .nssSkbCount ≠ x) : p.stats.add x 1 .nssSkbCount = counter p :=
      DrvStats.add_of_ne p.stats 1 hx
    split
    · exact hother .txQueueFull0 (by decide)
    · split
      · exact hother .txQueueFull1 (by decide)
      · rfl
  · exact .keep (fun _ => rfl) fun _ => .ret hn

theorem publishEncoded_adds (written : ℤ) :
    Adds counter sentCount (publishEncoded cpu nbuf size hlosIndex written) := by
  unfold publishEncoded
  simp only [Proc.bind_eq, Proc.pure_eq]
  split
  · exact keeps_unlock.after fun _ => .ret rfl
  · refine .keep (fun _ => rfl) fun _ => .keep (fun _ => rfl) fun _ => ?_
    refine .act 1 (fun p => DrvStats.add_self p.stats .nssSkbCount 1) fun _ => ?_
    exact keeps_unlock.after fun _ => .ret rfl

theorem sendLocked_adds :
    Adds counter sentCount (sendLocked cpu env ifNum nbuf bufferType flags size) := by
  apply keeps_lock.after
  refine fun _ => .keep (fun _ => rfl) fun _ => .keep (fun _ => rfl) fun _ => ?_
  simp only [Proc.bind_eq, Proc.ret_bind]
  split
  · exact queueFull_adds rfl
  · exact keeps_encode.after fun _ => publishEncoded_adds _

theorem sendBuffer_adds :
    Adds counter sentCount (nssCoreSendBuffer cpu env ifNum nbuf bufferType flags) := by
  refine .keep (fun _ => rfl) fun _ => ?_
  simp only [Proc.pure_eq, Proc.ret_bind]
  split
  · split
    · exact .ret rfl
    · exact sendLocked_adds
  · split
    · exact .halt
    · exact sendLocked_adds

theorem sendCrypto_adds {buf bufPaddr : U32} {len : U16} :
    Keeps (nssCoreSendCrypto cpu buf bufPaddr len) := by
  apply keeps_lock.after
  refine fun _ => .keep (fun _ => rfl) fun _ => .keep (fun _ => rfl) fun _ => .keep (fun _ => rfl) ?_
  intro _
  simp only [Proc.bind_eq, Proc.pure_eq, Proc.ret_bind]
  split
  · exact queueFull_adds rfl
  · refine .keep (fun _ => rfl) fun _ => .keep (fun _ => rfl) fun _ => .keep (fun _ => rfl) ?_
    exact fun _ => keeps_unlock.after fun _ => .ret rfl

theorem refillFrom_adds (renv : RefillEnv) (mask : U32) (count i : ℕ) (index : U32)
    (given : List U32) :
    Adds counter (fun r => (r.2.length : ℤ) - given.length)
      (refillFrom renv mask count i index given) := by
  induction count generalizing i index given with
  | zero => exact .ret (sub_self _)
  | succ count ih =>
    unfold refillFrom
    split
    · exact (keeps_stat (by decide)).after fun _ => .ret (sub_self _)
    · refine .keep (fun _ => rfl) fun _ => ?_
      simp only [Proc.bind_eq, Proc.pure_eq, Proc.ret_bind]
      split
      · exact .ret (sub_self _)
      · rename_i nbuf _ _ _ _ _ _ _
        refine .act 1 (fun p => DrvStats.add_self p.stats .nssSkbCount 1) fun _ => ?_
        refine .keep (fun _ => rfl) fun _ => ?_
        have hrest := ih (i + 1) ((index + 1) &&& mask) (given ++ [nbuf])
        simpa [sub_sub] using hrest

theorem refill_adds (renv : RefillEnv) :
    Adds counter (fun given => (given.length : ℤ)) (refillEmptyBuffers cpu renv) := by
  refine .keep (fun _ => rfl) fun _ => .keep (fun _ => rfl) fun _ => .keep (fun _ => rfl) fun _ => ?_
  simp only [Proc.bind_eq, Proc.pure_eq, Proc.ret_bind]
  refine (refillFrom_adds renv _ _ _ _ _).bind fun r => ?_
  exact .keep (fun _ => rfl) fun _ => .keep (fun _ => rfl) fun _ => .ret (by simp)

end Raise

/-- A data buffer that comes back in one piece, and is not dropped for want of
    its Ethernet header. -/
def Whole (k : Kernel) : Traffic → Prop
  | .back env d => handsOver k d → passesThrough d ∨ isFirst d ∧ isLast d ∧
      (env.nbuf.frags.length > 0 → d.bufferType = N2H_BUFFER_STATUS ∨
        ETH_HLEN ≤ d.payloadLen.toNat ∧ env.pulls)
  | _ => True

section Pass
variable {s : RxHost} {loose : List Package} {k : Kernel} {env : RxEnv} {d : N2hDescriptor}

/-- With no chain under way, a descriptor completes a packet exactly when its
    buffer is whole. -/
theorem whole_iff (h : Tracks s none loose) :
    Whole k (.back env d) ↔ (handsOver k d → (delivery k env d none).isSome) := by
  have hhead : s.head = none := h.head
  have hjumbo : s.jumboStart = none := h.jumboStart
  rw [delivery_isSome h, completes, hhead, hjumbo]
  cases hover : handsOver k d with
  | false => simp [Whole, hover]
  | true =>
    cases hpass : passesThrough d with
    | true => simp [Whole, hover, hpass]
    | false =>
      have hlen (hf : isFirst d = true) : (frameLen d s).toNat = d.payloadLen.toNat := by
        rw [frameLen, if_pos hf, BitVec.toNat_setWidth]
        omega
      by_cases hfrags : env.nbuf.frags.length > 0
      · cases hf : isFirst d <;> cases hl : isLast d <;>
          simp [Whole, hover, hpass, hf, hl, hfrags, hlen]
      · cases hf : isFirst d <;> cases hl : isLast d <;>
          simp [Whole, hover, hpass, hf, hl, hfrags]

theorem whole_tracks (h : Tracks s none loose) (hand : Handover k env d s)
    (hwhole : Whole k (.back env d)) :
    ∃ loose', Tracks (processDescriptor k env d s) none loose' := by
  have hout := processDescriptor_outcome h hand fun _ => rfl
  have hnone : (parse none (segmentOf env d) (event k env d)).1 = none := by
    unfold event
    split
    · rename_i hdata
      simp only [Bool.and_eq_true, Bool.not_eq_true'] at hdata
      rcases hwhole hdata.1 with hpass | ⟨hf, hl, _⟩
      · rw [hdata.2] at hpass
        cases hpass
      · split
        · simp [hf, hl, parse]
        · simp [linearEvent, hf, hl, parse]
    · rfl
  have htracks := hout.tracks
  rw [hnone] at htracks
  exact ⟨_, htracks⟩

theorem aborts_none (h : Tracks s none loose) : aborts k env d s = false := by
  have hhead : s.head = none := h.head
  have hjumbo : s.jumboStart = none := h.jumboStart
  simp [aborts, hhead, hjumbo]

end Pass

/-- Nothing received, nothing with the NSS. -/
structure FreshCount (s : Counted) : Prop where
  rx : Fresh s.rx
  owned : s.owned = []
  skbCount : s.skbCount = 0

structure Balanced (s : Counted) : Prop where
  tracks : ∃ loose, Tracks s.rx none loose
  skbCount : s.skbCount = s.owned.length

theorem FreshCount.balanced {s : Counted} (h : FreshCount s) : Balanced s where
  tracks := ⟨[], h.rx.tracks⟩
  skbCount := by
    rw [h.skbCount, h.owned]
    rfl

section Step
variable {k : Kernel} {s t : Counted} {e : Traffic}

theorem Balanced.withStats {stats : DrvStats} {taken : List U32} (h : Balanced s)
    (hstats : stats .nssSkbCount = s.skbCount + taken.length) :
    Balanced (s.withStats stats taken) := by
  obtain ⟨loose, htracks⟩ := h.tracks
  refine ⟨⟨loose, ⟨htracks.holds, htracks.head, htracks.jumboStart, htracks.tail,
    htracks.content⟩⟩, ?_⟩
  change stats .nssSkbCount = ((taken ++ s.owned).length : ℤ)
  rw [hstats, h.skbCount, List.length_append, Nat.cast_add, add_comm]

theorem back_balanced (h : Balanced s) {env : RxEnv} {d : N2hDescriptor}
    (hstep : CountStep k s (.back env d) t) :
    t.skbCount = t.owned.length ↔ Whole k (.back env d) := by
  obtain ⟨loose, htracks⟩ := h.tracks
  cases hstep with
  | back hand has =>
    have hcount := (processDescriptor_outcome htracks hand fun _ => rfl).skbCount
    rw [aborts_none htracks] at hcount
    change (processDescriptor k env d s.rx).stats .nssSkbCount = _ ↔ _
    rw [hcount, whole_iff htracks]
    have hbefore : s.rx.stats .nssSkbCount = s.owned.length := h.skbCount
    rw [hbefore]
    cases hover : handsOver k d with
    | false =>
      have hnone : (delivery k env d none).isSome = false := by
        rw [delivery_isSome htracks, completes, hover]
        rfl
      simp [hnone]
    | true =>
      have hin := has hover
      have hpos := List.length_pos_of_mem hin
      simp only [if_true, List.length_erase_of_mem hin]
      cases hsome : (delivery k env d none).isSome <;> simp <;> omega

theorem step_balanced (h : Balanced s) (hstep : CountStep k s e t) (hwhole : Whole k e) :
    Balanced t := by
  have hevent := hstep
  cases hstep with
  | send done =>
    apply h.withStats
    refine (sendBuffer_adds _ _ _ done).trans (congrArg (s.skbCount + ·) ?_)
    unfold sentCount
    split
    · rfl
    · rfl
  | sendCrypto done => exact h.withStats (sendCrypto_adds _ _ _ done)
  | refill done => exact h.withStats (refill_adds _ _ _ _ done)
  | back hand has =>
    obtain ⟨loose, htracks⟩ := h.tracks
    exact ⟨whole_tracks htracks hand hwhole, (back_balanced h hevent).mpr hwhole⟩

end Step

/-- In every run in which each data buffer comes back whole the count is that of
    the skbs the NSS has, and the first that does not makes it wrong. -/
theorem skbCount_owned {k : Kernel} {s : Counted}
    (run : Reachable FreshCount (Guarded (CountStep k) fun _ e => Whole k e) s) :
    s.skbCount = s.owned.length ∧ 0 ≤ s.skbCount ∧
      ∀ e t, CountStep k s e t → (t.skbCount = t.owned.length ↔ Whole k e) := by
  have hbalanced : Balanced s := by
    refine run.invariant Balanced (fun _ h => h.balanced) fun s e t h hstep => ?_
    exact step_balanced h hstep.1 hstep.2
  have hcount := hbalanced.skbCount
  refine ⟨hcount, by omega, fun e t hstep => ?_⟩
  have hkeeps (hwhole : Whole k e) : t.skbCount = t.owned.length ↔ Whole k e :=
    ⟨fun _ => hwhole, fun h => (step_balanced hbalanced hstep h).skbCount⟩
  cases e with
  | send => exact hkeeps trivial
  | sendCrypto => exact hkeeps trivial
  | refill => exact hkeeps trivial
  | back env d => exact back_balanced hbalanced hstep

def refillOne : RefillEnv :=
  { ProducerRuns.oneBuffer with
    skb := fun i => if i = 0 then some ⟨0xC0001000, 0x1000, 0x1020⟩ else none }

def freshCount : Counted := ⟨freshHost, []⟩

theorem freshCount_fresh : FreshCount freshCount :=
  ⟨freshHost_fresh, rfl, rfl⟩

def refilledCount (stats : DrvStats) : Counted := freshCount.withStats stats [0xC0001000]

theorem refillOne_step : ∃ stats, CountStep lowmem freshCount (.refill 0 refillOne)
    (refilledCount stats) := by
  obtain ⟨p, hp⟩ : ∃ p, (refillEmptyBuffers 0 refillOne).exec
      ⟨TransmitRing.emptyRing 4, 0, freshHost.stats, 0⟩ = some ([0xC0001000], p) := ⟨_, rfl⟩
  exact ⟨p.stats, .refill hp⟩

theorem skbCount_owned_refill : ∃ s : Counted,
    Reachable FreshCount (Guarded (CountStep lowmem) fun _ e => Whole lowmem e) s ∧
      s.owned = [0xC0001000] ∧ s.skbCount = 1 := by
  obtain ⟨stats, hstep⟩ := refillOne_step
  have hreach : Reachable FreshCount (Guarded (CountStep lowmem) fun _ e => Whole lowmem e)
      (refilledCount stats) := .next (.start freshCount_fresh) ⟨hstep, trivial⟩
  exact ⟨refilledCount stats, hreach, rfl, (skbCount_owned hreach).1⟩

/-- The head of a chain comes back and is not counted. -/
theorem chain_head_uncounted : ∃ s : Counted, Reachable FreshCount (CountStep lowmem) s ∧
    s.skbCount ≠ s.owned.length := by
  obtain ⟨stats, hstep⟩ := refillOne_step
  let d := segment 0xC0001000 N2H_BUFFER_PACKET N2H_BIT_FLAG_FIRST_SEGMENT 100
  have hback : CountStep lowmem (refilledCount stats) (.back (bareEnv linearSkb) d) _ :=
    .back (fun _ => ⟨rfl, rfl⟩) fun _ => List.mem_singleton_self _
  have hbalanced : Balanced (refilledCount stats) :=
    step_balanced freshCount_fresh.balanced hstep trivial
  refine ⟨_, .next (.next (.start freshCount_fresh) hstep) hback, fun heq => ?_⟩
  rcases (back_balanced hbalanced hback).mp heq rfl with hpass | ⟨_, hlast, _⟩
  · exact absurd hpass (by decide)
  · exact absurd hlast (by decide)

end NssDrv.SkbCount

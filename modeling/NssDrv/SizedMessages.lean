import NssDrv.ConnectionSync
import NssDrv.MessageBuffers

set_option autoImplicit false

/-!
# Messages in buffers of a given size

`nss_ipv4_tx_with_size` and `nss_ipv6_tx_with_size` take the size of the buffer from
their caller. What they copy is always the whole message structure.
-/
namespace NssDrv.SizedMessages
open HlosInterface SharedThread DescriptorRing RingLocking TransmitEncoders TransmitApi
open MessageBuffers SkbMemory ConnectionSync
open N2hRequests (PAGE_SIZE)
open ReceivePath (NSS_CMN_MSG_SIZE)
open TransmitRing (emptyRing)
open TransmitAnswers (answer_success mapsAll mapsAll_mapped runningCore emptyRing_four)

structure RuleMsg where
  ncm : NssCmnMsg
  type : U32

def NSS_IPV6_MAX_MSG_TYPES : U32 := 8

def maxMsgTypes : Family → U32
  | .ipv4 => NSS_IPV4_MAX_MSG_TYPES
  | .ipv6 => NSS_IPV6_MAX_MSG_TYPES

def sender : Family → Sender
  | .ipv4 => TransmitApi.nssIpv4TxWithSize
  | .ipv6 => TransmitApi.nssIpv6TxWithSize

def refusal (f : Family) (nim : RuleMsg) (size : U32) : Option TxFailure :=
  if nim.ncm.interface ≠ f.rxInterface then some .failure
  else if nim.type ≥ maxMsgTypes f then some .failure
  else if nssCmnGetMsgLen nim.ncm > f.msgSize then some .failure
  else if size.toNat > PAGE_SIZE then some .failure
  else none

section Functions
variable {kernel : Kernel} (cpu : ℕ) (env : TxEnv)

def txWithSize (f : Family) (nim : RuleMsg) (size : U32) (skb : Option (FreshSkb kernel size)) :
    Proc MsgCall TxStatus :=
  txCopied cpu (sender f) env (refusal f nim size) skb f.msgSize f.msgSize

def nssIpv4TxWithSize (nim : RuleMsg) (size : U32) (skb : Option (FreshSkb kernel size)) :
    Proc MsgCall TxStatus := txWithSize cpu env .ipv4 nim size skb

def nssIpv6TxWithSize (nim : RuleMsg) (size : U32) (skb : Option (FreshSkb kernel size)) :
    Proc MsgCall TxStatus := txWithSize cpu env .ipv6 nim size skb

end Functions

def enqueued (cpu : ℕ) (c : NssCtx) : List Enqueued := sentBy cpu (c.ring NSS_IF_CMD_QUEUE)

/-- The length that the message states fits the structure, and that its buffer. -/
structure Sized (kernel : Kernel) (msgSize : U32) (nim : RuleMsg) (size : U32) : Prop where
  len : NSS_CMN_MSG_SIZE + nim.ncm.len.toNat ≤ msgSize.toNat
  room : msgSize.toNat ≤ kernel.room size

/-- A call enqueues what fits, or fails and keeps no buffer. -/
structure Sound (kernel : Kernel) (cpu : ℕ) (msgSize : U32) (nim : RuleMsg) (size : U32)
    (c : NssCtx) (r : TxStatus) (x : MsgCall) : Prop where
  sent : enqueued cpu x.ctx ≠ enqueued cpu c → r = .success ∧ Sized kernel msgSize nim size
  unsent : enqueued cpu x.ctx = enqueued cpu c →
    r ≠ .success ∧ ∀ addr, x.freed.count addr = x.allocated.count addr

def Guarded (kernel : Kernel) (msgSize : U32) (nim : RuleMsg) (size : U32)
    (call : ℕ → TxEnv → Option (FreshSkb kernel size) → Proc MsgCall TxStatus) : Prop :=
  ∀ cpu env skb c, SharedOk (c.ring NSS_IF_CMD_QUEUE) → (c.ring NSS_IF_CMD_QUEUE).lock = none →
    ∃ r x, (call cpu env skb).exec (MsgCall.begin c) = some (r, x) ∧
      Sound kernel cpu msgSize nim size c r x

/-- Neither does the length wrap nor is the buffer too small for a message that
    the checks let through. -/
def SizesHold (kernel : Kernel) (f : Family) (nim : RuleMsg) (size : U32) : Prop :=
  nim.ncm.interface ≠ f.rxInterface ∨ maxMsgTypes f ≤ nim.type ∨ PAGE_SIZE < size.toNat ∨
    nim.ncm.len.toNat < 2 ^ 32 - NSS_CMN_MSG_SIZE ∧
      (f.msgSize.toNat < NSS_CMN_MSG_SIZE + nim.ncm.len.toNat ∨
        f.msgSize.toNat ≤ kernel.room size)

section Sizes
variable {kernel : Kernel} {f : Family} {nim : RuleMsg} {size : U32}

theorem sender_qid (f : Family) : (sender f).qid = NSS_IF_CMD_QUEUE := by
  cases f <;> rfl

theorem msgSize_lt (f : Family) : f.msgSize.toNat < PAGE_SIZE := by
  cases f <;> decide

theorem long_iff (f : Family) (ncm : NssCmnMsg) : nssCmnGetMsgLen ncm > f.msgSize ↔
    ncm.len.toNat < 2 ^ 32 - NSS_CMN_MSG_SIZE ∧
      f.msgSize.toNat < NSS_CMN_MSG_SIZE + ncm.len.toNat := by
  have hlt := ncm.len.isLt
  have hsize := msgSize_lt f
  have hleast : NSS_CMN_MSG_SIZE < f.msgSize.toNat := by cases f <;> decide
  have hpage : PAGE_SIZE = 4096 := rfl
  have hheader : NSS_CMN_MSG_SIZE = 28 := rfl
  unfold nssCmnGetMsgLen
  rw [gt_iff_lt, BitVec.lt_def, BitVec.toNat_add, hheader]
  change f.msgSize.toNat < (ncm.len.toNat + 28) % 2 ^ 32 ↔ _
  omega

theorem refusal_none : refusal f nim size = none ↔ nim.ncm.interface = f.rxInterface ∧
    ¬ maxMsgTypes f ≤ nim.type ∧ ¬ nssCmnGetMsgLen nim.ncm > f.msgSize ∧
      ¬ PAGE_SIZE < size.toNat := by
  unfold refusal
  split_ifs with hinterface htype hlen hsize
  · exact iff_of_false nofun fun h => hinterface h.1
  · exact iff_of_false nofun fun h => h.2.1 htype
  · exact iff_of_false nofun fun h => h.2.2.1 hlen
  · exact iff_of_false nofun fun h => h.2.2.2 hsize
  · exact iff_of_true rfl ⟨not_not.mp hinterface, htype, hlen, hsize⟩

/-- What the checks let through is of the right sizes exactly under the condition. -/
theorem sizesHold_iff (hnone : refusal f nim size = none) :
    SizesHold kernel f nim size ↔ Sized kernel f.msgSize nim size := by
  obtain ⟨hinterface, htype, hlen, hsize⟩ := refusal_none.mp hnone
  rw [long_iff] at hlen
  have hmsg := msgSize_lt f
  have hpage : PAGE_SIZE = 4096 := rfl
  have hheader : NSS_CMN_MSG_SIZE = 28 := rfl
  constructor
  · rintro (h | h | h | ⟨hwrap, h⟩)
    · exact absurd hinterface h
    · exact absurd h htype
    · exact absurd h hsize
    · exact ⟨by omega, by omega⟩
  · rintro ⟨hfits, hroom⟩
    exact .inr (.inr (.inr ⟨by omega, .inr hroom⟩))

theorem sizesHold_of_refused {why : TxFailure} (hsome : refusal f nim size = some why) :
    SizesHold kernel f nim size := by
  by_contra hnot
  unfold SizesHold at hnot
  rw [not_or, not_or, not_or, not_not] at hnot
  obtain ⟨hinterface, htype, hsize, hlen⟩ := hnot
  have hnone : refusal f nim size = none := by
    rw [refusal_none, long_iff]
    exact ⟨hinterface, htype, by omega, hsize⟩
  rw [hnone] at hsome
  cases hsome

end Sizes

section Runs
variable {kernel : Kernel} {cpu : ℕ} {f : Family} {nim : RuleMsg} {size msgSize addr : U32}
  {c c' : NssCtx} {r : TxStatus} {x : MsgCall}

theorem sound_refused {why : TxFailure} (hring : c'.ring = c.ring) :
    Sound kernel cpu msgSize nim size c (.refused why) ((MsgCall.begin c).setCtx c') := by
  have hsame : enqueued cpu c' = enqueued cpu c := by
    unfold enqueued
    rw [hring]
  exact ⟨fun hne => absurd hsame hne, fun _ => ⟨nofun, fun _ => rfl⟩⟩

theorem enqueued_ne (h : Settled cpu NSS_IF_CMD_QUEUE addr (MsgCall.begin c) .success x) :
    enqueued cpu x.ctx ≠ enqueued cpu c := by
  obtain ⟨-, e, hsent, -⟩ := h.sent rfl
  intro hsame
  have hlonger : enqueued cpu c ++ [e] = enqueued cpu c := hsent.symm.trans hsame
  exact absurd (List.append_right_eq_self.mp hlonger) (List.cons_ne_nil e [])

theorem sound_settled (hsized : Sized kernel msgSize nim size) (halloc : x.allocated = [] ++ [addr])
    (h : Settled cpu NSS_IF_CMD_QUEUE addr (MsgCall.begin c) r x) :
    Sound kernel cpu msgSize nim size c r x := by
  by_cases hok : r = .success
  · subst hok
    exact ⟨fun _ => ⟨rfl, hsized⟩, fun hsame => absurd hsame (enqueued_ne h)⟩
  · obtain ⟨hfreed, hsame⟩ := h.failed hok
    refine ⟨fun hne => absurd hsame hne, fun _ => ⟨hok, fun a => ?_⟩⟩
    rw [hfreed, halloc]
    rfl

theorem reply_running (f : Family) (put : U32) (kernel : Kernel) (size : U32) :
    reply (sender f) (mapsAll 17) (grown (kernel.skb size).nbuf put) runningCore = .success := by
  have hroom : TransmitAnswers.segments (grown (kernel.skb size).nbuf put) + 1 ≤
      TransmitAnswers.free (emptyRing 4) := by
    have hfree : TransmitAnswers.free (emptyRing 4) = 3 := by decide
    have hsegments : TransmitAnswers.segments (grown (kernel.skb size).nbuf put) = 0 := rfl
    omega
  refine answer_success.mpr ⟨rfl, hroom, ?_⟩
  unfold TransmitAnswers.encodes
  rw [mapsAll_mapped]
  cases f <;> rfl

theorem fillAndSend_running (kernel : Kernel) (f : Family) (size : U32)
    (hroom : f.msgSize.toNat ≤ kernel.room size) :
    ∃ x, (fillAndSend 0 (sender f) (mapsAll 17) (kernel.skb size) f.msgSize f.msgSize).exec
        (MsgCall.begin runningCore) = some (.success, x) ∧
      enqueued 0 x.ctx ≠ enqueued 0 runningCore := by
  have hring : SharedOk (runningCore.ring (sender f).qid) := emptyRing_four
  obtain ⟨r, x, hexec, -, -, hsettled, hreply⟩ := fillAndSend_exec 0 (mapsAll 17)
    (s := sender f) (x := MsgCall.begin runningCore) hring rfl
    (skbPut_fits (kernel.skb size) (.inl hroom))
  have hok : r = .success := by
    rw [hreply]
    exact worded_success.mpr (reply_running f f.msgSize kernel size)
  rw [hok, sender_qid] at hsettled
  rw [hok] at hexec
  exact ⟨x, hexec, enqueued_ne hsettled⟩

theorem guarded_iff (kernel : Kernel) (f : Family) (nim : RuleMsg) (size : U32) :
    (Guarded kernel f.msgSize nim size fun cpu env skb => txWithSize cpu env f nim size skb) ↔
      SizesHold kernel f nim size := by
  have hpage : PAGE_SIZE = 4096 := rfl
  cases hrefusal : refusal f nim size with
  | some why =>
    refine iff_of_true (fun cpu env skb c hring hfree => ?_) (sizesHold_of_refused hrefusal)
    have hsome : refusal f nim size ≠ none := by
      rw [hrefusal]
      nofun
    obtain ⟨why', c', hexec, hsame⟩ := txCopied_refused (x := MsgCall.begin c) cpu (sender f) env
      f.msgSize f.msgSize (.inr (.inl hsome))
    exact ⟨_, _, hexec, sound_refused hsame⟩
  | none =>
    rw [sizesHold_iff hrefusal]
    constructor
    · intro hguarded
      obtain ⟨r, x, hexec, hsound⟩ := hguarded 0 (mapsAll 17) (some (kernel.skb size)) runningCore
        emptyRing_four rfl
      unfold txWithSize at hexec
      rw [hrefusal, txCopied_accepted rfl] at hexec
      by_cases hover : kernel.room size < f.msgSize.toNat
      · rw [fillAndSend_over (skbPut_over (kernel.skb size) hover (msgSize_lt f))] at hexec
        cases hexec
      · obtain ⟨x', hexec', hsent⟩ := fillAndSend_running kernel f size (Nat.not_lt.mp hover)
        obtain ⟨rfl, rfl⟩ := Prod.mk.inj (Option.some.inj (hexec.symm.trans hexec'))
        exact (hsound.sent hsent).2
    · intro hsized cpu env skb c hring hfree
      unfold txWithSize
      rw [hrefusal]
      by_cases hstate : c.state = NSS_CORE_STATE_INITIALIZED
      · cases skb with
        | none =>
          obtain ⟨why, c', hexec, hsame⟩ := txCopied_refused (x := MsgCall.begin c) cpu (sender f)
            env f.msgSize f.msgSize (.inr (.inr rfl))
          exact ⟨_, _, hexec, sound_refused hsame⟩
        | some skb =>
          rw [← sender_qid f] at hring hfree
          obtain ⟨r, x, hexec, halloc, -, hsettled, -⟩ := fillAndSend_exec cpu env
            (s := sender f) (x := MsgCall.begin c) hring hfree
            (skbPut_fits skb (.inl hsized.room))
          rw [sender_qid] at hsettled
          refine ⟨r, x, ?_, sound_settled hsized halloc hsettled⟩
          rw [txCopied_accepted hstate]
          exact hexec
      · obtain ⟨why, c', hexec, hsame⟩ := txCopied_refused (x := MsgCall.begin c) cpu (sender f)
          env f.msgSize f.msgSize (.inl hstate)
        exact ⟨_, _, hexec, sound_refused hsame⟩

end Runs

/-- Both functions are sound exactly for the messages and sizes that the checks were
    meant to leave. -/
theorem tx_with_size_iff (kernel : Kernel) (nim : RuleMsg) (size : U32) :
    ((Guarded kernel (Family.msgSize .ipv4) nim size fun cpu env skb =>
        nssIpv4TxWithSize cpu env nim size skb) ↔ SizesHold kernel .ipv4 nim size) ∧
      ((Guarded kernel (Family.msgSize .ipv6) nim size fun cpu env skb =>
        nssIpv6TxWithSize cpu env nim size skb) ↔ SizesHold kernel .ipv6 nim size) :=
  ⟨guarded_iff kernel .ipv4 nim size, guarded_iff kernel .ipv6 nim size⟩

/-- A rule whose length is `len`. -/
def rule (f : Family) (len : U32) : RuleMsg := ⟨⟨1, f.rxInterface, len⟩, 0⟩

/-- The length wraps to that of an empty message, or the buffer has no room for the copy. -/
theorem sizes_escape :
    (¬ Guarded Kernel.exact (Family.msgSize .ipv4) (rule .ipv4 0xFFFFFFE4) 1984 fun cpu env skb =>
        nssIpv4TxWithSize cpu env (rule .ipv4 0xFFFFFFE4) 1984 skb) ∧
      ¬ Guarded Kernel.exact (Family.msgSize .ipv6) (rule .ipv6 168) 196 fun cpu env skb =>
        nssIpv6TxWithSize cpu env (rule .ipv6 168) 196 skb := by
  constructor
  · intro hguarded
    rcases (guarded_iff _ _ _ _).mp hguarded with h | h | h | ⟨h, -⟩
    · exact h rfl
    · exact absurd h (by decide)
    · exact absurd h (by decide)
    · exact absurd h (by decide)
  · intro hguarded
    rcases (guarded_iff _ _ _ _).mp hguarded with h | h | h | ⟨-, h | h⟩
    · exact h rfl
    · exact absurd h (by decide)
    · exact absurd h (by decide)
    · exact absurd h (by decide)
    · exact absurd h (by decide)

end NssDrv.SizedMessages

import NssDrv.N2hRequests
import NssDrv.TransmitAnswers

set_option autoImplicit false

/-!
# The buffers of messages

The functions that send a message copy it into an skb of their own. This is one
such call with that skb: what `dev_alloc_skb` gave for a size, what was put and
copied into it, and what was freed.
-/
namespace NssDrv.MessageBuffers
open HlosInterface SharedThread DescriptorRing RingLocking TransmitEncoders TransmitQueue
open TransmitApi TransmitAnswers
open N2hRequests (PAGE_SIZE)
open TransmitRing (Returned sendBuffer_returned)

/-- The room that `dev_alloc_skb` gives for a size: as much as was asked for, and
    more where it rounds up. -/
structure Kernel where
  room : U32 → ℕ
  enough : ∀ size : U32, size.toNat ≤ PAGE_SIZE → size.toNat ≤ room size
  most : ∀ size, room size ≤ 2 ^ 31

/-- A kernel that does not round up. -/
def Kernel.exact : Kernel where
  room := fun size => min size.toNat PAGE_SIZE
  enough := fun size hsize => by rw [min_eq_left hsize]
  most := fun size => (min_le_right _ _).trans (by decide)

/-- What `dev_alloc_skb(size)` returns. Neither the first nor the last page of the
    address space is given out. -/
structure FreshSkb (kernel : Kernel) (size : U32) where
  nbuf : TxSkb
  fragSizes : nbuf.fragSizes = []
  fragList : nbuf.fragList = []
  room : nbuf.tail.toNat + kernel.room size = nbuf.end_.toNat
  low : PAGE_SIZE ≤ nbuf.tail.toNat
  high : nbuf.end_.toNat + PAGE_SIZE ≤ 2 ^ 32

def Kernel.skb (kernel : Kernel) (size : U32) : FreshSkb kernel size where
  nbuf :=
    { addr := 7
      head := BitVec.ofNat 32 PAGE_SIZE
      data := BitVec.ofNat 32 PAGE_SIZE
      tail := BitVec.ofNat 32 PAGE_SIZE
      end_ := BitVec.ofNat 32 (PAGE_SIZE + kernel.room size)
      len := 0
      dataLen := 0
      priority := 0
      nrFrags := 0
      ipSummed := .checksumNone
      hasDestructor := false
      gsoSize := 0
      fragSizes := []
      fragList := []
      fragSizes_lt := TxSkb.noFrags_lt
      fragList_lt := TxSkb.noFragList_lt }
  fragSizes := rfl
  fragList := rfl
  room := by
    have hmost := kernel.most size
    have hpage : PAGE_SIZE = 4096 := rfl
    rw [BitVec.toNat_ofNat, BitVec.toNat_ofNat, Nat.mod_eq_of_lt (by omega),
      Nat.mod_eq_of_lt (by omega)]
  low := Nat.le_refl PAGE_SIZE
  high := by
    have hmost := kernel.most size
    have hpage : PAGE_SIZE = 4096 := rfl
    rw [BitVec.toNat_ofNat, Nat.mod_eq_of_lt (by omega)]
    omega

structure Fill where
  room : ℕ
  put : U32
  copied : U32

/-- A core's instance. Ghosts: the skbs that one call allocated, filled and freed. -/
structure MsgCall where
  ctx : NssCtx
  allocated : List U32
  fills : List Fill
  freed : List U32

namespace MsgCall

def begin (ctx : NssCtx) : MsgCall := ⟨ctx, [], [], []⟩

def setCtx (ctx : NssCtx) (c : MsgCall) : MsgCall := { c with ctx := ctx }

def allocate (addr : U32) (c : MsgCall) : MsgCall := { c with allocated := c.allocated ++ [addr] }

def fill (f : Fill) (c : MsgCall) : MsgCall := { c with fills := c.fills ++ [f] }

def free (addr : U32) (c : MsgCall) : MsgCall := { c with freed := c.freed ++ [addr] }

end MsgCall

abbrev onCtx {α : Type} (q : Proc NssCtx α) : Proc MsgCall α := q.zoom MsgCall.ctx MsgCall.setCtx

def grown (nbuf : TxSkb) (len : U32) : TxSkb :=
  { nbuf with tail := nbuf.tail + len, len := nbuf.len + len }

/-- `skb_over_panic` where the tail passes the end. -/
def skbPut (nbuf : TxSkb) (len : U32) : Proc MsgCall TxSkb :=
  if nbuf.end_ < (grown nbuf len).tail then .halt else return grown nbuf len

section Calls
variable {kernel : Kernel} {size : U32} (cpu : ℕ) (s : Sender) (env : TxEnv)

def sendOrFree (nbuf : TxSkb) : Proc MsgCall TxStatus := do
  let status ← onCtx (sendBuffer cpu s env 0 nbuf)
  if status ≠ .success then do
    Proc.modify (MsgCall.free nbuf.addr)
    return status
  else return status

def fillAndSend (skb : FreshSkb kernel size) (put copied : U32) : Proc MsgCall TxStatus := do
  Proc.modify (MsgCall.allocate skb.nbuf.addr)
  let nbuf ← skbPut skb.nbuf put
  Proc.modify (MsgCall.fill ⟨kernel.room size, put, copied⟩)
  sendOrFree cpu s env nbuf

/-- A function that refuses some of its requests and puts the others into a new
    skb of `size` bytes. -/
def txCopied (refusal : Option TxFailure) (skb : Option (FreshSkb kernel size))
    (put copied : U32) : Proc MsgCall TxStatus := do
  let state ← onCtx (Proc.read NssCtx.state)
  if state ≠ NSS_CORE_STATE_INITIALIZED then return .refused s.notReady
  else match refusal with
    | some why => return .refused why
    | none => match skb with
      | none => do
        onCtx (Proc.modify (NssCtx.count .nbufAllocFails))
        return .refused .failure
      | some skb => fillAndSend cpu s env skb put copied

end Calls

section Runs
variable {kernel : Kernel} {size : U32} {cpu : ℕ} {s : Sender} {env : TxEnv}
  {skb : FreshSkb kernel size} {nbuf : TxSkb} {put copied : U32} {c : NssCtx} {x x' : MsgCall}
  {r : TxStatus}

theorem exec_onCtx {α : Type} (q : Proc NssCtx α) (x : MsgCall) :
    (onCtx q).exec x = (q.exec x.ctx).map fun r => (r.1, x.setCtx r.2) := by
  refine Proc.exec_zoom ?_ ?_ ?_ q x
  · exact fun _ _ => rfl
  · exact fun _ => rfl
  · exact fun _ _ _ => rfl

theorem exec_port {α : Type} (q : Proc H2nPort α) (i : ℕ) (c : NssCtx) :
    (q.zoom (NssCtx.port i) (NssCtx.setPort i)).exec c =
      (q.exec (c.port i)).map fun r => (r.1, c.setPort i r.2) := by
  refine Proc.exec_zoom (fun p c => NssCtx.port_setPort i p c) (fun c => ?_) (fun p p' c => ?_) q c
  · unfold NssCtx.setPort NssCtx.port
    rw [Function.update_eq_self]
  · unfold NssCtx.setPort
    rw [Function.update_idem]

theorem ringAfter_ring (cpu : ℕ) (s : Sender) (v : CoreStatus) (c : NssCtx) :
    ∃ c', (ringAfter cpu s v).exec c = some (worded s v, c') ∧ c'.ring = c.ring := by
  cases v with
  | success =>
    refine ⟨_, rfl, ?_⟩
    cases s.counter with
    | none => rfl
    | some x => rfl
  | failureQueue => exact ⟨c, rfl, rfl⟩
  | failure => exact ⟨c, rfl, rfl⟩

/-- What `nss_core_send_buffer` answers. -/
def reply (s : Sender) (env : TxEnv) (nbuf : TxSkb) (c : NssCtx) : CoreStatus :=
  answer (c.ring s.qid).size.toNat (free (c.ring s.qid)) env nbuf s.bufferType

theorem sendBuffer_exec (cpu : ℕ) (env : TxEnv) (hring : SharedOk (c.ring s.qid))
    (hfree : (c.ring s.qid).lock = none) (hfrags : nbuf.fragSizes = []) :
    ∃ c', (sendBuffer cpu s env 0 nbuf).exec c =
      some (worded s (reply s env nbuf c), c') ∧
      Returned cpu (sentBy cpu (c.ring s.qid)) nbuf.addr (reply s env nbuf c) (c'.ring s.qid) := by
  have hmax : nbuf.hasFragList = false → nbuf.fragSizes.length ≤ env.maxSkbFrags := by
    intro _
    rw [hfrags]
    exact Nat.zero_le _
  obtain ⟨p, hexec⟩ := send_answer (p := c.port s.qid) cpu 0 s.bufferType s.flags hring hfree hmax
  have hout : Outside cpu (c.port s.qid).ring.size (sentBy cpu (c.ring s.qid))
      (c.port s.qid).ring :=
    { hring with
      lock := by rw [show (c.port s.qid).ring.lock = none from hfree]; nofun
      size_eq := rfl
      sent_eq := rfl }
  have hret := (sendBuffer_returned hout).exec hexec
  obtain ⟨c', hafter, hsame⟩ := ringAfter_ring cpu s (reply s env nbuf c) (c.setPort s.qid p)
  refine ⟨c', ?_, ?_⟩
  · unfold sendBuffer
    rw [Proc.exec_bind, exec_port, hexec]
    exact hafter
  · rw [hsame]
    change Returned _ _ _ _ (Function.update c.ring s.qid p.ring s.qid)
    rw [Function.update_self]
    exact hret

theorem worded_success {v : CoreStatus} : worded s v = .success ↔ v = .success := by
  cases v with
  | success => exact iff_of_true rfl rfl
  | failureQueue => exact iff_of_false nofun nofun
  | failure => exact iff_of_false nofun nofun

/-- The skb that was allocated is on the ring, or was freed. -/
structure Settled (cpu q : ℕ) (addr : U32) (x : MsgCall) (r : TxStatus) (x' : MsgCall) : Prop where
  sent : r = .success → x'.freed = x.freed ∧
    ∃ e, sentBy cpu (x'.ctx.ring q) = sentBy cpu (x.ctx.ring q) ++ [e] ∧ e.cookie = addr
  failed : r ≠ .success → x'.freed = x.freed ++ [addr] ∧
    sentBy cpu (x'.ctx.ring q) = sentBy cpu (x.ctx.ring q)

theorem sendOrFree_exec (cpu : ℕ) (env : TxEnv) (nbuf : TxSkb) (hring : SharedOk (x.ctx.ring s.qid))
    (hfree : (x.ctx.ring s.qid).lock = none) (hfrags : nbuf.fragSizes = []) :
    ∃ x', (sendOrFree cpu s env nbuf).exec x = some (worded s (reply s env nbuf x.ctx), x') ∧
      x'.allocated = x.allocated ∧ x'.fills = x.fills ∧
      Settled cpu s.qid nbuf.addr x (worded s (reply s env nbuf x.ctx)) x' := by
  obtain ⟨c', hexec, hret⟩ := sendBuffer_exec cpu env hring hfree hfrags
  have hstart : (sendOrFree cpu s env nbuf).exec x =
      (if worded s (reply s env nbuf x.ctx) ≠ .success then
        (Proc.modify (MsgCall.free nbuf.addr)).bind fun _ =>
          .ret (worded s (reply s env nbuf x.ctx))
      else .ret (worded s (reply s env nbuf x.ctx))).exec (x.setCtx c') := by
    unfold sendOrFree
    rw [Proc.bind_eq, Proc.exec_bind, exec_onCtx, hexec]
    rfl
  rw [hstart]
  by_cases hok : reply s env nbuf x.ctx = .success
  · have hworded : worded s (reply s env nbuf x.ctx) = .success := worded_success.mpr hok
    refine ⟨x.setCtx c', ?_, rfl, rfl, fun _ => ⟨rfl, ?_⟩, fun hne => absurd hworded hne⟩
    · rw [if_neg (not_not.mpr hworded)]
      rfl
    · obtain ⟨e, hsent, hcookie, -⟩ := hret.success hok
      exact ⟨e, hsent, hcookie⟩
  · have hworded : worded s (reply s env nbuf x.ctx) ≠ .success := mt worded_success.mp hok
    refine ⟨(x.setCtx c').free nbuf.addr, ?_, rfl, rfl, fun heq => absurd heq hworded,
      fun _ => ⟨rfl, hret.failure hok⟩⟩
    rw [if_pos hworded]
    rfl

theorem skbPut_exec : (skbPut nbuf put).exec x =
    if nbuf.end_ < nbuf.tail + put then none
    else some (grown nbuf put, x) := by
  change (if nbuf.end_ < nbuf.tail + put then _ else _ : Proc MsgCall TxSkb).exec x = _
  split
  · rfl
  · rfl

theorem skbPut_fits (skb : FreshSkb kernel size) (hput : put.toNat ≤ kernel.room size ∨
    2 ^ 32 - PAGE_SIZE ≤ put.toNat) : ¬ skb.nbuf.end_ < skb.nbuf.tail + put := by
  have hroom := skb.room
  have hlow := skb.low
  have hhigh := skb.high
  have hlt := put.isLt
  unfold PAGE_SIZE at hput hlow hhigh
  rw [BitVec.lt_def, BitVec.toNat_add]
  omega

theorem skbPut_over (skb : FreshSkb kernel size) (hover : kernel.room size < put.toNat)
    (hput : put.toNat < PAGE_SIZE) : skb.nbuf.end_ < skb.nbuf.tail + put := by
  have hroom := skb.room
  have hhigh := skb.high
  unfold PAGE_SIZE at hput hhigh
  rw [BitVec.lt_def, BitVec.toNat_add, Nat.mod_eq_of_lt (by omega)]
  omega

theorem fillAndSend_exec (cpu : ℕ) (env : TxEnv) (hring : SharedOk (x.ctx.ring s.qid))
    (hfree : (x.ctx.ring s.qid).lock = none) (hput : ¬ skb.nbuf.end_ < skb.nbuf.tail + put) :
    ∃ r x', (fillAndSend cpu s env skb put copied).exec x = some (r, x') ∧
      x'.allocated = x.allocated ++ [skb.nbuf.addr] ∧
      x'.fills = x.fills ++ [⟨kernel.room size, put, copied⟩] ∧
      Settled cpu s.qid skb.nbuf.addr x r x' ∧
      r = worded s (reply s env (grown skb.nbuf put) x.ctx) := by
  obtain ⟨x', hexec, halloc, hfills, hsettled⟩ := sendOrFree_exec cpu env
    (grown skb.nbuf put) (x := (x.allocate skb.nbuf.addr).fill ⟨kernel.room size, put, copied⟩)
    hring hfree skb.fragSizes
  refine ⟨_, x', ?_, halloc, hfills, ⟨hsettled.sent, hsettled.failed⟩, rfl⟩
  have hskip : (fillAndSend cpu s env skb put copied).exec x =
      ((skbPut skb.nbuf put).bind fun nbuf =>
        (Proc.modify (MsgCall.fill ⟨kernel.room size, put, copied⟩)).bind fun _ =>
          sendOrFree cpu s env nbuf).exec (x.allocate skb.nbuf.addr) := rfl
  rw [hskip, Proc.exec_bind, skbPut_exec, if_neg hput]
  exact hexec

theorem fillAndSend_over (hput : skb.nbuf.end_ < skb.nbuf.tail + put) :
    (fillAndSend cpu s env skb put copied).exec x = none := by
  have hskip : (fillAndSend cpu s env skb put copied).exec x =
      ((skbPut skb.nbuf put).bind fun nbuf =>
        (Proc.modify (MsgCall.fill ⟨kernel.room size, put, copied⟩)).bind fun _ =>
          sendOrFree cpu s env nbuf).exec (x.allocate skb.nbuf.addr) := rfl
  rw [hskip, Proc.exec_bind, skbPut_exec, if_pos hput]
  rfl

theorem txCopied_exec (refusal : Option TxFailure) (skb : Option (FreshSkb kernel size)) :
    (txCopied cpu s env refusal skb put copied).exec x =
      if x.ctx.state ≠ NSS_CORE_STATE_INITIALIZED then some (.refused s.notReady, x)
      else match refusal, skb with
        | some why, _ => some (.refused why, x)
        | none, none => some (.refused .failure, x.setCtx (x.ctx.count .nbufAllocFails))
        | none, some skb => (fillAndSend cpu s env skb put copied).exec x := by
  change (if x.ctx.state ≠ NSS_CORE_STATE_INITIALIZED then _ else _ :
    Proc MsgCall TxStatus).exec x = _
  split
  · rfl
  · cases refusal with
    | some why => rfl
    | none => cases skb with
      | none => rfl
      | some skb => rfl

theorem txCopied_refused (cpu : ℕ) (s : Sender) (env : TxEnv) (put copied : U32)
    {refusal : Option TxFailure} {skb : Option (FreshSkb kernel size)}
    (h : x.ctx.state ≠ NSS_CORE_STATE_INITIALIZED ∨ refusal ≠ none ∨ skb = none) :
    ∃ why c', (txCopied cpu s env refusal skb put copied).exec x =
      some (.refused why, x.setCtx c') ∧ c'.ring = x.ctx.ring := by
  rw [txCopied_exec]
  by_cases hstate : x.ctx.state = NSS_CORE_STATE_INITIALIZED
  · rw [if_neg (not_not.mpr hstate)]
    cases refusal with
    | some why => exact ⟨why, x.ctx, rfl, rfl⟩
    | none => cases skb with
      | none => exact ⟨.failure, x.ctx.count .nbufAllocFails, rfl, rfl⟩
      | some skb => rcases h with h | h | h <;> contradiction
  · rw [if_pos hstate]
    exact ⟨s.notReady, x.ctx, rfl, rfl⟩

theorem txCopied_accepted (hstate : x.ctx.state = NSS_CORE_STATE_INITIALIZED) :
    (txCopied cpu s env none (some skb) put copied).exec x =
      (fillAndSend cpu s env skb put copied).exec x := by
  rw [txCopied_exec, if_neg (not_not.mpr hstate)]

theorem sendOrFree_fills (h : (sendOrFree cpu s env nbuf).exec x = some (r, x')) :
    x'.fills = x.fills := by
  unfold sendOrFree at h
  rw [Proc.bind_eq, Proc.exec_bind, exec_onCtx] at h
  cases hsend : (sendBuffer cpu s env 0 nbuf).exec x.ctx with
  | none =>
    rw [hsend] at h
    cases h
  | some sent =>
    rw [hsend] at h
    change (if sent.1 ≠ .success then _ else _ : Proc MsgCall TxStatus).exec _ = _ at h
    split at h
    · cases h
      rfl
    · cases h
      rfl

theorem fillAndSend_fills (h : (fillAndSend cpu s env skb put copied).exec x = some (r, x')) :
    x'.fills = x.fills ++ [⟨kernel.room size, put, copied⟩] := by
  unfold fillAndSend at h
  rw [Proc.bind_eq, Proc.exec_bind] at h
  change ((skbPut skb.nbuf put).bind _).exec (x.allocate skb.nbuf.addr) = _ at h
  rw [Proc.exec_bind, skbPut_exec] at h
  split at h
  · cases h
  · exact sendOrFree_fills h

end Runs
end NssDrv.MessageBuffers

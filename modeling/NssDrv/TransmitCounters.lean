import Mathlib.Algebra.Group.Pi.Lemmas
import Mathlib.Algebra.Order.BigOperators.Group.Multiset
import NssDrv.PoolLedgers
import NssDrv.ProducerRuns
import NssDrv.TransmitAnswers

set_option autoImplicit false

/-!
# The counters of the transmit path

What any number of callers on any number of CPUs add to the driver's counters,
together with the refill of the empty buffers: each call is charged once, for
what has become of it.
-/
namespace NssDrv.TransmitCounters
open HlosInterface SharedThread ThreadPool TransitionRuns PoolLedgers DescriptorRing
open TransmitEncoders TransmitQueue TransmitApi TransmitAnswers EmptyBufferRefill RingProducers
open ProducerRuns

/-- The counters that only the transmit path adds to. -/
def isTransmit : DrvStat → Bool
  | .nbufAllocFails | .txQueueFull0 | .txQueueFull1 | .txEmpty | .txPacket | .txCmdReq => true
  | .txCryptoReq | .txBufferReuse | .txSimple | .txNrFrags | .txFraglist => true
  | _ => false

/-- The counters that the transmit functions themselves add to. -/
def isCall : DrvStat → Bool
  | .txPacket | .txCmdReq | .txCryptoReq => true
  | _ => false

theorem isCall_transmit {x : DrvStat} (h : isCall x = true) : isTransmit x = true := by
  cases x <;> first | rfl | cases h

def transmitPart (st : DrvStats) : DrvStat → ℤ := fun x => if isTransmit x then st x else 0

def one (x : DrvStat) : DrvStat → ℤ := Pi.single x 1

theorem transmitPart_count (st : DrvStats) (x : DrvStat) :
    transmitPart (st.add x 1) = transmitPart st + if isTransmit x = true then one x else 0 := by
  funext y
  by_cases hy : y = x
  · subst hy
    cases hx : isTransmit y <;> simp [transmitPart, one, hx]
  · cases hx : isTransmit x <;> simp [transmitPart, one, DrvStats.add_of_ne, hy]

theorem transmitPart_add (st : DrvStats) {x : DrvStat} (hx : isTransmit x = true) :
    transmitPart (st.add x 1) = transmitPart st + one x := by
  rw [transmitPart_count, if_pos hx]

theorem transmitPart_other (st : DrvStats) {x : DrvStat} (hx : isTransmit x = false) :
    transmitPart (st.add x 1) = transmitPart st := by
  rw [transmitPart_count, if_neg (by simp [hx]), add_zero]

def portCounts (p : H2nPort) : DrvStat → ℤ := transmitPart p.stats

/-- The core's number, and rings whose indices fit their registers. -/
def PortFit (id : U32) (p : H2nPort) : Prop := p.coreId = id ∧ p.ring.size.toNat ≤ 2 ^ 14

section Encoders
variable {id : U32} {env : TxEnv} {size hlosIndex : U16} {ifNum : U32} {nbuf : TxSkb}
  {bufferType : U8} {mss flags bitFlags : U16} {α : Type} {owed : α → (DrvStat → ℤ) → Prop}
  {paid : DrvStat → ℤ}

def builder (env : TxEnv) (nbuf : TxSkb) (bufferType : U8) : DrvStat :=
  if txSegments nbuf = 0 || isBounce bufferType then
    if (reuseMapping env nbuf).isSome then .txBufferReuse else .txSimple
  else if nbuf.hasFragList then .txFraglist
  else .txNrFrags

def isBuilder : DrvStat → Bool
  | .txBufferReuse | .txSimple | .txFraglist | .txNrFrags => true
  | _ => false

theorem builder_isBuilder (env : TxEnv) (nbuf : TxSkb) (bufferType : U8) :
    isBuilder (builder env nbuf bufferType) = true := by
  unfold builder
  split_ifs <;> rfl

/-- An encoder that has written at most `n` descriptors counts them if it has written all. -/
def Encoded (x : DrvStat) (n : ℕ) (w : ℤ) (d : DrvStat → ℤ) : Prop :=
  -(n : ℤ) ≤ w ∧ w ≤ n ∧ d = if 0 < w then one x else 0

theorem encoded_all {x : DrvStat} {n : ℕ} {w : ℤ} (hpos : 0 < w) (hle : w ≤ n) :
    Encoded x n w (0 + one x) := ⟨by omega, hle, by rw [if_pos hpos, zero_add]⟩

theorem encoded_none {x : DrvStat} {n : ℕ} {w : ℤ} (hle : -(n : ℤ) ≤ w) (hneg : w ≤ 0) :
    Encoded x n w 0 := ⟨hle, by omega, by rw [if_neg (by omega)]⟩

theorem pays_ring {f : H2nRing → H2nRing} {k : Unit → Proc H2nPort α}
    (hsize : ∀ r : H2nRing, (f r).size = r.size)
    (hk : Pays (PortFit id) portCounts owed paid (k ())) :
    Pays (PortFit id) portCounts owed paid (Proc.modify (H2nPort.onRing f) >>= k) :=
  .keep (fun p hp => ⟨hp.1, by simpa [H2nPort.onRing, hsize] using hp.2⟩) (fun _ _ => rfl)
    fun _ _ => hk

theorem pays_stat {x : DrvStat} {k : Unit → Proc H2nPort α} (hx : isTransmit x = true)
    (hk : Pays (PortFit id) portCounts owed (paid + one x) (k ())) :
    Pays (PortFit id) portCounts owed paid (nssPktStatsIncrement x >>= k) :=
  .act (one x) (fun _ hp => hp) (fun p _ => transmitPart_add p.stats hx) fun _ _ => hk

theorem simpleSkb_pays : Pays (PortFit id) portCounts
    (Encoded (if (reuseMapping env nbuf).isSome then .txBufferReuse else .txSimple) 1) 0
    (nssCoreSendBufferSimpleSkb env ifNum nbuf hlosIndex flags bufferType mss) := by
  unfold nssCoreSendBufferSimpleSkb
  cases hreuse : reuseMapping env nbuf with
  | some r => exact pays_ring (fun _ => rfl) (pays_stat rfl (encoded_all (by decide) le_rfl))
  | none =>
    cases hdma : env.dma 1 with
    | none => exact encoded_none (by decide) (by decide)
    | some addr => exact pays_ring (fun _ => rfl) (pays_stat rfl (encoded_all (by decide) le_rfl))

theorem nrFragsFrom_pays (frags : List U32) (i : ℕ) (hlosIndex : U16) :
    Pays (PortFit id) portCounts (Encoded .txNrFrags (i + frags.length + 1)) 0
      (nrFragsFrom env size ifNum nbuf bufferType mss bitFlags i frags hlosIndex) := by
  induction frags generalizing i hlosIndex with
  | nil =>
    exact pays_ring (fun _ => rfl) (pays_stat rfl (encoded_all (by omega) le_rfl))
  | cons frag rest ih =>
    unfold nrFragsFrom
    rw [List.length_cons]
    cases hdma : env.dma (i + 2) with
    | none => exact encoded_none (by omega) (by omega)
    | some buffer =>
      have hrest := ih (i + 1) ((hlosIndex + 1) &&& (size - 1))
      rw [show i + 1 + rest.length + 1 = i + (rest.length + 1) + 1 by omega] at hrest
      exact pays_ring (fun _ => rfl) hrest

theorem fraglistFrom_pays (iters : List TxSegment) (i : ℕ) (hlosIndex : U16) :
    Pays (PortFit id) portCounts (Encoded .txFraglist (i + iters.length + 1)) 0
      (fraglistFrom env size ifNum bufferType mss bitFlags i iters hlosIndex) := by
  induction iters generalizing i hlosIndex with
  | nil =>
    exact pays_ring (fun _ => rfl) (pays_stat rfl (encoded_all (by omega) le_rfl))
  | cons iter rest ih =>
    unfold fraglistFrom
    rw [List.length_cons]
    have hgives : Encoded .txFraglist (i + (rest.length + 1) + 1) (-(i + 1)) 0 :=
      encoded_none (by omega) (by omega)
    cases hdma : env.dma (i + 2) with
    | none => exact hgives
    | some buffer =>
      dsimp only
      by_cases hfrags : iter.nrFrags > 0
      · rw [if_pos hfrags]
        exact hgives
      · rw [if_neg hfrags]
        have hrest := ih (i + 1) ((hlosIndex + 1) &&& (size - 1))
        rw [show i + 1 + rest.length + 1 = i + (rest.length + 1) + 1 by omega] at hrest
        exact pays_ring (fun _ => rfl) hrest

theorem encode_pays (ifNum : U32) (flags size hlosIndex : U16) :
    Pays (PortFit id) portCounts (Encoded (builder env nbuf bufferType) (segments nbuf + 1)) 0
      (encode env ifNum nbuf bufferType flags size hlosIndex) := by
  unfold encode builder
  dsimp only
  by_cases hsimple : (txSegments nbuf = 0 || isBounce bufferType) = true
  · rw [if_pos hsimple, if_pos hsimple]
    refine simpleSkb_pays.mono fun w d h => ⟨?_, ?_, h.2.2⟩
    · have hlow := h.1
      omega
    · have hhigh := h.2.1
      omega
  · rw [if_neg hsimple, if_neg hsimple]
    cases hlist : nbuf.hasFragList with
    | true =>
      rw [if_pos rfl, if_pos rfl, segments_fragList hlist]
      unfold nssCoreSendBufferFraglist
      cases env.dma 1 with
      | none => exact encoded_none (by omega) le_rfl
      | some addr =>
        rw [← Nat.zero_add (nbuf.fragList.length)]
        exact pays_ring (fun _ => rfl) (fraglistFrom_pays _ 0 _)
    | false =>
      rw [if_neg (by decide), if_neg (by decide), segments_frags hlist]
      unfold nssCoreSendBufferNrFrags
      cases env.dma 1 with
      | none => exact encoded_none (by omega) le_rfl
      | some addr =>
        refine pays_ring (fun _ => rfl) ?_
        split
        · trivial
        · rw [← Nat.zero_add (nbuf.fragSizes.length)]
          exact nrFragsFrom_pays _ 0 _

end Encoders

/-- A full ring is counted by the number of the core. -/
def full (id : U32) : DrvStat → ℤ :=
  if id = 0 then one .txQueueFull0 else if id = 1 then one .txQueueFull1 else 0

def coreCharge (id : U32) (built : DrvStat → ℤ) : CoreStatus → DrvStat → ℤ
  | .success => built
  | .failureQueue => full id
  | .failure => 0

section Send
variable {id : U32} {cpu : ℕ} {env : TxEnv} {ifNum : U32} {nbuf : TxSkb} {bufferType : U8}
  {flags size hlosIndex : U16} {built : DrvStat → ℤ}

abbrev PaysCore (id : U32) (built : DrvStat → ℤ) (paid : DrvStat → ℤ) (p : Proc H2nPort CoreStatus) :
    Prop := Pays (PortFit id) portCounts (fun v d => d = coreCharge id built v) paid p

theorem queueFull_pays : PaysCore id built 0 queueFull := by
  refine pays_ring (fun _ => rfl) (pays_ring (fun _ => rfl) ?_)
  refine .act (full id) ?_ ?_ fun p _ => ?_
  · intro p hp
    split_ifs
    · exact hp
    · exact hp
    · exact hp
  · intro p hp
    rw [← hp.1, full]
    split_ifs
    · exact transmitPart_add p.stats rfl
    · exact transmitPart_add p.stats rfl
    · exact (add_zero _).symm
  · rw [zero_add]
    exact .keep (fun _ hp => hp) (fun _ _ => rfl) fun _ _ => rfl

theorem publishEncoded_pays {x : DrvStat} {n : ℕ} {w : ℤ} {d : DrvStat → ℤ} (hn : n ≤ 2 ^ 14 + 1)
    (h : Encoded x n w d) : PaysCore id (one x) d (publishEncoded cpu nbuf size hlosIndex w) := by
  obtain ⟨hlow, hhigh, rfl⟩ := h
  have hcount : (BitVec.ofInt 16 w).toInt = w := by
    rw [BitVec.toInt_ofInt, Int.bmod_eq_of_le] <;> omega
  unfold publishEncoded
  dsimp only
  rw [hcount]
  by_cases hfailed : w ≤ 0
  · rw [if_pos hfailed, if_neg (by omega)]
    exact pays_ring (fun _ => rfl) rfl
  · rw [if_neg hfailed, if_pos (by omega)]
    refine pays_ring (fun _ => rfl) (pays_ring (fun _ => rfl) ?_)
    refine .keep (fun _ hp => hp) (fun p _ => transmitPart_other p.stats rfl) fun _ _ => ?_
    exact pays_ring (fun _ => rfl) rfl

theorem sendLocked_pays (hseg : segments nbuf ≤ 2 ^ 14) :
    PaysCore id (one (builder env nbuf bufferType)) 0
      (sendLocked cpu env ifNum nbuf bufferType flags size) := by
  unfold sendLocked
  refine .keep (fun _ hp => hp) (fun _ _ => rfl) fun _ _ => .read fun _ _ => .read fun _ _ => ?_
  dsimp only
  split
  · exact queueFull_pays
  · exact (encode_pays ifNum flags size _).bind fun w d h => publishEncoded_pays (by omega) h

theorem sendBuffer_pays : PaysCore id (one (builder env nbuf bufferType)) 0
    (nssCoreSendBuffer cpu env ifNum nbuf bufferType flags) := by
  unfold nssCoreSendBuffer
  refine .read fun p hp => ?_
  have hsize := hp.2
  cases hlist : nbuf.hasFragList with
  | true =>
    rw [if_pos rfl]
    split
    · exact rfl
    · rename_i hlong
      refine sendLocked_pays ?_
      have hle : (txSegments nbuf).toNat ≤ (p.ring.size.signExtend 32).toNat := by
        simpa [BitVec.ult] using hlong
      rw [signExtend_toNat (by omega)] at hle
      exact hle.trans hsize
  | false =>
    rw [if_neg (by decide)]
    split
    · trivial
    · refine sendLocked_pays ?_
      rw [segments_frags hlist]
      have hlt := nbuf.fragSizes_lt
      omega

theorem sendCrypto_pays {buf bufPaddr : U32} {len : U16} :
    PaysCore id 0 0 (nssCoreSendCrypto cpu buf bufPaddr len) := by
  unfold nssCoreSendCrypto
  refine .keep (fun _ hp => hp) (fun _ _ => rfl) fun _ _ =>
    .read fun _ _ => .read fun _ _ => .read fun _ _ => ?_
  dsimp only
  split
  · exact queueFull_pays
  · refine .keep (fun _ hp => hp) (fun _ _ => rfl) fun _ _ => ?_
    exact pays_ring (fun _ => rfl) (pays_ring (fun _ => rfl) (pays_ring (fun _ => rfl) rfl))

end Send

def counts (c : NssCtx) : DrvStat → ℤ := transmitPart c.stats

def CoreFit (id : U32) (c : NssCtx) : Prop := c.coreId = id ∧ ∀ q, (c.ring q).size.toNat ≤ 2 ^ 14

def oneOf (x : Option DrvStat) : DrvStat → ℤ := x.elim 0 one

/-- What a call may have been charged: a buffer that was sent, a full ring or no buffer at all,
    or nothing where the call was refused before. -/
inductive Charged (id : U32) (counter built : Option DrvStat) (buffer : Bool) :
    TxStatus → (DrvStat → ℤ) → Prop where
  | sent (h : buffer = true) : Charged id counter built buffer .success (oneOf built + oneOf counter)
  | refused (why : TxFailure) : Charged id counter built buffer (.refused why) 0
  | full (h : buffer = true) (why : TxFailure) : Charged id counter built buffer (.refused why) (full id)
  | noBuffer (h : buffer = false) :
      Charged id counter built buffer (.refused .failure) (one .nbufAllocFails)

def counterOf : Request → Option DrvStat
  | .message s _ _ _ _ _ => s.counter
  | .messageExt _ _ _ => nssWifiVdevTxMsgExt.counter
  | .packet s _ _ _ _ _ _ => s.counter
  | .crypto _ _ _ => nssCryptoTxBuf.counter
  | .bounceInterface _ _ _ => shaperBounceInterface.counter
  | .bounceBridge _ _ _ => shaperBounceBridge.counter
  | .c2cMap _ _ => nssSendC2cMap.counter

def builderOf : Request → Option DrvStat
  | .message s _ env _ _ nbuf => nbuf.map fun nbuf => builder env nbuf s.bufferType
  | .messageExt env _ nbuf => some (builder env nbuf nssWifiVdevTxMsgExt.bufferType)
  | .packet s _ env _ _ _ nbuf => some (builder env nbuf s.bufferType)
  | .crypto _ _ _ => none
  | .bounceInterface env _ nbuf => some (builder env nbuf shaperBounceInterface.bufferType)
  | .bounceBridge env _ nbuf => some (builder env nbuf shaperBounceBridge.bufferType)
  | .c2cMap env nbuf => nbuf.map fun nbuf => builder env nbuf nssSendC2cMap.bufferType

section Calls
variable {id : U32} {cpu : ℕ} {s : Sender} {env : TxEnv} {ifNum : U32} {built : Option DrvStat}
  {counter : Option DrvStat} {buffer : Bool} {before after : Option TxFailure}

/-- A counter that the function has is one of those for calls. -/
def CountsOwn (s : Sender) : Prop := s.counter.elim true isCall = true

theorem pays_core {α : Type} {owed : α → (DrvStat → ℤ) → Prop} {paid : DrvStat → ℤ} (q : ℕ)
    {p : Proc H2nPort α} (h : Pays (PortFit id) portCounts owed paid p) :
    Pays (CoreFit id) counts owed paid (p.zoom (NssCtx.port q) (NssCtx.setPort q)) := by
  refine h.zoom (fun c hc => ⟨hc.1, hc.2 q⟩) ?_ fun _ _ _ _ => rfl
  rintro c p ⟨hid, hfit⟩ ⟨hid', hfit'⟩
  refine ⟨hid', fun q' => ?_⟩
  by_cases hq : q' = q
  · subst hq
    simpa [NssCtx.setPort] using hfit'
  · simpa [NssCtx.setPort, hq] using hfit q'

theorem ringAfter_pays (built : Option DrvStat) (hs : CountsOwn s) (v : CoreStatus) (d : DrvStat → ℤ)
    (hd : d = coreCharge id (oneOf built) v) :
    Pays (CoreFit id) counts (Charged id s.counter built true) d (ringAfter cpu s v) := by
  subst hd
  cases v with
  | failure => exact .refused _
  | failureQueue => exact .full rfl _
  | success =>
    refine .keep (fun _ hc => hc) (fun _ _ => rfl) fun _ _ => ?_
    have hsent : Charged id s.counter built true .success (oneOf built + oneOf s.counter) :=
      .sent rfl
    unfold CountsOwn at hs
    cases hcounter : s.counter with
    | none =>
      rw [hcounter] at hsent
      refine .keep (fun _ hc => hc) (fun _ _ => rfl) fun _ _ => ?_
      rwa [show oneOf none = 0 from rfl, add_zero] at hsent
    | some x =>
      rw [hcounter] at hsent hs
      exact .act (one x) (fun _ hc => hc) (fun c _ => transmitPart_add c.stats (isCall_transmit hs))
        fun _ _ => hsent

theorem sendBuffer_charged (nbuf : TxSkb) (hs : CountsOwn s) :
    Pays (CoreFit id) counts (Charged id s.counter (some (builder env nbuf s.bufferType)) true) 0
      (sendBuffer cpu s env ifNum nbuf) :=
  (pays_core s.qid sendBuffer_pays).bind
    (ringAfter_pays (some (builder env nbuf s.bufferType)) hs)

theorem whenReady_charged {k : Proc NssCtx TxStatus}
    (hk : Pays (CoreFit id) counts (Charged id counter built buffer) 0 k) :
    Pays (CoreFit id) counts (Charged id counter built buffer) 0 (whenReady s before after k) := by
  unfold whenReady
  cases before with
  | some why => exact .refused why
  | none =>
    refine .read fun c _ => ?_
    split
    · exact .refused _
    · cases after with
      | some why => exact .refused why
      | none => exact hk

theorem sendMessage_charged (nbuf : Option TxSkb) (hs : CountsOwn s) :
    Pays (CoreFit id) counts
      (Charged id s.counter (nbuf.map fun nbuf => builder env nbuf s.bufferType) nbuf.isSome) 0
      (sendMessage cpu s env nbuf) := by
  cases nbuf with
  | some nbuf => exact sendBuffer_charged nbuf hs
  | none =>
    have hfails : Charged id s.counter none false (.refused .failure) (one .nbufAllocFails) :=
      .noBuffer rfl
    unfold sendMessage
    dsimp only
    split
    · refine .keep (fun _ hc => hc) (fun _ _ => rfl) fun _ _ => ?_
      refine .act (one .nbufAllocFails) (fun _ hc => hc) (fun c _ => transmitPart_add c.stats rfl) ?_
      intro _ _
      rw [zero_add]
      exact .keep (fun _ hc => hc) (fun _ _ => rfl) fun _ _ => hfails
    · refine .act (one .nbufAllocFails) (fun _ hc => hc) (fun c _ => transmitPart_add c.stats rfl) ?_
      intro _ _
      rw [zero_add]
      exact hfails

theorem bouncePacket_charged {registered : NssCtx → Bool} {found : NssCtx → NssCtx} {nbuf : TxSkb}
    (hs : CountsOwn s) (hfit : ∀ c, CoreFit id c → CoreFit id (found c))
    (hfound : ∀ c, (found c).stats = c.stats) :
    Pays (CoreFit id) counts (Charged id s.counter (some (builder env nbuf s.bufferType)) true) 0
      (bouncePacket cpu s env ifNum registered found nbuf) := by
  unfold bouncePacket
  refine .keep (fun _ hc => hc) (fun _ _ => rfl) fun _ _ => ?_
  refine .keep (fun c hc => ?_) (fun c _ => ?_) fun c _ => ?_
  · split
    · exact hfit c hc
    · exact hc
  · split
    · exact congrArg transmitPart (hfound c)
    · rfl
  · rw [Proc.ret_bind]
    split
    · exact .keep (fun _ hc => hc) (fun _ _ => rfl) fun _ _ => sendBuffer_charged nbuf hs
    · exact .keep (fun _ hc => hc) (fun _ _ => rfl) fun _ _ => .refused _

theorem messageSenders_own : ∀ s ∈ messageSenders, s.counter.elim true isCall = true := by decide

theorem packetSenders_own : ∀ s ∈ packetSenders, s.counter.elim true isCall = true := by decide

theorem request_charged (req : Request) :
    Pays (CoreFit id) counts (Charged id (counterOf req) (builderOf req) req.buffer.isSome) 0
      (req.call cpu) := by
  cases req with
  | message s known env before after nbuf =>
    refine whenReady_charged ?_
    have hsend : Pays (CoreFit id) counts _ 0 (sendMessage cpu s env nbuf) :=
      sendMessage_charged nbuf (messageSenders_own s known)
    simpa [counterOf, builderOf, Request.buffer] using hsend
  | messageExt env after nbuf =>
    change Pays _ _ _ 0 (whenReady nssWifiVdevTxMsgExt none after _)
    exact whenReady_charged (sendBuffer_charged (s := nssWifiVdevTxMsgExt) nbuf rfl)
  | packet s known env ifNum before after nbuf =>
    exact whenReady_charged (sendBuffer_charged nbuf (packetSenders_own s known))
  | crypto buf bufPaddr len =>
    change Pays _ _ _ 0 (whenReady nssCryptoTxBuf none none _)
    refine whenReady_charged ?_
    exact (pays_core _ sendCrypto_pays).bind
      (ringAfter_pays (s := nssCryptoTxBuf) none rfl)
  | bounceInterface env ifNum nbuf =>
    exact bouncePacket_charged (s := shaperBounceInterface) rfl (fun _ hc => hc) fun _ => rfl
  | bounceBridge env ifNum nbuf =>
    exact bouncePacket_charged (s := shaperBounceBridge) rfl (fun _ hc => hc) fun _ => rfl
  | c2cMap env nbuf =>
    have hsend : Pays (CoreFit id) counts _ 0 (sendMessage cpu nssSendC2cMap env nbuf) :=
      sendMessage_charged nbuf rfl
    simpa [counterOf, builderOf, Request.buffer, Request.call] using hsend

end Calls

section Refill
variable {id : U32} {cpu : ℕ} {env : RefillEnv} {α : Type}

/-- A refill that ended early may have failed to allocate a buffer. -/
def Short (_ : α) (d : DrvStat → ℤ) : Prop := d = 0 ∨ d = one .nbufAllocFails

theorem refillFrom_pays (mask : U32) (count i : ℕ) (hlosIndex : U32) (given : List U32) :
    Pays (PortFit id) portCounts Short 0 (refillFrom env mask count i hlosIndex given) := by
  induction count generalizing i hlosIndex given with
  | zero => exact .inl rfl
  | succ count ih =>
    unfold refillFrom
    split
    · exact pays_stat rfl (.inr (zero_add _))
    · refine pays_ring (fun _ => rfl) ?_
      split
      · exact .inl rfl
      · refine .keep (fun _ hp => hp) (fun p _ => transmitPart_other p.stats rfl) fun _ _ => ?_
        exact .keep (fun _ hp => hp) (fun _ _ => rfl) fun _ _ => ih _ _ _

theorem refillEmptyBuffers_pays :
    Pays (PortFit id) portCounts Short 0 (refillEmptyBuffers cpu env) := by
  unfold refillEmptyBuffers
  refine .read fun _ _ => .read fun _ _ => .read fun _ _ => ?_
  refine (refillFrom_pays _ _ _ _ _).bind fun filled d hd => ?_
  refine pays_ring (fun _ => rfl) ?_
  exact .keep (fun _ hp => hp) (fun _ _ => rfl) fun _ _ => hd

end Refill

inductive Work where
  | send (req : Request)
  | refill (env : RefillEnv)

def Work.body (cpu : ℕ) : Work → Proc NssCtx Report
  | .send req => ProducerRuns.send cpu req
  | .refill env => ProducerRuns.refill env

inductive Owed (id : U32) : Work → Report → (DrvStat → ℤ) → Prop where
  | sent {req : Request} {v : TxStatus} {d : DrvStat → ℤ}
      (h : Charged id (counterOf req) (builderOf req) req.buffer.isSome v d) :
      Owed id (.send req) (.sent v) d
  | refilled {env : RefillEnv} {given : List U32} {d : DrvStat → ℤ} (h : Short given d) :
      Owed id (.refill env) (.refilled given) (d + one .txEmpty)

theorem work_pays (id : U32) (cpu : ℕ) (w : Work) :
    Pays (CoreFit id) counts (Owed id w) 0 (w.body cpu) := by
  cases w with
  | send req => exact (request_charged req).bind fun v d h => .sent h
  | refill env =>
    have hcall : Pays (CoreFit id) counts
        (fun given d => Owed id (.refill env) (.refilled given) d) 0 (refillCall env) := by
      refine (pays_core _ refillEmptyBuffers_pays).bind fun given d h => ?_
      refine .keep (fun _ hc => hc) (fun _ _ => rfl) fun _ _ => ?_
      exact .act (one .txEmpty) (fun _ hc => hc) (fun c _ => transmitPart_add c.stats rfl)
        fun _ _ => .refilled h
    exact hcall.bind fun _ _ h => h

/-- The answered calls that a counter is for. -/
def counted (x : DrvStat) : Work → Report → Bool
  | .send req, .sent .success => builderOf req = some x || counterOf req = some x
  | .refill _, .refilled _ => x = .txEmpty
  | _, _ => false

/-- The answered calls that may have found the ring full or no memory. -/
def failing (id : U32) (x : DrvStat) : Work → Report → Bool
  | .send req, .sent (.refused _) =>
    if req.buffer.isSome then x = .txQueueFull0 && id = 0 || x = .txQueueFull1 && id = 1
    else x = .nbufAllocFails
  | .refill _, .refilled _ => x = .nbufAllocFails
  | _, _ => false

def isFailure : DrvStat → Bool
  | .txQueueFull0 | .txQueueFull1 | .nbufAllocFails => true
  | _ => false

section Charges
variable {id : U32} {w : Work} {a : Report} {d : DrvStat → ℤ} {x : DrvStat} {req : Request}

theorem counterOf_call (h : counterOf req = some x) : isCall x = true := by
  have hsender : ∀ {s : Sender}, CountsOwn s → s.counter = some x → isCall x = true := by
    intro s hs hx
    unfold CountsOwn at hs
    rwa [hx] at hs
  cases req with
  | message s known => exact hsender (messageSenders_own s known) h
  | messageExt => exact hsender (s := nssWifiVdevTxMsgExt) rfl h
  | packet s known => exact hsender (packetSenders_own s known) h
  | crypto => exact hsender (s := nssCryptoTxBuf) rfl h
  | bounceInterface => exact hsender (s := shaperBounceInterface) rfl h
  | bounceBridge => exact hsender (s := shaperBounceBridge) rfl h
  | c2cMap => exact hsender (s := nssSendC2cMap) rfl h

theorem builderOf_isBuilder (h : builderOf req = some x) : isBuilder x = true := by
  have hbuilder : ∀ {env : TxEnv} {nbuf : TxSkb} {bufferType : U8},
      some (builder env nbuf bufferType) = some x → isBuilder x = true := by
    intro env nbuf bufferType hx
    rw [← Option.some.inj hx]
    exact builder_isBuilder env nbuf bufferType
  have hmessage : ∀ {env : TxEnv} {nbuf : Option TxSkb} {bufferType : U8},
      (nbuf.map fun nbuf => builder env nbuf bufferType) = some x → isBuilder x = true := by
    intro env nbuf bufferType hx
    obtain ⟨nbuf, _, hx⟩ := Option.map_eq_some_iff.mp hx
    exact hbuilder (congrArg some hx)
  cases req with
  | message => exact hmessage h
  | messageExt => exact hbuilder h
  | packet => exact hbuilder h
  | crypto => cases h
  | bounceInterface => exact hbuilder h
  | bounceBridge => exact hbuilder h
  | c2cMap => exact hmessage h

theorem call_not_builder (hcall : isCall x = true) (hbuilds : isBuilder x = true) : False := by
  cases x <;> simp_all [isCall, isBuilder]

theorem failure_apart (hx : isFailure x = true) : isCall x ≠ true ∧ isBuilder x ≠ true := by
  cases x <;> simp_all [isFailure, isCall, isBuilder]

theorem oneOf_apply (y : Option DrvStat) (x : DrvStat) : oneOf y x = if y = some x then 1 else 0 := by
  cases y with
  | none => simp [oneOf]
  | some y => simp [oneOf, one, Pi.single_apply, eq_comm]

theorem full_other (hx : isFailure x = false) : full id x = 0 := by
  unfold full
  cases x <;> cases hx <;> split_ifs <;> rfl

theorem Owed.counted_eq (h : Owed id w a d) (hx : isFailure x = false) :
    d x = if counted x w a = true then 1 else 0 := by
  cases h with
  | @sent req v d h =>
    cases h with
    | sent =>
      simp only [Pi.add_apply, oneOf_apply, counted, Bool.or_eq_true, decide_eq_true_eq]
      by_cases hbuilder : builderOf req = some x
      · have hne : counterOf req ≠ some x := by
          intro hcounter
          exact call_not_builder (counterOf_call hcounter) (builderOf_isBuilder hbuilder)
        simp [hbuilder, hne]
      · simp [hbuilder]
    | refused why => simp [counted]
    | full _ why => simp [counted, full_other hx]
    | noBuffer =>
      cases x <;> cases hx <;> rfl
  | refilled h =>
    have hshort : one .nbufAllocFails x = 0 := by
      cases x <;> cases hx <;> rfl
    rcases h with rfl | rfl
    · simp [counted, one, Pi.single_apply]
    · simp only [Pi.add_apply, hshort, zero_add]
      simp [counted, one, Pi.single_apply]

theorem Owed.failing_le (h : Owed id w a d) (hx : isFailure x = true) :
    0 ≤ d x ∧ d x ≤ if failing id x w a = true then 1 else 0 := by
  cases h with
  | @sent req v d h =>
    cases h with
    | sent =>
      obtain ⟨hcall, hbuilds⟩ := failure_apart hx
      have hbuilder : builderOf req ≠ some x := fun h => hbuilds (builderOf_isBuilder h)
      have hcounter : counterOf req ≠ some x := fun h => hcall (counterOf_call h)
      simp [oneOf_apply, hbuilder, hcounter, failing]
    | refused why =>
      refine ⟨le_rfl, ?_⟩
      split_ifs <;> simp
    | full hbuffer why =>
      simp only [failing, hbuffer, if_true]
      unfold full
      by_cases hzero : id = 0
      · subst hzero
        cases x <;> cases hx <;> decide
      · by_cases hone : id = 1
        · subst hone
          cases x <;> cases hx <;> decide
        · rw [if_neg hzero, if_neg hone]
          refine ⟨le_rfl, ?_⟩
          split_ifs <;> simp
    | noBuffer hbuffer =>
      cases x <;> cases hx <;> simp [failing, hbuffer, one]
  | refilled h =>
    rcases h with rfl | rfl
    · cases x <;> cases hx <;> simp [failing, one]
    · cases x <;> cases hx <;> simp [failing, one]

end Charges

/-- The NSS and the rest of the host, which leaves these counters alone. -/
structure Beside (c c' : NssCtx) : Prop extends Outsider c c' where
  core : c'.coreId = c.coreId
  stats : ∀ x, isTransmit x = true → c'.stats x = c.stats x

theorem Beside.fit {id : U32} {c c' : NssCtx} (h : Beside c c') (hc : CoreFit id c) :
    CoreFit id c' ∧ counts c' = counts c := by
  refine ⟨⟨h.core.trans hc.1, fun q => ?_⟩, ?_⟩
  · rcases h.rings q with heq | ht
    · rw [heq]
      exact hc.2 q
    · rw [(NssTakes.soleRely ht : SoleRely 0 _ _).size]
      exact hc.2 q
  · funext x
    unfold counts transmitPart
    split_ifs with hx
    · exact h.stats x hx
    · rfl

abbrev Callers : ProducerPool → List (Label ℕ NssCtx Report) → ProducerPool →
    Books ℕ NssCtx Report → Prop := Booked ProducerCall Beside

abbrev Done := Entry ℕ Work Report (DrvStat → ℤ)

section Runs
variable {id : U32} {c₀ c : ProducerPool} {ls : List (Label ℕ NssCtx Report)}
  {b : Books ℕ NssCtx Report}

theorem callers_ledger (idle : ∀ i, ∃ a, c₀.thread i = .ret a) (fit : CoreFit id c₀.shared)
    (run : Callers c₀ ls c b) : ∃ (closed : Multiset Done) (opened : _),
      Ledger Work.body (CoreFit id) counts (fun _ => Owed id) c₀ ls c b closed opened := by
  refine run_ledger idle fit ?_ (fun _ _ hc h => h.fit hc) run
  intro cpu p hp
  cases hp with
  | send cpu req => exact ⟨.send req, rfl, work_pays id cpu (.send req)⟩
  | refill env => exact ⟨.refill env, rfl, work_pays id napi (.refill env)⟩

/-- Whatever the callers on however many CPUs did, once all of them have returned each counter
    has grown by the calls it is for, each of which is one of the calls made and has had the
    answer it is counted by; a failure is counted at most once for each call that was refused. -/
theorem transmit_counted (idle : ∀ i, ∃ a, c₀.thread i = .ret a) (fit : CoreFit id c₀.shared)
    (run : Callers c₀ ls c b) (returned : ∀ i, ∃ a, c.thread i = .ret a) :
    ∃ done : Multiset Done,
      callsOf ls = done.map (Entry.call Work.body) ∧ b.log = done.map (Entry.line Work.body) ∧
      (∀ x, isTransmit x = true → isFailure x = false → c.shared.stats x = c₀.shared.stats x +
        done.countP fun e => counted x e.request e.answer = true) ∧
      ∀ x, isFailure x = true → c₀.shared.stats x ≤ c.shared.stats x ∧
        c.shared.stats x ≤ c₀.shared.stats x +
          done.countP fun e => failing id x e.request e.answer = true := by
  obtain ⟨closed, opened, h⟩ := callers_ledger idle fit run
  have hopened := h.opened_eq returned
  subst hopened
  have hsum : ∀ x, isTransmit x = true → c.shared.stats x =
      c₀.shared.stats x + (closed.map fun e => e.paid x).sum := by
    intro x hx
    have hbalance := congrFun h.balance x
    rw [Multiset.map_zero, Multiset.sum_zero, add_zero, Pi.add_apply, sum_at] at hbalance
    simpa [counts, transmitPart, hx] using hbalance
  refine ⟨closed, ?_, h.log, ?_, ?_⟩
  · rw [h.calls, Multiset.map_zero, add_zero]
  · intro x hx hfailure
    rw [hsum x hx, sum_eq_countP fun e he => (h.settled e he).counted_eq hfailure]
  · intro x hfailure
    have hx : isTransmit x = true := by
      cases x <;> first | rfl | cases hfailure
    rw [hsum x hx]
    have hlow : 0 ≤ (closed.map fun e => e.paid x).sum := by
      refine Multiset.sum_nonneg fun y hy => ?_
      obtain ⟨e, he, rfl⟩ := Multiset.mem_map.mp hy
      exact ((h.settled e he).failing_le hfailure).1
    have hhigh : (closed.map fun e => e.paid x).sum ≤
        closed.countP fun e => failing id x e.request e.answer = true :=
      sum_le_countP fun e he => ((h.settled e he).failing_le hfailure).2
    exact ⟨le_add_of_nonneg_right hlow, add_le_add_right hhigh _⟩

end Runs

/-- Two packets go out while a buffer is handed over, and all three calls return. -/
theorem transmit_counted_contended : ∃ (c : ProducerPool) (b : Books ℕ NssCtx Report)
    (done : Multiset Done), Callers freshPool
        ((refillBegun ++ twoSends ++ refillEnds ++ [Order.run 0]).map Order.label) c b ∧
      Multiset.card done = 3 ∧ c.shared.stats .txPacket = 2 ∧ c.shared.stats .txPacket =
        0 + done.countP fun e => counted .txPacket e.request e.answer = true := by
  have hallowed : ∀ o ∈ refillBegun ++ twoSends ++ refillEnds ++ [Order.run 0],
      o.Allowed ProducerCall Beside := by
    intro o ho
    rcases List.mem_append.mp ho with hmem | hmem
    · exact contended_allowed o hmem
    · obtain rfl := List.mem_singleton.mp hmem
      trivial
  obtain ⟨c, hc⟩ : ∃ c, freshPool.follow
      (refillBegun ++ twoSends ++ refillEnds ++ [Order.run 0]) = some c := ⟨_, rfl⟩
  obtain ⟨b, hb⟩ := booked_of_run (Pool.follow_run hallowed hc)
  have hreturned : ∀ i, ∃ a, c.thread i = .ret a := by
    intro i
    obtain rfl := Option.some.inj hc
    rcases i with _ | _ | _ | i
    all_goals exact ⟨_, rfl⟩
  have hpackets : c.shared.stats .txPacket = 2 := by
    obtain rfl := Option.some.inj hc
    rfl
  obtain ⟨done, hcalls, _, hcounted, _⟩ := transmit_counted freshPool_idle.2
    ⟨rfl, fun _ => show (4 : U16).toNat ≤ 2 ^ 14 by decide⟩ hb hreturned
  refine ⟨c, b, done, hb, ?_, hpackets, hcounted .txPacket rfl rfl⟩
  have hcard := congrArg Multiset.card hcalls
  rw [Multiset.card_map] at hcard
  exact hcard.symm

end NssDrv.TransmitCounters

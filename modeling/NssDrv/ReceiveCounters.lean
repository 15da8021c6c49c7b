import Mathlib.Algebra.Group.Pi.Lemmas
import Mathlib.Data.List.Count
import NssDrv.SkbOwnership

set_option autoImplicit false

/-!
# The counters of the receive path

What a stream of descriptors adds to the driver's counters, whatever it is made
of: every descriptor and every packet that is received is counted.
-/
namespace NssDrv.ReceiveCounters
open HlosInterface SkbMemory ReceivePath ReceiveStream ReceiveDelivery ReceiveQueue
open SharedThread ThreadPool TransitionRuns

/-- What becomes of a descriptor before it is known whether it completes a packet. `direct` is
    what is received without being assembled. -/
inductive SegmentKind where
  | crypto
  | bad
  | direct
  | linearWhole
  | linearPart
  | pagedWhole
  | pagedPart
  deriving DecidableEq

def kindOf (k : Kernel) (x : RxEnv × N2hDescriptor) : SegmentKind :=
  if x.2.bufferType = N2H_BUFFER_CRYPTO_RESP then .crypto
  else if x.2.opaqueWord < k.pageOffset then .bad
  else if x.2.bufferType = N2H_BUFFER_EMPTY then .direct
  else if isBounced x.2.bufferType then .direct
  else if x.1.nbuf.frags.length > 0 then
    if isFirst x.2 && isLast x.2 then .pagedWhole else .pagedPart
  else if isFirst x.2 && isLast x.2 then .linearWhole
  else .linearPart

def ofKind (k : Kernel) (c : SegmentKind) (xs : List (RxEnv × N2hDescriptor)) : ℕ :=
  xs.countP fun x => kindOf k x = c

def isData (bufferType : U8) : Bool :=
  bufferType = N2H_BUFFER_PACKET || bufferType = N2H_BUFFER_PACKET_EXT

section Tallies

/-- What is added to the counters, and the packets that are received meanwhile. -/
structure Tally (s t : RxHost) (δ : DrvStat → ℤ) (types : List U8) : Prop where
  stats : t.stats = s.stats + δ
  received : t.received.map Received.bufferType = s.received.map Received.bufferType ++ types

variable {s t u : RxHost} {δ δ' : DrvStat → ℤ} {types types' : List U8}

theorem Tally.same (hstats : t.stats = s.stats) (hreceived : t.received = s.received) :
    Tally s t 0 [] := ⟨by rw [hstats, add_zero], by rw [hreceived, List.append_nil]⟩

theorem Tally.trans (h : Tally s t δ types) (h' : Tally t u δ' types') :
    Tally s u (δ + δ') (types ++ types') :=
  ⟨by rw [h'.stats, h.stats, add_assoc], by rw [h'.received, h.received, List.append_assoc]⟩

theorem Tally.after (h' : Tally t u δ types) (hstats : t.stats = s.stats)
    (hreceived : t.received = s.received) : Tally s u δ types := by
  simpa using (Tally.same hstats hreceived).trans h'

theorem Tally.before (h : Tally s t δ types) (hstats : u.stats = t.stats)
    (hreceived : u.received = t.received) : Tally s u δ types := by
  simpa using h.trans (Tally.same hstats hreceived)

def one (x : DrvStat) : DrvStat → ℤ := Pi.single x 1

theorem add_eq (st : DrvStats) (x : DrvStat) (n : ℤ) : st.add x n = st + Pi.single x n := by
  funext y
  by_cases hy : y = x
  · subst hy
    simp
  · simp [DrvStats.add_of_ne, hy]

theorem tally_count (x : DrvStat) (n : ℤ) : Tally s (s.count x n) (Pi.single x n) [] :=
  ⟨add_eq _ _ _, (List.append_nil _).symm⟩

end Tallies

section Received
variable (env : RxEnv) (d : N2hDescriptor) (i : U16) (nbuf : U32) (s : RxHost)

theorem statusPkt_tally : Tally s (nssCoreHandleNssStatusPkt env nbuf s) 0 [] := by
  unfold nssCoreHandleNssStatusPkt
  split
  · exact .same rfl rfl
  · dsimp only
    split_ifs <;> exact .same rfl rfl

theorem bouncedPkt_tally (reg : ShaperBounceRegistrant) (taker : Consumer) :
    Tally s (nssCoreHandleBouncedPkt nbuf s reg taker) 0 [] := by
  unfold nssCoreHandleBouncedPkt
  split_ifs <;> exact .same rfl rfl

theorem virtIfPkt_tally : Tally s (nssCoreHandleVirtIfPkt env i nbuf s) (one .rxVirtual) [] := by
  have hcounted : Tally s ((s.index .subsysDpRegister i).count .rxVirtual 1) (one .rxVirtual) [] :=
    (tally_count .rxVirtual 1).after rfl rfl
  unfold nssCoreHandleVirtIfPkt
  dsimp only
  split
  · exact hcounted.before rfl rfl
  · split
    · exact hcounted.before rfl rfl
    · split <;> exact hcounted.before rfl rfl

theorem bufferPkt_tally : Tally s (nssCoreHandleBufferPkt env i nbuf s) (one .rxPacket) [] := by
  have hcounted : Tally s ((s.index .subsysDpRegister i).count .rxPacket 1) (one .rxPacket) [] :=
    (tally_count .rxPacket 1).after rfl rfl
  unfold nssCoreHandleBufferPkt
  dsimp only
  split
  · split <;> exact hcounted.before rfl rfl
  · split_ifs <;> exact hcounted.before rfl rfl

theorem extBufferPkt_tally : Tally s (nssCoreHandleExtBufferPkt env i nbuf s) (one .rxPacket) [] := by
  have hcounted : Tally s ((s.index .subsysDpRegister i).count .rxPacket 1) (one .rxPacket) [] :=
    (tally_count .rxPacket 1).after rfl rfl
  unfold nssCoreHandleExtBufferPkt
  dsimp only
  split
  · split <;> exact hcounted.before rfl rfl
  · exact hcounted.before rfl rfl

/-- The counter of a packet that is received; those that a shaper has bounced have none. -/
def typeDelta (bufferType : U8) : DrvStat → ℤ :=
  if isBounced bufferType then 0
  else if bufferType = N2H_BUFFER_PACKET_VIRTUAL then one .rxVirtual
  else if isData bufferType then one .rxPacket
  else if bufferType = N2H_BUFFER_STATUS then one .rxStatus
  else if bufferType = N2H_BUFFER_EMPTY then one .rxEmpty
  else 0

theorem receive_tally : Tally s ((s.count .nssSkbCount (-1)).receive d nbuf)
    (Pi.single .nssSkbCount (-1)) [d.bufferType] where
  stats := add_eq _ _ _
  received := List.map_append

theorem rxPbuf_tally : Tally s (nssCoreRxPbuf env d nbuf s)
    (Pi.single .nssSkbCount (-1) + typeDelta d.bufferType) [d.bufferType] := by
  have hreceived := receive_tally d nbuf s
  have hdone : ∀ {t : RxHost} {δ : DrvStat → ℤ}, typeDelta d.bufferType = δ →
      Tally ((s.count .nssSkbCount (-1)).receive d nbuf) t δ [] →
      Tally s t (Pi.single .nssSkbCount (-1) + typeDelta d.bufferType) [d.bufferType] := by
    intro t δ hδ ht
    rw [hδ]
    exact hreceived.trans ht
  unfold nssCoreRxPbuf
  dsimp only
  split_ifs with h₁ h₂ h₃ h₄ h₅ h₆ h₇
  · exact hdone (by rw [h₁]; rfl) ((bouncedPkt_tally _ _ _ _).after rfl rfl)
  · exact hdone (by rw [h₂]; rfl) ((bouncedPkt_tally _ _ _ _).after rfl rfl)
  · exact hdone (by rw [h₃]; rfl) (virtIfPkt_tally env _ nbuf _)
  · exact hdone (by rw [h₄]; rfl) (bufferPkt_tally env _ nbuf _)
  · exact hdone (by rw [h₅]; rfl) (extBufferPkt_tally env _ nbuf _)
  · have hstatus := (tally_count (s := (s.count .nssSkbCount (-1)).receive d nbuf) .rxStatus 1).trans
      (statusPkt_tally env nbuf _)
    rw [add_zero] at hstatus
    exact hdone (by rw [h₆]; rfl) (hstatus.before rfl rfl)
  · exact hdone (by rw [h₇]; rfl) ((tally_count .rxEmpty 1).before rfl rfl)
  · refine hdone ?_ (.same rfl rfl)
    simp [typeDelta, isBounced, isData, h₁, h₂, h₃, h₄, h₅, h₆, h₇]

end Received

section Assembled
variable (k : Kernel) (env : RxEnv) (d : N2hDescriptor) (nbuf : U32) (s : RxHost)

/-- What a descriptor adds by its kind, and more where it completes a packet. -/
def kindDelta (completes : Bool) : SegmentKind → DrvStat → ℤ
  | .crypto => one .rxCryptoResp
  | .bad => one .rxBadDescriptor
  | .direct => 0
  | .linearWhole => one .rxSimple
  | .linearPart => one .chainSegProcessed + if completes then one .rxSkbFraglist else 0
  | .pagedWhole => if completes then one .rxNrFrags else 0
  | .pagedPart => one .fragSegProcessed + if completes then one .rxNrFrags else 0

theorem kfreeHeld_stats (p : Option U32) : (s.kfreeHeld p).stats = s.stats := by
  cases p <;> rfl

theorem kfreeHeld_received (p : Option U32) : (s.kfreeHeld p).received = s.received := by
  cases p <;> rfl

theorem pullEthHeader_tally : Tally s (pullEthHeader env d nbuf s).1 0 [] := by
  unfold pullEthHeader
  split <;> exact .same rfl rfl

theorem pagedWhole_tally : Tally s (pagedWhole env d nbuf s).1 0 [] :=
  (pullEthHeader_tally env d nbuf _).after (kfreeHeld_stats s _) (kfreeHeld_received s _)

theorem pagedMiddle_tally : Tally s (pagedMiddle k env d nbuf s).1 0 [] := by
  unfold pagedMiddle
  split
  · exact .same rfl rfl
  · dsimp only
    split
    · exact .same rfl rfl
    · exact (pullEthHeader_tally env d _ _).after rfl rfl

theorem nrFragSkb_tally : Tally s (nssCoreHandleNrFragSkb k env d nbuf s).1
    (if isFirst d && isLast d then 0 else one .fragSegProcessed) [] := by
  unfold nssCoreHandleNrFragSkb
  split
  · exact pagedWhole_tally env d nbuf s
  · split
    · exact (tally_count .fragSegProcessed 1).before (kfreeHeld_stats _ _) (kfreeHeld_received _ _)
    · simpa [one] using (tally_count (s := s) .fragSegProcessed 1).trans (pagedMiddle_tally k env d nbuf _)

theorem linearFirst_tally : Tally s (linearFirst nbuf s).1 0 [] ∧ (linearFirst nbuf s).2 = none := by
  unfold linearFirst
  dsimp only
  split
  · exact ⟨.same (kfreeHeld_stats s _) (kfreeHeld_received s _), rfl⟩
  · exact ⟨.same (kfreeHeld_stats s _) (kfreeHeld_received s _), rfl⟩

theorem attach_tally (head : U32) : Tally s (attach nbuf s head) 0 [] := by
  unfold attach
  dsimp only
  split
  · split <;> exact .same rfl rfl
  · exact .same rfl rfl

theorem linearMiddle_tally : Tally s (linearMiddle d nbuf s).1
    (if (linearMiddle d nbuf s).2.isSome then one .rxSkbFraglist else 0) [] := by
  unfold linearMiddle
  split
  · exact .same rfl rfl
  · rename_i head hhead
    have hattached : Tally s ((attach nbuf s head).modify head (addLength d)) 0 [] :=
      (attach_tally nbuf s head).before rfl rfl
    dsimp only
    split
    · exact hattached
    · have hcleared := hattached.before (u := { (attach nbuf s head).modify head (addLength d) with
        head := none, tail := none }) rfl rfl
      simpa [one] using hcleared.trans (tally_count .rxSkbFraglist 1)

theorem linearSkb_tally : Tally s (nssCoreHandleLinearSkb d nbuf s).1
    (kindDelta (nssCoreHandleLinearSkb d nbuf s).2.isSome
      (if isFirst d && isLast d then .linearWhole else .linearPart)) [] := by
  unfold nssCoreHandleLinearSkb
  dsimp only
  split
  · exact (tally_count .rxSimple 1).after (kfreeHeld_stats _ _) (kfreeHeld_received _ _)
  · have hcounted : Tally s ((s.modify nbuf (linearPayload d)).count .chainSegProcessed 1)
        (one .chainSegProcessed) [] := (tally_count .chainSegProcessed 1).after rfl rfl
    split
    · obtain ⟨htally, hnone⟩ := linearFirst_tally nbuf
        ((s.modify nbuf (linearPayload d)).count .chainSegProcessed 1)
      rw [hnone]
      exact hcounted.trans htally
    · exact hcounted.trans (linearMiddle_tally d nbuf _)

theorem linearWhole_completes (h : (isFirst d && isLast d) = true) :
    (nssCoreHandleLinearSkb d nbuf s).2.isSome = true := by
  unfold nssCoreHandleLinearSkb
  rw [if_pos h]
  rfl

theorem abortHead_tally : ∃ a, Tally s (abortHead s) (Pi.single .nssSkbCount a) [] := by
  unfold abortHead
  split
  · exact ⟨-1, (tally_count .nssSkbCount (-1)).before rfl rfl⟩
  · exact ⟨0, by rw [Pi.single_zero]; exact .same rfl rfl⟩

theorem abortJumbo_tally : ∃ a, Tally s (abortJumbo s) (Pi.single .nssSkbCount a) [] := by
  unfold abortJumbo
  split
  · exact ⟨-1, (tally_count .nssSkbCount (-1)).before rfl rfl⟩
  · exact ⟨0, by rw [Pi.single_zero]; exact .same rfl rfl⟩

/-- Which kinds complete a packet and which do not. -/
def Settled (completes : Bool) : SegmentKind → Prop
  | .crypto => completes = false
  | .bad => completes = false
  | .direct => completes = true
  | .linearWhole => completes = true
  | _ => True

theorem paged_tally : ∃ a, Tally s
    ((nssCoreHandleNrFragSkb k env d nbuf (abortHead s)).2.elim
      (nssCoreHandleNrFragSkb k env d nbuf (abortHead s)).1
      fun _ => (nssCoreHandleNrFragSkb k env d nbuf (abortHead s)).1.count .rxNrFrags 1)
    (Pi.single .nssSkbCount a + kindDelta (nssCoreHandleNrFragSkb k env d nbuf (abortHead s)).2.isSome
      (if isFirst d && isLast d then .pagedWhole else .pagedPart)) [] := by
  obtain ⟨a, habort⟩ := abortHead_tally s
  refine ⟨a, ?_⟩
  have hassembled := habort.trans (nrFragSkb_tally k env d nbuf (abortHead s))
  cases hnbuf : (nssCoreHandleNrFragSkb k env d nbuf (abortHead s)).2 with
  | none => split at hassembled <;> simpa [kindDelta, *] using hassembled
  | some skb =>
    have hcounted := hassembled.trans (tally_count .rxNrFrags 1)
    split at hcounted <;> simpa [kindDelta, one, add_assoc, *] using hcounted

theorem linear_tally : ∃ a, Tally s (nssCoreHandleLinearSkb d nbuf (abortJumbo s)).1
    (Pi.single .nssSkbCount a + kindDelta (nssCoreHandleLinearSkb d nbuf (abortJumbo s)).2.isSome
      (if isFirst d && isLast d then .linearWhole else .linearPart)) [] := by
  obtain ⟨a, habort⟩ := abortJumbo_tally s
  exact ⟨a, habort.trans (linearSkb_tally d nbuf (abortJumbo s))⟩

theorem nrFrags_arrive (m : Memory) (skb : Skb) : (m.arrive nbuf skb).nrFrags nbuf = skb.frags.length := by
  simp [Memory.nrFrags, Memory.arrive]

theorem assemble_tally : ∃ a, Tally s (assemble k env d s).1
    (Pi.single .nssSkbCount a + kindDelta (assemble k env d s).2.isSome (kindOf k (env, d))) [] ∧
      Settled (assemble k env d s).2.isSome (kindOf k (env, d)) := by
  have hfrags : (s.onMem fun m => m.arrive d.opaqueWord env.nbuf).mem.nrFrags d.opaqueWord =
      env.nbuf.frags.length := nrFrags_arrive d.opaqueWord s.mem env.nbuf
  have harrived : ∀ {t : RxHost} {δ : DrvStat → ℤ},
      Tally (s.onMem fun m => m.arrive d.opaqueWord env.nbuf) t δ [] → Tally s t δ [] :=
    fun h => h.after rfl rfl
  unfold assemble kindOf
  dsimp only
  rw [hfrags]
  split_ifs with hcrypto hbad hempty hbounced hpaged hwhole hwhole
  · refine ⟨0, ?_, rfl⟩
    rw [Pi.single_zero, zero_add]
    exact (tally_count .rxCryptoResp 1).before rfl rfl
  · exact ⟨0, by simpa [kindDelta, one] using tally_count (s := s) .rxBadDescriptor 1, rfl⟩
  · exact ⟨0, by simpa [kindDelta] using harrived (.same rfl rfl), rfl⟩
  · exact ⟨0, by simpa [kindDelta] using harrived (.same rfl rfl), rfl⟩
  · obtain ⟨a, h⟩ := paged_tally k env d d.opaqueWord (s.onMem fun m => m.arrive d.opaqueWord env.nbuf)
    rw [if_pos hwhole] at h
    exact ⟨a, harrived h, trivial⟩
  · obtain ⟨a, h⟩ := paged_tally k env d d.opaqueWord (s.onMem fun m => m.arrive d.opaqueWord env.nbuf)
    rw [if_neg hwhole] at h
    exact ⟨a, harrived h, trivial⟩
  · obtain ⟨a, h⟩ := linear_tally d d.opaqueWord (s.onMem fun m => m.arrive d.opaqueWord env.nbuf)
    rw [if_pos hwhole] at h
    exact ⟨a, harrived h, linearWhole_completes d _ _ hwhole⟩
  · obtain ⟨a, h⟩ := linear_tally d d.opaqueWord (s.onMem fun m => m.arrive d.opaqueWord env.nbuf)
    rw [if_neg hwhole] at h
    exact ⟨a, harrived h, trivial⟩

end Assembled

section Pass

/-- The counters that only the receive path adds to. -/
def isReceive : DrvStat → Bool
  | .rxEmpty | .rxPacket | .rxStatus | .rxCryptoResp | .rxVirtual => true
  | .rxSimple | .rxNrFrags | .rxSkbFraglist | .rxBadDescriptor => true
  | .chainSegProcessed | .fragSegProcessed => true
  | _ => false

variable {k : Kernel} {env : RxEnv} {d : N2hDescriptor} {s : RxHost}

/-- A descriptor is counted by its kind, and the packet that it completes by its type. -/
theorem feed_tally (k : Kernel) (env : RxEnv) (d : N2hDescriptor) (s : RxHost) :
    ∃ a completes, Settled completes (kindOf k (env, d)) ∧ Tally s (feed k s (env, d))
      (Pi.single .nssSkbCount a + kindDelta completes (kindOf k (env, d)) +
        if completes then typeDelta d.bufferType else 0)
      (if completes then [d.bufferType] else []) := by
  obtain ⟨a, htally, hsettled⟩ := assemble_tally k env d s
  unfold feed processDescriptor
  generalize assemble k env d s = r at htally hsettled ⊢
  obtain ⟨s₁, nbuf⟩ := r
  cases nbuf with
  | none => exact ⟨a, false, hsettled, by simpa using htally⟩
  | some nbuf =>
    refine ⟨a - 1, true, hsettled, ?_⟩
    have hall := htally.trans (rxPbuf_tally env d nbuf s₁)
    have hsum : (Pi.single .nssSkbCount (a - 1) : DrvStat → ℤ) =
        Pi.single .nssSkbCount a + Pi.single .nssSkbCount (-1) := by
      rw [← Pi.single_add, sub_eq_add_neg]
    rw [hsum]
    simpa [add_assoc, add_left_comm] using hall

end Pass

section Accounts

/-- The counter that a kind of descriptors has to itself. -/
def kindCounter : SegmentKind → Option DrvStat
  | .crypto => some .rxCryptoResp
  | .bad => some .rxBadDescriptor
  | .linearWhole => some .rxSimple
  | .linearPart => some .chainSegProcessed
  | .pagedPart => some .fragSegProcessed
  | _ => none

/-- The types of the packets that a counter is for. -/
def typeCounter : DrvStat → Option (U8 → Bool)
  | .rxPacket => some isData
  | .rxVirtual => some fun ty => ty = N2H_BUFFER_PACKET_VIRTUAL
  | .rxStatus => some fun ty => ty = N2H_BUFFER_STATUS
  | .rxEmpty => some fun ty => ty = N2H_BUFFER_EMPTY
  | _ => none

/-- What a stream has added from one state of the host to another, and the types of the packets
    received meanwhile. -/
structure Accounts (k : Kernel) (xs : List (RxEnv × N2hDescriptor)) (s t : RxHost)
    (types : List U8) : Prop where
  received : t.received.map Received.bufferType = s.received.map Received.bufferType ++ types
  kinds : ∀ c x, kindCounter c = some x → t.stats x = s.stats x + ofKind k c xs
  ofTypes : ∀ x p, typeCounter x = some p → t.stats x = s.stats x + types.countP p
  /-- Each packet is one of those that need no assembling, or one of the three kinds of skbs. -/
  packets : (types.length : ℤ) = ofKind k .direct xs +
    (t.stats .rxSimple - s.stats .rxSimple) +
    (t.stats .rxSkbFraglist - s.stats .rxSkbFraglist) + (t.stats .rxNrFrags - s.stats .rxNrFrags)
  chains : s.stats .rxSkbFraglist ≤ t.stats .rxSkbFraglist ∧
    t.stats .rxSkbFraglist - s.stats .rxSkbFraglist ≤ ofKind k .linearPart xs
  pages : s.stats .rxNrFrags ≤ t.stats .rxNrFrags ∧ t.stats .rxNrFrags - s.stats .rxNrFrags ≤
    ofKind k .pagedWhole xs + ofKind k .pagedPart xs
  others : ∀ x, isReceive x = false → x ≠ .nssSkbCount → t.stats x = s.stats x

section Deltas
variable (completes : Bool) (c : SegmentKind) (ty : U8)

theorem type_cases : ty ∈ [N2H_BUFFER_SHAPER_BOUNCED_INTERFACE, N2H_BUFFER_SHAPER_BOUNCED_BRIDGE,
    N2H_BUFFER_PACKET_VIRTUAL, N2H_BUFFER_PACKET, N2H_BUFFER_PACKET_EXT, N2H_BUFFER_STATUS,
    N2H_BUFFER_EMPTY] ∨ knownType ty = false := by
  by_cases hknown : knownType ty = true
  · left
    simpa [knownType, isBounced, or_assoc, or_left_comm] using hknown
  · right
    simpa using hknown

theorem typeDelta_counts {x : DrvStat} {p : U8 → Bool} (h : typeCounter x = some p) :
    typeDelta ty x = if p ty then 1 else 0 := by
  obtain hty | hty := type_cases ty
  · simp only [List.mem_cons, List.not_mem_nil, or_false] at hty
    cases x <;> cases h <;> rcases hty with rfl | rfl | rfl | rfl | rfl | rfl | rfl <;> rfl
  · cases x <;> cases h <;> simp_all [knownType, typeDelta, isData]

theorem typeDelta_other {x : DrvStat} (h : typeCounter x = none) : typeDelta ty x = 0 := by
  unfold typeDelta
  cases x <;> cases h <;> split_ifs <;> rfl

theorem kindDelta_counts {c' : SegmentKind} {x : DrvStat} (h : kindCounter c' = some x) :
    kindDelta completes c x = if c = c' then 1 else 0 := by
  cases c' <;> cases h <;> cases c <;> cases completes <;> rfl

theorem kindDelta_skbs :
    kindDelta completes c .rxSkbFraglist = (if completes ∧ c = .linearPart then 1 else 0) ∧
    kindDelta completes c .rxNrFrags =
      (if completes ∧ (c = .pagedWhole ∨ c = .pagedPart) then 1 else 0) := by
  cases c <;> cases completes <;> exact ⟨rfl, rfl⟩

theorem kindDelta_other {x : DrvStat} (h : isReceive x = false ∨ (typeCounter x).isSome) :
    kindDelta completes c x = 0 := by
  rcases h with h | h <;> cases x <;> cases h <;> cases c <;> cases completes <;> rfl

theorem kindCounter_spec {x : DrvStat} (h : kindCounter c = some x) :
    x ≠ .nssSkbCount ∧ typeCounter x = none := by
  cases c <;> cases h <;> exact ⟨by decide, rfl⟩

theorem typeCounter_ne {x : DrvStat} {p : U8 → Bool} (h : typeCounter x = some p) :
    x ≠ .nssSkbCount := by
  rintro rfl
  cases h

theorem isReceive_none {x : DrvStat} (h : isReceive x = false) : typeCounter x = none := by
  cases x <;> first | rfl | cases h

end Deltas

section One
variable {t u : RxHost} {a : ℤ} {completes : Bool} {c : SegmentKind} {ty : U8} {new : List U8}

def Counted (t u : RxHost) (a : ℤ) (completes : Bool) (c : SegmentKind) (ty : U8) : Prop :=
  Tally t u (Pi.single .nssSkbCount a + kindDelta completes c +
    if completes then typeDelta ty else 0) (if completes then [ty] else [])

theorem Counted.no_type (h : Counted t u a completes c ty) {x : DrvStat} (hx : x ≠ .nssSkbCount)
    (hnone : typeCounter x = none) : u.stats x = t.stats x + kindDelta completes c x := by
  rw [h.stats]
  cases completes <;> simp [hx, typeDelta_other ty hnone]

theorem Counted.of_type (h : Counted t u a completes c ty) {x : DrvStat} {p : U8 → Bool}
    (hx : typeCounter x = some p) :
    u.stats x = t.stats x + (if completes then [ty] else []).countP p := by
  have hkind := kindDelta_other completes c (x := x) (Or.inr (by rw [hx]; rfl))
  rw [h.stats]
  cases completes
  · simp [typeCounter_ne hx, hkind]
  · simp [typeCounter_ne hx, hkind, typeDelta_counts ty hx, List.countP_cons]

end One

variable {k : Kernel} {xs : List (RxEnv × N2hDescriptor)} {s t u : RxHost} {types : List U8}

theorem Accounts.nil (k : Kernel) (s : RxHost) : Accounts k [] s s [] where
  received := (List.append_nil _).symm
  kinds := fun _ _ _ => (add_zero _).symm
  ofTypes := fun _ _ _ => (add_zero _).symm
  packets := by simp [ofKind]
  chains := by simp [ofKind]
  pages := by simp [ofKind]
  others := fun _ _ _ => rfl

theorem ofKind_snoc (c : SegmentKind) (x : RxEnv × N2hDescriptor) :
    ofKind k c (xs ++ [x]) = ofKind k c xs + if kindOf k x = c then 1 else 0 := by
  simp [ofKind, List.countP_append, List.countP_cons]

theorem Accounts.snoc (h : Accounts k xs s t types) (env : RxEnv) (d : N2hDescriptor) :
    ∃ new, Accounts k (xs ++ [(env, d)]) s (feed k t (env, d)) (types ++ new) := by
  obtain ⟨a, completes, hsettled, hcounted⟩ := feed_tally k env d t
  change Counted t (feed k t (env, d)) a completes (kindOf k (env, d)) d.bufferType at hcounted
  obtain ⟨hskbs, hpages⟩ := kindDelta_skbs completes (kindOf k (env, d))
  have hsimple := hcounted.no_type (x := .rxSimple) (by decide) rfl
  have hfraglist := hcounted.no_type (x := .rxSkbFraglist) (by decide) rfl
  have hnrfrags := hcounted.no_type (x := .rxNrFrags) (by decide) rfl
  rw [kindDelta_counts completes _ (rfl : kindCounter .linearWhole = _)] at hsimple
  rw [hskbs] at hfraglist
  rw [hpages] at hnrfrags
  have hchains := h.chains
  have hpaged := h.pages
  refine ⟨if completes then [d.bufferType] else [], ?_, ?_, ?_, ?_, ?_, ?_, ?_⟩
  · rw [hcounted.received, h.received, List.append_assoc]
  · intro c x hx
    obtain ⟨hne, hnone⟩ := kindCounter_spec c hx
    rw [hcounted.no_type hne hnone, h.kinds c x hx, kindDelta_counts completes _ hx, ofKind_snoc]
    push_cast
    ring
  · intro x p hx
    rw [hcounted.of_type hx, h.ofTypes x p hx, List.countP_append]
    push_cast
    ring
  · rw [List.length_append, hsimple, hfraglist, hnrfrags, ofKind_snoc]
    push_cast
    rw [h.packets]
    generalize kindOf k (env, d) = c at hsettled ⊢
    cases c <;> cases completes <;> simp_all [Settled] <;> ring
  · rw [hfraglist, ofKind_snoc]
    push_cast
    split_ifs <;> simp_all <;> omega
  · rw [hnrfrags, ofKind_snoc, ofKind_snoc]
    push_cast
    split_ifs <;> simp_all <;> omega
  · intro x hx hne
    rw [hcounted.no_type hne (isReceive_none hx), kindDelta_other completes _ (Or.inl hx), add_zero,
      h.others x hx hne]

theorem foldl_accounts (k : Kernel) (xs : List (RxEnv × N2hDescriptor)) (s : RxHost) :
    ∃ types, Accounts k xs s (xs.foldl (feed k) s) types := by
  induction xs using List.reverseRecOn with
  | nil => exact ⟨[], .nil k s⟩
  | append_singleton xs x ih =>
    obtain ⟨types, ih⟩ := ih
    obtain ⟨new, hsnoc⟩ := ih.snoc x.1 x.2
    rw [List.foldl_append]
    exact ⟨types ++ new, hsnoc⟩

theorem length_eq_kinds (k : Kernel) (xs : List (RxEnv × N2hDescriptor)) :
    xs.length = ofKind k .crypto xs + ofKind k .bad xs + ofKind k .direct xs +
      ofKind k .linearWhole xs + ofKind k .linearPart xs + ofKind k .pagedWhole xs +
      ofKind k .pagedPart xs := by
  induction xs using List.reverseRecOn with
  | nil => rfl
  | append_singleton xs x ih =>
    simp only [List.length_append, List.length_singleton, ofKind_snoc]
    cases kindOf k x <;> simp_all <;> omega

end Accounts

section Streams
variable {k : Kernel} {envs : ℕ → RxEnv} {s : RxHost} {c : QueuePool (ℕ × RxHost)}

/-- However the calls were cut, the counters tell what has been processed: the kinds of the
    descriptors, the types of the packets, and how the packets were put together. -/
theorem receive_counted (run : Reachable (Idle (Start s)) (StreamStep k envs) c) :
    c.shared.ring.processed <+: c.shared.ring.produced ∧
      (∃ types, Accounts k (inputs envs c.shared.ring.processed) s c.shared.host.2 types) ∧
      (c.shared.ring.processed.length : ℤ) =
        ofKind k .direct (inputs envs c.shared.ring.processed) +
        ofKind k .pagedWhole (inputs envs c.shared.ring.processed) +
        (c.shared.host.2.stats .rxCryptoResp - s.stats .rxCryptoResp) +
        (c.shared.host.2.stats .rxBadDescriptor - s.stats .rxBadDescriptor) +
        (c.shared.host.2.stats .rxSimple - s.stats .rxSimple) +
        (c.shared.host.2.stats .chainSegProcessed - s.stats .chainSegProcessed) +
        (c.shared.host.2.stats .fragSegProcessed - s.stats .fragSegProcessed) := by
  obtain ⟨hpre, hhost⟩ := reachable_stream run
  obtain ⟨types, haccounts⟩ := foldl_accounts k (inputs envs c.shared.ring.processed) s
  rw [← hhost] at haccounts
  refine ⟨hpre, ⟨types, haccounts⟩, ?_⟩
  have hlength := length_eq_kinds k (inputs envs c.shared.ring.processed)
  rw [show (inputs envs c.shared.ring.processed).length = c.shared.ring.processed.length from
    List.length_mapIdx] at hlength
  have hcrypto := haccounts.kinds .crypto _ rfl
  have hbad := haccounts.kinds .bad _ rfl
  have hsimple := haccounts.kinds .linearWhole _ rfl
  have hchain := haccounts.kinds .linearPart _ rfl
  have hfrag := haccounts.kinds .pagedPart _ rfl
  rw [hlength, hcrypto, hbad, hsimple, hchain, hfrag]
  push_cast
  ring

/-- FIRST and LAST of a chain: two segments, one packet. -/
theorem receive_counted_chain : ∃ c : QueuePool (ℕ × RxHost),
    Reachable (Idle (Start freshHost)) (StreamStep lowmem fun _ => bareEnv linearSkb) c ∧
      c.shared.ring.processed = SkbOwnership.chainOfTwo ∧
      c.shared.host.2.stats .chainSegProcessed = 2 ∧ c.shared.host.2.stats .rxPacket = 1 := by
  obtain ⟨c, hc⟩ : ∃ c, (handedOver freshHost SkbOwnership.chainOfTwo).follow
      (serveAll lowmem (fun _ => bareEnv linearSkb) SkbOwnership.chainOfTwo) = some c := ⟨_, rfl⟩
  have hreach := serveAll_reachable lowmem _ freshHost SkbOwnership.chainOfTwo (by decide) hc
  obtain ⟨_, ⟨types, haccounts⟩, _⟩ := receive_counted hreach
  have hprocessed : c.shared.ring.processed = SkbOwnership.chainOfTwo := by
    obtain rfl := Option.some.inj hc
    rfl
  have hchain := haccounts.kinds .linearPart .chainSegProcessed rfl
  rw [hprocessed] at hchain
  refine ⟨c, hreach, hprocessed, hchain, ?_⟩
  have hpacket := haccounts.ofTypes .rxPacket isData rfl
  have htypes : types = [N2H_BUFFER_PACKET] := by
    have hreceived := haccounts.received
    obtain rfl := Option.some.inj hc
    exact hreceived.symm
  rw [htypes] at hpacket
  exact hpacket

end Streams

end NssDrv.ReceiveCounters

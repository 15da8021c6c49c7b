import NssDrv.ReceivePath

set_option autoImplicit false

/-!
# What becomes of an skb in `nss_core_rx_pbuf`

Every buffer type the driver knows ends with the skb freed or with one taker,
and an unknown one with the skb where it was.
-/
namespace NssDrv.ReceiveDelivery
open HlosInterface SkbMemory ReceivePath

/-- The skb and its chain leave the memory and nothing else changes there. -/
def Consumed (m m' : Memory) (nbuf : U32) : Prop :=
  ∀ as ps, Holds m ((nbuf, as) :: ps) →
    Holds m' ps ∧ m'.misuse = m.misuse ∧ ∀ b ∈ units ps, m'.heap b = m.heap b

section Memory
variable {m m' m'' : Memory} {nbuf : U32} {env : RxEnv} {features : Features}

theorem consumed_kfreeSkb (m : Memory) (nbuf : U32) : Consumed m (m.kfreeSkb nbuf) nbuf :=
  fun _ _ h => ⟨h.kfreeSkb, h.kfreeSkb_misuse, fun _ hb => h.kfreeSkb_heap hb⟩

theorem consumed_give (m : Memory) (nbuf : U32) (taker : Consumer) :
    Consumed m (m.give nbuf taker) nbuf :=
  fun _ _ h => ⟨h.give taker, h.give_misuse taker, fun _ hb => h.give_heap taker hb⟩

theorem Consumed.of_linearizeFor (h : Consumed m' m'' nbuf)
    (hm : linearizeFor env nbuf m features = some m') : Consumed m m'' nbuf := by
  intro as ps hholds
  unfold linearizeFor at hm
  split at hm
  · split at hm
    · obtain rfl := Option.some.inj hm
      obtain ⟨hrest, hmisuse, hheap⟩ := h [] ps hholds.linearize
      refine ⟨hrest, hmisuse.trans hholds.linearize_misuse, fun b hb => ?_⟩
      exact (hheap b hb).trans (hholds.linearize_heap hb)
    · cases hm
  · obtain rfl := Option.some.inj hm
    exact h as ps hholds

end Memory

/-- The skb is consumed, these tables are indexed and these handlers called. -/
structure Settles (s s' : RxHost) (nbuf : U32) (tables : List (Table × U16))
    (calls : List HandlerCall) : Prop where
  head : s'.head = s.head
  tail : s'.tail = s.tail
  jumboStart : s'.jumboStart = s.jumboStart
  received : s'.received = s.received
  skbCount : s'.stats .nssSkbCount = s.stats .nssSkbCount
  accesses : s'.accesses = s.accesses ++ tables
  messages : s'.messages = s.messages ++ calls
  consumed : Consumed s.mem s'.mem nbuf

def accepted (skb : Skb) : Bool :=
  skb.ncm.version.toNat = NSS_HLOS_MESSAGE_VERSION && skb.ncm.len ≤ skb.len &&
    skb.ncm.interface.toNat < NSS_MAX_NET_INTERFACES

def statusCalls (env : RxEnv) (skb : Skb) : List HandlerCall :=
  if accepted skb && env.nssRxInterfaceHandlers skb.ncm.interface then
    [⟨skb.ncm, messageArea skb⟩]
  else []

def tablesOf (d : N2hDescriptor) (skb : Skb) : List (Table × U16) :=
  if d.bufferType = N2H_BUFFER_SHAPER_BOUNCED_INTERFACE then
    [(.bounceInterfaceRegistrants, d.interfaceNum)]
  else if d.bufferType = N2H_BUFFER_SHAPER_BOUNCED_BRIDGE then
    [(.bounceBridgeRegistrants, d.interfaceNum)]
  else if d.bufferType = N2H_BUFFER_PACKET_VIRTUAL then [(.subsysDpRegister, d.interfaceNum)]
  else if d.bufferType = N2H_BUFFER_PACKET then [(.subsysDpRegister, d.interfaceNum)]
  else if d.bufferType = N2H_BUFFER_PACKET_EXT then [(.subsysDpRegister, d.interfaceNum)]
  else if d.bufferType = N2H_BUFFER_STATUS && accepted skb then
    [(.nssRxInterfaceHandlers, skb.ncm.interface)]
  else []

def callsOf (env : RxEnv) (d : N2hDescriptor) (skb : Skb) : List HandlerCall :=
  if d.bufferType = N2H_BUFFER_STATUS then statusCalls env skb else []

def knownType (bufferType : U8) : Bool :=
  isBounced bufferType || bufferType = N2H_BUFFER_PACKET_VIRTUAL ||
    bufferType = N2H_BUFFER_PACKET || bufferType = N2H_BUFFER_PACKET_EXT ||
    bufferType = N2H_BUFFER_STATUS || bufferType = N2H_BUFFER_EMPTY

section Handlers
variable {s s' : RxHost} {nbuf : U32} {env : RxEnv} {i : U16} {tables : List (Table × U16)}
  {calls : List HandlerCall}

theorem settles_kfreeSkb (s : RxHost) (nbuf : U32) : Settles s (s.kfreeSkb nbuf) nbuf [] [] :=
  ⟨rfl, rfl, rfl, rfl, rfl, (List.append_nil _).symm, (List.append_nil _).symm,
    consumed_kfreeSkb _ _⟩

theorem settles_give (s : RxHost) (nbuf : U32) (taker : Consumer) :
    Settles s (s.give nbuf taker) nbuf [] [] :=
  ⟨rfl, rfl, rfl, rfl, rfl, (List.append_nil _).symm, (List.append_nil _).symm,
    consumed_give _ _ _⟩

theorem Settles.of_count {x : DrvStat} {n : Int} (h : Settles (s.count x n) s' nbuf tables calls)
    (hx : x ≠ .nssSkbCount) : Settles s s' nbuf tables calls :=
  { h with skbCount := h.skbCount.trans (DrvStats.add_of_ne _ _ hx.symm) }

theorem Settles.of_index {t : Table} (h : Settles (s.index t i) s' nbuf tables calls) :
    Settles s s' nbuf ((t, i) :: tables) calls :=
  { h with accesses := by rw [h.accesses, RxHost.index, List.append_assoc]; rfl }

theorem Settles.of_linearizeFor {features : Features} {m : Memory}
    (h : Settles { s with mem := m } s' nbuf tables calls)
    (hm : linearizeFor env nbuf s.mem features = some m) : Settles s s' nbuf tables calls :=
  { h with consumed := h.consumed.of_linearizeFor hm }

theorem bouncedPkt_settles (s : RxHost) (nbuf : U32) (reg : ShaperBounceRegistrant)
    (taker : Consumer) : Settles s (nssCoreHandleBouncedPkt nbuf s reg taker) nbuf [] [] := by
  unfold nssCoreHandleBouncedPkt
  split
  · exact settles_kfreeSkb s nbuf
  · split
    · exact settles_kfreeSkb s nbuf
    · exact settles_give s nbuf taker

theorem linearized_settles (features : Features) (f : Memory → RxHost)
    (hf : ∀ m, Settles { s with mem := m } (f m) nbuf [] []) :
    Settles s (match linearizeFor env nbuf s.mem features with
      | none => s.kfreeSkb nbuf
      | some m => f m) nbuf [] [] := by
  cases hm : linearizeFor env nbuf s.mem features with
  | none => exact settles_kfreeSkb s nbuf
  | some m => exact (hf m).of_linearizeFor hm

theorem virtIfPkt_settles (env : RxEnv) (i : U16) (nbuf : U32) (s : RxHost) :
    Settles s (nssCoreHandleVirtIfPkt env i nbuf s) nbuf [(.subsysDpRegister, i)] [] := by
  refine Settles.of_index (Settles.of_count (x := .rxVirtual) (n := 1) ?_ (by decide))
  unfold nssCoreHandleVirtIfPkt
  generalize (s.index .subsysDpRegister i).count .rxVirtual 1 = s₁
  simp only
  cases (env.subsysDpRegister i).ndev with
  | none => exact settles_kfreeSkb s₁ nbuf
  | some ndev =>
    apply linearized_settles
    intro m
    cases env.txBusy with
    | true => exact settles_kfreeSkb _ nbuf
    | false => exact settles_give _ nbuf _

theorem bufferPkt_settles (env : RxEnv) (i : U16) (nbuf : U32) (s : RxHost) :
    Settles s (nssCoreHandleBufferPkt env i nbuf s) nbuf [(.subsysDpRegister, i)] [] := by
  refine Settles.of_index (Settles.of_count (x := .rxPacket) (n := 1) ?_ (by decide))
  unfold nssCoreHandleBufferPkt
  generalize (s.index .subsysDpRegister i).count .rxPacket 1 = s₁
  simp only
  split
  · apply linearized_settles
    exact fun m => settles_give _ nbuf _
  · split
    · split
      · exact settles_give s₁ nbuf _
      · exact settles_kfreeSkb s₁ nbuf
    · exact settles_kfreeSkb s₁ nbuf

theorem extBufferPkt_settles (env : RxEnv) (i : U16) (nbuf : U32) (s : RxHost) :
    Settles s (nssCoreHandleExtBufferPkt env i nbuf s) nbuf [(.subsysDpRegister, i)] [] := by
  refine Settles.of_index (Settles.of_count (x := .rxPacket) (n := 1) ?_ (by decide))
  unfold nssCoreHandleExtBufferPkt
  generalize (s.index .subsysDpRegister i).count .rxPacket 1 = s₁
  simp only
  split
  · apply linearized_settles
    exact fun m => settles_give _ nbuf _
  · exact settles_kfreeSkb s₁ nbuf

variable (env) in
theorem statusPkt_settles {skb : Skb} (hskb : s.mem.heap nbuf = some skb) :
    Settles s ((nssCoreHandleNssStatusPkt env nbuf s).kfreeSkb nbuf) nbuf
      (if accepted skb then [(.nssRxInterfaceHandlers, skb.ncm.interface)] else [])
      (statusCalls env skb) := by
  have hrejected : accepted skb = false → Settles s (s.kfreeSkb nbuf) nbuf
      (if accepted skb then [(.nssRxInterfaceHandlers, skb.ncm.interface)] else [])
      (statusCalls env skb) := by
    intro hno
    simpa [statusCalls, hno] using settles_kfreeSkb s nbuf
  unfold nssCoreHandleNssStatusPkt
  rw [hskb]
  simp only
  split
  · rename_i hversion
    exact hrejected (by simp [accepted, hversion])
  · rename_i hversion
    split
    · rename_i hlen
      exact hrejected (by simp [accepted, BitVec.not_le.mpr hlen])
    · rename_i hlen
      split
      · rename_i hif
        exact hrejected (by simp [accepted, Nat.not_lt.mpr hif])
      · rename_i hif
        have hyes : accepted skb = true := by
          simp [accepted, not_not.mp hversion, BitVec.not_lt.mp hlen, Nat.lt_of_not_le hif]
        rw [statusCalls, hyes]
        cases env.nssRxInterfaceHandlers skb.ncm.interface with
        | false =>
          apply Settles.of_index
          exact settles_kfreeSkb (s.index .nssRxInterfaceHandlers skb.ncm.interface) nbuf
        | true =>
          apply Settles.of_index
          have hfree := settles_kfreeSkb (s.index .nssRxInterfaceHandlers skb.ncm.interface) nbuf
          exact { hfree with messages := rfl }

variable (env) in
/-- `nss_core_rx_pbuf` counts the skb as returned, then settles it by its type. -/
theorem rxPbuf_settles {d : N2hDescriptor} {skb : Skb} (hskb : s.mem.heap nbuf = some skb)
    (hknown : knownType d.bufferType = true) :
    Settles ((s.count .nssSkbCount (-1)).receive d nbuf) (nssCoreRxPbuf env d nbuf s) nbuf
      (tablesOf d skb) (callsOf env d skb) := by
  unfold nssCoreRxPbuf tablesOf callsOf
  have hskb₁ : ((s.count .nssSkbCount (-1)).receive d nbuf).mem.heap nbuf = some skb := hskb
  generalize (s.count .nssSkbCount (-1)).receive d nbuf = s₁ at hskb₁ ⊢
  simp only
  have hstatus : ∀ t : U8, d.bufferType = t → t ≠ N2H_BUFFER_STATUS →
      ¬ d.bufferType = N2H_BUFFER_STATUS := fun t ht hne => ht ▸ hne
  by_cases h₁ : d.bufferType = N2H_BUFFER_SHAPER_BOUNCED_INTERFACE
  · rw [if_pos h₁, if_pos h₁, if_neg (hstatus _ h₁ (by decide))]
    exact (bouncedPkt_settles _ nbuf _ _).of_index
  rw [if_neg h₁, if_neg h₁]
  by_cases h₂ : d.bufferType = N2H_BUFFER_SHAPER_BOUNCED_BRIDGE
  · rw [if_pos h₂, if_pos h₂, if_neg (hstatus _ h₂ (by decide))]
    exact (bouncedPkt_settles _ nbuf _ _).of_index
  rw [if_neg h₂, if_neg h₂]
  by_cases h₃ : d.bufferType = N2H_BUFFER_PACKET_VIRTUAL
  · rw [if_pos h₃, if_pos h₃, if_neg (hstatus _ h₃ (by decide))]
    exact virtIfPkt_settles env _ nbuf s₁
  rw [if_neg h₃, if_neg h₃]
  by_cases h₄ : d.bufferType = N2H_BUFFER_PACKET
  · rw [if_pos h₄, if_pos h₄, if_neg (hstatus _ h₄ (by decide))]
    exact bufferPkt_settles env _ nbuf s₁
  rw [if_neg h₄, if_neg h₄]
  by_cases h₅ : d.bufferType = N2H_BUFFER_PACKET_EXT
  · rw [if_pos h₅, if_pos h₅, if_neg (hstatus _ h₅ (by decide))]
    exact extBufferPkt_settles env _ nbuf s₁
  rw [if_neg h₅, if_neg h₅]
  by_cases h₆ : d.bufferType = N2H_BUFFER_STATUS
  · rw [if_pos h₆, if_pos h₆]
    have hstatus := statusPkt_settles (s := s₁.count .rxStatus 1) env hskb₁
    simpa [h₆] using hstatus.of_count (by decide)
  rw [if_neg h₆, if_neg h₆]
  have h₇ : d.bufferType = N2H_BUFFER_EMPTY := by
    simpa [knownType, isBounced, h₁, h₂, h₃, h₄, h₅, h₆] using hknown
  rw [if_pos h₇, if_neg (by simp [h₆])]
  exact (settles_kfreeSkb (s₁.count .rxEmpty 1) nbuf).of_count (by decide)

variable (nbuf env) in
theorem rxPbuf_unknown {d : N2hDescriptor} (hknown : knownType d.bufferType = false) :
    nssCoreRxPbuf env d nbuf s = (s.count .nssSkbCount (-1)).receive d nbuf := by
  simp only [knownType, isBounced, Bool.or_eq_false_iff, decide_eq_false_iff_not] at hknown
  simp [nssCoreRxPbuf, hknown]

end Handlers
end NssDrv.ReceiveDelivery

import NssDrv.RingProducers

set_option autoImplicit false

/-!
# Runs of all producers

Every interleaving of the empty-buffer refill with the transmit functions,
the NSS and the rest of the host. Each ring has one producer at a time up to
the first interface bounce that finds a registrant; that bounce works on the
refill's ring and rings the doorbell of another.
-/
namespace NssDrv.ProducerRuns
open HlosInterface SharedThread CyclicIndex DescriptorRing RingLocking ThreadPool TransitionRuns
open TransmitApi EmptyBufferRefill RingProducers

inductive Report where
  | sent (v : TxStatus)
  | refilled (given : List U32)

def send (cpu : ℕ) (req : Request) : Proc NssCtx Report := (req.call cpu).bind fun v => .ret (.sent v)

def refill (env : RefillEnv) : Proc NssCtx Report :=
  (refillCall env).bind fun given => .ret (.refilled given)

inductive ProducerCall : ℕ → Proc NssCtx Report → Prop where
  | send (cpu : ℕ) (req : Request) : ProducerCall cpu (send cpu req)
  | refill (env : RefillEnv) : ProducerCall napi (refill env)

abbrev ProducerPool := Pool ℕ NssCtx Report

abbrev ProducerStep : ProducerPool → Label ℕ NssCtx Report → ProducerPool → Prop :=
  Step ProducerCall Outsider

structure FreshCore (c : NssCtx) : Prop where
  rings : ∀ q, TransmitRing.Fresh (c.port q)
  bounces : Unbounced c

def Rely (cpu : ℕ) : NssCtx → NssCtx → Prop := Until Unbounced (View cpu)

def Guarantee (cpu : ℕ) : NssCtx → NssCtx → Prop := Until Unbounced (Move cpu)

/-- Between two calls of a thread. -/
def AtRest (cpu : ℕ) (c : NssCtx) : Prop :=
  Unbounced c → Standing cpu none (fun q => sentBy cpu (c.ring q)) (rungBy cpu c) c

section Pool
variable {cpu : ℕ} {sent : ℕ → List Enqueued} {rung : List U32} {c : NssCtx}

theorem Standing.atRest (h : Standing cpu none sent rung c) :
    Standing cpu none (fun q => sentBy cpu (c.ring q)) (rungBy cpu c) c := by
  have hsent : (fun q => sentBy cpu (c.ring q)) = sent := by
    funext q
    exact (h.rings q nofun).sent_eq
  rw [hsent, h.rung_eq]
  exact h

theorem send_post (req : Request) (h : AtRest cpu c) :
    Sat (Rely cpu) (Guarantee cpu)
      (fun a t => Unbounced t → ∃ v, a = .sent v ∧
        SendPost cpu req.buffer (fun q => sentBy cpu (c.ring q)) (rungBy cpu c) v t)
      (send cpu req) c := by
  refine (request_post req h).bind fun v t ht => Sat.ret (fun x y hr hx hA => ?_) fun hA => ?_
  · obtain ⟨hold, hv⟩ := hr hA
    obtain ⟨w, hw, hpost⟩ := hx hold
    exact ⟨w, hw, sendPost_stable w x y hv hpost⟩
  · exact ⟨v, rfl, ht hA⟩

theorem refill_post (env : RefillEnv) (h : AtRest napi c) :
    Sat (Rely napi) (Guarantee napi)
      (fun a t => Unbounced t → ∃ given, a = .refilled given ∧
        RefillPost (fun q => sentBy napi (c.ring q)) (rungBy napi c) given t)
      (refill env) c := by
  have hcall := Sat.until (ends_refillCall env) fun hA => @refillCall_post _ _ _ env (h hA)
  refine hcall.bind fun given t ht => Sat.ret (fun x y hr hx hA => ?_) fun hA => ?_
  · obtain ⟨hold, hv⟩ := hr hA
    obtain ⟨w, hw, ds, hds, hstand⟩ := hx hold
    exact ⟨w, hw, ds, hds, standing_stable x y hv hstand⟩
  · exact ⟨given, rfl, ht hA⟩

theorem sendPost_atRest {buffer : Option U32} {v : TxStatus}
    (h : SendPost cpu buffer sent rung v c) :
    Standing cpu none (fun q => sentBy cpu (c.ring q)) (rungBy cpu c) c := by
  cases v with
  | refused why => exact Standing.atRest h
  | success =>
    obtain ⟨q, e, _, _, hstand⟩ := h
    exact Standing.atRest hstand

theorem producers_discipline :
    Discipline ProducerCall Outsider Rely Guarantee AtRest (fun cpu _ => AtRest cpu) where
  others _ _ hne _ _ hg hA := ⟨(hg hA).1, (hg hA).2.view hne⟩
  env _ _ _ he hA := ⟨he.bounces.symm.trans hA, he.view⟩
  idle _ _ _ h := h
  calls cpu p hp s h := by
    cases hp with
    | send cpu req =>
      refine (send_post req h).post fun a t ht hA => ?_
      obtain ⟨v, _, hpost⟩ := ht hA
      exact sendPost_atRest hpost
    | refill env =>
      refine (refill_post env h).post fun a t ht hA => ?_
      obtain ⟨given, _, ds, _, hstand⟩ := ht hA
      exact Standing.atRest hstand

theorem FreshCore.sound (h : FreshCore c) (q : ℕ) : RingSound q (c.ring q) :=
  ⟨(h.rings q).sharedOk.toRingOk, fun _ => (h.rings q).sharedOk⟩

theorem FreshCore.standing (h : FreshCore c) (cpu : ℕ) :
    Standing cpu none (fun q => sentBy cpu (c.ring q)) (rungBy cpu c) c := by
  refine ⟨fun q _ => ⟨rfl, fun _ _ => ?_, fun _ => ⟨(h.rings q).sharedOk, ?_⟩⟩, rfl⟩
  · exact { (h.rings q).sharedOk.toRingOk with
      index_eq := (h.rings q).settled, wrote_eq := (h.rings q).unwritten, sent_eq := rfl }
  · have hunlocked := (h.rings q).unlocked
    change (c.ring q).lock = none at hunlocked
    rw [hunlocked]
    exact nofun

theorem atRest_stable : Stable (Rely cpu) (AtRest cpu) := by
  intro s t hr hs hA
  obtain ⟨hold, hv⟩ := hr hA
  exact Standing.atRest (standing_stable s t hv (hs hold))

theorem fresh_atRest (cpu : ℕ) (_ : Report) (s : NssCtx) (h : FreshCore s) (t : NssCtx)
    (ht : Relation.ReflTransGen (Rely cpu) s t) : AtRest cpu t :=
  atRest_stable.star ht fun _ => h.standing cpu

theorem producers_onTrack {c : ProducerPool} (h : Reachable (Idle FreshCore) ProducerStep c) :
    OnTrack Rely Guarantee (fun cpu _ => AtRest cpu) c :=
  producers_discipline.onTrack fresh_atRest h

theorem Outsider.serialised {c c' : NssCtx} (he : Outsider c c')
    (h : ∀ q, RingSound q (c.ring q)) (q : ℕ) :
    RingSound q (c'.ring q) ∧ Serialised (c.ring q) (c'.ring q) := by
  rcases he.rings q with heq | ht
  · rw [heq]
    exact (RingMove.refl napi q _).serialised (h q)
  · exact NssTakes.serialised (h q) ht

theorem producers_sound {c : ProducerPool} (h : Reachable (Idle FreshCore) ProducerStep c)
    (hA : Unbounced c.shared) (q : ℕ) : RingSound q (c.shared.ring q) := by
  refine producers_discipline.invariant
    (fun s => Unbounced s → ∀ q, RingSound q (s.ring q)) fresh_atRest ?_ ?_ ?_ h hA q
  · exact fun s hs _ q => hs.sound q
  · intro cpu s t hs hg hA q
    obtain ⟨hold, hmove⟩ := hg hA
    exact ((hmove.rings q).serialised (hs hold q)).1
  · intro s t hs he hA q
    exact (Outsider.serialised he (hs (he.bounces.symm.trans hA)) q).1

end Pool

/-- A call of `cpu` has put `es` on ring `q`, nothing on another ring, and has
    rung the doorbell of that ring. -/
structure Placed (cpu q : ℕ) (es : List Enqueued) (c c' : NssCtx) : Prop where
  here : sentBy cpu (c'.ring q) = sentBy cpu (c.ring q) ++ es
  elsewhere : ∀ q', q' ≠ q → sentBy cpu (c'.ring q') = sentBy cpu (c.ring q')
  rung : rungBy cpu c' = rungBy cpu c ++ [doorbellOf q]

/-- What a transmit function that answers `v` has done. -/
def SendReported (cpu : ℕ) (buffer : Option U32) (c c' : NssCtx) : TxStatus → Prop
  | .success => ∃ q e, buffer = some e.cookie ∧ (∃ d ∈ e.descs, d.opaqueWord = e.cookie) ∧
      Placed cpu q [e] c c'
  | .refused _ => (∀ q, sentBy cpu (c'.ring q) = sentBy cpu (c.ring q)) ∧ rungBy cpu c' = rungBy cpu c

/-- What a refill that has given `given` to the NSS has done. -/
def RefillReported (given : List U32) (c c' : NssCtx) : Prop :=
  ∃ ds : List H2nDescriptor, ds.map H2nDescriptor.opaqueWord = given ∧
    Placed napi NSS_IF_EMPTY_BUFFER_QUEUE (ds.map (single napi)) c c'

theorem Standing.placed {cpu q : ℕ} {es : List Enqueued} {c c' : NssCtx}
    (h : Standing cpu none (Function.update (fun q => sentBy cpu (c.ring q)) q
      (sentBy cpu (c.ring q) ++ es)) (rungBy cpu c ++ [doorbellOf q]) c') :
    Placed cpu q es c c' := by
  refine ⟨?_, fun q' hq' => ?_, h.rung_eq⟩
  · have hsent := (h.rings q nofun).sent_eq
    rwa [Function.update_self] at hsent
  · have hsent := (h.rings q' nofun).sent_eq
    rwa [Function.update_of_ne hq'] at hsent

theorem sendPost_reported {cpu : ℕ} {buffer : Option U32} {v : TxStatus} {c c' : NssCtx}
    (h : SendPost cpu buffer (fun q => sentBy cpu (c.ring q)) (rungBy cpu c) v c') :
    SendReported cpu buffer c c' v := by
  cases v with
  | refused why => exact ⟨fun q => (h.rings q nofun).sent_eq, h.rung_eq⟩
  | success =>
    obtain ⟨q, e, hbuffer, hdesc, hstand⟩ := h
    exact ⟨q, e, hbuffer, hdesc, Standing.placed hstand⟩

section Runs
variable {c₀ c : ProducerPool} {cpu : ℕ} {ls : List (Label ℕ NssCtx Report)}

theorem send_reported {req : Request} {v : TxStatus}
    (h : Reachable (Idle FreshCore) ProducerStep c₀)
    (run : Run ProducerStep c₀ (.call cpu (send cpu req) :: ls) c) (only : ∀ p, .call cpu p ∉ ls)
    (returned : c.thread cpu = .ret (.sent v)) (hA : Unbounced c.shared) :
    SendReported cpu req.buffer c₀.shared c.shared v := by
  have htrack := producers_onTrack h
  obtain ⟨c₁, hcall, _⟩ := run.uncons
  cases hcall with
  | @call _ _ a idle allowed =>
    have hrest := htrack cpu
    rw [idle] at hrest
    have hpost := producers_discipline.call_post htrack (send_post req (hrest _ .refl)) run only
      returned hA
    obtain ⟨w, hw, hsend⟩ := hpost
    cases hw
    exact sendPost_reported hsend

theorem refill_reported {env : RefillEnv} {given : List U32}
    (h : Reachable (Idle FreshCore) ProducerStep c₀)
    (run : Run ProducerStep c₀ (.call napi (refill env) :: ls) c) (only : ∀ p, .call napi p ∉ ls)
    (returned : c.thread napi = .ret (.refilled given)) (hA : Unbounced c.shared) :
    RefillReported given c₀.shared c.shared := by
  have htrack := producers_onTrack h
  obtain ⟨c₁, hcall, _⟩ := run.uncons
  cases hcall with
  | @call _ _ a idle allowed =>
    have hrest := htrack napi
    rw [idle] at hrest
    have hpost := producers_discipline.call_post htrack (refill_post env (hrest _ .refl)) run only
      returned hA
    obtain ⟨w, hw, ds, hds, hstand⟩ := hpost
    cases hw
    exact ⟨ds, hds, Standing.placed hstand⟩

/-- Up to the first interface bounce that finds a registrant, every step of
    anyone treats every ring as the ring of one producer, and every call has
    put what it reports on one ring and has rung that ring's doorbell. -/
theorem producers_serialised {c c' : ProducerPool} {l : Label ℕ NssCtx Report}
    (h : Reachable (Idle FreshCore) ProducerStep c) (hs : ProducerStep c l c')
    (hA : Unbounced c'.shared) :
    (∀ q, Serialised (c.shared.ring q) (c'.shared.ring q)) ∧
      (∀ c₀ cpu req ls v, Reachable (Idle FreshCore) ProducerStep c₀ →
        Run ProducerStep c₀ (.call cpu (send cpu req) :: ls) c' → (∀ p, .call cpu p ∉ ls) →
          c'.thread cpu = .ret (.sent v) → SendReported cpu req.buffer c₀.shared c'.shared v) ∧
      ∀ c₀ env ls given, Reachable (Idle FreshCore) ProducerStep c₀ →
        Run ProducerStep c₀ (.call napi (refill env) :: ls) c' → (∀ p, .call napi p ∉ ls) →
          c'.thread napi = .ret (.refilled given) → RefillReported given c₀.shared c'.shared := by
  refine ⟨fun q => ?_, ?_, ?_⟩
  · rcases producers_discipline.shared (producers_onTrack h) hs with ⟨cpu, _, hg⟩ | ⟨_, he⟩ | heq
    · obtain ⟨hold, hmove⟩ := hg hA
      exact ((hmove.rings q).serialised (producers_sound h hold q)).2
    · have hold : Unbounced c.shared := he.bounces.symm.trans hA
      exact (Outsider.serialised he (producers_sound h hold) q).2
    · rw [heq] at hA ⊢
      exact ((RingMove.refl napi q _).serialised (producers_sound h hA q)).2
  · exact fun c₀ cpu req ls v h₀ run only returned => send_reported h₀ run only returned hA
  · exact fun c₀ env ls given h₀ run only returned => refill_reported h₀ run only returned hA

end Runs

def oneBuffer : RefillEnv :=
  { pagedMode := false, jumboMru := 0, maxBufSize := 1984, netSkbPad := 32, pageSize := 4096,
    skb := fun i => if i = 0 then some ⟨9, 0x1000, 0x1020⟩ else none, page := fun _ => false,
    dma := fun _ => some 0x1000 }

def bouncedSkb : TransmitEncoders.TxSkb :=
  { addr := 7, head := 0x2000, data := 0x2040, tail := 0x2080, end_ := 0x2100, len := 64,
    dataLen := 0, priority := 0, nrFrags := 0, ipSummed := .checksumNone, hasDestructor := false,
    gsoSize := 0, fragSizes := [], fragList := [],
    fragSizes_lt := TransmitEncoders.TxSkb.noFrags_lt,
    fragList_lt := TransmitEncoders.TxSkb.noFragList_lt }

def mappedEnv : TransmitEncoders.TxEnv :=
  { dma := fun _ => some 0x2000, maxSkbFrags := 17, recycling := false, isVirtual := false,
    recycleable := false, maxBufSize := 1984, netSkbPad := 32 }

def freshCore : NssCtx :=
  { ring := fun _ => TransmitRing.emptyRing 4, coreId := 0, stats := fun _ => 0, intrMask := 0,
    state := NSS_CORE_STATE_INITIALIZED, topLock := none, statsLock := none,
    interfaceRegistered := fun _ => true, bridgeRegistered := fun _ => true, doorbells := [],
    interfaceBounces := 0 }

def freshPool : ProducerPool := ⟨freshCore, fun _ => .ret (.sent .success)⟩

theorem freshPool_idle : Idle FreshCore freshPool :=
  ⟨⟨fun _ => ⟨⟨2, by decide, rfl⟩, Nat.zero_lt_succ 3, rfl, rfl, rfl, rfl, rfl, rfl⟩, rfl⟩,
    fun _ => ⟨_, rfl⟩⟩

/-- The refill has read both indices when the whole bounce runs. -/
def bounceWithinRefill : List (Order ℕ NssCtx Report) :=
  [.call 0 (refill oneBuffer)] ++ List.replicate 3 (.run 0) ++
    [.call 1 (send 1 (.bounceInterface mappedEnv 3 bouncedSkb))] ++ List.replicate 15 (.run 1) ++
      List.replicate 7 (.run 0)

theorem bounceWithinRefill_allowed (o : Order ℕ NssCtx Report) (ho : o ∈ bounceWithinRefill) :
    o.Allowed ProducerCall Outsider := by
  simp only [bounceWithinRefill, List.mem_append, List.mem_singleton, List.mem_replicate] at ho
  rcases ho with (((rfl | ⟨_, rfl⟩) | rfl) | ⟨_, rfl⟩) | ⟨_, rfl⟩
  · exact .refill oneBuffer
  · trivial
  · exact .send 1 _
  · trivial
  · trivial

/-- The bounce reports success, the refill reports a buffer, and both went
    into slot 0: the packet is in no descriptor though the NSS has taken none,
    and the index has moved by one. The bounce has rung the doorbell of ring 1. -/
theorem bounce_loses_packet : ∃ c c', Reachable (Idle FreshCore) ProducerStep c ∧
    ProducerStep c (.run 0) c' ∧ ¬ Serialised (c.shared.ring 0) (c'.shared.ring 0) ∧
    c'.thread 1 = .ret (.sent .success) ∧ c'.thread 0 = .ret (.refilled [9]) ∧
    (c'.shared.ring 0).consumed = 0 ∧ (c'.shared.ring 0).hlosIndexMap = 1 ∧
    (∀ j < 4, ((c'.shared.ring 0).desc j).opaqueWord ≠ bouncedSkb.addr) ∧
    doorbellOf 0 ∉ rungBy 1 c'.shared := by
  refine ⟨_, _, .run (.start freshPool_idle) (Pool.follow_run bounceWithinRefill_allowed rfl),
    Pool.obey_step (o := .run 0) trivial rfl, fun h => ?_, rfl, rfl, rfl, rfl, by decide, by decide⟩
  have hcount := h.count
  exact absurd hcount (by decide)

theorem nssIfTxBuf_known : nssIfTxBuf ∈ packetSenders := by decide

def onePacket : Request :=
  .packet nssIfTxBuf nssIfTxBuf_known mappedEnv 3 none none bouncedSkb

def refillBegun : List (Order ℕ NssCtx Report) :=
  .call 0 (refill oneBuffer) :: List.replicate 3 (.run 0)

/-- One CPU has locked the ring of the packets when the other comes to the lock. -/
def twoSends : List (Order ℕ NssCtx Report) :=
  [.call 1 (send 1 onePacket), .call 2 (send 2 onePacket)] ++ List.replicate 6 (.run 1) ++
    List.replicate 2 (.run 2) ++ List.replicate 7 (.run 1) ++ List.replicate 11 (.run 2)

def refillEnds : List (Order ℕ NssCtx Report) := List.replicate 7 (.run 0)

theorem contended_allowed {E : NssCtx → NssCtx → Prop} (o : Order ℕ NssCtx Report)
    (ho : o ∈ refillBegun ++ twoSends ++ refillEnds) : o.Allowed ProducerCall E := by
  simp only [refillBegun, twoSends, refillEnds, List.mem_append, List.mem_cons, List.mem_replicate,
    List.not_mem_nil, or_false] at ho
  rcases ho with ((rfl | ⟨_, rfl⟩) | ((((rfl | rfl) | ⟨_, rfl⟩) | ⟨_, rfl⟩) | ⟨_, rfl⟩) | ⟨_, rfl⟩) |
    ⟨_, rfl⟩
  · exact .refill oneBuffer
  · trivial
  · exact .send 1 onePacket
  · exact .send 2 onePacket
  all_goals trivial

/-- Two packets go out while a buffer is handed over. -/
theorem producers_serialised_contended : ∃ c₀ c c', freshPool.follow refillBegun = some c₀ ∧
    c₀.follow (twoSends ++ refillEnds) = some c ∧ c.obey (.run 0) = some c' ∧
    (∀ q, Serialised (c.shared.ring q) (c'.shared.ring q)) ∧
    SendReported 1 (some 7) c₀.shared c'.shared .success ∧
    RefillReported [9] freshCore c'.shared := by
  have hbegun : ∀ o ∈ refillBegun, o.Allowed ProducerCall Outsider := fun o ho =>
    contended_allowed o (by simp only [List.mem_append, ho, true_or])
  have hrest : ∀ o ∈ twoSends ++ refillEnds, o.Allowed ProducerCall Outsider := fun o ho => by
    refine contended_allowed o ?_
    rw [List.append_assoc]
    exact List.mem_append_right _ ho
  obtain ⟨c₀, h₀⟩ : ∃ c₀, freshPool.follow refillBegun = some c₀ := ⟨_, rfl⟩
  obtain ⟨c, hc⟩ : ∃ c, c₀.follow (twoSends ++ refillEnds) = some c := by
    obtain rfl := Option.some.inj h₀
    exact ⟨_, rfl⟩
  obtain ⟨c', hc'⟩ : ∃ c', c.obey (.run 0) = some c' := by
    obtain rfl := Option.some.inj h₀
    obtain rfl := Option.some.inj hc
    exact ⟨_, rfl⟩
  have hend : Unbounced c'.shared ∧ c'.thread 1 = .ret (.sent .success) ∧
      c'.thread 0 = .ret (.refilled [9]) := by
    obtain rfl := Option.some.inj h₀
    obtain rfl := Option.some.inj hc
    obtain rfl := Option.some.inj hc'
    exact ⟨rfl, rfl, rfl⟩
  refine ⟨c₀, c, c', h₀, hc, hc', ?_⟩
  have hstart : Reachable (Idle FreshCore) ProducerStep freshPool := .start freshPool_idle
  have hfirst := Pool.follow_run hbegun h₀
  have hsecond := Pool.follow_run hrest hc
  have hlast : ProducerStep c (.run 0) c' := Pool.obey_step (o := .run 0) trivial hc'
  have hreach := hstart.run hfirst
  have hall := producers_serialised (hreach.run hsecond) hlast hend.1
  refine ⟨hall.1, hall.2.1 c₀ 1 onePacket _ .success hreach (hsecond.snoc hlast) ?_ hend.2.1, ?_⟩
  · intro p hp
    simp [refillEnds, Order.label] at hp
  · refine hall.2.2 freshPool oneBuffer _ [9] hstart (hfirst.trans (hsecond.snoc hlast)) ?_
      hend.2.2
    intro p hp
    simp [twoSends, refillEnds, Order.label, napi] at hp

end NssDrv.ProducerRuns

import Mathlib.Data.List.Induction
import NssDrv.ReceiveAssembly
import NssDrv.ReceiveDelivery
import NssDrv.ReceiveQueue

set_option autoImplicit false

/-!
# Streams of descriptors

One pass of the loop from any state the parser tracks, and the state of the
host after any number of handler calls as the passes over all descriptors
processed so far, wherever the batches were cut.
-/
namespace NssDrv.ReceiveStream
open HlosInterface SkbMemory ReceivePath SegmentParser ReceiveAssembly ReceiveDelivery ReceiveQueue
open SharedThread ThreadPool TransitionRuns CyclicIndex

/-- What a pass shows: the packet passed on, the tables indexed for it and the
    message handlers called. -/
def Shown (env : RxEnv) (d : N2hDescriptor) : Option Delivery → RxHost → RxHost → Prop
  | none, s, s' =>
    s'.received = s.received ∧ s'.accesses = s.accesses ∧ s'.messages = s.messages
  | some x, s, s' => ∃ skb, x.Shows skb ∧
    s'.received = s.received ++
      [⟨d.bufferType, d.interfaceNum, x.package.1, some skb, x.package.2⟩] ∧
    s'.accesses = s.accesses ++ tablesOf d skb ∧ s'.messages = s.messages ++ callsOf env d skb

/-- The skb that an unknown buffer type leaves behind. -/
def leaked (k : Kernel) (env : RxEnv) (d : N2hDescriptor) (st : Option (Packet Segment)) :
    Option Package :=
  if knownType d.bufferType then none else (delivery k env d st).map Delivery.package

structure Outcome (k : Kernel) (env : RxEnv) (d : N2hDescriptor) (s : RxHost)
    (st : Option (Packet Segment)) (loose : List Package) (s' : RxHost) : Prop where
  tracks : Tracks s' (parse st (segmentOf env d) (event k env d)).1
    ((leaked k env d st).toList ++ loose)
  shown : Shown env d (delivery k env d st) s s'
  misuse : s'.mem.misuse = (overflows k env d s || s.mem.misuse)
  skbCount : s'.stats .nssSkbCount = s.stats .nssSkbCount -
    (if aborts k env d s then 1 else 0) - if (delivery k env d st).isSome then 1 else 0

section Pass
variable {s s' : RxHost} {st : Option (Packet Segment)} {loose : List Package}
  {k : Kernel} {env : RxEnv} {d : N2hDescriptor}

theorem Tracks.of_consumed {a : U32} {as : List U32} (h : Tracks s st ((a, as) :: loose))
    (hc : Consumed s.mem s'.mem a) (hhead : s'.head = s.head) (htail : s'.tail = s.tail)
    (hjumbo : s'.jumboStart = s.jumboStart) :
    Tracks s' st loose ∧ s'.mem.misuse = s.mem.misuse := by
  obtain ⟨hholds, hmisuse, hheap⟩ := hc as _ (h.holds.perm List.perm_middle)
  refine ⟨⟨hholds, hhead.trans h.head, hjumbo.trans h.jumboStart, ?_, ?_⟩, hmisuse⟩
  · intro p g hp hmode hlast
    rw [htail]
    exact h.tail p g hp hmode hlast
  · rintro p rfl
    obtain ⟨skb, hskb, hgrow⟩ := h.content p rfl
    have hin : p.first.nbuf ∈ units (((some p).map packageOf).toList ++ loose) := by
      simp [packageOf]
    exact ⟨skb, (hheap _ hin).trans hskb, hgrow⟩

theorem processDescriptor_outcome (h : Tracks s st loose) (hand : Handover k env d s)
    (single : event k env d = .refused → sameMode .linear st = none) :
    Outcome k env d s st loose (processDescriptor k env d s) := by
  have hsteps := assemble_steps h hand single
  unfold processDescriptor
  generalize assemble k env d s = r at hsteps ⊢
  obtain ⟨s₁, nbuf⟩ := r
  have hnbuf := hsteps.nbuf_eq
  have htracks := hsteps.tracks
  cases hx : delivery k env d st with
  | none =>
    rw [hx] at hnbuf htracks
    obtain rfl : nbuf = none := hnbuf
    refine ⟨?_, ?_, hsteps.misuse, ?_⟩
    · simpa [leaked, hx] using htracks
    · rw [hx]
      exact ⟨hsteps.received, hsteps.accesses, hsteps.messages⟩
    · simpa [hx] using hsteps.skbCount
  | some x =>
    rw [hx] at hnbuf htracks
    obtain rfl : nbuf = some x.package.1 := hnbuf
    obtain ⟨skb, hskb, hshows⟩ := hsteps.shows x hx
    have hchain : s₁.mem.chainOf x.package.1 = x.package.2 :=
      htracks.holds.chainOf_eq (by simp)
    have hreceive : ((s₁.count .nssSkbCount (-1)).receive d x.package.1).received =
        s.received ++ [⟨d.bufferType, d.interfaceNum, x.package.1, some skb, x.package.2⟩] := by
      rw [← hsteps.received, ← hskb, ← hchain]
      rfl
    have hcount : ((s₁.count .nssSkbCount (-1)).receive d x.package.1).stats .nssSkbCount =
        s.stats .nssSkbCount - (if aborts k env d s then 1 else 0) - 1 := by
      rw [← hsteps.skbCount]
      exact DrvStats.add_self s₁.stats .nssSkbCount (-1)
    cases hknown : knownType d.bufferType with
    | true =>
      have hsettles := rxPbuf_settles env hskb hknown
      obtain ⟨htracks', hmisuse⟩ := Tracks.of_consumed htracks hsettles.consumed hsettles.head
        hsettles.tail hsettles.jumboStart
      refine ⟨?_, ?_, hmisuse.trans hsteps.misuse, ?_⟩
      · simpa [leaked, hknown] using htracks'
      · rw [hx]
        refine ⟨skb, hshows, hsettles.received.trans hreceive, ?_, ?_⟩
        · exact hsettles.accesses.trans (congrArg (· ++ _) hsteps.accesses)
        · exact hsettles.messages.trans (congrArg (· ++ _) hsteps.messages)
      · rw [hx]
        exact hsettles.skbCount.trans hcount
    | false =>
      have hunknown := rxPbuf_unknown (s := s₁) x.package.1 env hknown
      have hnone : tablesOf d skb = [] ∧ callsOf env d skb = [] := by
        simp only [knownType, isBounced, Bool.or_eq_false_iff, decide_eq_false_iff_not] at hknown
        simp [tablesOf, callsOf, hknown]
      simp only [hunknown]
      refine ⟨?_, ?_, hsteps.misuse, ?_⟩
      · have hleaked : leaked k env d st = some x.package := by simp [leaked, hknown, hx]
        rw [hleaked]
        exact ⟨htracks.holds, htracks.head, htracks.jumboStart, htracks.tail, htracks.content⟩
      · rw [hx]
        refine ⟨skb, hshows, hreceive, ?_, ?_⟩
        · rw [hnone.1, List.append_nil]
          exact hsteps.accesses
        · rw [hnone.2, List.append_nil]
          exact hsteps.messages
      · rw [hx]
        exact hcount

end Pass

section Ring
variable (k : Kernel) (envs : ℕ → RxEnv)

/-- The loop body; the number of the pass picks what it meets. -/
def rxBody (d : N2hDescriptor) (w : ℕ × RxHost) : ℕ × RxHost :=
  (w.1 + 1, processDescriptor k (envs w.1) d w.2)

def inputs (ds : List N2hDescriptor) : List (RxEnv × N2hDescriptor) :=
  ds.mapIdx fun i d => (envs i, d)

def feed (s : RxHost) (x : RxEnv × N2hDescriptor) : RxHost := processDescriptor k x.1 x.2 s

theorem foldl_rxBody (ds : List N2hDescriptor) (s : RxHost) :
    ds.foldl (fun w d => rxBody k envs d w) (0, s) =
      (ds.length, (inputs envs ds).foldl (feed k) s) := by
  induction ds using List.reverseRecOn with
  | nil => rfl
  | append_singleton ds d ih =>
    rw [List.foldl_append, ih]
    simp [rxBody, feed, inputs, List.mapIdx_concat]

def NssAlone {ω : Type} (p p' : N2hPort ω) : Prop := NssProduces p.ring p'.ring ∧ p'.host = p.host

abbrev StreamStep : QueuePool (ℕ × RxHost) → Label Unit (N2hPort (ℕ × RxHost)) U16 →
    QueuePool (ℕ × RxHost) → Prop :=
  Step (CauseQueueCall (rxBody k envs)) NssAlone

def Start (s : RxHost) (p : N2hPort (ℕ × RxHost)) : Prop := Empty p ∧ p.host = (0, s)

end Ring

section Batches
variable {ω : Type} (body : N2hDescriptor → ω → ω) (w : ω)

/-- The host is where the passes over the processed descriptors bring it. -/
def Caught (p : N2hPort ω) : Prop := p.host = p.ring.processed.foldl (fun w d => body d w) w

theorem processFrom_caught (mask : U16) (n : ℕ) (hlosIndex : U32) :
    Ends (fun p => ¬ Caught body w p) (processFrom body mask n hlosIndex) := by
  induction n generalizing hlosIndex with
  | zero => exact .ret _
  | succ n ih =>
    refine .act (fun _ => id) fun p => .act (fun q hq hcaught => hq ?_) fun _ => ih _
    change body _ q.host = (q.ring.processed ++ [_]).foldl (fun w d => body d w) w
    rw [List.foldl_append, ← hcaught]
    rfl

theorem handleCauseQueue_caught (weight : U16) :
    Ends (fun p => ¬ Caught body w p) (nssCoreHandleCauseQueue body weight) := by
  unfold nssCoreHandleCauseQueue
  refine .act (fun _ => id) fun p₁ => .act (fun _ => id) fun p₂ => .act (fun _ => id) fun p₃ => ?_
  simp only [Proc.bind_eq, Proc.pure_eq, Proc.ret_bind]
  split
  · exact .ret _
  · refine (processFrom_caught body w _ _ _).bind fun next => ?_
    exact .act (fun _ => id) fun _ => .act (fun _ => id) fun _ => .ret _

end Batches

section Reach
variable {k : Kernel} {envs : ℕ → RxEnv} {s : RxHost} {c : QueuePool (ℕ × RxHost)}

theorem reachable_caught (h : Reachable (Idle (Start s)) (StreamStep k envs) c) :
    Caught (rxBody k envs) (0, s) c.shared := by
  let J := Caught (rxBody k envs) (0, s)
  have hdiscipline : Discipline (CauseQueueCall (rxBody k envs)) NssAlone (fun _ _ _ => True)
      (fun _ p p' => ¬ J p' → ¬ J p) (fun _ _ => True) (fun _ _ _ => True) :=
    { others := fun _ _ _ _ _ _ => trivial
      env := fun _ _ _ _ => trivial
      idle := fun _ _ _ _ => trivial
      calls := fun _ q hq p _ => by
        cases hq with
        | call weight _ => exact handleCauseQueue_caught (rxBody k envs) (0, s) weight p }
  refine hdiscipline.invariant J (fun _ _ _ _ _ _ => trivial) ?_ ?_ ?_ h
  · rintro p ⟨hempty, hhost⟩
    change p.host = p.ring.processed.foldl _ _
    rw [hempty.processed, hhost]
    rfl
  · exact fun _ p p' hp hg => not_not.mp fun hno => hg hno hp
  · rintro p p' hp ⟨hproduces, hhost⟩
    change p'.host = p'.ring.processed.foldl _ _
    rw [hhost, hproduces.rely.processed]
    exact hp

/-- However the calls were cut, the host has received the descriptors produced
    so far one by one, up to those it has not got to. -/
theorem reachable_stream (h : Reachable (Idle (Start s)) (StreamStep k envs) c) :
    c.shared.ring.processed <+: c.shared.ring.produced ∧
      c.shared.host.2 = (inputs envs c.shared.ring.processed).foldl (feed k) s := by
  have hqueue : Reachable (Idle Empty) (QueueStep (rxBody k envs)) c := by
    obtain ⟨c₀, ls, hinit, run⟩ := h
    refine ⟨c₀, ls, ⟨hinit.1.1, hinit.2⟩, run.mono ?_⟩
    intro c l c' hstep
    cases hstep with
    | call idle allowed => exact .call idle allowed
    | run next enabled => exact .run next enabled
    | env h => exact .env h.1
  refine ⟨(queue_ok _ hqueue).1.inOrder, ?_⟩
  have hcaught : c.shared.host = _ := reachable_caught h
  rw [hcaught, foldl_rxBody]

end Reach

section Batch
variable (k : Kernel) (envs : ℕ → RxEnv) (s : RxHost) (ds : List N2hDescriptor)

def loadedRing : N2hRing :=
  { emptyN2hRing 8 with desc := fun j => ds.getD j ⟨0, 0, 0, 0, 0, 0, 0⟩ }

def handedOver : QueuePool (ℕ × RxHost) :=
  ⟨⟨(loadedRing ds).produce ds.length, (0, s)⟩, fun _ => .ret 0⟩

theorem handedOver_reachable (hds : ds.length < 8) :
    Reachable (Idle (Start s)) (StreamStep k envs) (handedOver s ds) := by
  have hempty : Empty (⟨loadedRing ds, (0, s)⟩ : N2hPort (ℕ × RxHost)) :=
    ⟨⟨3, by decide, rfl⟩, show (0 : U32).toNat < (8 : U16).toNat by decide, rfl, rfl, rfl, rfl,
      rfl, rfl⟩
  have hidle : Idle (Start s) (⟨⟨loadedRing ds, (0, s)⟩, fun _ => .ret 0⟩ :
      QueuePool (ℕ × RxHost)) := ⟨⟨hempty, rfl⟩, fun _ => ⟨_, rfl⟩⟩
  have hroom : (loadedRing ds).available + ds.length < (loadedRing ds).size.toNat := by
    have hsize : (loadedRing ds).size.toNat = 8 := rfl
    have havail : (loadedRing ds).available = 0 := gap_self
    omega
  exact .next (.start hidle) (.env ⟨.produce (loadedRing ds) ds.length hroom, rfl⟩)

def serveAll : List (Order Unit (N2hPort (ℕ × RxHost)) U16) :=
  .call () (nssCoreHandleCauseQueue (rxBody k envs) 8) :: List.replicate (5 + 2 * ds.length) (.run ())

theorem serveAll_reachable (hds : ds.length < 8) {c : QueuePool (ℕ × RxHost)}
    (h : (handedOver s ds).follow (serveAll k envs ds) = some c) :
    Reachable (Idle (Start s)) (StreamStep k envs) c := by
  refine (handedOver_reachable k envs s ds hds).run (Pool.follow_run ?_ h)
  intro o ho
  simp only [serveAll, List.mem_cons, List.mem_replicate] at ho
  rcases ho with rfl | ⟨_, rfl⟩
  · exact .call 8 (by decide)
  · trivial

end Batch

section Any
variable {k : Kernel} {envs : ℕ → RxEnv} {s : RxHost}

/-- Between two calls, with nothing left on the ring. -/
structure Drained (k : Kernel) (envs : ℕ → RxEnv) (s : RxHost) (ds : List N2hDescriptor)
    (c : QueuePool (ℕ × RxHost)) : Prop where
  reachable : Reachable (Idle (Start s)) (StreamStep k envs) c
  idle : ∃ a, c.thread () = .ret a
  resting : Resting c.shared.ring
  size : c.shared.ring.size = 8
  produced : c.shared.ring.produced = ds
  processed : c.shared.ring.processed = ds

theorem Drained.available {ds : List N2hDescriptor} {c : QueuePool (ℕ × RxHost)}
    (h : Drained k envs s ds c) : c.shared.ring.available = 0 := by
  have hcount := h.resting.count
  rw [h.resting.taken_eq, h.processed, h.produced] at hcount
  omega

theorem Drained.snoc {ds : List N2hDescriptor} {c : QueuePool (ℕ × RxHost)}
    (h : Drained k envs s ds c) (d : N2hDescriptor) : ∃ c', Drained k envs s (ds ++ [d]) c' := by
  obtain ⟨a, hidle⟩ := h.idle
  have hzero := h.available
  let r := c.shared.ring
  let slot := r.nssIndexMap.toNat
  let p : N2hPort (ℕ × RxHost) := ⟨(r.write slot d).produce 1, c.shared.host⟩
  have hsize : r.size = 8 := h.size
  have hwrite : NssProduces r (r.write slot d) := by
    refine .write r slot d ?_
    rw [show r.available = 0 from hzero]
    exact Nat.not_lt_zero _
  have hproduce : NssProduces (r.write slot d) p.ring := by
    refine .produce _ 1 ?_
    rw [show (r.write slot d).available = 0 from hzero, show (r.write slot d).size = 8 from hsize]
    decide
  have hreach : Reachable (Idle (Start s)) (StreamStep k envs) { c with shared := p } :=
    .next (.next h.reachable (.env (s := ⟨r.write slot d, c.shared.host⟩) ⟨hwrite, rfl⟩))
      (.env ⟨hproduce, rfl⟩)
  have hrest : Resting p.ring := (h.resting.rely hwrite.rely).rely hproduce.rely
  have hproduced : p.ring.produced = ds ++ [d] := by
    have hlt : slot < 8 := by
      have hnss := h.resting.nss
      rw [h.size] at hnss
      exact hnss
    change r.produced ++ [Function.update r.desc slot d (advance r.size.toNat slot 0)] = _
    have hslot : advance r.size.toNat slot 0 = slot := by
      rw [hsize]
      exact advance_zero hlt
    rw [show r.produced = ds from h.produced, hslot, Function.update_self]
  obtain ⟨v, q, hexec, hq, hsame, hgiven, hdone⟩ := handleCauseQueue_one (rxBody k envs) hrest (by
    rw [hproduced, show p.ring.processed = ds from h.processed, List.length_append]
    rfl)
  let called : QueuePool (ℕ × RxHost) :=
    ⟨p, Function.update c.thread () (nssCoreHandleCauseQueue (rxBody k envs) 1)⟩
  have hcall : StreamStep k envs { c with shared := p }
      (.call () (nssCoreHandleCauseQueue (rxBody k envs) 1)) called :=
    .call hidle (.call 1 (by decide))
  have hthread : called.thread () = nssCoreHandleCauseQueue (rxBody k envs) 1 :=
    Function.update_self () _ c.thread
  obtain ⟨ls, hrun⟩ : ∃ ls, Run (StreamStep k envs) called ls
      ⟨q, Function.update called.thread () (.ret v)⟩ := Pool.exec_run hthread hexec
  refine ⟨_, (hreach.next hcall).run hrun, ⟨v, Function.update_self () _ called.thread⟩, hq, ?_, ?_, ?_⟩
  · exact hsame.trans hsize
  · exact hgiven.trans hproduced
  · exact hdone.trans hproduced

theorem stream_drained (k : Kernel) (envs : ℕ → RxEnv) (s : RxHost) (ds : List N2hDescriptor) :
    ∃ c, Drained k envs s ds c := by
  induction ds using List.reverseRecOn with
  | nil =>
    have hempty : Empty (⟨emptyN2hRing 8, (0, s)⟩ : N2hPort (ℕ × RxHost)) :=
      ⟨⟨3, by decide, rfl⟩, show (0 : U32).toNat < (8 : U16).toNat by decide, rfl, rfl, rfl, rfl,
        rfl, rfl⟩
    have hidle : Idle (Start s) (⟨⟨emptyN2hRing 8, (0, s)⟩, fun _ => .ret 0⟩ :
        QueuePool (ℕ × RxHost)) := ⟨⟨hempty, rfl⟩, fun _ => ⟨_, rfl⟩⟩
    exact ⟨_, .start hidle, ⟨0, rfl⟩, hempty.resting, rfl, rfl, rfl⟩
  | append_singleton ds d ih =>
    obtain ⟨c, hc⟩ := ih
    exact hc.snoc d

end Any

def freshHost : RxHost :=
  { head := none, tail := none, jumboStart := none, mem := ⟨fun _ => none, [], [], [], false⟩,
    stats := fun _ => 0, received := [], accesses := [], messages := [], cryptoBufs := [] }

def lowmem : Kernel := ⟨0xC0000000, 17⟩

/-- No device, no registrant and no handler; every allocation succeeds. -/
def bareEnv (nbuf : Skb) : RxEnv :=
  { nbuf := nbuf, subsysDpRegister := fun _ => ⟨none, false, false⟩
    bounceInterfaceRegistrants := fun _ => ⟨false, false⟩
    bounceBridgeRegistrants := fun _ => ⟨false, false⟩
    nssRxInterfaceHandlers := fun _ => false
    linearizes := true, pulls := true, txBusy := false }

def linearSkb : Skb := ⟨0, 0, 0, 0, [], .empty, none, ⟨0, 0, 0⟩⟩
end NssDrv.ReceiveStream

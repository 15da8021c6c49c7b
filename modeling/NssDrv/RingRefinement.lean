import NssDrv.FifoQueue
import NssDrv.ProducerRuns
import NssDrv.ReceiveQueue

set_option autoImplicit false

/-!
# The descriptor rings as bounded queues

The circular array with its two indexes behaves as a first-in first-out queue
of `size - 1` descriptors: in the H2N direction under all producers of a core,
in the N2H direction under the serving handler.
-/
namespace NssDrv.RingRefinement
open HlosInterface SharedThread CyclicIndex ThreadPool TransitionRuns FifoQueue
open DescriptorRing RingLocking TransmitApi EmptyBufferRefill RingProducers ProducerRuns

section H2n

def waiting (r : H2nRing) : List H2nDescriptor :=
  window r.desc r.size.toNat r.nssIndexMap.toNat r.outstanding

/-- The acts on the queue that a step of the ring amounts to: a publication
    enters the descriptors of the new log entries, the NSS leaves with the
    contents of the slots it passes. -/
inductive H2nShows : H2nRing → List (Act H2nDescriptor) → H2nRing → Prop where
  | aside (r r' : H2nRing) (log : r'.log = r.log) (consumed : r'.consumed = r.consumed) :
      H2nShows r [] r'
  | publish (r r' : H2nRing) (entries : List Enqueued) (log : r'.log = r.log ++ entries)
      (consumed : r'.consumed = r.consumed) :
      H2nShows r [.enter (entries.flatMap Enqueued.descs)] r'
  | take (r : H2nRing) (d : ℕ) (some : d ≤ r.outstanding) :
      H2nShows r [.leave (window r.desc r.size.toNat r.nssIndexMap.toNat d)] (r.consume d)

variable {cpu q : ℕ} {r r' : H2nRing} {as : List (Act H2nDescriptor)}

theorem waiting_eq (h : RingOk r) : waiting r = r.published.drop r.consumed := h.contents

theorem length_waiting (r : H2nRing) : (waiting r).length = r.outstanding := length_window

theorem H2nShows.simulates (h : RingOk r) (h' : RingOk r') (hsize : r'.size = r.size)
    (hs : H2nShows r as r') :
    Run (FifoQueue.Step (r.size.toNat - 1)) (waiting r) as (waiting r') := by
  cases hs with
  | aside r' log consumed =>
    have heq : waiting r' = waiting r := by
      rw [waiting_eq h', waiting_eq h, H2nRing.published, log, consumed]
      rfl
    rw [heq]
    exact .refl _
  | publish r' entries log consumed =>
    have hcount := h.count
    have hpub : r'.published = r.published ++ entries.flatMap Enqueued.descs := by
      rw [H2nRing.published, log, List.flatMap_append]
      rfl
    have heq : waiting r' = waiting r ++ entries.flatMap Enqueued.descs := by
      rw [waiting_eq h', waiting_eq h, hpub, consumed, List.drop_append_of_le_length (by omega)]
    have hroom := h'.room
    have hlen := congrArg List.length heq
    rw [length_waiting, List.length_append] at hlen
    rw [hsize] at hroom
    rw [heq]
    exact .single (.enter _ _ (by omega))
  | take d some =>
    have heq : waiting r = window r.desc r.size.toNat r.nssIndexMap.toNat d ++
        waiting (r.consume d) := by
      rw [waiting, waiting, NssTakes.index_toNat h, NssTakes.outstanding_eq h some]
      change _ = _ ++ window r.desc r.size.toNat _ (r.outstanding - d)
      rw [← window_add, Nat.add_sub_cancel' some]
    rw [heq]
    exact .single (.leave _ _)

theorem H2nShows.published (hs : H2nShows r as r') :
    r'.published = r.published ++ entered as := by
  cases hs with
  | aside r' log consumed =>
    rw [H2nRing.published, log]
    simp [H2nRing.published]
  | publish r' entries log consumed =>
    rw [H2nRing.published, log, List.flatMap_append, entered_enter]
    rfl
  | take d some => simp [H2nRing.published, H2nRing.consume]

theorem RingMove.shows (h : RingSound q r) (hm : RingMove cpu q r r') :
    r'.size = r.size ∧ ∃ as, H2nShows r as r' := by
  have hserial := (hm.serialised h).2
  have hkept : r'.size = r.size ∧ r'.consumed = r.consumed := by
    by_cases hq : q = NSS_IF_EMPTY_BUFFER_QUEUE
    · rcases hm.empty hq with rfl | ⟨_, hp⟩
      · exact ⟨rfl, rfl⟩
      · exact ⟨hp.size_eq, hp.consumed_eq⟩
    · exact ⟨(hm.locked hq).size_eq, (hm.locked hq).consumed_eq⟩
  refine ⟨hkept.1, ?_⟩
  rcases hserial.moved with ⟨_, hlog⟩ | ⟨entries, hlog, _, _⟩
  · exact ⟨_, .aside r r' hlog hkept.2⟩
  · exact ⟨_, .publish r r' entries hlog hkept.2⟩

theorem NssTakes.shows (ht : NssTakes r r') : r'.size = r.size ∧ ∃ as, H2nShows r as r' := by
  obtain ⟨d, hd, rfl⟩ := ht
  exact ⟨rfl, _, .take r d hd⟩

/-- A step of the pool that leaves no interface bounce behind. -/
def QuietStep (c : ProducerPool) (l : Label ℕ NssCtx Report) (c' : ProducerPool) : Prop :=
  ProducerStep c l c' ∧ Unbounced c'.shared

theorem step_unbounced {c c' : ProducerPool} {l : Label ℕ NssCtx Report}
    (h : Reachable (Idle FreshCore) ProducerStep c) (hs : ProducerStep c l c')
    (hA : Unbounced c'.shared) : Unbounced c.shared := by
  rcases producers_discipline.shared (producers_onTrack h) hs with ⟨cpu, _, hg⟩ | ⟨_, he⟩ | heq
  · exact (hg hA).1
  · exact he.bounces.symm.trans hA
  · rw [← heq]
    exact hA

theorem run_quiet {c c' : ProducerPool} {ls : List (Label ℕ NssCtx Report)}
    (h : Reachable (Idle FreshCore) ProducerStep c) (run : Run ProducerStep c ls c')
    (hA : Unbounced c'.shared) : Run QuietStep c ls c' := by
  induction run with
  | refl => exact .refl _
  | snoc run last ih =>
    have hbefore := step_unbounced (h.run run) last hA
    exact (ih hbefore).snoc ⟨last, hA⟩

/-- A reachable pool before the first interface bounce, with the size of ring `q`. -/
structure Sound (q : ℕ) (size : U16) (c : ProducerPool) : Prop where
  reachable : Reachable (Idle FreshCore) ProducerStep c
  unbounced : Unbounced c.shared
  size_eq : (c.shared.ring q).size = size

theorem quietStep_shows {size : U16} {c c' : ProducerPool} {l : Label ℕ NssCtx Report}
    (h : Sound q size c) (hs : QuietStep c l c') :
    (c'.shared.ring q).size = (c.shared.ring q).size ∧
      ∃ as, H2nShows (c.shared.ring q) as (c'.shared.ring q) := by
  have hsound := producers_sound h.reachable h.unbounced q
  rcases producers_discipline.shared (producers_onTrack h.reachable) hs.1 with
    ⟨cpu, _, hg⟩ | ⟨_, he⟩ | heq
  · exact RingMove.shows hsound ((hg hs.2).2.rings q)
  · rcases he.rings q with heq | ht
    · rw [heq]
      exact ⟨rfl, _, .aside _ _ rfl rfl⟩
    · exact NssTakes.shows ht
  · rw [heq]
    exact ⟨rfl, _, .aside _ _ rfl rfl⟩

theorem h2n_refines (q : ℕ) (size : U16) :
    Refines (size.toNat - 1) QuietStep
      (fun c as c' => H2nShows (c.shared.ring q) as (c'.shared.ring q))
      (fun c => waiting (c.shared.ring q)) (Sound q size) where
  keeps c l c' h hs :=
    ⟨h.reachable.next hs.1, hs.2, (quietStep_shows h hs).1.trans h.size_eq⟩
  seen c l c' h hs := (quietStep_shows h hs).2
  simulates c as c' h h' hs := by
    have hok := (producers_sound h.reachable h.unbounced q).1
    have hok' := (producers_sound h'.reachable h'.unbounced q).1
    have hrun := hs.simulates hok hok' (h'.size_eq.trans h.size_eq.symm)
    rwa [h.size_eq] at hrun

theorem fresh_empty {c : NssCtx} (h : FreshCore c) :
    waiting (c.ring q) = [] ∧ (c.ring q).published = [] := by
  have hlog : (c.ring q).log = [] := (h.rings q).log
  have hpub : (c.ring q).published = [] := by rw [H2nRing.published, hlog, List.flatMap_nil]
  refine ⟨?_, hpub⟩
  rw [waiting_eq (h.sound q).1, hpub, List.drop_nil]

/-- Under the refill, every transmit function on any number of CPUs and the
    NSS, in any interleaving up to the first interface bounce that finds a
    registrant, each ring is a queue of `size - 1` descriptors: what the NSS
    finds in the slots it passes is what was published, once each and in the
    order of publication, and what it has not passed is what waits. -/
theorem h2n_rings_are_queues {c c' : ProducerPool} {ls : List (Label ℕ NssCtx Report)}
    (start : Idle FreshCore c) (run : Run ProducerStep c ls c') (hA : Unbounced c'.shared) (q : ℕ) :
    ∃ as, Shown QuietStep (fun c as c' => H2nShows (c.shared.ring q) as (c'.shared.ring q))
        c ls as c' ∧
      Run (FifoQueue.Step ((c.shared.ring q).size.toNat - 1)) [] as (waiting (c'.shared.ring q)) ∧
      entered as = (c'.shared.ring q).published ∧
      left as ++ waiting (c'.shared.ring q) = (c'.shared.ring q).published ∧
      (waiting (c'.shared.ring q)).length ≤ (c.shared.ring q).size.toNat - 1 := by
  have hreach : Reachable (Idle FreshCore) ProducerStep c := .start start
  have hquiet := run_quiet hreach run hA
  have hfresh := fresh_empty (q := q) start.1
  have hsound : Sound q (c.shared.ring q).size c := ⟨hreach, start.1.bounces, rfl⟩
  obtain ⟨as, hshown, hqueue⟩ := (h2n_refines q (c.shared.ring q).size).run hquiet hsound
  have hentered := hshown.sum (f := entered) rfl (fun _ _ => entered_append)
    (g := fun c => (c.shared.ring q).published) fun _ _ _ hs => hs.published
  simp only [hfresh.1, hfresh.2, List.nil_append] at hqueue hentered
  have hall := conserved hqueue
  rw [List.nil_append] at hall
  refine ⟨as, hshown, hqueue, hentered.symm, ?_, bounded hqueue (Nat.zero_le _)⟩
  rw [hentered, hall]

/-- Two packets go out while a buffer is handed over, and the NSS has taken none. -/
theorem h2n_rings_are_queues_contended : ∃ c as,
    freshPool.follow (refillBegun ++ twoSends ++ refillEnds) = some c ∧
      Run (FifoQueue.Step 3) [] as (waiting (c.shared.ring 1)) ∧
      entered as = (c.shared.ring 1).published ∧ (c.shared.ring 1).published.length = 2 := by
  obtain ⟨c, hc⟩ : ∃ c, freshPool.follow (refillBegun ++ twoSends ++ refillEnds) = some c :=
    ⟨_, rfl⟩
  have hfollow := Pool.follow_run (contended_allowed (E := Outsider)) hc
  have hend : Unbounced c.shared ∧ (c.shared.ring 1).published.length = 2 := by
    obtain rfl := Option.some.inj hc
    exact ⟨rfl, rfl⟩
  obtain ⟨as, _, hqueue, hentered, _⟩ := h2n_rings_are_queues freshPool_idle hfollow hend.1 1
  exact ⟨c, as, hc, hqueue, hentered, hend.2⟩

end H2n

section N2h
open ReceiveQueue

/-- What the NSS has handed over and the host has not yet processed, slot by
    slot; the slots before it are processed and not yet given back. -/
def unserved (r : N2hRing) : List N2hDescriptor :=
  window r.desc r.size.toNat
    (advance r.size.toNat r.hlosIndexMap.toNat (r.processed.length - r.taken))
    (r.available - (r.processed.length - r.taken))

/-- The NSS enters the slots it moves its index over, the host leaves with the
    descriptor it has processed. -/
inductive N2hShows : N2hRing → List (Act N2hDescriptor) → N2hRing → Prop where
  | aside (r r' : N2hRing) (produced : r'.produced = r.produced)
      (processed : r'.processed = r.processed) : N2hShows r [] r'
  | produce (r : N2hRing) (d : ℕ) (room : r.available + d < r.size.toNat) :
      N2hShows r [.enter (window r.desc r.size.toNat r.nssIndexMap.toNat d)] (r.produce d)
  | process (r : N2hRing) (d : N2hDescriptor)
      (next : r.produced[r.processed.length]? = some d) : N2hShows r [.leave [d]] (r.process d)

variable {ω : Type} (body : N2hDescriptor → ω → ω) {r r' : N2hRing} {as : List (Act N2hDescriptor)}

theorem unserved_eq (h : QueueOk r) : unserved r = r.produced.drop r.processed.length := by
  have hcount := h.count
  have htaken := h.taken_le
  have hlen := h.inOrder.length_le
  rw [unserved, ← drop_window (by omega), h.contents, List.drop_drop]
  congr 1
  omega

theorem length_unserved_le (h : QueueOk r) : (unserved r).length ≤ r.size.toNat - 1 := by
  have hlt := h.available_lt
  rw [unserved, length_window]
  omega

theorem N2hShows.simulates (h : QueueOk r) (h' : QueueOk r') (hs : N2hShows r as r') :
    Run (FifoQueue.Step (r.size.toNat - 1)) (unserved r) as (unserved r') := by
  cases hs with
  | aside r' produced processed =>
    rw [unserved_eq h', unserved_eq h, produced, processed]
    exact .refl _
  | produce d room =>
    have heq : unserved (r.produce d) =
        unserved r ++ window r.desc r.size.toNat r.nssIndexMap.toNat d := by
      rw [unserved_eq h', unserved_eq h]
      exact List.drop_append_of_le_length h.inOrder.length_le
    have hlen := congrArg List.length heq
    have hle : (unserved (r.produce d)).length ≤ r.size.toNat - 1 := length_unserved_le h'
    rw [List.length_append] at hlen
    rw [heq]
    exact .single (.enter _ _ (by omega))
  | process d next =>
    have heq : unserved r = [d] ++ unserved (r.process d) := by
      rw [unserved_eq h', unserved_eq h]
      change _ = [d] ++ r.produced.drop (r.processed ++ [d]).length
      obtain ⟨hlt, hget⟩ := List.getElem?_eq_some_iff.mp next
      rw [List.length_append, List.drop_eq_getElem_cons hlt, hget]
      rfl
    rw [heq]
    exact .single (.leave _ _)

theorem NssProduces.shows (hp : NssProduces r r') : ∃ as, N2hShows r as r' := by
  cases hp with
  | write j d free => exact ⟨_, .aside r _ rfl rfl⟩
  | produce d room => exact ⟨_, .produce r d room⟩

theorem HostAct.shows (ha : HostAct r r') : r'.size = r.size ∧ ∃ as, N2hShows r as r' := by
  cases ha with
  | process settled d next => exact ⟨rfl, _, .process r d next⟩
  | idle => exact ⟨rfl, _, .aside r _ rfl rfl⟩
  | enter => exact ⟨rfl, _, .aside r _ rfl rfl⟩
  | fetch => exact ⟨rfl, _, .aside r _ rfl rfl⟩
  | setIndex => exact ⟨rfl, _, .aside r _ rfl rfl⟩
  | giveBack => exact ⟨rfl, _, .aside r _ rfl rfl⟩

theorem queueStep_shows {c c' : QueuePool ω} {l : Label Unit (N2hPort ω) U16}
    (h : Reachable (Idle Empty) (QueueStep body) c) (hs : QueueStep body c l c') :
    c'.shared.ring.size = c.shared.ring.size ∧ ∃ as, N2hShows c.shared.ring as c'.shared.ring := by
  rcases (queue_discipline body).shared (queue_onTrack body h) hs with
    ⟨_, _, ha⟩ | ⟨_, he⟩ | heq
  · exact HostAct.shows ha
  · exact ⟨he.rely.size, NssProduces.shows he⟩
  · rw [heq]
    exact ⟨rfl, _, .aside _ _ rfl rfl⟩

theorem n2h_refines (size : U16) :
    Refines (size.toNat - 1) (QueueStep body)
      (fun c as c' => N2hShows c.shared.ring as c'.shared.ring) (fun c => unserved c.shared.ring)
      fun c => Reachable (Idle Empty) (QueueStep body) c ∧ c.shared.ring.size = size where
  keeps c l c' h hs := ⟨h.1.next hs, (queueStep_shows body h.1 hs).1.trans h.2⟩
  seen c l c' h hs := (queueStep_shows body h.1 hs).2
  simulates c as c' h h' hs := by
    have hrun := hs.simulates (queue_ok body h.1).1 (queue_ok body h'.1).1
    rwa [h.2] at hrun

theorem N2hShows.produced (hs : N2hShows r as r') : r'.produced = r.produced ++ entered as := by
  cases hs with
  | aside r' produced processed => simp [produced]
  | produce d room => simp [N2hRing.produce]
  | process d next => simp [N2hRing.process]

theorem N2hShows.processed (hs : N2hShows r as r') : r'.processed = r.processed ++ left as := by
  cases hs with
  | aside r' produced processed => simp [processed]
  | produce d room => simp [N2hRing.produce]
  | process d next => simp [N2hRing.process]

/-- Whatever the interleaving of handler calls with an NSS that writes slots
    and moves its index, the ring is a queue of `size - 1` descriptors: the
    handler processes what the NSS handed over, once each and in that order,
    and what it has not processed stands in the slots from there on. -/
theorem n2h_ring_is_queue {c c' : QueuePool ω} {ls : List (Label Unit (N2hPort ω) U16)}
    (start : Idle Empty c) (run : Run (QueueStep body) c ls c') :
    ∃ as, Shown (QueueStep body) (fun c as c' => N2hShows c.shared.ring as c'.shared.ring)
        c ls as c' ∧
      Run (FifoQueue.Step (c.shared.ring.size.toNat - 1)) [] as (unserved c'.shared.ring) ∧
      entered as = c'.shared.ring.produced ∧ left as = c'.shared.ring.processed ∧
      c'.shared.ring.processed ++ unserved c'.shared.ring = c'.shared.ring.produced ∧
      (unserved c'.shared.ring).length ≤ c.shared.ring.size.toNat - 1 := by
  have hreach : Reachable (Idle Empty) (QueueStep body) c := .start start
  have hempty : unserved c.shared.ring = [] := by
    rw [unserved_eq start.1.resting.toQueueOk, start.1.produced, List.drop_nil]
  obtain ⟨as, hshown, hqueue⟩ :=
    (n2h_refines body c.shared.ring.size).run run ⟨hreach, rfl⟩
  have hentered := hshown.sum (f := entered) rfl (fun _ _ => entered_append)
    (g := fun c => c.shared.ring.produced) fun _ _ _ hs => hs.produced
  have hleft := hshown.sum (f := left) rfl (fun _ _ => left_append)
    (g := fun c => c.shared.ring.processed) fun _ _ _ hs => hs.processed
  simp only [hempty, start.1.produced, start.1.processed, List.nil_append] at hqueue hentered hleft
  have hall := conserved hqueue
  rw [List.nil_append] at hall
  refine ⟨as, hshown, hqueue, hentered.symm, hleft.symm, ?_, bounded hqueue (Nat.zero_le _)⟩
  rw [hentered, hleft, hall]

/-- Two descriptors handed over, one of them served. -/
theorem n2h_ring_is_queue_one : ∃ c as, producedTwo.follow serveOne = some c ∧
    Run (FifoQueue.Step 3) [] as (unserved c.shared.ring) ∧ entered as = c.shared.ring.produced ∧
      left as = c.shared.ring.processed ∧ c.shared.ring.processed.length = 1 := by
  have hallowed : ∀ o ∈ serveOne, o.Allowed (CauseQueueCall fun _ _ => ()) NssStep := by
    intro o ho
    simp only [serveOne, List.mem_cons, List.mem_replicate] at ho
    rcases ho with rfl | ⟨_, rfl⟩
    · exact .call 1 (by decide)
    · trivial
  obtain ⟨c, hc⟩ : ∃ c, producedTwo.follow serveOne = some c := ⟨_, rfl⟩
  have hstep : QueueStep (fun _ _ => ()) idleQueue .env producedTwo :=
    .env (.produce (emptyN2hRing 4) 2 (by decide))
  have hfollow := Run.cons hstep (Pool.follow_run hallowed hc)
  obtain ⟨as, _, hqueue, hentered, hleft, _⟩ :=
    n2h_ring_is_queue (fun _ _ => ()) idleQueue_idle hfollow
  refine ⟨c, as, hc, hqueue, hentered, hleft, ?_⟩
  obtain rfl := Option.some.inj hc
  rfl

end N2h
end NssDrv.RingRefinement

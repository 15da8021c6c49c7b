import NssDrv.DescriptorRing

set_option autoImplicit false

/-!
# The ring lock

What a sender does to a ring in one access when it works under the ring lock,
and what the other senders may therefore count on.
-/
namespace NssDrv.RingLocking
open HlosInterface DescriptorRing CyclicIndex

def sentBy (cpu : ℕ) (r : H2nRing) : List Enqueued := r.log.filter fun e => e.cpu = cpu

theorem sentBy_publish (cpu : ℕ) (r : H2nRing) (i : U32) (entries : List Enqueued)
    (h : ∀ e ∈ entries, e.cpu = cpu) :
    sentBy cpu (r.publish i entries) = sentBy cpu r ++ entries := by
  have hall : entries.filter (fun e => e.cpu = cpu) = entries := by
    rw [List.filter_eq_self]
    intro e he
    simpa using h e he
  rw [sentBy, H2nRing.publish, List.filter_append, hall]
  rfl

/-- Nobody else produced, and the NSS only took descriptors. -/
structure Undisturbed (r r' : H2nRing) : Prop where
  index : r'.hlosIndex = r.hlosIndex
  map : r'.hlosIndexMap = r.hlosIndexMap
  pending : r'.pending = r.pending
  outstanding : r'.outstanding ≤ r.outstanding

/-- A producer that has the ring to itself, has published nothing yet, has
    filled `ds` from slot `start` on and may fill up to `most`. -/
structure Producing (cpu : ℕ) (size : U16) (start most : ℕ) (sent : List Enqueued)
    (ds : List H2nDescriptor) (r : H2nRing) : Prop extends RingOk r where
  size_eq : r.size = size
  start_eq : r.hlosIndexMap.toNat = start
  index_eq : r.hlosIndex = r.hlosIndexMap
  fits : r.outstanding + most < size.toNat
  sent_eq : sentBy cpu r = sent
  pending_eq : r.pending = ds

namespace Producing
variable {cpu : ℕ} {size : U16} {start most : ℕ} {sent : List Enqueued} {ds : List H2nDescriptor}
  {r r' : H2nRing}

theorem wrote_eq (h : Producing cpu size start most sent ds r) : r.wrote = ds.length := by
  rw [← h.pending_eq, H2nRing.length_pending]

theorem slot_eq (h : Producing cpu size start most sent ds r) (e : ℕ) :
    advance size.toNat start e = advance r.size.toNat r.hlosIndexMap.toNat e := by
  rw [h.start_eq, h.size_eq]

theorem undisturbed (h : Producing cpu size start most sent ds r) (ok : RingOk r')
    (hsize : r'.size = r.size) (hsent : sentBy cpu r' = sentBy cpu r) (hu : Undisturbed r r') :
    Producing cpu size start most sent ds r' := by
  have hfits := h.fits
  have hout := hu.outstanding
  exact
    { ok with
      size_eq := hsize.trans h.size_eq
      start_eq := by rw [hu.map, h.start_eq]
      index_eq := by rw [hu.index, hu.map, h.index_eq]
      fits := by omega
      sent_eq := hsent.trans h.sent_eq
      pending_eq := hu.pending.trans h.pending_eq }

theorem fill (h : Producing cpu size start most sent ds r) {idx : ℕ} (d : H2nDescriptor)
    (hidx : idx = advance size.toNat start ds.length) (hlen : ds.length < most) :
    Produces cpu r (r.fill idx d) ∧
      Producing cpu size start most sent (ds ++ [d]) (r.fill idx d) := by
  have hfits := h.fits
  have hsize : r.size.toNat = size.toNat := by rw [h.size_eq]
  obtain rfl : idx = advance r.size.toNat r.hlosIndexMap.toNat r.wrote := by
    rw [hidx, h.slot_eq, h.wrote_eq]
  have hact : Produces cpu r (r.fill (advance r.size.toNat r.hlosIndexMap.toNat r.wrote) d) :=
    .fill r d (by rw [h.wrote_eq]; omega)
  refine ⟨hact, { hact.ringOk h.toRingOk with
    size_eq := h.size_eq, start_eq := h.start_eq, index_eq := h.index_eq, fits := h.fits,
    sent_eq := h.sent_eq, pending_eq := ?_ }⟩
  rw [h.toRingOk.pending_fill, h.pending_eq]

theorem amend (h : Producing cpu size start most sent ds r) {idx e : ℕ} {d : H2nDescriptor}
    (f : H2nDescriptor → H2nDescriptor) (hidx : idx = advance size.toNat start e)
    (hd : ds[e]? = some d) :
    Produces cpu r (r.amend idx f) ∧
      Producing cpu size start most sent (ds.set e (f d)) (r.amend idx f) := by
  have hroom := h.room
  have he : e < r.wrote := by
    rw [h.wrote_eq]
    exact (List.getElem?_eq_some_iff.mp hd).1
  obtain rfl : idx = advance r.size.toNat r.hlosIndexMap.toNat e := by rw [hidx, h.slot_eq]
  have hact : Produces cpu r (r.amend (advance r.size.toNat r.hlosIndexMap.toNat e) f) :=
    .amend r e f (by omega)
  refine ⟨hact, { hact.ringOk h.toRingOk with
    size_eq := h.size_eq, start_eq := h.start_eq, index_eq := h.index_eq, fits := h.fits,
    sent_eq := h.sent_eq, pending_eq := ?_ }⟩
  have hold := h.toRingOk.pending_get he
  rw [h.pending_eq, hd] at hold
  rw [h.toRingOk.pending_amend he, h.pending_eq, Option.some.inj hold]

theorem prepare (h : Producing cpu size start most sent ds r) {idx : ℕ}
    (f : H2nDescriptor → H2nDescriptor) (hidx : idx = advance size.toNat start ds.length)
    (hlen : ds.length < most) :
    Produces cpu r (r.amend idx f) ∧ Producing cpu size start most sent ds (r.amend idx f) := by
  have hfits := h.fits
  have hwrote := h.wrote_eq
  have hsize : r.size.toNat = size.toNat := by rw [h.size_eq]
  obtain rfl : idx = advance r.size.toNat r.hlosIndexMap.toNat r.wrote := by
    rw [hidx, h.slot_eq, hwrote]
  have hact : Produces cpu r (r.amend (advance r.size.toNat r.hlosIndexMap.toNat r.wrote) f) :=
    .amend r r.wrote f (by omega)
  refine ⟨hact, { hact.ringOk h.toRingOk with
    size_eq := h.size_eq, start_eq := h.start_eq, index_eq := h.index_eq, fits := h.fits,
    sent_eq := h.sent_eq, pending_eq := ?_ }⟩
  rw [← h.pending_eq]
  refine window_update fun e he heq => ?_
  change e < r.wrote at he
  have hinj : e = r.wrote := advance_inj h.hlos (by omega) (by omega) heq
  omega

end Producing

structure Indexed (cpu : ℕ) (size : U16) (sent : List Enqueued) (ds : List H2nDescriptor)
    (next : U32) (r : H2nRing) : Prop extends RingOk r where
  size_eq : r.size = size
  index_eq : r.hlosIndex = next
  next_eq : next.toNat = advance r.size.toNat r.hlosIndexMap.toNat r.wrote
  sent_eq : sentBy cpu r = sent
  pending_eq : r.pending = ds

structure Settled (cpu : ℕ) (size : U16) (sent : List Enqueued) (r : H2nRing) : Prop
    extends RingOk r where
  size_eq : r.size = size
  index_eq : r.hlosIndex = r.hlosIndexMap
  sent_eq : sentBy cpu r = sent

namespace Indexed
variable {cpu : ℕ} {size : U16} {sent : List Enqueued} {ds : List H2nDescriptor} {next : U32}
  {start most : ℕ} {r r' : H2nRing}

theorem of_setIndex (h : Producing cpu size start most sent ds r)
    (hnext : next.toNat = advance size.toNat start ds.length) :
    Produces cpu r (r.setHlosIndex next) ∧ Indexed cpu size sent ds next (r.setHlosIndex next) := by
  have hact : Produces cpu r (r.setHlosIndex next) := .setIndex r next
  refine ⟨hact, { hact.ringOk h.toRingOk with
    size_eq := h.size_eq, index_eq := rfl, next_eq := ?_, sent_eq := h.sent_eq,
    pending_eq := h.pending_eq }⟩
  rw [hnext, h.slot_eq, ← h.wrote_eq]
  rfl

theorem undisturbed (h : Indexed cpu size sent ds next r) (ok : RingOk r')
    (hsize : r'.size = r.size) (hsent : sentBy cpu r' = sentBy cpu r) (hu : Undisturbed r r') :
    Indexed cpu size sent ds next r' := by
  have hwrote : r'.wrote = r.wrote := by
    rw [← r'.length_pending, hu.pending, r.length_pending]
  exact
    { ok with
      size_eq := hsize.trans h.size_eq
      index_eq := hu.index.trans h.index_eq
      next_eq := by rw [hsize, hu.map, hwrote, h.next_eq]
      sent_eq := hsent.trans h.sent_eq
      pending_eq := hu.pending.trans h.pending_eq }

theorem publish (h : Indexed cpu size sent ds next r) (entries : List Enqueued)
    (hmine : ∀ e ∈ entries, e.cpu = cpu) (hall : entries.flatMap Enqueued.descs = ds) :
    Produces cpu r (r.publish next entries) ∧
      Settled cpu size (sent ++ entries) (r.publish next entries) := by
  have hact : Produces cpu r (r.publish next entries) :=
    .publish r next entries h.next_eq hmine (hall.trans h.pending_eq.symm)
  refine ⟨hact, { hact.ringOk h.toRingOk with
    size_eq := h.size_eq, index_eq := h.index_eq, sent_eq := ?_ }⟩
  rw [sentBy_publish cpu r next entries hmine, h.sent_eq]

end Indexed

theorem Settled.undisturbed {cpu : ℕ} {size : U16} {sent : List Enqueued} {r r' : H2nRing}
    (h : Settled cpu size sent r) (ok : RingOk r') (hsize : r'.size = r.size)
    (hsent : sentBy cpu r' = sentBy cpu r) (hu : Undisturbed r r') :
    Settled cpu size sent r' :=
  { ok with
    size_eq := hsize.trans h.size_eq
    index_eq := by rw [hu.index, hu.map, h.index_eq]
    sent_eq := hsent.trans h.sent_eq }

/-- A ring shared under its lock: outside critical sections the two copies of
    the index agree. -/
structure SharedOk (r : H2nRing) : Prop extends RingOk r where
  settled : r.lock = none → r.hlosIndex = r.hlosIndexMap

inductive LockedAct (cpu : ℕ) : H2nRing → H2nRing → Prop where
  | idle (r : H2nRing) : LockedAct cpu r r
  | acquire (r : H2nRing) (free : r.lock = none) : LockedAct cpu r (r.acquire cpu)
  | produce {r r' : H2nRing} (held : r.lock = some cpu) (act : Produces cpu r r')
      (single : r'.log.length ≤ r.log.length + 1) : LockedAct cpu r r'
  | stop (r : H2nRing) (held : r.lock = some cpu) : LockedAct cpu r r.stopTx
  | release (r : H2nRing) (held : r.lock = some cpu) (settled : r.hlosIndex = r.hlosIndexMap) :
      LockedAct cpu r r.release

namespace LockedAct
variable {cpu other : ℕ} {r r' : H2nRing}

theorem sharedOk (h : SharedOk r) (ha : LockedAct cpu r r') : SharedOk r' := by
  cases ha with
  | idle => exact h
  | acquire free =>
    have hroom := h.room
    refine ⟨⟨h.pow, h.nss, h.hlos, ?_, h.count, h.contents⟩, ?_⟩
    · change r.outstanding + 0 < r.size.toNat
      omega
    · intro hlock
      cases hlock
  | produce held act single =>
    refine ⟨act.ringOk h.toRingOk, ?_⟩
    rw [act.lock_eq, held]
    intro hlock
    cases hlock
  | stop held => exact ⟨⟨h.pow, h.nss, h.hlos, h.room, h.count, h.contents⟩, h.settled⟩
  | release held settled =>
    exact ⟨⟨h.pow, h.nss, h.hlos, h.room, h.count, h.contents⟩, fun _ => settled⟩

theorem owned_unchanged (h : SharedOk r) (ha : LockedAct cpu r r') {j : ℕ} (hj : r.Owned j) :
    r'.desc j = r.desc j := by
  cases ha with
  | idle => rfl
  | acquire => rfl
  | produce held act single => exact act.owned_unchanged h.toRingOk hj
  | stop => rfl
  | release => rfl

theorem size_eq (ha : LockedAct cpu r r') : r'.size = r.size := by
  cases ha with
  | produce held act single => exact act.size_eq
  | _ => rfl

theorem consumed_eq (ha : LockedAct cpu r r') : r'.consumed = r.consumed := by
  cases ha with
  | produce held act single => exact act.consumed_eq
  | _ => rfl

theorem index_log (h : SharedOk r) (ha : LockedAct cpu r r') :
    r'.hlosIndexMap.toNat = r.hlosIndexMap.toNat ∧ r'.log = r.log ∨
      ∃ e, r'.log = r.log ++ [e] ∧ e.cpu = cpu ∧ e.descs = r.pending ∧
        r'.hlosIndexMap.toNat = advance r.size.toNat r.hlosIndexMap.toNat r.wrote := by
  cases ha with
  | produce held act single =>
    rcases act.index_log with ⟨hmap, hlog⟩ | ⟨entries, hlog, hcpu, hall, hmap⟩
    · exact .inl ⟨by rw [hmap], hlog⟩
    · have hlen : entries.length ≤ 1 := by
        rw [hlog, List.length_append] at single
        omega
      match entries, hlen with
      | [], _ =>
        have hwrote : r.wrote = 0 := by rw [← r.length_pending, ← hall]; rfl
        refine .inl ⟨?_, by rw [hlog, List.append_nil]⟩
        rw [hmap, hwrote, advance_zero h.hlos]
      | [e], _ => exact .inr ⟨e, hlog, hcpu e (by simp), by simpa using hall, hmap⟩
  | _ => exact .inl ⟨rfl, rfl⟩

theorem sentBy_other (h : SharedOk r) (ha : LockedAct other r r') (hne : other ≠ cpu) :
    sentBy cpu r' = sentBy cpu r := by
  rcases ha.index_log h with ⟨_, hlog⟩ | ⟨e, hlog, hcpu, _⟩
  · rw [sentBy, hlog, sentBy]
  · have hcpu' : e.cpu ≠ cpu := hcpu ▸ hne
    simp [sentBy, hlog, List.filter_append, hcpu']

theorem lock_other (ha : LockedAct other r r') (hne : other ≠ cpu) :
    r'.lock = some cpu ↔ r.lock = some cpu := by
  have hne' : some other ≠ some cpu := fun h => hne (Option.some.inj h)
  cases ha with
  | idle => rfl
  | acquire free =>
    change some other = some cpu ↔ _
    rw [free]
    exact ⟨fun h => (hne' h).elim, fun h => by cases h⟩
  | produce held act single => rw [act.lock_eq]
  | stop held => rfl
  | release held settled =>
    change none = some cpu ↔ _
    rw [held]
    exact ⟨fun h => (by cases h), fun h => (hne' h).elim⟩

theorem held_other (ha : LockedAct other r r') (hne : other ≠ cpu) (held : r.lock = some cpu) :
    r' = r := by
  have hne' : r.lock ≠ some other := by
    rw [held]
    exact fun h => hne (Option.some.inj h).symm
  cases ha with
  | idle => rfl
  | acquire free => rw [free] at held; cases held
  | produce held' act single => exact (hne' held').elim
  | stop held' => exact (hne' held').elim
  | release held' => exact (hne' held').elim

end LockedAct

/-- What sender `cpu` may count on at every step that is not its own. -/
structure RingRely (cpu : ℕ) (r r' : H2nRing) : Prop where
  size : r'.size = r.size
  ok : SharedOk r → SharedOk r'
  lock : r'.lock = some cpu ↔ r.lock = some cpu
  sent : SharedOk r → sentBy cpu r' = sentBy cpu r
  held : r.lock = some cpu → SharedOk r → Undisturbed r r'

theorem LockedAct.rely {cpu other : ℕ} {r r' : H2nRing} (ha : LockedAct other r r')
    (hne : other ≠ cpu) : RingRely cpu r r' where
  size := ha.size_eq
  ok h := ha.sharedOk h
  lock := ha.lock_other hne
  sent h := ha.sentBy_other h hne
  held hl _ := by
    obtain rfl := ha.held_other hne hl
    exact ⟨rfl, rfl, rfl, le_rfl⟩

theorem NssTakes.sharedOk {r r' : H2nRing} (h : SharedOk r) (ht : NssTakes r r') : SharedOk r' := by
  refine ⟨ht.ringOk h.toRingOk, ?_⟩
  obtain ⟨d, _, rfl⟩ := ht
  exact h.settled

theorem NssTakes.rely {cpu : ℕ} {r r' : H2nRing} (ht : NssTakes r r') : RingRely cpu r r' := by
  obtain ⟨d, hd, rfl⟩ := ht
  refine ⟨rfl, fun h => NssTakes.sharedOk h ⟨d, hd, rfl⟩, .rfl, fun _ => rfl, fun _ h => ?_⟩
  refine ⟨rfl, rfl, rfl, ?_⟩
  rw [NssTakes.outstanding_eq h.toRingOk hd]
  omega

/-- Sender `cpu` is outside its critical sections. -/
structure Outside (cpu : ℕ) (size : U16) (sent : List Enqueued) (r : H2nRing) : Prop
    extends SharedOk r where
  lock : r.lock ≠ some cpu
  size_eq : r.size = size
  sent_eq : sentBy cpu r = sent

theorem Outside.rely {cpu : ℕ} {size : U16} {sent : List Enqueued} {r r' : H2nRing}
    (h : Outside cpu size sent r) (hr : RingRely cpu r r') : Outside cpu size sent r' :=
  { hr.ok h.toSharedOk with
    lock := fun hl => h.lock (hr.lock.mp hl)
    size_eq := hr.size.trans h.size_eq
    sent_eq := (hr.sent h.toSharedOk).trans h.sent_eq }

/-- Sender `cpu` is inside its critical section, has published nothing there
    yet, has filled `ds` from slot `start` on and may fill up to `most`. -/
structure Filling (cpu : ℕ) (size : U16) (start most : ℕ) (sent : List Enqueued)
    (ds : List H2nDescriptor) (r : H2nRing) : Prop
    extends Producing cpu size start most sent ds r where
  lock : r.lock = some cpu

theorem SharedOk.of_held {cpu : ℕ} {r : H2nRing} (h : RingOk r) (held : r.lock = some cpu) :
    SharedOk r := by
  refine ⟨h, fun hlock => ?_⟩
  rw [held] at hlock
  cases hlock

namespace Filling
variable {cpu : ℕ} {size : U16} {start most : ℕ} {sent : List Enqueued} {ds : List H2nDescriptor}
  {r r' : H2nRing}

theorem toSharedOk (h : Filling cpu size start most sent ds r) : SharedOk r :=
  .of_held h.toRingOk h.lock

theorem rely (h : Filling cpu size start most sent ds r) (hr : RingRely cpu r r') :
    Filling cpu size start most sent ds r' where
  toProducing := h.toProducing.undisturbed (hr.ok h.toSharedOk).toRingOk hr.size
    (hr.sent h.toSharedOk) (hr.held h.lock h.toSharedOk)
  lock := hr.lock.mpr h.lock

theorem fill (h : Filling cpu size start most sent ds r) {idx : ℕ} (d : H2nDescriptor)
    (hidx : idx = advance size.toNat start ds.length) (hlen : ds.length < most) :
    LockedAct cpu r (r.fill idx d) ∧ Filling cpu size start most sent (ds ++ [d]) (r.fill idx d) := by
  have hfill := h.toProducing.fill d hidx hlen
  exact ⟨.produce h.lock hfill.1 (Nat.le_succ _), hfill.2, h.lock⟩

theorem amend (h : Filling cpu size start most sent ds r) {idx e : ℕ} {d : H2nDescriptor}
    (f : H2nDescriptor → H2nDescriptor) (hidx : idx = advance size.toNat start e)
    (hd : ds[e]? = some d) :
    LockedAct cpu r (r.amend idx f) ∧
      Filling cpu size start most sent (ds.set e (f d)) (r.amend idx f) := by
  have hamend := h.toProducing.amend f hidx hd
  exact ⟨.produce h.lock hamend.1 (Nat.le_succ _), hamend.2, h.lock⟩

theorem of_acquire (h : Outside cpu size sent r) (free : r.lock = none) :
    LockedAct cpu r (r.acquire cpu) ∧
      Filling cpu size r.hlosIndexMap.toNat 0 sent [] (r.acquire cpu) := by
  have hroom := h.room
  have hact : LockedAct cpu r (r.acquire cpu) := .acquire r free
  refine ⟨hact, { (hact.sharedOk h.toSharedOk).toRingOk with
    size_eq := h.size_eq, start_eq := rfl, index_eq := h.settled free, fits := ?_,
    sent_eq := h.sent_eq, pending_eq := rfl }, rfl⟩
  rw [← h.size_eq]
  change r.outstanding + 0 < r.size.toNat
  omega

theorem to_release (h : SharedOk r) (held : r.lock = some cpu) (hindex : r.hlosIndex = r.hlosIndexMap)
    (hsize : r.size = size) (hsent : sentBy cpu r = sent) :
    LockedAct cpu r r.release ∧ Outside cpu size sent r.release := by
  have hact : LockedAct cpu r r.release := .release r held hindex
  refine ⟨hact, { hact.sharedOk h with lock := ?_, size_eq := hsize, sent_eq := hsent }⟩
  intro hl
  cases hl

end Filling

/-- Between the two stores of the index, with the lock. -/
structure Publishing (cpu : ℕ) (size : U16) (sent : List Enqueued) (ds : List H2nDescriptor)
    (next : U32) (r : H2nRing) : Prop extends Indexed cpu size sent ds next r where
  lock : r.lock = some cpu

/-- The index is published, the lock still held. -/
structure Published (cpu : ℕ) (size : U16) (sent : List Enqueued) (r : H2nRing) : Prop
    extends Settled cpu size sent r where
  lock : r.lock = some cpu

namespace Publishing
variable {cpu : ℕ} {size : U16} {sent : List Enqueued} {ds : List H2nDescriptor} {next : U32}
  {start most : ℕ} {r r' : H2nRing}

theorem of_setIndex (h : Filling cpu size start most sent ds r)
    (hnext : next.toNat = advance size.toNat start ds.length) :
    LockedAct cpu r (r.setHlosIndex next) ∧
      Publishing cpu size sent ds next (r.setHlosIndex next) := by
  have hset := Indexed.of_setIndex h.toProducing hnext
  exact ⟨.produce h.lock hset.1 (Nat.le_succ _), hset.2, h.lock⟩

theorem rely (h : Publishing cpu size sent ds next r) (hr : RingRely cpu r r') :
    Publishing cpu size sent ds next r' := by
  have hok : SharedOk r := .of_held h.toRingOk h.lock
  exact ⟨h.toIndexed.undisturbed (hr.ok hok).toRingOk hr.size (hr.sent hok) (hr.held h.lock hok),
    hr.lock.mpr h.lock⟩

theorem publish (h : Publishing cpu size sent ds next r) (cookie : U32) :
    LockedAct cpu r (r.publish next [⟨cpu, cookie, r.pending⟩]) ∧
      Published cpu size (sent ++ [⟨cpu, cookie, ds⟩])
        (r.publish next [⟨cpu, cookie, r.pending⟩]) := by
  have hpub := h.toIndexed.publish [⟨cpu, cookie, ds⟩] (by simp) (by simp)
  rw [← h.pending_eq] at hpub ⊢
  exact ⟨.produce h.lock hpub.1 (by simp [H2nRing.publish]), hpub.2, h.lock⟩

end Publishing

theorem Published.rely {cpu : ℕ} {size : U16} {sent : List Enqueued} {r r' : H2nRing}
    (h : Published cpu size sent r) (hr : RingRely cpu r r') : Published cpu size sent r' := by
  have hok : SharedOk r := .of_held h.toRingOk h.lock
  exact ⟨h.toSettled.undisturbed (hr.ok hok).toRingOk hr.size (hr.sent hok) (hr.held h.lock hok),
    hr.lock.mpr h.lock⟩

end NssDrv.RingLocking

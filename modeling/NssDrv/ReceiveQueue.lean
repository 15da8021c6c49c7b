import NssDrv.CyclicIndex
import NssDrv.DescriptorRing
import NssDrv.HlosInterface
import NssDrv.ThreadPool

set_option autoImplicit false

/-!
# Serving an N2H ring

`nss_core_handle_cause_queue` of `nss_core.c` around an arbitrary treatment of
the single descriptor, beside an NSS that writes descriptors and advances its
index at any time.
-/
namespace NssDrv.ReceiveQueue
open HlosInterface SharedThread CyclicIndex ThreadPool TransitionRuns

/-- What a call found when it read the NSS index. -/
structure Entry where
  nssIndex : U32
  hlosIndex : U32
  processed : ℕ
  produced : ℕ

/-- `struct hlos_n2h_desc_ring` with its two words of `if_map`. Ghosts: what
    the NSS has produced, what the host has processed, how much of that it
    has given back, the entry of the latest call and the slots it read. -/
structure N2hRing where
  desc : ℕ → N2hDescriptor
  size : U16
  hlosIndex : U32
  nssIndexMap : U32
  hlosIndexMap : U32
  produced : List N2hDescriptor
  processed : List N2hDescriptor
  taken : ℕ
  entry : Entry
  reads : List ℕ

namespace N2hRing

def available (r : N2hRing) : ℕ := gap r.size.toNat r.hlosIndexMap.toNat r.nssIndexMap.toNat

def enter (r : N2hRing) : N2hRing :=
  { r with
    entry := ⟨r.nssIndexMap, r.hlosIndex, r.processed.length, r.produced.length⟩
    reads := [] }

def fetch (r : N2hRing) (slot : ℕ) : N2hRing := { r with reads := r.reads ++ [slot] }

def process (r : N2hRing) (d : N2hDescriptor) : N2hRing := { r with processed := r.processed ++ [d] }

def setHlosIndex (r : N2hRing) (hlosIndex : U32) : N2hRing := { r with hlosIndex := hlosIndex }

/-- Stores `if_map->n2h_hlos_index`, which gives the slots back to the NSS. -/
def giveBack (r : N2hRing) (hlosIndex : U32) : N2hRing :=
  { r with hlosIndexMap := hlosIndex, taken := r.processed.length }

def write (r : N2hRing) (j : ℕ) (d : N2hDescriptor) : N2hRing :=
  { r with desc := Function.update r.desc j d }

/-- The NSS advances its index by `d`. -/
def produce (r : N2hRing) (d : ℕ) : N2hRing :=
  { r with
    nssIndexMap := BitVec.ofNat 32 (advance r.size.toNat r.nssIndexMap.toNat d)
    produced := r.produced ++ window r.desc r.size.toNat r.nssIndexMap.toNat d }

end N2hRing

/-- A ring and the rest of the host's state. -/
structure N2hPort (ω : Type) where
  ring : N2hRing
  host : ω

namespace N2hPort
variable {ω : Type}

def onRing (f : N2hRing → N2hRing) (p : N2hPort ω) : N2hPort ω := { p with ring := f p.ring }

/-- One pass through the loop body after the loads of the descriptor. -/
def process (body : N2hDescriptor → ω → ω) (d : N2hDescriptor) (p : N2hPort ω) : N2hPort ω :=
  ⟨p.ring.process d, body d p.host⟩

end N2hPort

section Handler
variable {ω : Type} (body : N2hDescriptor → ω → ω)

def loadDesc (slot : ℕ) : Proc (N2hPort ω) N2hDescriptor :=
  .act (fun _ => true) (N2hPort.onRing fun r => r.fetch slot) fun p => .ret (p.ring.desc slot)

def loadNssIndex : Proc (N2hPort ω) U32 :=
  .act (fun _ => true) (N2hPort.onRing N2hRing.enter) fun p => .ret p.ring.nssIndexMap

/-- The loop over `count_temp`, from `hlosIndex` on. -/
def processFrom (mask : U16) : ℕ → U32 → Proc (N2hPort ω) U32
  | 0, hlosIndex => return hlosIndex
  | countTemp + 1, hlosIndex => do
    let desc ← loadDesc hlosIndex.toNat
    Proc.modify (N2hPort.process body desc)
    processFrom mask countTemp ((hlosIndex + 1) &&& mask.setWidth 32)

def nssCoreHandleCauseQueue (weight : U16) : Proc (N2hPort ω) U16 := do
  let nssIndex ← loadNssIndex
  let hlosIndex ← Proc.read fun p => p.ring.hlosIndex
  let size ← Proc.read fun p => p.ring.size
  let mask := size - 1
  let count := ((nssIndex - hlosIndex + size.setWidth 32) &&& mask.setWidth 32).setWidth 16
  if count = 0 then return 0
  else do
    let count := if count.toInt > weight.toInt then weight else count
    let hlosIndex ← processFrom body mask count.toNat hlosIndex
    Proc.modify (N2hPort.onRing fun r => r.setHlosIndex hlosIndex)
    Proc.modify (N2hPort.onRing fun r => r.giveBack hlosIndex)
    return count

end Handler

/-- The slots from the published index to the NSS index hold what was produced
    and not yet given back, and the host has processed a prefix of it all. -/
structure QueueOk (r : N2hRing) : Prop where
  pow : ∃ k, k ≤ 15 ∧ r.size.toNat = 2 ^ k
  nss : r.nssIndexMap.toNat < r.size.toNat
  hlos : r.hlosIndexMap.toNat < r.size.toNat
  count : r.taken + r.available = r.produced.length
  contents : window r.desc r.size.toNat r.hlosIndexMap.toNat r.available = r.produced.drop r.taken
  taken_le : r.taken ≤ r.processed.length
  inOrder : r.processed <+: r.produced

namespace QueueOk
variable {r : N2hRing}

theorem size_pos (h : QueueOk r) : 0 < r.size.toNat := by
  have := h.nss
  omega

theorem size_le (h : QueueOk r) : r.size.toNat ≤ 2 ^ 15 := by
  obtain ⟨k, hk, hsize⟩ := h.pow
  rw [hsize]
  exact Nat.pow_le_pow_right (by decide) hk

theorem available_lt (h : QueueOk r) : r.available < r.size.toNat := gap_lt h.size_pos

theorem nss_eq (h : QueueOk r) :
    r.nssIndexMap.toNat = advance r.size.toNat r.hlosIndexMap.toNat r.available :=
  (advance_gap h.hlos h.nss).symm

theorem desc_eq (h : QueueOk r) {d : ℕ} (hd : d < r.available) :
    r.produced[r.taken + d]? = some (r.desc (advance r.size.toNat r.hlosIndexMap.toNat d)) := by
  have hcell : (window r.desc r.size.toNat r.hlosIndexMap.toNat r.available)[d]? =
      some (r.desc (advance r.size.toNat r.hlosIndexMap.toNat d)) := by
    simp [window, hd]
  rw [h.contents, List.getElem?_drop] at hcell
  exact hcell

end QueueOk

/-- The NSS writes any slot outside the range it has handed over, or hands over
    `d` more slots, as far as the published index leaves room. -/
inductive NssProduces : N2hRing → N2hRing → Prop where
  | write (r : N2hRing) (j : ℕ) (d : N2hDescriptor)
      (free : ¬ InWindow r.size.toNat r.hlosIndexMap.toNat r.available j) :
      NssProduces r (r.write j d)
  | produce (r : N2hRing) (d : ℕ) (room : r.available + d < r.size.toNat) :
      NssProduces r (r.produce d)

/-- What the host may count on while the NSS works. -/
structure QueueRely (r r' : N2hRing) : Prop where
  ok : QueueOk r → QueueOk r'
  size : r'.size = r.size
  hlosIndex : r'.hlosIndex = r.hlosIndex
  hlosIndexMap : r'.hlosIndexMap = r.hlosIndexMap
  processed : r'.processed = r.processed
  taken : r'.taken = r.taken
  entry : r'.entry = r.entry
  reads : r'.reads = r.reads
  produced : r.produced <+: r'.produced

namespace NssProduces
variable {r r' : N2hRing}

theorem produce_available (h : QueueOk r) {d : ℕ} (room : r.available + d < r.size.toNat) :
    (r.produce d).available = r.available + d := by
  have hlt := advance_lt (i := r.nssIndexMap.toNat) (d := d) h.size_pos
  have hle := h.size_le
  have hword : (r.produce d).nssIndexMap.toNat =
      advance r.size.toNat r.nssIndexMap.toNat d :=
    (BitVec.toNat_ofNat _ _).trans (Nat.mod_eq_of_lt (by omega))
  unfold N2hRing.available
  rw [hword]
  exact gap_advance_right h.hlos h.nss room

theorem ok (h : QueueOk r) (hp : NssProduces r r') : QueueOk r' := by
  cases hp with
  | write j d free =>
    refine ⟨h.pow, h.nss, h.hlos, h.count, ?_, h.taken_le, h.inOrder⟩
    refine Eq.trans (window_update ?_) h.contents
    intro e he
    exact ne_of_not_inWindow h.hlos h.available_lt.le free he
  | produce d room =>
    have hcount := h.count
    have havail := produce_available h room
    have hlt := advance_lt (i := r.nssIndexMap.toNat) (d := d) h.size_pos
    have hle := h.size_le
    refine ⟨h.pow, ?_, h.hlos, ?_, ?_, h.taken_le, ?_⟩
    · change (BitVec.ofNat 32 _).toNat < r.size.toNat
      rw [BitVec.toNat_ofNat, Nat.mod_eq_of_lt (by omega)]
      exact hlt
    · rw [havail]
      change r.taken + (r.available + d) = (r.produced ++ _).length
      rw [List.length_append, length_window]
      omega
    · rw [havail]
      change window r.desc r.size.toNat r.hlosIndexMap.toNat _ =
        (r.produced ++ window r.desc r.size.toNat r.nssIndexMap.toNat d).drop r.taken
      rw [window_add, ← h.nss_eq, h.contents, List.drop_append_of_le_length (by omega)]
    · exact h.inOrder.trans (List.prefix_append _ _)

theorem rely (hp : NssProduces r r') : QueueRely r r' := by
  refine ⟨fun h => hp.ok h, ?_, ?_, ?_, ?_, ?_, ?_, ?_, ?_⟩
  case refine_8 =>
    cases hp with
    | write => exact List.prefix_rfl
    | produce => exact List.prefix_append _ _
  all_goals cases hp <;> rfl

end NssProduces

/-- What the host does to the ring in one access. Every step but the last store
    finds the two copies of the index equal. -/
inductive HostAct : N2hRing → N2hRing → Prop where
  | idle (r : N2hRing) (settled : r.hlosIndex = r.hlosIndexMap) : HostAct r r
  | enter (r : N2hRing) (settled : r.hlosIndex = r.hlosIndexMap) : HostAct r r.enter
  | fetch (r : N2hRing) (settled : r.hlosIndex = r.hlosIndexMap) (slot : ℕ)
      (seen : InWindow r.size.toNat r.entry.hlosIndex.toNat
        (gap r.size.toNat r.entry.hlosIndex.toNat r.entry.nssIndex.toNat) slot) :
      HostAct r (r.fetch slot)
  | process (r : N2hRing) (settled : r.hlosIndex = r.hlosIndexMap) (d : N2hDescriptor)
      (next : r.produced[r.processed.length]? = some d) : HostAct r (r.process d)
  | setIndex (r : N2hRing) (settled : r.hlosIndex = r.hlosIndexMap) (i : U32) :
      HostAct r (r.setHlosIndex i)
  | giveBack (r : N2hRing)
      (next : r.hlosIndex.toNat =
        advance r.size.toNat r.hlosIndexMap.toNat (r.processed.length - r.taken)) :
      HostAct r (r.giveBack r.hlosIndex)

/-- Every slot read since the entry lies before the NSS index read there. -/
def ReadsSeen (r : N2hRing) : Prop :=
  ∀ j ∈ r.reads, InWindow r.size.toNat r.entry.hlosIndex.toNat
    (gap r.size.toNat r.entry.hlosIndex.toNat r.entry.nssIndex.toNat) j

namespace HostAct
variable {r r' : N2hRing}

theorem ok (h : QueueOk r) (ha : HostAct r r') : QueueOk r' := by
  cases ha with
  | idle => exact h
  | enter => exact ⟨h.pow, h.nss, h.hlos, h.count, h.contents, h.taken_le, h.inOrder⟩
  | fetch settled slot seen =>
    exact ⟨h.pow, h.nss, h.hlos, h.count, h.contents, h.taken_le, h.inOrder⟩
  | process settled d next =>
    have hle : r.taken ≤ (r.processed ++ [d]).length := by
      have := h.taken_le
      simp
      omega
    refine ⟨h.pow, h.nss, h.hlos, h.count, h.contents, hle, ?_⟩
    obtain ⟨rest, hrest⟩ := h.inOrder
    change r.processed ++ [d] <+: r.produced
    rw [← hrest, List.getElem?_append_right le_rfl, Nat.sub_self] at next
    obtain ⟨rest', hcons⟩ : ∃ rest', rest = d :: rest' := by
      cases rest with
      | nil => cases next
      | cons x rest' => exact ⟨rest', by rw [Option.some.inj next]⟩
    exact ⟨rest', by rw [← hrest, hcons, List.append_assoc]; rfl⟩
  | setIndex settled i =>
    exact ⟨h.pow, h.nss, h.hlos, h.count, h.contents, h.taken_le, h.inOrder⟩
  | giveBack next =>
    have hcount := h.count
    have htaken := h.taken_le
    have hlen := h.inOrder.length_le
    let e := r.processed.length - r.taken
    have he : e ≤ r.available := by omega
    have havail : (r.giveBack r.hlosIndex).available = r.available - e := by
      unfold N2hRing.available N2hRing.giveBack
      rw [next]
      exact gap_advance_left h.hlos h.nss he
    refine ⟨h.pow, h.nss, ?_, ?_, ?_, le_rfl, h.inOrder⟩
    · change r.hlosIndex.toNat < _
      rw [next]
      exact advance_lt h.size_pos
    · rw [havail]
      change r.processed.length + _ = r.produced.length
      omega
    · rw [havail]
      change window r.desc r.size.toNat r.hlosIndex.toNat _ = r.produced.drop r.processed.length
      rw [next, ← drop_window he, h.contents, List.drop_drop]
      congr 1
      omega

theorem readsSeen (h : ReadsSeen r) (ha : HostAct r r') : ReadsSeen r' := by
  cases ha with
  | enter => exact fun j hj => by cases hj
  | fetch settled slot seen =>
    intro j hj
    rcases List.mem_append.mp hj with hold | hnew
    · exact h j hold
    · rw [List.mem_singleton.mp hnew]
      exact seen
  | _ => exact h

theorem produced_eq (ha : HostAct r r') : r'.produced = r.produced := by cases ha <;> rfl

theorem processed_le (ha : HostAct r r') : r.processed.length ≤ r'.processed.length := by
  cases ha with
  | process settled d next => simp [N2hRing.process]
  | _ => exact le_rfl

theorem entry_cases (ha : HostAct r r') :
    r'.entry = r.entry ∨ r'.entry.produced = r'.produced.length := by
  cases ha with
  | enter settled => exact .inr rfl
  | _ => exact .inl rfl

/-- The one access that starts with the two copies of the index apart ends
    with them equal. -/
theorem settles (ha : HostAct r r') (apart : r.hlosIndex ≠ r.hlosIndexMap) :
    r'.hlosIndex = r'.hlosIndexMap := by
  cases ha with
  | giveBack => rfl
  | idle settled => exact (apart settled).elim
  | enter settled => exact (apart settled).elim
  | fetch settled => exact (apart settled).elim
  | process settled => exact (apart settled).elim
  | setIndex settled => exact (apart settled).elim

end HostAct

structure Resting (r : N2hRing) : Prop extends QueueOk r where
  settled : r.hlosIndex = r.hlosIndexMap
  taken_eq : r.taken = r.processed.length

/-- Inside a call that entered with `e`: `i` descriptors are processed and
    `j` slots read. -/
structure Serving (size : U16) (e : Entry) (i j : ℕ) (r : N2hRing) : Prop extends QueueOk r where
  settled : r.hlosIndex = r.hlosIndexMap
  size_eq : r.size = size
  entry_eq : r.entry = e
  start : e.hlosIndex = r.hlosIndex
  taken_eq : r.taken = e.processed
  served : r.processed.length = e.processed + i
  reads_eq : r.reads = (List.range j).map (advance size.toNat e.hlosIndex.toNat)
  found : e.processed + gap size.toNat e.hlosIndex.toNat e.nssIndex.toNat = e.produced
  seen : e.produced ≤ r.produced.length

def Entry.found (size : U16) (e : Entry) : ℕ :=
  gap size.toNat e.hlosIndex.toNat e.nssIndex.toNat

/-- What a call has done when it returns `v`. -/
structure Served (before : ℕ) (weight v : U16) (r : N2hRing) : Prop extends Resting r where
  entered : r.entry.processed = before
  found : before + r.entry.found r.size = r.entry.produced
  seen : r.entry.produced ≤ r.produced.length
  returns : v.toNat = min (r.entry.found r.size) weight.toNat
  served : r.processed.length = before + v.toNat
  reads_eq : r.reads = (List.range v.toNat).map (advance r.size.toNat r.entry.hlosIndex.toNat)

section Rely
variable {size : U16} {e : Entry} {i j before : ℕ} {weight v : U16} {r r' : N2hRing}

theorem Resting.rely (h : Resting r) (hr : QueueRely r r') : Resting r' :=
  { hr.ok h.toQueueOk with
    settled := by rw [hr.hlosIndex, hr.hlosIndexMap, h.settled]
    taken_eq := by rw [hr.taken, hr.processed, h.taken_eq] }

theorem Serving.rely (h : Serving size e i j r) (hr : QueueRely r r') : Serving size e i j r' :=
  { hr.ok h.toQueueOk with
    settled := by rw [hr.hlosIndex, hr.hlosIndexMap, h.settled]
    size_eq := hr.size.trans h.size_eq
    entry_eq := hr.entry.trans h.entry_eq
    start := by rw [hr.hlosIndex, h.start]
    taken_eq := hr.taken.trans h.taken_eq
    served := by rw [hr.processed, h.served]
    reads_eq := hr.reads.trans h.reads_eq
    found := h.found
    seen := h.seen.trans hr.produced.length_le }

theorem Served.rely (h : Served before weight v r) (hr : QueueRely r r') :
    Served before weight v r' :=
  { h.toResting.rely hr with
    entered := by rw [hr.entry, h.entered]
    found := by rw [hr.entry, hr.size, h.found]
    seen := by
      rw [hr.entry]
      exact h.seen.trans hr.produced.length_le
    returns := by rw [hr.entry, hr.size, h.returns]
    served := by rw [hr.processed, h.served]
    reads_eq := by rw [hr.reads, hr.entry, hr.size, h.reads_eq] }

end Rely

namespace Serving
variable {size : U16} {e : Entry} {i j : ℕ} {r : N2hRing}

theorem of_enter (h : Resting r) :
    HostAct r r.enter ∧ ∃ e, Serving r.size e 0 0 r.enter ∧ e.nssIndex = r.nssIndexMap ∧
      e.processed = r.processed.length := by
  have hact : HostAct r r.enter := .enter r h.settled
  have hcount := h.count
  have htaken := h.taken_eq
  refine ⟨hact, r.enter.entry, { hact.ok h.toQueueOk with
    settled := h.settled, size_eq := rfl, entry_eq := rfl, start := rfl, taken_eq := htaken,
    served := rfl, reads_eq := rfl, found := ?_, seen := le_rfl }, rfl, rfl⟩
  change r.processed.length + gap r.size.toNat r.hlosIndex.toNat r.nssIndexMap.toNat =
    r.produced.length
  rw [h.settled, ← htaken]
  exact hcount

theorem next (h : Serving size e i j r) (hi : i < e.found size) :
    r.produced[r.processed.length]? =
        some (r.desc (advance size.toNat e.hlosIndex.toNat i)) := by
  have hcount := h.count
  have hseen := h.seen
  have hfound := h.found
  have htaken := h.taken_eq
  unfold Entry.found at hi
  have hcell := h.desc_eq (d := i) (by omega)
  rw [← h.settled, ← h.start, h.size_eq, htaken, ← h.served] at hcell
  exact hcell

theorem fetch (h : Serving size e i i r) (hi : i < e.found size) {slot : ℕ}
    (hslot : slot = advance size.toNat e.hlosIndex.toNat i) :
    HostAct r (r.fetch slot) ∧ Serving size e i (i + 1) (r.fetch slot) := by
  subst hslot
  have hstart : e.hlosIndex.toNat < size.toNat := by
    rw [h.start, h.settled, ← h.size_eq]
    exact h.hlos
  have hlt : e.found size < size.toNat := gap_lt (by omega)
  have hact : HostAct r (r.fetch (advance size.toNat e.hlosIndex.toNat i)) := by
    refine .fetch r h.settled _ ?_
    rw [h.entry_eq, h.size_eq, InWindow, gap_advance hstart (by omega)]
    exact hi
  refine ⟨hact, { hact.ok h.toQueueOk with
    settled := h.settled, size_eq := h.size_eq, entry_eq := h.entry_eq, start := h.start,
    taken_eq := h.taken_eq, served := h.served, reads_eq := ?_, found := h.found, seen := h.seen }⟩
  rw [N2hRing.fetch, h.reads_eq, List.range_succ, List.map_append]
  rfl

theorem process (h : Serving size e i (i + 1) r) {d : N2hDescriptor}
    (hd : r.produced[r.processed.length]? = some d) :
    HostAct r (r.process d) ∧ Serving size e (i + 1) (i + 1) (r.process d) := by
  have hact : HostAct r (r.process d) := .process r h.settled d hd
  refine ⟨hact, { hact.ok h.toQueueOk with
    settled := h.settled, size_eq := h.size_eq, entry_eq := h.entry_eq, start := h.start,
    taken_eq := h.taken_eq, served := ?_, reads_eq := h.reads_eq, found := h.found,
    seen := h.seen }⟩
  rw [N2hRing.process, List.length_append, h.served]
  rfl

end Serving

def Rely {ω : Type} (p p' : N2hPort ω) : Prop := QueueRely p.ring p'.ring

def Guarantee {ω : Type} (p p' : N2hPort ω) : Prop := HostAct p.ring p'.ring

section Handler
variable {ω α : Type} {body : N2hDescriptor → ω → ω} {size weight mask : U16} {e : Entry} {i k : ℕ}
  {p : N2hPort ω} {Q : α → N2hPort ω → Prop}

theorem serving_stable {j : ℕ} : Stable Rely fun p : N2hPort ω => Serving size e i j p.ring :=
  fun _ _ hr h => h.rely hr

theorem resting_stable : Stable Rely fun p : N2hPort ω => Resting p.ring :=
  fun _ _ hr h => h.rely hr

theorem count_word (hk : k ≤ 15) (hsize : size.toNat = 2 ^ k) {nssIndex hlosIndex : U32}
    (hhlos : hlosIndex.toNat < size.toNat) :
    (((nssIndex - hlosIndex + size.setWidth 32) &&& (size - 1).setWidth 32).setWidth 16).toNat =
      gap size.toNat hlosIndex.toNat nssIndex.toNat := by
  have hdvd : 2 ^ k ∣ 2 ^ 32 := Nat.pow_dvd_pow 2 (by omega)
  have hpow : 2 ^ k ≤ 2 ^ 15 := Nat.pow_le_pow_right (by decide) hk
  have hmask : ((size - 1).setWidth 32).toNat = 2 ^ k - 1 := by
    rw [DescriptorRing.word_toNat, DescriptorRing.mask_toNat (by omega) hsize]
  have hval : (nssIndex - hlosIndex + size.setWidth 32).toNat % 2 ^ k =
      (nssIndex.toNat + 2 ^ k - hlosIndex.toNat) % 2 ^ k := by
    have hlt := hlosIndex.isLt
    rw [BitVec.toNat_add, BitVec.toNat_sub, DescriptorRing.word_toNat, hsize, Nat.mod_add_mod,
      Nat.mod_mod_of_dvd _ hdvd]
    rw [show 2 ^ 32 - hlosIndex.toNat + nssIndex.toNat + 2 ^ k =
      (nssIndex.toNat + 2 ^ k - hlosIndex.toNat) + 2 ^ 32 by omega]
    rw [Nat.add_mod, Nat.mod_eq_zero_of_dvd hdvd, Nat.add_zero, Nat.mod_mod]
  have hmod := Nat.mod_lt (nssIndex.toNat + 2 ^ k - hlosIndex.toNat) (Nat.two_pow_pos k)
  rw [BitVec.toNat_setWidth, and_mask _ _ hmask, hval, Nat.mod_eq_of_lt (by omega), gap,
    hsize]

theorem processFrom_serves (hk : k ≤ 15) (hsize : size.toNat = 2 ^ k) (n : ℕ) {hlosIndex : U32}
    (h : Serving size e i i p.ring) (hn : i + n ≤ e.found size)
    (hidx : hlosIndex.toNat = advance size.toNat e.hlosIndex.toNat i) :
    Sat Rely Guarantee (fun next p => Serving size e (i + n) (i + n) p.ring ∧
        next.toNat = advance size.toNat e.hlosIndex.toNat (i + n))
      (processFrom body (size - 1) n hlosIndex) p := by
  induction n generalizing i hlosIndex p with
  | zero =>
    refine Sat.ret ?_ ⟨h, hidx⟩
    rintro s t hr ⟨hs, hnext⟩
    exact ⟨hs.rely hr, hnext⟩
  | succ n ih =>
    simp only [processFrom, Proc.bind_eq]
    refine Sat.act serving_stable h fun q hq _ => ?_
    have hfetch := hq.fetch (by omega) hidx
    have hnext := hq.next (by omega)
    rw [← hidx] at hnext
    refine ⟨hfetch.1, ?_⟩
    refine Sat.modify (P := fun p => Serving size e i (i + 1) p.ring ∧
      p.ring.produced[p.ring.processed.length]? = some (q.ring.desc hlosIndex.toNat)) ?_
      ⟨hfetch.2, hnext⟩ fun u hu => ?_
    · rintro s t hr ⟨hs, hd⟩
      refine ⟨hs.rely hr, ?_⟩
      obtain ⟨rest, hrest⟩ := hr.produced
      rw [hr.processed, ← hrest, List.getElem?_append_left (List.getElem?_eq_some_iff.mp hd).1, hd]
    · have hproc := hu.1.process hu.2
      refine ⟨hproc.1, ?_⟩
      have hidx' : ((hlosIndex + 1) &&& (size - 1).setWidth 32).toNat =
          advance size.toNat e.hlosIndex.toNat (i + 1) := by
        rw [DescriptorRing.next_word (by omega) hsize, hidx, advance_advance]
      have hserv : Serving size e (i + 1) (i + 1)
          (u.process body (q.ring.desc hlosIndex.toNat)).ring := hproc.2
      have hrest := ih hserv (by omega) hidx'
      rw [show i + 1 + n = i + (n + 1) by omega] at hrest
      exact hrest

theorem served_stable {before : ℕ} {v : U16} :
    Stable Rely fun p : N2hPort ω => Served before weight v p.ring :=
  fun _ _ hr h => h.rely hr

/-- Between the two index stores at the end of a call. -/
structure Closing (size : U16) (e : Entry) (i : ℕ) (next : U32) (r : N2hRing) : Prop
    extends QueueOk r where
  index_eq : r.hlosIndex = next
  size_eq : r.size = size
  entry_eq : r.entry = e
  start : e.hlosIndex = r.hlosIndexMap
  taken_eq : r.taken = e.processed
  served : r.processed.length = e.processed + i
  reads_eq : r.reads = (List.range i).map (advance size.toNat e.hlosIndex.toNat)
  found : e.processed + e.found size = e.produced
  seen : e.produced ≤ r.produced.length

theorem Closing.rely {next : U32} {r r' : N2hRing} (h : Closing size e i next r)
    (hr : QueueRely r r') : Closing size e i next r' :=
  { hr.ok h.toQueueOk with
    index_eq := hr.hlosIndex.trans h.index_eq
    size_eq := hr.size.trans h.size_eq
    entry_eq := hr.entry.trans h.entry_eq
    start := by rw [hr.hlosIndexMap, h.start]
    taken_eq := hr.taken.trans h.taken_eq
    served := by rw [hr.processed, h.served]
    reads_eq := hr.reads.trans h.reads_eq
    found := h.found
    seen := h.seen.trans hr.produced.length_le }

theorem sat_close {v : U16} {next : U32} {k : Unit → Proc (N2hPort ω) α}
    (h : Serving size e v.toNat v.toNat p.ring)
    (hnext : next.toNat = advance size.toNat e.hlosIndex.toNat v.toNat)
    (hv : v.toNat = min (e.found size) weight.toNat)
    (hk : ∀ q, Served e.processed weight v q.ring → Sat Rely Guarantee Q (k ()) q) :
    Sat Rely Guarantee Q ((Proc.modify (N2hPort.onRing fun r => r.setHlosIndex next)).bind
      fun _ => (Proc.modify (N2hPort.onRing fun r => r.giveBack next)).bind k) p := by
  refine Sat.modify serving_stable h fun q hq => ?_
  have hset : HostAct q.ring (q.ring.setHlosIndex next) := .setIndex _ hq.settled _
  have hclosing : Closing size e v.toNat next (q.ring.setHlosIndex next) :=
    { hset.ok hq.toQueueOk with
      index_eq := rfl, size_eq := hq.size_eq, entry_eq := hq.entry_eq,
      start := hq.start.trans hq.settled, taken_eq := hq.taken_eq, served := hq.served,
      reads_eq := hq.reads_eq, found := hq.found, seen := hq.seen }
  have hstable : Stable Rely fun q : N2hPort ω => Closing size e v.toNat next q.ring :=
    fun _ _ hr hs => hs.rely hr
  refine ⟨hset, Sat.modify hstable hclosing fun q hq => ?_⟩
  have hadvance : q.ring.hlosIndex.toNat = advance q.ring.size.toNat q.ring.hlosIndexMap.toNat
      (q.ring.processed.length - q.ring.taken) := by
    rw [hq.index_eq, hnext, hq.size_eq, hq.start, hq.served, hq.taken_eq, Nat.add_sub_cancel_left]
  have hgive : HostAct q.ring (q.ring.giveBack q.ring.hlosIndex) := .giveBack _ hadvance
  rw [hq.index_eq] at hgive
  have hentry := hq.entry_eq
  have hsize := hq.size_eq
  have hok := hgive.ok hq.toQueueOk
  refine ⟨hgive, hk _ { hok with
    settled := hq.index_eq
    taken_eq := rfl
    entered := congrArg Entry.processed hentry
    found := ?_
    seen := ?_
    returns := ?_
    served := hq.served
    reads_eq := ?_ }⟩
  all_goals subst hentry hsize
  · exact hq.found
  · exact hq.seen
  · exact hv
  · exact hq.reads_eq

theorem handleCauseQueue_served (hweight : 0 < weight.toInt) (h : Resting p.ring) :
    Sat Rely Guarantee (fun v q => Served p.ring.processed.length weight v q.ring)
      (nssCoreHandleCauseQueue body weight) p := by
  have hplace : Stable Rely fun q : N2hPort ω => Resting q.ring ∧
      q.ring.processed.length = p.ring.processed.length := by
    rintro s t hr ⟨hs, hlen⟩
    exact ⟨hs.rely hr, by rw [hr.processed, hlen]⟩
  simp only [nssCoreHandleCauseQueue, Proc.bind_eq, Proc.pure_eq]
  refine Sat.act hplace ⟨h, rfl⟩ fun q hq _ => ?_
  obtain ⟨hent, e, hserv, hnss, hproc⟩ := Serving.of_enter hq.1
  obtain ⟨k, hk, hpow⟩ := hq.1.pow
  have hstart : e.hlosIndex.toNat < q.ring.size.toNat := by
    rw [hserv.start, hserv.settled]
    exact hserv.hlos
  refine ⟨hent, Sat.read (fun u hu => .idle _ hu.settled) serving_stable hserv fun u hu => ?_⟩
  rw [← hu.start]
  refine Sat.read (fun u hu => .idle _ hu.settled) serving_stable hu fun w hw => ?_
  rw [hw.size_eq]
  -- the count of the source is the number of descriptors found
  have hcount : _ = gap q.ring.size.toNat e.hlosIndex.toNat q.ring.nssIndexMap.toNat :=
    count_word hk hpow hstart
  rw [← hnss] at hcount ⊢
  set count : U16 := ((e.nssIndex - e.hlosIndex + q.ring.size.setWidth 32) &&&
    (q.ring.size - 1).setWidth 32).setWidth 16 with hdef
  have hlt : e.found q.ring.size < q.ring.size.toNat := gap_lt (by omega)
  have hpow15 : 2 ^ k ≤ 2 ^ 15 := Nat.pow_le_pow_right (by decide) hk
  have hfound : count.toNat = e.found q.ring.size := hcount
  have hint := BitVec.toInt_eq_toNat_cond count
  have hwint := BitVec.toInt_eq_toNat_cond weight
  have hbefore : e.processed = p.ring.processed.length := hproc.trans hq.2
  split
  · rename_i hzero
    have hnone : e.found q.ring.size = 0 := by rw [← hfound, hzero]; rfl
    refine Sat.ret served_stable { hw.toQueueOk with
      settled := hw.settled, taken_eq := ?_, entered := ?_, found := ?_, seen := ?_,
      returns := ?_, served := ?_, reads_eq := ?_ }
    · rw [hw.taken_eq, hw.served, Nat.add_zero]
    · rw [hw.entry_eq, hbefore]
    · rw [hw.entry_eq, hw.size_eq, ← hbefore]
      exact hw.found
    · rw [hw.entry_eq]
      exact hw.seen
    · rw [hw.entry_eq, hw.size_eq, hnone, Nat.zero_min]
      rfl
    · rw [hw.served, hbefore]
      rfl
    · exact hw.reads_eq
  · have hmin : (if count.toInt > weight.toInt then weight else count).toNat =
        min (e.found q.ring.size) weight.toNat := by
      split at hint <;> split at hwint <;> split <;> omega
    refine Sat.bind (processFrom_serves hk hpow _ hw (by omega)
      (by rw [advance_zero hstart])) fun next q hq => ?_
    obtain ⟨hq, hnext⟩ := hq
    rw [Nat.zero_add] at hq hnext
    refine sat_close hq hnext hmin fun q hq => ?_
    rw [hbefore] at hq
    exact Sat.ret served_stable hq

/-- Whatever the others do to the ring, a call returns, with what the treatment of a
    descriptor keeps of the host. -/
theorem processFrom_total {R : N2hPort ω → N2hPort ω → Prop} {I : ω → Prop}
    (hstable : Stable R fun p : N2hPort ω => I p.host) (hbody : ∀ d x, I x → I (body d x))
    (mask : U16) (k : ℕ) (hlosIndex : U32) (hs : I p.host) :
    Total R (fun _ p => I p.host) (processFrom body mask k hlosIndex) p := by
  induction k generalizing hlosIndex p with
  | zero => exact Total.ret hstable hs
  | succ k ih =>
    refine fun q hq => ⟨rfl, fun r hr => ⟨rfl, ih _ (hbody _ _ ?_)⟩⟩
    exact hstable.star hr (hstable.star hq hs : I q.host)

theorem handleCauseQueue_total {R : N2hPort ω → N2hPort ω → Prop} {I : ω → Prop}
    (hstable : Stable R fun p : N2hPort ω => I p.host) (hbody : ∀ d x, I x → I (body d x))
    (weight : U16) (hs : I p.host) :
    Total R (fun _ p => I p.host) (nssCoreHandleCauseQueue body weight) p := by
  simp only [nssCoreHandleCauseQueue, Proc.bind_eq, Proc.pure_eq]
  refine fun q hq => ⟨rfl, ?_⟩
  have hq' : I q.host := hstable.star hq hs
  refine Total.read hstable (s := q.onRing N2hRing.enter) hq' fun u hu => ?_
  refine Total.read hstable hu fun w hw => ?_
  split
  · exact Total.ret hstable hw
  · refine Total.bind (processFrom_total hstable hbody _ _ _ hw) fun _ x hx => ?_
    refine Total.modify hstable hx fun y hy => ?_
    exact Total.modify hstable (f := N2hPort.onRing _) hy fun z hz => Total.ret hstable hz

variable (body) in
theorem handleCauseQueue_one (h : Resting p.ring)
    (hone : p.ring.produced.length = p.ring.processed.length + 1) :
    ∃ v q, (nssCoreHandleCauseQueue body 1).exec p = some (v, q) ∧ Resting q.ring ∧
      q.ring.size = p.ring.size ∧ q.ring.produced = p.ring.produced ∧
        q.ring.processed = p.ring.produced := by
  obtain ⟨k, hk, hpow⟩ := h.pow
  have hcount := h.count
  have hgap : gap p.ring.size.toNat p.ring.hlosIndexMap.toNat p.ring.nssIndexMap.toNat = 1 := by
    have havail : p.ring.available = 1 := by
      rw [h.taken_eq] at hcount
      omega
    exact havail
  have hword : ((p.ring.nssIndexMap - p.ring.hlosIndex + p.ring.size.setWidth 32) &&&
      (p.ring.size - 1).setWidth 32).setWidth 16 = (1 : U16) := by
    apply BitVec.eq_of_toNat_eq
    rw [h.settled, count_word hk hpow h.hlos, hgap]
    rfl
  let slot := p.ring.hlosIndex.toNat
  let next := (p.ring.hlosIndex + 1) &&& (p.ring.size - 1).setWidth 32
  let q : N2hPort ω := ⟨((((p.ring.enter.fetch slot).process (p.ring.desc slot)).setHlosIndex
    next).giveBack next), body (p.ring.desc slot) p.host⟩
  have hexec : (nssCoreHandleCauseQueue body 1).exec p = some (1, q) := by
    have henter : (p.onRing N2hRing.enter).ring.hlosIndex = p.ring.hlosIndex := rfl
    have hsize : (p.onRing N2hRing.enter).ring.size = p.ring.size := rfl
    simp only [nssCoreHandleCauseQueue, loadNssIndex, Proc.read, Proc.bind_eq, Proc.act_bind,
      Proc.ret_bind, Proc.exec_act, if_true, id, henter, hsize, hword]
    rfl
  have hpositive : 0 < (1 : U16).toInt := by decide
  have hrest := (Sat.exec (handleCauseQueue_served hpositive h) hexec).toResting
  refine ⟨1, q, hexec, hrest, rfl, rfl, ?_⟩
  refine hrest.inOrder.eq_of_length ?_
  change (p.ring.processed ++ [_]).length = p.ring.produced.length
  rw [hone, List.length_append]
  rfl

end Handler

/-- Any number of handler calls with positive weights, one after another. -/
inductive CauseQueueCall {ω : Type} (body : N2hDescriptor → ω → ω) :
    Unit → Proc (N2hPort ω) U16 → Prop where
  | call (weight : U16) (positive : 0 < weight.toInt) :
      CauseQueueCall body () (nssCoreHandleCauseQueue body weight)

/-- The NSS works on the ring; the rest of the host may change too. -/
def NssStep {ω : Type} (p p' : N2hPort ω) : Prop := NssProduces p.ring p'.ring

section Run
variable {ω : Type} (body : N2hDescriptor → ω → ω)

abbrev QueuePool (ω : Type) := Pool Unit (N2hPort ω) U16

abbrev QueueStep : QueuePool ω → Label Unit (N2hPort ω) U16 → QueuePool ω → Prop :=
  Step (CauseQueueCall body) NssStep

structure Empty (p : N2hPort ω) : Prop where
  pow : ∃ k, k ≤ 15 ∧ p.ring.size.toNat = 2 ^ k
  index : p.ring.nssIndexMap.toNat < p.ring.size.toNat
  empty : p.ring.hlosIndexMap = p.ring.nssIndexMap
  settled : p.ring.hlosIndex = p.ring.hlosIndexMap
  produced : p.ring.produced = []
  processed : p.ring.processed = []
  taken : p.ring.taken = 0
  reads : p.ring.reads = []

theorem Empty.resting {p : N2hPort ω} (h : Empty p) : Resting p.ring := by
  have havail : p.ring.available = 0 := by
    rw [N2hRing.available, h.empty, gap_self]
  refine ⟨⟨h.pow, h.index, ?_, ?_, ?_, ?_, ?_⟩, h.settled, ?_⟩
  · rw [h.empty]
    exact h.index
  · rw [h.taken, havail, h.produced]
    rfl
  · rw [havail, h.produced, window_zero, List.drop_nil]
  · rw [h.taken]
    exact Nat.zero_le _
  · rw [h.processed]
    exact List.nil_prefix
  · rw [h.taken, h.processed]
    rfl

theorem queue_discipline : Discipline (CauseQueueCall body) NssStep (fun _ => Rely)
    (fun _ => Guarantee) (fun _ p => Resting p.ring) (fun _ _ p => Resting p.ring) where
  others i j hne := (hne (Subsingleton.elim i j)).elim
  env _ _ _ he := he.rely
  idle _ _ _ h := h
  calls _ _ hq _ h := by
    cases hq with
    | call weight positive => exact (handleCauseQueue_served positive h).post fun _ _ ht => ht.toResting

theorem queue_onTrack {c : QueuePool ω} (h : Reachable (Idle Empty) (QueueStep body) c) :
    OnTrack (fun _ => Rely) (fun _ => Guarantee) (fun _ _ p => Resting p.ring) c :=
  (queue_discipline body).onTrack (fun _ _ _ hs _ ht => resting_stable.star ht hs.resting) h

/-- At every moment: what is processed is a prefix of what was produced, no
    slot beyond the index seen at entry is read, and the host's published
    index stays behind the index of the NSS. -/
structure QueueSafe (r : N2hRing) : Prop where
  inOrder : r.processed <+: r.produced
  reads : ReadsSeen r
  behind : r.taken + gap r.size.toNat r.hlosIndexMap.toNat r.nssIndexMap.toNat = r.produced.length

/-- The two copies of the index differ only while the handler's next access is
    the store that makes them equal. -/
def IndexFollows (c : QueuePool ω) : Prop :=
  c.shared.ring.hlosIndex = c.shared.ring.hlosIndexMap ∨
    (∀ v, c.thread () ≠ .ret v) ∧ ∀ c', QueueStep body c (.run ()) c' →
      c'.shared.ring.hlosIndex = c'.shared.ring.hlosIndexMap

theorem queue_indexFollows {c : QueuePool ω} (h : OnTrack (fun _ => Rely) (fun _ => Guarantee)
    (fun _ _ p => Resting p.ring) c) : IndexFollows body c := by
  by_cases heq : c.shared.ring.hlosIndex = c.shared.ring.hlosIndexMap
  · exact .inl heq
  · refine .inr ⟨fun v hv => ?_, fun c' hstep => ?_⟩
    · have hrest := h ()
      rw [hv] at hrest
      exact heq (hrest _ .refl).settled
    · have hact := (queue_discipline body).shared h hstep
      cases hstep with
      | run next enabled =>
        have hrun := h ()
        rw [next] at hrun
        exact (hrun _ .refl enabled).1.settles heq

theorem queue_ok {c : QueuePool ω} (h : Reachable (Idle Empty) (QueueStep body) c) :
    QueueOk c.shared.ring ∧ ReadsSeen c.shared.ring := by
  refine (queue_discipline body).invariant (fun p => QueueOk p.ring ∧ ReadsSeen p.ring)
    (fun _ _ _ hs _ ht => resting_stable.star ht hs.resting) ?_ ?_ ?_ h
  · refine fun s hs => ⟨hs.resting.toQueueOk, fun j hj => ?_⟩
    rw [hs.reads] at hj
    cases hj
  · exact fun _ s t hp hg => ⟨hg.ok hp.1, hg.readsSeen hp.2⟩
  · intro s t hp he
    have hr := he.rely
    refine ⟨hr.ok hp.1, fun j hj => ?_⟩
    rw [hr.reads] at hj
    rw [hr.size, hr.entry]
    exact hp.2 j hj

end Run

def emptyN2hRing (size : U16) : N2hRing :=
  { desc := fun _ => ⟨0, 0, 0, 0, 0, 0, 0⟩, size := size, hlosIndex := 0, nssIndexMap := 0,
    hlosIndexMap := 0, produced := [], processed := [], taken := 0, entry := ⟨0, 0, 0, 0⟩,
    reads := [] }

def idleQueue : QueuePool Unit := ⟨⟨emptyN2hRing 4, ()⟩, fun _ => .ret 0⟩

theorem idleQueue_idle : Idle Empty idleQueue :=
  ⟨⟨⟨2, by decide, rfl⟩, by decide, rfl, rfl, rfl, rfl, rfl, rfl⟩, fun _ => ⟨_, rfl⟩⟩

def producedTwo : QueuePool Unit := { idleQueue with shared := ⟨(emptyN2hRing 4).produce 2, ()⟩ }

theorem producedTwo_reachable : Reachable (Idle Empty) (QueueStep fun _ _ => ()) producedTwo := by
  have hstep : QueueStep (fun _ _ => ()) idleQueue .env producedTwo :=
    .env (.produce (emptyN2hRing 4) 2 (by decide))
  exact .next (.start idleQueue_idle) hstep

def serveOne : List (Order Unit (N2hPort Unit) U16) :=
  .call () (nssCoreHandleCauseQueue (fun _ _ => ()) 1) :: List.replicate 7 (.run ())

end NssDrv.ReceiveQueue

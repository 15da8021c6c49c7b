import Mathlib.Data.List.Forall2
import NssDrv.EmptyBufferRefill

set_option autoImplicit false

/-!
# A refill with its skbs, pages and mappings

The refill of the empty-buffer ring once more, with what it allocates, maps and
frees, while the NSS takes descriptors. Forgetting these leaves the refill of
`NssDrv.EmptyBufferRefill`.
-/
namespace NssDrv.RefillResources
open HlosInterface SharedThread CyclicIndex DescriptorRing RingLocking TransmitEncoders
open EmptyBufferRefill

/-- The ring with what one refill holds: skbs, each with the page it owns, pages
    that no skb owns, and mappings. A page goes by the attempt that got it. -/
structure RefillCall where
  port : H2nPort
  skbs : List (U32 × Option ℕ)
  pages : List ℕ
  maps : List U32

namespace RefillCall

def onRing (f : H2nRing → H2nRing) (c : RefillCall) : RefillCall :=
  { c with port := c.port.onRing f }

def count (x : DrvStat) (c : RefillCall) : RefillCall :=
  { c with port := { c.port with stats := c.port.stats.add x 1 } }

def devAllocSkb (nbuf : U32) (c : RefillCall) : RefillCall :=
  { c with skbs := c.skbs ++ [(nbuf, none)] }

def allocPage (npage : ℕ) (c : RefillCall) : RefillCall := { c with pages := c.pages ++ [npage] }

/-- The page goes over to the skb. -/
def skbFillPageDesc (nbuf : U32) (npage : ℕ) (c : RefillCall) : RefillCall :=
  { c with
    pages := c.pages.erase npage
    skbs := c.skbs.map fun s => if s.1 = nbuf then (nbuf, some npage) else s }

/-- The skb goes, and its page with it. -/
def devKfreeSkbAny (nbuf : U32) (c : RefillCall) : RefillCall :=
  { c with skbs := c.skbs.filter fun s => s.1 ≠ nbuf }

def dmaMap (buffer : Option U32) (c : RefillCall) : RefillCall :=
  { c with maps := c.maps ++ buffer.toList }

end RefillCall

section Refill
variable (cpu : ℕ) (env : RefillEnv)

/-- Maps the buffer and stores its length before the mapping is looked at. -/
def mapBuffer (i : ℕ) (hlosIndex nbuf : U32) (bufferLen payloadOffs : U16) :
    Proc RefillCall (Option U32) := do
  Proc.modify (RefillCall.dmaMap (env.dma i))
  Proc.modify <| RefillCall.onRing fun r => r.amend hlosIndex.toNat fun d =>
    { d with bufferLen := bufferLen, payloadOffs := payloadOffs }
  return some nbuf

def allocBuffer (i : ℕ) (hlosIndex : U32) : Proc RefillCall (Option U32) :=
  match env.skb i with
  | none => do
    Proc.modify (RefillCall.count .nbufAllocFails)
    return none
  | some nbuf => do
    Proc.modify (RefillCall.devAllocSkb nbuf.addr)
    let offs := (nbuf.data - nbuf.head).setWidth 16
    if env.pagedMode then
      if env.page i then do
        Proc.modify (RefillCall.allocPage i)
        Proc.modify (RefillCall.skbFillPageDesc nbuf.addr i)
        mapBuffer env i hlosIndex nbuf.addr env.pageSize 0
      else do
        Proc.modify (RefillCall.devKfreeSkbAny nbuf.addr)
        Proc.modify (RefillCall.count .nbufAllocFails)
        return none
    else if env.jumboMru ≠ 0 then
      mapBuffer env i hlosIndex nbuf.addr (env.jumboMru.setWidth 16) offs
    else mapBuffer env i hlosIndex nbuf.addr (env.maxBufSize + env.netSkbPad) offs

def refillFrom (mask : U32) : ℕ → ℕ → U32 → List U32 → Proc RefillCall (U32 × List U32)
  | 0, _, hlosIndex, given => return (hlosIndex, given)
  | count + 1, i, hlosIndex, given => do
    match ← allocBuffer env i hlosIndex with
    | none => return (hlosIndex, given)
    | some nbuf =>
      match env.dma i with
      | none => do
        Proc.modify (RefillCall.devKfreeSkbAny nbuf)
        return (hlosIndex, given)
      | some buffer => do
        Proc.modify (RefillCall.count .nssSkbCount)
        Proc.modify <| RefillCall.onRing fun r =>
          r.fill hlosIndex.toNat (emptyDescriptor nbuf buffer (r.desc hlosIndex.toNat))
        refillFrom mask count (i + 1) ((hlosIndex + 1) &&& mask) (given ++ [nbuf])

/-- Returns the number of free slots that it counted, and the buffers. -/
def refillEmptyBuffers : Proc RefillCall (U16 × List U32) := do
  let nssIndex ← Proc.read fun c => c.port.ring.nssIndexMap
  let hlosIndex ← Proc.read fun c => c.port.ring.hlosIndex
  let size ← Proc.read fun c => c.port.ring.size
  let count := refillRoom nssIndex hlosIndex size
  let filled ← refillFrom env ((size - 1).setWidth 32) count.toNat 0 hlosIndex []
  Proc.modify (RefillCall.onRing fun r => r.setHlosIndex filled.1)
  Proc.modify (RefillCall.onRing fun r => r.publish filled.1 (r.pending.map (single cpu)))
  return (count, filled.2)

end Refill

section Projection

def forget {α : Type} (r : Option (α × RefillCall)) : Option (α × H2nPort) :=
  r.map fun r => (r.1, r.2.port)

theorem refillFrom_port (env : RefillEnv) (mask : U32) (count i : ℕ) (hlosIndex : U32)
    (given : List U32) (c : RefillCall) :
    forget ((refillFrom env mask count i hlosIndex given).exec c) =
      (EmptyBufferRefill.refillFrom env mask count i hlosIndex given).exec c.port := by
  induction count generalizing i hlosIndex given c with
  | zero => rfl
  | succ count ih =>
    unfold refillFrom EmptyBufferRefill.refillFrom allocBuffer emptyBuffer mapBuffer
    cases env.skb i with
    | none => rfl
    | some nbuf =>
      cases env.pagedMode with
      | true =>
        cases env.page i with
        | false => rfl
        | true =>
          cases env.dma i with
          | none => rfl
          | some buffer => exact ih ..
      | false =>
        by_cases hjumbo : env.jumboMru ≠ 0
        · simp only [Option.bind_some, Bool.false_eq_true, if_false, if_pos hjumbo]
          cases env.dma i with
          | none => rfl
          | some buffer => exact ih ..
        · simp only [Option.bind_some, Bool.false_eq_true, if_false, if_neg hjumbo]
          cases env.dma i with
          | none => rfl
          | some buffer => exact ih ..

/-- What is returned and left of the ring is as without skbs, pages and mappings. -/
theorem refillEmptyBuffers_port (cpu : ℕ) (env : RefillEnv) (c : RefillCall) :
    ((refillEmptyBuffers cpu env).exec c).map (fun r => (r.1.2, r.2.port)) =
      (EmptyBufferRefill.refillEmptyBuffers cpu env).exec c.port := by
  let mask : U32 := (c.port.ring.size - 1).setWidth 32
  let count := refillRoom c.port.ring.nssIndexMap c.port.ring.hlosIndex c.port.ring.size
  have hloop := refillFrom_port env mask count.toNat 0 c.port.ring.hlosIndex [] c
  show Option.map _ (Proc.exec (Proc.bind
      (refillFrom env mask count.toNat 0 c.port.ring.hlosIndex []) _) c) =
    Proc.exec (Proc.bind
      (EmptyBufferRefill.refillFrom env mask count.toNat 0 c.port.ring.hlosIndex []) _) c.port
  rw [Proc.exec_bind, Proc.exec_bind, ← hloop]
  cases (refillFrom env mask count.toNat 0 c.port.ring.hlosIndex []).exec c <;> rfl

end Projection

/-- A buffer for the NSS: the skb, its page if it has one, and what its
    descriptor says. -/
structure EmptyBuf where
  nbuf : U32
  page : Option ℕ
  bufferLen : U16
  payloadOffs : U16

def allocated (env : RefillEnv) (i : ℕ) : Option EmptyBuf :=
  (env.skb i).bind fun nbuf =>
    let offs := (nbuf.data - nbuf.head).setWidth 16
    if env.pagedMode then
      if env.page i then some ⟨nbuf.addr, some i, env.pageSize, 0⟩ else none
    else if env.jumboMru ≠ 0 then some ⟨nbuf.addr, none, env.jumboMru.setWidth 16, offs⟩
    else some ⟨nbuf.addr, none, env.maxBufSize + env.netSkbPad, offs⟩

def made (env : RefillEnv) (i : ℕ) : Option (EmptyBuf × U32) :=
  (allocated env i).bind fun b => (env.dma i).map fun buffer => (b, buffer)

structure Describes (b : EmptyBuf × U32) (d : H2nDescriptor) : Prop where
  opaqueWord : d.opaqueWord = b.1.nbuf
  buffer : d.buffer = b.2
  bufferLen : d.bufferLen = b.1.bufferLen
  payloadOffs : d.payloadOffs = b.1.payloadOffs
  bufferType : d.bufferType = H2N_BUFFER_EMPTY

/-- The NSS takes descriptors and does nothing else. -/
def Takes (c c' : RefillCall) : Prop :=
  ∃ d ≤ c.port.ring.outstanding, c' = c.onRing fun r => r.consume d

/-- No descriptor of the NSS is written, in or out of turn. -/
def Spares (c c' : RefillCall) : Prop :=
  ∀ j, c.port.ring.Owned j → c'.port.ring.desc j = c.port.ring.desc j

/-- What a refill found when it counted the free slots. -/
structure Found where
  cpu : ℕ
  size : U16
  start : ℕ
  most : ℕ
  taken : ℕ
  log : List Enqueued

/-- What a refill that has filled `bs` holds, with `extra`, `pages` and `maps`
    besides. -/
structure Kept (f : Found) (bs : List (EmptyBuf × U32)) (extra : List (U32 × Option ℕ))
    (pages : List ℕ) (maps : List U32) (n : ℤ) (c : RefillCall) : Prop where
  taken : f.taken ≤ c.port.ring.consumed
  log : c.port.ring.log = f.log
  skbs : c.skbs = (bs.map fun b => (b.1.nbuf, b.1.page)) ++ extra
  pages : c.pages = pages
  maps : c.maps = bs.map Prod.snd ++ maps
  stat : c.port.stats .nssSkbCount = n

structure Held (f : Found) (bs : List (EmptyBuf × U32)) (extra : List (U32 × Option ℕ))
    (pages : List ℕ) (maps : List U32) (n : ℤ) (c : RefillCall) : Prop
    extends Kept f bs extra pages maps n c where
  ring : ∃ ds, Producing f.cpu f.size f.start f.most (f.log.filter fun e => e.cpu = f.cpu) ds
    c.port.ring ∧ List.Forall₂ Describes bs ds

/-- The next descriptor has the length of the buffer. -/
structure Prepared (slot : ℕ) (b : EmptyBuf) (c : RefillCall) : Prop where
  bufferLen : (c.port.ring.desc slot).bufferLen = b.bufferLen
  payloadOffs : (c.port.ring.desc slot).payloadOffs = b.payloadOffs

section Steps
variable {f : Found} {bs : List (EmptyBuf × U32)} {extra : List (U32 × Option ℕ)}
  {pages : List ℕ} {maps : List U32} {n : ℤ} {c : RefillCall} {b : EmptyBuf} {slot : ℕ}
  {nbuf : U32}

theorem kept_stable : Stable Takes (Kept f bs extra pages maps n) := by
  rintro c c' ⟨d, -, rfl⟩ h
  have htaken := h.taken
  refine ⟨?_, h.log, h.skbs, h.pages, h.maps, h.stat⟩
  show f.taken ≤ c.port.ring.consumed + d
  omega

theorem held_stable : Stable Takes (Held f bs extra pages maps n) := by
  rintro c c' ⟨d, hd, rfl⟩ h
  obtain ⟨ds, hring, hdescs⟩ := h.ring
  have hrely : SoleRely f.cpu c.port.ring (c.port.ring.consume d) :=
    NssTakes.soleRely ⟨d, hd, rfl⟩
  refine ⟨kept_stable c _ ⟨d, hd, rfl⟩ h.toKept, ds, ?_, hdescs⟩
  exact hring.undisturbed (hrely.ok hring.toRingOk) hrely.size hrely.sent
    (hrely.calm hring.toRingOk)

theorem prepared_stable : Stable Takes (Prepared slot b) := by
  rintro c c' ⟨d, -, rfl⟩ h
  exact ⟨h.bufferLen, h.payloadOffs⟩

theorem Held.count (h : Held f bs extra pages maps n c) {x : DrvStat}
    (hx : DrvStat.nssSkbCount ≠ x) : Held f bs extra pages maps n (c.count x) :=
  ⟨⟨h.taken, h.log, h.skbs, h.pages, h.maps, (if_neg hx).trans h.stat⟩, h.ring⟩

theorem Held.countSkb (h : Held f bs extra pages maps n c) :
    Held f bs extra pages maps (n + 1) (c.count .nssSkbCount) := by
  refine ⟨⟨h.taken, h.log, h.skbs, h.pages, h.maps, ?_⟩, h.ring⟩
  rw [← h.stat]
  exact DrvStats.add_self c.port.stats .nssSkbCount 1

theorem Held.devAllocSkb (h : Held f bs [] pages maps n c) (nbuf : U32) :
    Held f bs [(nbuf, none)] pages maps n (c.devAllocSkb nbuf) := by
  refine ⟨⟨h.taken, h.log, ?_, h.pages, h.maps, h.stat⟩, h.ring⟩
  show c.skbs ++ _ = _
  rw [h.skbs, List.append_nil]

theorem Held.allocPage (h : Held f bs extra [] maps n c) (i : ℕ) :
    Held f bs extra [i] maps n (c.allocPage i) := by
  refine ⟨⟨h.taken, h.log, h.skbs, ?_, h.maps, h.stat⟩, h.ring⟩
  show c.pages ++ _ = _
  rw [h.pages]
  rfl

theorem Held.skbFillPageDesc {i : ℕ} (h : Held f bs [(nbuf, none)] [i] maps n c)
    (hnew : nbuf ∉ bs.map fun b => b.1.nbuf) :
    Held f bs [(nbuf, some i)] [] maps n (c.skbFillPageDesc nbuf i) := by
  refine ⟨⟨h.taken, h.log, ?_, ?_, h.maps, h.stat⟩, h.ring⟩
  · show c.skbs.map _ = _
    rw [h.skbs, List.map_append, List.map_map]
    congr 1
    · apply List.map_congr_left
      intro b hb
      exact if_neg fun heq => hnew (List.mem_map.mpr ⟨b, hb, heq⟩)
    · simp
  · show c.pages.erase i = _
    rw [h.pages]
    simp

theorem Held.devKfreeSkbAny {npage : Option ℕ} (h : Held f bs [(nbuf, npage)] pages maps n c)
    (hnew : nbuf ∉ bs.map fun b => b.1.nbuf) :
    Held f bs [] pages maps n (c.devKfreeSkbAny nbuf) := by
  refine ⟨⟨h.taken, h.log, ?_, h.pages, h.maps, h.stat⟩, h.ring⟩
  show c.skbs.filter _ = _
  rw [h.skbs, List.filter_append]
  congr 1
  · apply List.filter_eq_self.mpr
    intro s hs
    obtain ⟨b, hb, rfl⟩ := List.mem_map.mp hs
    exact decide_eq_true fun heq => hnew (List.mem_map.mpr ⟨b, hb, heq⟩)
  · simp

theorem Held.dmaMap (h : Held f bs extra pages [] n c) (buffer : Option U32) :
    Held f bs extra pages buffer.toList n (c.dmaMap buffer) := by
  refine ⟨⟨h.taken, h.log, h.skbs, h.pages, ?_, h.stat⟩, h.ring⟩
  show c.maps ++ _ = _
  rw [h.maps, List.append_nil]

theorem Held.prepare {hlosIndex : U32} (h : Held f bs extra pages maps n c)
    (hidx : hlosIndex.toNat = advance f.size.toNat f.start bs.length) (hroom : bs.length < f.most)
    (len offs : U16) :
    Spares c (c.onRing fun r => r.amend hlosIndex.toNat fun d =>
        { d with bufferLen := len, payloadOffs := offs }) ∧
      Held f bs extra pages maps n (c.onRing fun r => r.amend hlosIndex.toNat fun d =>
        { d with bufferLen := len, payloadOffs := offs }) := by
  obtain ⟨ds, hring, hdescs⟩ := h.ring
  have hlength := hdescs.length_eq
  obtain ⟨hact, hnext⟩ := hring.prepare (fun d => { d with bufferLen := len, payloadOffs := offs })
    (hlength ▸ hidx) (hlength ▸ hroom)
  exact ⟨fun j hj => hact.owned_unchanged hring.toRingOk hj,
    ⟨⟨h.taken, h.log, h.skbs, h.pages, h.maps, h.stat⟩, ds, hnext, hdescs⟩⟩

theorem Held.fill {hlosIndex buffer : U32} (h : Held f bs [(b.nbuf, b.page)] [] [buffer] n c)
    (hprepared : Prepared hlosIndex.toNat b c)
    (hidx : hlosIndex.toNat = advance f.size.toNat f.start bs.length)
    (hroom : bs.length < f.most) :
    Spares c (c.onRing fun r => r.fill hlosIndex.toNat
        (emptyDescriptor b.nbuf buffer (r.desc hlosIndex.toNat))) ∧
      Held f (bs ++ [(b, buffer)]) [] [] [] n (c.onRing fun r => r.fill hlosIndex.toNat
        (emptyDescriptor b.nbuf buffer (r.desc hlosIndex.toNat))) := by
  obtain ⟨ds, hring, hdescs⟩ := h.ring
  have hlength := hdescs.length_eq
  obtain ⟨hact, hnext⟩ := hring.fill
    (emptyDescriptor b.nbuf buffer (c.port.ring.desc hlosIndex.toNat)) (hlength ▸ hidx)
    (hlength ▸ hroom)
  have hdescribes : Describes (b, buffer)
      (emptyDescriptor b.nbuf buffer (c.port.ring.desc hlosIndex.toNat)) :=
    ⟨rfl, rfl, hprepared.bufferLen, hprepared.payloadOffs, rfl⟩
  refine ⟨fun j hj => hact.owned_unchanged hring.toRingOk hj,
    ⟨h.taken, h.log, ?_, h.pages, ?_, h.stat⟩, _, hnext, ?_⟩
  · show c.skbs = _
    rw [h.skbs]
    simp
  · show c.maps = _
    rw [h.maps]
    simp
  · exact List.rel_append hdescs (.cons hdescribes .nil)

end Steps
def Allocates (env : RefillEnv) (attempts : ℕ) : Prop :=
  ∀ i j a b, i < j → j < attempts → env.skb i = some a → env.skb j = some b → a.addr ≠ b.addr

def MadeBy (env : RefillEnv) (bs : List (EmptyBuf × U32)) : Prop :=
  (List.range bs.length).map (made env) = bs.map some

theorem allocated_nbuf {env : RefillEnv} {i : ℕ} {b : EmptyBuf} (h : allocated env i = some b) :
    ∃ a, env.skb i = some a ∧ a.addr = b.nbuf := by
  unfold allocated at h
  obtain ⟨a, ha, hb⟩ := Option.bind_eq_some_iff.mp h
  refine ⟨a, ha, ?_⟩
  dsimp only at hb
  split at hb
  · split at hb
    · rw [← Option.some.inj hb]
    · cases hb
  · split at hb
    · rw [← Option.some.inj hb]
    · rw [← Option.some.inj hb]

theorem made_some {env : RefillEnv} {i : ℕ} {b : EmptyBuf × U32} (h : made env i = some b) :
    allocated env i = some b.1 ∧ env.dma i = some b.2 := by
  unfold made at h
  obtain ⟨b', hb', hbuffer⟩ := Option.bind_eq_some_iff.mp h
  obtain ⟨buffer, hdma, rfl⟩ := Option.map_eq_some_iff.mp hbuffer
  exact ⟨hb', hdma⟩

section Loop
variable {env : RefillEnv} {f : Found} {bs : List (EmptyBuf × U32)} {n : ℤ} {c : RefillCall}

theorem MadeBy.get (h : MadeBy env bs) {j : ℕ} (hj : j < bs.length) : made env j = bs[j]? := by
  have hget := congrArg (fun l => l[j]?) h
  rw [List.getElem?_map, List.getElem?_map, List.getElem?_range hj] at hget
  rw [List.getElem?_eq_getElem hj] at hget ⊢
  exact Option.some.inj hget

theorem MadeBy.snoc (h : MadeBy env bs) {b : EmptyBuf × U32} (hb : made env bs.length = some b) :
    MadeBy env (bs ++ [b]) := by
  unfold MadeBy at h ⊢
  rw [List.length_append, List.length_singleton, List.range_succ, List.map_append, List.map_append,
    h, List.map_singleton, hb]
  rfl

theorem MadeBy.new {attempts : ℕ} (h : MadeBy env bs) (alloc : Allocates env attempts)
    (hlt : bs.length < attempts) {a : EmptySkb} (ha : env.skb bs.length = some a) :
    a.addr ∉ bs.map fun b => b.1.nbuf := by
  intro hin
  obtain ⟨b, hb, heq⟩ := List.mem_map.mp hin
  obtain ⟨j, hj, rfl⟩ := List.mem_iff_getElem.mp hb
  have hmade := h.get hj
  rw [List.getElem?_eq_getElem hj] at hmade
  obtain ⟨a', ha', haddr⟩ := allocated_nbuf (made_some hmade).1
  exact alloc j bs.length a' a hj hlt ha' ha (haddr.trans heq)

theorem MadeBy.nodup {attempts : ℕ} (h : MadeBy env bs) (alloc : Allocates env attempts)
    (hle : bs.length ≤ attempts) : (bs.map fun b => b.1.nbuf).Nodup := by
  have hmade (e : ℕ) (he : e < bs.length) : ∃ a, env.skb e = some a ∧ a.addr = bs[e].1.nbuf := by
    have hget := h.get he
    rw [List.getElem?_eq_getElem he] at hget
    exact allocated_nbuf (made_some hget).1
  refine List.pairwise_iff_getElem.mpr fun i j hi hj hij => ?_
  rw [List.length_map] at hi hj
  obtain ⟨a, ha, haddr⟩ := hmade i hi
  obtain ⟨b, hb, hbaddr⟩ := hmade j hj
  rw [List.getElem_map, List.getElem_map, ← haddr, ← hbaddr]
  exact alloc i j a b hij (by omega) ha hb

theorem amend_self (r : H2nRing) (idx : ℕ) (g : H2nDescriptor → H2nDescriptor) :
    (r.amend idx g).desc idx = g (r.desc idx) := by
  unfold H2nRing.amend
  exact Function.update_self ..

theorem mapBuffer_held {i slot : ℕ} {hlosIndex : U32} {b : EmptyBuf}
    (h : Held f bs [(b.nbuf, b.page)] [] [] n c) (hslot : hlosIndex.toNat = slot)
    (hidx : slot = advance f.size.toNat f.start bs.length) (hroom : bs.length < f.most) :
    Sat Takes Spares (fun a c => a = some b.nbuf ∧
        Held f bs [(b.nbuf, b.page)] [] (env.dma i).toList n c ∧ Prepared slot b c)
      (mapBuffer env i hlosIndex b.nbuf b.bufferLen b.payloadOffs) c := by
  subst hslot
  unfold mapBuffer
  refine Sat.modify held_stable h fun u hu => ⟨fun _ _ => rfl, ?_⟩
  refine Sat.modify held_stable (hu.dmaMap (env.dma i)) fun v hv => ?_
  obtain ⟨hspares, hnext⟩ := hv.prepare hidx hroom b.bufferLen b.payloadOffs
  refine ⟨hspares, Sat.ret ?_ ⟨rfl, hnext, ?_⟩⟩
  · rintro s t hr ⟨ha, hs, hp⟩
    exact ⟨ha, held_stable s t hr hs, prepared_stable s t hr hp⟩
  · have hself := amend_self v.port.ring hlosIndex.toNat fun d =>
      { d with bufferLen := b.bufferLen, payloadOffs := b.payloadOffs }
    exact ⟨congrArg H2nDescriptor.bufferLen hself, congrArg H2nDescriptor.payloadOffs hself⟩

/-- After the allocation: nothing is held besides, or the buffer is. -/
def Tried (env : RefillEnv) (f : Found) (bs : List (EmptyBuf × U32)) (n : ℤ) (slot : ℕ)
    (a : Option U32) (c : RefillCall) : Prop :=
  match allocated env bs.length with
  | none => a = none ∧ Held f bs [] [] [] n c
  | some b => a = some b.nbuf ∧
      Held f bs [(b.nbuf, b.page)] [] (env.dma bs.length).toList n c ∧ Prepared slot b c

theorem tried_stable {slot : ℕ} (a : Option U32) : Stable Takes (Tried env f bs n slot a) := by
  intro s t hr h
  unfold Tried at h ⊢
  split at h
  · exact ⟨h.1, held_stable s t hr h.2⟩
  · exact ⟨h.1, held_stable s t hr h.2.1, prepared_stable s t hr h.2.2⟩

theorem allocBuffer_tried {hlosIndex : U32} (h : Held f bs [] [] [] n c)
    (hidx : hlosIndex.toNat = advance f.size.toNat f.start bs.length) (hroom : bs.length < f.most)
    (hnew : ∀ a, env.skb bs.length = some a → a.addr ∉ bs.map fun b => b.1.nbuf) :
    Sat Takes Spares (Tried env f bs n hlosIndex.toNat)
      (allocBuffer env bs.length hlosIndex) c := by
  have hfails : DrvStat.nssSkbCount ≠ .nbufAllocFails := by decide
  unfold allocBuffer
  cases hskb : env.skb bs.length with
  | none =>
    have hnone : allocated env bs.length = none := by simp [allocated, hskb]
    refine Sat.modify held_stable h fun u hu => ⟨fun _ _ => rfl, ?_⟩
    refine Sat.ret (tried_stable none) ?_
    unfold Tried
    rw [hnone]
    exact ⟨rfl, hu.count hfails⟩
  | some nbuf =>
    refine Sat.modify held_stable h fun u hu => ⟨fun _ _ => rfl, ?_⟩
    have hheld := hu.devAllocSkb nbuf.addr
    have hrest : allocated env bs.length =
        if env.pagedMode then
          if env.page bs.length then some ⟨nbuf.addr, some bs.length, env.pageSize, 0⟩ else none
        else if env.jumboMru ≠ 0 then
          some ⟨nbuf.addr, none, env.jumboMru.setWidth 16, (nbuf.data - nbuf.head).setWidth 16⟩
        else some ⟨nbuf.addr, none, env.maxBufSize + env.netSkbPad,
          (nbuf.data - nbuf.head).setWidth 16⟩ := by
      unfold allocated
      rw [hskb]
      rfl
    have hmap (b : EmptyBuf) (hb : allocated env bs.length = some b) {v : RefillCall}
        (hv : Held f bs [(b.nbuf, b.page)] [] [] n v) :
        Sat Takes Spares (Tried env f bs n hlosIndex.toNat)
          (mapBuffer env bs.length hlosIndex b.nbuf b.bufferLen b.payloadOffs) v := by
      refine (mapBuffer_held hv rfl hidx hroom).post fun a c ha => ?_
      unfold Tried
      rw [hb]
      exact ha
    dsimp only
    cases hpaged : env.pagedMode with
    | true =>
      rw [if_pos rfl]
      cases hpage : env.page bs.length with
      | true =>
        rw [if_pos rfl]
        refine Sat.modify held_stable hheld fun v hv => ⟨fun _ _ => rfl, ?_⟩
        refine Sat.modify held_stable (hv.allocPage bs.length) fun w hw => ⟨fun _ _ => rfl, ?_⟩
        rw [hpaged, if_pos rfl, hpage, if_pos rfl] at hrest
        exact hmap ⟨nbuf.addr, some bs.length, env.pageSize, 0⟩ hrest
          (hw.skbFillPageDesc (hnew nbuf hskb))
      | false =>
        have hnone : allocated env bs.length = none := by
          rw [hrest, hpaged, hpage, if_pos rfl, if_neg (by decide)]
        rw [if_neg (by decide)]
        refine Sat.modify held_stable hheld fun v hv => ⟨fun _ _ => rfl, ?_⟩
        refine Sat.modify held_stable (hv.devKfreeSkbAny (hnew nbuf hskb)) fun w hw =>
          ⟨fun _ _ => rfl, ?_⟩
        refine Sat.ret (tried_stable none) ?_
        unfold Tried
        rw [hnone]
        exact ⟨rfl, hw.count hfails⟩
    | false =>
      rw [if_neg (by decide)]
      by_cases hjumbo : env.jumboMru ≠ 0
      · rw [hpaged, if_neg (by decide), if_pos hjumbo] at hrest
        rw [if_pos hjumbo]
        exact hmap ⟨nbuf.addr, none, env.jumboMru.setWidth 16, (nbuf.data - nbuf.head).setWidth 16⟩
          hrest hheld
      · rw [hpaged, if_neg (by decide), if_neg hjumbo] at hrest
        rw [if_neg hjumbo]
        exact hmap ⟨nbuf.addr, none, env.maxBufSize + env.netSkbPad,
            (nbuf.data - nbuf.head).setWidth 16⟩
          hrest hheld

/-- What the loop leaves: it stopped at a full ring or at a failed attempt. -/
def Stopped (env : RefillEnv) (f : Found) (n : ℤ) (a : U32 × List U32) (c : RefillCall) : Prop :=
  ∃ bs, Held f bs [] [] [] (n + bs.length) c ∧ MadeBy env bs ∧
    a.1.toNat = advance f.size.toNat f.start bs.length ∧ a.2 = bs.map (fun b => b.1.nbuf) ∧
    bs.length ≤ f.most ∧ (bs.length = f.most ∨ made env bs.length = none)

theorem stopped_ret {a : U32 × List U32} (h : Held f bs [] [] [] (n + bs.length) c)
    (hmade : MadeBy env bs) (hidx : a.1.toNat = advance f.size.toNat f.start bs.length)
    (hgiven : a.2 = bs.map fun b => b.1.nbuf) (hle : bs.length ≤ f.most)
    (hstop : bs.length = f.most ∨ made env bs.length = none) :
    Sat Takes Spares (Stopped env f n) (.ret a) c := by
  refine Sat.ret ?_ ⟨bs, h, hmade, hidx, hgiven, hle, hstop⟩
  rintro s t hr ⟨bs, hs, hrest⟩
  exact ⟨bs, held_stable s t hr hs, hrest⟩

theorem refillFrom_stopped {k attempts : ℕ} (hk : k < 16) (hsize : f.size.toNat = 2 ^ k)
    (alloc : Allocates env attempts) (hattempts : f.most ≤ attempts) (count : ℕ) {hlosIndex : U32}
    (h : Held f bs [] [] [] (n + bs.length) c) (hmade : MadeBy env bs)
    (hcount : bs.length + count = f.most)
    (hidx : hlosIndex.toNat = advance f.size.toNat f.start bs.length) :
    Sat Takes Spares (Stopped env f n) (refillFrom env ((f.size - 1).setWidth 32) count bs.length
      hlosIndex (bs.map fun b => b.1.nbuf)) c := by
  induction count generalizing bs hlosIndex c with
  | zero => exact stopped_ret h hmade hidx rfl (by omega) (.inl (by omega))
  | succ count ih =>
    have hnew (a : EmptySkb) (ha : env.skb bs.length = some a) :
        a.addr ∉ bs.map fun b => b.1.nbuf := hmade.new alloc (by omega) ha
    unfold refillFrom
    refine (allocBuffer_tried h hidx (by omega) hnew).bind fun a u hu => ?_
    unfold Tried at hu
    cases hallocated : allocated env bs.length with
    | none =>
      rw [hallocated] at hu
      obtain ⟨rfl, hu⟩ := hu
      have hnone : made env bs.length = none := by
        unfold made
        rw [hallocated]
        rfl
      exact stopped_ret hu hmade hidx rfl (by omega) (.inr hnone)
    | some b =>
      rw [hallocated] at hu
      obtain ⟨rfl, hu, hprepared⟩ := hu
      obtain ⟨nbuf, hskb, haddr⟩ := allocated_nbuf hallocated
      dsimp only
      cases hdma : env.dma bs.length with
      | none =>
        have hnone : made env bs.length = none := by
          unfold made
          rw [hallocated, hdma]
          rfl
        rw [hdma] at hu
        refine Sat.modify held_stable hu fun v hv => ⟨fun _ _ => rfl, ?_⟩
        exact stopped_ret (hv.devKfreeSkbAny (haddr ▸ hnew nbuf hskb)) hmade hidx rfl (by omega)
          (.inr hnone)
      | some buffer =>
        rw [hdma] at hu
        have hsome : made env bs.length = some (b, buffer) := by
          unfold made
          rw [hallocated, hdma]
          rfl
        have hboth : Stable Takes fun v =>
            Held f bs [(b.nbuf, b.page)] [] [buffer] (n + bs.length) v ∧
              Prepared hlosIndex.toNat b v :=
          held_stable.and prepared_stable
        have hcounted : Stable Takes fun v =>
            Held f bs [(b.nbuf, b.page)] [] [buffer] (n + bs.length + 1) v ∧
              Prepared hlosIndex.toNat b v :=
          held_stable.and prepared_stable
        refine Sat.modify hboth ⟨hu, hprepared⟩ fun v hv => ⟨fun _ _ => rfl, ?_⟩
        have hnext : Held f bs [(b.nbuf, b.page)] [] [buffer] (n + bs.length + 1)
              (v.count .nssSkbCount) ∧ Prepared hlosIndex.toNat b (v.count .nssSkbCount) :=
          ⟨hv.1.countSkb, hv.2.bufferLen, hv.2.payloadOffs⟩
        refine Sat.modify hcounted hnext fun w hw => ?_
        obtain ⟨hspares, hfilled⟩ := hw.1.fill hw.2 hidx (by omega)
        have hlength : (bs ++ [(b, buffer)]).length = bs.length + 1 := by simp
        have hstat : n + bs.length + 1 = n + ((bs ++ [(b, buffer)]).length : ℤ) := by
          rw [hlength, add_assoc]
          rfl
        have hidx' : ((hlosIndex + 1) &&& (f.size - 1).setWidth 32).toNat =
            advance f.size.toNat f.start (bs ++ [(b, buffer)]).length := by
          rw [next_word hk hsize, hidx, advance_advance, hlength]
        rw [hstat] at hfilled
        have hrest := ih hfilled (hmade.snoc hsome) (by omega) hidx'
        rw [hlength, List.map_append] at hrest
        exact ⟨hspares, hrest⟩

end Loop
structure Stored (f : Found) (bs : List (EmptyBuf × U32)) (n : ℤ) (next : U32) (c : RefillCall) :
    Prop extends Kept f bs [] [] [] n c where
  start : c.port.ring.hlosIndexMap.toNat = f.start
  ring : ∃ ds, Indexed f.cpu f.size (f.log.filter fun e => e.cpu = f.cpu) ds next c.port.ring ∧
    List.Forall₂ Describes bs ds

/-- A refill begun in `c` has counted `count` free slots, when the NSS had taken
    `taken` descriptors, and published `bs`. -/
structure Refilled (env : RefillEnv) (c : RefillCall) (count : U16) (bs : List (EmptyBuf × U32))
    (c' : RefillCall) : Prop where
  made : MadeBy env bs
  stopped : bs.length = count.toNat ∨ RefillResources.made env bs.length = none
  fits : bs.length ≤ count.toNat
  counted : ∃ taken, c.port.ring.consumed ≤ taken ∧ taken ≤ c'.port.ring.consumed ∧
    count.toNat + 1 + c.port.ring.outstanding + c.port.ring.consumed =
      c.port.ring.size.toNat + taken
  ok : RingOk c'.port.ring
  slots : List.Forall₂ Describes bs (window c'.port.ring.desc c.port.ring.size.toNat
    c.port.ring.hlosIndexMap.toNat bs.length)
  published : c'.port.ring.published = c.port.ring.published ++
    window c'.port.ring.desc c.port.ring.size.toNat c.port.ring.hlosIndexMap.toNat bs.length
  index : c'.port.ring.hlosIndexMap.toNat =
    advance c.port.ring.size.toNat c.port.ring.hlosIndexMap.toNat bs.length
  settled : c'.port.ring.hlosIndex = c'.port.ring.hlosIndexMap
  distinct : (bs.map fun b => b.1.nbuf).Nodup
  skbs : c'.skbs = bs.map fun b => (b.1.nbuf, b.1.page)
  pages : c'.pages = []
  maps : c'.maps = bs.map Prod.snd
  skbCount : c'.port.stats .nssSkbCount = c.port.stats .nssSkbCount + bs.length

/-- Between two refills; the call holds nothing yet. -/
structure Begins (c : RefillCall) : Prop where
  ring : RingOk c.port.ring
  settled : c.port.ring.hlosIndex = c.port.ring.hlosIndexMap
  wrote : c.port.ring.wrote = 0
  skbs : c.skbs = []
  pages : c.pages = []
  maps : c.maps = []

section Call
variable {cpu : ℕ} {env : RefillEnv} {f : Found} {bs : List (EmptyBuf × U32)} {n : ℤ}
  {c : RefillCall}

theorem stored_stable {next : U32} : Stable Takes (Stored f bs n next) := by
  rintro c c' ⟨d, hd, rfl⟩ h
  obtain ⟨ds, hring, hdescs⟩ := h.ring
  have hrely : SoleRely f.cpu c.port.ring (c.port.ring.consume d) :=
    NssTakes.soleRely ⟨d, hd, rfl⟩
  refine ⟨kept_stable c _ ⟨d, hd, rfl⟩ h.toKept, h.start, ds, ?_, hdescs⟩
  exact hring.undisturbed (hrely.ok hring.toRingOk) hrely.size hrely.sent
    (hrely.calm hring.toRingOk)

theorem refilled_stable {count : U16} : Stable Takes (Refilled env c count bs) := by
  rintro u u' ⟨d, hd, rfl⟩ h
  obtain ⟨taken, hbefore, hafter, hcount⟩ := h.counted
  refine ⟨h.made, h.stopped, h.fits, ?_, ?_, h.slots, h.published, h.index, h.settled, h.distinct,
    h.skbs, h.pages, h.maps, h.skbCount⟩
  · exact ⟨taken, hbefore, hafter.trans (Nat.le_add_right _ d), hcount⟩
  · exact NssTakes.ringOk h.ok ⟨d, hd, rfl⟩

theorem Begins.held (h : Begins c) (cpu : ℕ) :
    Held ⟨cpu, c.port.ring.size, c.port.ring.hlosIndexMap.toNat, 0, c.port.ring.consumed,
      c.port.ring.log⟩ [] [] [] [] (c.port.stats .nssSkbCount) c := by
  have hroom := h.ring.room
  refine ⟨⟨le_rfl, rfl, h.skbs, h.pages, h.maps, rfl⟩, [], ?_, .nil⟩
  exact { h.ring with
    size_eq := rfl, start_eq := rfl, index_eq := h.settled
    fits := by
      show c.port.ring.outstanding + 0 < c.port.ring.size.toNat
      omega
    sent_eq := rfl
    pending_eq := by rw [H2nRing.pending, h.wrote, window_zero] }

theorem publish_refilled {u : RefillCall} {next : U32} {count : U16} {taken : ℕ}
    (h : Stored ⟨cpu, c.port.ring.size, c.port.ring.hlosIndexMap.toNat, count.toNat, taken,
      c.port.ring.log⟩ bs (c.port.stats .nssSkbCount + bs.length) next u)
    (hmade : MadeBy env bs) (hstop : bs.length = count.toNat ∨ made env bs.length = none)
    (hfits : bs.length ≤ count.toNat) (hdistinct : (bs.map fun b => b.1.nbuf).Nodup)
    (hbefore : c.port.ring.consumed ≤ taken)
    (hcount : count.toNat + 1 + c.port.ring.outstanding + c.port.ring.consumed =
      c.port.ring.size.toNat + taken) :
    Spares u (u.onRing fun r => r.publish next (r.pending.map (single cpu))) ∧
      Refilled env c count bs (u.onRing fun r => r.publish next (r.pending.map (single cpu))) := by
  obtain ⟨ds, hring, hdescs⟩ := h.ring
  have hlength := hdescs.length_eq
  have htaken : taken ≤ u.port.ring.consumed := h.taken
  have hall : (ds.map (single cpu)).flatMap Enqueued.descs = ds := by
    rw [List.flatMap_map]
    exact List.flatMap_singleton' ds
  obtain ⟨hact, hsettled⟩ := hring.publish (ds.map (single cpu)) (by simp [single]) hall
  have hwrote : u.port.ring.wrote = bs.length := by
    rw [← H2nRing.length_pending, hring.pending_eq, hlength]
  have hwindow : window u.port.ring.desc c.port.ring.size.toNat c.port.ring.hlosIndexMap.toNat
      bs.length = ds := by
    have hpending := hring.pending_eq
    rw [H2nRing.pending, hring.size_eq, h.start, hwrote] at hpending
    exact hpending
  rw [← hring.pending_eq] at hact hsettled
  refine ⟨fun j hj => hact.owned_unchanged hring.toRingOk hj, ?_⟩
  constructor
  · exact hmade
  · exact hstop
  · exact hfits
  · exact ⟨taken, hbefore, htaken, hcount⟩
  · exact hsettled.toRingOk
  · show List.Forall₂ Describes bs (window u.port.ring.desc _ _ _)
    rw [hwindow]
    exact hdescs
  · show (u.port.ring.log ++ u.port.ring.pending.map (single cpu)).flatMap Enqueued.descs =
      c.port.ring.published ++ window u.port.ring.desc _ _ _
    rw [hwindow, hring.pending_eq, List.flatMap_append, hall, h.log]
    rfl
  · show next.toNat = _
    rw [hring.next_eq, hring.size_eq, h.start, hwrote]
  · exact hsettled.index_eq
  · exact hdistinct
  · show u.skbs = _
    rw [h.skbs, List.append_nil]
  · exact h.pages
  · show u.maps = _
    rw [h.maps, List.append_nil]
  · exact h.stat

/-- The two stores of the index after the loop. -/
theorem storeIndices_sat {count : U16} {taken : ℕ} {a : U32 × List U32} {t : RefillCall}
    (alloc : Allocates env c.port.ring.size.toNat)
    (h : Stopped env ⟨cpu, c.port.ring.size, c.port.ring.hlosIndexMap.toNat, count.toNat, taken,
      c.port.ring.log⟩ (c.port.stats .nssSkbCount) a t)
    (hlt : count.toNat ≤ c.port.ring.size.toNat) (hbefore : c.port.ring.consumed ≤ taken)
    (hcount : count.toNat + 1 + c.port.ring.outstanding + c.port.ring.consumed =
      c.port.ring.size.toNat + taken) :
    Sat Takes Spares (fun r c' => ∃ bs : List (EmptyBuf × U32),
        r.2 = bs.map (fun b => b.1.nbuf) ∧ Refilled env c r.1 bs c') (do
      Proc.modify (RefillCall.onRing fun r => r.setHlosIndex a.1)
      Proc.modify (RefillCall.onRing fun r => r.publish a.1 (r.pending.map (single cpu)))
      return (count, a.2)) t := by
  obtain ⟨bs, ht, hmade, hnext, hgiven, hle, hstop⟩ := h
  refine Sat.modify held_stable ht fun x hx => ?_
  obtain ⟨ds, hxring, hdescs⟩ := hx.ring
  obtain ⟨hact, hindexed⟩ := Indexed.of_setIndex hxring (hdescs.length_eq ▸ hnext)
  have hstored : Stored ⟨cpu, c.port.ring.size, c.port.ring.hlosIndexMap.toNat, count.toNat, taken,
      c.port.ring.log⟩ bs (c.port.stats .nssSkbCount + bs.length) a.1
        (x.onRing fun r => r.setHlosIndex a.1) :=
    ⟨⟨hx.taken, hx.log, hx.skbs, hx.pages, hx.maps, hx.stat⟩, hxring.start_eq, ds, hindexed,
      hdescs⟩
  refine ⟨fun j hj => hact.owned_unchanged hxring.toRingOk hj, ?_⟩
  refine Sat.modify stored_stable hstored fun y hy => ?_
  have hnodup := hmade.nodup alloc (hle.trans hlt)
  obtain ⟨hspares, hdone⟩ := publish_refilled hy hmade hstop hle hnodup hbefore hcount
  refine ⟨hspares, Sat.ret ?_ ⟨bs, hgiven, hdone⟩⟩
  rintro s s' hr ⟨bs', hgiven', hs⟩
  exact ⟨bs', hgiven', refilled_stable s s' hr hs⟩

/-- Every access of a refill spares the descriptors of the NSS, and it ends with
    what it allocated and mapped published. -/
theorem refill_sat (cpu : ℕ) (hbegins : Begins c) (alloc : Allocates env c.port.ring.size.toNat) :
    Sat Takes Spares (fun r c' => ∃ bs : List (EmptyBuf × U32),
        r.2 = bs.map (fun b => b.1.nbuf) ∧ Refilled env c r.1 bs c')
      (refillEmptyBuffers cpu env) c := by
  let size := c.port.ring.size
  let start := c.port.ring.hlosIndexMap.toNat
  let log := c.port.ring.log
  obtain ⟨k, hk, hpow⟩ := hbegins.ring.pow
  refine Sat.read (fun _ _ _ _ => rfl) held_stable (hbegins.held cpu) fun u hu => ?_
  obtain ⟨es, hfirst, hes⟩ := hu.ring
  obtain rfl : es = [] := List.eq_nil_of_length_eq_zero hes.length_eq.symm
  have hsize : u.port.ring.size = size := hfirst.size_eq
  have hroom := hfirst.room
  have hconst : u.port.ring.consumed + u.port.ring.outstanding =
      c.port.ring.consumed + c.port.ring.outstanding := by
    have hpublished : u.port.ring.published = c.port.ring.published := by
      unfold H2nRing.published
      rw [hu.log]
    rw [hfirst.count, hbegins.ring.count, hpublished]
  let f : Found := ⟨cpu, size, start, size.toNat - 1 - u.port.ring.outstanding,
    u.port.ring.consumed, log⟩
  have hheld : Held f [] [] [] [] (c.port.stats .nssSkbCount) u := by
    refine ⟨⟨le_rfl, hu.log, hu.skbs, hu.pages, hu.maps, hu.stat⟩, [], ?_, .nil⟩
    exact { hfirst with
      fits := by
        show u.port.ring.outstanding + (size.toNat - 1 - u.port.ring.outstanding) < size.toNat
        rw [hsize] at hroom
        omega }
  refine Sat.read (fun _ _ _ _ => rfl) held_stable hheld fun v hv => ?_
  refine Sat.read (fun _ _ _ _ => rfl) held_stable hv fun w hw => ?_
  obtain ⟨vs, hvring, -⟩ := hv.ring
  obtain ⟨ws, hwring, -⟩ := hw.ring
  have hindex : v.port.ring.hlosIndex.toNat = start := by
    rw [hvring.index_eq]
    exact hvring.start_eq
  have hhlos : start < size.toNat := hbegins.ring.hlos
  have hcount : (refillRoom u.port.ring.nssIndexMap v.port.ring.hlosIndex size).toNat +
      gap size.toNat u.port.ring.nssIndexMap.toNat v.port.ring.hlosIndex.toNat =
        size.toNat - 1 :=
    refillRoom_toNat (by omega) hpow (hsize ▸ hfirst.nss) (hindex ▸ hhlos)
  have hgap : gap size.toNat u.port.ring.nssIndexMap.toNat v.port.ring.hlosIndex.toNat =
      u.port.ring.outstanding := by
    rw [hindex, H2nRing.outstanding, hsize, hfirst.start_eq]
  have hmost : (refillRoom u.port.ring.nssIndexMap v.port.ring.hlosIndex size).toNat = f.most := by
    show _ = size.toNat - 1 - u.port.ring.outstanding
    rw [hgap] at hcount
    omega
  rw [show w.port.ring.size = size from hwring.size_eq]
  have hzero : c.port.stats .nssSkbCount =
      c.port.stats .nssSkbCount + (([] : List (EmptyBuf × U32)).length : ℤ) := by simp
  rw [hzero] at hw
  dsimp only
  generalize hn : refillRoom u.port.ring.nssIndexMap v.port.ring.hlosIndex size = count at hmost
  refine Sat.bind (refillFrom_stopped (k := k) (by omega) hpow alloc ?_
    count.toNat hw rfl ?_ ?_) ?_
  · show size.toNat - 1 - u.port.ring.outstanding ≤ size.toNat
    omega
  · rw [List.length_nil, hmost, Nat.zero_add]
  · show v.port.ring.hlosIndex.toNat = advance size.toNat start 0
    rw [hindex, advance_zero hhlos]
  · intro a t hstopped
    have hvalue : count.toNat = size.toNat - 1 - u.port.ring.outstanding := hmost
    have hcounted : count.toNat + 1 + c.port.ring.outstanding + c.port.ring.consumed =
        size.toNat + u.port.ring.consumed := by
      rw [hsize] at hroom
      omega
    refine storeIndices_sat alloc (?_ : Stopped env ⟨cpu, size, start, count.toNat, _, log⟩ _ a t)
      (?_ : count.toNat ≤ size.toNat) hu.taken hcounted
    · rw [hvalue]
      exact hstopped
    · omega

theorem mapBuffer_total (env : RefillEnv) (i : ℕ) (hlosIndex nbuf : U32) (len offs : U16)
    (c : RefillCall) : Total (fun _ _ => True) (fun _ _ => True)
      (mapBuffer env i hlosIndex nbuf len offs) c :=
  total_modify (fun t => total_modify total_ret t) c

theorem allocBuffer_total (env : RefillEnv) (i : ℕ) (hlosIndex : U32) (c : RefillCall) :
    Total (fun _ _ => True) (fun _ _ => True) (allocBuffer env i hlosIndex) c := by
  unfold allocBuffer
  cases env.skb i with
  | none => exact total_modify total_ret c
  | some nbuf =>
    refine total_modify (fun t => ?_) c
    dsimp only
    cases env.pagedMode with
    | true =>
      cases env.page i with
      | true =>
        exact total_modify (fun u => total_modify (fun v => mapBuffer_total _ _ _ _ _ _ v) u) t
      | false => exact total_modify (fun u => total_modify total_ret u) t
    | false =>
      rw [if_neg (by decide)]
      split
      · exact mapBuffer_total _ _ _ _ _ _ t
      · exact mapBuffer_total _ _ _ _ _ _ t

theorem refillFrom_total (env : RefillEnv) (mask : U32) (count i : ℕ) (hlosIndex : U32)
    (given : List U32) (c : RefillCall) : Total (fun _ _ => True) (fun _ _ => True)
      (refillFrom env mask count i hlosIndex given) c := by
  induction count generalizing i hlosIndex given c with
  | zero => exact total_ret c
  | succ count ih =>
    refine Total.bind (allocBuffer_total env i hlosIndex c) fun a t _ => ?_
    cases a with
    | none => exact total_ret t
    | some nbuf =>
      cases hdma : env.dma i with
      | none =>
        exact total_modify total_ret t
      | some buffer =>
        exact total_modify (fun u => total_modify (fun v => ih _ _ _ v) u) t

theorem refill_total (cpu : ℕ) (env : RefillEnv) (c : RefillCall) :
    Total (fun _ _ => True) (fun _ _ => True) (refillEmptyBuffers cpu env) c := by
  refine total_read (fun nssIndex t => ?_) c
  refine total_read (fun hlosIndex u => ?_) t
  refine total_read (fun size v => ?_) u
  refine Total.bind (refillFrom_total _ _ _ _ _ _ v) fun a w _ => ?_
  exact total_modify (fun x => total_modify total_ret x) w

/-- Whatever the mode and whichever attempt fails, and while the NSS takes
    descriptors: no access writes a descriptor of the NSS, and the refill returns
    with exactly what it allocated and mapped published and held. -/
theorem refill_exact (cpu : ℕ) (env : RefillEnv) (c : RefillCall) (hbegins : Begins c)
    (alloc : Allocates env c.port.ring.size.toNat) :
    Sat Takes Spares (fun _ _ => True) (refillEmptyBuffers cpu env) c ∧
      Total Takes (fun r c' => ∃ bs : List (EmptyBuf × U32),
        r.2 = bs.map (fun b => b.1.nbuf) ∧ Refilled env c r.1 bs c')
        (refillEmptyBuffers cpu env) c := by
  have hsat := refill_sat cpu hbegins alloc
  constructor
  · exact hsat.post fun _ _ _ => trivial
  · have htotal : Total Takes (fun _ _ => True) (refillEmptyBuffers cpu env) c :=
      (refill_total cpu env c).mono (fun _ _ _ => trivial) fun _ _ _ => trivial
    exact (htotal.sat hsat).mono (fun _ _ h => h) fun _ _ h => h.2

end Call

/-- Two attempts with a page each succeed, and the third gets no page. -/
def twoPages : RefillEnv where
  pagedMode := true
  jumboMru := 0
  maxBufSize := 1792
  netSkbPad := 32
  pageSize := 4096
  skb := fun i => some ⟨BitVec.ofNat 32 (0x1000 * (i + 1)), 0x40, 0x60⟩
  page := fun i => decide (i < 2)
  dma := fun i => some (BitVec.ofNat 32 (0x100000 * (i + 1)))

def emptyQueue : RefillCall :=
  ⟨⟨{ desc := fun _ => ⟨0, 0, 0, 0, 0, 0, 0, 0, 0, 0⟩, size := 8, hlosIndex := 0, lock := none,
      flags := 0, txQFullCnt := 0, nssIndexMap := 0, hlosIndexMap := 0, wrote := 0, log := [],
      consumed := 0 }, 0, fun _ => 0, 0⟩, [], [], []⟩

theorem refill_exact_two : ∃ c', (refillEmptyBuffers 0 twoPages).exec emptyQueue =
      some ((7, [0x1000, 0x2000]), c') ∧
    ∃ bs, bs.map (fun b => b.1.nbuf) = [0x1000, 0x2000] ∧ Refilled twoPages emptyQueue 7 bs c' := by
  have hbegins : Begins emptyQueue :=
    ⟨⟨⟨3, by decide, rfl⟩, by decide, by decide, by decide, rfl, rfl⟩, rfl, rfl, rfl, rfl, rfl⟩
  have halloc : Allocates twoPages emptyQueue.port.ring.size.toNat := by
    intro i j a b hij hj ha hb
    have hj8 : j < 8 := hj
    rw [← Option.some.inj ha, ← Option.some.inj hb]
    intro heq
    have hnat := congrArg BitVec.toNat heq
    rw [BitVec.toNat_ofNat, BitVec.toNat_ofNat] at hnat
    omega
  obtain ⟨r, c', hexec, bs, hgiven, hrefilled⟩ := (refill_exact 0 twoPages emptyQueue hbegins
    halloc).2.exec
  have hrun : ((refillEmptyBuffers 0 twoPages).exec emptyQueue).map Prod.fst =
      some (7, [0x1000, 0x2000]) := rfl
  rw [hexec] at hrun
  obtain rfl := Option.some.inj hrun
  exact ⟨c', hexec, bs, hgiven.symm, hrefilled⟩

end NssDrv.RefillResources

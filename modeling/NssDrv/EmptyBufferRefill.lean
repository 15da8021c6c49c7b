import NssDrv.RingLocking
import NssDrv.TransmitEncoders

set_option autoImplicit false

/-!
# Refilling the empty-buffer ring

The part of `nss_core_handle_cause_nonqueue` of `nss_core.c` that hands empty
buffers to an initialised core. It takes no lock.
-/
namespace NssDrv.EmptyBufferRefill
open HlosInterface SharedThread CyclicIndex DescriptorRing RingLocking TransmitEncoders

structure EmptySkb where
  addr : U32
  head : U32
  data : U32

/-- What the refill meets outside the driver; allocations and mappings by the
    number of the attempt. -/
structure RefillEnv where
  pagedMode : Bool
  jumboMru : U32
  maxBufSize : U16
  netSkbPad : U16
  pageSize : U16
  skb : ℕ → Option EmptySkb
  page : ℕ → Bool
  dma : ℕ → Option U32

section Refill
variable (cpu : ℕ) (env : RefillEnv)

/-- A new buffer with its length and the offset of its payload. -/
def emptyBuffer (i : ℕ) : Option (U32 × U16 × U16) :=
  (env.skb i).bind fun nbuf =>
    let offs := (nbuf.data - nbuf.head).setWidth 16
    if env.pagedMode then
      if env.page i then some (nbuf.addr, env.pageSize, 0) else none
    else if env.jumboMru ≠ 0 then some (nbuf.addr, env.jumboMru.setWidth 16, offs)
    else some (nbuf.addr, env.maxBufSize + env.netSkbPad, offs)

def emptyDescriptor (nbuf buffer : U32) (d : H2nDescriptor) : H2nDescriptor :=
  { d with opaqueWord := nbuf, buffer := buffer, bufferType := H2N_BUFFER_EMPTY }

/-- The loop, with the buffers given to the NSS so far. -/
def refillFrom (mask : U32) : ℕ → ℕ → U32 → List U32 → Proc H2nPort (U32 × List U32)
  | 0, _, hlosIndex, given => return (hlosIndex, given)
  | count + 1, i, hlosIndex, given =>
    match emptyBuffer env i with
    | none => do
      nssPktStatsIncrement .nbufAllocFails
      return (hlosIndex, given)
    | some (nbuf, bufferLen, payloadOffs) => do
      Proc.modify <| H2nPort.onRing fun r => r.amend hlosIndex.toNat fun d =>
        { d with bufferLen := bufferLen, payloadOffs := payloadOffs }
      match env.dma i with
      | none => return (hlosIndex, given)
      | some buffer => do
        nssPktStatsIncrement .nssSkbCount
        Proc.modify <| H2nPort.onRing fun r =>
          r.fill hlosIndex.toNat (emptyDescriptor nbuf buffer (r.desc hlosIndex.toNat))
        refillFrom mask count (i + 1) ((hlosIndex + 1) &&& mask) (given ++ [nbuf])

def single (cpu : ℕ) (d : H2nDescriptor) : Enqueued := ⟨cpu, d.opaqueWord, [d]⟩

def refillRoom (nssIndex hlosIndex : U32) (size : U16) : U16 :=
  ((nssIndex - hlosIndex - 1 + size.setWidth 32) &&& (size - 1).setWidth 32).setWidth 16

def refillEmptyBuffers : Proc H2nPort (List U32) := do
  let nssIndex ← Proc.read fun p => p.ring.nssIndexMap
  let hlosIndex ← Proc.read fun p => p.ring.hlosIndex
  let size ← Proc.read fun p => p.ring.size
  let count := refillRoom nssIndex hlosIndex size
  let filled ← refillFrom env ((size - 1).setWidth 32) count.toNat 0 hlosIndex []
  Proc.modify (H2nPort.onRing fun r => r.setHlosIndex filled.1)
  Proc.modify (H2nPort.onRing fun r => r.publish filled.1 (r.pending.map (single cpu)))
  return filled.2

end Refill

/-- What the only producer of a ring may count on. -/
structure SoleRely (cpu : ℕ) (r r' : H2nRing) : Prop where
  size : r'.size = r.size
  ok : RingOk r → RingOk r'
  sent : sentBy cpu r' = sentBy cpu r
  calm : RingOk r → Undisturbed r r'

theorem SoleRely.refl (cpu : ℕ) (r : H2nRing) : SoleRely cpu r r :=
  ⟨rfl, id, rfl, fun _ => ⟨rfl, rfl, rfl, le_rfl⟩⟩

theorem NssTakes.soleRely {cpu : ℕ} {r r' : H2nRing} (ht : NssTakes r r') : SoleRely cpu r r' := by
  refine ⟨?_, fun h => ht.ringOk h, ?_, fun h => ?_⟩
  · obtain ⟨d, _, rfl⟩ := ht
    rfl
  · obtain ⟨d, _, rfl⟩ := ht
    rfl
  · obtain ⟨d, hd, rfl⟩ := ht
    refine ⟨rfl, rfl, rfl, ?_⟩
    rw [NssTakes.outstanding_eq h hd]
    omega

def SoleAct (cpu : ℕ) (r r' : H2nRing) : Prop := r' = r ∨ Produces cpu r r'

def Rely (cpu : ℕ) (p p' : H2nPort) : Prop := SoleRely cpu p.ring p'.ring

def Guarantee (cpu : ℕ) (p p' : H2nPort) : Prop := SoleAct cpu p.ring p'.ring

structure Quiet (cpu : ℕ) (sent : List Enqueued) (r : H2nRing) : Prop extends RingOk r where
  index_eq : r.hlosIndex = r.hlosIndexMap
  wrote_eq : r.wrote = 0
  sent_eq : sentBy cpu r = sent

theorem Quiet.rely {cpu : ℕ} {sent : List Enqueued} {r r' : H2nRing} (h : Quiet cpu sent r)
    (hr : SoleRely cpu r r') : Quiet cpu sent r' := by
  have hcalm := hr.calm h.toRingOk
  have hwrote : r'.wrote = r.wrote := by
    rw [← r'.length_pending, hcalm.pending, r.length_pending]
  exact
    { hr.ok h.toRingOk with
      index_eq := by rw [hcalm.index, hcalm.map, h.index_eq]
      wrote_eq := hwrote.trans h.wrote_eq
      sent_eq := hr.sent.trans h.sent_eq }

section Calls
variable {cpu start most : ℕ} {size : U16} {sent : List Enqueued} {ds : List H2nDescriptor}
  {p : H2nPort}

theorem quiet_stable : Stable (Rely cpu) fun p => Quiet cpu sent p.ring :=
  fun _ _ hr h => h.rely hr

theorem producing_stable :
    Stable (Rely cpu) fun p => Producing cpu size start most sent ds p.ring :=
  fun _ _ hr h => h.undisturbed (hr.ok h.toRingOk) hr.size hr.sent (hr.calm h.toRingOk)

theorem indexed_stable {next : U32} :
    Stable (Rely cpu) fun p => Indexed cpu size sent ds next p.ring :=
  fun _ _ hr h => h.undisturbed (hr.ok h.toRingOk) hr.size hr.sent (hr.calm h.toRingOk)

/-- What the loop leaves: one filled descriptor for each buffer given. -/
def Refilled (cpu : ℕ) (size : U16) (start most : ℕ) (sent : List Enqueued) (a : U32 × List U32)
    (p : H2nPort) : Prop :=
  ∃ ds, Producing cpu size start most sent ds p.ring ∧
    a.1.toNat = advance size.toNat start ds.length ∧ ds.map H2nDescriptor.opaqueWord = a.2

theorem refilled_ret {a : U32 × List U32} (h : Producing cpu size start most sent ds p.ring)
    (hidx : a.1.toNat = advance size.toNat start ds.length)
    (hgiven : ds.map H2nDescriptor.opaqueWord = a.2) :
    Sat (Rely cpu) (Guarantee cpu) (Refilled cpu size start most sent) (.ret a) p := by
  refine Sat.ret ?_ ⟨ds, h, hidx, hgiven⟩
  rintro s t hr ⟨ds, hp, hrest⟩
  exact ⟨ds, producing_stable s t hr hp, hrest⟩

theorem refillFrom_refilled (env : RefillEnv) {k : ℕ} (hk : k < 16) (hsize : size.toNat = 2 ^ k)
    (count : ℕ) {i : ℕ} {hlosIndex : U32} {given : List U32}
    (h : Producing cpu size start most sent ds p.ring) (hcount : ds.length + count ≤ most)
    (hidx : hlosIndex.toNat = advance size.toNat start ds.length)
    (hgiven : ds.map H2nDescriptor.opaqueWord = given) :
    Sat (Rely cpu) (Guarantee cpu) (Refilled cpu size start most sent)
      (refillFrom env ((size - 1).setWidth 32) count i hlosIndex given) p := by
  induction count generalizing i hlosIndex given ds p with
  | zero => exact refilled_ret h hidx hgiven
  | succ count ih =>
    simp only [refillFrom, Proc.bind_eq, Proc.pure_eq]
    cases emptyBuffer env i with
    | none =>
      refine Sat.modify producing_stable h fun q hq => ⟨.inl rfl, ?_⟩
      exact refilled_ret hq hidx hgiven
    | some buf =>
      refine Sat.modify producing_stable h fun q hq => ?_
      have hprep := hq.prepare
        (fun d => { d with bufferLen := buf.2.1, payloadOffs := buf.2.2 }) hidx (by omega)
      refine ⟨.inr hprep.1, ?_⟩
      cases env.dma i with
      | none => exact refilled_ret hprep.2 hidx hgiven
      | some buffer =>
        refine Sat.modify producing_stable hprep.2 fun u hu => ⟨.inl rfl, ?_⟩
        refine Sat.modify producing_stable hu fun v hv => ?_
        have hfill := hv.fill (emptyDescriptor buf.1 buffer (v.ring.desc hlosIndex.toNat)) hidx
          (by omega)
        refine ⟨.inr hfill.1, ih hfill.2 ?_ ?_ ?_⟩
        · rw [List.length_append, List.length_singleton]
          omega
        · rw [next_word hk hsize, hidx, advance_advance, List.length_append,
            List.length_singleton]
        · rw [List.map_append, hgiven]
          rfl

theorem refillRoom_toNat {nssIndex hlosIndex : U32} {k : ℕ} (hk : k < 16)
    (hsize : size.toNat = 2 ^ k) (hnss : nssIndex.toNat < size.toNat)
    (hhlos : hlosIndex.toNat < size.toNat) :
    (refillRoom nssIndex hlosIndex size).toNat +
      gap size.toNat nssIndex.toNat hlosIndex.toNat = size.toNat - 1 := by
  have hword : (size.setWidth 32).toNat = 2 ^ k := by rw [word_toNat, hsize]
  have hnss' : nssIndex.toNat < (size.setWidth 32).toNat := by rwa [word_toNat]
  have hhlos' : hlosIndex.toNat < (size.setWidth 32).toNat := by rwa [word_toNat]
  have hroom := masked_room (by omega : k < 32) hword hnss' hhlos'
  rw [word_toNat] at hroom
  have hlt := size.isLt
  rw [refillRoom, mask_word hk hsize, setWidth_toNat (by omega)]
  exact hroom

/-- Where a refill returns, its buffers are enqueued, each in a descriptor of
    its own. -/
def RefillDone (cpu : ℕ) (sent : List Enqueued) (given : List U32) (r : H2nRing) : Prop :=
  ∃ ds : List H2nDescriptor, ds.map H2nDescriptor.opaqueWord = given ∧
    Quiet cpu (sent ++ ds.map (single cpu)) r

theorem refillEmptyBuffers_done {env : RefillEnv} (h : Quiet cpu sent p.ring) :
    Sat (Rely cpu) (Guarantee cpu) (fun given p => RefillDone cpu sent given p.ring)
      (refillEmptyBuffers cpu env) p := by
  simp only [refillEmptyBuffers, Proc.bind_eq, Proc.pure_eq]
  refine Sat.read (fun _ _ => .inl rfl) quiet_stable h fun q hq => ?_
  have hroom := hq.room
  have hstart : Producing cpu q.ring.size q.ring.hlosIndexMap.toNat
      (q.ring.size.toNat - 1 - q.ring.outstanding) sent [] q.ring :=
    { hq.toRingOk with
      size_eq := rfl, start_eq := rfl, index_eq := hq.index_eq, fits := by omega,
      sent_eq := hq.sent_eq, pending_eq := by rw [H2nRing.pending, hq.wrote_eq, window_zero] }
  refine Sat.read (fun _ _ => .inl rfl) producing_stable hstart fun u hu => ?_
  refine Sat.read (fun _ _ => .inl rfl) producing_stable hu fun v hv => ?_
  obtain ⟨k, hk, hpow⟩ := hq.pow
  have hindex : u.ring.hlosIndex.toNat = q.ring.hlosIndexMap.toNat := by
    rw [hu.index_eq, hu.start_eq]
  have hcount := refillRoom_toNat (by omega : k < 16) hpow hq.nss (hindex ▸ hq.hlos)
  have hgap : gap q.ring.size.toNat q.ring.nssIndexMap.toNat u.ring.hlosIndex.toNat =
      q.ring.outstanding := by rw [hindex, H2nRing.outstanding]
  rw [hv.size_eq]
  refine (refillFrom_refilled env (by omega : k < 16) hpow _ hv ?_ ?_ rfl).bind ?_
  · rw [List.length_nil]
    omega
  · rw [hindex, List.length_nil, advance_zero hq.hlos]
  · rintro ⟨idx, given⟩ t ⟨ds, ht, hidx, hgiven⟩
    refine Sat.modify producing_stable ht fun w hw => ?_
    have hset := Indexed.of_setIndex hw hidx
    refine ⟨.inr hset.1, Sat.modify indexed_stable hset.2 fun x hx => ?_⟩
    have hpub := hx.publish (ds.map (single cpu)) (by simp [single])
      (by rw [List.flatMap_map]; exact List.flatMap_singleton' ds)
    rw [← hx.pending_eq] at hpub
    refine ⟨.inr hpub.1, ?_⟩
    refine Sat.ret (fun s t hr hs => ?_) ⟨ds, hgiven, ?_⟩
    · obtain ⟨es, hes, hquiet⟩ := hs
      exact ⟨es, hes, quiet_stable s t hr hquiet⟩
    · rw [← hx.pending_eq]
      exact { hpub.2.toRingOk with
        index_eq := hpub.2.index_eq, wrote_eq := rfl, sent_eq := hpub.2.sent_eq }

end Calls
end NssDrv.EmptyBufferRefill

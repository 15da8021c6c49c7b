import NssDrv.RingLocking
import NssDrv.TransmitEncoders

set_option autoImplicit false

/-!
# What the encoders write

Each encoder, run under the ring lock in a room of `most` slots, fills at most
that many slots from the published index on. A positive count is the number
it filled, and one of the descriptors then carries the buffer's address.
-/
namespace NssDrv.EncoderBounds
open HlosInterface SharedThread CyclicIndex DescriptorRing RingLocking TransmitEncoders

def Rely (cpu : ℕ) (p p' : H2nPort) : Prop := RingRely cpu p.ring p'.ring

def Guarantee (cpu : ℕ) (p p' : H2nPort) : Prop := LockedAct cpu p.ring p'.ring

/-- The lock is held, with `ds` filled and `most` slots to fill. -/
abbrev Fills (cpu : ℕ) (size : U16) (start most : ℕ) (sent : List Enqueued)
    (ds : List H2nDescriptor) (p : H2nPort) : Prop := Filling cpu size start most sent ds p.ring

def Encoded (cpu : ℕ) (size : U16) (start most : ℕ) (sent : List Enqueued) (cookie : U32) (a : ℤ)
    (p : H2nPort) : Prop :=
  ∃ ds, Fills cpu size start most sent ds p ∧ a ≤ most ∧ -(most : ℤ) ≤ a ∧
    (0 < a → a = ds.length ∧ ∃ d ∈ ds, d.opaqueWord = cookie)

section Accesses
variable {cpu start most : ℕ} {size : U16} {sent : List Enqueued} {ds : List H2nDescriptor}
  {p : H2nPort} {α : Type} {Q : α → H2nPort → Prop} {cookie : U32}

theorem fills_stable : Stable (Rely cpu) (Fills cpu size start most sent ds) :=
  fun _ _ hr h => h.rely hr

theorem encoded_stable (a : ℤ) :
    Stable (Rely cpu) (Encoded cpu size start most sent cookie a) := by
  rintro s t hr ⟨ds, hfill, hrest⟩
  exact ⟨ds, hfill.rely hr, hrest⟩

theorem sat_write {idx : U16} {bufferType : U8} {buffer ifNum opaqueWord : U32}
    {payloadOff payloadLen bufferLen : U16} {qosTag : U32} {mss bitFlags : U16}
    {k : Unit → Proc H2nPort α} (h : Fills cpu size start most sent ds p)
    (hidx : idx.toNat = advance size.toNat start ds.length) (hlen : ds.length < most)
    (hk : ∀ d q, d.opaqueWord = opaqueWord → Fills cpu size start most sent (ds ++ [d]) q →
      Sat (Rely cpu) (Guarantee cpu) Q (k ()) q) :
    Sat (Rely cpu) (Guarantee cpu) Q ((nssCoreWriteOneDescriptor idx bufferType buffer ifNum
      opaqueWord payloadOff payloadLen bufferLen qosTag mss bitFlags).bind k) p := by
  refine Sat.modify fills_stable h fun q hq => ?_
  have hfill := hq.fill
    { opaqueWord := opaqueWord, buffer := buffer, bufferLen := bufferLen, payloadLen := payloadLen,
      mss := mss, payloadOffs := payloadOff, interfaceNum := (ifNum.setWidth 8).signExtend 16,
      bufferType := bufferType, bitFlags := bitFlags, qosTag := qosTag } hidx hlen
  exact ⟨hfill.1, hk _ _ rfl hfill.2⟩

theorem sat_amend {idx : U16} {e : ℕ} {d : H2nDescriptor} {f : H2nDescriptor → H2nDescriptor}
    {k : Unit → Proc H2nPort α} (h : Fills cpu size start most sent ds p)
    (hidx : idx.toNat = advance size.toNat start e) (hd : ds[e]? = some d)
    (hk : ∀ q, Fills cpu size start most sent (ds.set e (f d)) q →
      Sat (Rely cpu) (Guarantee cpu) Q (k ()) q) :
    Sat (Rely cpu) (Guarantee cpu) Q
      ((Proc.modify (H2nPort.onRing fun r => r.amend idx.toNat f)).bind k) p := by
  refine Sat.modify fills_stable h fun q hq => ?_
  have hamend := hq.amend f hidx hd
  exact ⟨hamend.1, hk _ hamend.2⟩

theorem sat_aside {P : H2nPort → Prop} {f : H2nPort → H2nPort} {k : Unit → Proc H2nPort α}
    (hf : ∀ q, (f q).ring = q.ring) (hstable : Stable (Rely cpu) P) (hring : ∀ q, P q → P (f q))
    (h : P p) (hk : ∀ q, P q → Sat (Rely cpu) (Guarantee cpu) Q (k ()) q) :
    Sat (Rely cpu) (Guarantee cpu) Q ((Proc.modify f).bind k) p := by
  refine Sat.modify hstable h fun q hq => ⟨?_, hk _ (hring q hq)⟩
  unfold Guarantee
  rw [hf]
  exact .idle _

theorem sat_encoded {a : ℤ} (h : Fills cpu size start most sent ds p) (hle : a ≤ most)
    (hge : -(most : ℤ) ≤ a) (hpos : 0 < a → a = ds.length ∧ ∃ d ∈ ds, d.opaqueWord = cookie) :
    Sat (Rely cpu) (Guarantee cpu) (Encoded cpu size start most sent cookie) (.ret a) p :=
  Sat.ret (encoded_stable a) ⟨ds, h, hle, hge, hpos⟩

end Accesses

section Encoders
variable {cpu start most : ℕ} {size : U16} {sent : List Enqueued} {ds : List H2nDescriptor}
  {p : H2nPort} {env : TxEnv} {ifNum : U32} {nbuf : TxSkb} {hlosIndex flags : U16}
  {bufferType : U8} {mss : U16}

theorem simpleSkb_encoded (h : Fills cpu size start most sent [] p) (hmost : 1 ≤ most)
    (hidx : hlosIndex.toNat = advance size.toNat start 0) :
    Sat (Rely cpu) (Guarantee cpu) (Encoded cpu size start most sent nbuf.addr)
      (nssCoreSendBufferSimpleSkb env ifNum nbuf hlosIndex flags bufferType mss) p := by
  have hcount : ∀ {q : H2nPort} {d : H2nDescriptor}, d.opaqueWord = nbuf.addr →
      Fills cpu size start most sent ([] ++ [d]) q →
      Sat (Rely cpu) (Guarantee cpu) (Encoded cpu size start most sent nbuf.addr) (.ret 1) q := by
    intro q d hd hq
    exact sat_encoded hq (by omega) (by omega) fun _ => ⟨rfl, d, by simp, hd⟩
  simp only [nssCoreSendBufferSimpleSkb, Proc.bind_eq, Proc.pure_eq]
  split
  · refine sat_write h hidx hmost fun d q hd hq => ?_
    exact sat_aside (fun _ => rfl) fills_stable (fun _ h => h) hq fun u hu => hcount hd hu
  · split
    · exact sat_encoded h (by omega) (by omega) fun hpos => by omega
    · refine sat_write h hidx hmost fun d q hd hq => ?_
      exact sat_aside (fun _ => rfl) fills_stable (fun _ h => h) hq fun u hu => hcount hd hu

/-- The slot after the `i`-th one of a buffer. -/
theorem next_slot {k i : ℕ} (hk : k < 16) (hsize : size.toNat = 2 ^ k)
    (hidx : hlosIndex.toNat = advance size.toNat start i) :
    ((hlosIndex + 1) &&& (size - 1)).toNat = advance size.toNat start (i + 1) := by
  rw [masked_add hk hsize, hidx, advance_advance]
  rfl

theorem nrFragsFrom_encoded {k : ℕ} (hk : k < 16) (hsize : size.toNat = 2 ^ k) (bitFlags : U16)
    (rest : List U32) {i : ℕ} (h : Fills cpu size start most sent ds p) (hlen : ds.length = i + 1)
    (hmost : ds.length + rest.length ≤ most)
    (hidx : hlosIndex.toNat = advance size.toNat start i) :
    Sat (Rely cpu) (Guarantee cpu) (Encoded cpu size start most sent nbuf.addr)
      (nrFragsFrom env size ifNum nbuf bufferType mss bitFlags i rest hlosIndex) p := by
  induction rest generalizing i ds hlosIndex p with
  | nil =>
    have hi : i < ds.length := by omega
    simp only [nrFragsFrom, Proc.bind_eq, Proc.pure_eq]
    refine sat_amend h hidx (List.getElem?_eq_getElem hi) fun q hq => ?_
    refine sat_aside (fun _ => rfl) fills_stable (fun _ h => h) hq fun u hu => ?_
    exact sat_encoded hu (by omega) (by omega) fun _ => ⟨by simp [hlen], _, List.mem_set hi _, rfl⟩
  | cons frag rest ih =>
    have hroom : ds.length + (rest.length + 1) ≤ most := by simpa using hmost
    simp only [nrFragsFrom, Proc.bind_eq, Proc.pure_eq]
    split
    · exact sat_encoded h (by omega) (by omega) fun hpos => by omega
    · have hnext := next_slot hk hsize hidx
      refine sat_write h (by rw [hnext, hlen]) (by omega) fun d q _ hq => ?_
      exact ih hq (by simp [hlen]) (by simp; omega) hnext

theorem nrFrags_encoded {k : ℕ} (hk : k < 16) (hsize : size.toNat = 2 ^ k)
    (h : Fills cpu size start most sent [] p) (hmost : nbuf.fragSizes.length + 1 ≤ most)
    (hidx : hlosIndex.toNat = advance size.toNat start 0) :
    Sat (Rely cpu) (Guarantee cpu) (Encoded cpu size start most sent nbuf.addr)
      (nssCoreSendBufferNrFrags env size ifNum nbuf hlosIndex flags bufferType mss) p := by
  simp only [nssCoreSendBufferNrFrags, Proc.bind_eq, Proc.pure_eq]
  split
  · exact sat_encoded h (by omega) (by omega) fun hpos => by omega
  · refine sat_write h hidx (by simp; omega) fun d q _ hq => ?_
    split
    · trivial
    · exact nrFragsFrom_encoded hk hsize _ _ hq rfl (by simp; omega) hidx

theorem fraglistFrom_encoded {k : ℕ} (hk : k < 16) (hsize : size.toNat = 2 ^ k) {cookie : U32}
    (bitFlags : U16) (rest : List TxSegment) {i : ℕ} (h : Fills cpu size start most sent ds p)
    (hlen : ds.length = i + 1) (hcookie : ∃ d ∈ ds, d.opaqueWord = cookie)
    (hmost : ds.length + rest.length ≤ most)
    (hidx : hlosIndex.toNat = advance size.toNat start i) :
    Sat (Rely cpu) (Guarantee cpu) (Encoded cpu size start most sent cookie)
      (fraglistFrom env size ifNum bufferType mss bitFlags i rest hlosIndex) p := by
  induction rest generalizing i ds hlosIndex p with
  | nil =>
    have hi : i < ds.length := by omega
    simp only [fraglistFrom, Proc.bind_eq, Proc.pure_eq]
    refine sat_amend h hidx (List.getElem?_eq_getElem hi) fun q hq => ?_
    refine sat_aside (fun _ => rfl) fills_stable (fun _ h => h) hq fun u hu => ?_
    refine sat_encoded hu (by omega) (by omega) fun _ => ⟨by simp [hlen], ?_⟩
    -- the amended descriptor keeps its cookie
    obtain ⟨d, hd, hdc⟩ := hcookie
    obtain ⟨j, hj, rfl⟩ := List.getElem_of_mem hd
    by_cases hji : i = j
    · subst hji
      exact ⟨_, List.mem_set hi _, hdc⟩
    · refine ⟨ds[j], ?_, hdc⟩
      refine List.mem_iff_getElem.mpr ⟨j, by simpa using hj, ?_⟩
      exact List.getElem_set_ne hji _
  | cons iter rest ih =>
    have hroom : ds.length + (rest.length + 1) ≤ most := by simpa using hmost
    have hfail : Sat (Rely cpu) (Guarantee cpu) (Encoded cpu size start most sent cookie)
        (.ret (-(i + 1 : ℤ))) p :=
      sat_encoded h (by omega) (by omega) fun hpos => by omega
    simp only [fraglistFrom, Proc.bind_eq, Proc.pure_eq]
    split
    · exact hfail
    · split
      · exact hfail
      · have hnext := next_slot hk hsize hidx
        refine sat_write h (by rw [hnext, hlen]) (by omega) fun d q _ hq => ?_
        obtain ⟨d₀, hd₀, hc₀⟩ := hcookie
        exact ih hq (by simp [hlen]) ⟨d₀, List.mem_append_left _ hd₀, hc₀⟩ (by simp; omega) hnext

theorem fraglist_encoded {k : ℕ} (hk : k < 16) (hsize : size.toNat = 2 ^ k)
    (h : Fills cpu size start most sent [] p) (hmost : nbuf.fragList.length + 1 ≤ most)
    (hidx : hlosIndex.toNat = advance size.toNat start 0) :
    Sat (Rely cpu) (Guarantee cpu) (Encoded cpu size start most sent nbuf.addr)
      (nssCoreSendBufferFraglist env size ifNum nbuf hlosIndex flags bufferType mss) p := by
  simp only [nssCoreSendBufferFraglist, Proc.bind_eq, Proc.pure_eq]
  split
  · exact sat_encoded h (by omega) (by omega) fun hpos => by omega
  · refine sat_write h hidx (by simp; omega) fun d q hd hq => ?_
    exact fraglistFrom_encoded hk hsize _ _ hq rfl ⟨d, by simp, hd⟩ (by simp; omega) hidx

end Encoders
end NssDrv.EncoderBounds

import NssDrv.RingLocking
import NssDrv.TransmitMappings

set_option autoImplicit false

/-!
# What a transmit leaves

The descriptors that the encoders write one after the other, the mappings behind
them, and what is undone where a segment cannot be sent.
-/
namespace NssDrv.TransmitOutcome
open HlosInterface SharedThread CyclicIndex DescriptorRing RingLocking TransmitEncoders
open TransmitQueue TransmitMappings

/-- Where `p` comes to its end it ends in `Q`. -/
def Post {α : Type} (Q : α → TxCall → Prop) (p : Proc TxCall α) (c : TxCall) : Prop :=
  ∀ a t, p.exec c = some (a, t) → Q a t

section Post
variable {α β : Type} {Q : α → TxCall → Prop} {p : Proc TxCall α} {f : α → Proc TxCall β}
  {S : β → TxCall → Prop} {c : TxCall}

theorem post_ret {a : α} (h : Q a c) : Post Q (.ret a) c := by
  rintro b t ⟨⟩
  exact h

theorem post_halt : Post Q .halt c := nofun

theorem Post.bind (h : Post Q p c) (hf : ∀ a t, Q a t → Post S (f a) t) : Post S (p.bind f) c := by
  intro b u hexec
  rw [Proc.exec_bind] at hexec
  obtain ⟨⟨a, t⟩, hfirst, hrest⟩ := Option.bind_eq_some_iff.mp hexec
  exact hf a t (h a t hfirst) b u hrest

theorem Post.mono {Q' : α → TxCall → Prop} (h : Post Q p c) (hQ : ∀ a t, Q a t → Q' a t) :
    Post Q' p c := fun a t hexec => hQ a t (h a t hexec)

theorem post_modify {e : TxCall → TxCall} {g : Unit → Proc TxCall β} (h : Post S (g ()) (e c)) :
    Post S (Proc.modify e >>= g) c := h

theorem post_onModify {e : H2nPort → H2nPort} {g : Unit → Proc TxCall β}
    (h : Post S (g ()) (c.setPort (e c.port))) : Post S (onPort (Proc.modify e) >>= g) c := h

theorem post_dmaMap {env : Outside} {i : ℕ} {len : U32} {page : Bool}
    {g : Option U32 → Proc TxCall β} (hnone : env.dma i = none → Post S (g none) c)
    (hsome : ∀ addr, env.dma i = some addr →
      Post S (g (some addr)) { c with maps := c.maps ++ [⟨addr, len, page⟩] }) :
    Post S (dmaMap env i len page >>= g) c := by
  unfold dmaMap
  cases hdma : env.dma i with
  | none => exact hnone hdma
  | some addr => exact hsome addr hdma

end Post

/-- A descriptor as `nss_core_write_one_descriptor` fills it for a segment. -/
def pieceDesc (ifNum : U32) (bufferType : U8) (mss bitFlags : U16) (opaqueWord : U32)
    (piece : TxPiece) (m : Mapping) : H2nDescriptor where
  opaqueWord := opaqueWord
  buffer := m.addr
  bufferLen := piece.room.setWidth 16
  payloadLen := piece.len.setWidth 16
  mss := mss
  payloadOffs := piece.offs.setWidth 16
  interfaceNum := (ifNum.setWidth 8).signExtend 16
  bufferType := bufferType
  bitFlags := bitFlags
  qosTag := piece.priority

theorem post_writePiece {β : Type} {S : β → TxCall → Prop} {c : TxCall} {ifNum : U32}
    {hlosIndex mss bitFlags : U16} {bufferType : U8} {opaqueWord : U32} {piece : TxPiece}
    {g : Unit → Proc TxCall β} (m : Mapping)
    (h : Post S (g ()) (c.setPort (c.port.onRing fun r => r.fill hlosIndex.toNat
      (pieceDesc ifNum bufferType mss bitFlags opaqueWord piece m)))) :
    Post S (writePiece ifNum hlosIndex bufferType m.addr opaqueWord piece mss bitFlags >>= g) c := h

def patchLast (f : H2nDescriptor → H2nDescriptor) (ds : List H2nDescriptor) : List H2nDescriptor :=
  ds.dropLast ++ (ds.getLast?.map f).toList

def unmapping (c : TxCall) (isFraglist : Bool) (slot : ℕ) : Unmapping where
  slot := slot
  mapping.addr := (c.port.ring.desc slot).buffer
  mapping.len := (c.port.ring.desc slot).bufferLen.setWidth 32
  mapping.page := !isFraglist

/-- From `c₀`, which holds the lock, `ds` were filled from slot `start` on and nothing
    was published. -/
structure Laid (c₀ : TxCall) (start : ℕ) (ds : List H2nDescriptor) (c : TxCall) : Prop where
  size : c.port.ring.size = c₀.port.ring.size
  index : c.port.ring.hlosIndex = c₀.port.ring.hlosIndex
  map : c.port.ring.hlosIndexMap = c₀.port.ring.hlosIndexMap
  nss : c.port.ring.nssIndexMap = c₀.port.ring.nssIndexMap
  lock : c.port.ring.lock = c₀.port.ring.lock
  count : c.port.stats .nssSkbCount = c₀.port.stats .nssSkbCount
  wrote : c.port.ring.wrote = ds.length
  filled : window c.port.ring.desc c₀.port.ring.size.toNat start ds.length = ds
  others : ∀ j, (∀ e < ds.length, advance c₀.port.ring.size.toNat start e ≠ j) →
    c.port.ring.desc j = c₀.port.ring.desc j

section Laid
variable {c₀ c : TxCall} {start : ℕ} {ds : List H2nDescriptor} {d : H2nDescriptor}

theorem Laid.frame {c' : TxCall} (h : Laid c₀ start ds c) (hring : c'.port.ring = c.port.ring)
    (hcount : c'.port.stats .nssSkbCount = c.port.stats .nssSkbCount) : Laid c₀ start ds c' := by
  constructor
  · rw [hring]
    exact h.size
  · rw [hring]
    exact h.index
  · rw [hring]
    exact h.map
  · rw [hring]
    exact h.nss
  · rw [hring]
    exact h.lock
  · rw [hcount]
    exact h.count
  · rw [hring]
    exact h.wrote
  · rw [hring]
    exact h.filled
  · rw [hring]
    exact h.others

theorem Laid.stat (h : Laid c₀ start ds c) {x : DrvStat} (hx : DrvStat.nssSkbCount ≠ x) :
    Laid c₀ start ds (c.setPort { c.port with stats := c.port.stats.add x 1 }) :=
  h.frame rfl (DrvStats.add_of_ne _ _ hx)

theorem Laid.fill (h : Laid c₀ start ds c) (hstart : start < c₀.port.ring.size.toNat)
    (hroom : ds.length < c₀.port.ring.size.toNat) {idx : ℕ}
    (hidx : idx = advance c₀.port.ring.size.toNat start ds.length) (d : H2nDescriptor) :
    Laid c₀ start (ds ++ [d]) (c.setPort (c.port.onRing fun r => r.fill idx d)) := by
  subst hidx
  have hlength : (ds ++ [d]).length = ds.length + 1 := by simp
  refine ⟨h.size, h.index, h.map, h.nss, h.lock, h.count, ?_, ?_, ?_⟩
  · rw [hlength, ← h.wrote]
    rfl
  · rw [hlength, window_snoc]
    change window (Function.update c.port.ring.desc _ d) _ _ _ ++
      [Function.update c.port.ring.desc _ d _] = _
    rw [Function.update_self, window_update, h.filled]
    intro e he heq
    exact absurd (advance_inj hstart (by omega) hroom heq) (by omega)
  · intro j hj
    rw [hlength] at hj
    refine (Function.update_of_ne ?_ _ _).trans (h.others j fun e he => hj e (by omega))
    exact (hj ds.length (by omega)).symm

theorem Laid.patch (h : Laid c₀ start (ds ++ [d]) c) (hstart : start < c₀.port.ring.size.toNat)
    (hroom : ds.length < c₀.port.ring.size.toNat) {idx : ℕ}
    (hidx : idx = advance c₀.port.ring.size.toNat start ds.length)
    (f : H2nDescriptor → H2nDescriptor) :
    Laid c₀ start (ds ++ [f d]) (c.setPort (c.port.onRing fun r => r.amend idx f)) := by
  subst hidx
  have hlength : ∀ x, (ds ++ [x]).length = ds.length + 1 := by simp
  have hfilled := h.filled
  rw [hlength, window_snoc] at hfilled
  obtain ⟨hbefore, hlast⟩ := List.append_inj' hfilled rfl
  obtain ⟨hlast, -⟩ := List.cons.inj hlast
  refine ⟨h.size, h.index, h.map, h.nss, h.lock, h.count, ?_, ?_, ?_⟩
  · rw [hlength, ← hlength d, ← h.wrote]
    rfl
  · rw [hlength, window_snoc]
    change window (Function.update c.port.ring.desc _ (f (c.port.ring.desc _))) _ _ _ ++
      [Function.update c.port.ring.desc _ (f (c.port.ring.desc _)) _] = _
    rw [Function.update_self, window_update, hbefore, hlast]
    intro e he heq
    exact absurd (advance_inj hstart (by omega) hroom heq) (by omega)
  · intro j hj
    rw [hlength] at hj
    have hother := h.others j
    rw [hlength] at hother
    refine (Function.update_of_ne ?_ _ _).trans (hother hj)
    exact (hj ds.length (by omega)).symm

end Laid

/-- The mappings made and undone, and the skb. -/
structure Logged (ms : List Mapping) (us : List Unmapping) (nbuf : TxSkb) (c : TxCall) : Prop where
  maps : c.maps = ms
  unmaps : c.unmaps = us
  nbuf : c.nbuf = nbuf

/-- The addresses are those that `dma_map_single`, or `dma_map_page`, gave one after the other. -/
def Given (env : Outside) (i : ℕ) (ms : List Mapping) : Prop :=
  ∀ e m, ms[e]? = some m → env.dma (i + e) = some m.addr

theorem given_nil {env : Outside} {i : ℕ} : Given env i [] := nofun

theorem Given.cons {env : Outside} {i : ℕ} {ms : List Mapping} {m : Mapping}
    (h : Given env (i + 1) ms) (hm : env.dma i = some m.addr) : Given env i (m :: ms) := by
  intro e x hx
  cases e with
  | zero =>
    rw [← Option.some.inj hx]
    exact hm
  | succ e =>
    have hrest := h e x hx
    rwa [Nat.add_right_comm] at hrest

section Scatter
variable {env : Outside} {size : U16} {ifNum : U32} {bufferType : U8} {mss bitFlags : U16}
  {isFraglist : Bool} {last : H2nDescriptor → H2nDescriptor} {stat : DrvStat} {c₀ c : TxCall}
  {start k : ℕ} {ds : List H2nDescriptor} {ms : List Mapping} {us : List Unmapping} {nbuf : TxSkb}

def pieceDescs (ifNum : U32) (bufferType : U8) (mss bitFlags : U16) :
    List TxPiece → List Mapping → List H2nDescriptor :=
  List.zipWith (pieceDesc ifNum bufferType mss bitFlags 0)

/-- The mappings that `count` slots from one on name are undone. -/
def undo (size : U16) (isFraglist : Bool) (count slot : ℕ) (c : TxCall) : TxCall :=
  { c with
    unmaps := c.unmaps ++ (List.range count).map fun e =>
      unmapping c isFraglist (advance size.toNat slot e) }

theorem unwind_exec (hk : k < 16) (hsize : size.toNat = 2 ^ k) (count : ℕ) (hlosIndex : U16)
    (hidx : hlosIndex.toNat < size.toNat) (c : TxCall) :
    (nssCoreSendUnwindDma size isFraglist count hlosIndex).exec c =
      some ((), undo size isFraglist count hlosIndex.toNat c) := by
  induction count generalizing hlosIndex c with
  | zero =>
    unfold undo
    rw [List.range_zero, List.map_nil, List.append_nil]
    rfl
  | succ count ih =>
    have hnext : ((hlosIndex + 1) &&& (size - 1)).toNat = advance size.toNat hlosIndex.toNat 1 := by
      rw [masked_add hk hsize]
      rfl
    have hlt : ((hlosIndex + 1) &&& (size - 1)).toNat < size.toNat := by
      rw [hnext]
      exact advance_lt (by omega)
    refine (ih _ hlt _).trans ?_
    unfold undo
    rw [hnext, List.range_succ_eq_map, List.map_cons, List.map_map, advance_zero hidx]
    dsimp only
    rw [List.append_assoc]
    congr 4
    apply congrArg
    apply List.map_congr_left
    intro e _
    rw [advance_advance, Nat.add_comm]
    rfl

/-- Every segment is written, and the last descriptor patched. -/
structure AllSent (env : Outside) (c₀ : TxCall) (start i : ℕ) (ifNum : U32) (bufferType : U8)
    (mss bitFlags : U16) (last : H2nDescriptor → H2nDescriptor) (ds : List H2nDescriptor)
    (ms : List Mapping) (nbuf : TxSkb) (pieces : List TxPiece) (ms' : List Mapping)
    (c : TxCall) : Prop
    extends Laid c₀ start
      (patchLast last (ds ++ pieceDescs ifNum bufferType mss bitFlags pieces ms')) c,
      Logged (ms ++ ms') [] nbuf c where
  all : ms'.length = pieces.length
  given : Given env (i + 2) ms'

/-- Segment `j` behind the head could not be sent, and as many mappings were undone as
    descriptors had been written, from the one written last on. -/
structure GaveUp (env : Outside) (c₀ : TxCall) (start i : ℕ) (ifNum : U32) (bufferType : U8)
    (mss bitFlags : U16) (isFraglist : Bool) (ds : List H2nDescriptor) (ms : List Mapping)
    (nbuf : TxSkb) (pieces : List TxPiece) (j : ℕ) (ms' : List Mapping) (c : TxCall) : Prop
    extends Laid c₀ start (ds ++ pieceDescs ifNum bufferType mss bitFlags pieces (ms'.take j)) c,
      Logged (ms ++ ms') ((List.range (i + j + 1)).map fun e =>
        unmapping c isFraglist (advance c₀.port.ring.size.toNat start (i + j + e))) nbuf c where
  within : j < pieces.length
  stuck : env.dma (i + j + 2) = none ∧ ms'.length = j ∨ ms'.length = j + 1
  given : Given env (i + 2) ms'

theorem length_patchLast (f : H2nDescriptor → H2nDescriptor) (ds : List H2nDescriptor) :
    (patchLast f ds).length = ds.length := by
  unfold patchLast
  rcases List.eq_nil_or_concat ds with rfl | ⟨front, d, rfl⟩
  · rfl
  · simp

theorem patchLast_concat (f : H2nDescriptor → H2nDescriptor) (ds : List H2nDescriptor)
    (d : H2nDescriptor) : patchLast f (ds ++ [d]) = ds ++ [f d] := by
  unfold patchLast
  rw [List.dropLast_concat, List.getLast?_concat]
  rfl

variable {i : ℕ} {piece : TxPiece} {pieces : List TxPiece} {m : Mapping} {ms' : List Mapping}

theorem pieceDescs_cons : ds ++ pieceDescs ifNum bufferType mss bitFlags (piece :: pieces) (m :: ms') =
    ds ++ [pieceDesc ifNum bufferType mss bitFlags 0 piece m] ++
      pieceDescs ifNum bufferType mss bitFlags pieces ms' := by
  rw [List.append_assoc]
  rfl

theorem AllSent.cons (h : AllSent env c₀ start (i + 1) ifNum bufferType mss bitFlags last
      (ds ++ [pieceDesc ifNum bufferType mss bitFlags 0 piece m]) (ms ++ [m]) nbuf pieces ms' c)
    (hm : env.dma (i + 2) = some m.addr) :
    AllSent env c₀ start i ifNum bufferType mss bitFlags last ds ms nbuf (piece :: pieces)
      (m :: ms') c := by
  refine ⟨?_, ⟨?_, h.unmaps, h.nbuf⟩, congrArg Nat.succ h.all, h.given.cons hm⟩
  · rw [pieceDescs_cons]
    exact h.toLaid
  · rw [h.maps, List.append_assoc]
    rfl

theorem GaveUp.cons {j : ℕ} (h : GaveUp env c₀ start (i + 1) ifNum bufferType mss bitFlags isFraglist
      (ds ++ [pieceDesc ifNum bufferType mss bitFlags 0 piece m]) (ms ++ [m]) nbuf pieces j ms' c)
    (hm : env.dma (i + 2) = some m.addr) :
    GaveUp env c₀ start i ifNum bufferType mss bitFlags isFraglist ds ms nbuf (piece :: pieces)
      (j + 1) (m :: ms') c := by
  have hij : i + 1 + j = i + (j + 1) := Nat.add_right_comm i 1 j
  refine ⟨?_, ⟨?_, ?_, h.nbuf⟩, Nat.succ_lt_succ h.within, ?_, h.given.cons hm⟩
  · rw [List.take_succ_cons, pieceDescs_cons]
    exact h.toLaid
  · rw [h.maps, List.append_assoc]
    rfl
  · rw [h.unmaps, hij]
  · rcases h.stuck with ⟨hnone, hlength⟩ | hlength
    · rw [hij] at hnone
      exact .inl ⟨hnone, congrArg Nat.succ hlength⟩
    · exact .inr (congrArg Nat.succ hlength)

theorem gaveUp_here {slot : ℕ} (hring : c₀.port.ring.size = size)
    (h : Laid c₀ start ds c) (hlog : Logged (ms ++ ms') [] nbuf c)
    (hslot : slot = advance size.toNat start i)
    (hstuck : env.dma (i + 2) = none ∧ ms'.length = 0 ∨ ms'.length = 1)
    (hgiven : Given env (i + 2) ms') :
    GaveUp env c₀ start i ifNum bufferType mss bitFlags isFraglist ds ms nbuf (piece :: pieces) 0 ms'
      (undo size isFraglist (i + 1) slot c) := by
  refine ⟨?_, ⟨hlog.maps, ?_, hlog.nbuf⟩, Nat.succ_pos _, hstuck, hgiven⟩
  · have hnone : ds ++ pieceDescs ifNum bufferType mss bitFlags (piece :: pieces) (ms'.take 0) = ds :=
      List.append_nil _
    rw [hnone]
    exact h.frame rfl rfl
  · change c.unmaps ++ _ = _
    rw [hlog.unmaps, hring, List.nil_append]
    apply List.map_congr_left
    intro e _
    rw [hslot, advance_advance]
    rfl

theorem scatterFrom_post (hk : k < 16) (hsize : size.toNat = 2 ^ k)
    (hring : c₀.port.ring.size = size) (hstart : start < size.toNat)
    (hstat : DrvStat.nssSkbCount ≠ stat) {hlosIndex : U16} (h : Laid c₀ start ds c)
    (hlog : Logged ms [] nbuf c) (hlength : ds.length = i + 1)
    (hroom : i + 1 + pieces.length < size.toNat)
    (hidx : hlosIndex.toNat = advance size.toNat start i) :
    Post (fun (a : ℤ) c =>
      (a = i + pieces.length + 1 ∧ ∃ ms', AllSent env c₀ start i ifNum bufferType mss bitFlags last ds ms
        nbuf pieces ms' c) ∨
      ((-((i : ℤ) + pieces.length) ≤ a ∧ a ≤ 0) ∧ ∃ j ms',
        GaveUp env c₀ start i ifNum bufferType mss bitFlags isFraglist ds ms nbuf pieces j ms' c))
      (scatterFrom env size ifNum bufferType mss bitFlags isFraglist last stat i pieces hlosIndex) c := by
  induction pieces generalizing i ds ms hlosIndex c with
  | nil =>
    obtain ⟨front, d, rfl⟩ : ∃ front d, ds = front ++ [d] := by
      rcases List.eq_nil_or_concat ds with rfl | ⟨front, d, rfl⟩
      · cases hlength
      · exact ⟨front, d, List.concat_eq_append⟩
    have hfront : front.length = i := by simpa using hlength
    have hpatched : Laid c₀ start (front ++ [last d]) (c.setPort (c.port.onRing fun r =>
        r.amend hlosIndex.toNat last)) := by
      refine h.patch (hring ▸ hstart) ?_ ?_ last
      · rw [hring, hfront]
        omega
      · rw [hring, hfront]
        exact hidx
    unfold scatterFrom
    apply post_onModify
    apply post_onModify
    refine post_ret (.inl ⟨rfl, [], ?_⟩)
    refine ⟨?_, ⟨?_, hlog.unmaps, hlog.nbuf⟩, rfl, given_nil⟩
    · have hnil : front ++ [d] ++ pieceDescs ifNum bufferType mss bitFlags [] [] = front ++ [d] :=
        List.append_nil _
      rw [hnil, patchLast_concat]
      exact hpatched.stat hstat
    · rw [List.append_nil]
      exact hlog.maps
  | cons piece pieces ih =>
    have hroom' : i + 1 + (pieces.length + 1) < size.toNat := hroom
    have hslot : hlosIndex.toNat < size.toNat := by
      rw [hidx]
      exact advance_lt (by omega)
    have hgive : ∀ {c'} ms', Laid c₀ start ds c' → Logged (ms ++ ms') [] nbuf c' →
        (env.dma (i + 2) = none ∧ ms'.length = 0 ∨ ms'.length = 1) → Given env (i + 2) ms' →
        Post (fun (a : ℤ) c =>
          (a = i + (piece :: pieces).length + 1 ∧ ∃ ms', AllSent env c₀ start i ifNum bufferType mss
            bitFlags last ds ms nbuf (piece :: pieces) ms' c) ∨
          ((-((i : ℤ) + (piece :: pieces).length) ≤ a ∧ a ≤ 0) ∧ ∃ j ms',
            GaveUp env c₀ start i ifNum bufferType mss bitFlags isFraglist ds ms nbuf
              (piece :: pieces) j ms' c))
          (nssCoreSendUnwindDma size isFraglist (i + 1) hlosIndex >>= fun _ =>
            (.ret (-((i : ℤ) + 1)))) c' := by
      intro c' ms' hlaid hlogged hstuck hgiven
      refine Post.bind (Q := fun _ c => c = undo size isFraglist (i + 1) hlosIndex.toNat c') ?_ ?_
      · intro _ t hexec
        rw [unwind_exec hk hsize _ _ hslot] at hexec
        exact (Prod.mk.inj (Option.some.inj hexec)).2.symm
      · rintro _ t rfl
        have hrange : -((i : ℤ) + (piece :: pieces).length) ≤ -((i : ℤ) + 1) ∧ -((i : ℤ) + 1) ≤ 0 := by
          rw [List.length_cons]
          omega
        exact post_ret (.inr ⟨hrange, 0, ms', gaveUp_here hring hlaid hlogged hidx hstuck hgiven⟩)
    unfold scatterFrom
    apply post_dmaMap
    · intro hnone
      exact hgive [] h (by rwa [List.append_nil]) (.inl ⟨hnone, rfl⟩) given_nil
    · intro addr hsome
      have hmapped : Laid c₀ start ds { c with maps := c.maps ++ [⟨addr, piece.mapLen, piece.page⟩] } :=
        h.frame rfl rfl
      have hlogged : Logged (ms ++ [⟨addr, piece.mapLen, piece.page⟩]) [] nbuf
          { c with maps := c.maps ++ [⟨addr, piece.mapLen, piece.page⟩] } :=
        ⟨congrArg (· ++ _) hlog.maps, hlog.unmaps, hlog.nbuf⟩
      dsimp only
      by_cases hfrags : piece.nrFrags > 0
      · rw [if_pos hfrags]
        exact hgive _ hmapped hlogged (.inr rfl) (given_nil.cons hsome)
      · rw [if_neg hfrags]
        have hnext : ((hlosIndex + 1) &&& (size - 1)).toNat = advance size.toNat start (i + 1) := by
          rw [masked_add hk hsize, hidx, advance_advance]
          rfl
        have hfill := hmapped.fill (hring ▸ hstart) (by rw [hring]; omega)
          (show ((hlosIndex + 1) &&& (size - 1)).toNat = _ by rw [hnext, hring, hlength])
          (pieceDesc ifNum bufferType mss bitFlags 0 piece ⟨addr, piece.mapLen, piece.page⟩)
        apply post_onModify
        refine Post.mono (ih hfill ⟨hlogged.maps, hlogged.unmaps, hlogged.nbuf⟩ ?_ ?_ hnext) ?_
        · rw [List.length_append, hlength]
          rfl
        · omega
        · rintro a t (⟨ha, ms', hall⟩ | ⟨ha, j, ms', hgave⟩)
          · refine .inl ⟨?_, _, hall.cons hsome⟩
            rw [ha, List.length_cons]
            push_cast
            ring
          · refine .inr ⟨?_, j + 1, _, hgave.cons hsome⟩
            rw [List.length_cons]
            omega

end Scatter

/-- The marks of the first and the last segment are those that the flags have. -/
def KeepsMarks (flags bits : U16) : Prop :=
  bits.getLsbD 2 = flags.getLsbD 2 ∧ bits.getLsbD 3 = flags.getLsbD 3

/-- The entries of `frags[]`, or the members of the frag_list. -/
def morePieces (nbuf : TxSkb) : List TxPiece :=
  if nbuf.hasFragList then nbuf.fragList.map headPiece else nbuf.fragSizes.map (fragPiece nbuf)

section Encoders
variable (env : Outside) (c₀ : TxCall) (start : ℕ) (ifNum : U32) (nbuf : TxSkb) (bufferType : U8)
  (flags : U16)

/-- The descriptors and mappings of a buffer that is sent. -/
inductive Written : List H2nDescriptor → List Mapping → Prop where
  | simple (mss bits : U16) (piece : TxPiece) (m : Mapping)
      (whole : txSegments nbuf = 0 ∨ isBounce bufferType = true)
      (offs : piece.offs = nbuf.data - nbuf.head) (len : piece.len = nbuf.len)
      (given : env.dma 1 = some m.addr ∨ env.dma 0 = some m.addr)
      (first : bits.getLsbD 2 = true) (last : bits.getLsbD 3 = true)
      (kept : bits.getLsbD 7 = flags.getLsbD 7) :
      Written [pieceDesc ifNum bufferType mss bits nbuf.addr piece m] [m]
  | nrFrags (mss bits : U16) (m : Mapping) (ms : List Mapping)
      (more : txSegments nbuf ≠ 0) (one : nbuf.hasFragList = false)
      (all : ms.length = (morePieces nbuf).length) (given : Given env 1 (m :: ms))
      (marks : KeepsMarks flags bits) (discard : bits.getLsbD 7 = true) :
      Written (patchLast (lastFrag nbuf)
        ([pieceDesc ifNum bufferType mss (bits ||| H2N_BIT_FLAG_FIRST_SEGMENT) 0
          (headPiece nbuf.toTxSegment) m] ++
            pieceDescs ifNum bufferType mss bits (morePieces nbuf) ms)) (m :: ms)
  | fraglist (mss bits : U16) (m : Mapping) (ms : List Mapping)
      (more : txSegments nbuf ≠ 0) (many : nbuf.hasFragList = true)
      (all : ms.length = (morePieces nbuf).length) (given : Given env 1 (m :: ms))
      (marks : KeepsMarks flags bits) (kept : bits.getLsbD 7 = flags.getLsbD 7) :
      Written (patchLast lastMember
        ([pieceDesc ifNum bufferType mss (bits ||| H2N_BIT_FLAG_FIRST_SEGMENT) nbuf.addr
          (headPiece nbuf.toTxSegment) m] ++
            pieceDescs ifNum bufferType mss (bits ||| H2N_BIT_FLAG_DISCARD) (morePieces nbuf) ms))
        (m :: ms)

/-- The head cannot be mapped, or one of the segments behind it cannot be sent. -/
inductive Failed (c : TxCall) : Prop where
  | head (missing : env.dma 1 = none) (laid : Laid c₀ start [] c) (log : Logged [] [] nbuf c)
  | segment (mss bits bits' : U16) (opaqueWord : U32) (m : Mapping) (j : ℕ) (ms' : List Mapping)
      (gave : GaveUp env c₀ start 0 ifNum bufferType mss bits nbuf.hasFragList
        [pieceDesc ifNum bufferType mss bits' opaqueWord (headPiece nbuf.toTxSegment) m] [m] nbuf
        (morePieces nbuf) j ms' c)
      (given : env.dma 1 = some m.addr) (len : m.len = nbuf.tail - nbuf.head)
      (page : m.page = false)

def Outcome (a : ℤ) (c : TxCall) : Prop :=
  (∃ descs ms nb, a = descs.length ∧ (0 < descs.length ∧ descs.length ≤ (morePieces nbuf).length + 1) ∧
    Laid c₀ start descs c ∧ Logged ms [] nb c ∧
    Written env ifNum nbuf bufferType flags descs ms) ∨
  (-(morePieces nbuf).length ≤ a ∧ a ≤ 0) ∧ Failed env c₀ start ifNum nbuf bufferType c

end Encoders

section Encoding
variable {env : Outside} {size : U16} {ifNum : U32} {nbuf : TxSkb} {bufferType : U8} {mss : U16}
  {c₀ c : TxCall} {start k : ℕ} {hlosIndex flags flags' : U16}

theorem Laid.refl (hwrote : c₀.port.ring.wrote = 0) : Laid c₀ start [] c₀ :=
  ⟨rfl, rfl, rfl, rfl, rfl, rfl, hwrote, rfl, fun _ _ => rfl⟩

theorem or_getLsbD {x y : U16} {i : ℕ} (h : y.getLsbD i = false) :
    (x ||| y).getLsbD i = x.getLsbD i := by
  rw [BitVec.getLsbD_or, h, Bool.or_false]

theorem KeepsMarks.or {bits x : U16} (h : KeepsMarks flags bits) (hfirst : x.getLsbD 2 = false)
    (hlast : x.getLsbD 3 = false) : KeepsMarks flags (bits ||| x) :=
  ⟨(or_getLsbD hfirst).trans h.1, (or_getLsbD hlast).trans h.2⟩

theorem KeepsMarks.checksum {bits : U16} (h : KeepsMarks flags bits) :
    KeepsMarks flags (checksumFlags nbuf bits) := by
  unfold checksumFlags
  split
  · exact h.or rfl rfl
  · exact h

theorem checksum_discard {bits : U16} : (checksumFlags nbuf bits).getLsbD 7 = bits.getLsbD 7 := by
  unfold checksumFlags
  split
  · exact or_getLsbD rfl
  · rfl

/-- First and last, and otherwise as the caller's flags have it. -/
structure Single (flags bits : U16) : Prop where
  first : bits.getLsbD 2 = true
  last : bits.getLsbD 3 = true
  kept : bits.getLsbD 7 = flags.getLsbD 7

theorem single_flags :
    Single flags (flags ||| H2N_BIT_FLAG_FIRST_SEGMENT ||| H2N_BIT_FLAG_LAST_SEGMENT) := by
  constructor
  · simp [H2N_BIT_FLAG_FIRST_SEGMENT]
  · simp [H2N_BIT_FLAG_LAST_SEGMENT]
  · rw [or_getLsbD rfl, or_getLsbD rfl]

theorem Single.or {bits x : U16} (h : Single flags bits) (hx : x.getLsbD 7 = false) :
    Single flags (bits ||| x) := by
  constructor
  · rw [BitVec.getLsbD_or, h.first, Bool.true_or]
  · rw [BitVec.getLsbD_or, h.last, Bool.true_or]
  · rw [or_getLsbD hx, h.kept]

theorem single_checksum (nbuf : TxSkb) (flags : U16) : Single flags (match nbuf.ipSummed with
    | .checksumPartial => flags ||| H2N_BIT_FLAG_FIRST_SEGMENT ||| H2N_BIT_FLAG_LAST_SEGMENT |||
        H2N_BIT_FLAG_GEN_IP_TRANSPORT_CHECKSUM
    | .checksumUnnecessary => flags ||| H2N_BIT_FLAG_FIRST_SEGMENT |||
        H2N_BIT_FLAG_LAST_SEGMENT ||| H2N_BIT_FLAG_GEN_IP_TRANSPORT_CHECKSUM_NONE
    | _ => flags ||| H2N_BIT_FLAG_FIRST_SEGMENT ||| H2N_BIT_FLAG_LAST_SEGMENT) := by
  cases nbuf.ipSummed with
  | checksumPartial => exact single_flags.or rfl
  | checksumUnnecessary => exact single_flags.or rfl
  | checksumNone => exact single_flags
  | checksumComplete => exact single_flags

theorem reuse_given {tx : TxEnv} {addr : U32} {sz : U16}
    (h : reuseMapping tx nbuf = some (addr, sz)) : tx.dma 0 = some addr := by
  unfold reuseMapping at h
  split at h
  · obtain ⟨a, ha, heq⟩ := Option.map_eq_some_iff.mp h
    rw [ha, (Prod.mk.inj heq).1]
  · cases h

theorem whole_outcome (hlaid : Laid c₀ start [] c) (hstart : start < c₀.port.ring.size.toNat)
    {c' : TxCall} {ms : List Mapping} {nb : TxSkb} {d : H2nDescriptor}
    (hring : c'.port.ring = c.port.ring.fill start d)
    (hcount : c'.port.stats .nssSkbCount = c.port.stats .nssSkbCount) (hlog : Logged ms [] nb c')
    (hwritten : Written env ifNum nbuf bufferType flags [d] ms) :
    Outcome env c₀ start ifNum nbuf bufferType flags 1 c' := by
  have hfill := hlaid.fill hstart (Nat.zero_lt_of_lt hstart) (advance_zero hstart).symm d
  exact .inl ⟨[d], ms, nb, rfl, ⟨Nat.one_pos, Nat.le_add_left 1 _⟩, hfill.frame hring hcount, hlog,
    hwritten⟩

theorem simpleSkb_post (hring : c₀.port.ring.size = size) (hstart : start < size.toNat)
    (hlaid : Laid c₀ start [] c₀) (hlog : Logged [] [] nbuf c₀) (hidx : hlosIndex.toNat = start)
    (hwhole : txSegments nbuf = 0 ∨ isBounce bufferType = true)
    (hflags : flags'.getLsbD 7 = flags.getLsbD 7) :
    Post (Outcome env c₀ start ifNum nbuf bufferType flags)
      (TransmitMappings.nssCoreSendBufferSimpleSkb env ifNum nbuf hlosIndex flags' bufferType mss)
      c₀ := by
  have hstart' : start < c₀.port.ring.size.toNat := hring ▸ hstart
  have hsingle := single_checksum nbuf flags'
  subst hidx
  unfold TransmitMappings.nssCoreSendBufferSimpleSkb
  cases hreuse : reuseMapping env.toTxEnv nbuf with
  | some reuse =>
    obtain ⟨addr, sz⟩ := reuse
    have hmarks := hsingle.or (x := H2N_BIT_FLAG_BUFFER_REUSE) rfl
    apply post_modify
    refine post_writePiece ⟨addr, sz.setWidth 32, false⟩ ?_
    apply post_modify
    apply post_onModify
    refine post_ret ?_
    apply whole_outcome hlaid hstart'
    · rfl
    · exact DrvStats.add_of_ne _ 1 (show DrvStat.nssSkbCount ≠ .txBufferReuse by decide)
    · exact ⟨congrArg (· ++ _) hlog.maps, hlog.unmaps, congrArg env.recycle hlog.nbuf⟩
    · exact .simple mss _ _ _ hwhole rfl rfl (.inr (reuse_given hreuse)) hmarks.first hmarks.last
        (hmarks.kept.trans hflags)
  | none =>
    apply post_dmaMap
    · exact fun hnone => post_ret (.inr ⟨⟨by omega, le_rfl⟩, .head hnone hlaid hlog⟩)
    · intro addr haddr
      refine post_writePiece ⟨addr, nbuf.tail - nbuf.head, false⟩ ?_
      apply post_onModify
      refine post_ret ?_
      apply whole_outcome hlaid hstart'
      · rfl
      · exact DrvStats.add_of_ne _ 1 (show DrvStat.nssSkbCount ≠ .txSimple by decide)
      · exact ⟨congrArg (· ++ _) hlog.maps, hlog.unmaps, hlog.nbuf⟩
      · exact .simple mss _ _ _ hwhole rfl rfl (.inl haddr) hsingle.first hsingle.last
          (hsingle.kept.trans hflags)

theorem head_laid (hlaid : Laid c₀ start [] c₀) (hstart : start < c₀.port.ring.size.toNat)
    (hidx : hlosIndex.toNat = start) (d : H2nDescriptor) {ms : List Mapping} :
    Laid c₀ start [d] (TxCall.setPort (c₀.port.onRing fun r => r.fill hlosIndex.toNat d)
      { c₀ with maps := ms }) :=
  (hlaid.fill hstart (Nat.zero_lt_of_lt hstart) (hidx.trans (advance_zero hstart).symm) d).frame
    rfl rfl

section Behind
variable {bits : U16} {last : H2nDescriptor → H2nDescriptor} {stat : DrvStat} {d : H2nDescriptor}
  {m : Mapping}

theorem behind_post (hk : k < 16) (hsize : size.toNat = 2 ^ k) (hring : c₀.port.ring.size = size)
    (hstart : start < size.toNat) (hlaid : Laid c₀ start [d] c) (hlog : Logged [m] [] nbuf c)
    (hroom : (morePieces nbuf).length + 1 < size.toNat) (hidx : hlosIndex.toNat = start)
    (hstat : DrvStat.nssSkbCount ≠ stat)
    (hwritten : ∀ ms, ms.length = (morePieces nbuf).length → Given env 2 ms →
      Written env ifNum nbuf bufferType flags (patchLast last
        ([d] ++ pieceDescs ifNum bufferType mss bits (morePieces nbuf) ms)) (m :: ms))
    (hfailed : ∀ j ms t, GaveUp env c₀ start 0 ifNum bufferType mss bits nbuf.hasFragList [d] [m]
      nbuf (morePieces nbuf) j ms t → Failed env c₀ start ifNum nbuf bufferType t) :
    Post (Outcome env c₀ start ifNum nbuf bufferType flags)
      (scatterFrom env size ifNum bufferType mss bits nbuf.hasFragList last stat 0
        (morePieces nbuf) hlosIndex) c := by
  have hslot : hlosIndex.toNat = advance size.toNat start 0 := by rw [hidx, advance_zero hstart]
  refine Post.mono (scatterFrom_post hk hsize hring hstart hstat hlaid hlog (Nat.zero_add 1).symm
    ?_ hslot) ?_
  · omega
  rintro a t (⟨ha, ms, hsent⟩ | ⟨ha, j, ms, hgave⟩)
  · have hlength : (patchLast last ([d] ++ pieceDescs ifNum bufferType mss bits (morePieces nbuf)
        ms)).length = (morePieces nbuf).length + 1 := by
      rw [length_patchLast, List.length_append, pieceDescs, List.length_zipWith, hsent.all,
        Nat.min_self, Nat.add_comm]
      rfl
    refine .inl ⟨_, _, nbuf, ?_, ?_, hsent.toLaid, hsent.toLogged, hwritten ms hsent.all hsent.given⟩
    · rw [hlength, ha]
      omega
    · rw [hlength]
      exact ⟨Nat.succ_pos _, le_rfl⟩
  · rw [Nat.cast_zero, zero_add] at ha
    exact .inr ⟨ha, hfailed j ms t hgave⟩

end Behind

theorem nrFrags_post (hk : k < 16) (hsize : size.toNat = 2 ^ k) (hring : c₀.port.ring.size = size)
    (hstart : start < size.toNat) (hlaid : Laid c₀ start [] c₀) (hlog : Logged [] [] nbuf c₀)
    (hroom : (morePieces nbuf).length + 1 < size.toNat) (hidx : hlosIndex.toNat = start)
    (hmore : txSegments nbuf ≠ 0) (hone : nbuf.hasFragList = false)
    (hflags : KeepsMarks flags flags') :
    Post (Outcome env c₀ start ifNum nbuf bufferType flags)
      (TransmitMappings.nssCoreSendBufferNrFrags env size ifNum nbuf hlosIndex flags' bufferType mss)
      c₀ := by
  have hstart' : start < c₀.port.ring.size.toNat := hring ▸ hstart
  have hpieces : morePieces nbuf = nbuf.fragSizes.map (fragPiece nbuf) := by
    unfold morePieces
    rw [hone]
    rfl
  unfold TransmitMappings.nssCoreSendBufferNrFrags
  apply post_dmaMap
  · exact fun hnone => post_ret (.inr ⟨⟨by omega, le_rfl⟩, .head hnone hlaid hlog⟩)
  · intro addr haddr
    let m : Mapping := ⟨addr, nbuf.tail - nbuf.head, false⟩
    refine post_writePiece m ?_
    dsimp only
    by_cases hmax : nbuf.fragSizes.length > env.maxSkbFrags
    · rw [if_pos hmax]
      exact post_halt
    · rw [if_neg hmax, ← hpieces, ← hone]
      apply behind_post hk hsize hring hstart
      · exact head_laid hlaid hstart' hidx _
      · exact ⟨congrArg (· ++ [m]) hlog.maps, hlog.unmaps, hlog.nbuf⟩
      · exact hroom
      · exact hidx
      · decide
      · intro ms hall hgiven
        refine .nrFrags mss _ m ms hmore hone hall (hgiven.cons haddr) ?_ ?_
        · exact (hflags.or rfl rfl).checksum
        · rw [checksum_discard]
          simp [H2N_BIT_FLAG_DISCARD]
      · exact fun j ms t hgave => .segment mss _ _ 0 m j ms hgave haddr rfl rfl

theorem fraglist_post (hk : k < 16) (hsize : size.toNat = 2 ^ k) (hring : c₀.port.ring.size = size)
    (hstart : start < size.toNat) (hlaid : Laid c₀ start [] c₀) (hlog : Logged [] [] nbuf c₀)
    (hroom : (morePieces nbuf).length + 1 < size.toNat) (hidx : hlosIndex.toNat = start)
    (hmore : txSegments nbuf ≠ 0) (hmany : nbuf.hasFragList = true)
    (hflags : KeepsMarks flags flags') (hkept : flags'.getLsbD 7 = flags.getLsbD 7) :
    Post (Outcome env c₀ start ifNum nbuf bufferType flags)
      (TransmitMappings.nssCoreSendBufferFraglist env size ifNum nbuf hlosIndex flags' bufferType mss)
      c₀ := by
  have hstart' : start < c₀.port.ring.size.toNat := hring ▸ hstart
  have hpieces : morePieces nbuf = nbuf.fragList.map headPiece := by
    unfold morePieces
    rw [hmany]
    rfl
  unfold TransmitMappings.nssCoreSendBufferFraglist
  apply post_dmaMap
  · exact fun hnone => post_ret (.inr ⟨⟨by omega, le_rfl⟩, .head hnone hlaid hlog⟩)
  · intro addr haddr
    let m : Mapping := ⟨addr, nbuf.tail - nbuf.head, false⟩
    refine post_writePiece m ?_
    dsimp only
    rw [← hpieces, ← hmany]
    apply behind_post hk hsize hring hstart
    · exact head_laid hlaid hstart' hidx _
    · exact ⟨congrArg (· ++ [m]) hlog.maps, hlog.unmaps, hlog.nbuf⟩
    · exact hroom
    · exact hidx
    · decide
    · intro ms hall hgiven
      refine .fraglist mss _ m ms hmore hmany hall (hgiven.cons haddr) hflags.checksum ?_
      exact checksum_discard.trans hkept
    · exact fun j ms t hgave => .segment mss _ _ nbuf.addr m j ms hgave haddr rfl rfl

theorem length_morePieces (nbuf : TxSkb) : (morePieces nbuf).length = (txSegments nbuf).toNat := by
  have hlt := nbuf.fragSizes_lt
  unfold morePieces txSegments
  split
  · rw [List.length_map, BitVec.toNat_ofNat, Nat.mod_eq_of_lt nbuf.fragList_lt]
  · rw [List.length_map, BitVec.toNat_ofNat, Nat.mod_eq_of_lt (by omega)]

theorem encode_post (hk : k < 16) (hsize : size.toNat = 2 ^ k) (hring : c₀.port.ring.size = size)
    (hstart : start < size.toNat) (hlaid : Laid c₀ start [] c₀) (hlog : Logged [] [] nbuf c₀)
    (hroom : (txSegments nbuf).toNat + 1 < size.toNat) (hidx : hlosIndex.toNat = start) :
    Post (Outcome env c₀ start ifNum nbuf bufferType flags)
      (TransmitMappings.encode env ifNum nbuf bufferType flags size hlosIndex) c₀ := by
  rw [← length_morePieces] at hroom
  unfold TransmitMappings.encode
  dsimp only
  -- the flag that asks for segmentation is none of the marks
  generalize hflags' : (if (nbuf.isGso && !isBounce bufferType) = true then
    flags ||| H2N_BIT_FLAG_SEGMENTATION_ENABLE else flags) = flags'
  have hmarks : KeepsMarks flags flags' ∧ flags'.getLsbD 7 = flags.getLsbD 7 := by
    subst hflags'
    split
    · exact ⟨⟨or_getLsbD rfl, or_getLsbD rfl⟩, or_getLsbD rfl⟩
    · exact ⟨⟨rfl, rfl⟩, rfl⟩
  by_cases hwhole : (txSegments nbuf = 0 || isBounce bufferType) = true
  · rw [if_pos hwhole]
    refine simpleSkb_post hring hstart hlaid hlog hidx ?_ hmarks.2
    simpa using hwhole
  · rw [if_neg hwhole]
    have hmore : txSegments nbuf ≠ 0 := by
      intro hzero
      exact hwhole (by simp [hzero])
    by_cases hmany : nbuf.hasFragList = true
    · rw [if_pos hmany]
      exact fraglist_post hk hsize hring hstart hlaid hlog hroom hidx hmore hmany hmarks.1 hmarks.2
    · rw [if_neg hmany]
      exact nrFrags_post hk hsize hring hstart hlaid hlog hroom hidx hmore
        (Bool.not_eq_true _ ▸ hmany) hmarks.1

end Encoding

end NssDrv.TransmitOutcome

import Mathlib.Algebra.Ring.Nat
import NssDrv.ReceivePath
import NssDrv.SegmentParser

set_option autoImplicit false

/-!
# The assemblers follow the segment parser

What one descriptor does to the ring's unfinished chain, to the skbs in memory
and to the counters, in terms of the packet the parser holds.
-/
namespace NssDrv.ReceiveAssembly
open HlosInterface SkbMemory ReceivePath SegmentParser LinkedChain

structure Segment where
  nbuf : U32
  payloadLen : U16
  ncm : NssCmnMsg
  deriving DecidableEq, Repr

def segmentOf (env : RxEnv) (d : N2hDescriptor) : Segment := ⟨d.opaqueWord, d.payloadLen, env.nbuf.ncm⟩

@[simp] theorem segmentOf_nbuf (env : RxEnv) (d : N2hDescriptor) :
    (segmentOf env d).nbuf = d.opaqueWord := rfl

def total (gs : List Segment) : ℕ := (gs.map fun g => g.payloadLen.toNat).sum

/-- A byte count as the 32-bit fields of an skb hold it. -/
abbrev bytes (gs : List Segment) : U32 := BitVec.ofNat 32 (total gs)

theorem bytes_singleton (g : Segment) : bytes [g] = g.payloadLen.setWidth 32 := by
  simp [bytes, total]

theorem bytes_append (gs : List Segment) (g : Segment) :
    bytes (gs ++ [g]) = bytes gs + g.payloadLen.setWidth 32 := by
  simp [bytes, total, BitVec.ofNat_add]

/-- A linear packet keeps its segments on the frag_list; those of a paged one
    are freed as their pages are taken. -/
def packageOf (p : Packet Segment) : Package :=
  (p.first.nbuf, match p.mode with
    | .linear => p.rest.map Segment.nbuf
    | .paged => [])

structure Shaped (p : Packet Segment) (skb : Skb) : Prop where
  ncm : skb.ncm = p.first.ncm
  len : skb.len = bytes p.segments
  area : messageArea skb = p.first.payloadLen.toNat
  dataLen : p.mode = .linear → p.rest ≠ [] → skb.dataLen = bytes p.rest

/-- The same while the packet may still grow. -/
structure Growing (p : Packet Segment) (skb : Skb) : Prop extends Shaped p skb where
  linear : p.mode = .linear →
    skb.frags = [] ∧ skb.fragList ≠ .own ∧ skb.dataLen = bytes p.rest
  paged : p.mode = .paged → skb.frags ≠ [] ∧ skb.dataLen = skb.len

/-- The ring holds the unfinished packet `st`; beside it the memory has `loose`. -/
structure Tracks (s : RxHost) (st : Option (Packet Segment)) (loose : List Package) : Prop where
  holds : Holds s.mem ((st.map packageOf).toList ++ loose)
  head : s.head = (sameMode .linear st).map fun p => p.first.nbuf
  jumboStart : s.jumboStart = (sameMode .paged st).map fun p => p.first.nbuf
  tail : ∀ p g, st = some p → p.mode = .linear → p.rest.getLast? = some g → s.tail = some g.nbuf
  content : ∀ p, st = some p → ∃ skb, s.mem.heap p.first.nbuf = some skb ∧ Growing p skb

/-- No packet goes out, and no skb is counted. -/
structure Unobserved (s s' : RxHost) : Prop where
  received : s'.received = s.received
  accesses : s'.accesses = s.accesses
  messages : s'.messages = s.messages
  skbCount : s'.stats .nssSkbCount = s.stats .nssSkbCount

theorem Unobserved.trans {s s' s'' : RxHost} (h : Unobserved s s') (h' : Unobserved s' s'') :
    Unobserved s s'' where
  received := h'.received.trans h.received
  accesses := h'.accesses.trans h.accesses
  messages := h'.messages.trans h.messages
  skbCount := h'.skbCount.trans h.skbCount

/-- A packet that is complete is in memory, and in no pointer of the ring. `overrun`
    tells whether the step wrote outside an skb. -/
structure Assembles (s s' : RxHost) (nbuf : Option U32) (st out : Option (Packet Segment))
    (loose : List Package) (overrun : Bool) : Prop where
  tracks : Tracks s' st ((out.map packageOf).toList ++ loose)
  nbuf_eq : nbuf = out.map fun p => p.first.nbuf
  shaped : ∀ p, out = some p → ∃ skb, s'.mem.heap p.first.nbuf = some skb ∧ Shaped p skb
  unobserved : Unobserved s s'
  misuse : s'.mem.misuse = (overrun || s.mem.misuse)

theorem Assembles.after {s s₁ s' : RxHost} {nbuf : Option U32} {st out : Option (Packet Segment)}
    {loose : List Package} {overrun : Bool} (h : Assembles s₁ s' nbuf st out loose overrun)
    (hquiet : Unobserved s s₁) (hmisuse : s₁.mem.misuse = s.mem.misuse) :
    Assembles s s' nbuf st out loose overrun :=
  { h with
    unobserved := hquiet.trans h.unobserved
    misuse := by rw [h.misuse, hmisuse] }

section Shape
variable {p : Packet Segment} {skb : Skb} {d : N2hDescriptor} {env : RxEnv}

theorem shaped_linear (hskb : skb.frags = []) (hncm : skb.ncm = env.nbuf.ncm) :
    Shaped ⟨.linear, segmentOf env d, []⟩ (linearPayload d skb) where
  ncm := hncm
  len := (bytes_singleton (segmentOf env d)).symm
  area := by simp [messageArea, linearPayload, hskb, segmentOf]
  dataLen _ h := (h rfl).elim

theorem growing_paged (hskb : skb.frags ≠ []) (hncm : skb.ncm = env.nbuf.ncm) :
    Growing ⟨.paged, segmentOf env d, []⟩ (fillPage d skb) where
  ncm := hncm
  len := (bytes_singleton (segmentOf env d)).symm
  area := by
    cases hfrags : skb.frags with
    | nil => exact (hskb hfrags).elim
    | cons frag frags => simp [messageArea, fillPage, hfrags, segmentOf]
  dataLen h := by cases h
  linear h := by cases h
  paged _ := by
    refine ⟨?_, rfl⟩
    cases hfrags : skb.frags with
    | nil => exact (hskb hfrags).elim
    | cons frag frags => simp [fillPage, hfrags]

theorem Growing.addLength (h : Growing p skb) (hmode : p.mode = .linear) :
    Growing (p.append (segmentOf env d)) (addLength d skb) := by
  obtain ⟨hfrags, hown, hdata⟩ := h.linear hmode
  have hlen : (ReceivePath.addLength d skb).len = bytes (p.append (segmentOf env d)).segments := by
    change skb.len + _ = bytes ((p.first :: p.rest) ++ [segmentOf env d])
    rw [bytes_append, h.len]
    rfl
  have hdata' : (ReceivePath.addLength d skb).dataLen = bytes (p.rest ++ [segmentOf env d]) := by
    change skb.dataLen + _ = _
    rw [bytes_append, hdata]
    rfl
  exact
    { ncm := h.ncm
      len := hlen
      area := h.area
      dataLen := fun _ _ => hdata'
      linear := fun _ => ⟨hfrags, hown, hdata'⟩
      paged := fun hpaged => by simp [hmode] at hpaged }

end Shape

section Linear
variable {s : RxHost} {st : Option (Packet Segment)} {loose : List Package} {skb : Skb}
  {env : RxEnv} {d : N2hDescriptor}

def linearEvent (d : N2hDescriptor) (skb : Skb) : Event :=
  if isFirst d && !isLast d && skb.hasFragList then .refused
  else .segment .linear (isFirst d) (isLast d)

theorem Tracks.clear (h : Holds s.mem loose) (hhead : s.head = none)
    (hjumbo : s.jumboStart = none) : Tracks s none loose where
  holds := h
  head := hhead
  jumboStart := hjumbo
  tail := by simp
  content := by simp

theorem Tracks.live {p : Packet Segment} (h : Tracks s (some p) loose) {a : U32}
    (ha : a ∈ units loose) : a ≠ p.first.nbuf ∧ a ∉ (packageOf p).2 := h.holds.ne_of_cons a ha

theorem attach_eq (nbuf : U32) (s : RxHost) (head : U32) :
    ∃ m, attach nbuf s head = { s with mem := m, tail := some nbuf } := by
  unfold attach
  cases s.mem.hasFragList head with
  | false => exact ⟨_, rfl⟩
  | true => cases s.tail <;> exact ⟨_, rfl⟩

theorem attach_holds {p : Packet Segment} {head : Skb} (env : RxEnv) (hmode : p.mode = .linear)
    (h : Tracks s (some p) ((d.opaqueWord, []) :: loose))
    (hhead : s.mem.heap p.first.nbuf = some head) (hown : head.fragList ≠ .own) :
    Holds (attach d.opaqueWord s p.first.nbuf).mem
        (packageOf (p.append (segmentOf env d)) :: loose) ∧
      (attach d.opaqueWord s p.first.nbuf).mem.misuse = s.mem.misuse ∧
      ∃ l, l ≠ .own ∧ (attach d.opaqueWord s p.first.nbuf).mem.heap p.first.nbuf =
        some { head with fragList := l } := by
  have hpackage : packageOf p = (p.first.nbuf, p.rest.map Segment.nbuf) := by simp [packageOf, hmode]
  have hholds := h.holds
  simp only [Option.map_some, Option.toList_some, hpackage] at hholds
  have hswap := hholds.perm (List.Perm.swap ..)
  have hne : p.first.nbuf ≠ d.opaqueWord := (hswap.ne_of_cons _ (by simp)).1
  have hlinked := (hholds.linked_of_mem (List.mem_cons_self ..)).2
  obtain ⟨⟨nbuf, hnbuf⟩, _⟩ := hswap.linked_of_mem (List.mem_cons_self ..)
  have hlist : s.mem.fragList p.first.nbuf = head.fragList := by simp [Memory.fragList, hhead]
  have hhas : s.mem.hasFragList p.first.nbuf = head.hasFragList := by
    simp [Memory.hasFragList, hhead]
  rw [hlist] at hlinked
  cases hrest : p.rest with
  | nil =>
    have hempty : head.fragList = .empty := by
      rw [hrest] at hlinked
      have hnone := hlinked.eq_nil_iff.mpr rfl
      cases hl : head.fragList with
      | empty => rfl
      | own => exact (hown hl).elim
      | chain a => simp [hl, FragList.first] at hnone
    have hattach : (attach d.opaqueWord s p.first.nbuf).mem =
        (s.mem.setNext d.opaqueWord none).setFragList p.first.nbuf (.chain d.opaqueWord) := by
      simp [attach, hhas, Skb.hasFragList, hempty, RxHost.onMem, hlist, FragList.first]
    rw [hattach]
    refine ⟨?_, ?_, .chain d.opaqueWord, by simp, ?_⟩
    · rw [hrest] at hswap
      have hfirst := hswap.attachFirst
      simpa [packageOf, hmode, hrest, segmentOf] using hfirst
    · simp [Memory.setFragList, Memory.setNext, Memory.modify, hnbuf, hne, hhead]
    · simp [Memory.setFragList, Memory.setNext, Memory.modify, hne, hhead]
  | cons g gs =>
    have hnonempty : head.fragList ≠ .empty := by
      intro hl
      rw [hl, hrest] at hlinked
      cases hlinked
    obtain ⟨t, ht⟩ : ∃ t, p.rest.getLast? = some t := by simp [hrest, List.getLast?_cons]
    have htail : s.tail = some t.nbuf := h.tail p t rfl hmode ht
    have hlast : (p.rest.map Segment.nbuf).getLast? = some t.nbuf := by simp [ht]
    have hmem : t.nbuf ∈ p.rest.map Segment.nbuf := List.mem_of_getLast? hlast
    have hattach : (attach d.opaqueWord s p.first.nbuf).mem =
        (s.mem.setNext t.nbuf (some d.opaqueWord)).setNext d.opaqueWord none := by
      simp [attach, hhas, Skb.hasFragList, hnonempty, RxHost.onMem, htail]
    have hnt : p.first.nbuf ≠ t.nbuf := by
      have hnodup := hholds.nodup
      simp only [units_cons, List.cons_append, List.nodup_cons] at hnodup
      exact fun heq => hnodup.1 (List.mem_append_left _ (heq ▸ hmem))
    obtain ⟨tail, htailskb⟩ :=
      Option.isSome_iff_exists.mp ((hholds.live t.nbuf).mpr (by simp [hmem]))
    have htn : d.opaqueWord ≠ t.nbuf := fun heq => (hholds.ne_of_cons _ (by simp)).2 (heq ▸ hmem)
    rw [hattach]
    refine ⟨?_, ?_, head.fragList, hown, ?_⟩
    · have hnext := hswap.attachNext hlast
      simpa [packageOf, hmode, segmentOf] using hnext
    · simp [Memory.setNext, Memory.modify, hnbuf, htn, htailskb]
    · simp [Memory.setNext, Memory.modify, hne, hnt, hhead]

theorem Tracks.modify {a : U32} (h : Tracks s st loose) (ha : a ∈ units loose) (f : Skb → Skb)
    (hfirst : ∀ skb, s.mem.heap a = some skb → (f skb).fragList.first = skb.fragList.first)
    (hnext : ∀ skb, (f skb).next = skb.next) : Tracks (s.modify a f) st loose where
  holds := h.holds.modify f hfirst hnext
  head := h.head
  jumboStart := h.jumboStart
  tail := h.tail
  content := by
    rintro p rfl
    obtain ⟨skb, hskb, hgrow⟩ := h.content p rfl
    have hne : p.first.nbuf ≠ a := (h.live ha).1.symm
    refine ⟨skb, ?_, hgrow⟩
    simp [RxHost.modify, RxHost.onMem, Memory.modify, hne, hskb]

theorem Tracks.kfreeHeld {p : Option U32} (h : Tracks s st loose)
    (hp : p = st.map fun p => p.first.nbuf) :
    Holds (s.kfreeHeld p).mem loose ∧ (s.kfreeHeld p).mem.misuse = s.mem.misuse ∧
      ∀ a ∈ units loose, (s.kfreeHeld p).mem.heap a = s.mem.heap a := by
  subst hp
  cases st with
  | none => exact ⟨h.holds, rfl, fun _ _ => rfl⟩
  | some p =>
    exact ⟨h.holds.kfreeSkb, h.holds.kfreeSkb_misuse, fun _ ha => h.holds.kfreeSkb_heap ha⟩

theorem unobserved_kfreeHeld (s : RxHost) (p : Option U32) : Unobserved s (s.kfreeHeld p) := by
  cases p <;> exact ⟨rfl, rfl, rfl, rfl⟩

theorem kfreeHeld_jumboStart (s : RxHost) (p : Option U32) :
    (s.kfreeHeld p).jumboStart = s.jumboStart := by
  cases p <;> rfl

theorem kfreeHeld_head (s : RxHost) (p : Option U32) : (s.kfreeHeld p).head = s.head := by
  cases p <;> rfl

theorem Tracks.count (h : Tracks s st loose) (x : DrvStat) (n : Int) :
    Tracks (s.count x n) st loose := ⟨h.holds, h.head, h.jumboStart, h.tail, h.content⟩

theorem unobserved_count {s : RxHost} {x : DrvStat} (hx : x ≠ .nssSkbCount) (n : Int) :
    Unobserved s (s.count x n) :=
  ⟨rfl, rfl, rfl, DrvStats.add_of_ne _ _ hx.symm⟩

theorem growing_linear (hskb : Shaped ⟨.linear, segmentOf env d, []⟩ skb) (hfrags : skb.frags = []) :
    Growing ⟨.linear, segmentOf env d, []⟩ { skb with fragList := .empty, dataLen := 0 } where
  ncm := hskb.ncm
  len := hskb.len
  area := hskb.area
  dataLen _ h := (h rfl).elim
  linear _ := ⟨hfrags, by simp, rfl⟩
  paged h := by cases h

theorem Tracks.holdHead (h : Holds s.mem ((d.opaqueWord, []) :: loose))
    (hjumbo : s.jumboStart = none) (hnbuf : s.mem.heap d.opaqueWord = some skb)
    (hskb : Shaped ⟨.linear, segmentOf env d, []⟩ skb) (hfrags : skb.frags = [])
    (hplain : skb.fragList.first = none) :
    Tracks { s.modify d.opaqueWord fun skb => { skb with fragList := .empty, dataLen := 0 } with
      head := some d.opaqueWord } (some ⟨.linear, segmentOf env d, []⟩) loose where
  holds := by
    refine h.modify _ ?_ fun _ => rfl
    intro skb' hskb'
    obtain rfl : skb = skb' := Option.some.inj (hnbuf.symm.trans hskb')
    exact hplain.symm
  head := rfl
  jumboStart := hjumbo
  tail := by
    rintro p g ⟨⟩ _ hlast
    cases hlast
  content := by
    rintro p ⟨⟩
    refine ⟨_, ?_, growing_linear hskb hfrags⟩
    simp [RxHost.modify, RxHost.onMem, Memory.modify, hnbuf, segmentOf]

variable (env) in
theorem Tracks.attach {p : Packet Segment} (hmode : p.mode = .linear)
    (h : Tracks s (some p) ((d.opaqueWord, []) :: loose)) :
    Tracks ((attach d.opaqueWord s p.first.nbuf).modify p.first.nbuf (addLength d))
        (some (p.append (segmentOf env d))) loose ∧
      ((ReceivePath.attach d.opaqueWord s p.first.nbuf).modify p.first.nbuf
        (addLength d)).mem.misuse = s.mem.misuse ∧
      Unobserved s ((ReceivePath.attach d.opaqueWord s p.first.nbuf).modify p.first.nbuf
        (addLength d)) := by
  obtain ⟨head, hhead, hgrow⟩ := h.content p rfl
  have hown := (hgrow.linear hmode).2.1
  obtain ⟨hholds, hmisuse, l, hl, hheap⟩ := attach_holds env hmode h hhead hown
  obtain ⟨m, hattach⟩ := attach_eq d.opaqueWord s p.first.nbuf
  rw [hattach] at hholds hmisuse hheap ⊢
  have hgrow' : Growing p { head with fragList := l } :=
    ⟨⟨hgrow.ncm, hgrow.len, hgrow.area, hgrow.dataLen⟩,
      fun hm => ⟨(hgrow.linear hm).1, hl, (hgrow.linear hm).2.2⟩, hgrow.paged⟩
  refine ⟨⟨?_, ?_, ?_, ?_, ?_⟩, ?_, ⟨rfl, rfl, rfl, rfl⟩⟩
  · exact hholds.modify (addLength d) (fun _ _ => rfl) fun _ => rfl
  · change s.head = _
    rw [h.head]
    simp [hmode]
  · change s.jumboStart = _
    rw [h.jumboStart]
    simp [hmode]
  · rintro q g ⟨⟩ _ hlast
    obtain rfl : segmentOf env d = g := by simpa using hlast
    rfl
  · rintro q ⟨⟩
    refine ⟨_, ?_, hgrow'.addLength hmode⟩
    change (if p.first.nbuf = p.first.nbuf then _ else _) = _
    rw [if_pos rfl]
    exact congrArg _ hheap
  · exact (hholds.modify_misuse (by simp [packageOf]) _).trans hmisuse

theorem Tracks.pointers (h : Tracks s st loose) (hmode : ∀ p, st = some p → p.mode = .linear) :
    s.head = (st.map fun p => p.first.nbuf) ∧ s.jumboStart = none := by
  rw [h.head, h.jumboStart]
  cases st with
  | none => exact ⟨rfl, rfl⟩
  | some p => simp [hmode p rfl]

theorem linearWhole_assembles (h : Tracks s st ((d.opaqueWord, []) :: loose))
    (hmode : ∀ p, st = some p → p.mode = .linear) (hnbuf : s.mem.heap d.opaqueWord = some skb)
    (hskb : Shaped ⟨.linear, segmentOf env d, []⟩ skb) :
    Assembles s (linearWhole d.opaqueWord s).1 (linearWhole d.opaqueWord s).2 none
      (some ⟨.linear, segmentOf env d, []⟩) loose false := by
  obtain ⟨hhead, hjumbo⟩ := h.pointers hmode
  obtain ⟨hholds, hmisuse, hheap⟩ := h.kfreeHeld hhead
  refine ⟨.clear hholds rfl ((kfreeHeld_jumboStart _ _).trans hjumbo), rfl, ?_, ?_, hmisuse⟩
  · rintro p ⟨⟩
    exact ⟨skb, (hheap _ (by simp)).trans hnbuf, hskb⟩
  · exact (unobserved_kfreeHeld s s.head).trans ⟨rfl, rfl, rfl, rfl⟩

theorem linearFirst_assembles (h : Tracks s st ((d.opaqueWord, []) :: loose))
    (hmode : ∀ p, st = some p → p.mode = .linear) (hnbuf : s.mem.heap d.opaqueWord = some skb)
    (hskb : Shaped ⟨.linear, segmentOf env d, []⟩ skb) (hfrags : skb.frags = [])
    (hplain : skb.fragList.first = none) (single : skb.hasFragList = true → st = none) :
    Assembles s (linearFirst d.opaqueWord s).1 (linearFirst d.opaqueWord s).2
      (if skb.hasFragList then none else some ⟨.linear, segmentOf env d, []⟩) none loose false := by
  obtain ⟨hhead, hjumbo⟩ := h.pointers hmode
  obtain ⟨hholds, hmisuse, hheap⟩ := h.kfreeHeld hhead
  have hquiet := unobserved_kfreeHeld s s.head
  have hjumbo₁ := (kfreeHeld_jumboStart s s.head).trans hjumbo
  have hheap₁ := (hheap d.opaqueWord (by simp)).trans hnbuf
  have hhas : (s.kfreeHeld s.head).mem.hasFragList d.opaqueWord = skb.hasFragList := by
    simp [Memory.hasFragList, hheap₁]
  unfold linearFirst
  simp only [hhas]
  cases hl : skb.hasFragList with
  | true =>
    have hhead₁ : (s.kfreeHeld s.head).head = none := by
      rw [kfreeHeld_head, hhead, single hl]
      rfl
    refine ⟨.clear hholds.kfreeSkb hhead₁ hjumbo₁, rfl, by simp, ?_, ?_⟩
    · exact hquiet.trans ⟨rfl, rfl, rfl, rfl⟩
    · exact hholds.kfreeSkb_misuse.trans hmisuse
  | false =>
    refine ⟨.holdHead hholds hjumbo₁ hheap₁ hskb hfrags hplain, rfl, by simp, ?_, ?_⟩
    · exact hquiet.trans ⟨rfl, rfl, rfl, rfl⟩
    · exact (hholds.modify_misuse (by simp) _).trans hmisuse

variable (env) in
theorem linearMiddle_assembles (h : Tracks s st ((d.opaqueWord, []) :: loose))
    (hmode : ∀ p, st = some p → p.mode = .linear) :
    Assembles s (linearMiddle d d.opaqueWord s).1 (linearMiddle d d.opaqueWord s).2
      (parse st (segmentOf env d) (.segment .linear false (isLast d))).1
      (parse st (segmentOf env d) (.segment .linear false (isLast d))).2 loose false := by
  obtain ⟨hhead, hjumbo⟩ := h.pointers hmode
  cases st with
  | none =>
    have hholds := h.holds
    have hevent : parse none (segmentOf env d) (.segment .linear false (isLast d)) =
        (none, none) := by cases isLast d <;> rfl
    rw [hevent, linearMiddle, hhead]
    exact ⟨.clear hholds.kfreeSkb hhead hjumbo, rfl, by simp, ⟨rfl, rfl, rfl, rfl⟩,
      hholds.kfreeSkb_misuse⟩
  | some p =>
    have hsame : sameMode .linear (some p) = some p := by simp [hmode p rfl]
    obtain ⟨htracks, hmisuse, hquiet⟩ := h.attach env (hmode p rfl)
    rw [linearMiddle, hhead]
    simp only [Option.map_some]
    cases isLast d with
    | false =>
      simp only [Bool.not_false, if_true, parse, hsame, Option.map_some]
      exact ⟨htracks, rfl, by simp, hquiet, hmisuse⟩
    | true =>
      simp only [Bool.not_true, Bool.false_eq_true, if_false, parse, hsame, Option.map_some]
      have hpackages := htracks.holds
      refine ⟨.clear ?_ rfl ?_, rfl, ?_, hquiet.trans ⟨rfl, rfl, rfl, rfl⟩, hmisuse⟩
      · exact hpackages
      · have hnone := (htracks.pointers (fun q hq => by cases hq; exact hmode p rfl)).2
        exact hnone
      · rintro q ⟨⟩
        obtain ⟨skb, hskb, hgrow⟩ := htracks.content _ rfl
        exact ⟨skb, hskb, hgrow.toShaped⟩

variable (env) in
theorem handleLinearSkb_assembles (h : Tracks s st ((d.opaqueWord, []) :: loose))
    (hmode : ∀ p, st = some p → p.mode = .linear)
    (hnbuf : s.mem.heap d.opaqueWord = some skb) (hfrags : skb.frags = [])
    (hncm : skb.ncm = env.nbuf.ncm) (hplain : skb.fragList.first = none)
    (single : linearEvent d skb = .refused → st = none) :
    Assembles s (nssCoreHandleLinearSkb d d.opaqueWord s).1
        (nssCoreHandleLinearSkb d d.opaqueWord s).2
        (parse st (segmentOf env d) (linearEvent d skb)).1
        (parse st (segmentOf env d) (linearEvent d skb)).2 loose false := by
  have hin : d.opaqueWord ∈ units ((d.opaqueWord, []) :: loose) := by simp
  have h₁ := h.modify hin (linearPayload d) (fun _ _ => rfl) fun _ => rfl
  have hheap₁ : (s.modify d.opaqueWord (linearPayload d)).mem.heap d.opaqueWord =
      some (linearPayload d skb) := by
    simp [RxHost.modify, RxHost.onMem, Memory.modify, hnbuf]
  have hmisuse₁ : (s.modify d.opaqueWord (linearPayload d)).mem.misuse = s.mem.misuse := by
    simp [RxHost.modify, RxHost.onMem, Memory.modify, hnbuf]
  have hquiet₁ : Unobserved s (s.modify d.opaqueWord (linearPayload d)) := ⟨rfl, rfl, rfl, rfl⟩
  have hshaped : Shaped ⟨.linear, segmentOf env d, []⟩ (linearPayload d skb) :=
    shaped_linear hfrags hncm
  have h₂ := h₁.count .chainSegProcessed 1
  have hquiet₂ : Unobserved s ((s.modify d.opaqueWord (linearPayload d)).count
      .chainSegProcessed 1) := hquiet₁.trans (unobserved_count (by decide) 1)
  have hhas : (linearPayload d skb).hasFragList = skb.hasFragList := rfl
  unfold nssCoreHandleLinearSkb linearEvent at *
  cases hf : isFirst d with
  | true =>
    cases hl : isLast d with
    | true =>
      simpa [parse] using (linearWhole_assembles h₁ hmode hheap₁ hshaped).after hquiet₁ hmisuse₁
    | false =>
      have hfirst := (linearFirst_assembles h₂ hmode hheap₁ hshaped hfrags hplain fun hskb =>
        single (by simp [hf, hl, hhas.symm.trans hskb])).after hquiet₂ hmisuse₁
      rw [hhas] at hfirst
      cases hskb : skb.hasFragList <;> simpa [hskb, parse] using hfirst
  | false =>
    simpa using (linearMiddle_assembles env h₂ hmode).after hquiet₂ hmisuse₁

end Linear

section Paged
variable {s : RxHost} {st : Option (Packet Segment)} {loose : List Package} {skb : Skb}
  {k : Kernel} {env : RxEnv} {d : N2hDescriptor} {p : Packet Segment}

/-- A paged packet goes out only with its Ethernet header pulled. -/
def deliverable (env : RxEnv) (d : N2hDescriptor) (p : Packet Segment) : Bool :=
  match p.mode with
  | .linear => true
  | .paged => d.bufferType = N2H_BUFFER_STATUS ||
      ETH_HLEN ≤ (bytes p.segments).toNat && env.pulls

theorem pskbMayPull_eq (hmode : p.mode = .paged) (h : Growing p skb) :
    pskbMayPull env skb = (decide (ETH_HLEN ≤ (bytes p.segments).toNat) && env.pulls) := by
  rw [pskbMayPull, (h.paged hmode).2, h.len]
  simp [ETH_HLEN]

variable (env) in
theorem pullEthHeader_assembles (hmode : p.mode = .paged)
    (h : Holds s.mem ((p.first.nbuf, []) :: loose)) (hhead : s.head = none)
    (hjumbo : s.jumboStart = none) (hskb : s.mem.heap p.first.nbuf = some skb)
    (hgrow : Growing p skb) :
    Assembles s (pullEthHeader env d p.first.nbuf s).1 (pullEthHeader env d p.first.nbuf s).2
      none (if deliverable env d p then some p else none) loose false := by
  have hpull : (s.mem.heap p.first.nbuf).elim false (pskbMayPull env) =
      (decide (ETH_HLEN ≤ (bytes p.segments).toNat) && env.pulls) := by
    rw [hskb, Option.elim_some, pskbMayPull_eq hmode hgrow]
  have hdeliver : (decide (d.bufferType ≠ N2H_BUFFER_STATUS) &&
      !(s.mem.heap p.first.nbuf).elim false (pskbMayPull env)) = !deliverable env d p := by
    rw [hpull, deliverable, hmode]
    simp
  unfold pullEthHeader
  rw [hdeliver]
  cases deliverable env d p with
  | true =>
    have hpackage : packageOf p = (p.first.nbuf, []) := by simp [packageOf, hmode]
    refine ⟨.clear ?_ hhead hjumbo, rfl, ?_, ⟨rfl, rfl, rfl, rfl⟩, rfl⟩
    · simpa [hpackage] using h
    · rintro q ⟨⟩
      exact ⟨skb, hskb, hgrow.toShaped⟩
  | false =>
    exact ⟨.clear h.kfreeSkb hhead hjumbo, rfl, by simp, ⟨rfl, rfl, rfl, rfl⟩, h.kfreeSkb_misuse⟩

theorem Tracks.pagedPointers (h : Tracks s st loose) (hmode : ∀ p, st = some p → p.mode = .paged) :
    s.jumboStart = (st.map fun p => p.first.nbuf) ∧ s.head = none := by
  rw [h.head, h.jumboStart]
  cases st with
  | none => exact ⟨rfl, rfl⟩
  | some p => simp [hmode p rfl]

theorem fillPage_holds (h : Tracks s st ((d.opaqueWord, []) :: loose))
    (hmode : ∀ p, st = some p → p.mode = .paged) (hnbuf : s.mem.heap d.opaqueWord = some skb) :
    Holds ((s.kfreeHeld s.jumboStart).mem.modify d.opaqueWord (fillPage d))
        ((d.opaqueWord, []) :: loose) ∧
      ((s.kfreeHeld s.jumboStart).mem.modify d.opaqueWord (fillPage d)).misuse = s.mem.misuse ∧
      ((s.kfreeHeld s.jumboStart).mem.modify d.opaqueWord (fillPage d)).heap d.opaqueWord =
        some (fillPage d skb) := by
  obtain ⟨hholds, hmisuse, hheap⟩ := h.kfreeHeld (h.pagedPointers hmode).1
  have hin : d.opaqueWord ∈ units ((d.opaqueWord, []) :: loose) := by simp
  refine ⟨hholds.modify _ (fun _ _ => rfl) fun _ => rfl, ?_, ?_⟩
  · exact (hholds.modify_misuse hin _).trans hmisuse
  · simp [Memory.modify, hheap _ hin, hnbuf]

variable (env) in
theorem pagedWhole_assembles (h : Tracks s st ((d.opaqueWord, []) :: loose))
    (hmode : ∀ p, st = some p → p.mode = .paged) (hnbuf : s.mem.heap d.opaqueWord = some skb)
    (hfrags : skb.frags ≠ []) (hncm : skb.ncm = env.nbuf.ncm) :
    Assembles s (pagedWhole env d d.opaqueWord s).1 (pagedWhole env d d.opaqueWord s).2 none
      (if deliverable env d ⟨.paged, segmentOf env d, []⟩ then some ⟨.paged, segmentOf env d, []⟩
        else none) loose false := by
  obtain ⟨hholds, hmisuse, hheap⟩ := fillPage_holds h hmode hnbuf
  have hgrow : Growing ⟨.paged, segmentOf env d, []⟩ (fillPage d skb) := growing_paged hfrags hncm
  have hquiet := unobserved_kfreeHeld s s.jumboStart
  unfold pagedWhole
  refine (pullEthHeader_assembles env rfl hholds ?_ rfl hheap hgrow).after ?_ hmisuse
  · exact (kfreeHeld_head _ _).trans (h.pagedPointers hmode).2
  · exact hquiet.trans ⟨rfl, rfl, rfl, rfl⟩

variable (env) in
theorem pagedFirst_assembles (h : Tracks s st ((d.opaqueWord, []) :: loose))
    (hmode : ∀ p, st = some p → p.mode = .paged) (hnbuf : s.mem.heap d.opaqueWord = some skb)
    (hfrags : skb.frags ≠ []) (hncm : skb.ncm = env.nbuf.ncm) :
    Assembles s (pagedFirst d d.opaqueWord s).1 (pagedFirst d d.opaqueWord s).2
      (some ⟨.paged, segmentOf env d, []⟩) none loose false := by
  obtain ⟨hholds, hmisuse, hheap⟩ := fillPage_holds h hmode hnbuf
  have hquiet := unobserved_kfreeHeld s s.jumboStart
  have hhead := (kfreeHeld_head s s.jumboStart).trans (h.pagedPointers hmode).2
  refine ⟨⟨hholds, hhead, rfl, ?_, ?_⟩, rfl, by simp, ?_, hmisuse⟩
  · rintro p g ⟨⟩ hlinear
    cases hlinear
  · rintro p ⟨⟩
    exact ⟨_, hheap, growing_paged hfrags hncm⟩
  · exact hquiet.trans ⟨rfl, rfl, rfl, rfl⟩

theorem Growing.withPage (h : Growing p skb) (hmode : p.mode = .paged) {frag : Frag}
    (hsize : frag.size = d.payloadLen) :
    Growing (p.append (segmentOf env d)) (skb.withPage frag) := by
  obtain ⟨hfrags, hdata⟩ := h.paged hmode
  have harea : messageArea (skb.withPage frag) = messageArea skb := by
    cases hl : skb.frags with
    | nil => exact (hfrags hl).elim
    | cons x xs => simp [messageArea, Skb.withPage, hl]
  exact
    { ncm := h.ncm
      len := by
        change skb.len + frag.size.setWidth 32 = bytes ((p.first :: p.rest) ++ [segmentOf env d])
        rw [bytes_append, hsize, h.len]
        rfl
      area := harea.trans h.area
      dataLen := fun hlinear => by simp [hmode] at hlinear
      linear := fun hlinear => by simp [hmode] at hlinear
      paged := fun _ => by
        refine ⟨by simp [Skb.withPage], ?_⟩
        change skb.dataLen + _ = skb.len + _
        rw [hdata] }

/-- The write of another page goes outside the skb. -/
def overruns (k : Kernel) (s : RxHost) (d : N2hDescriptor) : Bool :=
  !isFirst d && s.jumboStart.elim false fun a => k.maxSkbFrags ≤ s.mem.nrFrags a

variable (env) in
theorem pagedMiddle_assembles (h : Tracks s st ((d.opaqueWord, []) :: loose))
    (hmode : ∀ p, st = some p → p.mode = .paged) (hfirst : isFirst d = false) :
    Assembles s (pagedMiddle k env d d.opaqueWord s).1 (pagedMiddle k env d d.opaqueWord s).2
      (parse st (segmentOf env d) (.segment .paged false (isLast d))).1
      ((parse st (segmentOf env d) (.segment .paged false (isLast d))).2.filter (deliverable env d))
      loose (overruns k s d) := by
  obtain ⟨hjumbo, hhead⟩ := h.pagedPointers hmode
  unfold overruns
  rw [hfirst, hjumbo]
  cases st with
  | none =>
    have hholds := h.holds
    have hevent : parse none (segmentOf env d) (.segment .paged false (isLast d)) =
        (none, none) := by cases isLast d <;> rfl
    rw [hevent, pagedMiddle, hjumbo]
    exact ⟨.clear hholds.kfreeSkb hhead hjumbo, rfl, by simp, ⟨rfl, rfl, rfl, rfl⟩,
      hholds.kfreeSkb_misuse⟩
  | some p =>
    have hpaged := hmode p rfl
    have hpackage : packageOf p = (p.first.nbuf, []) := by simp [packageOf, hpaged]
    have hsame : sameMode .paged (some p) = some p := by simp [hpaged]
    obtain ⟨jumbo, hskb, hgrow⟩ := h.content p rfl
    have hholds := h.holds
    simp only [Option.map_some, Option.toList_some, hpackage] at hholds
    have hswap := hholds.perm (List.Perm.swap ..)
    let frag : Frag := ⟨s.mem.page d.opaqueWord, d.payloadOffs, d.payloadLen⟩
    have hadd := hswap.addRxFrag (a := p.first.nbuf) k.maxSkbFrags frag
    have hmisuse := hswap.addRxFrag_misuse (a := p.first.nbuf) (by simp) k.maxSkbFrags frag
    have hheap : (s.mem.addRxFrag p.first.nbuf k.maxSkbFrags frag).heap p.first.nbuf =
        some (jumbo.withPage frag) := by
      simp [Memory.addRxFrag, Memory.modify, hskb]
    have hgrow' : Growing (p.append (segmentOf env d)) (jumbo.withPage frag) :=
      hgrow.withPage hpaged rfl
    let s₁ := s.onMem fun m =>
      (m.addRxFrag p.first.nbuf k.maxSkbFrags frag).kfreeSkb d.opaqueWord
    have hholds₁ : Holds s₁.mem ((p.first.nbuf, []) :: loose) := hadd.kfreeSkb
    have hmisuse₁ : s₁.mem.misuse = _ := hadd.kfreeSkb_misuse.trans hmisuse
    have hheap₁ : s₁.mem.heap p.first.nbuf = some (jumbo.withPage frag) :=
      (hadd.kfreeSkb_heap (b := p.first.nbuf) (by simp)).trans hheap
    have hhead₁ : s₁.head = none := hhead
    have hjumbo₁ : s₁.jumboStart = some p.first.nbuf := hjumbo
    have hquiet₁ : Unobserved s s₁ := ⟨rfl, rfl, rfl, rfl⟩
    have hdef : pagedMiddle k env d d.opaqueWord s = if !isLast d then (s₁, none)
        else pullEthHeader env d p.first.nbuf { s₁ with jumboStart := none } := by
      rw [pagedMiddle, hjumbo]
      rfl
    rw [hdef]
    cases isLast d with
    | false =>
      simp only [Bool.not_false, if_true, parse, hsame, Option.map_some]
      refine ⟨⟨?_, ?_, ?_, ?_, ?_⟩, rfl, by simp, hquiet₁, hmisuse₁⟩
      · simpa [packageOf, hpaged] using hholds₁
      · simpa [hpaged] using hhead₁
      · simpa [hpaged] using hjumbo₁
      · rintro q g ⟨⟩ hlinear
        simp [hpaged] at hlinear
      · rintro q ⟨⟩
        exact ⟨_, hheap₁, hgrow'⟩
    | true =>
      simp only [Bool.not_true, Bool.false_eq_true, if_false, parse, hsame, Option.map_some]
      have hpull := pullEthHeader_assembles (p := p.append (segmentOf env d)) (d := d) env
        (s := { s₁ with jumboStart := none }) hpaged hholds₁ hhead₁ rfl hheap₁ hgrow'
      have hfilter : (some (p.append (segmentOf env d))).filter (deliverable env d) =
          if deliverable env d (p.append (segmentOf env d)) then some (p.append (segmentOf env d))
            else none := by
        cases hd : deliverable env d (p.append (segmentOf env d)) <;> simp [Option.filter, hd]
      have hquiet₂ : Unobserved s { s₁ with jumboStart := none } := ⟨rfl, rfl, rfl, rfl⟩
      rw [hfilter]
      exact
        { hpull with
          unobserved := hquiet₂.trans hpull.unobserved
          misuse := hpull.misuse.trans hmisuse₁ }

variable (env) in
theorem handleNrFragSkb_assembles (h : Tracks s st ((d.opaqueWord, []) :: loose))
    (hmode : ∀ p, st = some p → p.mode = .paged)
    (hnbuf : s.mem.heap d.opaqueWord = some skb) (hfrags : skb.frags ≠ [])
    (hncm : skb.ncm = env.nbuf.ncm) :
    Assembles s (nssCoreHandleNrFragSkb k env d d.opaqueWord s).1
      (nssCoreHandleNrFragSkb k env d d.opaqueWord s).2
      (parse st (segmentOf env d) (.segment .paged (isFirst d) (isLast d))).1
      ((parse st (segmentOf env d) (.segment .paged (isFirst d) (isLast d))).2.filter
        (deliverable env d)) loose (overruns k s d) := by
  have h₁ := h.count .fragSegProcessed 1
  have hquiet₁ : Unobserved s (s.count .fragSegProcessed 1) := unobserved_count (by decide) 1
  unfold nssCoreHandleNrFragSkb
  cases hf : isFirst d with
  | true =>
    have hover : overruns k s d = false := by simp [overruns, hf]
    rw [hover]
    cases hl : isLast d with
    | true =>
      have hwhole := pagedWhole_assembles env h hmode hnbuf hfrags hncm
      simpa [parse, Option.filter] using hwhole
    | false =>
      have hfirst := pagedFirst_assembles env h₁ hmode hnbuf hfrags hncm
      simpa [parse] using hfirst.after hquiet₁ rfl
  | false =>
    have hmiddle := pagedMiddle_assembles (k := k) env h₁ hmode hf
    have hover : overruns k (s.count .fragSegProcessed 1) d = overruns k s d := rfl
    rw [hover] at hmiddle
    simpa using hmiddle.after hquiet₁ rfl

end Paged

def handsOver (k : Kernel) (d : N2hDescriptor) : Bool :=
  d.bufferType ≠ N2H_BUFFER_CRYPTO_RESP && !decide (d.opaqueWord < k.pageOffset)

/-- The skb goes to `nss_core_rx_pbuf` as it is. -/
def passesThrough (d : N2hDescriptor) : Bool :=
  d.bufferType = N2H_BUFFER_EMPTY || isBounced d.bufferType

def event (k : Kernel) (env : RxEnv) (d : N2hDescriptor) : Event :=
  if handsOver k d && !passesThrough d then
    if env.nbuf.frags.length > 0 then .segment .paged (isFirst d) (isLast d)
    else linearEvent d env.nbuf
  else .skip

def completed (k : Kernel) (env : RxEnv) (d : N2hDescriptor) (st : Option (Packet Segment)) :
    Option (Packet Segment) :=
  (parse st (segmentOf env d) (event k env d)).2.filter (deliverable env d)

/-- What goes to `nss_core_rx_pbuf`: an skb as it came, or a packet. -/
inductive Delivery where
  | whole (nbuf : U32)
  | packet (p : Packet Segment)

def Delivery.package : Delivery → Package
  | .whole nbuf => (nbuf, [])
  | .packet p => packageOf p

def Delivery.Shows : Delivery → Skb → Prop
  | .whole _, _ => True
  | .packet p, skb => Shaped p skb

def delivery (k : Kernel) (env : RxEnv) (d : N2hDescriptor) (st : Option (Packet Segment)) :
    Option Delivery :=
  if handsOver k d && passesThrough d then some (.whole d.opaqueWord)
  else (completed k env d st).map .packet

def aborts (k : Kernel) (env : RxEnv) (d : N2hDescriptor) (s : RxHost) : Bool :=
  handsOver k d && !passesThrough d &&
    if env.nbuf.frags.length > 0 then s.head.isSome else s.jumboStart.isSome

def overflows (k : Kernel) (env : RxEnv) (d : N2hDescriptor) (s : RxHost) : Bool :=
  handsOver k d && !passesThrough d && decide (env.nbuf.frags.length > 0) && overruns k s d

/-- The NSS hands over an skb that the host does not have. -/
def Handover (k : Kernel) (env : RxEnv) (d : N2hDescriptor) (s : RxHost) : Prop :=
  handsOver k d → s.mem.heap d.opaqueWord = none ∧ env.nbuf.fragList.first = none

/-- What the loop body has done at the label `consume`, or at `next`. -/
structure Steps (k : Kernel) (env : RxEnv) (d : N2hDescriptor) (s : RxHost)
    (st : Option (Packet Segment)) (loose : List Package) (s' : RxHost) (nbuf : Option U32) :
    Prop where
  tracks : Tracks s' (parse st (segmentOf env d) (event k env d)).1
    (((delivery k env d st).map Delivery.package).toList ++ loose)
  nbuf_eq : nbuf = (delivery k env d st).map fun x => x.package.1
  shows : ∀ x, delivery k env d st = some x →
    ∃ skb, s'.mem.heap x.package.1 = some skb ∧ x.Shows skb
  received : s'.received = s.received
  accesses : s'.accesses = s.accesses
  messages : s'.messages = s.messages
  misuse : s'.mem.misuse = (overflows k env d s || s.mem.misuse)
  skbCount : s'.stats .nssSkbCount =
    s.stats .nssSkbCount - if aborts k env d s then 1 else 0

section Assemble
variable {s : RxHost} {st : Option (Packet Segment)} {loose : List Package}
  {k : Kernel} {env : RxEnv} {d : N2hDescriptor}

theorem Tracks.arrive (h : Tracks s st loose) (free : s.mem.heap d.opaqueWord = none)
    (plain : env.nbuf.fragList.first = none) :
    Tracks (s.onMem fun m => m.arrive d.opaqueWord env.nbuf) st ((d.opaqueWord, []) :: loose) where
  holds := (h.holds.arrive free plain).perm List.perm_middle.symm
  head := h.head
  jumboStart := h.jumboStart
  tail := h.tail
  content := by
    rintro p rfl
    obtain ⟨skb, hskb, hgrow⟩ := h.content p rfl
    have hne : p.first.nbuf ≠ d.opaqueWord := by
      rintro heq
      rw [heq, free] at hskb
      cases hskb
    exact ⟨skb, by simpa [RxHost.onMem, Memory.arrive, hne] using hskb, hgrow⟩

theorem abortHead_tracks (h : Tracks s st loose) :
    Tracks (abortHead s) (sameMode .paged st) loose ∧
      (abortHead s).mem.misuse = s.mem.misuse ∧
      ∀ a ∈ units loose, (abortHead s).mem.heap a = s.mem.heap a := by
  have hhead := h.head
  unfold abortHead
  rw [hhead]
  cases st with
  | none => exact ⟨h, rfl, fun _ _ => rfl⟩
  | some p =>
    cases hmode : p.mode with
    | paged => simpa [hmode] using h
    | linear =>
      have hjumbo := h.jumboStart
      simp only [sameMode_some, hmode, reduceCtorEq, if_false, if_true, Option.map_some,
        Option.map_none] at hjumbo ⊢
      exact ⟨.clear h.holds.kfreeSkb rfl hjumbo, h.holds.kfreeSkb_misuse,
        fun _ ha => h.holds.kfreeSkb_heap ha⟩

theorem abortJumbo_tracks (h : Tracks s st loose) :
    Tracks (abortJumbo s) (sameMode .linear st) loose ∧
      (abortJumbo s).mem.misuse = s.mem.misuse ∧
      ∀ a ∈ units loose, (abortJumbo s).mem.heap a = s.mem.heap a := by
  have hjumbo := h.jumboStart
  unfold abortJumbo
  rw [hjumbo]
  cases st with
  | none => exact ⟨h, rfl, fun _ _ => rfl⟩
  | some p =>
    cases hmode : p.mode with
    | linear => simpa [hmode] using h
    | paged =>
      have hhead := h.head
      simp only [sameMode_some, hmode, reduceCtorEq, if_false, if_true, Option.map_some,
        Option.map_none] at hhead ⊢
      exact ⟨.clear h.holds.kfreeSkb hhead rfl, h.holds.kfreeSkb_misuse,
        fun _ ha => h.holds.kfreeSkb_heap ha⟩

theorem abortHead_skbCount (s : RxHost) : (abortHead s).stats .nssSkbCount =
    s.stats .nssSkbCount - if s.head.isSome then 1 else 0 := by
  unfold abortHead
  cases s.head with
  | none => simp
  | some head =>
    change s.stats.add .nssSkbCount (-1) .nssSkbCount = _
    rw [DrvStats.add_self]
    rfl

theorem abortJumbo_skbCount (s : RxHost) : (abortJumbo s).stats .nssSkbCount =
    s.stats .nssSkbCount - if s.jumboStart.isSome then 1 else 0 := by
  unfold abortJumbo
  cases s.jumboStart with
  | none => simp
  | some jumboStart =>
    change s.stats.add .nssSkbCount (-1) .nssSkbCount = _
    rw [DrvStats.add_self]
    rfl

/-- Everything but the counter and the packet parser's state that a step to
    `consume` or `next` must show. -/
theorem Steps.of_assembles {s₁ s' : RxHost} {nbuf : Option U32}
    (hpass : passesThrough d = false)
    (h : Assembles s₁ s' nbuf (parse st (segmentOf env d) (event k env d)).1
      (completed k env d st) loose (overflows k env d s))
    (hreceived : s₁.received = s.received) (haccesses : s₁.accesses = s.accesses)
    (hmessages : s₁.messages = s.messages) (hmisuse : s₁.mem.misuse = s.mem.misuse)
    (hcount : s₁.stats .nssSkbCount =
      s.stats .nssSkbCount - if aborts k env d s then 1 else 0) :
    Steps k env d s st loose s' nbuf := by
  have hdelivery : delivery k env d st = (completed k env d st).map .packet := by
    simp [delivery, hpass]
  refine ⟨?_, ?_, ?_, h.unobserved.received.trans hreceived,
    h.unobserved.accesses.trans haccesses, h.unobserved.messages.trans hmessages, ?_,
    h.unobserved.skbCount.trans hcount⟩
  · rw [hdelivery, Option.map_map]
    exact h.tracks
  · rw [hdelivery, h.nbuf_eq, Option.map_map]
    rfl
  · intro x hx
    rw [hdelivery, Option.map_eq_some_iff] at hx
    obtain ⟨p, hp, rfl⟩ := hx
    exact h.shaped p hp
  · rw [h.misuse, hmisuse]

theorem abortHead_logs (s : RxHost) : (abortHead s).received = s.received ∧
    (abortHead s).accesses = s.accesses ∧ (abortHead s).messages = s.messages := by
  unfold abortHead
  cases s.head <;> exact ⟨rfl, rfl, rfl⟩

theorem abortJumbo_logs (s : RxHost) : (abortJumbo s).received = s.received ∧
    (abortJumbo s).accesses = s.accesses ∧ (abortJumbo s).messages = s.messages := by
  unfold abortJumbo
  cases s.jumboStart <;> exact ⟨rfl, rfl, rfl⟩

theorem arrive_heap (s : RxHost) (a : U32) (nbuf : Skb) :
    (s.onMem fun m => m.arrive a nbuf).mem.heap a = some nbuf := Function.update_self ..

theorem abortHead_jumboStart (s : RxHost) : (abortHead s).jumboStart = s.jumboStart := by
  unfold abortHead
  cases s.head <;> rfl

theorem abortHead_of_none {s : RxHost} (h : s.head = none) : abortHead s = s := by
  unfold abortHead
  rw [h]

/-- Neither the arrival nor the abort of a linear chain touches the frame under way. -/
theorem overruns_arrive (h : Tracks s st loose) (free : s.mem.heap d.opaqueWord = none) :
    overruns k (abortHead (s.onMem fun m => m.arrive d.opaqueWord env.nbuf)) d =
      overruns k s d := by
  have hjumbo := h.jumboStart
  unfold overruns
  rw [abortHead_jumboStart]
  change (_ && s.jumboStart.elim false _) = _
  cases hsame : sameMode .paged st with
  | none =>
    rw [hsame] at hjumbo
    rw [hjumbo]
    rfl
  | some p =>
    obtain ⟨rfl, hmode⟩ := sameMode_eq_some hsame
    have hhead : s.head = none := by simpa [hmode] using h.head
    obtain ⟨skb, hskb, _⟩ := h.content p rfl
    have hne : p.first.nbuf ≠ d.opaqueWord := by
      rintro heq
      rw [heq, free] at hskb
      cases hskb
    have habort : abortHead (s.onMem fun m => m.arrive d.opaqueWord env.nbuf) =
        s.onMem fun m => m.arrive d.opaqueWord env.nbuf := abortHead_of_none hhead
    rw [habort, hjumbo, hsame]
    simp [RxHost.onMem, Memory.nrFrags, Memory.arrive, hne]
    rfl

theorem assemble_paged (h : Tracks s st loose) (hand : Handover k env d s)
    (hover : handsOver k d = true) (hpass : passesThrough d = false)
    (hfrags : env.nbuf.frags.length > 0) :
    Steps k env d s st loose
      (nssCoreHandleNrFragSkb k env d d.opaqueWord
        (abortHead (s.onMem fun m => m.arrive d.opaqueWord env.nbuf))).1
      (nssCoreHandleNrFragSkb k env d d.opaqueWord
        (abortHead (s.onMem fun m => m.arrive d.opaqueWord env.nbuf))).2 := by
  obtain ⟨free, plain⟩ := hand hover
  obtain ⟨htracks, hmisuse, hheap⟩ := abortHead_tracks (h.arrive free plain)
  obtain ⟨hreceived, haccesses, hmessages⟩ :=
    abortHead_logs (s.onMem fun m => m.arrive d.opaqueWord env.nbuf)
  have hevent : event k env d = .segment .paged (isFirst d) (isLast d) := by
    simp [event, hover, hpass, hfrags]
  have hnbuf := (hheap d.opaqueWord (by simp)).trans (arrive_heap s d.opaqueWord env.nbuf)
  have hassembles := handleNrFragSkb_assembles (k := k) env htracks
    (fun _ hp => (sameMode_eq_some hp).2) hnbuf (List.length_pos_iff.mp hfrags) rfl
  have haborts : aborts k env d s = s.head.isSome := by simp [aborts, hover, hpass, hfrags]
  have hoverflows : overflows k env d s = overruns k s d := by
    simp [overflows, hover, hpass, hfrags]
  rw [parse_sameMode, ← hevent, overruns_arrive h free, ← hoverflows] at hassembles
  refine .of_assembles hpass hassembles hreceived haccesses hmessages hmisuse ?_
  rw [abortHead_skbCount, haborts]
  rfl

theorem assemble_linear (h : Tracks s st loose) (hand : Handover k env d s)
    (hover : handsOver k d = true) (hpass : passesThrough d = false)
    (hfrags : ¬ env.nbuf.frags.length > 0)
    (single : event k env d = .refused → sameMode .linear st = none) :
    Steps k env d s st loose
      (nssCoreHandleLinearSkb d d.opaqueWord
        (abortJumbo (s.onMem fun m => m.arrive d.opaqueWord env.nbuf))).1
      (nssCoreHandleLinearSkb d d.opaqueWord
        (abortJumbo (s.onMem fun m => m.arrive d.opaqueWord env.nbuf))).2 := by
  obtain ⟨free, plain⟩ := hand hover
  obtain ⟨htracks, hmisuse, hheap⟩ := abortJumbo_tracks (h.arrive free plain)
  obtain ⟨hreceived, haccesses, hmessages⟩ :=
    abortJumbo_logs (s.onMem fun m => m.arrive d.opaqueWord env.nbuf)
  have hevent : event k env d = linearEvent d env.nbuf := by simp [event, hover, hpass, hfrags]
  have hnone : env.nbuf.frags = [] := List.length_eq_zero_iff.mp (by omega)
  have hnbuf := (hheap d.opaqueWord (by simp)).trans (arrive_heap s d.opaqueWord env.nbuf)
  have hassembles := handleLinearSkb_assembles env htracks
    (fun _ hp => (sameMode_eq_some hp).2) hnbuf hnone rfl plain fun he => single (hevent.trans he)
  have haborts : aborts k env d s = s.jumboStart.isSome := by simp [aborts, hover, hpass, hfrags]
  have hoverflows : overflows k env d s = false := by simp [overflows, hfrags]
  have hparse : parse (sameMode .linear st) (segmentOf env d) (event k env d) =
      parse st (segmentOf env d) (event k env d) := by
    rw [hevent, linearEvent]
    split
    · rfl
    · exact parse_sameMode st _ _ _ _
  have hdeliver : ∀ p, (parse st (segmentOf env d) (event k env d)).2 = some p →
      deliverable env d p = true := by
    intro p hp
    have hmode : p.mode = .linear := by
      rw [hevent, linearEvent] at hp
      split at hp
      · cases hp
      · exact parse_mode hp
    rw [deliverable, hmode]
  have hcompleted : completed k env d st = (parse st (segmentOf env d) (event k env d)).2 := by
    rw [completed]
    cases hp : (parse st (segmentOf env d) (event k env d)).2 with
    | none => rfl
    | some p => simp [Option.filter, hdeliver p hp]
  rw [← hevent, hparse, ← hcompleted, ← hoverflows] at hassembles
  refine .of_assembles hpass hassembles hreceived haccesses hmessages hmisuse ?_
  rw [abortJumbo_skbCount, haborts]
  rfl

theorem Steps.skip {s' : RxHost} {nbuf : Option U32}
    (hskip : (handsOver k d && !passesThrough d) = false)
    (h : Tracks s' st (((delivery k env d st).map Delivery.package).toList ++ loose))
    (hnbuf : nbuf = (delivery k env d st).map fun x => x.package.1) (hquiet : Unobserved s s')
    (hmisuse : s'.mem.misuse = s.mem.misuse) : Steps k env d s st loose s' nbuf := by
  have hevent : event k env d = .skip := by simp [event, hskip]
  have hcompleted : completed k env d st = none := by simp [completed, hevent, parse]
  refine ⟨?_, hnbuf, ?_, hquiet.received, hquiet.accesses, hquiet.messages, ?_, ?_⟩
  · rw [hevent]
    exact h
  · intro x hx
    have hlive := (h.holds.linked_of_mem (show (x.package.1, x.package.2) ∈ _ by simp [hx])).1
    obtain ⟨skb, hskb⟩ := hlive
    refine ⟨skb, hskb, ?_⟩
    rw [delivery, hcompleted] at hx
    split at hx
    · obtain rfl := Option.some.inj hx
      trivial
    · cases hx
  · simpa [overflows, hskip] using hmisuse
  · simpa [aborts, hskip] using hquiet.skbCount

theorem Steps.count {s' : RxHost} {nbuf : Option U32} (h : Steps k env d s st loose s' nbuf)
    {x : DrvStat} (hx : x ≠ .nssSkbCount) (n : Int) :
    Steps k env d s st loose (s'.count x n) nbuf :=
  { h with
    tracks := h.tracks.count x n
    skbCount := (unobserved_count hx n).skbCount.trans h.skbCount }

theorem delivery_of_not_handsOver (hover : handsOver k d = false) :
    delivery k env d st = none := by
  simp [delivery, completed, event, hover, parse]

theorem assemble_steps (h : Tracks s st loose) (hand : Handover k env d s)
    (single : event k env d = .refused → sameMode .linear st = none) :
    Steps k env d s st loose (assemble k env d s).1 (assemble k env d s).2 := by
  unfold assemble
  split
  · rename_i hcrypto
    have hover : handsOver k d = false := by simp [handsOver, hcrypto]
    refine .skip (by simp [hover]) ?_ ?_ ?_ rfl
    · rw [delivery_of_not_handsOver hover]
      exact ⟨h.holds, h.head, h.jumboStart, h.tail, h.content⟩
    · rw [delivery_of_not_handsOver hover]
      rfl
    · exact .trans (unobserved_count (x := .rxCryptoResp) (by decide) 1) ⟨rfl, rfl, rfl, rfl⟩
  · rename_i hcrypto
    split
    · rename_i hopaque
      have hover : handsOver k d = false := by simp [handsOver, hopaque]
      refine .skip (by simp [hover]) ?_ ?_ (unobserved_count (by decide) 1) rfl
      · rw [delivery_of_not_handsOver hover]
        exact h.count _ _
      · rw [delivery_of_not_handsOver hover]
        rfl
    · rename_i hopaque
      have hover : handsOver k d = true := by simp [handsOver, hcrypto, hopaque]
      have hthrough : passesThrough d = true → Steps k env d s st loose
          (s.onMem fun m => m.arrive d.opaqueWord env.nbuf) (some d.opaqueWord) := by
        intro hpass
        have hdelivery : delivery k env d st = some (.whole d.opaqueWord) := by
          simp [delivery, hover, hpass]
        refine .skip (by simp [hpass]) ?_ (by rw [hdelivery]; rfl) ⟨rfl, rfl, rfl, rfl⟩ rfl
        rw [hdelivery]
        exact h.arrive (hand hover).1 (hand hover).2
      simp only
      split
      · rename_i hempty
        exact hthrough (by simp [passesThrough, hempty])
      · rename_i hempty
        split
        · rename_i hbounced
          exact hthrough (by simp [passesThrough, hbounced])
        · rename_i hbounced
          have hpass : passesThrough d = false := by
            simp [passesThrough, hempty, hbounced]
          have hnr : (s.onMem fun m => m.arrive d.opaqueWord env.nbuf).mem.nrFrags d.opaqueWord =
              env.nbuf.frags.length := by
            rw [Memory.nrFrags, arrive_heap]
            rfl
          rw [hnr]
          split
          · rename_i hfrags
            have hsteps := assemble_paged h hand hover hpass hfrags
            generalize nssCoreHandleNrFragSkb k env d d.opaqueWord _ = r at hsteps ⊢
            obtain ⟨s', nbuf⟩ := r
            cases nbuf with
            | none => exact hsteps
            | some nbuf => exact hsteps.count (by decide) 1
          · rename_i hfrags
            exact assemble_linear h hand hover hpass hfrags single

end Assemble
end NssDrv.ReceiveAssembly

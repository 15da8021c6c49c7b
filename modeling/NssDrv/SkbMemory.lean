import Mathlib.Data.List.Perm.Basic
import NssDrv.HlosInterface
import NssDrv.LinkedChain

set_option autoImplicit false

/-!
# The skbs the host holds

The skbs the NSS has handed over, at their addresses, with what the receive
path of `nss_core.c` asks of the kernel: an skb is freed or passed on with all
that hangs on its frag_list, and a page is added to its `frags[]`.
-/
namespace NssDrv.SkbMemory
open HlosInterface LinkedChain

structure Frag where
  page : U32
  offset : U16
  size : U16
  deriving DecidableEq, Repr

/-- `skb_shinfo(skb)->frag_list`: a list the skb came with is not looked into. -/
inductive FragList where
  | empty
  | own
  | chain (first : U32)
  deriving DecidableEq, Repr

def FragList.first : FragList → Option U32
  | .chain a => some a
  | _ => none

/-- `struct nss_cmn_msg`, as far as the receive path reads it. -/
structure NssCmnMsg where
  version : U16
  interface : U16
  len : U32
  deriving DecidableEq, Repr

/-- `data` and `tail` count from `skb->head`. `ncm` is what stands where the
    payload begins, in the linear part or in the first page. -/
structure Skb where
  data : ℕ
  tail : ℕ
  len : U32
  dataLen : U32
  frags : List Frag
  fragList : FragList
  next : Option U32
  ncm : NssCmnMsg

def Skb.hasFragList (nbuf : Skb) : Bool := nbuf.fragList != .empty

def Skb.withPage (frag : Frag) (nbuf : Skb) : Skb :=
  { nbuf with
    frags := nbuf.frags ++ [frag]
    len := nbuf.len + frag.size.setWidth 32
    dataLen := nbuf.dataLen + frag.size.setWidth 32 }

inductive Consumer where
  | bouncedInterface (interfaceNum : U16)
  | bouncedBridge (interfaceNum : U16)
  | startXmit (interfaceNum : U16)
  | rxCallback (interfaceNum : U16)
  | netifReceiveSkb (interfaceNum : U16)
  | extCallback (interfaceNum : U16)
  deriving DecidableEq, Repr

/-- `heap` has the skbs that the host may use. Ghosts: what was handed over,
    passed on and freed so far, and whether anything else was ever touched. -/
structure Memory where
  heap : U32 → Option Skb
  handed : List U32
  given : List (Consumer × U32)
  freed : List U32
  misuse : Bool

namespace Memory
variable (m : Memory) (a : U32)

def arrive (nbuf : Skb) : Memory :=
  { m with heap := Function.update m.heap a (some nbuf), handed := m.handed ++ [a] }

def modify (f : Skb → Skb) : Memory :=
  { m with
    heap := fun b => if b = a then (m.heap b).map f else m.heap b
    misuse := m.misuse || (m.heap a).isNone }

def setNext (next : Option U32) : Memory := m.modify a fun nbuf => { nbuf with next := next }

def setFragList (l : FragList) : Memory := m.modify a fun nbuf => { nbuf with fragList := l }

/-- `nr_frags`, with 0 for what is no skb. -/
def nrFrags : ℕ := (m.heap a).elim 0 fun nbuf => nbuf.frags.length

def dataLen : U32 := (m.heap a).elim 0 Skb.dataLen

/-- The page of `frags[0]`. -/
def page : U32 := (m.heap a).elim 0 fun nbuf => nbuf.frags.head?.elim 0 Frag.page

def hasFragList : Bool := (m.heap a).elim false Skb.hasFragList

def fragList : FragList := (m.heap a).elim .empty Skb.fragList

def succ : Option (Option U32) := (m.heap a).map Skb.next

/-- What hangs on the frag_list; no more skbs than were ever handed over. -/
def chainOf : List U32 := follow m.succ m.handed.length (m.fragList a).first

def drop (as : List U32) : Memory :=
  { m with
    heap := fun b => if b ∈ as then none else m.heap b
    misuse := m.misuse || as.any fun b => (m.heap b).isNone }

def kfreeSkb : Memory :=
  { m.drop (a :: m.chainOf a) with freed := m.freed ++ a :: m.chainOf a }

def give (taker : Consumer) : Memory :=
  { m.drop (a :: m.chainOf a) with
    given := m.given ++ (a :: m.chainOf a).map fun b => (taker, b) }

/-- A successful `__skb_linearize`: the bytes of the frag_list move to the
    linear part and its skbs are freed. -/
def linearize : Memory :=
  { m.drop (m.chainOf a) with freed := m.freed ++ m.chainOf a }.modify a fun nbuf =>
    { nbuf with
      tail := nbuf.data + nbuf.len.toNat, dataLen := 0, frags := [], fragList := .empty }

/-- `skb_add_rx_frag` behind the last page; beyond `maxSkbFrags` it writes
    outside the skb. -/
def addRxFrag (maxSkbFrags : ℕ) (frag : Frag) : Memory :=
  let m' := m.modify a (Skb.withPage frag)
  { m' with misuse := m'.misuse || decide (maxSkbFrags ≤ m.nrFrags a) }

theorem modify_heap (f : Skb → Skb) (b : U32) :
    (m.modify a f).heap b = if b = a then (m.heap b).map f else m.heap b := rfl

@[simp] theorem modify_isSome (f : Skb → Skb) (b : U32) :
    ((m.modify a f).heap b).isSome = (m.heap b).isSome := by
  rw [modify_heap]
  split <;> simp

end Memory

abbrev Package := U32 × List U32

def units (ps : List Package) : List U32 := ps.flatMap fun p => p.1 :: p.2

@[simp] theorem units_nil : units [] = [] := rfl

@[simp] theorem units_cons (a : U32) (as : List U32) (ps : List Package) :
    units ((a, as) :: ps) = a :: as ++ units ps := rfl

@[simp] theorem units_singleton (p : Package) : units [p] = p.1 :: p.2 := by simp [units]

@[simp] theorem units_append (ps qs : List Package) : units (ps ++ qs) = units ps ++ units qs := by
  simp [units]

theorem units_perm {ps qs : List Package} (h : ps.Perm qs) : (units ps).Perm (units qs) :=
  h.flatMap_right _

theorem mem_units {ps : List Package} {p : Package} (h : p ∈ ps) {b : U32} (hb : b ∈ p.1 :: p.2) :
    b ∈ units ps := List.mem_flatMap.mpr ⟨p, h, hb⟩

/-- The skbs in the memory are those of the packages, each once, and every skb
    handed over is among them or was passed on or freed once. -/
structure Holds (m : Memory) (ps : List Package) : Prop where
  live : ∀ a, (m.heap a).isSome ↔ a ∈ units ps
  nodup : (units ps).Nodup
  linked : ∀ p ∈ ps, (m.heap p.1).isSome → Linked m.succ (m.fragList p.1).first p.2
  places : m.handed.Perm (m.given.map Prod.snd ++ m.freed ++ units ps)

namespace Holds
variable {m m' : Memory} {ps qs : List Package} {a b t : U32} {as : List U32} {nbuf : Skb}

theorem perm (h : Holds m ps) (hperm : ps.Perm qs) : Holds m qs where
  live b := (h.live b).trans (units_perm hperm).mem_iff
  nodup := (units_perm hperm).nodup_iff.mp h.nodup
  linked p hp := h.linked p (hperm.mem_iff.mpr hp)
  places := h.places.trans ((units_perm hperm).append_left _)

theorem empty (hheap : ∀ a, m.heap a = none) (hhanded : m.handed = []) (hgiven : m.given = [])
    (hfreed : m.freed = []) : Holds m [] where
  live := by simp [hheap]
  nodup := List.nodup_nil
  linked := by simp
  places := by simp [hhanded, hgiven, hfreed]

theorem linked_of_mem (h : Holds m ps) (ha : (a, as) ∈ ps) :
    (∃ nbuf, m.heap a = some nbuf) ∧ Linked m.succ (m.fragList a).first as := by
  have hlive : (m.heap a).isSome := (h.live a).mpr (mem_units ha (List.mem_cons_self ..))
  exact ⟨Option.isSome_iff_exists.mp hlive, h.linked _ ha hlive⟩

theorem chainOf_eq (h : Holds m ps) (ha : (a, as) ∈ ps) : m.chainOf a = as := by
  refine (h.linked_of_mem ha).2.follow_eq ?_
  have hsub : (a :: as).Sublist (units ps) := by
    obtain ⟨l, r, rfl⟩ := List.append_of_mem ha
    simp
  have hle := hsub.length_le
  have hplaces := h.places.length_eq
  simp only [List.length_append, List.length_cons] at hle hplaces
  omega

theorem ne_of_cons (h : Holds m ((a, as) :: ps)) : ∀ b ∈ units ps, b ≠ a ∧ b ∉ as := by
  have hnodup := h.nodup
  simp only [units_cons] at hnodup
  intro b hb
  have hdisjoint := List.disjoint_of_nodup_append hnodup
  constructor
  · rintro rfl
    exact hdisjoint (List.mem_cons_self ..) hb
  · exact fun hbas => hdisjoint (List.mem_cons_of_mem _ hbas) hb

theorem frame {p : Package} (h : Holds m ps) (hp : p ∈ ps)
    (hhead : (m'.fragList p.1).first = (m.fragList p.1).first)
    (hsucc : ∀ b ∈ p.2, m'.succ b = m.succ b) :
    Linked m'.succ (m'.fragList p.1).first p.2 := by
  rw [hhead]
  exact (h.linked_of_mem hp).2.congr hsucc

theorem untouched {p : Package} (h : Holds m ps) (hp : p ∈ ps)
    (hheap : ∀ b ∈ p.1 :: p.2, m'.heap b = m.heap b) :
    Linked m'.succ (m'.fragList p.1).first p.2 := by
  refine h.frame hp ?_ fun b hb => ?_
  · rw [Memory.fragList, hheap _ (List.mem_cons_self ..), Memory.fragList]
  · rw [Memory.succ, hheap _ (List.mem_cons_of_mem _ hb), Memory.succ]

/-- Some skbs leave the memory, the links of the rest may change; `m'` says
    where they went. -/
theorem leave (gone : List U32) (h : Holds m ps) (hunits : (units ps).Perm (gone ++ units qs))
    (hlive : ∀ b, (m'.heap b).isSome ↔ (m.heap b).isSome ∧ b ∉ gone)
    (hhanded : m'.handed = m.handed)
    (hfates : (m'.given.map Prod.snd ++ m'.freed).Perm
      (m.given.map Prod.snd ++ m.freed ++ gone))
    (hlinked : ∀ p ∈ qs, Linked m'.succ (m'.fragList p.1).first p.2) : Holds m' qs := by
  have hnodup := hunits.nodup_iff.mp h.nodup
  refine ⟨fun b => ?_, (List.nodup_append.mp hnodup).2.1, fun p hp _ => hlinked p hp, ?_⟩
  · rw [hlive, h.live, hunits.mem_iff, List.mem_append]
    constructor
    · rintro ⟨hgone | hkept, hnot⟩
      · exact (hnot hgone).elim
      · exact hkept
    · exact fun hb => ⟨.inr hb, fun hgone => List.disjoint_of_nodup_append hnodup hgone hb⟩
  · rw [hhanded]
    refine h.places.trans ((hunits.append_left _).trans ?_)
    rw [← List.append_assoc]
    exact (hfates.append_right _).symm

theorem relink (h : Holds m ps) (hlive : ∀ b, (m'.heap b).isSome = (m.heap b).isSome)
    (hhanded : m'.handed = m.handed) (hgiven : m'.given = m.given) (hfreed : m'.freed = m.freed)
    (hunits : (units ps).Perm (units qs))
    (hlinked : ∀ p ∈ qs, Linked m'.succ (m'.fragList p.1).first p.2) : Holds m' qs := by
  refine h.leave [] hunits ?_ hhanded ?_ hlinked
  · simp [hlive]
  · simp [hgiven, hfreed]

theorem modify (h : Holds m ps) (f : Skb → Skb)
    (hfirst : ∀ nbuf, m.heap a = some nbuf → (f nbuf).fragList.first = nbuf.fragList.first)
    (hnext : ∀ nbuf, (f nbuf).next = nbuf.next) : Holds (m.modify a f) ps := by
  have hfragList : ∀ b, ((m.modify a f).fragList b).first = (m.fragList b).first := by
    intro b
    unfold Memory.fragList Memory.modify
    by_cases hb : b = a
    · subst hb
      cases hheap : m.heap b with
      | none => simp [hheap]
      | some nbuf => simp [hheap, hfirst nbuf hheap]
    · simp [hb]
  have hsucc : ∀ b, (m.modify a f).succ b = m.succ b := by
    intro b
    unfold Memory.succ Memory.modify
    by_cases hb : b = a
    · simp [hb, hnext, Function.comp_def]
    · simp [hb]
  refine h.relink (by simp) rfl rfl rfl (List.Perm.refl _) fun p hp => ?_
  exact h.frame hp (hfragList p.1) fun b _ => hsucc b

theorem arrive (h : Holds m ps) (free : m.heap a = none) (plain : nbuf.fragList.first = none) :
    Holds (m.arrive a nbuf) ((a, []) :: ps) := by
  have hnew : a ∉ units ps := by
    rw [← h.live a, free]
    simp
  refine ⟨fun b => ?_, ?_, fun p hp _ => ?_, ?_⟩
  · by_cases hb : b = a
    · simp [Memory.arrive, hb]
    · simp [Memory.arrive, hb, h.live b]
  · simpa [hnew] using h.nodup
  · rcases List.mem_cons.mp hp with rfl | hp
    · simp only [Memory.fragList, Memory.arrive, Function.update_self, Option.elim_some, plain]
      exact .nil
    · refine h.untouched hp fun b hb => ?_
      have hne : b ≠ a := fun heq => hnew (heq ▸ mem_units hp hb)
      simp [Memory.arrive, hne]
  · change (m.handed ++ [a]).Perm _
    rw [units_cons, List.cons_append, List.nil_append]
    exact (List.perm_append_singleton a _).trans
      ((h.places.cons a).trans List.perm_middle.symm)

theorem drop_misuse (h : Holds m ((a, as) :: ps)) : (m.drop (a :: as)).misuse = m.misuse := by
  have hany : ((a :: as).any fun b => (m.heap b).isNone) = false := by
    rw [List.any_eq_false]
    intro b hb
    have hlive := (h.live b).mpr (mem_units (List.mem_cons_self ..) hb)
    simpa [Option.isSome_iff_ne_none] using hlive
  rw [Memory.drop, hany, Bool.or_false]

theorem drop_heap (h : Holds m ((a, as) :: ps)) (hb : b ∈ units ps) :
    (m.drop (a :: as)).heap b = m.heap b := by
  have hne := h.ne_of_cons b hb
  simp [Memory.drop, hne.1, hne.2]

theorem dispose (h : Holds m ((a, as) :: ps)) (hheap : m'.heap = (m.drop (a :: as)).heap)
    (hhanded : m'.handed = m.handed)
    (hfates : (m'.given.map Prod.snd ++ m'.freed).Perm
      (m.given.map Prod.snd ++ m.freed ++ (a :: as))) : Holds m' ps := by
  refine h.leave (a :: as) (by simp) (fun b => ?_) hhanded hfates fun p hp => ?_
  · rw [hheap, Memory.drop]
    by_cases hb : b ∈ a :: as <;> simp [hb]
  · refine h.untouched (List.mem_cons_of_mem _ hp) fun b hb => ?_
    rw [hheap, h.drop_heap (mem_units hp hb)]

theorem kfreeSkb_misuse (h : Holds m ((a, as) :: ps)) : (m.kfreeSkb a).misuse = m.misuse := by
  rw [Memory.kfreeSkb, h.chainOf_eq (List.mem_cons_self ..)]
  exact h.drop_misuse

theorem kfreeSkb_heap (h : Holds m ((a, as) :: ps)) (hb : b ∈ units ps) :
    (m.kfreeSkb a).heap b = m.heap b := by
  rw [Memory.kfreeSkb, h.chainOf_eq (List.mem_cons_self ..)]
  exact h.drop_heap hb

theorem kfreeSkb (h : Holds m ((a, as) :: ps)) : Holds (m.kfreeSkb a) ps := by
  have hchain := h.chainOf_eq (List.mem_cons_self ..)
  refine h.dispose ?_ rfl ?_
  · simp only [Memory.kfreeSkb, hchain]
  · simp [Memory.kfreeSkb, hchain, Memory.drop]

theorem give_misuse (h : Holds m ((a, as) :: ps)) (taker : Consumer) :
    (m.give a taker).misuse = m.misuse := by
  rw [Memory.give, h.chainOf_eq (List.mem_cons_self ..)]
  exact h.drop_misuse

theorem give_heap (h : Holds m ((a, as) :: ps)) (taker : Consumer) (hb : b ∈ units ps) :
    (m.give a taker).heap b = m.heap b := by
  rw [Memory.give, h.chainOf_eq (List.mem_cons_self ..)]
  exact h.drop_heap hb

theorem give (h : Holds m ((a, as) :: ps)) (taker : Consumer) : Holds (m.give a taker) ps := by
  have hchain := h.chainOf_eq (List.mem_cons_self ..)
  refine h.dispose ?_ rfl ?_
  · simp only [Memory.give, hchain]
  · simp only [Memory.give, hchain, Memory.drop, List.map_append, List.map_map,
      Function.comp_def, List.map_id', List.append_assoc]
    exact List.perm_append_comm.append_left _

theorem linearize_heap (h : Holds m ((a, as) :: ps)) (hb : b ∈ units ps) :
    (m.linearize a).heap b = m.heap b := by
  have hchain := h.chainOf_eq (List.mem_cons_self ..)
  have hne := h.ne_of_cons b hb
  simp [Memory.linearize, Memory.modify, Memory.drop, hchain, hne.1, hne.2]

theorem linearize (h : Holds m ((a, as) :: ps)) : Holds (m.linearize a) ((a, []) :: ps) := by
  have hchain := h.chainOf_eq (List.mem_cons_self ..)
  have hnot : a ∉ as := (List.nodup_cons.mp (List.nodup_append.mp h.nodup).1).1
  refine h.leave as ?_ (fun b => ?_) rfl ?_ fun p hp => ?_
  · have hmove : (a :: as).Perm (as ++ [a]) := (List.perm_append_singleton a as).symm
    simpa using hmove.append_right (units ps)
  · simp only [Memory.linearize, Memory.modify, Memory.drop, hchain]
    by_cases hba : b = a
    · simp [hba, hnot]
    · by_cases hb : b ∈ as <;> simp [hba, hb]
  · simp [Memory.linearize, Memory.modify, Memory.drop, hchain]
  · rcases List.mem_cons.mp hp with rfl | hp
    · obtain ⟨⟨nbuf, hnbuf⟩, _⟩ := h.linked_of_mem (List.mem_cons_self ..)
      simp only [Memory.fragList, Memory.linearize, Memory.modify, Memory.drop, hchain, hnot,
        if_true, if_false, hnbuf, Option.map_some, Option.elim_some]
      exact .nil
    · exact h.untouched (List.mem_cons_of_mem _ hp) fun b hb => h.linearize_heap (mem_units hp hb)

theorem linearize_misuse (h : Holds m ((a, as) :: ps)) : (m.linearize a).misuse = m.misuse := by
  have hchain := h.chainOf_eq (List.mem_cons_self ..)
  have hnot : a ∉ as := (List.nodup_cons.mp (List.nodup_append.mp h.nodup).1).1
  have hdrop := h.drop_misuse
  simp only [Memory.drop, List.any_cons] at hdrop
  simp only [Memory.linearize, Memory.modify, Memory.drop, hchain, hnot, if_false]
  rw [Bool.or_assoc, Bool.or_comm (as.any _)]
  exact hdrop

theorem modify_misuse (h : Holds m ps) (ha : a ∈ units ps) (f : Skb → Skb) :
    (m.modify a f).misuse = m.misuse := by
  have hlive := (h.live a).mpr ha
  simp [Memory.modify, Option.isSome_iff_ne_none.mp hlive]

theorem addRxFrag (h : Holds m ps) (maxSkbFrags : ℕ) (frag : Frag) :
    Holds (m.addRxFrag a maxSkbFrags frag) ps := by
  have hmodify := h.modify (a := a) (Skb.withPage frag) (fun _ _ => rfl) fun _ => rfl
  exact ⟨hmodify.live, hmodify.nodup, hmodify.linked, hmodify.places⟩

theorem addRxFrag_misuse (h : Holds m ps) (ha : a ∈ units ps) (maxSkbFrags : ℕ) (frag : Frag) :
    (m.addRxFrag a maxSkbFrags frag).misuse =
      (decide (maxSkbFrags ≤ m.nrFrags a) || m.misuse) := by
  rw [Memory.addRxFrag, h.modify_misuse ha, Bool.or_comm]

theorem attachFirst (h : Holds m ((a, []) :: (b, []) :: ps)) :
    Holds ((m.setNext a none).setFragList b (.chain a)) ((b, [a]) :: ps) := by
  have hne := h.ne_of_cons
  have hba : b ≠ a := (hne b (by simp)).1
  obtain ⟨⟨nbuf, hnbuf⟩, _⟩ := h.linked_of_mem (List.mem_cons_self ..)
  obtain ⟨⟨head, hhead⟩, _⟩ := h.linked_of_mem (List.mem_cons_of_mem _ (List.mem_cons_self ..))
  refine h.relink (by simp [Memory.setNext, Memory.setFragList]) rfl rfl rfl ?_ fun p hp => ?_
  · simpa using List.Perm.swap b a (units ps)
  · rcases List.mem_cons.mp hp with rfl | hp
    · simp only [Memory.fragList, Memory.setFragList, Memory.setNext, Memory.modify, if_true, hba,
        if_false, hhead, Option.map_some, Option.elim_some]
      refine .cons (p := none) ?_ .nil
      simp [Memory.succ, hba.symm, hnbuf]
    · refine h.untouched (List.mem_cons_of_mem _ (List.mem_cons_of_mem _ hp)) fun c hc => ?_
      have hca := (hne c (by simp [mem_units hp hc])).1
      have hcb := (h.perm (List.Perm.swap ..)).ne_of_cons c (by simp [mem_units hp hc])
      simp [Memory.setFragList, Memory.setNext, Memory.modify, hca, hcb.1]

theorem attachNext (h : Holds m ((a, []) :: (b, as) :: ps)) (last : as.getLast? = some t) :
    Holds ((m.setNext t (some a)).setNext a none) ((b, as ++ [a]) :: ps) := by
  have hne := h.ne_of_cons
  have hswap := h.perm (List.Perm.swap ..)
  have ht : t ∈ as := List.mem_of_getLast? last
  have hta : t ≠ a := (hne t (by simp [ht])).1
  have hba : b ≠ a := (hne b (by simp)).1
  have hnodup : (b :: as).Nodup := (List.nodup_append.mp hswap.nodup).1
  have hbt : b ≠ t := fun heq => (List.nodup_cons.mp hnodup).1 (heq ▸ ht)
  have hlinked := (h.linked_of_mem (List.mem_cons_of_mem _ (List.mem_cons_self ..))).2
  obtain ⟨⟨nbuf, hnbuf⟩, _⟩ := h.linked_of_mem (List.mem_cons_self ..)
  obtain ⟨tail, htail⟩ := Option.isSome_iff_exists.mp ((h.live t).mpr (by simp [ht]))
  refine h.relink (by simp [Memory.setNext]) rfl rfl rfl ?_ fun p hp => ?_
  · have hmove : (a :: (b :: as)).Perm (b :: as ++ [a]) :=
      (List.perm_append_singleton a (b :: as)).symm
    simpa using hmove.append_right (units ps)
  · rcases List.mem_cons.mp hp with rfl | hp
    · have hfirst : ((m.setNext t (some a)).setNext a none).fragList b = m.fragList b := by
        simp [Memory.fragList, Memory.setNext, Memory.modify, hba, hbt]
      rw [hfirst]
      refine hlinked.snoc (List.nodup_cons.mp hnodup).2 last (fun c hc hct => ?_) ?_ ?_
      · have hca := (hne c (by simp [hc])).1
        simp [Memory.succ, Memory.setNext, Memory.modify, hca, hct]
      · simp [Memory.succ, Memory.setNext, Memory.modify, hta, htail]
      · simp [Memory.succ, Memory.setNext, Memory.modify, hta.symm, hnbuf]
    · refine h.untouched (List.mem_cons_of_mem _ (List.mem_cons_of_mem _ hp)) fun c hc => ?_
      have hca := (hne c (by simp [mem_units hp hc])).1
      have hct : c ≠ t := fun heq => (hswap.ne_of_cons c (by simp [mem_units hp hc])).2 (heq ▸ ht)
      simp [Memory.setNext, Memory.modify, hca, hct]

end Holds
end NssDrv.SkbMemory

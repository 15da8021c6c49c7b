import NssDrv.VirtualInterfaces

set_option autoImplicit false

/-!
# How virtual interfaces are linked

What the tables, the firmware's nodes and the messages on their way say about
each handle, and what each call does to them.
-/
namespace NssDrv.VirtualLinks
open HlosInterface InterfaceTables TransmitApi CommonMessage VirtualInterfaces
open DynamicInterface (nssIsDynamicInterface)
open CapwapRegistration (dynamic_range)

/-- What the tables, the nodes and the messages on their way say about the handles. -/
structure Linked (s : VirtTop) : Prop where
  live : ∀ f n p, s.table f n = some p → nssIsDynamicInterface n = true ∧ s.node n = true ∧
    ∃ h, s.heap p = some h ∧ h.family = f ∧ h.ifNum = n
  only : ∀ f g n p q, s.table f n = some p → s.table g n = some q → f = g
  placed : ∀ p, s.given p = true →
    ∃ h, s.heap p = some h ∧ s.table h.family h.ifNum = some p
  node : ∀ n, s.node n = true → ∃ f p, s.table f n = some p
  free : ∀ n, s.node n = false → s.held n = 0
  alloc : ∀ p, .alloc p ∈ s.flight → (∃ h, s.heap p = some h ∧ h.family = .virtIf) ∧
    s.given p = false ∧ ∀ f n, s.table f n ≠ some p
  dealloc : ∀ p n, .dealloc p n ∈ s.flight →
    s.table .virtIf n = some p ∧ s.held n = 0 ∧ (s.handlers n).cb = 0
  once : (s.flight.map NodeRequest.handle).Nodup

def Quiet (s : VirtTop) (p : ℕ) : Prop := ∀ r ∈ s.flight, r.handle ≠ p

variable {s t : VirtTop} {f g : VirtFamily} {n m p q : ℕ} {h : IfHandle} {r : NodeRequest}

theorem once_append {rs : List NodeRequest} (h : (rs.map NodeRequest.handle).Nodup)
    (hquiet : ∀ r' ∈ rs, r'.handle ≠ r.handle) : ((rs ++ [r]).map NodeRequest.handle).Nodup := by
  rw [List.map_append]
  refine List.nodup_append.mpr ⟨h, List.pairwise_singleton _ _, fun x hx y hy => ?_⟩
  obtain ⟨r', hr', rfl⟩ := List.mem_map.mp hx
  rw [List.mem_singleton.mp hy]
  exact hquiet r' hr'

theorem setHandle_self {v : Option ℕ} : (s.setHandle f n v).table f n = v := by
  simp [VirtTop.setHandle]

theorem setHandle_other {v : Option ℕ} (hne : ¬ (g = f ∧ m = n)) :
    (s.setHandle f n v).table g m = s.table g m := by
  unfold VirtTop.setHandle
  by_cases hg : g = f
  · subst hg
    have hm : m ≠ n := fun hm => hne ⟨rfl, hm⟩
    dsimp only
    rw [Function.update_self, Function.update_of_ne hm]
  · dsimp only
    rw [Function.update_of_ne hg]

theorem setNode_self {v : Bool} : (s.setNode n v).node n = v := Function.update_self ..

theorem setNode_other {v : Bool} (hne : m ≠ n) : (s.setNode n v).node m = s.node m :=
  Function.update_of_ne hne _ _

theorem kfree_heap (hne : q ≠ p) : (s.kfree p).heap q = s.heap q := Function.update_of_ne hne _ _

theorem kfree_given (hne : q ≠ p) : (s.kfree p).given q = s.given q :=
  Function.update_of_ne hne _ _

theorem not_given : (s.kfree p).given p = false := Function.update_self ..

@[simp] theorem attach_heap {netdev : ℕ} : (s.attach n netdev).heap = s.heap := by
  unfold VirtTop.attach
  split <;> rfl

@[simp] theorem attach_table {netdev : ℕ} : (s.attach n netdev).table = s.table := by
  unfold VirtTop.attach
  split <;> rfl

@[simp] theorem attach_handlers {netdev : ℕ} : (s.attach n netdev).handlers = s.handlers := by
  unfold VirtTop.attach
  split <;> rfl

@[simp] theorem attach_node {netdev : ℕ} : (s.attach n netdev).node = s.node := by
  unfold VirtTop.attach
  split <;> rfl

@[simp] theorem attach_flight {netdev : ℕ} : (s.attach n netdev).flight = s.flight := by
  unfold VirtTop.attach
  split <;> rfl

@[simp] theorem attach_given {netdev : ℕ} : (s.attach n netdev).given = s.given := by
  unfold VirtTop.attach
  split <;> rfl

@[simp] theorem attach_held {netdev : ℕ} :
    (s.attach n netdev).held = (s.addHeld n netdev 1).held := by
  unfold VirtTop.attach
  split <;> rfl

namespace Linked

theorem place (h : Linked s) (hp : s.table f n = some p) (hq : s.table g m = some p) :
    g = f ∧ m = n := by
  obtain ⟨-, -, x, hx, rfl, rfl⟩ := h.live f n p hp
  obtain ⟨-, -, y, hy, rfl, rfl⟩ := h.live g m p hq
  obtain rfl := Option.some.inj (hx.symm.trans hy)
  exact ⟨rfl, rfl⟩

theorem unplaced (h : Linked s) (hn : s.node n = false) : s.table f n = none := by
  cases hp : s.table f n with
  | none => rfl
  | some p =>
    obtain ⟨-, hnode, -⟩ := h.live f n p hp
    rw [hn] at hnode
    cases hnode

theorem fresh (h : Linked s) (hp : s.heap p = none) :
    s.given p = false ∧ (∀ f n, s.table f n ≠ some p) ∧ Quiet s p := by
  refine ⟨Bool.eq_false_iff.mpr fun hgiven => ?_, fun f n htable => ?_, fun r hr hhandle => ?_⟩
  · obtain ⟨x, hx, -⟩ := h.placed p hgiven
    cases hp.symm.trans hx
  · obtain ⟨-, -, x, hx, -⟩ := h.live f n p htable
    cases hp.symm.trans hx
  · subst hhandle
    cases r with
    | alloc q =>
      obtain ⟨⟨x, hx, -⟩, -⟩ := h.alloc q hr
      cases hp.symm.trans hx
    | dealloc q n =>
      obtain ⟨-, -, x, hx, -⟩ := h.live _ _ q (h.dealloc q n hr).1
      cases hp.symm.trans hx

theorem quiet (h : Linked s) (hgiven : s.given p = true) (hp : s.table f n = some p)
    (hheld : s.held n ≠ 0) : Quiet s p := by
  rintro r hr rfl
  cases r with
  | alloc q =>
    have hnot := (h.alloc q hr).2.1
    rw [show s.given q = true from hgiven] at hnot
    cases hnot
  | dealloc q m =>
    obtain ⟨htable, hzero, -⟩ := h.dealloc q m hr
    obtain ⟨-, rfl⟩ := h.place hp htable
    exact hheld hzero

/-- The data plane's slots, the callbacks of the handles and the message handlers
    that are cleared do not matter. -/
theorem frame (h : Linked s) (hheap : ∀ q y, s.heap q = some y →
      ∃ z, t.heap q = some z ∧ z.family = y.family ∧ z.ifNum = y.ifNum)
    (htable : t.table = s.table) (hnode : t.node = s.node) (hflight : t.flight = s.flight)
    (hgiven : t.given = s.given) (hheld : t.held = s.held)
    (hcb : ∀ n, (s.handlers n).cb = 0 → (t.handlers n).cb = 0) : Linked t := by
  refine ⟨fun f n p hp => ?_, ?_, fun p hp => ?_, ?_, ?_, fun p hp => ?_, fun p n hp => ?_, ?_⟩
  · rw [htable] at hp
    obtain ⟨hdynamic, hn, y, hy, rfl, rfl⟩ := h.live f n p hp
    obtain ⟨z, hz, hfamily, hnum⟩ := hheap p y hy
    exact ⟨hdynamic, hnode ▸ hn, z, hz, hfamily, hnum⟩
  · rw [htable]
    exact h.only
  · rw [hgiven] at hp
    obtain ⟨y, hy, hplace⟩ := h.placed p hp
    obtain ⟨z, hz, hfamily, hnum⟩ := hheap p y hy
    exact ⟨z, hz, by rw [htable, hfamily, hnum]; exact hplace⟩
  · rw [hnode, htable]
    exact h.node
  · rw [hnode, hheld]
    exact h.free
  · rw [hflight] at hp
    obtain ⟨⟨y, hy, hvirt⟩, hnot, hno⟩ := h.alloc p hp
    obtain ⟨z, hz, hfamily, -⟩ := hheap p y hy
    exact ⟨⟨z, hz, hfamily.trans hvirt⟩, hgiven ▸ hnot, htable ▸ hno⟩
  · rw [hflight] at hp
    obtain ⟨hplace, hzero, hcleared⟩ := h.dealloc p n hp
    exact ⟨htable ▸ hplace, hheld ▸ hzero, hcb n hcleared⟩
  · rw [hflight]
    exact h.once

theorem erase (h : Linked s) : Linked { s with flight := s.flight.erase r } := by
  refine ⟨h.live, h.only, h.placed, h.node, h.free, fun p hp => ?_, fun p n hp => ?_, ?_⟩
  · exact h.alloc p (List.mem_of_mem_erase hp)
  · exact h.dealloc p n (List.mem_of_mem_erase hp)
  · exact h.once.sublist (List.erase_sublist.map _)

theorem erase_quiet (h : Linked s) (hr : r ∈ s.flight) :
    Quiet { s with flight := s.flight.erase r } r.handle := by
  intro r' hr' hsame
  have hperm := (List.perm_cons_erase hr).map NodeRequest.handle
  have honce := hperm.nodup_iff.mp h.once
  rw [List.map_cons, List.nodup_cons] at honce
  exact honce.1 (hsame ▸ List.mem_map_of_mem hr')

theorem setHeap {x y : IfHandle} (h : Linked s) (hp : s.heap p = some x)
    (hfamily : y.family = x.family) (hnum : y.ifNum = x.ifNum) : Linked (s.setHeap p y) := by
  refine h.frame (fun q z hq => ?_) rfl rfl rfl rfl rfl fun _ hcb => hcb
  by_cases hqp : q = p
  · subst hqp
    obtain rfl := Option.some.inj (hp.symm.trans hq)
    exact ⟨y, Function.update_self .., hfamily, hnum⟩
  · exact ⟨z, (Function.update_of_ne hqp _ _).trans hq, rfl, rfl⟩

theorem give {x : IfHandle} (h : Linked s) (hp : s.heap p = some x)
    (htable : s.table x.family x.ifNum = some p) : Linked (s.give p) := by
  refine ⟨h.live, h.only, fun q hq => ?_, h.node, h.free, fun q hq => ?_, h.dealloc, h.once⟩
  · by_cases hqp : q = p
    · subst hqp
      exact ⟨x, hp, htable⟩
    · have hq : Function.update s.given p true q = true := hq
      rw [Function.update_of_ne hqp] at hq
      exact h.placed q hq
  · obtain ⟨hheap, hnot, hno⟩ := h.alloc q hq
    have hqp : q ≠ p := by
      rintro rfl
      exact hno _ _ htable
    exact ⟨hheap, (Function.update_of_ne hqp _ _).trans hnot, hno⟩

theorem request {x : IfHandle} (h : Linked s) (hp : s.heap p = none) (hx : x.family = .virtIf) :
    Linked { s.setHeap p x with flight := s.flight ++ [.alloc p] } := by
  obtain ⟨hnot, hno, hquiet⟩ := h.fresh hp
  have hother : ∀ q y, s.heap q = some y → (s.setHeap p x).heap q = some y := by
    intro q y hq
    have hqp : q ≠ p := by
      rintro rfl
      cases hp.symm.trans hq
    exact (Function.update_of_ne hqp _ _).trans hq
  refine ⟨fun f n q hq => ?_, h.only, fun q hq => ?_, h.node, h.free, fun q hq => ?_,
    fun q n hq => ?_, ?_⟩
  · obtain ⟨hdynamic, hn, y, hy, hplace⟩ := h.live f n q hq
    exact ⟨hdynamic, hn, y, hother q y hy, hplace⟩
  · obtain ⟨y, hy, hplace⟩ := h.placed q hq
    exact ⟨y, hother q y hy, hplace⟩
  · rcases List.mem_append.mp hq with hold | hlast
    · obtain ⟨⟨y, hy, hvirt⟩, hrest⟩ := h.alloc q hold
      exact ⟨⟨y, hother q y hy, hvirt⟩, hrest⟩
    · obtain ⟨⟩ := List.mem_singleton.mp hlast
      exact ⟨⟨x, Function.update_self .., hx⟩, hnot, hno⟩
  · rcases List.mem_append.mp hq with hold | hlast
    · exact h.dealloc q n hold
    · cases List.mem_singleton.mp hlast
  · exact once_append h.once hquiet

theorem enter {x : IfHandle} (h : Linked s) (hn : s.node n = false)
    (hdynamic : nssIsDynamicInterface n = true) (hp : ∀ f n, s.table f n ≠ some p)
    (hquiet : Quiet s p) (hgiven : s.given p = false) (hfamily : x.family = f)
    (hnum : x.ifNum = n) :
    Linked (((s.setNode n true).setHeap p x).setHandle f n (some p)) := by
  have hheap : ∀ q, q ≠ p → ((s.setNode n true).setHeap p x).heap q = s.heap q := fun q hq =>
    Function.update_of_ne hq _ _
  have hold : ∀ g m q, s.table g m = some q → ¬ (g = f ∧ m = n) := by
    rintro g m q hq ⟨-, rfl⟩
    cases (h.unplaced hn).symm.trans hq
  have hcases : ∀ g m q,
      (((s.setNode n true).setHeap p x).setHandle f n (some p)).table g m = some q →
      (g = f ∧ m = n ∧ q = p) ∨ (m ≠ n ∧ q ≠ p ∧ s.table g m = some q) := by
    intro g m q hq
    by_cases hplace : g = f ∧ m = n
    · obtain ⟨rfl, rfl⟩ := hplace
      rw [setHandle_self] at hq
      exact .inl ⟨rfl, rfl, (Option.some.inj hq).symm⟩
    · rw [setHandle_other hplace] at hq
      have hq : s.table g m = some q := hq
      refine .inr ⟨?_, ?_, hq⟩
      · rintro rfl
        cases (h.unplaced hn).symm.trans hq
      · rintro rfl
        exact hp _ _ hq
  refine ⟨fun g m q hq => ?_, fun g g' m q q' hq hq' => ?_, fun q hq => ?_, fun m hm => ?_,
    fun m hm => ?_, fun q hq => ?_, fun q m hq => ?_, h.once⟩
  · rcases hcases g m q hq with ⟨rfl, rfl, rfl⟩ | ⟨hm, hqp, hq⟩
    · exact ⟨hdynamic, Function.update_self .., x, Function.update_self .., hfamily, hnum⟩
    · obtain ⟨hm', hnode', y, hy, hplace⟩ := h.live g m q hq
      exact ⟨hm', (setNode_other hm).trans hnode', y, (hheap q hqp).trans hy, hplace⟩
  · rcases hcases g m q hq with ⟨rfl, rfl, rfl⟩ | ⟨hm, hqp, hq⟩
    · rcases hcases g' m q' hq' with ⟨rfl, -, -⟩ | ⟨hm, -⟩
      · rfl
      · exact absurd rfl hm
    · rcases hcases g' m q' hq' with ⟨rfl, rfl, -⟩ | ⟨-, -, hq'⟩
      · exact absurd rfl hm
      · exact h.only g g' m q q' hq hq'
  · have hqp : q ≠ p := by
      rintro rfl
      cases hgiven.symm.trans hq
    obtain ⟨y, hy, hplace⟩ := h.placed q hq
    exact ⟨y, (hheap q hqp).trans hy, (setHandle_other (hold _ _ q hplace)).trans hplace⟩
  · by_cases hmn : m = n
    · exact ⟨f, p, hmn ▸ setHandle_self⟩
    · obtain ⟨g, q, hq⟩ := h.node m ((setNode_other hmn).symm.trans hm)
      exact ⟨g, q, (setHandle_other fun hplace => hmn hplace.2).trans hq⟩
  · have hmn : m ≠ n := by
      rintro rfl
      have hm : (s.setNode m true).node m = false := hm
      rw [setNode_self] at hm
      cases hm
    exact h.free m ((setNode_other hmn).symm.trans hm)
  · obtain ⟨⟨y, hy, hvirt⟩, hnot, hno⟩ := h.alloc q hq
    have hqp : q ≠ p := hquiet _ hq
    refine ⟨⟨y, (hheap q hqp).trans hy, hvirt⟩, hnot, fun g m htable => ?_⟩
    rcases hcases g m q htable with ⟨-, -, rfl⟩ | ⟨-, -, htable⟩
    · exact hqp rfl
    · exact hno g m htable
  · obtain ⟨hplace, hzero, hcb⟩ := h.dealloc q m hq
    exact ⟨(setHandle_other (hold _ _ q hplace)).trans hplace, hzero, hcb⟩

theorem attach {netdev : ℕ} {handlers : RxHandlers} (h : Linked s) (hp : s.table f n = some p)
    (hquiet : Quiet s p) (hhandlers : ∀ m, m ≠ n → handlers m = s.handlers m) :
    Linked ({ s with handlers := handlers }.attach n netdev) := by
  have hnode := (h.live f n p hp).2.1
  have hother : ∀ m, m ≠ n → (s.addHeld n netdev 1).held m = s.held m := fun m hm =>
    Function.update_of_ne hm _ _
  have hadd : Linked ({ s with handlers := handlers }.addHeld n netdev 1) := by
    refine ⟨h.live, h.only, h.placed, h.node, fun m hm => ?_, h.alloc, fun q m hq => ?_, h.once⟩
    · have hm : s.node m = false := hm
      have hmn : m ≠ n := by
        rintro rfl
        cases hnode.symm.trans hm
      exact (hother m hmn).trans (h.free m hm)
    · obtain ⟨hplace, hzero, hcb⟩ := h.dealloc q m hq
      have hmn : m ≠ n := by
        rintro rfl
        obtain rfl := h.only _ _ m q p hplace hp
        exact hquiet _ hq (Option.some.inj (hplace.symm.trans hp))
      refine ⟨hplace, (hother m hmn).trans hzero, ?_⟩
      change (handlers m).cb = 0
      rw [hhandlers m hmn]
      exact hcb
  refine hadd.frame (fun q y hq => ⟨y, ?_, rfl, rfl⟩) attach_table attach_node attach_flight
    attach_given attach_held fun m hm => ?_
  · rw [attach_heap]
    exact hq
  · rw [attach_handlers]
    exact hm

theorem detach (h : Linked s) (hp : s.table f n = some p)
    (hheld : s.held n = Pi.single (s.dp n).ndev 1) :
    Linked (s.detach n) ∧ (s.detach n).held n = 0 := by
  have hnode := (h.live f n p hp).2.1
  have hzero : (s.detach n).held n = 0 := by
    funext d
    unfold VirtTop.detach VirtTop.addHeld
    dsimp only
    rw [Function.update_self, hheld]
    by_cases hd : d = (s.dp n).ndev
    · subst hd
      simp
    · simp [Function.update_of_ne hd, Pi.single_eq_of_ne hd]
  have hother : ∀ m, m ≠ n → (s.detach n).held m = s.held m := fun m hm =>
    Function.update_of_ne hm _ _
  refine ⟨⟨h.live, h.only, h.placed, h.node, fun m hm => ?_, h.alloc, fun q m hq => ?_, h.once⟩,
    hzero⟩
  · have hm : s.node m = false := hm
    by_cases hmn : m = n
    · exact hmn ▸ hzero
    · exact (hother m hmn).trans (h.free m hm)
  · obtain ⟨hplace, hheld', hcb⟩ := h.dealloc q m hq
    refine ⟨hplace, ?_, hcb⟩
    by_cases hmn : m = n
    · exact hmn ▸ hzero
    · exact (hother m hmn).trans hheld'

theorem send (h : Linked s) (hp : s.table .virtIf n = some p) (hheld : s.held n = 0)
    (hcb : (s.handlers n).cb = 0) (hquiet : Quiet s p) :
    Linked { s with flight := s.flight ++ [.dealloc p n] } := by
  refine ⟨h.live, h.only, h.placed, h.node, h.free, fun q hq => ?_, fun q m hq => ?_, ?_⟩
  · rcases List.mem_append.mp hq with hold | hlast
    · exact h.alloc q hold
    · cases List.mem_singleton.mp hlast
  · rcases List.mem_append.mp hq with hold | hlast
    · exact h.dealloc q m hold
    · obtain ⟨⟩ := List.mem_singleton.mp hlast
      exact ⟨hp, hheld, hcb⟩
  · exact once_append h.once hquiet

theorem kfree (h : Linked s) (hp : ∀ f n, s.table f n ≠ some p) (hquiet : Quiet s p) :
    Linked (s.kfree p) := by
  refine ⟨fun f n q hq => ?_, h.only, fun q hq => ?_, h.node, h.free, fun q hq => ?_, h.dealloc,
    h.once⟩
  · have hqp : q ≠ p := by
      rintro rfl
      exact hp f n hq
    rw [kfree_heap hqp]
    exact h.live f n q hq
  · have hqp : q ≠ p := by
      rintro rfl
      rw [not_given] at hq
      cases hq
    rw [kfree_heap hqp]
    exact h.placed q (kfree_given hqp ▸ hq)
  · have hqp : q ≠ p := hquiet _ hq
    rw [kfree_heap hqp, kfree_given hqp]
    exact h.alloc q hq

theorem vanish (h : Linked s) (hp : s.table f n = some p) (hheld : s.held n = 0)
    (hquiet : Quiet s p) : Linked (((s.setNode n false).setHandle f n none).kfree p) := by
  have hkeep : ∀ g m q, q ≠ p → s.table g m = some q →
      (((s.setNode n false).setHandle f n none).kfree p).table g m = some q := by
    intro g m q hqp hq
    refine (setHandle_other ?_).trans hq
    rintro ⟨rfl, rfl⟩
    exact hqp (Option.some.inj (hq.symm.trans hp))
  have hcases : ∀ g m q,
      (((s.setNode n false).setHandle f n none).kfree p).table g m = some q →
      m ≠ n ∧ q ≠ p ∧ s.table g m = some q := by
    intro g m q hq
    replace hq : ((s.setNode n false).setHandle f n none).table g m = some q := hq
    by_cases hplace : g = f ∧ m = n
    · obtain ⟨rfl, rfl⟩ := hplace
      rw [setHandle_self] at hq
      cases hq
    · rw [setHandle_other hplace] at hq
      replace hq : s.table g m = some q := hq
      refine ⟨?_, ?_, hq⟩
      · rintro rfl
        exact hplace ⟨h.only g f m q p hq hp, rfl⟩
      · rintro rfl
        exact hplace (h.place hp hq)
  refine ⟨fun g m q hq => ?_, fun g g' m q q' hq hq' => ?_, fun q hq => ?_, fun m hm => ?_,
    fun m hm => ?_, fun q hq => ?_, fun q m hq => ?_, h.once⟩
  · obtain ⟨hm, hqp, hq⟩ := hcases g m q hq
    obtain ⟨hdynamic, hn, y, hy, hplace⟩ := h.live g m q hq
    exact ⟨hdynamic, (setNode_other hm).trans hn, y, (kfree_heap hqp).trans hy, hplace⟩
  · exact h.only g g' m q q' (hcases g m q hq).2.2 (hcases g' m q' hq').2.2
  · have hqp : q ≠ p := by
      rintro rfl
      have hq : (s.kfree q).given q = true := hq
      rw [not_given] at hq
      cases hq
    obtain ⟨y, hy, hplace⟩ := h.placed q ((kfree_given hqp).symm.trans hq)
    exact ⟨y, (kfree_heap hqp).trans hy, hkeep _ _ q hqp hplace⟩
  · have hmn : m ≠ n := by
      rintro rfl
      have hm : (s.setNode m false).node m = true := hm
      rw [setNode_self] at hm
      cases hm
    obtain ⟨g, q, hq⟩ := h.node m ((setNode_other hmn).symm.trans hm)
    refine ⟨g, q, (setHandle_other fun hplace => hmn hplace.2).trans hq⟩
  · by_cases hmn : m = n
    · exact hmn ▸ hheld
    · exact h.free m ((setNode_other hmn).symm.trans hm)
  · have hqp : q ≠ p := hquiet _ hq
    obtain ⟨⟨y, hy, hvirt⟩, hnot, hno⟩ := h.alloc q hq
    refine ⟨⟨y, (kfree_heap hqp).trans hy, hvirt⟩, (kfree_given hqp).trans hnot,
      fun g m htable => ?_⟩
    exact hno g m (hcases g m q htable).2.2
  · have hqp : q ≠ p := hquiet _ hq
    obtain ⟨hplace, hzero, hcb⟩ := h.dealloc q m hq
    exact ⟨hkeep _ _ q hqp hplace, hzero, hcb⟩

end Linked

def clearHandler (n : ℕ) (s : VirtTop) : VirtTop :=
  { s with handlers := Function.update s.handlers n ⟨0, 0⟩ }

theorem clearHandler_cb : ((clearHandler n s).handlers n).cb = 0 := by
  unfold clearHandler
  dsimp only
  rw [Function.update_self]

theorem unregisterAfter_dynamic (hn : nssIsDynamicInterface n = true) :
    unregisterAfter s n = (.success, clearHandler n s) := by
  unfold unregisterAfter nssCoreUnregisterHandler
  rw [if_neg (Nat.not_le.mpr (dynamic_range hn).2)]
  rfl

theorem register_free (cb : ℕ) (hn : nssIsDynamicInterface n = true)
    (hfree : (s.handlers n).cb = 0) :
    nssCoreRegisterHandler n cb 0 s.handlers =
      (.success, Function.update s.handlers n ⟨cb, 0⟩) := by
  unfold nssCoreRegisterHandler
  rw [if_neg (Nat.not_le.mpr (dynamic_range hn).2), if_neg (not_not.mpr hfree)]

/-- The interface `n` of the handle `p` is there. -/
def enterIf (f : VirtFamily) (n p : ℕ) (h : IfHandle) (netdev : ℕ) (s : VirtTop) : VirtTop :=
  { ((s.setNode n true).setHeap p h).setHandle f n (some p) with
    handlers := Function.update s.handlers n ⟨f.msgHandler, 0⟩ }.attach n netdev

def removeIf (f : VirtFamily) (n p : ℕ) (s : VirtTop) : VirtTop :=
  ((s.setNode n false).setHandle f n none).kfree p

theorem create_cases (netdev cb appData : ℕ) (ready sent : Bool) {memory : Option ℕ}
    (hmem : ∀ p, memory = some p → s.heap p = none ∧ s.given p = false) :
    ((nssVirtIfCreate netdev cb appData ready memory sent s).1 ≠ .success ∧
        (nssVirtIfCreate netdev cb appData ready memory sent s).2 = s) ∨
      ∃ p, memory = some p ∧ nssVirtIfCreate netdev cb appData ready memory sent s =
        (.success, { s.setHeap p ⟨.virtIf, 0, netdev, cb, appData⟩ with
          flight := s.flight ++ [.alloc p] }) := by
  unfold nssVirtIfCreate
  cases ready with
  | false => exact .inl ⟨nofun, rfl⟩
  | true =>
    rw [if_neg nofun]
    cases memory with
    | none => exact .inl ⟨nofun, rfl⟩
    | some p =>
      obtain ⟨hp, hgiven⟩ := hmem p rfl
      cases sent with
      | false =>
        refine .inl ⟨nofun, ?_⟩
        dsimp only [VirtTop.setHeap, VirtTop.kfree]
        rw [if_pos rfl, Function.update_idem, ← hp, Function.update_eq_self, ← hgiven,
          Function.update_eq_self]
      | true => exact .inr ⟨p, rfl, rfl⟩

/-- The destroy is refused, or it takes the device out and then its message is
    sent or not. -/
theorem destroy_cases (cb appData : ℕ) (ready sent : Bool)
    (hdynamic : nssIsDynamicInterface h.ifNum = true) :
    ((nssVirtIfDestroy p h cb appData ready sent s).1 ≠ .success ∧
        (nssVirtIfDestroy p h cb appData ready sent s).2 =
          s.setHeap p { h with cb := cb, appData := appData }) ∨
      (ready = true ∧ (s.dp h.ifNum).ndev ≠ 0 ∧
        nssVirtIfDestroy p h cb appData ready sent s =
          if sent = true then (.success, clearHandler h.ifNum
            { (s.setHeap p { h with cb := cb, appData := appData }).detach h.ifNum with
              flight := s.flight ++ [.dealloc p h.ifNum] })
          else (.refused .failure,
            (s.setHeap p { h with cb := cb, appData := appData }).detach h.ifNum)) := by
  unfold nssVirtIfDestroy
  cases ready with
  | false => exact .inl ⟨nofun, rfl⟩
  | true =>
    rw [if_neg nofun]
    by_cases hndev : ((s.setHeap p { h with cb := cb, appData := appData }).dp
        { h with cb := cb, appData := appData }.ifNum).ndev = 0
    · rw [if_pos hndev]
      exact .inl ⟨nofun, rfl⟩
    · rw [if_neg hndev]
      refine .inr ⟨rfl, hndev, ?_⟩
      cases sent with
      | false => rfl
      | true => exact unregisterAfter_dynamic hdynamic

theorem createAnswered_cases {response : NssCmnResponse} {ifNum : ℕ} {made sent : Bool}
    (hack : response = .NSS_CMN_RESPONSE_ACK →
      made = true ∧ nssIsDynamicInterface ifNum = true ∧ (s.handlers ifNum).cb = 0) :
    createAnswered p h response ifNum made sent s =
      if response = .NSS_CMN_RESPONSE_ACK then
        let t := enterIf .virtIf ifNum p { h with ifNum := ifNum } h.ndev
          { s with flight := s.flight.erase (.alloc p) }
        (h.callback response, if h.cb = 0 then t else t.give p)
      else (h.callback response, { s with flight := s.flight.erase (.alloc p) }.kfree p) := by
  by_cases hresponse : response = .NSS_CMN_RESPONSE_ACK
  · obtain ⟨rfl, hdynamic, hfree⟩ := hack hresponse
    subst hresponse
    have hregister := register_free (s := (((s.answered (.alloc p) .NSS_CMN_RESPONSE_ACK
      ifNum).setHeap p { h with ifNum := ifNum }).setHandle .virtIf ifNum (some p)))
      VirtFamily.virtIf.msgHandler hdynamic hfree
    have hcb : nssVirtIfHandleCreateCb p h .NSS_CMN_RESPONSE_ACK ifNum true sent
        (s.answered (.alloc p) .NSS_CMN_RESPONSE_ACK ifNum) =
          (h.callback .NSS_CMN_RESPONSE_ACK,
            enterIf .virtIf ifNum p { h with ifNum := ifNum } h.ndev
              { s with flight := s.flight.erase (.alloc p) }) := by
      unfold nssVirtIfHandleCreateCb
      rw [if_neg (not_not.mpr rfl)]
      dsimp only
      rw [hregister]
      dsimp only
      rw [if_neg nofun]
      rfl
    unfold createAnswered
    rw [hcb, if_pos rfl]
    unfold IfHandle.callback
    by_cases hnone : h.cb = 0
    · simp only [if_pos hnone, Option.isSome_none, Bool.false_eq_true, false_and, if_false]
    · simp only [if_neg hnone, Option.isSome_some, and_self, if_true]
  · unfold createAnswered nssVirtIfHandleCreateCb VirtTop.answered
    rw [if_pos hresponse, if_neg hresponse, if_neg hresponse, if_neg fun h => hresponse h.2]

theorem destroyAnswered_cases {response : NssCmnResponse} (hnum : h.ifNum = n) :
    destroyAnswered p h n response s =
      (h.callback response, if response = .NSS_CMN_RESPONSE_ACK then
          removeIf .virtIf n p { s with flight := s.flight.erase (.dealloc p n) }
        else { s with flight := s.flight.erase (.dealloc p n) }) := by
  subst hnum
  unfold destroyAnswered nssVirtIfHandleDestroyCb VirtTop.answered
  by_cases hresponse : response = .NSS_CMN_RESPONSE_ACK
  · rw [if_neg (not_not.mpr hresponse), if_pos hresponse, if_pos hresponse]
    rfl
  · rw [if_pos hresponse, if_neg hresponse, if_neg hresponse]

theorem Linked.created {netdev : ℕ} (hs : Linked s) (hn : s.node n = false)
    (hdynamic : nssIsDynamicInterface n = true) (hp : ∀ f n, s.table f n ≠ some p)
    (hquiet : Quiet s p) (hgiven : s.given p = false) (hfamily : h.family = f)
    (hnum : h.ifNum = n) : Linked (enterIf f n p h netdev s) :=
  (hs.enter hn hdynamic hp hquiet hgiven hfamily hnum).attach setHandle_self hquiet fun _ hm =>
    Function.update_of_ne hm _ _

theorem Linked.unhandled (hs : Linked s) : Linked (clearHandler n s) := by
  refine hs.frame (fun q y hq => ⟨y, hq, rfl, rfl⟩) rfl rfl rfl rfl rfl fun m hm => ?_
  change (Function.update s.handlers n ⟨0, 0⟩ m).cb = 0
  by_cases hmn : m = n
  · subst hmn
    rw [Function.update_self]
  · rw [Function.update_of_ne hmn]
    exact hm

theorem Linked.destroyed (hs : Linked s) (hp : s.table f n = some p) (hheld : s.held n = 0)
    (hquiet : Quiet s p) : Linked (removeIf f n p s) := hs.vanish hp hheld hquiet

theorem Linked.given_create {netdev : ℕ} (hs : Linked (enterIf f n p h netdev s))
    (hfamily : h.family = f) (hnum : h.ifNum = n) :
    Linked ((enterIf f n p h netdev s).give p) := by
  refine hs.give (x := h) ?_ ?_
  · unfold enterIf
    rw [attach_heap]
    exact Function.update_self ..
  · unfold enterIf
    rw [attach_table, hfamily, hnum]
    exact setHandle_self

theorem held_created {netdev : ℕ} (hs : s.held n = 0) :
    (enterIf f n p h netdev s).held n = Pi.single netdev 1 := by
  unfold enterIf
  rw [attach_held]
  funext d
  unfold VirtTop.addHeld
  dsimp only
  rw [Function.update_self]
  have hs : ∀ d, s.held n d = 0 := fun d => congrFun hs d
  by_cases hd : d = netdev
  · subst hd
    rw [Function.update_self, Pi.single_eq_same]
    exact (congrArg (· + 1) (hs d)).trans (zero_add 1)
  · rw [Function.update_of_ne hd, Pi.single_eq_of_ne hd]
    exact hs d

theorem enterIf_other (netdev : ℕ) (hm : m ≠ n) :
    (enterIf f n p h netdev s).node m = s.node m ∧
      (enterIf f n p h netdev s).handlers m = s.handlers m ∧
        (enterIf f n p h netdev s).held m = s.held m ∧
          (enterIf f n p h netdev s).table g m = s.table g m := by
  unfold enterIf
  rw [attach_node, attach_handlers, attach_held, attach_table]
  refine ⟨setNode_other hm, Function.update_of_ne hm _ _, Function.update_of_ne hm _ _, ?_⟩
  exact setHandle_other fun hplace => hm hplace.2

theorem enterIf_self (netdev : ℕ) :
    (enterIf f n p h netdev s).node n = true ∧
      (enterIf f n p h netdev s).handlers n = ⟨f.msgHandler, 0⟩ ∧
        (enterIf f n p h netdev s).table f n = some p := by
  unfold enterIf
  rw [attach_node, attach_handlers, attach_table]
  exact ⟨setNode_self, Function.update_self .., setHandle_self⟩

theorem enterIf_heap (netdev : ℕ) :
    (enterIf f n p h netdev s).heap = Function.update s.heap p (some h) := attach_heap

theorem attach_dp {netdev : ℕ} (hslot : (s.dp n).ndev = 0) :
    (s.attach n netdev).dp = Function.update s.dp n { s.dp n with ndev := netdev } := by
  unfold VirtTop.attach
  rw [if_pos hslot]
  rfl

theorem enterIf_dp {netdev : ℕ} (hslot : (s.dp n).ndev = 0) :
    ((enterIf f n p h netdev s).dp n).ndev = netdev ∧
      ∀ m, m ≠ n → (enterIf f n p h netdev s).dp m = s.dp m := by
  have hdp : (enterIf f n p h netdev s).dp =
    Function.update s.dp n { s.dp n with ndev := netdev } := attach_dp hslot
  rw [hdp]
  refine ⟨?_, fun m hm => Function.update_of_ne hm _ _⟩
  rw [Function.update_self]

theorem removeIf_self : (removeIf f n p s).table f n = none :=
  setHandle_self (s := s.setNode n false) (v := none)

theorem removeIf_table (hq : (removeIf f n p s).table g m = some q) :
    s.table g m = some q ∧ ¬ (g = f ∧ m = n) := by
  have hq : ((s.setNode n false).setHandle f n none).table g m = some q := hq
  by_cases hplace : g = f ∧ m = n
  · obtain ⟨rfl, rfl⟩ := hplace
    rw [setHandle_self] at hq
    cases hq
  · rw [setHandle_other hplace] at hq
    exact ⟨hq, hplace⟩

theorem linked_start {s : VirtTop} (hs : VirtStart s) : Linked s := by
  refine ⟨fun f n p hp => ?_, fun f g n p q hp => ?_, fun p hp => ?_, fun n hn => ?_,
    fun n _ => hs.held n, fun p hp => ?_, fun p n hp => ?_, ?_⟩
  · cases (hs.table f n).symm.trans hp
  · cases (hs.table f n).symm.trans hp
  · cases (hs.given p).symm.trans hp
  · cases (hs.node n).symm.trans hn
  · rw [hs.flight] at hp
    cases hp
  · rw [hs.flight] at hp
    cases hp
  · rw [hs.flight]
    exact .nil

end NssDrv.VirtualLinks

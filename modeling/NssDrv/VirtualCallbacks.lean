import NssDrv.TransitionRuns
import NssDrv.VirtualLinks

set_option autoImplicit false

/-!
# The callbacks of asynchronous creates and destroys

A handle has room for one callback: that of the request that was made last.
-/
namespace NssDrv.VirtualCallbacks
open TransitionRuns HlosInterface InterfaceTables TransmitApi CommonMessage VirtualInterfaces
open VirtualLinks
open DynamicInterface (nssIsDynamicInterface)

/-- A call of `nss_virt_if_create` or `nss_virt_if_destroy`. It is accepted where
    it does not return an error. -/
structure Request where
  creates : Bool
  handle : ℕ
  ifNum : ℕ
  cb : ℕ
  appData : ℕ
  accepted : Bool

/-- A callback that was run, the request that it came from, and the state then. -/
structure Called where
  request : ℕ
  run : Invoked
  top : VirtTop

/-- A run with its requests, the request whose callback is in each handle, and the
    callbacks that were run. -/
structure Journal where
  top : VirtTop
  requests : List Request
  stored : ℕ → ℕ
  called : List Called

def calledBy (id : ℕ) (run : Option Invoked) (t : VirtTop) : List Called :=
  run.toList.map fun v => ⟨id, v, t⟩

inductive JournalStep : Journal → VirtCall → Journal → Prop where
  | create (w : Journal) (netdev cb appData : ℕ) (ready : Bool) (memory : Option ℕ) (sent : Bool)
      (t : VirtTop) (hstep : VirtStep w.top (.create netdev cb appData ready memory sent) t)
      (accepted : Bool) (haccepted : accepted = true ↔
        (nssVirtIfCreate netdev cb appData ready memory sent w.top).1 = .success) :
      JournalStep w (.create netdev cb appData ready memory sent)
        { w with
          top := t
          requests := w.requests ++ [⟨true, memory.getD 0, 0, cb, appData, accepted⟩]
          stored := if accepted = true then
              Function.update w.stored (memory.getD 0) w.requests.length
            else w.stored }
  | destroy (w : Journal) (p cb appData : ℕ) (ready sent : Bool) (t : VirtTop)
      (hstep : VirtStep w.top (.destroy p cb appData ready sent) t) (h : IfHandle)
      (hheap : w.top.heap p = some h) (accepted : Bool) (haccepted : accepted = true ↔
        (nssVirtIfDestroy p h cb appData ready sent w.top).1 = .success) :
      JournalStep w (.destroy p cb appData ready sent)
        { w with
          top := t
          requests := w.requests ++ [⟨false, p, h.ifNum, cb, appData, accepted⟩]
          stored := Function.update w.stored p w.requests.length }
  | allocated (w : Journal) (p : ℕ) (response : NssCmnResponse) (ifNum : ℕ) (made sent : Bool)
      (t : VirtTop) (hstep : VirtStep w.top (.allocated p response ifNum made sent) t)
      (h : IfHandle) (hheap : w.top.heap p = some h) :
      JournalStep w (.allocated p response ifNum made sent)
        { w with
          top := t
          called := w.called ++
            calledBy (w.stored p) (createAnswered p h response ifNum made sent w.top).1 t }
  | deallocated (w : Journal) (p ifNum : ℕ) (response : NssCmnResponse) (t : VirtTop)
      (hstep : VirtStep w.top (.deallocated p ifNum response) t) (h : IfHandle)
      (hheap : w.top.heap p = some h) :
      JournalStep w (.deallocated p ifNum response)
        { w with
          top := t
          called := w.called ++
            calledBy (w.stored p) (destroyAnswered p h ifNum response w.top).1 t }

structure JournalStart (w : Journal) : Prop where
  top : VirtStart w.top
  requests : w.requests = []
  called : w.called = []

/-- Everything that makes up the interface of the handle `p` is there. -/
def Created (s : VirtTop) (p : ℕ) : Prop :=
  ∃ h, s.heap p = some h ∧ s.table .virtIf h.ifNum = some p ∧
    (s.handlers h.ifNum).cb = VirtFamily.virtIf.msgHandler ∧ s.node h.ifNum = true ∧
      (s.dp h.ifNum).ndev ≠ 0 ∧ s.held h.ifNum = Pi.single h.ndev 1

def Destroyed (s : VirtTop) (p n : ℕ) : Prop :=
  s.heap p = none ∧ s.table .virtIf n = none ∧ (s.handlers n).cb = 0 ∧ s.node n = false ∧
    (s.dp n).ndev = 0 ∧ s.held n = 0

def Request.Complete (r : Request) (s : VirtTop) : Prop :=
  if r.creates = true then Created s r.handle else Destroyed s r.handle r.ifNum

/-- The callback of an accepted request is run once, or its message is on its way,
    and it is told of success exactly where the request is carried out. That of
    a request that returned an error is not run. -/
structure Answered (w : Journal) : Prop where
  own : ∀ v ∈ w.called, ∃ r, w.requests[v.request]? = some r ∧ r.accepted = true ∧
    v.run.cb = r.cb ∧ v.run.appData = r.appData
  once : (w.called.map Called.request).Nodup
  complete : ∀ v ∈ w.called, ∀ r, w.requests[v.request]? = some r →
    (v.run.response = .NSS_CMN_RESPONSE_ACK ↔ r.Complete v.top)
  every : ∀ id r, w.requests[id]? = some r → r.accepted = true → r.cb ≠ 0 →
    id ∈ w.called.map Called.request ∨
      ∃ m ∈ w.top.flight, m.handle = r.handle ∧ w.stored r.handle = id

/-- A create whose node is allocated registers its handler and sends its message,
    and a destroy is not called before the last request on its handle is answered. -/
def Orderly (s : VirtTop) : VirtCall → Prop
  | .destroy p _ _ _ _ => Quiet s p
  | .allocated _ response ifNum made _ => response = .NSS_CMN_RESPONSE_ACK →
      (s.handlers ifNum).cb = 0 ∧ made = true
  | _ => True

def Asks (s : VirtTop) (r : Request) : NodeRequest → Prop
  | .alloc _ => r.creates = true
  | .dealloc _ n => r.creates = false ∧ r.ifNum = n ∧ (s.dp n).ndev = 0

/-- The request of a message on its way, whose callback is in the handle. -/
def Pending (w : Journal) (m : NodeRequest) : Prop :=
  ∃ r h, w.requests[w.stored m.handle]? = some r ∧ w.top.heap m.handle = some h ∧
    r.accepted = true ∧ r.handle = m.handle ∧ r.cb = h.cb ∧ r.appData = h.appData ∧
      w.stored m.handle ∉ w.called.map Called.request ∧ Asks w.top r m

structure Kept (w : Journal) : Prop where
  linked : Linked w.top
  slot : ∀ n : ℕ, nssIsDynamicInterface n = true → if (w.top.dp n).ndev = 0 then w.top.held n = 0
    else w.top.held n = Pi.single (w.top.dp n).ndev 1
  ndev : ∀ p h, w.top.heap p = some h → h.ndev ≠ 0
  pending : ∀ m ∈ w.top.flight, Pending w m
  answered : Answered w

variable {w w' : Journal} {t : VirtTop} {r : Request} {m : NodeRequest} {h : IfHandle} {p n : ℕ}

theorem Pending.keep (hm : Pending w m)
    (hrequests : ∀ (id : ℕ) (r : Request), w.requests[id]? = some r → w'.requests[id]? = some r)
    (hstored : w'.stored m.handle = w.stored m.handle)
    (hheap : w'.top.heap m.handle = w.top.heap m.handle)
    (hcalled : w.stored m.handle ∉ w'.called.map Called.request)
    (hdp : ∀ q k, m = .dealloc q k → (w.top.dp k).ndev = 0 → (w'.top.dp k).ndev = 0) :
    Pending w' m := by
  obtain ⟨r, h, hr, hh, haccepted, hhandle, hcb, hdata, hnew, hasks⟩ := hm
  refine ⟨r, h, ?_, ?_, haccepted, hhandle, hcb, hdata, ?_, ?_⟩
  · rw [hstored]
    exact hrequests _ _ hr
  · rw [hheap]
    exact hh
  · rw [hstored]
    exact hcalled
  · cases m with
    | alloc q => exact hasks
    | dealloc q k => exact ⟨hasks.1, hasks.2.1, hdp q k rfl hasks.2.2⟩

theorem request_old {rs : List Request} {id : ℕ} {x : Request} (h : rs[id]? = some x) :
    (rs ++ [r])[id]? = some x := by
  obtain ⟨hlt, -⟩ := List.getElem?_eq_some_iff.mp h
  rw [List.getElem?_append_left hlt]
  exact h

namespace Answered

theorem lt (hw : Answered w) {v : Called} (hv : v ∈ w.called) : v.request < w.requests.length := by
  obtain ⟨r, hr, -⟩ := hw.own v hv
  exact (List.getElem?_eq_some_iff.mp hr).1

theorem request {stored : ℕ → ℕ} (hw : Answered w)
    (hflight : ∀ m ∈ w.top.flight, m ∈ t.flight ∧ stored m.handle = w.stored m.handle)
    (hnew : r.accepted = true → ∃ m ∈ t.flight, m.handle = r.handle ∧
      stored r.handle = w.requests.length) :
    Answered { w with top := t, requests := w.requests ++ [r], stored := stored } := by
  refine ⟨fun v hv => ?_, hw.once, fun v hv x hx => ?_, fun id x hx haccepted hcb => ?_⟩
  · obtain ⟨x, hx, hrest⟩ := hw.own v hv
    exact ⟨x, request_old hx, hrest⟩
  · have hx : (w.requests ++ [r])[v.request]? = some x := hx
    rw [List.getElem?_append_left (hw.lt hv)] at hx
    exact hw.complete v hv x hx
  · have hx : (w.requests ++ [r])[id]? = some x := hx
    by_cases hlt : id < w.requests.length
    · rw [List.getElem?_append_left hlt] at hx
      rcases hw.every id x hx haccepted hcb with hcalled | ⟨m, hm, hhandle, hid⟩
      · exact .inl hcalled
      · obtain ⟨hm', hsame⟩ := hflight m hm
        exact .inr ⟨m, hm', hhandle, (hhandle ▸ hsame).trans hid⟩
    · rw [List.getElem?_append_right (Nat.le_of_not_lt hlt)] at hx
      obtain ⟨hid, hx⟩ := List.getElem?_eq_some_iff.mp hx
      have hid : id - w.requests.length < 1 := hid
      obtain rfl : id = w.requests.length := by omega
      simp only [Nat.sub_self, List.getElem_cons_zero] at hx
      subst hx
      obtain ⟨m, hm, hhandle, hstored⟩ := hnew haccepted
      exact .inr ⟨m, hm, hhandle, hstored⟩

theorem answer {response : NssCmnResponse} (hw : Answered w) (hpending : Pending w m)
    (hheap : w.top.heap m.handle = some h)
    (hflight : ∀ m', m'.handle ≠ m.handle → m' ∈ w.top.flight → m' ∈ t.flight)
    (hcomplete : ∀ r, w.requests[w.stored m.handle]? = some r → r.handle = m.handle →
      Asks w.top r m → (response = .NSS_CMN_RESPONSE_ACK ↔ r.Complete t)) :
    Answered { w with
      top := t
      called := w.called ++ calledBy (w.stored m.handle) (h.callback response) t } := by
  obtain ⟨r, x, hr, hx, haccepted, hhandle, hcb, hdata, hnew, hasks⟩ := hpending
  obtain rfl := Option.some.inj (hx.symm.trans hheap)
  have hcalls : ∀ v ∈ calledBy (w.stored m.handle) (x.callback response) t,
      v = ⟨w.stored m.handle, ⟨x.cb, x.appData, response⟩, t⟩ := by
    intro v hv
    unfold calledBy IfHandle.callback at hv
    split at hv
    · cases hv
    · exact List.mem_singleton.mp hv
  refine ⟨fun v hv => ?_, ?_, fun v hv y hy => ?_, fun id y hy hacc hcb' => ?_⟩
  · rcases List.mem_append.mp hv with hold | hlast
    · exact hw.own v hold
    · rw [hcalls v hlast]
      exact ⟨r, hr, haccepted, hcb.symm, hdata.symm⟩
  · rw [List.map_append]
    refine List.nodup_append.mpr ⟨hw.once, ?_, ?_⟩
    · unfold calledBy IfHandle.callback
      split
      · exact .nil
      · exact List.pairwise_singleton _ _
    · rintro _ hold _ hlast rfl
      obtain ⟨v, hv, hid⟩ := List.mem_map.mp hlast
      rw [hcalls v hv] at hid
      have hid : w.stored m.handle = _ := hid
      rw [← hid] at hold
      exact hnew hold
  · rcases List.mem_append.mp hv with hold | hlast
    · exact hw.complete v hold y hy
    · rw [hcalls v hlast] at hy ⊢
      obtain rfl := Option.some.inj (hr.symm.trans hy)
      exact hcomplete r hr hhandle hasks
  · rcases hw.every id y hy hacc hcb' with hcalled | ⟨m', hm', hsame, hid⟩
    · rw [List.map_append]
      exact .inl (List.mem_append_left _ hcalled)
    · by_cases hmine : m'.handle = m.handle
      · have hidm : w.stored m.handle = id := (hmine.symm.trans hsame) ▸ hid
        subst hidm
        obtain rfl := Option.some.inj (hr.symm.trans hy)
        refine .inl (List.mem_map.mpr ⟨⟨w.stored m.handle, ⟨x.cb, x.appData, response⟩, t⟩,
          List.mem_append_right _ ?_, rfl⟩)
        unfold calledBy IfHandle.callback
        rw [if_neg (hcb ▸ hcb')]
        exact List.mem_singleton_self _
      · exact .inr ⟨m', hflight m' hmine hm', hsame, hid⟩

end Answered

theorem slot_update {s : VirtTop} {k : ℕ}
    (hs : ∀ n : ℕ, nssIsDynamicInterface n = true → if (s.dp n).ndev = 0 then s.held n = 0
      else s.held n = Pi.single (s.dp n).ndev 1)
    (hother : ∀ n, n ≠ k → t.dp n = s.dp n ∧ t.held n = s.held n)
    (hself : if (t.dp k).ndev = 0 then t.held k = 0 else t.held k = Pi.single (t.dp k).ndev 1) :
    ∀ n : ℕ, nssIsDynamicInterface n = true → if (t.dp n).ndev = 0 then t.held n = 0
      else t.held n = Pi.single (t.dp n).ndev 1 := by
  intro n hn
  by_cases hnk : n = k
  · subst hnk
    exact hself
  · obtain ⟨hdp, hheld⟩ := hother n hnk
    rw [hdp, hheld]
    exact hs n hn

theorem detach_slot {s : VirtTop} : ((s.detach n).dp n).ndev = 0 := by
  unfold VirtTop.detach VirtTop.addHeld
  dsimp only
  rw [Function.update_self]

theorem requests_new (hw : Answered w) :
    w.requests.length ∉ w.called.map Called.request := by
  intro hmem
  obtain ⟨v, hv, hid⟩ := List.mem_map.mp hmem
  exact absurd hid (hw.lt hv).ne

namespace Kept

theorem refused {stored : ℕ → ℕ} (hw : Kept w) (hlinked : Linked t)
    (hslot : ∀ n : ℕ, nssIsDynamicInterface n = true → if (t.dp n).ndev = 0 then t.held n = 0
      else t.held n = Pi.single (t.dp n).ndev 1)
    (hndev : ∀ p h, t.heap p = some h → h.ndev ≠ 0) (hflight : t.flight = w.top.flight)
    (hsame : ∀ m ∈ w.top.flight, stored m.handle = w.stored m.handle ∧
      t.heap m.handle = w.top.heap m.handle)
    (hdp : ∀ k, (w.top.dp k).ndev = 0 → (t.dp k).ndev = 0) (hr : r.accepted = false) :
    Kept { w with top := t, requests := w.requests ++ [r], stored := stored } := by
  refine ⟨hlinked, hslot, hndev, fun m hm => ?_, ?_⟩
  · have hm : m ∈ w.top.flight := hflight ▸ hm
    have hpending := hw.pending m hm
    obtain ⟨-, -, -, -, -, -, -, -, hnew, -⟩ := id hpending
    exact hpending.keep (fun _ _ hx => request_old hx) (hsame m hm).1 (hsame m hm).2 hnew
      fun _ k _ hk => hdp k hk
  · refine hw.answered.request (fun m hm => ⟨hflight ▸ hm, (hsame m hm).1⟩) fun haccepted => ?_
    cases hr.symm.trans haccepted

/-- A request that is accepted, with the message that it sends about its handle. -/
theorem accepted (hw : Kept w) (hlinked : Linked t)
    (hslot : ∀ n : ℕ, nssIsDynamicInterface n = true → if (t.dp n).ndev = 0 then t.held n = 0
      else t.held n = Pi.single (t.dp n).ndev 1)
    (hndev : ∀ p h, t.heap p = some h → h.ndev ≠ 0)
    (hflight : t.flight = w.top.flight ++ [m]) (hquiet : Quiet w.top m.handle)
    (hsame : ∀ q, q ≠ m.handle → t.heap q = w.top.heap q)
    (hdp : ∀ k, (w.top.dp k).ndev = 0 → (t.dp k).ndev = 0)
    (hheap : t.heap m.handle = some h) (hr : r.accepted = true) (hhandle : r.handle = m.handle)
    (hcb : r.cb = h.cb) (hdata : r.appData = h.appData) (hasks : Asks t r m) :
    Kept { w with
      top := t
      requests := w.requests ++ [r]
      stored := Function.update w.stored m.handle w.requests.length } := by
  have hlast : Function.update w.stored m.handle w.requests.length m.handle =
    w.requests.length := Function.update_self ..
  have hother : ∀ m' ∈ w.top.flight, Function.update w.stored m.handle w.requests.length
      m'.handle = w.stored m'.handle := fun m' hm' => Function.update_of_ne (hquiet m' hm') _ _
  refine ⟨hlinked, hslot, hndev, fun m' hm' => ?_, ?_⟩
  · have hm' : m' ∈ w.top.flight ++ [m] := hflight ▸ hm'
    rcases List.mem_append.mp hm' with hold | hnew
    · have hpending := hw.pending m' hold
      obtain ⟨-, -, -, -, -, -, -, -, hnew, -⟩ := id hpending
      exact hpending.keep (fun _ _ hx => request_old hx) (hother m' hold)
        (hsame _ (hquiet m' hold)) hnew fun _ k _ hk => hdp k hk
    · obtain rfl := List.mem_singleton.mp hnew
      refine ⟨r, h, ?_, hheap, hr, hhandle, hcb, hdata, ?_, hasks⟩
      · dsimp only
        rw [hlast]
        exact List.getElem?_concat_length
      · dsimp only
        rw [hlast]
        exact requests_new hw.answered
  · refine hw.answered.request (fun m' hm' => ?_) fun _ => ?_
    · exact ⟨hflight ▸ List.mem_append_left _ hm', hother m' hm'⟩
    · exact ⟨m, hflight ▸ List.mem_append_right _ (List.mem_singleton_self _), hhandle.symm,
        hhandle ▸ hlast⟩

theorem create {netdev cb appData : ℕ} {ready sent done : Bool} {memory : Option ℕ}
    (hw : Kept w) (hnetdev : netdev ≠ 0) (hmem : ∀ p, memory = some p → w.top.heap p = none)
    (hdone : done = true ↔
      (nssVirtIfCreate netdev cb appData ready memory sent w.top).1 = .success) :
    Kept { w with
      top := (nssVirtIfCreate netdev cb appData ready memory sent w.top).2
      requests := w.requests ++ [⟨true, memory.getD 0, 0, cb, appData, done⟩]
      stored := if done = true then Function.update w.stored (memory.getD 0) w.requests.length
        else w.stored } := by
  rcases create_cases netdev cb appData ready sent fun p hp =>
      ⟨hmem p hp, (hw.linked.fresh (hmem p hp)).1⟩ with ⟨hfailed, heq⟩ | ⟨p, rfl, heq⟩
  · have hdone : done = false := Bool.eq_false_iff.mpr fun h => hfailed (hdone.mp h)
    subst hdone
    rw [heq]
    exact hw.refused hw.linked hw.slot hw.ndev rfl (fun _ _ => ⟨rfl, rfl⟩) (fun _ hk => hk) rfl
  · have hdone : done = true := hdone.mpr (congrArg Prod.fst heq)
    subst hdone
    rw [heq, if_pos rfl]
    have hfree := hmem p rfl
    refine hw.accepted (m := .alloc p) (h := ⟨.virtIf, 0, netdev, cb, appData⟩)
      (hw.linked.request hfree rfl) hw.slot (fun q x hx => ?_) rfl (hw.linked.fresh hfree).2.2
      (fun q hq => Function.update_of_ne hq _ _) (fun _ hk => hk) (Function.update_self ..) rfl rfl
      rfl rfl rfl
    by_cases hqp : q = p
    · subst hqp
      cases (Function.update_self ..).symm.trans hx
      exact hnetdev
    · exact hw.ndev q x ((Function.update_of_ne hqp _ _).symm.trans hx)

theorem destroy {cb appData : ℕ} {ready sent done : Bool} (hw : Kept w)
    (hheap : w.top.heap p = some h) (hgiven : w.top.given p = true) (hfamily : h.family = .virtIf)
    (hquiet : Quiet w.top p) (hdone : done = true ↔
      (nssVirtIfDestroy p h cb appData ready sent w.top).1 = .success) :
    Kept { w with
      top := (nssVirtIfDestroy p h cb appData ready sent w.top).2
      requests := w.requests ++ [⟨false, p, h.ifNum, cb, appData, done⟩]
      stored := Function.update w.stored p w.requests.length } := by
  obtain ⟨x, hx, htable⟩ := hw.linked.placed p hgiven
  obtain rfl := Option.some.inj (hx.symm.trans hheap)
  rw [hfamily] at htable
  have hdynamic := (hw.linked.live _ _ p htable).1
  have hstored : Linked (w.top.setHeap p { x with cb := cb, appData := appData }) :=
    hw.linked.setHeap hx rfl rfl
  have hndev : ∀ q y, (w.top.setHeap p { x with cb := cb, appData := appData }).heap q = some y →
      y.ndev ≠ 0 := by
    intro q y hy
    by_cases hqp : q = p
    · subst hqp
      cases (Function.update_self ..).symm.trans hy
      exact hw.ndev q x hx
    · exact hw.ndev q y ((Function.update_of_ne hqp _ _).symm.trans hy)
  have hsame : ∀ m ∈ w.top.flight,
      Function.update w.stored p w.requests.length m.handle = w.stored m.handle ∧
        (w.top.setHeap p { x with cb := cb, appData := appData }).heap m.handle =
          w.top.heap m.handle := fun m hm =>
    ⟨Function.update_of_ne (hquiet m hm) _ _, Function.update_of_ne (hquiet m hm) _ _⟩
  rcases destroy_cases cb appData ready sent hdynamic with ⟨hfailed, heq⟩ | ⟨-, hslot, heq⟩
  · have hdone : done = false := Bool.eq_false_iff.mpr fun h => hfailed (hdone.mp h)
    rw [heq]
    exact hw.refused hstored hw.slot hndev rfl hsame (fun _ hk => hk) hdone
  · have hheld := hw.slot x.ifNum hdynamic
    rw [if_neg hslot] at hheld
    obtain ⟨hdetached, hzero⟩ := hstored.detach htable hheld
    have hslots := slot_update (k := x.ifNum)
      (t := (w.top.setHeap p { x with cb := cb, appData := appData }).detach x.ifNum) hw.slot
      (fun m hm => ⟨Function.update_of_ne hm _ _, Function.update_of_ne hm _ _⟩)
      ((if_pos detach_slot).mpr hzero)
    have hdp : ∀ k, (w.top.dp k).ndev = 0 →
        (((w.top.setHeap p { x with cb := cb, appData := appData }).detach x.ifNum).dp k).ndev =
          0 := by
      intro k hk
      by_cases hkn : k = x.ifNum
      · exact hkn ▸ detach_slot
      · exact (congrArg DpRegister.ndev (Function.update_of_ne hkn _ _)).trans hk
    cases sent with
    | false =>
      rw [if_neg nofun] at heq
      rw [heq] at hdone ⊢
      have hdone : done = false := Bool.eq_false_iff.mpr fun h => nomatch hdone.mp h
      exact hw.refused hdetached hslots hndev rfl hsame hdp hdone
    | true =>
      rw [if_pos rfl] at heq
      rw [heq] at hdone ⊢
      have hdone : done = true := hdone.mpr rfl
      exact hw.accepted (m := .dealloc p x.ifNum) (h := { x with cb := cb, appData := appData })
        (hdetached.unhandled.send htable hzero clearHandler_cb hquiet) hslots hndev rfl hquiet
        (fun q hq => Function.update_of_ne hq _ _) hdp (Function.update_self ..) hdone rfl rfl rfl
        ⟨rfl, rfl, detach_slot⟩

theorem answer {response : NssCmnResponse} (hw : Kept w) (hm : m ∈ w.top.flight)
    (hlinked : Linked t)
    (hslot : ∀ n : ℕ, nssIsDynamicInterface n = true → if (t.dp n).ndev = 0 then t.held n = 0
      else t.held n = Pi.single (t.dp n).ndev 1)
    (hndev : ∀ p h, t.heap p = some h → h.ndev ≠ 0)
    (hflight : t.flight = w.top.flight.erase m)
    (hsame : ∀ q, q ≠ m.handle → t.heap q = w.top.heap q)
    (hdp : ∀ q k, .dealloc q k ∈ t.flight → (w.top.dp k).ndev = 0 → (t.dp k).ndev = 0)
    (hheap : w.top.heap m.handle = some h)
    (hcomplete : ∀ r, r.handle = m.handle → Asks w.top r m →
      (response = .NSS_CMN_RESPONSE_ACK ↔ r.Complete t)) :
    Kept { w with
      top := t
      called := w.called ++ calledBy (w.stored m.handle) (h.callback response) t } := by
  have hmine := hw.pending m hm
  refine ⟨hlinked, hslot, hndev, fun m' hm' => ?_, ?_⟩
  · have hm' : m' ∈ w.top.flight.erase m := hflight ▸ hm'
    have hother : m'.handle ≠ m.handle := hw.linked.erase_quiet hm m' hm'
    have hpending := hw.pending m' (List.mem_of_mem_erase hm')
    obtain ⟨r', -, hr', -, -, hhandle', -, -, hnew, -⟩ := id hpending
    obtain ⟨r, -, hr, -, -, hhandle, -⟩ := hmine
    refine hpending.keep (fun _ _ hx => hx) rfl (hsame _ hother) ?_ fun q k hqk hk => ?_
    · rw [List.map_append, List.mem_append]
      rintro (hold | hlast)
      · exact hnew hold
      · obtain ⟨v, hv, hid⟩ := List.mem_map.mp hlast
        obtain ⟨y, -, rfl⟩ := List.mem_map.mp hv
        have hid : w.stored m.handle = w.stored m'.handle := hid
        rw [hid] at hr
        obtain rfl := Option.some.inj (hr.symm.trans hr')
        exact hother (hhandle'.symm.trans hhandle)
    · exact hdp q k (hflight ▸ hqk ▸ hm') hk
  · refine hw.answered.answer hmine hheap (fun m' hne hm' => ?_) fun r _ hhandle hasks =>
      hcomplete r hhandle hasks
    rw [hflight]
    exact (List.mem_erase_of_ne fun hsame => hne (congrArg NodeRequest.handle hsame)).mpr hm'

theorem allocated {response : NssCmnResponse} {ifNum : ℕ} {made sent : Bool} (hw : Kept w)
    (hheap : w.top.heap p = some h) (hm : .alloc p ∈ w.top.flight)
    (hnode : response = .NSS_CMN_RESPONSE_ACK →
      w.top.node ifNum = false ∧ nssIsDynamicInterface ifNum = true)
    (hok : response = .NSS_CMN_RESPONSE_ACK → (w.top.handlers ifNum).cb = 0 ∧ made = true) :
    Kept { w with
      top := (createAnswered p h response ifNum made sent w.top).2
      called := w.called ++
        calledBy (w.stored p) (createAnswered p h response ifNum made sent w.top).1
          (createAnswered p h response ifNum made sent w.top).2 } := by
  obtain ⟨⟨x, hx, hvirt⟩, hgiven, hno⟩ := hw.linked.alloc p hm
  obtain rfl := Option.some.inj (hx.symm.trans hheap)
  have hquiet := hw.linked.erase_quiet hm
  rw [createAnswered_cases fun hresponse =>
    ⟨(hok hresponse).2, (hnode hresponse).2, (hok hresponse).1⟩]
  by_cases hresponse : response = .NSS_CMN_RESPONSE_ACK
  · obtain ⟨hfree, hdynamic⟩ := hnode hresponse
    have hzero : w.top.held ifNum = 0 := hw.linked.free ifNum hfree
    have hslot : (w.top.dp ifNum).ndev = 0 := by
      by_contra hndev
      have hheld := hw.slot ifNum hdynamic
      rw [if_neg hndev, hzero] at hheld
      have hone := congrFun hheld (w.top.dp ifNum).ndev
      rw [Pi.single_eq_same] at hone
      cases hone
    set s := { w.top with flight := w.top.flight.erase (.alloc p) } with hs
    set t := enterIf .virtIf ifNum p { x with ifNum := ifNum } x.ndev s with ht
    have hlinked : Linked t := hw.linked.erase.created hfree hdynamic hno hquiet hgiven hvirt rfl
    obtain ⟨hentered, hother⟩ : (t.dp ifNum).ndev = x.ndev ∧ ∀ m, m ≠ ifNum → t.dp m = s.dp m :=
      enterIf_dp hslot
    have hheld : t.held ifNum = Pi.single x.ndev 1 := held_created hzero
    have hndev := hw.ndev p x hx
    have key : ∀ u : VirtTop, Linked u → u.heap = t.heap → u.table = t.table →
        u.handlers = t.handlers → u.node = t.node → u.dp = t.dp → u.held = t.held →
        u.flight = t.flight → Kept { w with
          top := u
          called := w.called ++ calledBy (w.stored p) (x.callback response) u } := by
      intro u hu hheap' htable' hhandlers' hnode' hdp' hheld' hflight'
      have hself : t.node ifNum = true ∧ t.handlers ifNum = _ ∧ t.table .virtIf ifNum = some p :=
        enterIf_self x.ndev
      obtain ⟨hnode'', hhandlers'', htable''⟩ := hself
      have hheap : u.heap = Function.update w.top.heap p (some { x with ifNum := ifNum }) :=
        hheap'.trans (enterIf_heap x.ndev)
      have hflight : u.flight = w.top.flight.erase (.alloc p) := hflight'.trans attach_flight
      have hnew : (u.dp ifNum).ndev = x.ndev := by
        rw [hdp']
        exact hentered
      refine hw.answer (m := .alloc p) hm hu ?_ ?_ hflight ?_ ?_ hx ?_
      · refine slot_update (k := ifNum) hw.slot (fun m hmn => ⟨?_, ?_⟩) ?_
        · rw [hdp']
          exact hother m hmn
        · rw [hheld']
          exact (enterIf_other (g := .virtIf) x.ndev hmn).2.2.1
        · rw [hnew, if_neg hndev, hheld']
          exact hheld
      · intro q y hy
        rw [hheap] at hy
        by_cases hqp : q = p
        · subst hqp
          cases (Function.update_self ..).symm.trans hy
          exact hndev
        · exact hw.ndev q y ((Function.update_of_ne hqp _ _).symm.trans hy)
      · intro q hq
        rw [hheap]
        exact Function.update_of_ne hq _ _
      · intro q k hqk hk
        have hold := List.mem_of_mem_erase (hflight ▸ hqk)
        have hkn : k ≠ ifNum := by
          rintro rfl
          cases (hw.linked.unplaced hfree).symm.trans (hw.linked.dealloc q k hold).1
        rw [hdp', hother k hkn]
        exact hk
      · intro r hhandle hasks
        replace hasks : r.creates = true := hasks
        refine iff_of_true hresponse ?_
        unfold Request.Complete
        rw [if_pos hasks, show r.handle = p from hhandle]
        refine ⟨{ x with ifNum := ifNum }, ?_, ?_, ?_, ?_, ?_, ?_⟩
        · rw [hheap]
          exact Function.update_self ..
        · rw [htable']
          exact htable''
        · rw [hhandlers']
          exact congrArg RxHandler.cb hhandlers''
        · rw [hnode']
          exact hnode''
        · exact hnew.symm ▸ hndev
        · rw [hheld']
          exact hheld
    rw [if_pos hresponse]
    by_cases hcb : x.cb = 0
    · simp only [if_pos hcb]
      exact key t hlinked rfl rfl rfl rfl rfl rfl rfl
    · simp only [if_neg hcb]
      exact key (t.give p) (hlinked.given_create hvirt rfl) rfl rfl rfl rfl rfl rfl rfl
  · rw [if_neg hresponse]
    refine hw.answer (m := .alloc p) hm (hw.linked.erase.kfree hno hquiet) hw.slot
      (fun q y hy => ?_) rfl (fun q hq => Function.update_of_ne hq _ _) (fun _ _ _ hk => hk) hx
      fun r hhandle hasks => ?_
    · by_cases hqp : q = p
      · subst hqp
        cases (Function.update_self ..).symm.trans hy
      · exact hw.ndev q y ((Function.update_of_ne hqp _ _).symm.trans hy)
    · replace hasks : r.creates = true := hasks
      refine iff_of_false hresponse ?_
      unfold Request.Complete
      rw [if_pos hasks, show r.handle = p from hhandle]
      rintro ⟨y, hy, -⟩
      cases (Function.update_self ..).symm.trans hy

theorem deallocated {response : NssCmnResponse} (hw : Kept w)
    (hheap : w.top.heap p = some h) (hm : .dealloc p n ∈ w.top.flight) :
    Kept { w with
      top := (destroyAnswered p h n response w.top).2
      called := w.called ++
        calledBy (w.stored p) (destroyAnswered p h n response w.top).1
          (destroyAnswered p h n response w.top).2 } := by
  obtain ⟨htable, hzero, hcb⟩ := hw.linked.dealloc p n hm
  obtain ⟨hdynamic, -, x, hx, -, hnum⟩ := hw.linked.live _ _ p htable
  obtain rfl := Option.some.inj (hx.symm.trans hheap)
  have hquiet := hw.linked.erase_quiet hm
  rw [destroyAnswered_cases hnum]
  by_cases hresponse : response = .NSS_CMN_RESPONSE_ACK
  · rw [if_pos hresponse]
    refine hw.answer (m := .dealloc p n) hm (hw.linked.erase.destroyed htable hzero hquiet) hw.slot
      (fun q y hy => ?_) rfl (fun q hq => Function.update_of_ne hq _ _) (fun _ _ _ hk => hk) hx
      fun r hhandle hasks => iff_of_true hresponse ?_
    · by_cases hqp : q = p
      · subst hqp
        cases (Function.update_self ..).symm.trans hy
      · exact hw.ndev q y ((Function.update_of_ne hqp _ _).symm.trans hy)
    · obtain ⟨hcreates, hr, hslot⟩ := hasks
      unfold Request.Complete
      rw [if_neg (by rw [hcreates]; nofun), show r.handle = p from hhandle, hr]
      exact ⟨Function.update_self .., removeIf_self, hcb, setNode_self, hslot, hzero⟩
  · rw [if_neg hresponse]
    refine hw.answer (m := .dealloc p n) hm hw.linked.erase hw.slot hw.ndev rfl (fun _ _ => rfl)
      (fun _ _ _ hk => hk) hx fun r hhandle hasks => iff_of_false hresponse ?_
    unfold Request.Complete
    rw [if_neg (by rw [hasks.1]; nofun), show r.handle = p from hhandle]
    rintro ⟨hgone, -⟩
    cases hx.symm.trans hgone

theorem step {l : VirtCall} (hw : Kept w) (hstep : JournalStep w l w') (hok : Orderly w.top l) :
    Kept w' := by
  cases hstep with
  | create netdev cb appData ready memory sent t hstep accepted haccepted =>
    cases hstep with
    | create netdev cb appData ready memory sent hnetdev hmem =>
      exact hw.create hnetdev hmem haccepted
  | destroy p cb appData ready sent t hstep h hheap accepted haccepted =>
    cases hstep with
    | destroy p cb appData ready sent x hx hgiven hfamily =>
      obtain rfl := Option.some.inj (hheap.symm.trans hx)
      exact hw.destroy hheap hgiven hfamily hok haccepted
  | allocated p response ifNum made sent t hstep h hheap =>
    cases hstep with
    | allocated p response ifNum made sent x hx hflight hnode =>
      obtain rfl := Option.some.inj (hheap.symm.trans hx)
      exact hw.allocated hheap hflight hnode hok
  | deallocated p n response t hstep h hheap =>
    cases hstep with
    | deallocated p n response x hx hflight =>
      obtain rfl := Option.some.inj (hheap.symm.trans hx)
      exact hw.deallocated hheap hflight

end Kept

theorem JournalStart.kept (hw : JournalStart w) : Kept w := by
  refine ⟨linked_start hw.top, fun n hn => ?_, fun p h hp => ?_, fun m hm => ?_, ?_, ?_, ?_,
    fun id r hr => ?_⟩
  · rw [if_pos (hw.top.dp n hn)]
    exact hw.top.held n
  · cases (hw.top.heap p).symm.trans hp
  · rw [hw.top.flight] at hm
    cases hm
  · rw [hw.called]
    exact nofun
  · rw [hw.called]
    exact .nil
  · rw [hw.called]
    exact nofun
  · rw [hw.requests] at hr
    cases hr

/-- In a run of such steps each request is answered to its own callback, once. -/
theorem requests_answered
    (h : Reachable JournalStart (Guarded JournalStep fun w => Orderly w.top) w) :
    Answered w := by
  have hw : Kept w := by
    refine h.invariant Kept (fun w hw => hw.kept) fun w l w' hw ⟨hstep, hok⟩ => ?_
    exact hw.step hstep hok
  exact hw.answered

def idle : Journal := ⟨blank, [], fun _ => 0, []⟩

def asked : Journal where
  top := (nssVirtIfCreate 7 3 5 true (some 1) true blank).2
  requests := [⟨true, 1, 0, 3, 5, true⟩]
  stored := Function.update (fun _ => 0) 1 0
  called := []

def askedHandle : IfHandle := ⟨.virtIf, 0, 7, 3, 5⟩

theorem idle_asked : JournalStep idle (.create 7 3 5 true (some 1) true) asked :=
  .create idle 7 3 5 true (some 1) true _
    (.create blank 7 3 5 true (some 1) true (by decide) fun _ _ => rfl) true ⟨fun _ => rfl, fun _ =>
      rfl⟩

theorem idle_start : JournalStart idle := ⟨blank_start, rfl, rfl⟩

/-- The firmware allocates the node 24, and the create message is sent or not. -/
def allocatedTo (made : Bool) : Journal where
  top := (createAnswered 1 askedHandle .NSS_CMN_RESPONSE_ACK 24 made true asked.top).2
  requests := asked.requests
  stored := asked.stored
  called := calledBy 0 (createAnswered 1 askedHandle .NSS_CMN_RESPONSE_ACK 24 made true asked.top).1
    (createAnswered 1 askedHandle .NSS_CMN_RESPONSE_ACK 24 made true asked.top).2

theorem asked_allocated (made : Bool) :
    JournalStep asked (.allocated 1 .NSS_CMN_RESPONSE_ACK 24 made true) (allocatedTo made) :=
  .allocated asked 1 .NSS_CMN_RESPONSE_ACK 24 made true _
    (.allocated asked.top 1 .NSS_CMN_RESPONSE_ACK 24 made true askedHandle rfl
      (List.mem_singleton_self _) fun _ => ⟨rfl, rfl⟩) askedHandle rfl

theorem requests_answered_once : Answered (allocatedTo true) :=
  requests_answered (((Reachable.start idle_start).next ⟨idle_asked, trivial⟩).next
    ⟨asked_allocated true, fun _ => ⟨rfl, rfl⟩⟩)

/-- The create message is not sent: its callback runs with the acknowledgement of
    the node, and again for the node's deallocation. -/
theorem callback_twice : ¬ ∀ w, Reachable JournalStart JournalStep w → Answered w := by
  intro hall
  have hdestroy : VirtStep (allocatedTo false).top (.deallocated 1 24 .NSS_CMN_RESPONSE_ACK) _ :=
    .deallocated (allocatedTo false).top 1 24 .NSS_CMN_RESPONSE_ACK ⟨.virtIf, 24, 7, 3, 5⟩ rfl
      (List.mem_singleton_self _)
  have hreach := (((Reachable.start idle_start).next idle_asked).next
    (asked_allocated false)).next (.deallocated _ 1 24 .NSS_CMN_RESPONSE_ACK _ hdestroy
      ⟨.virtIf, 24, 7, 3, 5⟩ rfl)
  have honce := (hall _ hreach).once
  revert honce
  decide

end NssDrv.VirtualCallbacks

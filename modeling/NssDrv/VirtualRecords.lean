import NssDrv.TransitionRuns
import NssDrv.VirtualLinks

set_option autoImplicit false

/-!
# The four records of a virtual interface

Its handle in the table, its message handler, its firmware node and the
reference on its device.
-/
namespace NssDrv.VirtualRecords
open TransitionRuns HlosInterface InterfaceTables TransmitApi CommonMessage VirtualInterfaces
open VirtualLinks
open DynamicInterface (nssIsDynamicInterface)

variable {s t : VirtTop} {f : VirtFamily} {n p : ℕ} {h : IfHandle}

/-- The slot of the interface has a device, the one that its create has held. -/
def Attached (s : VirtTop) (h : IfHandle) : Prop :=
  (s.dp h.ifNum).ndev ≠ 0 ∧ s.held h.ifNum = Pi.single (s.dp h.ifNum).ndev 1

def Leaving (s : VirtTop) (p : ℕ) : Prop := ∃ n, .dealloc p n ∈ s.flight

/-- What keeps the records together: responses come in time, a create that has its
    node gets its memory and its acknowledgement or its node is freed again, and
    a destroy finds the interface attached, unless one is already under way and
    the slot is empty. One that is carried out is not of `nss_wifi_if`, and it is
    acknowledged. -/
def Smooth (s : VirtTop) : VirtCall → Prop
  | .createSync _ env _ => env.ready = true → env.alloc.ret = env.alloc.taken ∧
      (env.alloc.ret.isSome →
        if env.memory.isSome then env.acked = true else env.dealloc.freed = true)
  | .destroySync f p ready answer => ∀ h, s.heap p = some h →
      Leaving s p ∧ (s.dp h.ifNum).ndev = 0 ∨
        Attached s h ∧ (ready = true → f ≠ .wifiIf ∧ answer.success = true ∧ answer.freed = true)
  | .destroy p _ _ ready sent => ∀ h, s.heap p = some h →
      Leaving s p ∧ (s.dp h.ifNum).ndev = 0 ∨ Attached s h ∧ (ready = true → sent = true)
  | .allocated _ response _ created _ => response = .NSS_CMN_RESPONSE_ACK → created = true
  | .deallocated _ _ response => response = .NSS_CMN_RESPONSE_ACK
  | _ => True

theorem createSync_made {env : CreateEnv} {netdev : ℕ} (hready : env.ready = true)
    (hret : env.alloc.ret = some n) (htaken : env.alloc.taken = some n)
    (hmem : env.memory = some p) (hacked : env.acked = true)
    (hdynamic : nssIsDynamicInterface n = true) (hfree : (s.handlers n).cb = 0) :
    createSync f env netdev s = (some p, (enterIf f n p ⟨f, n, 0, 0, 0⟩ netdev s).give p) := by
  have hregister := register_free (s := (((s.setNode n true).setHeap p
    ⟨f, n, 0, 0, 0⟩).setHandle f n (some p))) f.msgHandler hdynamic hfree
  unfold createSync
  rw [if_neg (by rw [hready]; nofun), hret, htaken, hmem]
  dsimp only [Option.elim_some]
  rw [hregister]
  dsimp only
  rw [if_neg (by rw [hacked]; nofun)]
  rfl

theorem createSync_cases {env : CreateEnv} {netdev : ℕ}
    (hnode : ∀ n, env.alloc.taken = some n →
      s.node n = false ∧ nssIsDynamicInterface n = true)
    (hfree : ∀ n : ℕ, nssIsDynamicInterface n = true → s.node n = false →
      (s.handlers n).cb = 0)
    (hok : Smooth s (.createSync f env netdev)) :
    createSync f env netdev s = (none, s) ∨ ∃ n p, env.handle = some p ∧ s.node n = false ∧
      nssIsDynamicInterface n = true ∧ createSync f env netdev s =
        (some p, (enterIf f n p ⟨f, n, 0, 0, 0⟩ netdev s).give p) := by
  cases hready : env.ready with
  | false =>
    unfold createSync
    rw [if_pos hready]
    exact .inl rfl
  | true =>
    obtain ⟨hret, hwhole⟩ := hok hready
    cases htaken : env.alloc.taken with
    | none =>
      unfold createSync
      rw [if_neg (by rw [hready]; nofun), hret, htaken]
      exact .inl rfl
    | some n =>
      rw [hret, htaken] at hwhole
      obtain ⟨hn, hdynamic⟩ := hnode n htaken
      have hwhole := hwhole rfl
      cases hmem : env.memory with
      | none =>
        rw [hmem] at hwhole
        have hfreed : env.dealloc.freed = true := hwhole
        have hback : ((s.setNode n true).nssDynamicInterfaceDeallocNode n env.dealloc).2 = s := by
          unfold VirtTop.nssDynamicInterfaceDeallocNode VirtTop.setNode
          rw [if_neg (by rw [hdynamic]; nofun), if_pos hfreed]
          dsimp only
          rw [Function.update_idem, ← hn, Function.update_eq_self]
        unfold createSync
        rw [if_neg (by rw [hready]; nofun), hret, htaken, hmem]
        exact .inl (congrArg (none, ·) hback)
      | some p =>
        rw [hmem] at hwhole
        have hacked : env.acked = true := hwhole
        have hhandle : env.handle = some p := by
          unfold CreateEnv.memory at hmem
          split at hmem
          · exact hmem
          · cases hmem
        refine .inr ⟨n, p, hhandle, hn, hdynamic, ?_⟩
        exact createSync_made hready (hret.trans htaken) htaken hmem hacked hdynamic
          (hfree n hdynamic hn)

theorem destroy_unattached {answer : DeallocAnswer} (hndev : (s.dp h.ifNum).ndev = 0) :
    f.destroy p h answer s true = (.refused .failureBadParam, s) := by
  have hsync : ∀ g, destroySync p h answer s g true = (.refused .failureBadParam, s) := by
    intro g
    unfold destroySync
    rw [if_neg nofun, if_pos hndev]
  cases f with
  | virtIf => exact hsync .virtIf
  | wifiIf =>
    change nssWifiIfDestroy p h answer s true = _
    unfold nssWifiIfDestroy
    rw [if_neg nofun, if_pos hndev]
  | txRxVirtIf => exact hsync .txRxVirtIf

theorem handleDestroy_acked {answer : DeallocAnswer}
    (hdynamic : nssIsDynamicInterface h.ifNum = true) (hf : f ≠ .wifiIf)
    (hsuccess : answer.success = true) (hfreed : answer.freed = true) :
    f.handleDestroy p h answer s = (true, removeIf f h.ifNum p s) := by
  have hsync : handleDestroySync p h answer s f = (true, removeIf f h.ifNum p s) := by
    unfold handleDestroySync VirtTop.nssDynamicInterfaceDeallocNode
    rw [if_neg (by rw [hdynamic]; nofun), if_pos hfreed, hsuccess]
    rfl
  cases f with
  | virtIf => exact hsync
  | wifiIf => exact absurd rfl hf
  | txRxVirtIf => exact hsync

theorem destroySync_cases {ready : Bool} {answer : DeallocAnswer} (hp : s.heap p = some h)
    (hdynamic : nssIsDynamicInterface h.ifNum = true)
    (hok : Smooth s (.destroySync f p ready answer)) :
    ((f.destroy p h answer s ready).1 ≠ .success ∧ (f.destroy p h answer s ready).2 = s) ∨
      (s.held h.ifNum = Pi.single (s.dp h.ifNum).ndev 1 ∧ f.destroy p h answer s ready =
        (.success, clearHandler h.ifNum (removeIf f h.ifNum p (s.detach h.ifNum)))) := by
  cases hready : ready with
  | false =>
    refine .inl ?_
    cases f <;> exact ⟨nofun, rfl⟩
  | true =>
    rcases hok h hp with ⟨-, hndev⟩ | ⟨⟨hndev, hheld⟩, hanswer⟩
    · rw [destroy_unattached hndev]
      exact .inl ⟨nofun, rfl⟩
    · obtain ⟨hf, hsuccess, hfreed⟩ := hanswer hready
      refine .inr ⟨hheld, ?_⟩
      have hsync : destroySync p h answer s f true =
          (.success, clearHandler h.ifNum (removeIf f h.ifNum p (s.detach h.ifNum))) := by
        unfold destroySync
        rw [if_neg nofun, if_neg hndev, handleDestroy_acked hdynamic hf hsuccess hfreed]
        exact unregisterAfter_dynamic hdynamic
      cases f with
      | virtIf => exact hsync
      | wifiIf => exact absurd rfl hf
      | txRxVirtIf => exact hsync

theorem destroy_answered (hndev : (s.dp h.ifNum).ndev ≠ 0)
    (hdynamic : nssIsDynamicInterface h.ifNum = true) :
    (f.destroy p h ⟨true, true⟩ s true).1 = .success := by
  have hsync : ∀ g, g ≠ .wifiIf → (destroySync p h ⟨true, true⟩ s g true).1 = .success := by
    intro g hg
    unfold destroySync
    rw [if_neg nofun, if_neg hndev, handleDestroy_acked hdynamic hg rfl rfl]
    exact congrArg Prod.fst (unregisterAfter_dynamic hdynamic)
  cases f with
  | virtIf => exact hsync .virtIf nofun
  | wifiIf =>
    change (nssWifiIfDestroy p h ⟨true, true⟩ s true).1 = _
    unfold nssWifiIfDestroy nssWifiIfHandleDestroy VirtTop.nssDynamicInterfaceDeallocNode
    rw [if_neg nofun, if_neg hndev, hdynamic]
    rfl
  | txRxVirtIf => exact hsync .txRxVirtIf nofun

theorem destroy_sent (cb appData : ℕ) (hndev : (s.dp h.ifNum).ndev ≠ 0)
    (hdynamic : nssIsDynamicInterface h.ifNum = true) :
    (nssVirtIfDestroy p h cb appData true true s).1 = .success := by
  have hslot : ¬ ((s.setHeap p { h with cb := cb, appData := appData }).dp h.ifNum).ndev = 0 := hndev
  unfold nssVirtIfDestroy
  dsimp only
  rw [if_neg nofun, if_neg hslot]
  exact congrArg Prod.fst (unregisterAfter_dynamic hdynamic)

/-- Every interface has its handler and its reference, or is on its way out. -/
structure Whole (s : VirtTop) : Prop where
  linked : Linked s
  handler : ∀ n : ℕ, nssIsDynamicInterface n = true → s.node n = false → (s.handlers n).cb = 0
  phase : ∀ f n p, s.table f n = some p →
    ((s.handlers n).cb ≠ 0 ∧ ∃ d, s.held n = Pi.single d 1) ∨ .dealloc p n ∈ s.flight

theorem msgHandler_pos (f : VirtFamily) : f.msgHandler ≠ 0 := by cases f <;> decide

namespace Whole

theorem created {netdev : ℕ} (hs : Whole s) (hn : s.node n = false)
    (hdynamic : nssIsDynamicInterface n = true) (hp : ∀ f n, s.table f n ≠ some p)
    (hquiet : Quiet s p) (hgiven : s.given p = false) (hfamily : h.family = f)
    (hnum : h.ifNum = n) : Whole (enterIf f n p h netdev s) := by
  have hlinked : Linked (enterIf f n p h netdev s) :=
    hs.linked.created hn hdynamic hp hquiet hgiven hfamily hnum
  obtain ⟨hnode, hhandler, -⟩ := enterIf_self (s := s) (f := f) (n := n) (p := p) (h := h) netdev
  refine ⟨hlinked, fun m hm hfree => ?_, fun g m q hq => ?_⟩
  · have hmn : m ≠ n := by
      rintro rfl
      cases hnode.symm.trans hfree
    obtain ⟨hnode', hhandler', -⟩ := enterIf_other (s := s) (f := f) (g := f) (p := p) (h := h)
      netdev hmn
    rw [hhandler']
    exact hs.handler m hm (hnode' ▸ hfree)
  · by_cases hmn : m = n
    · subst hmn
      refine .inl ⟨?_, netdev, held_created (hs.linked.free m hn)⟩
      rw [hhandler]
      exact msgHandler_pos f
    · obtain ⟨-, hhandler', hheld', htable'⟩ := enterIf_other (s := s) (f := f) (g := g) (p := p)
        (h := h) netdev hmn
      have hflight : (enterIf f n p h netdev s).flight = s.flight := attach_flight
      rw [hhandler', hheld', hflight]
      exact hs.phase g m q (htable' ▸ hq)

/-- Only the slots, the callbacks and the handles that callers have are changed. -/
theorem frame (hs : Whole s) (ht : Linked t) (hnode : t.node = s.node)
    (hhandlers : t.handlers = s.handlers) (htable : t.table = s.table) (hheld : t.held = s.held)
    (hflight : ∀ p n, .dealloc p n ∈ s.flight → .dealloc p n ∈ t.flight) : Whole t := by
  refine ⟨ht, fun n hn hfree => ?_, fun f n p hp => ?_⟩
  · rw [hhandlers]
    exact hs.handler n hn (hnode ▸ hfree)
  · rw [hhandlers, hheld]
    exact (hs.phase f n p (htable ▸ hp)).imp_right (hflight p n)

theorem leave (hs : Whole s) (hp : s.table .virtIf n = some p) (hquiet : Quiet s p)
    (hheld : s.held n = Pi.single (s.dp n).ndev 1) :
    Whole (clearHandler n { s.detach n with flight := s.flight ++ [.dealloc p n] }) := by
  obtain ⟨hdetached, hzero⟩ := hs.linked.detach hp hheld
  have hcleared : ((clearHandler n (s.detach n)).handlers n).cb = 0 := clearHandler_cb
  have hlinked : Linked (clearHandler n { s.detach n with flight := s.flight ++ [.dealloc p n] }) :=
    hdetached.unhandled.send (n := n) hp hzero hcleared hquiet
  have hother : ∀ m, m ≠ n → Function.update s.handlers n ⟨0, 0⟩ m = s.handlers m := fun m hm =>
    Function.update_of_ne hm _ _
  refine ⟨hlinked, fun m hm hfree => ?_, fun g m q hq => ?_⟩
  · change (Function.update s.handlers n ⟨0, 0⟩ m).cb = 0
    by_cases hmn : m = n
    · subst hmn
      exact hcleared
    · rw [hother m hmn]
      exact hs.handler m hm hfree
  · by_cases hmn : m = n
    · subst hmn
      obtain rfl := hs.linked.only _ _ m p q hp hq
      obtain rfl := Option.some.inj (hp.symm.trans hq)
      exact .inr (List.mem_append_right _ (List.mem_singleton_self _))
    · rcases hs.phase g m q hq with ⟨hhandler, d, hd⟩ | hleaving
      · refine .inl ⟨?_, d, ?_⟩
        · change (Function.update s.handlers n ⟨0, 0⟩ m).cb ≠ 0
          rw [hother m hmn]
          exact hhandler
        · exact (Function.update_of_ne hmn _ _).trans hd
      · exact .inr (List.mem_append_left _ hleaving)

theorem destroyed {u : VirtTop} (hs : Whole s) (hp : s.table f n = some p) (hu : Linked u)
    (hzero : u.held n = 0) (hcb : (u.handlers n).cb = 0) (hquiet : Quiet u p)
    (htable : u.table = s.table) (hnode : u.node = s.node)
    (hhandlers : ∀ m, m ≠ n → u.handlers m = s.handlers m)
    (hheld : ∀ m, m ≠ n → u.held m = s.held m)
    (hflight : ∀ q m, m ≠ n → .dealloc q m ∈ s.flight → .dealloc q m ∈ u.flight) :
    Whole (removeIf f n p u) := by
  have hlinked := hu.destroyed (htable ▸ hp) hzero hquiet
  refine ⟨hlinked, fun m hm hfree => ?_, fun g m q hq => ?_⟩
  · by_cases hmn : m = n
    · subst hmn
      exact hcb
    · have hfree : u.node m = false := (setNode_other hmn).symm.trans hfree
      change (u.handlers m).cb = 0
      rw [hhandlers m hmn]
      exact hs.handler m hm (hnode ▸ hfree)
  · obtain ⟨hold, hplace⟩ := removeIf_table hq
    rw [htable] at hold
    have hmn : m ≠ n := by
      rintro rfl
      exact hplace ⟨hs.linked.only _ _ m q p hold hp, rfl⟩
    change ((u.handlers m).cb ≠ 0 ∧ ∃ d, u.held m = _) ∨ _ ∈ u.flight
    rw [hhandlers m hmn, hheld m hmn]
    exact (hs.phase g m q hold).imp_right (hflight q m hmn)

theorem quiet_held (hs : Whole s) (hgiven : s.given p = true) (hp : s.table f n = some p) {d : ℕ}
    (hheld : s.held n = Pi.single d 1) : Quiet s p := by
  refine hs.linked.quiet hgiven hp fun hnone => ?_
  have hone := congrFun (hheld.symm.trans hnone) d
  rw [Pi.single_eq_same] at hone
  cases hone

theorem createSync {env : CreateEnv} {netdev : ℕ} (hs : Whole s)
    (hmem : ∀ p, env.handle = some p → s.heap p = none)
    (hnode : ∀ n, env.alloc.taken = some n → s.node n = false ∧ nssIsDynamicInterface n = true)
    (hok : Smooth s (.createSync f env netdev)) :
    Whole (VirtualInterfaces.createSync f env netdev s).2 := by
  rcases createSync_cases hnode hs.handler hok with heq | ⟨n, p, hhandle, hn, hdynamic, heq⟩
  · rw [heq]
    exact hs
  · rw [heq]
    obtain ⟨hgiven, hno, hquiet⟩ := hs.linked.fresh (hmem p hhandle)
    have hnew : Whole (enterIf f n p ⟨f, n, 0, 0, 0⟩ netdev s) :=
      hs.created hn hdynamic hno hquiet hgiven rfl rfl
    exact hnew.frame (hnew.linked.given_create rfl rfl) rfl rfl rfl rfl fun _ _ hq => hq

theorem destroySync {ready : Bool} {answer : DeallocAnswer} (hs : Whole s)
    (hheap : s.heap p = some h) (hgiven : s.given p = true)
    (hok : Smooth s (.destroySync h.family p ready answer)) :
    Whole (h.family.destroy p h answer s ready).2 := by
  obtain ⟨x, hx, htable⟩ := hs.linked.placed p hgiven
  obtain rfl := Option.some.inj (hx.symm.trans hheap)
  have hdynamic := (hs.linked.live _ _ p htable).1
  rcases destroySync_cases hx hdynamic hok with ⟨-, heq⟩ | ⟨hheld, heq⟩
  · rw [heq]
    exact hs
  · rw [heq]
    obtain ⟨hdetached, hzero⟩ := hs.linked.detach htable hheld
    refine hs.destroyed (u := clearHandler x.ifNum (s.detach x.ifNum)) htable
      hdetached.unhandled hzero clearHandler_cb (hs.quiet_held hgiven htable hheld) rfl rfl
      (fun m hm => ?_) (fun m hm => ?_) fun _ _ _ hq => hq
    · exact Function.update_of_ne hm _ _
    · exact Function.update_of_ne hm _ _

theorem destroy {cb appData : ℕ} {ready sent : Bool} (hs : Whole s)
    (hheap : s.heap p = some h) (hgiven : s.given p = true) (hfamily : h.family = .virtIf)
    (hok : Smooth s (.destroy p cb appData ready sent)) :
    Whole (nssVirtIfDestroy p h cb appData ready sent s).2 := by
  obtain ⟨x, hx, htable⟩ := hs.linked.placed p hgiven
  obtain rfl := Option.some.inj (hx.symm.trans hheap)
  have hdynamic := (hs.linked.live _ _ p htable).1
  have hstored : Whole (s.setHeap p { x with cb := cb, appData := appData }) :=
    hs.frame (hs.linked.setHeap hx rfl rfl) rfl rfl rfl rfl fun _ _ hq => hq
  rcases destroy_cases cb appData ready sent hdynamic with ⟨-, heq⟩ | ⟨hready, hndev, heq⟩
  · rw [heq]
    exact hstored
  · obtain ⟨-, hempty⟩ | ⟨⟨-, hheld⟩, hanswer⟩ := hok x hx
    · exact absurd hempty hndev
    rw [heq, if_pos (hanswer hready)]
    exact hstored.leave (hfamily ▸ htable) (hs.quiet_held hgiven htable hheld) hheld

theorem allocated {response : NssCmnResponse} {ifNum : ℕ} {made sent : Bool} (hs : Whole s)
    (hheap : s.heap p = some h) (hflight : .alloc p ∈ s.flight)
    (hnode : response = .NSS_CMN_RESPONSE_ACK →
      s.node ifNum = false ∧ nssIsDynamicInterface ifNum = true)
    (hok : Smooth s (.allocated p response ifNum made sent)) :
    Whole (createAnswered p h response ifNum made sent s).2 := by
  obtain ⟨⟨x, hx, hvirt⟩, hgiven, hno⟩ := hs.linked.alloc p hflight
  obtain rfl := Option.some.inj (hx.symm.trans hheap)
  have hquiet := hs.linked.erase_quiet hflight
  have herased : Whole { s with flight := s.flight.erase (.alloc p) } :=
    hs.frame hs.linked.erase rfl rfl rfl rfl fun _ _ hq =>
      (List.mem_erase_of_ne (by nofun)).mpr hq
  have hack : response = .NSS_CMN_RESPONSE_ACK → made = true ∧
      nssIsDynamicInterface ifNum = true ∧ (s.handlers ifNum).cb = 0 := fun hresponse =>
    ⟨hok hresponse, (hnode hresponse).2,
      hs.handler ifNum (hnode hresponse).2 (hnode hresponse).1⟩
  rw [createAnswered_cases hack]
  by_cases hresponse : response = .NSS_CMN_RESPONSE_ACK
  · rw [if_pos hresponse]
    obtain ⟨hn, hdynamic⟩ := hnode hresponse
    have hnew : Whole (enterIf .virtIf ifNum p { x with ifNum := ifNum } x.ndev
        { s with flight := s.flight.erase (.alloc p) }) :=
      herased.created hn hdynamic hno hquiet hgiven hvirt rfl
    by_cases hcb : x.cb = 0
    · simp only [if_pos hcb]
      exact hnew
    · simp only [if_neg hcb]
      exact hnew.frame (hnew.linked.given_create hvirt rfl) rfl rfl rfl rfl fun _ _ hq => hq
  · rw [if_neg hresponse]
    exact herased.frame (herased.linked.kfree hno hquiet) rfl rfl rfl rfl fun _ _ hq => hq

theorem deallocated {response : NssCmnResponse} (hs : Whole s) (hheap : s.heap p = some h)
    (hflight : .dealloc p n ∈ s.flight) (hok : Smooth s (.deallocated p n response)) :
    Whole (destroyAnswered p h n response s).2 := by
  obtain ⟨htable, hzero, hcb⟩ := hs.linked.dealloc p n hflight
  obtain ⟨-, -, x, hx, -, hnum⟩ := hs.linked.live _ _ p htable
  obtain rfl := Option.some.inj (hx.symm.trans hheap)
  have hresponse : response = .NSS_CMN_RESPONSE_ACK := hok
  rw [destroyAnswered_cases hnum, if_pos hresponse]
  refine hs.destroyed htable hs.linked.erase hzero hcb (hs.linked.erase_quiet hflight) rfl rfl
    (fun _ _ => rfl) (fun _ _ => rfl) fun q m hm hq => ?_
  refine (List.mem_erase_of_ne fun hsame => hm ?_).mpr hq
  injection hsame

theorem step {l : VirtCall} (hs : Whole s) (hstep : VirtStep s l t) (hok : Smooth s l) :
    Whole t := by
  -- register and unregister write the slot of the device and nothing else
  have hslots : ∀ dp, Whole { s with dp := dp } := fun dp =>
    hs.frame (hs.linked.frame (fun q y hq => ⟨y, hq, rfl, rfl⟩) rfl rfl rfl rfl rfl
      fun _ hm => hm) rfl rfl rfl rfl fun _ _ hq => hq
  cases hstep with
  | createSync f env netdev hnetdev hmem hnode => exact hs.createSync hmem hnode hok
  | destroySync f p ready answer h hheap hgiven hfamily =>
    subst hfamily
    exact hs.destroySync hheap hgiven hok
  | register p cb netdev features h hheap hgiven hnetdev => exact hslots _
  | unregister p h hheap hgiven => exact hslots _
  | create netdev cb appData ready memory sent hnetdev hmem =>
    rcases create_cases netdev cb appData ready sent fun p hp =>
        ⟨hmem p hp, (hs.linked.fresh (hmem p hp)).1⟩ with
      ⟨-, heq⟩ | ⟨p, hp, heq⟩
    · rw [heq]
      exact hs
    · rw [heq]
      exact hs.frame (hs.linked.request (hmem p hp) rfl) rfl rfl rfl rfl fun _ _ hq =>
        List.mem_append_left _ hq
  | destroy p cb appData ready sent h hheap hgiven hfamily =>
    exact hs.destroy hheap hgiven hfamily hok
  | allocated p response ifNum made sent h hheap hflight hnode =>
    exact hs.allocated hheap hflight hnode hok
  | deallocated p n response h hheap hflight => exact hs.deallocated hheap hflight hok

end Whole

/-- A live handle for `n` is in the table of its family. -/
def Present (s : VirtTop) (n : ℕ) : Prop :=
  ∃ f p h, s.table f n = some p ∧ s.heap p = some h ∧ h.family = f ∧ h.ifNum = n

/-- The four records of `n` are all there or all gone. -/
structure Agree (s : VirtTop) (n : ℕ) : Prop where
  handler : Present s n ↔ (s.handlers n).cb ≠ 0
  node : Present s n ↔ s.node n = true
  held : Present s n ↔ ∃ d, s.held n = Pi.single d 1
  dropped : ¬ Present s n → s.held n = 0

/-- The records and the slots are as they were. -/
def SameRecords (s t : VirtTop) : Prop :=
  t.table = s.table ∧ t.handlers = s.handlers ∧ t.node = s.node ∧ t.held = s.held ∧ t.dp = s.dp

def Fails (s : VirtTop) : VirtCall → Prop
  | .createSync f env netdev => (createSync f env netdev s).1 = none
  | .destroySync f p ready answer => ∀ h, s.heap p = some h →
      (f.destroy p h answer s ready).1 ≠ .success
  | .create netdev cb appData ready memory sent =>
      (nssVirtIfCreate netdev cb appData ready memory sent s).1 ≠ .success
  | .destroy p cb appData ready sent => ∀ h, s.heap p = some h →
      (nssVirtIfDestroy p h cb appData ready sent s).1 ≠ .success
  | .allocated _ response _ _ _ => response ≠ .NSS_CMN_RESPONSE_ACK
  | .deallocated _ _ response => response ≠ .NSS_CMN_RESPONSE_ACK
  | _ => False

/-- A destroy's handle, and the same call where the core is ready and the firmware
    takes the message and frees the node. -/
def retry : VirtCall → Option (ℕ × VirtCall)
  | .destroySync f p _ _ => some (p, .destroySync f p true ⟨true, true⟩)
  | .destroy p cb appData _ _ => some (p, .destroy p cb appData true true)
  | _ => none

def granted (n p : ℕ) : CreateEnv := ⟨true, ⟨some n, some n⟩, some p, true, true, ⟨true, true⟩⟩

/-- The records agree where nothing is on its way, a call that fails leaves them
    as they are, a destroy that fails can succeed when it is made again, if none
    is under way, and where a node is free a create can succeed. -/
structure Recorded (s : VirtTop) : Prop where
  agree : s.flight = [] → ∀ n : ℕ, nssIsDynamicInterface n = true → Agree s n
  failed : ∀ l t, VirtStep s l t → Smooth s l → Fails s l → SameRecords s t
  retried : ∀ l t p l', VirtStep s l t → Smooth s l → Fails s l → retry l = some (p, l') →
    Leaving s p ∨ ¬ Fails t l'
  again : ∀ f (n p netdev : ℕ), nssIsDynamicInterface n = true → s.node n = false →
    (createSync f (granted n p) netdev s).1 = some p

theorem Whole.present {s : VirtTop} (hs : Whole s) (n : ℕ) : Present s n ↔ s.node n = true := by
  constructor
  · rintro ⟨f, p, -, hp, -⟩
    exact (hs.linked.live f n p hp).2.1
  · intro hn
    obtain ⟨f, p, hp⟩ := hs.linked.node n hn
    obtain ⟨-, -, x, hx, hfamily, hnum⟩ := hs.linked.live f n p hp
    exact ⟨f, p, x, hp, hx, hfamily, hnum⟩

theorem Whole.agree {s : VirtTop} (hs : Whole s) (hidle : s.flight = []) {n : ℕ}
    (hn : nssIsDynamicInterface n = true) : Agree s n := by
  have hnode := hs.present n
  have hthere : Present s n → (s.handlers n).cb ≠ 0 ∧ ∃ d, s.held n = Pi.single d 1 := by
    rintro ⟨f, p, -, hp, -⟩
    rcases hs.phase f n p hp with hphase | hleaving
    · exact hphase
    · rw [hidle] at hleaving
      cases hleaving
  have hgone : ¬ Present s n → s.node n = false := fun hnot =>
    Bool.eq_false_iff.mpr fun hnode' => hnot (hnode.mpr hnode')
  refine ⟨⟨fun h => (hthere h).1, fun hcb => ?_⟩, hnode, ⟨fun h => (hthere h).2, fun hheld => ?_⟩,
    fun hnot => hs.linked.free n (hgone hnot)⟩
  · by_contra hnot
    exact hcb (hs.handler n hn (hgone hnot))
  · obtain ⟨d, hd⟩ := hheld
    by_contra hnot
    have hone := congrFun (hd.symm.trans (hs.linked.free n (hgone hnot))) d
    rw [Pi.single_eq_same] at hone
    cases hone

theorem Whole.failed {s t : VirtTop} {l : VirtCall} (hs : Whole s) (hstep : VirtStep s l t)
    (hok : Smooth s l) (hfails : Fails s l) : SameRecords s t := by
  have hlinked := hs.linked
  cases hstep with
  | createSync f env netdev hnetdev hmem hnode =>
    rcases createSync_cases hnode hs.handler hok with heq | ⟨n, p, -, -, -, heq⟩
    · rw [heq]
      exact ⟨rfl, rfl, rfl, rfl, rfl⟩
    · cases (congrArg Prod.fst heq).symm.trans hfails
  | destroySync f p ready answer h hheap hgiven hfamily =>
    subst hfamily
    obtain ⟨x, hx, htable⟩ := hlinked.placed p hgiven
    obtain rfl := Option.some.inj (hx.symm.trans hheap)
    rcases destroySync_cases hx (hlinked.live _ _ p htable).1 hok with ⟨-, heq⟩ | ⟨-, heq⟩
    · rw [heq]
      exact ⟨rfl, rfl, rfl, rfl, rfl⟩
    · exact absurd (congrArg Prod.fst heq) (hfails x hx)
  | register p cb netdev features h hheap hgiven hnetdev => exact hfails.elim
  | unregister p h hheap hgiven => exact hfails.elim
  | create netdev cb appData ready memory sent hnetdev hmem =>
    rcases create_cases netdev cb appData ready sent fun p hp =>
        ⟨hmem p hp, (hlinked.fresh (hmem p hp)).1⟩ with
      ⟨-, heq⟩ | ⟨p, -, heq⟩
    · rw [heq]
      exact ⟨rfl, rfl, rfl, rfl, rfl⟩
    · exact absurd (congrArg Prod.fst heq) hfails
  | destroy p cb appData ready sent h hheap hgiven hfamily =>
    obtain ⟨x, hx, htable⟩ := hlinked.placed p hgiven
    obtain rfl := Option.some.inj (hx.symm.trans hheap)
    rcases destroy_cases cb appData ready sent (hlinked.live _ _ p htable).1 with
      ⟨-, heq⟩ | ⟨hready, hndev, heq⟩
    · rw [heq]
      exact ⟨rfl, rfl, rfl, rfl, rfl⟩
    · obtain ⟨-, hempty⟩ | ⟨-, hanswer⟩ := hok x hx
      · exact absurd hempty hndev
      rw [if_pos (hanswer hready)] at heq
      exact absurd (congrArg Prod.fst heq) (hfails x hx)
  | allocated p response ifNum made sent h hheap hflight hnode =>
    rw [createAnswered_cases fun hack => absurd hack hfails, if_neg hfails]
    exact ⟨rfl, rfl, rfl, rfl, rfl⟩
  | deallocated p n response h hheap hflight => exact absurd hok hfails

theorem Whole.retried {s t : VirtTop} {l l' : VirtCall} {p : ℕ} (hs : Whole s)
    (hstep : VirtStep s l t) (hok : Smooth s l) (hfails : Fails s l)
    (hretry : retry l = some (p, l')) : Leaving s p ∨ ¬ Fails t l' := by
  have hsame := hs.failed hstep hok hfails
  have hlinked := hs.linked
  cases hstep with
  | destroySync f q ready answer h hheap hgiven hfamily =>
    subst hfamily
    cases hretry
    obtain ⟨x, hx, htable⟩ := hlinked.placed p hgiven
    obtain rfl := Option.some.inj (hx.symm.trans hheap)
    have hdynamic := (hlinked.live _ _ p htable).1
    rcases hok x hx with ⟨hleaving, -⟩ | ⟨⟨hndev, -⟩, -⟩
    · exact .inl hleaving
    rcases destroySync_cases hx hdynamic hok with ⟨-, heq⟩ | ⟨-, heq⟩
    · refine .inr fun hagain => ?_
      rw [heq] at hagain
      exact hagain x hx (destroy_answered hndev hdynamic)
    · exact absurd (congrArg Prod.fst heq) (hfails x hx)
  | destroy q cb appData ready sent h hheap hgiven hfamily =>
    cases hretry
    obtain ⟨x, hx, htable⟩ := hlinked.placed p hgiven
    obtain rfl := Option.some.inj (hx.symm.trans hheap)
    have hdynamic := (hlinked.live _ _ p htable).1
    rcases hok x hx with ⟨hleaving, -⟩ | ⟨⟨hndev, -⟩, hanswer⟩
    · exact .inl hleaving
    rcases destroy_cases cb appData ready sent hdynamic with ⟨-, heq⟩ | ⟨hready, -, heq⟩
    · refine .inr fun hagain => ?_
      rw [heq] at hagain
      exact hagain _ (Function.update_self ..) (destroy_sent cb appData hndev hdynamic)
    · rw [if_pos (hanswer hready)] at heq
      exact absurd (congrArg Prod.fst heq) (hfails x hx)
  | _ => cases hretry

theorem Whole.recorded {s : VirtTop} (hs : Whole s) : Recorded s := by
  refine ⟨fun hidle n hn => hs.agree hidle hn, fun l t hstep hok hfails => ?_,
    fun l t p l' hstep hok hfails hretry => ?_, fun f n p netdev hn hfree => ?_⟩
  · exact hs.failed hstep hok hfails
  · exact hs.retried hstep hok hfails hretry
  · exact congrArg Prod.fst (createSync_made rfl rfl rfl rfl rfl hn (hs.handler n hn hfree))

/-- No interface has been created, and no dynamic number has a handler. -/
def CleanStart (s : VirtTop) : Prop :=
  VirtStart s ∧ ∀ n : ℕ, nssIsDynamicInterface n = true → (s.handlers n).cb = 0

/-- In a run of such steps the records agree in every state. -/
theorem records_agree {s : VirtTop}
    (h : Reachable CleanStart (Guarded VirtStep Smooth) s) : Recorded s := by
  have hs : Whole s := by
    refine h.invariant Whole (fun s hs => ?_) fun s l t hs ⟨hstep, hok⟩ => hs.step hstep hok
    refine ⟨linked_start hs.1, fun n hn _ => hs.2 n hn, fun f n p hp => ?_⟩
    cases (hs.1.table f n).symm.trans hp
  exact hs.recorded

theorem blank_clean : CleanStart blank := ⟨blank_start, fun _ _ => rfl⟩

def afterCreate : VirtTop := (nssVirtIfCreateSync (granted 24 1) 7 blank).2

def afterDestroy : VirtTop :=
  (VirtFamily.virtIf.destroy 1 ⟨.virtIf, 24, 0, 0, 0⟩ ⟨true, true⟩ afterCreate true).2

/-- An interface is created, its destroy fails while the core is not ready, and
    it is destroyed when the call is made again. -/
theorem records_agree_retried :
    ¬ Fails afterCreate (.destroySync .virtIf 1 true ⟨true, true⟩) ∧ Recorded afterDestroy := by
  have hcreate : VirtStep blank (.createSync .virtIf (granted 24 1) 7) afterCreate :=
    .createSync blank .virtIf (granted 24 1) 7 (by decide) (fun _ _ => rfl) fun n hn =>
      ⟨rfl, by cases hn; rfl⟩
  have hdestroy : ∀ ready, VirtStep afterCreate (.destroySync .virtIf 1 ready ⟨true, true⟩)
      (VirtFamily.virtIf.destroy 1 ⟨.virtIf, 24, 0, 0, 0⟩ ⟨true, true⟩ afterCreate ready).2 :=
    fun ready => .destroySync afterCreate .virtIf 1 ready ⟨true, true⟩ ⟨.virtIf, 24, 0, 0, 0⟩ rfl
      rfl rfl
  have hheld : afterCreate.held 24 = Pi.single 7 1 := by
    change (enterIf .virtIf 24 1 ⟨.virtIf, 24, 0, 0, 0⟩ 7 blank).held 24 = _
    exact held_created rfl
  have hsmooth : ∀ ready, Smooth afterCreate (.destroySync .virtIf 1 ready ⟨true, true⟩) := by
    intro ready x hx
    cases hx
    exact .inr ⟨⟨by decide, hheld⟩, fun _ => ⟨nofun, rfl, rfl⟩⟩
  have hreach : Reachable CleanStart (Guarded VirtStep Smooth) afterCreate :=
    (Reachable.start blank_clean).next ⟨hcreate, fun _ => ⟨rfl, fun _ => rfl⟩⟩
  have hagain := (records_agree hreach).retried _ _ _ _ (hdestroy false) (hsmooth false)
    (fun _ _ => nofun) rfl
  refine ⟨hagain.resolve_left ?_, records_agree (hreach.next ⟨hdestroy true, hsmooth true⟩)⟩
  rintro ⟨n, hn⟩
  cases hn

/-- The create message is refused, and the node is freed. -/
def refusedEnv : CreateEnv := ⟨true, ⟨some 24, some 24⟩, some 1, true, false, ⟨true, true⟩⟩

/-- The handler stays behind when the create message is refused. -/
theorem handler_left : ¬ ∀ s, Reachable CleanStart VirtStep s → s.flight = [] →
    ∀ n : ℕ, nssIsDynamicInterface n = true → Agree s n := by
  intro hall
  have hstep := VirtStep.createSync blank .virtIf refusedEnv 7 (by decide) (fun _ _ => rfl)
    fun n hn => ⟨rfl, by cases hn; rfl⟩
  have hagree := hall _ ((Reachable.start blank_clean).next hstep) rfl 24 rfl
  have hgone : (createSync .virtIf refusedEnv 7 blank).2.node 24 = false := by decide
  have hleft : ((createSync .virtIf refusedEnv 7 blank).2.handlers 24).cb ≠ 0 := by decide
  have hnode := hagree.node.mp (hagree.handler.mpr hleft)
  rw [hgone] at hnode
  cases hnode

end NssDrv.VirtualRecords

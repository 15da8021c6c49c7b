import NssDrv.DynamicInterface
import NssDrv.RequestLinks
import NssDrv.TransitionRuns

set_option autoImplicit false

/-!
# The numbers of dynamic interfaces

The firmware beside the driver: it answers the requests of blocking calls and
asynchronous ones in any order, and gives no live node's number to another node.
-/
namespace NssDrv.NodeNumbers
open CallTree SyncRequest TransitionRuns CommonMessage TransmitApi DynamicInterface

def NodeCall (p : nodeService.Asked NodeResult) : Prop :=
  (∃ type, p = nssDynamicInterfaceAllocNode type) ∨
    ∃ ifNum type, p = nssDynamicInterfaceDeallocNode ifNum type

inductive Owner where
  | request (id : ℕ)
  | asynchronous

/-- What the firmware may answer, and the live nodes then. -/
def Serves (live : ℤ → Option Owner) (owner : Owner) (ndim : NodeMsg) (ncm : NodeResponse)
    (live' : ℤ → Option Owner) : Prop :=
  if ncm.response = .NSS_CMN_RESPONSE_ACK then
    match ndim with
    | .allocNode _ =>
      live ncm.ifNum = none ∧ live' = Function.update live ncm.ifNum (some owner)
    | .deallocNode _ ifNum => ncm.ifNum = ifNum ∧ live' = Function.update live ifNum none
  else live' = live

/-- The driver, the answers that the firmware has made, those to asynchronous
    requests that are on their way, and the live nodes. Ghosts: the messages that
    each call has sent, and the request whose response has woken it. -/
structure World (ι : Type) where
  driver : State nodeService ι
  served : ℕ → Option NodeResponse
  outbox : List (NodeMsg × NodeResponse)
  live : ℤ → Option Owner
  sent : ι → List NodeMsg
  node : ι → Option ℕ

inductive NodeLabel (ι : Type) where
  | call (l : Label nodeService ι)
  | serve (id : ℕ)
  | deliver (id : ℕ) (ncm : NodeResponse)
  | serveAsync
  | deliverAsync (ndim : NodeMsg) (ncm : NodeResponse)

variable {ι : Type} [DecidableEq ι]

inductive NodeStep : World ι → NodeLabel ι → World ι → Prop where
  | start (w : World ι) (i : ι) (t : State nodeService ι)
      (hstep : Step NodeCall w.driver (.start i) t) :
      NodeStep w (.call (.start i))
        { w with
          driver := t
          sent := Function.update w.sent i []
          node := Function.update w.node i none }
  | event (w : World ι) (i : ι) (e : nodeService.ServiceEvent) (t : State nodeService ι)
      (hstep : Step NodeCall w.driver (.event i e) t) :
      NodeStep w (.call (.event i e))
        { w with
          driver := t
          sent := Function.update w.sent i (sends (w.sent i) e)
          node := Function.update w.node i (wokenBy (w.node i) (w.driver.waiting i) e) }
  | serve (w : World ι) (id : ℕ) (i : ι) (ndim : NodeMsg) (ncm : NodeResponse)
      (live' : ℤ → Option Owner) (hrequest : w.driver.requests[id]? = some (i, ndim))
      (hnew : w.served id = none) (hserves : Serves w.live (.request id) ndim ncm live') :
      NodeStep w (.serve id)
        { w with served := Function.update w.served id (some ncm), live := live' }
  | deliver (w : World ι) (id : ℕ) (ncm : NodeResponse) (t : State nodeService ι)
      (hserved : w.served id = some ncm) (hstep : Step NodeCall w.driver (.respond id ncm) t) :
      NodeStep w (.deliver id ncm) { w with driver := t }
  | serveAsync (w : World ι) (ndim : NodeMsg) (ncm : NodeResponse) (live' : ℤ → Option Owner)
      (hserves : Serves w.live .asynchronous ndim ncm live') :
      NodeStep w .serveAsync { w with outbox := w.outbox ++ [(ndim, ncm)], live := live' }
  | deliverAsync (w : World ι) (ndim : NodeMsg) (ncm : NodeResponse) (front back : List _)
      (houtbox : w.outbox = front ++ (ndim, ncm) :: back) :
      NodeStep w (.deliverAsync ndim ncm)
        { w with
          driver := { w.driver with mem := nssDynamicInterfaceHandler ndim ncm w.driver.mem }
          outbox := front ++ back }

structure NodeStart (w : World ι) : Prop where
  driver : Start w.driver
  served : ∀ id, w.served id = none
  outbox : w.outbox = []
  live : ∀ n id, w.live n ≠ some (.request id)
  sent : ∀ i, w.sent i = []
  node : ∀ i, w.node i = none

/-- Responses come in time, and no asynchronous acknowledgement between the
    response to a call and its return. -/
def Separate (w : World ι) : NodeLabel ι → Prop
  | .call l => InTime w.driver l
  | .deliver id ncm => InTime w.driver (.respond id ncm)
  | .deliverAsync _ ncm => ncm.response = .NSS_CMN_RESPONSE_ACK → ∀ i, ¬ Critical w.driver i
  | _ => True

def NodeLive (w : World ι) (i : ι) : Prop :=
  ∃ id n, w.node i = some id ∧ w.live n = some (.request id)

/-- Each result is that of the call's own response, a number is the one that the
    firmware allocated for the call, and no two calls have the same one while
    the nodes of both are live. -/
structure Honest (w : World ι) : Prop where
  own : ∀ i a, w.driver.calls i = .ret a → NodeReturns (w.driver.outcomes i) a
  allocated : ∀ i n, w.driver.calls i = .ret (.ifNum n) → n ≥ 0 → ∃ id type ncm,
    w.node i = some id ∧ w.driver.requests[id]? = some (i, .allocNode type) ∧
      w.served id = some ncm ∧ ncm.response = .NSS_CMN_RESPONSE_ACK ∧ ncm.ifNum = n
  distinct : ∀ i j n, w.driver.calls i = .ret (.ifNum n) → w.driver.calls j = .ret (.ifNum n) →
    n ≥ 0 → NodeLive w i → NodeLive w j → i = j

/-- A result of the kind that the message asks for. -/
def Fits : NodeMsg → NodeResult → Prop
  | .allocNode _, .ifNum _ => True
  | .deallocNode _ _, .status _ => True
  | _, _ => False

def Kinded (p : nodeService.Asked NodeResult) (sent : List NodeMsg) : Prop :=
  Always sends (fun _ => True) (fun a sent => ∀ ndim ∈ sent, Fits ndim a) p sent

theorem kinded_txSync {ndim : NodeMsg} {k : TxStatus → nodeService.Asked NodeResult}
    (hk : ∀ status sent, (∀ m ∈ sent, m = ndim) → Kinded (k status) sent) :
    Kinded (nssDynamicInterfaceTxSync ndim >>= k) [] := by
  have hone : ∀ m ∈ [ndim], m = ndim := fun m hm => List.mem_singleton.mp hm
  refine ⟨trivial, trivial, trivial, fun went => ?_⟩
  cases went with
  | false => exact ⟨trivial, fun why => ⟨trivial, hk _ _ nofun⟩⟩
  | true =>
    refine ⟨trivial, fun woken => ?_⟩
    cases woken with
    | false => exact ⟨trivial, hk _ _ hone⟩
    | true => exact ⟨trivial, hk _ _ hone⟩

theorem kinded_allocNode (type : ℕ) : Kinded (nssDynamicInterfaceAllocNode type) [] := by
  have hret : ∀ n sent, (∀ m ∈ sent, m = NodeMsg.allocNode type) →
      Kinded (.ret (.ifNum n)) sent := by
    intro n sent hsent
    refine .ret trivial fun m hm => ?_
    rw [hsent m hm]
    trivial
  unfold nssDynamicInterfaceAllocNode
  refine Always.ite (fun _ => hret _ _ nofun) fun _ => ?_
  apply kinded_txSync
  intro status sent hsent
  refine Always.ite (fun _ => hret _ _ hsent) fun _ => ?_
  refine .ask trivial fun di => ?_
  refine Always.ite (fun _ => hret _ _ hsent) fun _ => ?_
  exact .ask trivial fun di => hret _ _ hsent

theorem kinded_deallocNode (ifNum : ℤ) (type : ℕ) :
    Kinded (nssDynamicInterfaceDeallocNode ifNum type) [] := by
  have hret : ∀ n sent, (∀ m ∈ sent, m = NodeMsg.deallocNode type ifNum) →
      Kinded (.ret (.status n)) sent := by
    intro n sent hsent
    refine .ret trivial fun m hm => ?_
    rw [hsent m hm]
    trivial
  unfold nssDynamicInterfaceDeallocNode
  refine Always.ite (fun _ => hret _ _ nofun) fun _ => ?_
  refine Always.ite (fun _ => hret _ _ nofun) fun _ => ?_
  apply kinded_txSync
  intro status sent hsent
  refine Always.ite (fun _ => hret _ _ hsent) fun _ => ?_
  refine .ask trivial fun di => ?_
  exact Always.ite (fun _ => hret _ _ hsent) fun _ => hret _ _ hsent

/-- The messages of a call are its requests, and what the firmware has answered
    to them is what the driver hears and what is live. -/
structure Linked (w : World ι) : Prop where
  kinded : ∀ i, Kinded (w.driver.calls i) (w.sent i)
  waiting : ∀ i id, w.driver.waiting i = some id →
    ∃ ndim ∈ w.sent i, w.driver.requests[id]? = some (i, ndim)
  node : ∀ i id, w.node i = some id → ∃ ndim ∈ w.sent i, w.driver.requests[id]? = some (i, ndim)
  answers : ∀ id ncm, w.driver.answers id = some ncm → w.served id = some ncm
  outcome : ∀ i ncm, w.driver.outcomes i = [some ncm] →
    ∃ id, w.node i = some id ∧ w.served id = some ncm
  live : ∀ n id, w.live n = some (.request id) →
    ∃ ncm, w.served id = some ncm ∧ ncm.response = .NSS_CMN_RESPONSE_ACK ∧ ncm.ifNum = n

variable {w : World ι} {i : ι} {s t : State nodeService ι} {e : nodeService.ServiceEvent}

theorem Linked.event {p : nodeService.Asked NodeResult} (h : Linked w)
    (hnext : Next (w.driver.calls i) e p) (heffect : w.driver.Effect i e t) :
    Linked { w with
      driver := { t with calls := Function.update w.driver.calls i p }
      sent := Function.update w.sent i (sends (w.sent i) e)
      node := Function.update w.node i (wokenBy (w.node i) (w.driver.waiting i) e) } := by
  have hlinks := effect_links heffect
  refine ⟨fun j => ?_, fun j id hid => ?_, fun j id hid => ?_, ?_, fun j ncm hout => ?_, h.live⟩
  · by_cases hj : j = i
    · subst hj
      dsimp only
      rw [Function.update_self, Function.update_self]
      exact (h.kinded j).next hnext
    · dsimp only
      rw [Function.update_of_ne hj, Function.update_of_ne hj]
      exact h.kinded j
  · by_cases hj : j = i
    · subst hj
      dsimp only
      rw [Function.update_self]
      rcases hlinks.waiting (w.sent j) id hid with hwas | hnew
      · obtain ⟨ndim, hsent, hrequest⟩ := h.waiting j id hwas
        exact ⟨ndim, hlinks.sends _ _ hsent, hlinks.requests _ _ hrequest⟩
      · exact hnew
    · dsimp only
      rw [Function.update_of_ne hj]
      obtain ⟨ndim, hsent, hrequest⟩ := h.waiting j id ((hlinks.others j hj).1 ▸ hid)
      exact ⟨ndim, hsent, hlinks.requests _ _ hrequest⟩
  · by_cases hj : j = i
    · subst hj
      dsimp only at hid ⊢
      rw [Function.update_self] at hid ⊢
      have hwas : ∃ ndim ∈ w.sent j, w.driver.requests[id]? = some (j, ndim) := by
        rcases hlinks.node (w.node j) with hsame | hwaiting
        · exact h.node j id (hsame ▸ hid)
        · exact h.waiting j id (hwaiting ▸ hid)
      obtain ⟨ndim, hsent, hrequest⟩ := hwas
      exact ⟨ndim, hlinks.sends _ _ hsent, hlinks.requests _ _ hrequest⟩
    · dsimp only at hid ⊢
      rw [Function.update_of_ne hj] at hid ⊢
      obtain ⟨ndim, hsent, hrequest⟩ := h.node j id hid
      exact ⟨ndim, hsent, hlinks.requests _ _ hrequest⟩
  · intro id ncm hanswer
    exact h.answers id ncm (hlinks.answers ▸ hanswer)
  · by_cases hj : j = i
    · subst hj
      dsimp only at hout ⊢
      rw [Function.update_self]
      rcases hlinks.outcome (w.node j) with ⟨hsame, hwoken⟩ | ⟨o, hadd, hnew⟩
      · rw [hwoken]
        exact h.outcome j ncm (hsame ▸ hout)
      · rw [hadd] at hout
        have hout : w.driver.outcomes j ++ [o] = [] ++ [some ncm] := hout
        obtain ⟨-, ho⟩ := List.append_inj' hout rfl
        obtain ⟨id, hid, hanswer⟩ := hnew ncm (List.singleton_inj.mp ho)
        exact ⟨id, hid, h.answers id ncm hanswer⟩
    · dsimp only
      rw [Function.update_of_ne hj]
      exact h.outcome j ncm ((hlinks.others j hj).2 ▸ hout)

theorem Linked.start {p : nodeService.Asked NodeResult} (h : Linked w) (hcall : NodeCall p)
    (hwaiting : w.driver.waiting i = none) :
    Linked { w with
      driver := { w.driver with
        calls := Function.update w.driver.calls i p
        woken := Function.update w.driver.woken i false
        outcomes := Function.update w.driver.outcomes i [] }
      sent := Function.update w.sent i []
      node := Function.update w.node i none } := by
  refine ⟨fun j => ?_, fun j id hid => ?_, fun j id hid => ?_, h.answers, fun j ncm hout => ?_,
    h.live⟩
  · by_cases hj : j = i
    · subst hj
      dsimp only
      rw [Function.update_self, Function.update_self]
      rcases hcall with ⟨type, rfl⟩ | ⟨ifNum, type, rfl⟩
      · exact kinded_allocNode type
      · exact kinded_deallocNode ifNum type
    · dsimp only
      rw [Function.update_of_ne hj, Function.update_of_ne hj]
      exact h.kinded j
  · have hj : j ≠ i := by
      rintro rfl
      cases hwaiting.symm.trans hid
    dsimp only
    rw [Function.update_of_ne hj]
    exact h.waiting j id hid
  · dsimp only at hid ⊢
    by_cases hj : j = i
    · subst hj
      rw [Function.update_self] at hid
      cases hid
    · rw [Function.update_of_ne hj] at hid ⊢
      exact h.node j id hid
  · dsimp only at hout ⊢
    by_cases hj : j = i
    · subst hj
      rw [Function.update_self] at hout
      cases hout
    · rw [Function.update_of_ne hj] at hout ⊢
      exact h.outcome j ncm hout

omit [DecidableEq ι] in
theorem live_served {ndim : NodeMsg} {ncm : NodeResponse} {owner : Owner}
    {live' : ℤ → Option Owner} (hserves : Serves w.live owner ndim ncm live') {n : ℤ} {id : ℕ}
    (hlive : live' n = some (.request id)) :
    w.live n = some (.request id) ∨
      owner = .request id ∧ ncm.response = .NSS_CMN_RESPONSE_ACK ∧ ncm.ifNum = n := by
  unfold Serves at hserves
  split at hserves
  · cases ndim with
    | allocNode type =>
      obtain ⟨-, rfl⟩ := hserves
      by_cases hn : n = ncm.ifNum
      · subst hn
        rw [Function.update_self] at hlive
        exact .inr ⟨Option.some.inj hlive, ‹_›, rfl⟩
      · rw [Function.update_of_ne hn] at hlive
        exact .inl hlive
    | deallocNode type ifNum =>
      obtain ⟨-, rfl⟩ := hserves
      by_cases hn : n = ifNum
      · subst hn
        rw [Function.update_self] at hlive
        cases hlive
      · rw [Function.update_of_ne hn] at hlive
        exact .inl hlive
  · exact .inl (hserves ▸ hlive)

omit [DecidableEq ι] in
theorem served_update {id id' : ℕ} {ncm ncm' : NodeResponse} (hnew : w.served id = none)
    (h : w.served id' = some ncm') :
    Function.update w.served id (some ncm) id' = some ncm' := by
  have hne : id' ≠ id := by
    rintro rfl
    cases hnew.symm.trans h
  rwa [Function.update_of_ne hne]

omit [DecidableEq ι] in
theorem Linked.serve {id : ℕ} {ndim : NodeMsg} {ncm : NodeResponse} {live' : ℤ → Option Owner}
    (h : Linked w) (hnew : w.served id = none)
    (hserves : Serves w.live (.request id) ndim ncm live') :
    Linked { w with served := Function.update w.served id (some ncm), live := live' } := by
  refine ⟨h.kinded, h.waiting, h.node, fun id' ncm' hanswer => ?_, fun j ncm' hout => ?_,
    fun n id' hlive => ?_⟩
  · exact served_update hnew (h.answers id' ncm' hanswer)
  · obtain ⟨id', hid, hserved⟩ := h.outcome j ncm' hout
    exact ⟨id', hid, served_update hnew hserved⟩
  · rcases live_served hserves hlive with hwas | ⟨howner, hack, hn⟩
    · obtain ⟨ncm', hserved, hack, hn⟩ := h.live n id' hwas
      exact ⟨ncm', served_update hnew hserved, hack, hn⟩
    · obtain rfl := Owner.request.inj howner
      exact ⟨ncm, Function.update_self _ _ _, hack, hn⟩

omit [DecidableEq ι] in
theorem Linked.serveAsync {ndim : NodeMsg} {ncm : NodeResponse} {live' : ℤ → Option Owner}
    (h : Linked w) (outbox : List (NodeMsg × NodeResponse))
    (hserves : Serves w.live .asynchronous ndim ncm live') :
    Linked { w with outbox, live := live' } := by
  refine ⟨h.kinded, h.waiting, h.node, h.answers, h.outcome, fun n id hlive => ?_⟩
  rcases live_served hserves hlive with hwas | ⟨howner, -, -⟩
  · exact h.live n id hwas
  · cases howner

theorem Linked.deliver {id : ℕ} {ncm : NodeResponse} {ndim : NodeMsg} (h : Linked w)
    (hserved : w.served id = some ncm) :
    Linked { w with driver := w.driver.respond id i ndim ncm } := by
  have hanswers : ∀ id' ncm',
      Function.update w.driver.answers id (some ncm) id' = some ncm' →
        w.served id' = some ncm' := by
    intro id' ncm' hanswer
    by_cases hid : id' = id
    · subst hid
      rw [Function.update_self] at hanswer
      exact hserved.trans hanswer
    · rw [Function.update_of_ne hid] at hanswer
      exact h.answers id' ncm' hanswer
  exact ⟨h.kinded, h.waiting, h.node, hanswers, h.outcome, h.live⟩

omit [DecidableEq ι] in
theorem Linked.deliverAsync (h : Linked w) (di : Di) (outbox : List (NodeMsg × NodeResponse)) :
    Linked { w with driver := { w.driver with mem := di }, outbox } :=
  ⟨h.kinded, h.waiting, h.node, h.answers, h.outcome, h.live⟩

/-- What holds of every world: the driver keeps to the protocol, and its ghosts
    are those of the firmware. -/
structure Ordered (w : World ι) : Prop where
  tracks : ∃ st, Tracks w.driver st
  linked : Linked w

theorem handler_refused {ndim : NodeMsg} {ncm : NodeResponse} {di : Di}
    (h : ncm.response ≠ .NSS_CMN_RESPONSE_ACK) : nssDynamicInterfaceHandler ndim ncm di = di := by
  cases ndim with
  | allocNode type => exact if_neg h
  | deallocNode type ifNum => exact if_neg h

theorem nodeCall_obeys {p : nodeService.Asked NodeResult} (h : NodeCall p) :
    Obeys p (.outside [] none) := by
  rcases h with ⟨type, rfl⟩ | ⟨ifNum, type, rfl⟩
  · exact obeys_allocNode type
  · exact obeys_deallocNode ifNum type

omit [DecidableEq ι] in
theorem NodeStart.ordered (h : NodeStart w) : Ordered w := by
  refine ⟨h.driver.tracks, fun i => ?_, fun i id hid => ?_, fun i id hid => ?_,
    fun id ncm hanswer => ?_, fun i ncm hout => ?_, fun n id hlive => absurd hlive (h.live n id)⟩
  · obtain ⟨a, ha, -⟩ := h.driver.calls i
    rw [ha, h.sent i]
    exact .ret trivial nofun
  · rw [h.driver.waiting i] at hid
    cases hid
  · rw [h.node i] at hid
    cases hid
  · rw [h.driver.answers id] at hanswer
    cases hanswer
  · rw [h.driver.outcomes i] at hout
    cases hout

theorem Ordered.step {w' : World ι} {l : NodeLabel ι} (h : Ordered w) (hstep : NodeStep w l w')
    (hok : Separate w l) : Ordered w' := by
  obtain ⟨st, hst⟩ := h.tracks
  cases hstep with
  | start i t hstep =>
    refine ⟨hst.step (fun _ => nodeCall_obeys) hstep hok, ?_⟩
    cases hstep with
    | start _ p a hidle hcall =>
      have hobeys := hst.obeys i
      have hplaced := hst.placed i
      rw [hidle] at hobeys
      obtain ⟨os, known, hstage, -⟩ := obeys_returned hobeys
      rw [hstage] at hplaced
      exact h.linked.start hcall hplaced.2.1
  | event i e t hstep =>
    refine ⟨hst.step (fun _ => nodeCall_obeys) hstep hok, ?_⟩
    cases hstep with
    | event _ _ p t hnext heffect => exact h.linked.event hnext heffect
  | serve id i ndim ncm live' hrequest hnew hserves =>
    exact ⟨h.tracks, h.linked.serve hnew hserves⟩
  | deliver id ncm t hserved hstep =>
    refine ⟨hst.step (fun _ => nodeCall_obeys) hstep hok, ?_⟩
    cases hstep with
    | respond _ owner m _ hrequest hnew => exact h.linked.deliver hserved
  | serveAsync ndim ncm live' hserves => exact ⟨h.tracks, h.linked.serveAsync _ hserves⟩
  | deliverAsync ndim ncm front back houtbox =>
    refine ⟨⟨st, ?_⟩, h.linked.deliverAsync _ _⟩
    by_cases hack : ncm.response = .NSS_CMN_RESPONSE_ACK
    · exact hst.drift (.single ⟨ndim, ncm, rfl⟩) (hok hack)
    · rw [handler_refused hack]
      exact hst

omit [DecidableEq ι] in
theorem Linked.allocated {n : ℤ} (h : Linked w)
    (hreturns : NodeReturns (w.driver.outcomes i) (.ifNum n))
    (hret : w.driver.calls i = .ret (.ifNum n)) (hn : n ≥ 0) : ∃ id type ncm,
      w.node i = some id ∧ w.driver.requests[id]? = some (i, .allocNode type) ∧
        w.served id = some ncm ∧ ncm.response = .NSS_CMN_RESPONSE_ACK ∧ ncm.ifNum = n := by
  obtain ⟨ncm, hout, hack, hnum⟩ := nodeReturns_ifNum hreturns hn
  obtain ⟨id, hid, hserved⟩ := h.outcome i ncm hout
  obtain ⟨ndim, hsent, hrequest⟩ := h.node i id hid
  have hkinded := h.kinded i
  rw [hret] at hkinded
  have hfits : Fits ndim (.ifNum n) := hkinded.2 ndim hsent
  cases ndim with
  | allocNode type => exact ⟨id, type, ncm, hid, hrequest, hserved, hack, hnum⟩
  | deallocNode type ifNum => exact hfits.elim

omit [DecidableEq ι] in
theorem Linked.live_request {id : ℕ} {ncm : NodeResponse} (h : Linked w)
    (hid : w.node i = some id) (hserved : w.served id = some ncm) (hlive : NodeLive w i) :
    w.live ncm.ifNum = some (.request id) := by
  obtain ⟨id', n, hid', hlive⟩ := hlive
  obtain rfl := Option.some.inj (hid'.symm.trans hid)
  obtain ⟨ncm', hserved', -, hn⟩ := h.live n id' hlive
  obtain rfl := Option.some.inj (hserved'.symm.trans hserved)
  rwa [hn]

omit [DecidableEq ι] in
theorem Ordered.honest (h : Ordered w) : Honest w := by
  obtain ⟨st, hst⟩ := h.tracks
  have hown := hst.sound.returns
  refine ⟨hown, fun i n hret hn => h.linked.allocated (hown i _ hret) hret hn, ?_⟩
  intro i j n hi hj hn hlive hlive'
  obtain ⟨id, type, ncm, hid, hrequest, hserved, -, rfl⟩ :=
    h.linked.allocated (hown i _ hi) hi hn
  obtain ⟨id', type', ncm', hid', hrequest', hserved', -, hsame⟩ :=
    h.linked.allocated (hown j _ hj) hj hn
  have hnode := h.linked.live_request hid hserved hlive
  have hnode' := h.linked.live_request hid' hserved' hlive'
  rw [hsame] at hnode'
  obtain rfl := Owner.request.inj (Option.some.inj (hnode.symm.trans hnode'))
  exact (Prod.mk.inj (Option.some.inj (hrequest.symm.trans hrequest'))).1

/-- In a run whose responses come in time, and with no asynchronous acknowledgement
    before a call has read its own, every number is the one that the firmware gave. -/
theorem numbers_honest (w : World ι) (h : Reachable NodeStart (Guarded NodeStep Separate) w) :
    Honest w := by
  have hordered : Ordered w := h.invariant Ordered (fun _ hs => hs.ordered)
    fun _ _ _ hs hstep => hs.step hstep.1 hstep.2
  exact hordered.honest

def idleWorld : World Bool where
  driver := {
    mem := ⟨-1, .NSS_CMN_RESPONSE_ACK, fun _ => NSS_DYNAMIC_INTERFACE_TYPE_NONE⟩
    done := 0
    sem := none
    calls _ := .ret (.ifNum (-1))
    requests := []
    answers _ := none
    waiting _ := none
    woken _ := false
    outcomes _ := []
    intruded _ := false }
  served _ := none
  outbox := []
  live _ := none
  sent _ := []
  node _ := none

theorem idleWorld_start : NodeStart idleWorld where
  driver := ⟨rfl, rfl, fun _ => ⟨_, rfl, rfl⟩, rfl, fun _ => rfl, fun _ => rfl, fun _ => rfl,
    fun _ => rfl⟩
  served _ := rfl
  outbox := rfl
  live _ _ := nofun
  sent _ := rfl
  node _ := rfl

def WIFI : ℕ := 5

def acked (n : ℤ) : NodeResponse := ⟨.NSS_CMN_RESPONSE_ACK, WIFI, n⟩

theorem serves_acked {live : ℤ → Option Owner} {owner : Owner} {n : ℤ}
    (hfree : live n = none) :
    Serves live owner (.allocNode WIFI) (acked n) (Function.update live n (some owner)) :=
  ⟨hfree, rfl⟩

def refused : NodeResponse := ⟨.NSS_CMN_RESPONSE_EMSG, WIFI, 0⟩

theorem serves_refused {live : ℤ → Option Owner} {owner : Owner} {ndim : NodeMsg} :
    Serves live owner ndim refused live := by
  unfold Serves
  rw [if_neg (by decide)]

/-- Two allocations, one after the other; the refusal of an asynchronous one comes
    while the second call has still to read its response. -/
theorem numbers_honest_two : ∃ w : World Bool, w.driver.calls true = .ret (.ifNum 30) ∧
    w.driver.calls false = .ret (.ifNum 31) ∧ Honest w := by
  have hquiet : ∀ j, ¬ Unread
      (Function.update idleWorld.driver.calls true (nssDynamicInterfaceAllocNode WIFI) j) := by
    rintro j ⟨k, hk⟩
    cases j <;> cases hk
  have hstart : Reachable NodeStart (Guarded NodeStep Separate) _ :=
    (Reachable.start idleWorld_start).next
      ⟨.start _ true _ (.start _ true _ _ rfl (.inl ⟨WIFI, rfl⟩)), trivial⟩
  have hdown := hstart.next ⟨.event _ true _ _ (.down true rfl rfl), hquiet⟩
  have hclear := hdown.next ⟨.event _ true _ _ (.assign true rfl), trivial⟩
  have hsend := hclear.next ⟨.event _ true _ _ (.send true rfl), trivial⟩
  have hserve := hsend.next ⟨.serve _ 0 true _ _ _ rfl rfl (serves_acked (n := 30) rfl), trivial⟩
  have hdeliver := hserve.next ⟨.deliver _ 0 (acked 30) _ rfl (.respond _ 0 true _ _ rfl rfl),
    true, _, rfl, rfl⟩
  have hwake := hdeliver.next ⟨.event _ true _ _ (.wake true rfl (by decide)), trivial⟩
  have hup := hwake.next ⟨.event _ true _ _ (.up true rfl), trivial⟩
  have hresponse := hup.next ⟨.event _ true _ _ (.load true rfl), trivial⟩
  have hnumber := hresponse.next ⟨.event _ true _ _ (.load true rfl), trivial⟩
  have hstart' := hnumber.next
    ⟨.start _ false _ (.start _ false _ _ rfl (.inl ⟨WIFI, rfl⟩)), trivial⟩
  have hdown' := hstart'.next ⟨.event _ false _ _ (.down false rfl rfl), by
    rintro j ⟨k, hk⟩
    cases j <;> cases hk⟩
  have hclear' := hdown'.next ⟨.event _ false _ _ (.assign false rfl), trivial⟩
  have hsend' := hclear'.next ⟨.event _ false _ _ (.send false rfl), trivial⟩
  have hserve' := hsend'.next
    ⟨.serve _ 1 false _ _ _ rfl rfl (serves_acked (n := 31) rfl), trivial⟩
  have hdeliver' := hserve'.next ⟨.deliver _ 1 (acked 31) _ rfl (.respond _ 1 false _ _ rfl rfl),
    false, _, rfl, rfl⟩
  have hrefuse := hdeliver'.next ⟨.serveAsync _ (.allocNode WIFI) refused _ serves_refused, trivial⟩
  have hrefused := hrefuse.next ⟨.deliverAsync _ (.allocNode WIFI) refused [] [] rfl, nofun⟩
  have hwake' := hrefused.next ⟨.event _ false _ _ (.wake false rfl (by decide)), trivial⟩
  have hup' := hwake'.next ⟨.event _ false _ _ (.up false rfl), trivial⟩
  have hresponse' := hup'.next ⟨.event _ false _ _ (.load false rfl), trivial⟩
  have hnumber' := hresponse'.next ⟨.event _ false _ _ (.load false rfl), trivial⟩
  exact ⟨_, rfl, rfl, numbers_honest _ hnumber'⟩

/-- The second call sends and is answered before the first one, which has given
    the semaphore back, reads its number. -/
theorem numbers_dishonest :
    ¬ ∀ w : World Bool, Reachable NodeStart NodeStep w → Honest w := by
  intro hhonest
  have hstart : Reachable NodeStart NodeStep _ := (Reachable.start idleWorld_start).next
    (.start _ true _ (.start _ true _ _ rfl (.inl ⟨WIFI, rfl⟩)))
  have hdown := hstart.next (.event _ true _ _ (.down true rfl rfl))
  have hclear := hdown.next (.event _ true _ _ (.assign true rfl))
  have hsend := hclear.next (.event _ true _ _ (.send true rfl))
  have hserve := hsend.next (.serve _ 0 true _ _ _ rfl rfl (serves_acked (n := 30) rfl))
  have hdeliver := hserve.next (.deliver _ 0 (acked 30) _ rfl (.respond _ 0 true _ _ rfl rfl))
  have hwake := hdeliver.next (.event _ true _ _ (.wake true rfl (by decide)))
  have hup := hwake.next (.event _ true _ _ (.up true rfl))
  have hstart' := hup.next (.start _ false _ (.start _ false _ _ rfl (.inl ⟨WIFI, rfl⟩)))
  have hdown' := hstart'.next (.event _ false _ _ (.down false rfl rfl))
  have hclear' := hdown'.next (.event _ false _ _ (.assign false rfl))
  have hsend' := hclear'.next (.event _ false _ _ (.send false rfl))
  have hserve' := hsend'.next (.serve _ 1 false _ _ _ rfl rfl (serves_acked (n := 31) rfl))
  have hdeliver' := hserve'.next
    (.deliver _ 1 (acked 31) _ rfl (.respond _ 1 false _ _ rfl rfl))
  have hresponse := hdeliver'.next (.event _ true _ _ (.load true rfl))
  have hnumber := hresponse.next (.event _ true _ _ (.load true rfl))
  have hwake' := hnumber.next (.event _ false _ _ (.wake false rfl (by decide)))
  have hup' := hwake'.next (.event _ false _ _ (.up false rfl))
  have hresponse' := hup'.next (.event _ false _ _ (.load false rfl))
  have hnumber' := hresponse'.next (.event _ false _ _ (.load false rfl))
  have hsame := (hhonest _ hnumber').distinct true false 31 rfl rfl (by decide) ⟨0, 30, rfl, rfl⟩
    ⟨1, 31, rfl, rfl⟩
  cases hsame

end NssDrv.NodeNumbers

import NssDrv.MessageRequests
import NssDrv.RequestLinks

set_option autoImplicit false

/-!
# Parked callbacks

The callback of a request to MAP-T, DTLS or PPTP waits in one slot, and the next
response runs whatever is there. The message of the caller keeps the callback of
the driver.
-/
namespace NssDrv.ParkedCallbacks
open CallTree SyncRequest TransitionRuns CommonMessage TransmitApi MessageRequests
variable {Msg ι : Type}

inductive KeepingIf where
  | mapT
  | dtls
  | pptp

def KeepingIf.send : KeepingIf → KeptMsg Msg → (keepingService Msg).Asked TxStatus
  | .mapT => nssMapTTxSync
  | .dtls => nssDtlsTxMsgSync
  | .pptp => nssPptpTxMsgSync

def KeepingIf.Calls (x : KeepingIf) (p : (keepingService Msg).Asked TxStatus) : Prop :=
  ∃ msg, p = x.send msg

/-- A callback that has been run for the response to a request. -/
structure Invocation where
  callback : MsgCallback
  request : ℕ
  response : NssCmnResponse

def invocation (pvt : MsgPvt) (id : ℕ) (r : NssCmnResponse) : List Invocation :=
  if pvt.callback.cb = 0 ∨ pvt.callback.cb = driverCallback then [] else [⟨pvt.callback, id, r⟩]

/-- The callback of the driver, run from itself, completes once more. -/
def completedAgain (pvt : MsgPvt) : ℕ := if pvt.callback.cb = driverCallback then 1 else 0

/-- A run with the callbacks in the messages of the callers, those that the callers
    have given last, the message of each call, the callbacks invoked, and the
    request whose response has woken each call. -/
structure Journal (Msg ι : Type) where
  driver : State (keepingService Msg) ι
  msgs : ℕ → MsgCallback
  given : ℕ → MsgCallback
  ref : ι → ℕ
  woken : ι → Option ℕ
  invoked : List Invocation

inductive JournalLabel (Msg ι : Type) where
  | driver (l : Label (keepingService Msg) ι)
  | fill (addr : ℕ) (own : MsgCallback)

/-- Each callback ran with the response to its own request, at most once for a
    request, and once with the acknowledgement where the call succeeded. -/
structure Delivered (w : Journal Msg ι) : Prop where
  own : ∀ v ∈ w.invoked, ∃ i msg, w.driver.requests[v.request]? = some (i, msg) ∧
    v.callback = msg.own ∧ w.driver.answers v.request = some v.response
  once : (w.invoked.map Invocation.request).Nodup
  acked : ∀ i, w.driver.calls i = .ret .success → ∃ id msg, w.woken i = some id ∧
    w.driver.requests[id]? = some (i, msg) ∧
      w.driver.answers id = some .NSS_CMN_RESPONSE_ACK ∧
        (msg.own.cb ≠ 0 → ⟨msg.own, id, .NSS_CMN_RESPONSE_ACK⟩ ∈ w.invoked)

/-- What holds of the journal in every state. -/
structure Kept (w : Journal Msg ι) : Prop where
  waiting : ∀ i id, w.driver.waiting i = some id → ∃ msg, w.driver.requests[id]? = some (i, msg)
  woken : ∀ i id, w.woken i = some id → ∃ msg, w.driver.requests[id]? = some (i, msg)
  outcome : ∀ i r, w.driver.outcomes i = [some r] →
    ∃ id, w.woken i = some id ∧ w.driver.answers id = some r
  own : ∀ v ∈ w.invoked, ∃ i msg, w.driver.requests[v.request]? = some (i, msg) ∧
    v.callback = msg.own ∧ w.driver.answers v.request = some v.response
  once : (w.invoked.map Invocation.request).Nodup
  complete : ∀ id r i msg, w.driver.answers id = some r → w.driver.requests[id]? = some (i, msg) →
    msg.own.cb ≠ 0 → ⟨msg.own, id, r⟩ ∈ w.invoked

section Runs
variable [DecidableEq ι]

namespace Journal

def Reads (w : Journal Msg ι) (i : ι) : (keepingService Msg).ServiceEvent → Prop
  | .saw (.input (.callback _)) parked => parked = w.msgs (w.ref i)
  | _ => True

def overwritten (w : Journal Msg ι) (i : ι) : (keepingService Msg).ServiceEvent → ℕ → MsgCallback
  | .saw (.input (.callback _)) _ => Function.update w.msgs (w.ref i) ⟨driverCallback, 0⟩
  | _ => w.msgs

end Journal

/-- Callers write to a message only while no call has it. -/
inductive JournalStep (x : KeepingIf) : Journal Msg ι → JournalLabel Msg ι →
    Journal Msg ι → Prop where
  | fill (w : Journal Msg ι) (addr : ℕ) (own : MsgCallback)
      (hfree : ∀ i, w.ref i = addr → ∃ a, w.driver.calls i = .ret a) :
      JournalStep x w (.fill addr own)
        { w with
          msgs := Function.update w.msgs addr own
          given := Function.update w.given addr own }
  | start (w : Journal Msg ι) (i : ι) (addr : ℕ) (msg : KeptMsg Msg) (a : TxStatus)
      (hidle : w.driver.calls i = .ret a) (hgiven : msg.own = w.given addr) :
      JournalStep x w (.driver (.start i))
        { w with
          driver := { w.driver with
            calls := Function.update w.driver.calls i (x.send msg)
            woken := Function.update w.driver.woken i false
            outcomes := Function.update w.driver.outcomes i [] }
          ref := Function.update w.ref i addr
          woken := Function.update w.woken i none }
  | event (w : Journal Msg ι) (i : ι) (e : (keepingService Msg).ServiceEvent)
      (t : State (keepingService Msg) ι) (hstep : Step x.Calls w.driver (.event i e) t)
      (hreads : w.Reads i e) :
      JournalStep x w (.driver (.event i e))
        { w with
          driver := t
          msgs := w.overwritten i e
          woken := Function.update w.woken i (wokenBy (w.woken i) (w.driver.waiting i) e) }
  | respond (w : Journal Msg ι) (id : ℕ) (r : NssCmnResponse)
      (t : State (keepingService Msg) ι) (hstep : Step x.Calls w.driver (.respond id r) t) :
      JournalStep x w (.driver (.respond id r))
        { w with
          driver := { t with done := t.done + completedAgain w.driver.mem }
          invoked := w.invoked ++ invocation w.driver.mem id r }

/-- Call `i` takes the callback out of its message. -/
theorem JournalStep.take {x : KeepingIf} {w : Journal Msg ι} (i : ι) {own : MsgCallback}
    {k : MsgCallback → (keepingService Msg).Asked TxStatus}
    (hcall : w.driver.calls i = .ask (.input (.callback own)) k) :
    JournalStep x w
      (.driver (.event i (.saw (.input (.callback own)) (w.msgs (w.ref i) : MsgCallback))))
      { w with
        driver := { w.driver with
          calls := Function.update w.driver.calls i (k (w.msgs (w.ref i))) }
        msgs := Function.update w.msgs (w.ref i) ⟨driverCallback, 0⟩
        woken := Function.update w.woken i (w.woken i) } :=
  .event w i _ _ 
    (Step.input (S := keepingService Msg) i (q := MsgInput.callback own) (w.msgs (w.ref i)) hcall) rfl

theorem JournalStep.why {x : KeepingIf} {w : Journal Msg ι} (i : ι) (why : TxFailure)
    {k : TxFailure → (keepingService Msg).Asked TxStatus}
    (hcall : w.driver.calls i = .ask (.input .txFailure) k) :
    JournalStep x w (.driver (.event i (.saw (.input .txFailure) (why : TxFailure))))
      { w with
        driver := { w.driver with calls := Function.update w.driver.calls i (k why) }
        woken := Function.update w.woken i (w.woken i) } :=
  .event w i _ _ 
    (Step.input (S := keepingService Msg) i (q := MsgInput.txFailure) why hcall) trivial

def Punctual (w : Journal Msg ι) : JournalLabel Msg ι → Prop
  | .driver (.respond id _) => ∃ owner msg, w.driver.requests[id]? = some (owner, msg) ∧
      w.driver.waiting owner = some id
  | _ => True

def Intact (w : Journal Msg ι) : JournalLabel Msg ι → Prop
  | .driver l => InTime w.driver l
  | .fill _ _ => True

structure JournalStart (w : Journal Msg ι) : Prop where
  driver : Start w.driver
  woken : ∀ i, w.woken i = none
  invoked : w.invoked = []

variable {w w' : Journal Msg ι} {i : ι} {x : KeepingIf} {t : State (keepingService Msg) ι}
  {e : (keepingService Msg).ServiceEvent} {l : JournalLabel Msg ι}
  {msgs given : ℕ → MsgCallback} {ref : ι → ℕ}

theorem Kept.event {p : (keepingService Msg).Asked TxStatus} (h : Kept w)
    (hfresh : ∀ id, w.driver.requests.length ≤ id → w.driver.answers id = none)
    (heffect : w.driver.Effect i e t) :
    Kept { w with
      driver := { t with calls := Function.update w.driver.calls i p }
      msgs := msgs
      woken := Function.update w.woken i (wokenBy (w.woken i) (w.driver.waiting i) e) } := by
  have hlinks := effect_links heffect
  have hrequests : ∀ {id : ℕ} {x}, w.driver.requests[id]? = some x → t.requests[id]? = some x :=
    fun h => hlinks.requests _ _ h
  refine ⟨fun j id hid => ?_, fun j id hid => ?_, fun j r hout => ?_, fun v hv => ?_, h.once,
    fun id r j msg hanswer hrequest => ?_⟩
  · by_cases hj : j = i
    · subst hj
      rcases hlinks.waiting [] id hid with hwas | ⟨msg, -, hnew⟩
      · obtain ⟨msg, hrequest⟩ := h.waiting j id hwas
        exact ⟨msg, hrequests hrequest⟩
      · exact ⟨msg, hnew⟩
    · obtain ⟨msg, hrequest⟩ := h.waiting j id ((hlinks.others j hj).1 ▸ hid)
      exact ⟨msg, hrequests hrequest⟩
  · dsimp only at hid
    by_cases hj : j = i
    · subst hj
      rw [Function.update_self] at hid
      have hwas : ∃ msg, w.driver.requests[id]? = some (j, msg) := by
        rcases hlinks.node (w.woken j) with hsame | hwaiting
        · exact h.woken j id (hsame ▸ hid)
        · exact h.waiting j id (hwaiting ▸ hid)
      obtain ⟨msg, hrequest⟩ := hwas
      exact ⟨msg, hrequests hrequest⟩
    · rw [Function.update_of_ne hj] at hid
      obtain ⟨msg, hrequest⟩ := h.woken j id hid
      exact ⟨msg, hrequests hrequest⟩
  · dsimp only at hout ⊢
    rw [hlinks.answers]
    by_cases hj : j = i
    · subst hj
      rw [Function.update_self]
      rcases hlinks.outcome (w.woken j) with ⟨hsame, hwoken⟩ | ⟨o, hadd, hnew⟩
      · rw [hwoken]
        exact h.outcome j r (hsame ▸ hout)
      · rw [hadd] at hout
        have hout : w.driver.outcomes j ++ [o] = [] ++ [some r] := hout
        obtain ⟨-, ho⟩ := List.append_inj' hout rfl
        exact hnew r (List.singleton_inj.mp ho)
    · rw [Function.update_of_ne hj]
      exact h.outcome j r ((hlinks.others j hj).2 ▸ hout)
  · obtain ⟨j, msg, hrequest, hown, hanswer⟩ := h.own v hv
    exact ⟨j, msg, hrequests hrequest, hown, hlinks.answers ▸ hanswer⟩
  · dsimp only at hanswer hrequest
    rw [hlinks.answers] at hanswer
    have hlt : id < w.driver.requests.length := by
      by_contra hge
      rw [hfresh id (Nat.le_of_not_lt hge)] at hanswer
      cases hanswer
    have hwas : w.driver.requests[id]? = some w.driver.requests[id] := List.getElem?_eq_getElem hlt
    obtain hsame := Option.some.inj ((hrequests hwas).symm.trans hrequest)
    exact h.complete id r j msg hanswer (hwas.trans (congrArg some hsame))

theorem Kept.start {p : (keepingService Msg).Asked TxStatus} (h : Kept w) :
    Kept { w with
      driver := { w.driver with
        calls := Function.update w.driver.calls i p
        woken := Function.update w.driver.woken i false
        outcomes := Function.update w.driver.outcomes i [] }
      ref := ref
      woken := Function.update w.woken i none } := by
  refine ⟨h.waiting, fun j id hid => ?_, fun j r hout => ?_, h.own, h.once, h.complete⟩
  · dsimp only at hid
    by_cases hj : j = i
    · subst hj
      rw [Function.update_self] at hid
      cases hid
    · rw [Function.update_of_ne hj] at hid
      exact h.woken j id hid
  · dsimp only at hout ⊢
    by_cases hj : j = i
    · subst hj
      rw [Function.update_self] at hout
      cases hout
    · rw [Function.update_of_ne hj] at hout ⊢
      exact h.outcome j r hout

theorem Kept.respond {id : ℕ} {r : NssCmnResponse} {owner : ι} {msg : KeptMsg Msg} (h : Kept w)
    (hrequest : w.driver.requests[id]? = some (owner, msg)) (hnew : w.driver.answers id = none)
    (hown : w.driver.mem.callback = msg.own) :
    Kept { w with
      driver := { w.driver.respond id owner msg r with
        done := (w.driver.respond id owner msg r).done + completedAgain w.driver.mem }
      invoked := w.invoked ++ invocation w.driver.mem id r } := by
  have hanswers : ∀ {id' r'}, w.driver.answers id' = some r' →
      Function.update w.driver.answers id (some r) id' = some r' := by
    intro id' r' hanswer
    have hne : id' ≠ id := by
      rintro rfl
      cases hnew.symm.trans hanswer
    rwa [Function.update_of_ne hne]
  have hself : Function.update w.driver.answers id (some r) id = some r := Function.update_self ..
  have hmem : ∀ v ∈ invocation w.driver.mem id r, v = ⟨msg.own, id, r⟩ := by
    intro v hv
    unfold invocation at hv
    split at hv
    · cases hv
    · rw [List.mem_singleton.mp hv, hown]
  refine ⟨h.waiting, h.woken, fun j r' hout => ?_, fun v hv => ?_, ?_,
    fun id' r' j msg' hanswer hrequest' hcb => ?_⟩
  · obtain ⟨id', hwoken, hanswer⟩ := h.outcome j r' hout
    exact ⟨id', hwoken, hanswers hanswer⟩
  · rcases List.mem_append.mp hv with hold | hlast
    · obtain ⟨j, msg', hrequest', hown', hanswer⟩ := h.own v hold
      exact ⟨j, msg', hrequest', hown', hanswers hanswer⟩
    · rw [hmem v hlast]
      exact ⟨owner, msg, hrequest, rfl, hself⟩
  · rw [List.map_append]
    refine List.nodup_append.mpr ⟨h.once, ?_, ?_⟩
    · unfold invocation
      split <;> simp
    · rintro _ hold _ hlast rfl
      obtain ⟨v, hv, hreq⟩ := List.mem_map.mp hold
      obtain ⟨v', hv', hreq'⟩ := List.mem_map.mp hlast
      obtain ⟨-, -, -, -, hanswer⟩ := h.own v hv
      rw [hreq, ← hreq', hmem v' hv', hnew] at hanswer
      cases hanswer
  · by_cases hid : id' = id
    · subst hid
      have hanswer : Function.update w.driver.answers id' (some r) id' = some r' := hanswer
      rw [Function.update_self] at hanswer
      obtain rfl := Option.some.inj hanswer
      obtain ⟨-, rfl⟩ := Prod.mk.inj (Option.some.inj (hrequest.symm.trans hrequest'))
      refine List.mem_append_right _ ?_
      unfold invocation
      rw [hown, if_neg (not_or.mpr ⟨hcb, msg.foreign⟩)]
      exact List.mem_singleton_self _
    · have hanswer : Function.update w.driver.answers id (some r) id' = some r' := hanswer
      rw [Function.update_of_ne hid] at hanswer
      exact List.mem_append_left _ (h.complete id' r' j msg' hanswer hrequest' hcb)

omit [DecidableEq ι] in
/-- The callback of the call that waits is in the slot until its response comes. -/
theorem slot_own {s : State (keepingService Msg) ι} {st : ι → Stage (keepingService Msg)}
    {id : ℕ} {owner : ι} {msg : KeptMsg Msg} (h : Tracks s st)
    (hrequest : s.requests[id]? = some (owner, msg)) (hnew : s.answers id = none)
    (hwaiting : s.waiting owner = some id) : s.mem.callback = msg.own := by
  have hplaced := h.placed owner
  generalize st owner = stage at hplaced
  cases stage with
  | sent os msg' pvt =>
    obtain ⟨-, id', hid', hrequest', -, hready, hanswer⟩ := hplaced
    obtain rfl : id' = id := Option.some.inj (hid'.symm.trans hwaiting)
    obtain rfl : msg' = msg := (Prod.mk.inj (Option.some.inj (hrequest'.symm.trans hrequest))).2
    rcases hanswer with ⟨-, hdrift, -⟩ | ⟨r, -, hr, -⟩
    · exact hready _ hdrift
    · cases hr.symm.trans hnew
  | outside os known => cases hplaced.2.1.symm.trans hwaiting
  | inside os pvt => cases hplaced.2.1.symm.trans hwaiting
  | answered os pvt => cases hplaced.2.1.symm.trans hwaiting

omit [DecidableEq ι] in
theorem JournalStart.kept (h : JournalStart w) : Kept w := by
  refine ⟨fun i id hid => ?_, fun i id hid => ?_, fun i r hout => ?_, ?_, ?_,
    fun id r i msg hanswer => ?_⟩
  · cases (h.driver.waiting i).symm.trans hid
  · cases (h.woken i).symm.trans hid
  · cases (h.driver.outcomes i).symm.trans hout
  · rw [h.invoked]
    exact nofun
  · rw [h.invoked]
    exact .nil
  · cases (h.driver.answers id).symm.trans hanswer

/-- The driver keeps to the protocol, and the journal is true. -/
structure Ordered (w : Journal Msg ι) : Prop where
  tracks : ∃ st, Tracks w.driver st
  kept : Kept w

theorem obeys_send (x : KeepingIf) (p : (keepingService Msg).Asked TxStatus) (h : x.Calls p) :
    Obeys p (.outside [] none) := by
  obtain ⟨msg, rfl⟩ := h
  cases x with
  | mapT => exact obeys_msgSyncKeeping msg
  | dtls => exact obeys_msgSyncKeeping msg
  | pptp => exact obeys_msgSyncKeeping msg

theorem completedAgain_foreign {pvt : MsgPvt} {msg : KeptMsg Msg} (h : pvt.callback = msg.own) :
    completedAgain pvt = 0 := by
  unfold completedAgain
  rw [h, if_neg msg.foreign]

theorem Ordered.step (h : Ordered w) (hstep : JournalStep x w l w') (hok : Intact w l) :
    Ordered w' := by
  obtain ⟨⟨st, htracks⟩, hkept⟩ := h
  cases hstep with
  | fill addr own hfree =>
    exact ⟨⟨st, htracks⟩, { hkept with }⟩
  | start i addr msg a hidle hgiven =>
    have hcall : x.Calls (x.send msg) := ⟨msg, rfl⟩
    exact ⟨⟨_, htracks.start hidle (obeys_send x _ hcall)⟩, hkept.start⟩
  | event i e t hstep hreads =>
    refine ⟨htracks.step (obeys_send x) hstep hok, ?_⟩
    cases hstep with
    | event i e p t hnext heffect => exact hkept.event htracks.fresh heffect
  | respond id r t hstep =>
    have hnext := htracks.step (obeys_send x) hstep hok
    obtain ⟨owner, msg, hrequest, hwaiting⟩ := hok
    cases hstep with
    | respond id owner' msg' r hrequest' hnew =>
      obtain ⟨rfl, rfl⟩ := Prod.mk.inj (Option.some.inj (hrequest'.symm.trans hrequest))
      have hown := slot_own htracks hrequest hnew hwaiting
      refine ⟨?_, hkept.respond hrequest hnew hown⟩
      rw [completedAgain_foreign hown]
      exact hnext

omit [DecidableEq ι] in
theorem Ordered.delivered (h : Ordered w) : Delivered w := by
  obtain ⟨⟨st, htracks⟩, hkept⟩ := h
  refine ⟨hkept.own, hkept.once, fun i hret => ?_⟩
  have hreturns : w.driver.outcomes i = [some NssCmnResponse.NSS_CMN_RESPONSE_ACK] :=
    (htracks.sound.returns i _ hret).mp rfl
  obtain ⟨id, hwoken, hanswer⟩ := hkept.outcome i _ hreturns
  obtain ⟨msg, hrequest⟩ := hkept.woken i id hwoken
  exact ⟨id, msg, hwoken, hrequest, hanswer, hkept.complete id _ i msg hanswer hrequest⟩

/-- In a run whose responses come while their calls wait, and whose messages carry
    what the callers have given, each callback serves its own request. -/
theorem callbacks_delivered (x : KeepingIf)
    (h : Reachable JournalStart (Guarded (JournalStep x) Intact) w) : Delivered w := by
  have hordered : Ordered w := by
    refine h.invariant Ordered (fun w hw => ?_) fun w l w' hw ⟨hstep, hok⟩ => hw.step hstep hok
    exact ⟨hw.driver.tracks, hw.kept⟩
  exact hordered.delivered

end Runs

abbrev hello : KeptMsg ℕ := ⟨⟨11, 5⟩, 0, by decide⟩
abbrev bye : KeptMsg ℕ := ⟨⟨12, 7⟩, 0, by decide⟩

def quiet : Journal ℕ Bool where
  driver :=
    { mem := ⟨.success, ⟨0, 0⟩⟩
      done := 0
      sem := none
      calls := fun _ => .ret (.refused .failure : TxStatus)
      requests := []
      answers := fun _ => none
      waiting := fun _ => none
      woken := fun _ => false
      outcomes := fun _ => []
      intruded := fun _ => false }
  msgs _ := ⟨0, 0⟩
  given _ := ⟨0, 0⟩
  ref _ := 0
  woken _ := none
  invoked := []

theorem quiet_start : JournalStart quiet where
  driver := ⟨rfl, rfl, fun _ => ⟨_, rfl, nofun, nofun⟩, rfl, fun _ => rfl, fun _ => rfl,
    fun _ => rfl, fun _ => rfl⟩
  woken _ := rfl
  invoked := rfl

theorem starting_read {calls : Bool → (keepingService ℕ).Asked TxStatus} {status : TxStatus}
    (hself : calls true = nssDtlsTxMsgSync hello) (hother : calls false = .ret status) (j : Bool) :
    ¬ Unread (calls j) := by
  rintro ⟨k, hk⟩
  cases j with
  | true => cases hself.symm.trans hk
  | false => cases hother.symm.trans hk

theorem returned {calls : Bool → (keepingService ℕ).Asked TxStatus} {status status' : TxStatus}
    (hself : calls true = .ret status) (hother : calls false = .ret status') (i : Bool) :
    ∃ a, calls i = .ret a := by
  cases i with
  | true => exact ⟨_, hself⟩
  | false => exact ⟨_, hother⟩

/-- A DTLS message that does not go out, that its caller fills and sends again, and
    that the firmware acknowledges while the call waits. -/
theorem callbacks_delivered_refilled : ∃ w : Journal ℕ Bool,
    w.driver.calls true = .ret (.success : TxStatus) ∧
      w.invoked = [⟨hello.own, 0, .NSS_CMN_RESPONSE_ACK⟩] ∧ Delivered w := by
  have hfill : Reachable JournalStart (Guarded (JournalStep .dtls) Intact) _ :=
    (Reachable.start quiet_start).next
      ⟨.fill _ 0 hello.own fun i _ => returned rfl rfl i, trivial⟩
  have hstart := hfill.next ⟨.start _ true 0 hello _ rfl rfl, trivial⟩
  have hdown := hstart.next
    ⟨.event _ true _ _ (.down true rfl rfl) trivial, starting_read rfl rfl⟩
  have htake := hdown.next ⟨.take true rfl, rfl⟩
  have hpark := htake.next ⟨.event _ true _ _ (.assign true rfl) trivial, trivial⟩
  have hfull := hpark.next ⟨.event _ true _ _ (.refused true rfl) trivial, trivial⟩
  have hwhy := hfull.next ⟨.why true .failureQueue rfl, trivial⟩
  have hgive := hwhy.next ⟨.event _ true _ _ (.up true rfl) trivial, trivial⟩
  have hfill' := hgive.next ⟨.fill _ 0 hello.own fun i _ => returned rfl rfl i, trivial⟩
  have hstart' := hfill'.next ⟨.start _ true 0 hello _ rfl rfl, trivial⟩
  have hdown' := hstart'.next
    ⟨.event _ true _ _ (.down true rfl rfl) trivial, starting_read rfl rfl⟩
  have htake' := hdown'.next ⟨.take true rfl, rfl⟩
  have hpark' := htake'.next ⟨.event _ true _ _ (.assign true rfl) trivial, trivial⟩
  have hsend' := hpark'.next ⟨.event _ true _ _ (.send true rfl) trivial, trivial⟩
  have hack := hsend'.next ⟨.respond _ 0 NssCmnResponse.NSS_CMN_RESPONSE_ACK _
    (.respond _ 0 true hello _ rfl rfl), _, _, rfl, rfl⟩
  have hwake := hack.next ⟨.event _ true _ _ (.wake true rfl (by decide)) trivial, trivial⟩
  have hload := hwake.next ⟨.event _ true _ _ (.load true rfl) trivial, trivial⟩
  have hup := hload.next ⟨.event _ true _ _ (.up true rfl) trivial, trivial⟩
  exact ⟨_, rfl, rfl, callbacks_delivered .dtls hup⟩

/-- Neither half of the condition is enough. The response to a call that has timed
    out runs the callback of the next one; and a message that has not gone out and
    is sent again as it is parks the callback of the driver, so that of its caller
    never runs. -/
theorem callbacks_not_delivered :
    (¬ ∀ (x : KeepingIf) (w : Journal ℕ Bool), Reachable JournalStart (JournalStep x) w →
      Delivered w) ∧
    ¬ ∀ (x : KeepingIf) (w : Journal ℕ Bool),
      Reachable JournalStart (Guarded (JournalStep x) Punctual) w → Delivered w := by
  refine ⟨fun hall => ?_, fun hall => ?_⟩
  · have hfill : Reachable JournalStart (JournalStep .dtls) _ := (Reachable.start quiet_start).next
      (.fill _ 0 hello.own fun i _ => returned rfl rfl i)
    have hstart := hfill.next (.start _ true 0 hello _ rfl rfl)
    have hdown := hstart.next (.event _ true _ _ (.down true rfl rfl) trivial)
    have htake := hdown.next (.take true rfl)
    have hpark := htake.next (.event _ true _ _ (.assign true rfl) trivial)
    have hsend := hpark.next (.event _ true _ _ (.send true rfl) trivial)
    have htimeout := hsend.next (.event _ true _ _ (.timeout true rfl rfl) trivial)
    have hfail := htimeout.next (.event _ true _ _ (.assign true rfl) trivial)
    have hload := hfail.next (.event _ true _ _ (.load true rfl) trivial)
    have hup := hload.next (.event _ true _ _ (.up true rfl) trivial)
    have hfill' := hup.next (.fill _ 1 bye.own fun i _ => returned rfl rfl i)
    have hstart' := hfill'.next (.start _ false 1 bye _ rfl rfl)
    have hdown' := hstart'.next (.event _ false _ _ (.down false rfl rfl) trivial)
    have htake' := hdown'.next (.take false rfl)
    have hpark' := htake'.next (.event _ false _ _ (.assign false rfl) trivial)
    have hsend' := hpark'.next (.event _ false _ _ (.send false rfl) trivial)
    have hlate := hsend'.next (.respond _ 0 NssCmnResponse.NSS_CMN_RESPONSE_ACK _
      (.respond _ 0 true hello _ rfl rfl))
    obtain ⟨i, msg, hrequest, hown, -⟩ := (hall .dtls _ hlate).own
      ⟨bye.own, 0, .NSS_CMN_RESPONSE_ACK⟩ (List.mem_singleton_self _)
    obtain ⟨-, rfl⟩ := Prod.mk.inj (Option.some.inj hrequest)
    cases hown
  · have hfill : Reachable JournalStart (Guarded (JournalStep .dtls) Punctual) _ :=
      (Reachable.start quiet_start).next
        ⟨.fill _ 0 hello.own fun i _ => returned rfl rfl i, trivial⟩
    have hstart := hfill.next ⟨.start _ true 0 hello _ rfl rfl, trivial⟩
    have hdown := hstart.next ⟨.event _ true _ _ (.down true rfl rfl) trivial, trivial⟩
    have htake := hdown.next ⟨.take true rfl, trivial⟩
    have hpark := htake.next ⟨.event _ true _ _ (.assign true rfl) trivial, trivial⟩
    have hfull := hpark.next ⟨.event _ true _ _ (.refused true rfl) trivial, trivial⟩
    have hwhy := hfull.next ⟨.why true .failureQueue rfl, trivial⟩
    have hgive := hwhy.next ⟨.event _ true _ _ (.up true rfl) trivial, trivial⟩
    have hstart' := hgive.next ⟨.start _ true 0 hello _ rfl rfl, trivial⟩
    have hdown' := hstart'.next ⟨.event _ true _ _ (.down true rfl rfl) trivial, trivial⟩
    have htake' := hdown'.next ⟨.take true rfl, trivial⟩
    have hpark' := htake'.next ⟨.event _ true _ _ (.assign true rfl) trivial, trivial⟩
    have hsend' := hpark'.next ⟨.event _ true _ _ (.send true rfl) trivial, trivial⟩
    have hack := hsend'.next ⟨.respond _ 0 NssCmnResponse.NSS_CMN_RESPONSE_ACK _
      (.respond _ 0 true hello _ rfl rfl), _, _, rfl, rfl⟩
    have hwake := hack.next ⟨.event _ true _ _ (.wake true rfl (by decide)) trivial, trivial⟩
    have hload := hwake.next ⟨.event _ true _ _ (.load true rfl) trivial, trivial⟩
    have hup := hload.next ⟨.event _ true _ _ (.up true rfl) trivial, trivial⟩
    obtain ⟨id, msg, -, hrequest, -, hrun⟩ := (hall .dtls _ hup).acked true rfl
    obtain ⟨j, hsent⟩ : ∃ j, [(true, hello)][id]? = some (j, msg) := ⟨true, hrequest⟩
    obtain ⟨-, rfl⟩ := List.mem_singleton.mp (List.mem_of_getElem? hsent)
    cases hrun nofun

end NssDrv.ParkedCallbacks

import NssDrv.SyncRequest
import NssDrv.ThreadRuns

set_option autoImplicit false

/-!
# Blocking requests one after the other

The calls of a service alone. Responses come at any time, also when nobody waits
for them any more.
-/
namespace SequentialRequests
open CallTree SyncRequest ThreadRuns Relation

/-- The other end: its `answers` say what a response requires of it and does to it. -/
structure Peer (S : Service) where
  State : Type
  acks : S.Resp → Bool
  answers : State → S.Msg → S.Resp → State → Prop

structure Arrival (S : Service) where
  msg : S.Msg
  resp : S.Resp
  late : Bool

/-- The request that is waited for, the ones that are not any more, and all
    responses so far. -/
structure Line (S : Service) (F : Peer S) where
  mem : S.Mem
  done : ℕ
  peer : F.State
  awaited : Option S.Msg
  expired : List S.Msg
  arrived : List (Arrival S)

variable {S : Service} {F : Peer S}

namespace Line

def receive (l : Line S F) (m : S.Msg) (r : S.Resp) (late : Bool) (f : F.State) : Line S F :=
  { l with
    mem := S.callback m r l.mem
    done := l.done + 1
    peer := f
    arrived := l.arrived ++ [⟨m, r, late⟩] }

def giveUp (l : Line S F) : Line S F :=
  { l with awaited := none, expired := l.expired ++ l.awaited.toList }

def request (l : Line S F) (m : S.Msg) : Line S F := { l.giveUp with awaited := some m }

end Line

inductive Arrives : Line S F → Line S F → Prop where
  | awaited (l : Line S F) (m : S.Msg) (r : S.Resp) (f : F.State) (hawaited : l.awaited = some m)
      (hanswers : F.answers l.peer m r f) : Arrives l { l.receive m r false f with awaited := none }
  | expired (l : Line S F) (before : List S.Msg) (m : S.Msg) (after : List S.Msg) (r : S.Resp)
      (f : F.State) (hexpired : l.expired = before ++ m :: after)
      (hanswers : F.answers l.peer m r f) :
      Arrives l { l.receive m r true f with expired := before ++ after }

variable (user : (q : S.Input) → S.Mem → S.Ans q)

/-- What an event of the call requires and does, given what it reads from outside. -/
def act (l : Line S F) : S.ServiceEvent → Line S F → Prop
  | .did .down, t => t = l
  | .did .up, t => t = l
  | .did (.write f), t => t = { l with mem := f l.mem }
  | .saw .get v, t => v = l.mem ∧ t = l
  | .saw (.send m) went, t => t = if (went : Bool) then l.request m else l
  | .saw .wait woken, t =>
    if (woken : Bool) then l.done > 0 ∧ t = { l.giveUp with done := l.done - 1 }
    else l.done = 0 ∧ t = l.giveUp
  | .saw (.input q) a, t => a = user q l.mem ∧ t = l

/-- Responses come before any event. -/
def effect (l : Line S F) (e : S.ServiceEvent) (t : Line S F) : Prop :=
  ∃ u, ReflTransGen Arrives l u ∧ act user u e t

/-- Nothing is waited for, and the completion is drained. -/
structure Quiet (l : Line S F) : Prop where
  awaited : l.awaited = none
  done : l.done = 0

def Punctual (l : Line S F) : Prop := ∀ x ∈ l.arrived, x.late = false

/-- The responses that have come from `l` to `t`. -/
def since (l t : Line S F) : List (Arrival S) := t.arrived.drop l.arrived.length

section Arrivals
variable {l t u : Line S F} {user} {m : S.Msg}

theorem Punctual.of_grows (h : Punctual t) (hgrows : l.arrived <+: t.arrived) : Punctual l :=
  fun x hx => h x (hgrows.subset hx)

theorem Arrives.arrived_grows (h : Arrives l t) : l.arrived <+: t.arrived := by
  cases h with
  | awaited => exact List.prefix_append _ _
  | expired => exact List.prefix_append _ _

theorem settle_grows (h : ReflTransGen Arrives l t) : l.arrived <+: t.arrived := by
  induction h with
  | refl => exact List.prefix_refl _
  | tail _ last ih => exact ih.trans last.arrived_grows

theorem act_arrived {e : S.ServiceEvent} (h : act user l e t) : t.arrived = l.arrived := by
  match e with
  | .did .down => rw [h]
  | .did .up => rw [h]
  | .did (.write f) =>
    obtain rfl := h
    rfl
  | .saw .get v => rw [h.2]
  | .saw (.send m) true =>
    obtain rfl := h
    rfl
  | .saw (.send m) false =>
    obtain rfl := h
    rfl
  | .saw .wait true =>
    obtain ⟨-, rfl⟩ := h
    rfl
  | .saw .wait false =>
    obtain ⟨-, rfl⟩ := h
    rfl
  | .saw (.input q) a => rw [h.2]

theorem effect_grows {e : S.ServiceEvent} (h : effect user l e t) : l.arrived <+: t.arrived := by
  obtain ⟨u, hsettle, hact⟩ := h
  rw [act_arrived hact]
  exact settle_grows hsettle

theorem exec_grows {p : S.Asked S.Result} {r : Option S.Result}
    (h : Exec (effect user) l p t r) : l.arrived <+: t.arrived := by
  induction h with
  | ret => exact List.prefix_refl _
  | halt => exact List.prefix_refl _
  | next _ heffect _ ih => exact (effect_grows heffect).trans ih

theorem settle_quiet (h : ReflTransGen Arrives l t) (hawaited : l.awaited = none)
    (hpunctual : Punctual t) : t = l := by
  induction h with
  | refl => rfl
  | @tail u t hsettle last ih =>
    obtain rfl := ih (hpunctual.of_grows last.arrived_grows)
    cases last with
    | awaited m r f hsome => cases hawaited.symm.trans hsome
    | expired before m after r f =>
      have hlate := hpunctual ⟨m, r, true⟩ (List.mem_append_right _ (List.mem_singleton_self _))
      cases hlate

/-- Where a request is waited for, its response is the only one that could come. -/
theorem settle_awaited (h : ReflTransGen Arrives l t) (hawaited : l.awaited = some m)
    (hpunctual : Punctual t) :
    t = l ∨ ∃ r f, F.answers l.peer m r f ∧ t = { l.receive m r false f with awaited := none } := by
  rcases ReflTransGen.cases_head h with rfl | ⟨u, first, hrest⟩
  · exact .inl rfl
  · cases first with
    | awaited m' r f hsome hanswers =>
      obtain rfl : m = m' := Option.some.inj (hawaited.symm.trans hsome)
      exact .inr ⟨r, f, hanswers, settle_quiet hrest rfl hpunctual⟩
    | expired before m' after r f =>
      have hmem : ⟨m', r, true⟩ ∈ t.arrived := (settle_grows hrest).subset
        (List.mem_append_right _ (List.mem_singleton_self _))
      cases hpunctual _ hmem

end Arrivals

section Rules
variable {user} {l t : Line S F} {r : Option S.Result} {e : S.ServiceEvent}

theorem effect_quiet {p : S.Asked S.Result} {u : Line S F} (heffect : effect user l e u)
    (hrest : Exec (effect user) u p t r) (hl : Quiet l) (hpunctual : Punctual t) :
    act user l e u := by
  obtain ⟨v, hsettle, hact⟩ := heffect
  have hgrows : v.arrived <+: t.arrived := act_arrived hact ▸ exec_grows hrest
  obtain rfl := settle_quiet hsettle hl.awaited (hpunctual.of_grows hgrows)
  exact hact

theorem exec_down {k : Unit → S.Asked S.Result} (h : Exec (effect user) l (down >>= k) t r)
    (hl : Quiet l) (hpunctual : Punctual t) : Exec (effect user) l (k ()) t r := by
  obtain ⟨u, heffect, hrest⟩ := exec_tell (c := Command.down) h
  obtain rfl : u = l := effect_quiet heffect hrest hl hpunctual
  exact hrest

theorem exec_up {k : Unit → S.Asked S.Result} (h : Exec (effect user) l (up >>= k) t r)
    (hl : Quiet l) (hpunctual : Punctual t) : Exec (effect user) l (k ()) t r := by
  obtain ⟨u, heffect, hrest⟩ := exec_tell (c := Command.up) h
  obtain rfl : u = l := effect_quiet heffect hrest hl hpunctual
  exact hrest

theorem exec_assign {f : S.Mem → S.Mem} {k : Unit → S.Asked S.Result}
    (h : Exec (effect user) l (assign f >>= k) t r) (hl : Quiet l) (hpunctual : Punctual t) :
    Exec (effect user) { l with mem := f l.mem } (k ()) t r := by
  obtain ⟨u, heffect, hrest⟩ := exec_tell (c := Command.write f) h
  obtain rfl : u = { l with mem := f l.mem } := effect_quiet heffect hrest hl hpunctual
  exact hrest

theorem exec_load {k : S.Mem → S.Asked S.Result} (h : Exec (effect user) l (load >>= k) t r)
    (hl : Quiet l) (hpunctual : Punctual t) : Exec (effect user) l (k l.mem) t r := by
  rcases exec_ask (q := Query.get) h with ⟨-, -, hempty⟩ | ⟨v, u, heffect, hrest⟩
  · exact (hempty.false l.mem).elim
  · obtain ⟨rfl, rfl⟩ := effect_quiet heffect hrest hl hpunctual
    exact hrest

theorem exec_input {q : S.Input} {k : S.Ans q → S.Asked S.Result}
    (h : Exec (effect user) l (input q >>= k) t r) (hl : Quiet l) (hpunctual : Punctual t) :
    Exec (effect user) l (k (user q l.mem)) t r := by
  rcases exec_ask (q := Query.input q) h with ⟨-, -, hempty⟩ | ⟨a, u, heffect, hrest⟩
  · exact (hempty.false (user q l.mem)).elim
  · obtain ⟨rfl, rfl⟩ := effect_quiet heffect hrest hl hpunctual
    exact hrest

theorem exec_send {m : S.Msg} {k : Bool → S.Asked S.Result}
    (h : Exec (effect user) l (send m >>= k) t r) (hl : Quiet l) (hpunctual : Punctual t) :
    Exec (effect user) l (k false) t r ∨
      Exec (effect user) { l with awaited := some m } (k true) t r := by
  rcases exec_ask (q := Query.send m) h with ⟨-, -, hempty⟩ | ⟨went, u, heffect, hrest⟩
  · exact (hempty.false true).elim
  · have hact : u = if went = true then l.request m else l :=
      effect_quiet heffect hrest hl hpunctual
    cases went with
    | false =>
      obtain rfl : u = l := hact
      exact .inl hrest
    | true =>
      have hrequest : l.request m = { l with awaited := some m } := by
        unfold Line.request Line.giveUp
        rw [hl.awaited, Option.toList_none, List.append_nil]
      obtain rfl : u = { l with awaited := some m } := hact.trans hrequest
      exact .inr hrest

def Line.timedOut (l : Line S F) (m : S.Msg) : Line S F := { l with expired := l.expired ++ [m] }

def Line.answered (l : Line S F) (m : S.Msg) (a : S.Resp) (f : F.State) : Line S F :=
  { l with
    mem := S.callback m a l.mem
    peer := f
    arrived := l.arrived ++ [⟨m, a, false⟩] }

theorem quiet_timedOut {m : S.Msg} (hl : Quiet l) : Quiet (l.timedOut m) := ⟨hl.awaited, hl.done⟩

theorem quiet_answered {m : S.Msg} {a : S.Resp} {f : F.State} (hl : Quiet l) :
    Quiet (l.answered m a f) := ⟨hl.awaited, hl.done⟩

theorem quiet_write {f : S.Mem → S.Mem} (hl : Quiet l) :
    Quiet (F := F) { l with mem := f l.mem } := ⟨hl.awaited, hl.done⟩

theorem since_answered {l' : Line S F} {m : S.Msg} {a : S.Resp} {f : F.State}
    (h : l'.arrived = l.arrived) : since l (l'.answered m a f) = [⟨m, a, false⟩] := by
  unfold since
  rw [← h]
  exact List.drop_left

theorem exec_wait {m : S.Msg} {k : Bool → S.Asked S.Result}
    (h : Exec (effect user) { l with awaited := some m } (wait >>= k) t r) (hl : Quiet l)
    (hpunctual : Punctual t) :
    Exec (effect user) (l.timedOut m) (k false) t r ∨
      ∃ a f, F.answers l.peer m a f ∧ Exec (effect user) (l.answered m a f) (k true) t r := by
  obtain ⟨hawaited, hdone⟩ := hl
  rcases exec_ask (q := Query.wait) h with ⟨-, -, hempty⟩ | ⟨woken, u, ⟨v, hsettle, hact⟩, hrest⟩
  · exact (hempty.false true).elim
  · have hgrows : v.arrived <+: t.arrived := act_arrived hact ▸ exec_grows hrest
    rcases settle_awaited hsettle rfl (hpunctual.of_grows hgrows) with
      rfl | ⟨a, f, hanswers, rfl⟩
    · cases woken with
      | true => exact absurd (hdone ▸ hact.1) (Nat.lt_irrefl 0)
      | false =>
        obtain rfl : u = l.timedOut m := by
          rw [hact.2]
          simp [Line.giveUp, Line.timedOut, hawaited]
        exact .inl hrest
    · cases woken with
      | false => exact absurd hact.1 (Nat.succ_ne_zero _)
      | true =>
        obtain rfl : u = l.answered m a f := by
          rw [hact.2]
          simp [Line.giveUp, Line.receive, Line.answered, hawaited, hdone]
        exact .inr ⟨a, f, hanswers, hrest⟩

end Rules

theorem exec_request {user : (q : S.Input) → S.Mem → S.Ans q} {l t : Line S F}
    {r : Option S.Result} {m : S.Msg} {failed : S.Mem → Bool} {fail ok : S.Asked S.Result}
    (h : Exec (effect user) l (SyncRequest.request m failed fail ok) t r) (hl : Quiet l)
    (hpunctual : Punctual t) :
    Exec (effect user) l fail t r ∨ Exec (effect user) (l.timedOut m) fail t r ∨
      ∃ a f, F.answers l.peer m a f ∧
        Exec (effect user) (l.answered m a f)
          (if failed (S.callback m a l.mem) then fail else ok) t r := by
  rcases exec_send h hl hpunctual with hfail | hsent
  · exact .inl hfail
  · rcases exec_wait hsent hl hpunctual with hfail | ⟨a, f, hanswers, hwoken⟩
    · exact .inr (.inl hfail)
    · exact .inr (.inr ⟨a, f, hanswers, exec_load hwoken (quiet_answered hl) hpunctual⟩)

end SequentialRequests

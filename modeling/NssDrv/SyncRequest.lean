import Mathlib.Data.Nat.Notation
import Mathlib.Logic.Function.Basic
import NssDrv.CallTree
import NssDrv.TransitionRuns

set_option autoImplicit false

/-!
# Blocking requests over a semaphore and a completion

Calls that take a semaphore, send a request, wait for a completion with a
timeout and read what the callback of the response has stored. A response does
not say which request it answers, and nothing drains the completion.
-/
namespace SyncRequest
open CallTree TransitionRuns

inductive Command (M : Type) where
  | down
  | up
  | write (f : M → M)

/-- `wait` answers whether the completion came before the timeout, `send`
    whether the message went out. -/
inductive Query (μ θ : Type) where
  | get
  | send (m : μ)
  | wait
  | input (q : θ)

abbrev Answer (M : Type) {μ θ : Type} (A : θ → Type) : Query μ θ → Type
  | .get => M
  | .send _ => Bool
  | .wait => Bool
  | .input q => A q

/-- One semaphore, one completion and the memory that the callback writes.
    `home` tells whether the response comes back to this completion, `Shared`
    whether the responses to requests of others may, `Ready` what a call has
    prepared for its request, `Fair` which inputs a run may see, `Drift` what the
    memory may become without a request, and `Returns` is what a result must be,
    given the response to each request of the call or its absence. -/
structure Service where
  Mem : Type
  Msg : Type
  Resp : Type
  Result : Type
  Input : Type
  Ans : Input → Type
  home : Msg → Bool
  Shared : Prop
  Ready : Msg → Mem → Prop
  callback : Msg → Resp → Mem → Mem
  Fair : (q : Input) → Ans q → Prop
  Drift : Mem → Mem → Prop
  drift_refl : ∀ s, Drift s s
  drift_trans : ∀ s t u, Drift s t → Drift t u → Drift s u
  Returns : List (Option Resp) → Result → Prop

namespace Service

abbrev Asked (S : Service) (α : Type) : Type :=
  Call (Command S.Mem) (Answer (μ := S.Msg) S.Mem S.Ans) α

abbrev ServiceEvent (S : Service) : Type :=
  Event (Command S.Mem) (Answer (μ := S.Msg) S.Mem S.Ans)

end Service

section Operations
variable {S : Service}

def down : S.Asked Unit := Call.command .down
def up : S.Asked Unit := Call.command .up
def assign (f : S.Mem → S.Mem) : S.Asked Unit := Call.command (.write f)
def load : S.Asked S.Mem := .ask .get .ret
def send (m : S.Msg) : S.Asked Bool := .ask (.send m) .ret
def wait : S.Asked Bool := .ask .wait .ret
def input (q : S.Input) : S.Asked (S.Ans q) := .ask (.input q) .ret

/-- Waits for the response and looks at what the callback has left, with one exit
    for every failure. -/
def awaitResponse (failed : S.Mem → Bool) (fail ok : S.Asked S.Result) : S.Asked S.Result := do
  if !(← wait) then fail
  else if failed (← load) then fail
  else ok

def request (m : S.Msg) (failed : S.Mem → Bool) (fail ok : S.Asked S.Result) :
    S.Asked S.Result := do
  if !(← send m) then fail else awaitResponse failed fail ok

end Operations

/-- The calls in progress, the requests sent so far with their owners, and the
    responses to them. Ghosts: the request that a call still waits for, whether
    it has been woken since its `down`, the responses that it has had in time,
    and whether something else reached the memory while it held the semaphore. -/
structure State (S : Service) (ι : Type) where
  mem : S.Mem
  done : ℕ
  sem : Option ι
  calls : ι → S.Asked S.Result
  requests : List (ι × S.Msg)
  answers : ℕ → Option S.Resp
  waiting : ι → Option ℕ
  woken : ι → Bool
  outcomes : ι → List (Option S.Resp)
  intruded : ι → Bool

variable {S : Service} {ι : Type}

inductive Label (S : Service) (ι : Type) where
  | start (i : ι)
  | event (i : ι) (e : S.ServiceEvent)
  | respond (id : ℕ) (r : S.Resp)
  | strayResponse (m : S.Msg) (r : S.Resp)
  | drift (t : S.Mem)

section Runs
variable [DecidableEq ι]

namespace State

/-- Someone other than the holder of the semaphore writes. -/
def intrude (s : State S ι) : ι → Bool :=
  match s.sem with
  | none => s.intruded
  | some j => Function.update s.intruded j true

def outcome (s : State S ι) (i : ι) (o : Option S.Resp) : ι → List (Option S.Resp) :=
  Function.update s.outcomes i (s.outcomes i ++ [o])

/-- What an event of call `i` requires and does. -/
def Effect (s : State S ι) (i : ι) : S.ServiceEvent → State S ι → Prop
  | .did .down, t => s.sem = none ∧ t = { s with
      sem := some i
      woken := Function.update s.woken i false
      intruded := Function.update s.intruded i false }
  | .did .up, t => t = { s with sem := none }
  | .did (.write f), t => t = { s with
      mem := f s.mem
      intruded := if s.sem = some i then s.intruded else s.intrude }
  | .saw .get v, t => v = s.mem ∧ t = s
  | .saw (.send m) went, t =>
    t = if (went : Bool) then { s with
          requests := s.requests ++ [(i, m)]
          waiting := Function.update s.waiting i (some s.requests.length) }
        else { s with outcomes := s.outcome i none }
  | .saw .wait woken, t =>
    if (woken : Bool) then s.done > 0 ∧ t = { s with
        done := s.done - 1
        waiting := Function.update s.waiting i none
        woken := Function.update s.woken i true
        outcomes := s.outcome i ((s.waiting i).bind s.answers) }
      else s.done = 0 ∧ t = { s with
        waiting := Function.update s.waiting i none
        outcomes := s.outcome i none }
  | .saw (.input _) _, t => t = s

/-- The response to a request, which runs the callback where it comes home. -/
def respond (s : State S ι) (id : ℕ) (owner : ι) (m : S.Msg) (r : S.Resp) : State S ι :=
  let s' : State S ι := { s with answers := Function.update s.answers id (some r) }
  if S.home m then { s' with
      mem := S.callback m r s.mem
      done := s.done + 1
      intruded := if s.waiting owner = some id then s.intruded else s.intrude }
    else s'

end State

inductive Step (Calls : S.Asked S.Result → Prop) : State S ι → Label S ι → State S ι → Prop where
  | start (s : State S ι) (i : ι) (p : S.Asked S.Result) (a : S.Result)
      (hidle : s.calls i = .ret a) (hcall : Calls p) :
      Step Calls s (.start i)
        { s with
          calls := Function.update s.calls i p
          woken := Function.update s.woken i false
          outcomes := Function.update s.outcomes i [] }
  | event (s : State S ι) (i : ι) (e : S.ServiceEvent) (p : S.Asked S.Result) (t : State S ι)
      (hnext : Next (s.calls i) e p) (heffect : s.Effect i e t) :
      Step Calls s (.event i e) { t with calls := Function.update s.calls i p }
  | respond (s : State S ι) (id : ℕ) (owner : ι) (m : S.Msg) (r : S.Resp)
      (hrequest : s.requests[id]? = some (owner, m)) (hnew : s.answers id = none) :
      Step Calls s (.respond id r) (s.respond id owner m r)
  /-- A response to a request that was sent over another completion. -/
  | strayResponse (s : State S ι) (m : S.Msg) (r : S.Resp) (hshared : S.Shared) :
      Step Calls s (.strayResponse m r)
        { s with mem := S.callback m r s.mem, done := s.done + 1, intruded := s.intrude }
  | drift (s : State S ι) (t : S.Mem) (h : S.Drift s.mem t) :
      Step Calls s (.drift t) { s with mem := t }

section Steps
variable {Calls : S.Asked S.Result → Prop} {s : State S ι} {k : S.Asked S.Result}

theorem Step.down (i : ι) (hcall : s.calls i = .tell .down k) (hsem : s.sem = none) :
    Step Calls s (.event i (.did .down))
      { s with
        sem := some i
        calls := Function.update s.calls i k
        woken := Function.update s.woken i false
        intruded := Function.update s.intruded i false } :=
  .event s i (.did .down) k _ (.of_tell hcall) ⟨hsem, rfl⟩

theorem Step.up (i : ι) (hcall : s.calls i = .tell .up k) :
    Step Calls s (.event i (.did .up))
      { s with sem := none, calls := Function.update s.calls i k } :=
  .event s i (.did .up) k _ (.of_tell hcall) rfl

theorem Step.assign (i : ι) {f : S.Mem → S.Mem} (hcall : s.calls i = .tell (.write f) k) :
    Step Calls s (.event i (.did (.write f)))
      { s with
        mem := f s.mem
        calls := Function.update s.calls i k
        intruded := if s.sem = some i then s.intruded else s.intrude } :=
  .event s i (.did (.write f)) k _ (.of_tell hcall) rfl

theorem Step.load (i : ι) {k : S.Mem → S.Asked S.Result} (hcall : s.calls i = .ask .get k) :
    Step Calls s (.event i (.saw .get s.mem))
      { s with calls := Function.update s.calls i (k s.mem) } :=
  .event s i (.saw .get s.mem) _ s (.of_ask _ hcall) ⟨rfl, rfl⟩

theorem Step.send (i : ι) {m : S.Msg} {k : Bool → S.Asked S.Result}
    (hcall : s.calls i = .ask (.send m) k) :
    Step Calls s (.event i (.saw (.send m) true))
      { s with
        calls := Function.update s.calls i (k true)
        requests := s.requests ++ [(i, m)]
        waiting := Function.update s.waiting i (some s.requests.length) } :=
  .event s i (.saw (.send m) true) _ _ (.of_ask (A := Answer S.Mem S.Ans) true hcall) rfl

theorem Step.refused (i : ι) {m : S.Msg} {k : Bool → S.Asked S.Result}
    (hcall : s.calls i = .ask (.send m) k) :
    Step Calls s (.event i (.saw (.send m) false))
      { s with
        calls := Function.update s.calls i (k false)
        outcomes := s.outcome i none } :=
  .event s i (.saw (.send m) false) _ _ (.of_ask (A := Answer S.Mem S.Ans) false hcall) rfl

theorem Step.input (i : ι) {q : S.Input} {k : S.Ans q → S.Asked S.Result} (a : S.Ans q)
    (hcall : s.calls i = .ask (.input q) k) :
    Step Calls s (.event i (.saw (.input q) a))
      { s with calls := Function.update s.calls i (k a) } :=
  .event s i (.saw (.input q) a) _ s (.of_ask (q := Query.input q) a hcall) rfl

theorem Step.wake (i : ι) {k : Bool → S.Asked S.Result} (hcall : s.calls i = .ask .wait k)
    (hdone : s.done > 0) :
    Step Calls s (.event i (.saw .wait true))
      { s with
        done := s.done - 1
        calls := Function.update s.calls i (k true)
        waiting := Function.update s.waiting i none
        woken := Function.update s.woken i true
        outcomes := s.outcome i ((s.waiting i).bind s.answers) } :=
  .event s i (.saw .wait true) _ _ (.of_ask (A := Answer S.Mem S.Ans) true hcall) ⟨hdone, rfl⟩

theorem Step.timeout (i : ι) {k : Bool → S.Asked S.Result} (hcall : s.calls i = .ask .wait k)
    (hdone : s.done = 0) :
    Step Calls s (.event i (.saw .wait false))
      { s with
        calls := Function.update s.calls i (k false)
        waiting := Function.update s.waiting i none
        outcomes := s.outcome i none } :=
  .event s i (.saw .wait false) _ _ (.of_ask (A := Answer S.Mem S.Ans) false hcall) ⟨hdone, rfl⟩

end Steps

structure Start (s : State S ι) : Prop where
  done : s.done = 0
  sem : s.sem = none
  calls : ∀ i, ∃ a, s.calls i = .ret a ∧ S.Returns [] a
  requests : s.requests = []
  answers : ∀ id, s.answers id = none
  waiting : ∀ i, s.waiting i = none
  outcomes : ∀ i, s.outcomes i = []
  intruded : ∀ i, s.intruded i = false

def Unread (p : S.Asked S.Result) : Prop := ∃ k, p = .ask .get k

/-- The response to the call is there, and the call has not returned. -/
def Critical (s : State S ι) (i : ι) : Prop :=
  (∃ id, s.waiting i = some id ∧ s.answers id ≠ none) ∨
    (s.woken i = true ∧ ¬ ∃ a, s.calls i = .ret a)

/-- Every response comes while its call waits for it, no call takes the
    semaphore before the last one has read its response, and nothing else writes
    between a response and the return of its call. -/
def InTime (s : State S ι) : Label S ι → Prop
  | .event _ (.did .down) => ∀ j, ¬ Unread (s.calls j)
  | .event _ (.saw (.input q) a) => S.Fair q a
  | .respond id _ => ∃ owner m, s.requests[id]? = some (owner, m) ∧ s.waiting owner = some id
  | .strayResponse _ _ => False
  | .drift _ => ∀ i, ¬ Critical s i
  | _ => True

/-- Each result is the one for the call's own responses, and nothing reached the
    memory of a call but its own writes and responses. -/
structure Sound (s : State S ι) : Prop where
  returns : ∀ i a, s.calls i = .ret a → S.Returns (s.outcomes i) a
  calm : ∀ i, s.intruded i = false

end Runs

/-- Where a call stands, with what it knows of the memory. -/
inductive Stage (S : Service) where
  | outside (os : List (Option S.Resp)) (known : Option S.Mem)
  | inside (os : List (Option S.Resp)) (s : S.Mem)
  | sent (os : List (Option S.Resp)) (m : S.Msg) (s : S.Mem)
  | answered (os : List (Option S.Resp)) (s : S.Mem)

def Stage.outcomes : Stage S → List (Option S.Resp)
  | .outside os _ => os
  | .inside os _ => os
  | .sent os _ _ => os
  | .answered os _ => os

/-- What is left of a call keeps to the protocol and returns what it must, for
    every response of its own. -/
def Obeys : S.Asked S.Result → Stage S → Prop
  | .ret a, .outside os _ => S.Returns os a
  | .tell .down k, .outside os _ => ∀ s, Obeys k (.inside os s)
  | .tell .up k, .inside os _ => Obeys k (.outside os none)
  | .tell .up k, .answered os s => Obeys k (.outside os (some s))
  | .tell (.write f) k, .inside os s => ∀ t, S.Drift s t → Obeys k (.inside os (f t))
  | .tell (.write f) k, .answered os s => Obeys k (.answered os (f s))
  | .ask .get k, .outside os (some s) => Obeys (k s) (.outside os (some s))
  | .ask .get k, .inside os s => ∀ t, S.Drift s t → Obeys (k t) (.inside os t)
  | .ask .get k, .answered os s => Obeys (k s) (.answered os s)
  | .ask (.send m) k, .inside os s =>
    S.home m = true ∧ (∀ t, S.Drift s t → S.Ready m t) ∧ Obeys (k true) (.sent os m s) ∧
      Obeys (k false) (.inside (os ++ [none]) s)
  | .ask .wait k, .sent os m s =>
    (∀ t r, S.Drift s t → Obeys (k true) (.answered (os ++ [some r]) (S.callback m r t))) ∧
      Obeys (k false) (.inside (os ++ [none]) s)
  | .ask (.input q) k, .outside os _ => ∀ a, S.Fair q a → Obeys (k a) (.outside os none)
  | .ask (.input q) k, .inside os s => ∀ a, S.Fair q a → Obeys (k a) (.inside os s)
  | .ask (.input q) k, .answered os s => ∀ a, S.Fair q a → Obeys (k a) (.answered os s)
  | .loop (.input q) again [] k, .inside os s =>
    ∀ a : S.Ans q, again a = false → Obeys k (.inside os s)
  | _, _ => False

section Rules
variable {α : Type} {os : List (Option S.Resp)} {known : Option S.Mem} {v : S.Mem} {m : S.Msg}
  {stage : Stage S}

theorem obeys_down {k : Unit → S.Asked S.Result} (h : ∀ v, Obeys (k ()) (.inside os v)) :
    Obeys (down >>= k) (.outside os known) := by
  cases known <;> exact h

theorem obeys_upInside {k : Unit → S.Asked S.Result} (h : Obeys (k ()) (.outside os none)) :
    Obeys (up >>= k) (.inside os v) := h

theorem obeys_upAnswered {k : Unit → S.Asked S.Result} (h : Obeys (k ()) (.outside os (some v))) :
    Obeys (up >>= k) (.answered os v) := h

theorem obeys_assignInside {f : S.Mem → S.Mem} {k : Unit → S.Asked S.Result}
    (h : ∀ t, S.Drift v t → Obeys (k ()) (.inside os (f t))) :
    Obeys (assign f >>= k) (.inside os v) := h

theorem obeys_assignAnswered {f : S.Mem → S.Mem} {k : Unit → S.Asked S.Result}
    (h : Obeys (k ()) (.answered os (f v))) : Obeys (assign f >>= k) (.answered os v) := h

theorem obeys_loadInside {k : S.Mem → S.Asked S.Result}
    (h : ∀ t, S.Drift v t → Obeys (k t) (.inside os t)) : Obeys (load >>= k) (.inside os v) := h

theorem obeys_loadAnswered {k : S.Mem → S.Asked S.Result} (h : Obeys (k v) (.answered os v)) :
    Obeys (load >>= k) (.answered os v) := h

theorem obeys_loadOutside {k : S.Mem → S.Asked S.Result} (h : Obeys (k v) (.outside os (some v))) :
    Obeys (load >>= k) (.outside os (some v)) := h

theorem obeys_send {k : Bool → S.Asked S.Result} (hhome : S.home m = true)
    (hready : ∀ t, S.Drift v t → S.Ready m t) (hsent : Obeys (k true) (.sent os m v))
    (hfailed : Obeys (k false) (.inside (os ++ [none]) v)) :
    Obeys (send m >>= k) (.inside os v) := ⟨hhome, hready, hsent, hfailed⟩

theorem obeys_wait {k : Bool → S.Asked S.Result}
    (hwoken : ∀ t r, S.Drift v t →
      Obeys (k true) (.answered (os ++ [some r]) (S.callback m r t)))
    (hlate : Obeys (k false) (.inside (os ++ [none]) v)) :
    Obeys (wait >>= k) (.sent os m v) := ⟨hwoken, hlate⟩

theorem obeys_inputOutside {q : S.Input} {k : S.Ans q → S.Asked S.Result}
    (h : ∀ a, S.Fair q a → Obeys (k a) (.outside os none)) :
    Obeys (input q >>= k) (.outside os known) := by
  cases known <;> exact h

theorem obeys_inputInside {q : S.Input} {k : S.Ans q → S.Asked S.Result}
    (h : ∀ a, S.Fair q a → Obeys (k a) (.inside os v)) :
    Obeys (input q >>= k) (.inside os v) := h

theorem obeys_ret {a : S.Result} (h : S.Returns os a) :
    Obeys (pure a : S.Asked S.Result) (.outside os known) := by
  cases known <;> exact h

theorem obeys_ite {c : Prop} [Decidable c] {p q : S.Asked S.Result} (h : c → Obeys p stage)
    (h' : ¬ c → Obeys q stage) : Obeys (if c then p else q) stage := by
  split
  · exact h ‹c›
  · exact h' ‹¬ c›

theorem obeys_awaitResponse {failed : S.Mem → Bool} {fail ok : S.Asked S.Result}
    (hlate : Obeys fail (.inside (os ++ [none]) v))
    (hwoken : ∀ t r, S.Drift v t →
      if failed (S.callback m r t) then Obeys fail (.answered (os ++ [some r]) (S.callback m r t))
      else Obeys ok (.answered (os ++ [some r]) (S.callback m r t))) :
    Obeys (awaitResponse failed fail ok) (.sent os m v) := by
  apply obeys_wait
  · intro t r hdrift
    have hresponse := hwoken t r hdrift
    apply obeys_loadAnswered
    apply obeys_ite
    · intro hfailed
      rwa [if_pos hfailed] at hresponse
    · intro hfailed
      rwa [if_neg hfailed] at hresponse
  · exact hlate

theorem obeys_request {failed : S.Mem → Bool} {fail ok : S.Asked S.Result}
    (hhome : S.home m = true) (hready : ∀ t, S.Drift v t → S.Ready m t)
    (hlate : ∀ t, Obeys fail (.inside (os ++ [none]) t))
    (hwoken : ∀ t r, S.Drift v t →
      if failed (S.callback m r t) then Obeys fail (.answered (os ++ [some r]) (S.callback m r t))
      else Obeys ok (.answered (os ++ [some r]) (S.callback m r t))) :
    Obeys (request m failed fail ok) (.inside os v) := by
  apply obeys_send hhome hready
  · exact obeys_awaitResponse (hlate v) hwoken
  · exact hlate v

end Rules

/-- The state is the one that the stage of call `i` is about. -/
def Placed (s : State S ι) (i : ι) : Stage S → Prop
  | .outside _ known => s.sem ≠ some i ∧ s.waiting i = none ∧
    ∀ v, known = some v → s.woken i = true ∧ (Unread (s.calls i) → s.mem = v ∧ s.sem = none)
  | .inside _ v => s.sem = some i ∧ s.waiting i = none ∧ S.Drift v s.mem ∧ s.done = 0
  | .sent _ m v => s.sem = some i ∧ ∃ id, s.waiting i = some id ∧
    s.requests[id]? = some (i, m) ∧ S.home m = true ∧ (∀ t, S.Drift v t → S.Ready m t) ∧
    (s.answers id = none ∧ S.Drift v s.mem ∧ s.done = 0 ∨
      ∃ r t, s.answers id = some r ∧ S.Drift v t ∧ s.mem = S.callback m r t ∧ s.done = 1)
  | .answered _ v => s.sem = some i ∧ s.waiting i = none ∧ s.mem = v ∧ s.done = 0 ∧
    s.woken i = true

structure Tracks (s : State S ι) (st : ι → Stage S) : Prop where
  obeys : ∀ i, Obeys (s.calls i) (st i)
  outcomes : ∀ i, (st i).outcomes = s.outcomes i
  placed : ∀ i, Placed s i (st i)
  free : s.sem = none → s.done = 0
  fresh : ∀ id, s.requests.length ≤ id → s.answers id = none
  calm : ∀ i, s.intruded i = false

variable {s t : State S ι} {st : ι → Stage S} {stage : Stage S} {i : ι}

theorem placed_outside (h : Placed s i stage) (hsem : s.sem ≠ some i) :
    ∃ os known, stage = .outside os known := by
  cases stage with
  | outside os known => exact ⟨os, known, rfl⟩
  | inside os v => exact absurd h.1 hsem
  | sent os m v => exact absurd h.1 hsem
  | answered os v => exact absurd h.1 hsem

theorem obeys_returned {a : S.Result} (h : Obeys (.ret a) stage) :
    ∃ os known, stage = .outside os known ∧ S.Returns os a := by
  cases stage with
  | outside os known => exact ⟨os, known, rfl, h⟩
  | _ => exact h.elim

theorem obeys_unread {p : S.Asked S.Result} {os : List (Option S.Resp)} {known : Option S.Mem}
    (h : Obeys p (.outside os known)) (hp : Unread p) : ∃ v, known = some v := by
  obtain ⟨k, rfl⟩ := hp
  cases known with
  | none => exact h.elim
  | some v => exact ⟨v, rfl⟩

theorem Tracks.noUnread (h : Tracks s st) {j : ι} (hj : s.sem ≠ some j) (hsem : s.sem ≠ none) :
    ¬ Unread (s.calls j) := by
  intro hunread
  obtain ⟨os, known, hstage⟩ := placed_outside (h.placed j) hj
  have hobeys := h.obeys j
  have hplaced := h.placed j
  rw [hstage] at hobeys hplaced
  obtain ⟨v, rfl⟩ := obeys_unread hobeys hunread
  exact hsem ((hplaced.2.2 v rfl).2 hunread).2

theorem Tracks.standing (h : Tracks s st) {j : ι} (hbefore : s.sem ≠ some j)
    (hafter : t.sem ≠ some j) (hcalls : t.calls j = s.calls j)
    (hwaiting : t.waiting j = s.waiting j) (hwoken : t.woken j = s.woken j)
    (hunread : Unread (s.calls j) → t.mem = s.mem ∧ t.sem = none) : Placed t j (st j) := by
  obtain ⟨os, known, hstage⟩ := placed_outside (h.placed j) hbefore
  have hwas := h.placed j
  rw [hstage] at hwas ⊢
  obtain ⟨-, hnone, hknown⟩ := hwas
  refine ⟨hafter, hwaiting.trans hnone, fun v hv => ?_⟩
  obtain ⟨hwas, hmem⟩ := hknown v hv
  refine ⟨hwoken.trans hwas, fun hread => ?_⟩
  rw [hcalls] at hread
  obtain ⟨hsame, hnone⟩ := hunread hread
  exact ⟨hsame.trans (hmem hread).1, hnone⟩

theorem obeys_loop {q : Query S.Msg S.Input} {again : Answer S.Mem S.Ans q → Bool}
    {body : List (Command S.Mem)} {k : S.Asked S.Result}
    (h : Obeys (.loop q again body k) stage) :
    body = [] ∧ ∃ q', q = .input q' ∧ ∃ os v, stage = .inside os v := by
  rcases stage with ⟨os, _ | known⟩ | ⟨os, v⟩ | ⟨os, m, v⟩ | ⟨os, v⟩
  all_goals
    cases q
    all_goals cases body
  case inside.input.nil q => exact ⟨rfl, q, rfl, os, v, rfl⟩
  all_goals exact h.elim

theorem placed_calls {j : ι} {calls : ι → S.Asked S.Result} (h : Placed s j stage)
    (hcalls : calls j = s.calls j) : Placed { s with calls := calls } j stage := by
  cases stage with
  | outside os known =>
    obtain ⟨hsem, hwaiting, hknown⟩ := h
    refine ⟨hsem, hwaiting, fun v hv => ?_⟩
    show s.woken j = true ∧ (Unread (calls j) → s.mem = v ∧ s.sem = none)
    rw [hcalls]
    exact hknown v hv
  | _ => exact h

theorem Tracks.drift {u : S.Mem} (h : Tracks s st) (hdrift : S.Drift s.mem u)
    (hcalm : ∀ j, ¬ Critical s j) : Tracks { s with mem := u } st := by
  refine ⟨h.obeys, h.outcomes, fun j => ?_, h.free, h.fresh, h.calm⟩
  have hwas := h.placed j
  have hobeys := h.obeys j
  have hquiet := hcalm j
  generalize st j = x at hwas hobeys
  cases x with
  | outside os known =>
    obtain ⟨hsem, hwaiting, hknown⟩ := hwas
    refine ⟨hsem, hwaiting, fun v hv => ⟨(hknown v hv).1, fun hread => ?_⟩⟩
    refine absurd (.inr ⟨(hknown v hv).1, ?_⟩) hquiet
    rintro ⟨a, ha⟩
    obtain ⟨k, hk⟩ := hread
    cases ha.symm.trans hk
  | inside os v =>
    obtain ⟨hsem, hwaiting, hwas, hdone⟩ := hwas
    exact ⟨hsem, hwaiting, S.drift_trans _ _ _ hwas hdrift, hdone⟩
  | sent os m v =>
    obtain ⟨hsem, id, hwaiting, hrequest, hhome, hready, hanswer⟩ := hwas
    rcases hanswer with ⟨hnew, hwas, hdone⟩ | ⟨r, w, hr, -⟩
    · have hfar := S.drift_trans _ _ _ hwas hdrift
      exact ⟨hsem, id, hwaiting, hrequest, hhome, hready, .inl ⟨hnew, hfar, hdone⟩⟩
    · exact absurd (.inl ⟨id, hwaiting, hr ▸ nofun⟩) hquiet
  | answered os v =>
    obtain ⟨hsem, hwaiting, hmem, hdone, hwoken⟩ := hwas
    refine absurd (.inr ⟨hwoken, ?_⟩) hquiet
    rintro ⟨a, ha⟩
    rw [ha] at hobeys
    exact hobeys

theorem Start.tracks (h : Start s) : ∃ st, Tracks s st := by
  refine ⟨fun _ => .outside [] none, fun i => ?_, fun i => (h.outcomes i).symm, fun i => ?_,
    fun _ => h.done, fun id _ => h.answers id, h.intruded⟩
  · obtain ⟨a, ha, hreturns⟩ := h.calls i
    rw [ha]
    exact hreturns
  · exact ⟨h.sem ▸ nofun, h.waiting i, nofun⟩

theorem Tracks.sound (h : Tracks s st) : Sound s := by
  refine ⟨fun i a hret => ?_, h.calm⟩
  have hreturned := h.obeys i
  have hout := h.outcomes i
  rw [hret] at hreturned
  obtain ⟨os, known, hstage, hreturns⟩ := obeys_returned hreturned
  rw [hstage] at hout
  exact hout ▸ hreturns

section Moves
variable [DecidableEq ι]

theorem Tracks.move (h : Tracks s st)
    (hcalls : ∀ j, j ≠ i → t.calls j = s.calls j)
    (houtcomes : ∀ j, j ≠ i → t.outcomes j = s.outcomes j)
    (hothers : ∀ j, j ≠ i → Placed t j (st j)) (hobeys : Obeys (t.calls i) stage)
    (hout : stage.outcomes = t.outcomes i) (hplaced : Placed t i stage)
    (hfree : t.sem = none → t.done = 0)
    (hfresh : ∀ id, t.requests.length ≤ id → t.answers id = none)
    (hcalm : ∀ j, t.intruded j = false) : Tracks t (Function.update st i stage) := by
  constructor
  · refine (Function.forall_update_iff st fun j x => Obeys (t.calls j) x).mpr
      ⟨hobeys, fun j hj => ?_⟩
    rw [hcalls j hj]
    exact h.obeys j
  · refine (Function.forall_update_iff st fun j x => x.outcomes = t.outcomes j).mpr
      ⟨hout, fun j hj => ?_⟩
    rw [houtcomes j hj]
    exact h.outcomes j
  · exact (Function.forall_update_iff st fun j x => Placed t j x).mpr ⟨hplaced, hothers⟩
  · exact hfree
  · exact hfresh
  · exact hcalm

theorem obeys_update {p : S.Asked S.Result} {calls : ι → S.Asked S.Result} (h : Obeys p stage) :
    Obeys (Function.update calls i p i) stage := by
  rwa [Function.update_self]

theorem Tracks.held (h : Tracks s st) (hsem : s.sem = some i)
    (hafter : t.sem = some i ∨ t.sem = none)
    (hsame : ∀ j, j ≠ i → t.calls j = s.calls j ∧ t.outcomes j = s.outcomes j ∧
      t.waiting j = s.waiting j ∧ t.woken j = s.woken j)
    (hobeys : Obeys (t.calls i) stage) (hout : stage.outcomes = t.outcomes i)
    (hplaced : Placed t i stage) (hfree : t.sem = none → t.done = 0)
    (hfresh : ∀ id, t.requests.length ≤ id → t.answers id = none)
    (hcalm : t.intruded = s.intruded) : Tracks t (Function.update st i stage) := by
  refine h.move (fun j hj => (hsame j hj).1) (fun j hj => (hsame j hj).2.1) (fun j hj => ?_)
    hobeys hout hplaced hfree hfresh fun j => ?_
  · obtain ⟨hcalls, -, hwaiting, hwoken⟩ := hsame j hj
    have hbefore : s.sem ≠ some j := fun heq => hj (Option.some.inj (heq.symm.trans hsem))
    refine h.standing hbefore (fun heq => ?_) hcalls hwaiting hwoken fun hread => ?_
    · rcases hafter with hsome | hnone
      · exact hj (Option.some.inj (heq.symm.trans hsome))
      · rw [hnone] at heq
        cases heq
    · exact absurd hread (h.noUnread hbefore (hsem ▸ nofun))
  · rw [hcalm]
    exact h.calm j

theorem Tracks.down {k : S.Asked S.Result} (h : Tracks s st) (hcall : s.calls i = .tell .down k)
    (heffect : s.Effect i (.did .down) t) (hunread : ∀ j, ¬ Unread (s.calls j)) :
    ∃ x, Tracks { t with calls := Function.update s.calls i k } (Function.update st i x) := by
  obtain ⟨hsem, rfl⟩ := heffect
  have hplaced := h.placed i
  have hobeys := h.obeys i
  have hout := h.outcomes i
  obtain ⟨os, known, hstage⟩ := placed_outside hplaced (hsem ▸ nofun)
  rw [hstage] at hplaced hobeys hout
  rw [hcall] at hobeys
  refine ⟨.inside os s.mem, h.move (fun j hj => Function.update_of_ne hj _ _) (fun _ _ => rfl)
    (fun j hj => ?_) ?_ hout ?_ nofun h.fresh fun j => ?_⟩
  · refine h.standing (hsem ▸ nofun) (fun heq => hj (Option.some.inj heq).symm)
      (Function.update_of_ne hj _ _) rfl (Function.update_of_ne hj _ _) ?_
    exact fun hread => absurd hread (hunread j)
  · exact obeys_update (hobeys s.mem)
  · exact ⟨rfl, hplaced.2.1, S.drift_refl _, h.free hsem⟩
  · show Function.update s.intruded i false j = false
    by_cases hj : j = i
    · rw [hj, Function.update_self]
    · rw [Function.update_of_ne hj]
      exact h.calm j

theorem Tracks.up {k : S.Asked S.Result} (h : Tracks s st) (hcall : s.calls i = .tell .up k)
    (heffect : s.Effect i (.did .up) t) :
    ∃ x, Tracks { t with calls := Function.update s.calls i k } (Function.update st i x) := by
  obtain rfl := heffect
  have hplaced := h.placed i
  have hobeys := h.obeys i
  have hout := h.outcomes i
  generalize st i = stage at hplaced hobeys hout
  rw [hcall] at hobeys
  have hsame : ∀ j, j ≠ i → Function.update s.calls i k j = s.calls j ∧
      s.outcomes j = s.outcomes j ∧ s.waiting j = s.waiting j ∧ s.woken j = s.woken j :=
    fun j hj => ⟨Function.update_of_ne hj _ _, rfl, rfl, rfl⟩
  cases stage with
  | inside os v =>
    obtain ⟨hsem, hwaiting, hdrift, hdone⟩ := hplaced
    exact ⟨.outside os none, h.held hsem (.inr rfl) hsame (obeys_update hobeys) hout
      ⟨nofun, hwaiting, nofun⟩ (fun _ => hdone) h.fresh rfl⟩
  | answered os v =>
    obtain ⟨hsem, hwaiting, hmem, hdone, hwoken⟩ := hplaced
    refine ⟨.outside os (some v), h.held hsem (.inr rfl) hsame (obeys_update hobeys) hout
      ⟨nofun, hwaiting, fun v' hv => ?_⟩ (fun _ => hdone) h.fresh rfl⟩
    obtain rfl := Option.some.inj hv
    exact ⟨hwoken, fun _ => ⟨hmem, rfl⟩⟩
  | _ => exact hobeys.elim

theorem Tracks.write {f : S.Mem → S.Mem} {k : S.Asked S.Result} (h : Tracks s st)
    (hcall : s.calls i = .tell (.write f) k) (heffect : s.Effect i (.did (.write f)) t) :
    ∃ x, Tracks { t with calls := Function.update s.calls i k } (Function.update st i x) := by
  obtain rfl := heffect
  have hplaced := h.placed i
  have hobeys := h.obeys i
  have hout := h.outcomes i
  generalize st i = stage at hplaced hobeys hout
  rw [hcall] at hobeys
  have hsame : ∀ j, j ≠ i → Function.update s.calls i k j = s.calls j ∧
      s.outcomes j = s.outcomes j ∧ s.waiting j = s.waiting j ∧ s.woken j = s.woken j :=
    fun j hj => ⟨Function.update_of_ne hj _ _, rfl, rfl, rfl⟩
  cases stage with
  | inside os v =>
    obtain ⟨hsem, hwaiting, hdrift, hdone⟩ := hplaced
    refine ⟨.inside os (f s.mem), h.held hsem (.inl hsem) hsame ?_ hout
      ⟨hsem, hwaiting, S.drift_refl _, hdone⟩ (fun _ => hdone) h.fresh (if_pos hsem)⟩
    exact obeys_update (hobeys s.mem hdrift)
  | answered os v =>
    obtain ⟨hsem, hwaiting, hmem, hdone, hwoken⟩ := hplaced
    refine ⟨.answered os (f v), h.held hsem (.inl hsem) hsame ?_ hout
      ⟨hsem, hwaiting, congrArg f hmem, hdone, hwoken⟩ (fun _ => hdone) h.fresh (if_pos hsem)⟩
    exact obeys_update hobeys
  | _ => exact hobeys.elim

theorem Tracks.get {k : S.Mem → S.Asked S.Result} {v : S.Mem} (h : Tracks s st)
    (hcall : s.calls i = .ask .get k) (heffect : s.Effect i (.saw .get v) t) :
    ∃ x, Tracks { t with calls := Function.update s.calls i (k v) } (Function.update st i x) := by
  obtain ⟨hv, rfl⟩ := heffect
  obtain rfl : v = t.mem := hv
  have hplaced := h.placed i
  have hobeys := h.obeys i
  have hout := h.outcomes i
  generalize st i = stage at hplaced hobeys hout
  rw [hcall] at hobeys
  have hsame : ∀ j, j ≠ i → Function.update t.calls i (k t.mem) j = t.calls j ∧
      t.outcomes j = t.outcomes j ∧ t.waiting j = t.waiting j ∧ t.woken j = t.woken j :=
    fun j hj => ⟨Function.update_of_ne hj _ _, rfl, rfl, rfl⟩
  cases stage with
  | outside os known =>
    obtain ⟨w, rfl⟩ := obeys_unread hobeys ⟨k, rfl⟩
    obtain ⟨hsem, hwaiting, hknown⟩ := hplaced
    obtain ⟨hwoken, hread⟩ := hknown w rfl
    obtain ⟨hmem, hnone⟩ := hread ⟨k, hcall⟩
    refine ⟨.outside os (some w), h.move (fun j hj => (hsame j hj).1) (fun _ _ => rfl)
      (fun j hj => ?_) ?_ hout ⟨hsem, hwaiting, fun v' hv' => ?_⟩ h.free h.fresh h.calm⟩
    · exact h.standing (hnone ▸ nofun) (hnone ▸ nofun) (hsame j hj).1 rfl rfl fun _ => ⟨rfl, hnone⟩
    · have hnext : Obeys (k w) (.outside os (some w)) := hobeys
      rw [← hmem] at hnext ⊢
      exact obeys_update hnext
    · obtain rfl := Option.some.inj hv'
      exact ⟨hwoken, fun _ => ⟨hmem, hnone⟩⟩
  | inside os w =>
    obtain ⟨hsem, hwaiting, hdrift, hdone⟩ := hplaced
    refine ⟨.inside os t.mem, h.held hsem (.inl hsem) hsame ?_ hout
      ⟨hsem, hwaiting, S.drift_refl _, hdone⟩ (fun _ => hdone) h.fresh rfl⟩
    exact obeys_update (hobeys t.mem hdrift)
  | answered os w =>
    obtain ⟨hsem, hwaiting, hmem, hdone, hwoken⟩ := hplaced
    refine ⟨.answered os w, h.held hsem (.inl hsem) hsame ?_ hout
      ⟨hsem, hwaiting, hmem, hdone, hwoken⟩ (fun _ => hdone) h.fresh rfl⟩
    have hnext : Obeys (k w) (.answered os w) := hobeys
    rw [← hmem] at hnext ⊢
    exact obeys_update hnext
  | sent os m w => exact hobeys.elim

theorem outcome_self {os : List (Option S.Resp)} {o : Option S.Resp} (hout : os = s.outcomes i) :
    os ++ [o] = s.outcome i o i := by
  unfold State.outcome
  rw [Function.update_self, hout]

theorem Tracks.send {m : S.Msg} {k : Bool → S.Asked S.Result} {went : Bool} (h : Tracks s st)
    (hcall : s.calls i = .ask (.send m) k) (heffect : s.Effect i (.saw (.send m) went) t) :
    ∃ x, Tracks { t with calls := Function.update s.calls i (k went) }
      (Function.update st i x) := by
  have hplaced := h.placed i
  have hobeys := h.obeys i
  have hout := h.outcomes i
  generalize st i = stage at hplaced hobeys hout
  rw [hcall] at hobeys
  cases stage with
  | inside os v =>
    obtain ⟨hsem, hwaiting, hdrift, hdone⟩ := hplaced
    obtain ⟨hhome, hready, hsent, hfailed⟩ := hobeys
    cases went with
    | true =>
      obtain rfl := heffect
      have hlast : (s.requests ++ [(i, m)])[s.requests.length]? = some (i, m) :=
        List.getElem?_concat_length
      have hnew : s.answers s.requests.length = none := h.fresh _ (Nat.le_refl _)
      refine ⟨.sent os m v, h.held hsem (.inl hsem) (fun j hj => ?_) (obeys_update hsent) hout
        ⟨hsem, _, Function.update_self _ _ _, hlast, hhome, hready, .inl ⟨hnew, hdrift, hdone⟩⟩
        (fun _ => hdone) (fun id hid => h.fresh id ?_) rfl⟩
      · exact ⟨Function.update_of_ne hj _ _, rfl, Function.update_of_ne hj _ _, rfl⟩
      · have hlength : (s.requests ++ [(i, m)]).length ≤ id := hid
        rw [List.length_append] at hlength
        exact Nat.le_of_succ_le hlength
    | false =>
      obtain rfl := heffect
      refine ⟨.inside (os ++ [none]) v, h.held hsem (.inl hsem) (fun j hj => ?_)
        (obeys_update hfailed) ?_ ⟨hsem, hwaiting, hdrift, hdone⟩ (fun _ => hdone) h.fresh rfl⟩
      · exact ⟨Function.update_of_ne hj _ _, Function.update_of_ne hj _ _, rfl, rfl⟩
      · exact outcome_self hout
  | outside os known => cases known <;> exact hobeys.elim
  | _ => exact hobeys.elim

theorem Tracks.wait {k : Bool → S.Asked S.Result} {woken : Bool} (h : Tracks s st)
    (hcall : s.calls i = .ask .wait k) (heffect : s.Effect i (.saw .wait woken) t) :
    ∃ x, Tracks { t with calls := Function.update s.calls i (k woken) }
      (Function.update st i x) := by
  have hplaced := h.placed i
  have hobeys := h.obeys i
  have hout := h.outcomes i
  generalize st i = stage at hplaced hobeys hout
  rw [hcall] at hobeys
  cases stage with
  | sent os m v =>
    obtain ⟨hsem, id, hwaiting, hrequest, hhome, hready, hanswer⟩ := hplaced
    obtain ⟨hwoken, hlate⟩ := hobeys
    cases woken with
    | true =>
      obtain ⟨hdone, rfl⟩ := heffect
      rcases hanswer with ⟨-, -, hzero⟩ | ⟨r, w, hr, hdrift, hmem, hone⟩
      · rw [hzero] at hdone
        exact absurd hdone (Nat.lt_irrefl 0)
      · have hbind : (s.waiting i).bind s.answers = some r := by
          rw [hwaiting]
          exact hr
        have hzero : s.done - 1 = 0 := by rw [hone]
        refine ⟨.answered (os ++ [some r]) (S.callback m r w), h.held hsem (.inl hsem)
          (fun j hj => ?_) (obeys_update (hwoken w r hdrift)) ?_
          ⟨hsem, Function.update_self _ _ _, hmem, hzero, Function.update_self _ _ _⟩
          (fun _ => hzero) h.fresh rfl⟩
        · exact ⟨Function.update_of_ne hj _ _, Function.update_of_ne hj _ _,
            Function.update_of_ne hj _ _, Function.update_of_ne hj _ _⟩
        · show os ++ [some r] = s.outcome i ((s.waiting i).bind s.answers) i
          rw [hbind]
          exact outcome_self hout
    | false =>
      obtain ⟨hdone, rfl⟩ := heffect
      rcases hanswer with ⟨-, hdrift, -⟩ | ⟨r, w, -, -, -, hone⟩
      · refine ⟨.inside (os ++ [none]) v, h.held hsem (.inl hsem) (fun j hj => ?_)
          (obeys_update hlate) (outcome_self hout)
          ⟨hsem, Function.update_self _ _ _, hdrift, hdone⟩ (fun _ => hdone) h.fresh rfl⟩
        exact ⟨Function.update_of_ne hj _ _, Function.update_of_ne hj _ _,
          Function.update_of_ne hj _ _, rfl⟩
      · rw [hone] at hdone
        cases hdone
  | outside os known => cases known <;> exact hobeys.elim
  | _ => exact hobeys.elim

theorem Tracks.resume {p : S.Asked S.Result} (h : Tracks s st) (hobeys : Obeys p stage)
    (hout : stage.outcomes = s.outcomes i)
    (hplaced : Placed { s with calls := Function.update s.calls i p } i stage) :
    Tracks { s with calls := Function.update s.calls i p } (Function.update st i stage) :=
  h.move (fun _ hj => Function.update_of_ne hj _ _) (fun _ _ => rfl)
    (fun j hj => placed_calls (h.placed j) (Function.update_of_ne hj _ _)) (obeys_update hobeys)
    hout hplaced h.free h.fresh h.calm

theorem Tracks.input {q : S.Input} {k : S.Ans q → S.Asked S.Result} {a : S.Ans q}
    (h : Tracks s st) (hcall : s.calls i = .ask (.input q) k) (hfair : S.Fair q a) :
    ∃ x, Tracks { s with calls := Function.update s.calls i (k a) } (Function.update st i x) := by
  have hplaced := h.placed i
  have hobeys := h.obeys i
  have hout := h.outcomes i
  generalize st i = stage at hplaced hobeys hout
  rw [hcall] at hobeys
  cases stage with
  | outside os known =>
    have hnext : Obeys (k a) (.outside os none) := by cases known <;> exact hobeys a hfair
    exact ⟨_, h.resume hnext hout ⟨hplaced.1, hplaced.2.1, nofun⟩⟩
  | inside os v => exact ⟨_, h.resume (hobeys a hfair) hout hplaced⟩
  | answered os v => exact ⟨_, h.resume (hobeys a hfair) hout hplaced⟩
  | sent os m v => exact hobeys.elim

theorem Tracks.loop {q : Query S.Msg S.Input} {again : Answer S.Mem S.Ans q → Bool}
    {body : List (Command S.Mem)} {k p : S.Asked S.Result} {e : S.ServiceEvent}
    (h : Tracks s st) (hcall : s.calls i = .loop q again body k)
    (hnext : Next (.loop q again body k) e p) (heffect : s.Effect i e t) :
    ∃ x, Tracks { t with calls := Function.update s.calls i p } (Function.update st i x) := by
  have hplaced := h.placed i
  have hobeys := h.obeys i
  have hout := h.outcomes i
  generalize st i = stage at hplaced hobeys hout
  rw [hcall] at hobeys
  obtain ⟨a, rfl, rfl⟩ := next_loop hnext
  obtain ⟨hbody, q', hq, os, v, rfl⟩ := obeys_loop hobeys
  subst hq hbody
  obtain rfl := heffect
  by_cases hagain : again a = true
  · rw [if_pos hagain]
    exact ⟨_, h.resume hobeys hout hplaced⟩
  · rw [if_neg hagain]
    exact ⟨_, h.resume (hobeys a (Bool.eq_false_iff.mpr hagain)) hout hplaced⟩

theorem Tracks.event {e : S.ServiceEvent} {p : S.Asked S.Result} (h : Tracks s st)
    (hnext : Next (s.calls i) e p) (heffect : s.Effect i e t) (hok : InTime s (.event i e)) :
    ∃ x, Tracks { t with calls := Function.update s.calls i p } (Function.update st i x) := by
  generalize hcall : s.calls i = c at hnext
  cases c with
  | ret a => cases hnext
  | tell c k =>
    obtain ⟨rfl, rfl⟩ := next_tell hnext
    cases c with
    | down => exact h.down hcall heffect hok
    | up => exact h.up hcall heffect
    | write f => exact h.write hcall heffect
  | ask q k =>
    obtain ⟨a, rfl, rfl⟩ := next_ask hnext
    cases q with
    | get => exact h.get hcall heffect
    | send m => exact h.send hcall heffect
    | wait => exact h.wait hcall heffect
    | input q =>
      obtain rfl := heffect
      exact h.input hcall hok
  | loop q again body k => exact h.loop hcall hnext heffect

theorem Tracks.start {p : S.Asked S.Result} {a : S.Result} (h : Tracks s st)
    (hidle : s.calls i = .ret a) (hobeys : Obeys p (.outside [] none)) :
    Tracks
      { s with
        calls := Function.update s.calls i p
        woken := Function.update s.woken i false
        outcomes := Function.update s.outcomes i [] }
      (Function.update st i (.outside [] none)) := by
  have hreturned := h.obeys i
  have hplaced := h.placed i
  rw [hidle] at hreturned
  obtain ⟨os, known, hstage, -⟩ := obeys_returned hreturned
  rw [hstage] at hplaced
  refine h.move (fun _ hj => Function.update_of_ne hj _ _)
    (fun _ hj => Function.update_of_ne hj _ _) (fun j hj => ?_) (obeys_update hobeys) ?_
    ⟨hplaced.1, hplaced.2.1, nofun⟩ h.free h.fresh h.calm
  · have hwoken : Function.update s.woken i false j = s.woken j := Function.update_of_ne hj _ _
    have hcalls : Function.update s.calls i p j = s.calls j := Function.update_of_ne hj _ _
    have hwas := h.placed j
    generalize st j = x at hwas
    cases x with
    | outside os known =>
      obtain ⟨hsem, hwaiting, hknown⟩ := hwas
      refine ⟨hsem, hwaiting, fun v hv => ?_⟩
      show Function.update s.woken i false j = true ∧
        (Unread (Function.update s.calls i p j) → s.mem = v ∧ s.sem = none)
      rw [hwoken, hcalls]
      exact hknown v hv
    | answered os v =>
      obtain ⟨hsem, hwaiting, hmem, hdone, hwas⟩ := hwas
      exact ⟨hsem, hwaiting, hmem, hdone, hwoken.trans hwas⟩
    | _ => exact hwas
  · show [] = Function.update s.outcomes i [] i
    rw [Function.update_self]

theorem Tracks.respond {id : ℕ} {owner : ι} {m : S.Msg} {r : S.Resp} (h : Tracks s st)
    (hrequest : s.requests[id]? = some (owner, m)) (hnew : s.answers id = none)
    (hwaiting : s.waiting owner = some id) : Tracks (s.respond id owner m r) st := by
  have hplaced := h.placed owner
  have hobeys := h.obeys owner
  have hout := h.outcomes owner
  generalize hstage : st owner = stage at hplaced hobeys hout
  cases stage with
  | sent os m' v =>
    obtain ⟨hsem, id', hid', hrequest', hhome, hready, hanswer⟩ := hplaced
    obtain rfl : id' = id := Option.some.inj (hid'.symm.trans hwaiting)
    obtain rfl : m' = m := (Prod.mk.inj (Option.some.inj (hrequest'.symm.trans hrequest))).2
    rcases hanswer with ⟨-, hdrift, hdone⟩ | ⟨r', -, hr', -⟩
    · have hself : Function.update st owner (.sent os m' v) = st := by
        rw [← hstage, Function.update_eq_self]
      rw [← hself]
      unfold State.respond
      rw [if_pos hhome]
      refine h.held hsem (.inl hsem) (fun _ _ => ⟨rfl, rfl, rfl, rfl⟩) hobeys hout
        ⟨hsem, id', hwaiting, hrequest, hhome, hready, .inr ⟨r, s.mem, ?_, hdrift, rfl, ?_⟩⟩
        (hsem ▸ nofun) (fun id hid => ?_) (if_pos hwaiting)
      · exact Function.update_self _ _ _
      · exact congrArg (fun n => n + 1) hdone
      · have hlt : id' < s.requests.length := (List.getElem?_eq_some_iff.mp hrequest).1
        have hid : s.requests.length ≤ id := hid
        exact (Function.update_of_ne (fun heq => by omega) _ _).trans (h.fresh id hid)
    · rw [hr'] at hnew
      cases hnew
  | outside os known => exact absurd (hplaced.2.1.symm.trans hwaiting) nofun
  | inside os v => exact absurd (hplaced.2.1.symm.trans hwaiting) nofun
  | answered os v => exact absurd (hplaced.2.1.symm.trans hwaiting) nofun

variable {Calls : S.Asked S.Result → Prop} {l : Label S ι}

theorem Tracks.step (h : Tracks s st) (hcalls : ∀ p, Calls p → Obeys p (.outside [] none))
    (hstep : Step Calls s l t) (hok : InTime s l) : ∃ st', Tracks t st' := by
  cases hstep with
  | start i p a hidle hcall => exact ⟨_, h.start hidle (hcalls p hcall)⟩
  | event i e p t hnext heffect =>
    obtain ⟨x, hx⟩ := h.event hnext heffect hok
    exact ⟨_, hx⟩
  | respond id owner m r hrequest hnew =>
    obtain ⟨owner', m', hrequest', hwaiting⟩ := hok
    obtain ⟨rfl, rfl⟩ := Prod.mk.inj (Option.some.inj (hrequest'.symm.trans hrequest))
    exact ⟨_, h.respond hrequest hnew hwaiting⟩
  | strayResponse m r hshared => exact hok.elim
  | drift u hdrift => exact ⟨_, h.drift hdrift hok⟩

/-- The rule for blocking requests: calls that keep to the protocol are sound in
    every run whose responses come in time. -/
theorem sound (hcalls : ∀ p, Calls p → Obeys p (.outside [] none))
    (h : Reachable Start (Guarded (Step Calls) InTime) s) : Sound s := by
  have htracks : ∃ st, Tracks s st := by
    refine h.invariant (fun s => ∃ st, Tracks s st) (fun _ hs => hs.tracks) ?_
    intro s l t ⟨st, hst⟩ ⟨hstep, hok⟩
    exact hst.step hcalls hstep hok
  obtain ⟨st, hst⟩ := htracks
  exact hst.sound

end Moves

structure Api where
  service : Service
  Calls : service.Asked service.Result → Prop
  Acked : service.Resp → Prop
  Succeeded : service.Result → Prop
  obeys : ∀ p, Calls p → Obeys p (.outside [] none)
  honest : ∀ os a, service.Returns os a → Succeeded a →
    os ≠ [] ∧ ∀ o ∈ os, ∃ r, o = some r ∧ Acked r

/-- Success was acknowledged for the call's own requests, a refused request is
    no success, and only its own responses reach a call. -/
structure Kept [DecidableEq ι] (x : Api) (s : State x.service ι) : Prop where
  acked : ∀ i a, s.calls i = .ret a → x.Succeeded a →
    s.outcomes i ≠ [] ∧ ∀ o ∈ s.outcomes i, ∃ r, o = some r ∧ x.Acked r
  refused : ∀ i a r, s.calls i = .ret a → some r ∈ s.outcomes i → ¬ x.Acked r → ¬ x.Succeeded a
  calm : ∀ i, s.intruded i = false

theorem Api.kept [DecidableEq ι] (x : Api) {s : State x.service ι}
    (h : Reachable Start (Guarded (Step x.Calls) InTime) s) : Kept x s := by
  obtain ⟨hreturns, hcalm⟩ := sound x.obeys h
  refine ⟨fun i a hret hok => ?_, fun i a r hret hr hnack hok => ?_, hcalm⟩
  · exact x.honest _ a (hreturns i a hret) hok
  · obtain ⟨r', hr', hack⟩ := (x.honest _ a (hreturns i a hret) hok).2 _ hr
    obtain rfl := Option.some.inj hr'
    exact hnack hack

end SyncRequest

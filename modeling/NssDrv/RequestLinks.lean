import NssDrv.SyncRequest

set_option autoImplicit false

/-!
# The requests behind a call

Which messages a call has sent, and which of its requests has woken it.
-/
namespace SyncRequest
open CallTree
variable {S : Service} {ι : Type}

def sends (sent : List S.Msg) : S.ServiceEvent → List S.Msg
  | .saw (.send m) went => if (went : Bool) then sent ++ [m] else sent
  | _ => sent

def wokenBy (node waiting : Option ℕ) : S.ServiceEvent → Option ℕ
  | .saw .wait woken => if (woken : Bool) then waiting else node
  | _ => node

/-- What an event of call `i` does to the requests and to the ghosts of the call. -/
structure EventLinks (s t : State S ι) (i : ι) (e : S.ServiceEvent) : Prop where
  answers : t.answers = s.answers
  others : ∀ j, j ≠ i → t.waiting j = s.waiting j ∧ t.outcomes j = s.outcomes j
  requests : ∀ (id : ℕ) x, s.requests[id]? = some x → t.requests[id]? = some x
  sends : ∀ sent, ∀ m ∈ sent, m ∈ sends sent e
  waiting : ∀ sent (id : ℕ), t.waiting i = some id → s.waiting i = some id ∨
    ∃ m ∈ SyncRequest.sends sent e, t.requests[id]? = some (i, m)
  node : ∀ node, wokenBy node (s.waiting i) e = node ∨
    wokenBy node (s.waiting i) e = s.waiting i
  outcome : ∀ node, (t.outcomes i = s.outcomes i ∧ wokenBy node (s.waiting i) e = node) ∨
    ∃ o, t.outcomes i = s.outcomes i ++ [o] ∧ ∀ r, o = some r →
      ∃ id, wokenBy node (s.waiting i) e = some id ∧ s.answers id = some r

variable {i : ι} {s t : State S ι} {e : S.ServiceEvent}

theorem requests_append {requests : List (ι × S.Msg)} {new x : ι × S.Msg} {id : ℕ}
    (h : requests[id]? = some x) : (requests ++ [new])[id]? = some x := by
  have hlt : id < requests.length := (List.getElem?_eq_some_iff.mp h).1
  rwa [List.getElem?_append_left hlt]

theorem links_same (hanswers : t.answers = s.answers) (hwaiting : t.waiting = s.waiting)
    (houtcomes : t.outcomes = s.outcomes) (hrequests : t.requests = s.requests)
    (hsends : ∀ sent, sends sent e = sent)
    (hwoken : ∀ node waiting, wokenBy node waiting e = node) :
    EventLinks s t i e where
  answers := hanswers
  others j _ := ⟨congrFun hwaiting j, congrFun houtcomes j⟩
  requests _ _ h := hrequests ▸ h
  sends _ _ h := (hsends _).symm ▸ h
  waiting _ _ h := .inl (hwaiting ▸ h)
  node _ := .inl (hwoken _ _)
  outcome _ := .inl ⟨congrFun houtcomes i, hwoken _ _⟩

section Effects
variable [DecidableEq ι]

theorem links_sent {m : S.Msg} (h : s.Effect i (.saw (.send m) true) t) :
    EventLinks s t i (.saw (.send m) true) := by
  obtain rfl := h
  refine ⟨rfl, fun j hj => ⟨Function.update_of_ne hj _ _, rfl⟩, fun _ _ => requests_append,
    fun sent m' hm => List.mem_append_left _ hm, fun sent id hid => .inr ⟨m, ?_, ?_⟩,
    fun _ => .inl rfl, fun _ => .inl ⟨rfl, rfl⟩⟩
  · exact List.mem_append_right sent (List.mem_singleton_self m)
  · have hid : Function.update s.waiting i (some s.requests.length) i = some id := hid
    rw [Function.update_self] at hid
    obtain rfl := Option.some.inj hid
    exact List.getElem?_concat_length

theorem links_refused {m : S.Msg} (h : s.Effect i (.saw (.send m) false) t) :
    EventLinks s t i (.saw (.send m) false) := by
  obtain rfl := h
  exact ⟨rfl, fun j hj => ⟨rfl, Function.update_of_ne hj _ _⟩, fun _ _ h => h, fun _ _ h => h,
    fun _ _ h => .inl h, fun _ => .inl rfl,
    fun _ => .inr ⟨none, Function.update_self _ _ _, nofun⟩⟩

theorem links_woken (h : s.Effect i (.saw .wait true) t) : EventLinks s t i (.saw .wait true) := by
  obtain ⟨-, rfl⟩ := h
  refine ⟨rfl, fun j hj => ⟨Function.update_of_ne hj _ _, Function.update_of_ne hj _ _⟩,
    fun _ _ h => h, fun _ _ h => h, fun sent id hid => ?_, fun _ => .inr rfl,
    fun node => .inr ⟨_, Function.update_self _ _ _, fun r hr => ?_⟩⟩
  · have hid : Function.update s.waiting i none i = some id := hid
    rw [Function.update_self] at hid
    cases hid
  · exact Option.bind_eq_some_iff.mp hr

theorem links_timeout (h : s.Effect i (.saw .wait false) t) :
    EventLinks s t i (.saw .wait false) := by
  obtain ⟨-, rfl⟩ := h
  refine ⟨rfl, fun j hj => ⟨Function.update_of_ne hj _ _, Function.update_of_ne hj _ _⟩,
    fun _ _ h => h, fun _ _ h => h, fun sent id hid => ?_, fun _ => .inl rfl,
    fun node => .inr ⟨none, Function.update_self _ _ _, nofun⟩⟩
  have hid : Function.update s.waiting i none i = some id := hid
  rw [Function.update_self] at hid
  cases hid

theorem effect_links (h : s.Effect i e t) : EventLinks s t i e := by
  cases e with
  | did c =>
    cases c with
    | down =>
      obtain ⟨-, rfl⟩ := h
      exact links_same rfl rfl rfl rfl (fun _ => rfl) fun _ _ => rfl
    | up =>
      obtain rfl := h
      exact links_same rfl rfl rfl rfl (fun _ => rfl) fun _ _ => rfl
    | write f =>
      obtain rfl := h
      exact links_same rfl rfl rfl rfl (fun _ => rfl) fun _ _ => rfl
  | saw q a =>
    cases q with
    | get =>
      obtain ⟨-, rfl⟩ := h
      exact links_same rfl rfl rfl rfl (fun _ => rfl) fun _ _ => rfl
    | send m =>
      cases a with
      | true => exact links_sent h
      | false => exact links_refused h
    | wait =>
      cases a with
      | true => exact links_woken h
      | false => exact links_timeout h
    | input q =>
      obtain rfl := h
      exact links_same rfl rfl rfl rfl (fun _ => rfl) fun _ _ => rfl

end Effects

end SyncRequest

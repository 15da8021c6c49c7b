import NssDrv.VirtualLifetimes

set_option autoImplicit false

/-!
# Accesses to freed handles

Which accesses can meet a handle that has been freed. The tables hold no freed
handle, and the calls that have a handle meet none, but where a user was told of
an asynchronous create that has failed. What remains are the message handlers
and readers that found a handle before it was freed, and the response to a
create message whose caller has given up.
-/
namespace NssDrv.LateAccesses
open RunHistories TransitionRuns VirtualLifetimes
open VirtualInterfaces (VirtFamily)

section Stages
variable {f : VirtFamily} {st st' : Stage} {a : Act} {m : Memory} {p : Part}

def handleMemory : Stage → Memory
  | .unborn => .none
  | .freed => .freed
  | _ => .allocated

/-- The block is there while the create call waits with it. -/
def holdsPvt : Stage → Bool
  | .built => true
  | .published => true
  | .registered => true
  | .waiting => true
  | _ => false

def isDead : Stage → Bool
  | .hollow => true
  | .freed => true
  | _ => false

def isListed : Stage → Bool
  | .unborn => false
  | .allocated => false
  | .built => false
  | .cleared _ => false
  | .unlisted _ => false
  | .hollow => false
  | .freed => false
  | .drafted => false
  | .requested => false
  | _ => true

/-- No create message that is answered has been sent. -/
def isEarly : Stage → Bool
  | .unborn => true
  | .allocated => true
  | .built => true
  | .published => true
  | .registered => true
  | .drafted => true
  | .requested => true
  | .accepted => true
  | .handled => true
  | .told => true
  | .dismissing false => true
  | _ => false

def isBare : Stage → Bool
  | .unborn => true
  | .allocated => true
  | .drafted => true
  | .requested => true
  | .accepted => true
  | .handled => true
  | .told => true
  | .dismissing false => true
  | _ => false

/-- A create has failed and its destroy is under way or over. -/
def isLate : Stage → Bool
  | .dismissed false => true
  | .deallocated false => true
  | .unlisted false => true
  | .freed => true
  | .lost => true
  | _ => false

/-- Where the user can stand that is told of it. -/
def isGuest : Stage → Bool
  | .absent => true
  | .answering => true
  | .owned => true
  | .destroying true => true
  | .cleared true => true
  | .deallocated _ => true
  | .unlisted _ => true
  | .hollow => true
  | .freed => true
  | .dismissing true => true
  | .dismissed true => true
  | _ => false

structure PvtFits (st : Stage) (m : Memory) : Prop where
  held : holdsPvt st = true → m = .allocated
  dead : m = .freed → isDead st = true
  bare : isBare st = true → m = .none

theorem dead_unlisted (h : isDead st = true) : isListed st = false := by
  cases st <;> first | rfl | cases h

theorem moves_handle (h : Moves f st a st') : a.memory .handle (handleMemory st) = handleMemory st' := by
  cases h with
  | undealloc b | undeallocLast b | undismissed b | stays b => cases b <;> rfl
  | _ => rfl

theorem moves_held (h : Moves f st a st') (hst : holdsPvt st' = true) :
    a.allocates = some .pvt ∨ holdsPvt st = true ∧ a.frees ≠ some .pvt := by
  cases h with
  | kzallocPvt => exact .inl rfl
  | undealloc b | undeallocLast b | undismissed b | stays b => cases b <;> cases hst
  | _ => first | exact .inr ⟨rfl, nofun⟩ | cases hst

theorem moves_dead (h : Moves f st a st') (hst : isDead st = true ∨ a.frees = some .pvt) :
    isDead st' = true := by
  cases h with
  | kfreePvt | kfree => rfl
  | _ => rcases hst with hst | hst <;> cases hst

theorem moves_bare (h : Moves f st a st') (hst : isBare st' = true) :
    isBare st = true ∧ a.allocates ≠ some .pvt := by
  cases h with
  | kzallocPvt => cases hst
  | undealloc b | undeallocLast b | undismissed b | stays b => cases b <;> cases hst
  | _ => first | exact ⟨rfl, nofun⟩ | cases hst

theorem memory_none (ha : a.allocates ≠ some p) : a.memory p .none = .none := by
  unfold Act.memory
  rw [if_neg ha, if_neg fun h => h.2 rfl]

theorem memory_freed (ha : a.allocates = none) : a.memory p .freed = .freed := by
  unfold Act.memory
  rw [if_neg (by rw [ha]; nofun)]
  split <;> rfl

theorem moves_pvt (h : Moves f st a st') (hm : PvtFits st m) :
    PvtFits st' (a.memory .pvt m) where
  held hst := by
    unfold Act.memory
    rcases moves_held h hst with hnew | ⟨hold, hfrees⟩
    · rw [if_pos hnew]
    · rw [hm.held hold]
      split
      · rfl
      · rw [if_neg fun hboth => hfrees hboth.1]
  dead hfreed := by
    unfold Act.memory at hfreed
    split at hfreed
    · cases hfreed
    · split at hfreed
      · rename_i hfrees
        exact moves_dead h (.inr hfrees.1)
      · exact moves_dead h (.inl (hm.dead hfreed))
  bare hst := by
    obtain ⟨hold, hnew⟩ := moves_bare h hst
    rw [hm.bare hold]
    exact memory_none hnew

theorem moves_early (h : Moves f st a st') (hst : isEarly st' = true) : isEarly st = true := by
  cases h with
  | undealloc b | undeallocLast b | undismissed b | stays b => cases b <;> cases hst
  | _ => first | rfl | cases hst

theorem moves_listed (h : Moves f st a st') (hst : isListed st = true) (ha : a ≠ .clear) :
    isListed st' = true := by
  cases h with
  | undealloc b | undismissed b | stays b => cases b <;> rfl
  | clear | clearFirst => exact absurd rfl ha
  | _ => first | rfl | cases hst

theorem moves_ifNum {n : ℕ} (h : Moves f st a st') (hn : a.ifNum n ≠ n) : isListed st = false := by
  cases h with
  | kzalloc | accepted => rfl
  | _ => exact absurd rfl hn

theorem moves_entered {x y : ℕ} {old : Option ℕ} (h : Moves f st a st') (hslot : a.slot x old = some y) :
    (y = x ∧ isListed st' = true ∧ isLate st = false) ∨ old = some y ∧ a ≠ .clear := by
  cases h with
  | publish | accepted => exact .inl ⟨(Option.some.inj hslot).symm, rfl, rfl⟩
  | clear | clearFirst => cases hslot
  | _ => exact .inr ⟨hslot, nofun⟩

theorem moves_waiting (h : Moves f .waiting a st') : a = .timeout ∨ ∃ ok, a = .wake ok := by
  cases h with
  | timeout => exact .inl rfl
  | acked | nacked => exact .inr ⟨_, rfl⟩

theorem moves_late (h : Moves f st a st') (hst : isLate st = true) :
    isLate st' = true ∧ a.allocates = none ∧ ∀ old, a.inFlight old = old := by
  cases h with
  | undealloc b | undeallocLast b | undismissed b => cases hst
  | stays b | gone b =>
    cases b
    · exact ⟨rfl, rfl, fun _ => rfl⟩
    · cases hst
  | clear sync =>
    cases sync
    · exact ⟨rfl, rfl, fun _ => rfl⟩
    · cases hst
  | kfreeAsync => exact ⟨rfl, rfl, fun _ => rfl⟩
  | _ => cases hst

theorem moves_tells (h : Moves f st a st') (ha : a.tells = true) :
    isEarly st = true ∧ isBare st = true ∧ isLate st' = true ∧ a.allocates = none ∧
      ∀ old, a.inFlight old = old := by
  cases h with
  | dismissed b | undismissed b =>
    cases b
    · exact ⟨rfl, rfl, rfl, rfl, fun _ => rfl⟩
    · cases ha
  | _ => cases ha

/-- What the user that is told of a handle does not do. -/
structure GuestAct (a : Act) : Prop where
  tells : a.tells = false
  allocates : a.allocates = none
  ifNum : ∀ n, a.ifNum n = n
  inFlight : ∀ old, a.inFlight old = old
  slot : ∀ x old y, a.slot x old = some y → old = some y ∧ a ≠ .clear

theorem moves_start (h : Moves f st a st') : st ≠ .freed ∧ st ≠ .absent := by
  cases h <;> exact ⟨nofun, nofun⟩

theorem moves_granted (h : Moves f .answering a st') : a = .grant := by
  cases h
  rfl

theorem guest_move (h : Moves f st a st') (hst : isGuest st = true) : isGuest st' = true := by
  cases h with
  | undealloc b | undeallocLast b | undismissed b | stays b =>
    cases b <;> first | rfl | cases hst
  | clearFirst b | dismissed b => cases b <;> first | rfl | cases hst
  | _ => first | rfl | cases hst

theorem guest_act (h : Moves f st a st') (hst : isGuest st = true) : GuestAct a := by
  cases h with
  | dismissed b | undismissed b =>
    cases b
    · cases hst
    · exact ⟨rfl, rfl, fun _ => rfl, fun _ => rfl, fun _ _ _ h => ⟨h, nofun⟩⟩
  | clear | clearFirst => exact ⟨rfl, rfl, fun _ => rfl, fun _ => rfl, nofun⟩
  | _ =>
    first
    | exact ⟨rfl, rfl, fun _ => rfl, fun _ => rfl, fun _ _ _ h => ⟨h, nofun⟩⟩
    | cases hst

theorem guest_frees (h : Moves f st a st') (hst : isGuest st = true) :
    a.frees = some .handle ↔ st' = .freed := by
  cases h with
  | undealloc b | undeallocLast b | undismissed b | stays b => cases b <;> exact ⟨nofun, nofun⟩
  | kfree | kfreeAsync => exact ⟨fun _ => rfl, fun _ => rfl⟩
  | noPvt | unrequested | refusedCb => cases hst
  | _ => exact ⟨nofun, nofun⟩

theorem guest_handle {main : Stage} (h : Moves f st a st') (hst : isGuest st = true)
    (hmain : isLate main = true) : a.memory .handle (handleMemory main) =
      if st' = .freed then .freed else handleMemory main := by
  have hnew : ¬ a.allocates = some .handle := by
    rw [(guest_act h hst).allocates]
    nofun
  have hreal : handleMemory main ≠ .none := by
    intro hnone
    cases main <;> simp_all [isLate, handleMemory]
  unfold Act.memory
  rw [if_neg hnew]
  by_cases hfrees : a.frees = some .handle
  · rw [if_pos ⟨hfrees, hreal⟩, if_pos ((guest_frees h hst).mp hfrees)]
  · rw [if_neg fun hboth => hfrees hboth.1, if_neg fun hfreed => hfrees ((guest_frees h hst).mpr hfreed)]

theorem moves_sent (h : Moves f st a st') : (∀ old, a.inFlight old = old) ∨
    (isEarly st = true ∧ handleMemory st = .allocated ∧ holdsPvt st = true) ∧ st' = .waiting := by
  cases h with
  | sent => exact .inr ⟨⟨rfl, rfl, rfl⟩, rfl⟩
  | _ => exact .inl fun _ => rfl

theorem memory_ne_none (h : m ≠ .none) : a.memory p m ≠ .none := by
  unfold Act.memory
  split
  · nofun
  · split
    · nofun
    · exact h

theorem moves_touches (h : Moves f st a st') (hp : p ∈ a.touches f) :
    p = .handle ∧ handleMemory st = .allocated ∨ p = .pvt ∧ holdsPvt st = true := by
  cases p with
  | handle =>
    refine .inl ⟨rfl, ?_⟩
    cases h <;> first | rfl | simp [Act.touches] at hp
  | pvt =>
    refine .inr ⟨rfl, ?_⟩
    cases h <;> first | rfl | simp_all [Act.touches]

theorem moves_frees (h : Moves f st a st') (hp : a.frees = some p) :
    p = .handle ∧ handleMemory st = .allocated ∨ p = .pvt ∧ isDead st = false := by
  cases h with
  | noPvt | kfree | unrequested | refusedCb | kfreeAsync =>
    exact .inl ⟨(Option.some.inj hp).symm, rfl⟩
  | kfreePvt => exact .inr ⟨(Option.some.inj hp).symm, rfl⟩
  | _ => cases hp

end Stages

section Positions
variable {p q : Position} {m : Message} {f : VirtFamily} {n x y : ℕ} {ok : Bool} {seen : Option ℕ}

/-- A thread that goes on keeps what it has found and what it answers, or drops it. -/
def Follows (p q : Position) : Prop :=
  (q.found = none ∨ q.found = p.found) ∧ (q.carries = none ∨ q.carries = p.carries)

theorem follows_idle : Follows p .idle := ⟨.inl rfl, .inl rfl⟩

theorem follows_tended : Follows (.handling m n y) (.tended m n y) := by
  cases m <;> exact ⟨.inr rfl, .inr rfl⟩

theorem follows_dispatch : Follows (.tended m n y) (.dispatch m n y) := by
  cases m with
  | created => exact ⟨.inr rfl, .inr rfl⟩
  | stats | other => exact follows_idle

theorem follows_callback : Follows (.answering x ok n y) (.callback f x ok n y) := by
  unfold Position.callback
  split <;> exact ⟨.inr rfl, .inr rfl⟩

theorem follows_recheck : Follows (.checking x ok n y) (.recheck x ok y seen) := by
  cases seen with
  | none => exact follows_idle
  | some z => exact ⟨.inr rfl, .inr rfl⟩

theorem Follows.carries (h : Follows p q) (hq : q.carries = some x) : p.carries = some x := by
  rcases h.2 with hnone | hsame
  · rw [hnone] at hq
    cases hq
  · exact hsame ▸ hq

theorem Follows.found (h : Follows p q) (hq : q.found = some x) : p.found = some x := by
  rcases h.1 with hnone | hsame
  · rw [hnone] at hq
    cases hq
  · exact hsame ▸ hq

theorem handle_found : (Position.handle m n seen).found = seen := by
  cases seen <;> rfl

theorem copy_found : (Position.copy seen).found = seen := by
  cases seen <;> rfl

theorem handle_carries (h : (Position.handle m n seen).carries = some x) :
    ∃ ok y, m = .created x ok ∧ seen = some y := by
  cases seen with
  | none => cases h
  | some y =>
    cases m with
    | created z ok =>
      obtain rfl := Option.some.inj h
      exact ⟨ok, y, rfl, rfl⟩
    | stats | other => cases h

theorem copy_carries : (Position.copy seen).carries ≠ some x := by
  cases seen <;> nofun

end Positions

section Invariant
variable {family : ℕ → VirtFamily} {s t : State} {l : Label} {ls : List Label} {x y i n : ℕ}
  {f : VirtFamily} {a : Act} {st : Stage} {p : Position}

/-- The user has got the handle with an acknowledgement, of a create that has failed. -/
def Misled (ls : List Label) (x : ℕ) : Prop := .guest x .grant ∈ ls

/-- A second call has the handle, or will have it. -/
structure Told (ls : List Label) (s : State) (x : ℕ) : Prop where
  late : isLate (s.stage x) = true
  bare : s.memory x .pvt = .none
  quiet : ¬ s.owing x
  misled : s.guest x = .answering ∨ Misled ls x

structure Inv (family : ℕ → VirtFamily) (ls : List Label) (s : State) : Prop where
  handle : ∀ x, s.memory x .handle =
    if s.guest x = .freed then .freed else handleMemory (s.stage x)
  pvt : ∀ x, PvtFits (s.stage x) (s.memory x .pvt)
  listed : ∀ f n x, s.table f n = some x →
    family x = f ∧ s.ifNum x = n ∧ isListed (s.stage x) = true ∧ isListed (s.guest x) = true
  early : ∀ x, isEarly (s.stage x) = true → s.answer x = none ∧ ¬ s.owing x
  owing : ∀ x, s.owing x → s.stage x = .waiting ∧ s.answer x = none ∨ .act x .timeout ∈ ls
  real : ∀ x, s.owing x → ∀ p, s.memory x p ≠ .none
  alone : ∀ i x, (s.pool i).carries = some x →
    s.inFlight x = false ∧ ∀ j, (s.pool j).carries = some x → j = i
  guest : ∀ x, isGuest (s.guest x) = true
  told : ∀ x, s.guest x ≠ .absent → Told ls s x

theorem after_self : (s.after family x a st).stage x = st := Function.update_self ..

theorem after_stage (h : y ≠ x) : (s.after family x a st).stage y = s.stage y :=
  Function.update_of_ne h _ _

theorem after_ifNum (h : y ≠ x) : (s.after family x a st).ifNum y = s.ifNum y :=
  Function.update_of_ne h _ _

theorem after_memory (h : y ≠ x) : (s.after family x a st).memory y = s.memory y :=
  Function.update_of_ne h _ _

theorem after_memory_self (p : Part) :
    (s.after family x a st).memory x p = a.memory p (s.memory x p) := by
  simp [State.after, State.effect]

theorem after_inFlight (h : y ≠ x) : (s.after family x a st).inFlight y = s.inFlight y :=
  Function.update_of_ne h _ _

theorem after_slot : (s.after family x a st).table (family x) (a.ifNum (s.ifNum x)) =
    a.slot x (s.table (family x) (a.ifNum (s.ifNum x))) := by
  simp [State.after, State.effect, State.setSlot]

theorem after_table (h : ¬ (f = family x ∧ n = a.ifNum (s.ifNum x))) :
    (s.after family x a st).table f n = s.table f n := by
  by_cases hf : f = family x
  · subst hf
    have hn : n ≠ a.ifNum (s.ifNum x) := fun hn => h ⟨rfl, hn⟩
    simp [State.after, State.effect, State.setSlot, hn]
  · simp [State.after, State.effect, State.setSlot, hf]

theorem after_guest (h : y ≠ x) : (s.after family x a st).guest y = s.guest y := by
  simp only [State.after]
  split
  · exact Function.update_of_ne h _ _
  · rfl

theorem after_guest_self :
    (s.after family x a st).guest x = if a.tells = true then .answering else s.guest x := by
  simp only [State.after]
  split
  · exact Function.update_self ..
  · rfl

theorem owing_after (hy : y ≠ x) : (s.after family x a st).owing y ↔ s.owing y := by
  unfold State.owing
  rw [after_inFlight hy]
  exact Iff.rfl

theorem Inv.single (h : Inv family ls s) (hst : isLate (s.stage x) = false) :
    s.guest x = .absent := by
  by_contra hpresent
  rw [(h.told x hpresent).late] at hst
  cases hst

theorem Inv.handle_single (h : Inv family ls s) (hst : isLate (s.stage x) = false) :
    s.memory x .handle = handleMemory (s.stage x) := by
  rw [h.handle x, h.single hst, if_neg nofun]

theorem late_early (hst : isEarly st = true) : isLate st = false := by
  cases st with
  | dismissing b => rfl
  | _ => first | rfl | cases hst

theorem Inv.listed_after (h : Inv family ls s) (hmove : Moves (family x) (s.stage x) a st)
    (hy : (s.after family x a st).table f n = some y) :
    family y = f ∧ (s.after family x a st).ifNum y = n ∧
      isListed ((s.after family x a st).stage y) = true ∧
        isListed ((s.after family x a st).guest y) = true := by
  have hguest : isListed (s.guest y) = true → isListed ((s.after family x a st).guest y) = true := by
    intro hg
    by_cases hyx : y = x
    · subst hyx
      rw [after_guest_self]
      split
      · rfl
      · exact hg
    · rwa [after_guest hyx]
  by_cases hslot : f = family x ∧ n = a.ifNum (s.ifNum x)
  · obtain ⟨rfl, rfl⟩ := hslot
    rw [after_slot] at hy
    rcases moves_entered hmove hy with ⟨rfl, hst, hlate⟩ | ⟨hold, hclear⟩
    · refine ⟨rfl, Function.update_self .., after_self ▸ hst, hguest ?_⟩
      rw [h.single hlate]
      rfl
    · obtain ⟨hfamily, hnum, hlisted, hg⟩ := h.listed _ _ _ hold
      by_cases hyx : y = x
      · subst hyx
        exact ⟨rfl, Function.update_self .., after_self ▸ moves_listed hmove hlisted hclear,
          hguest hg⟩
      · rw [after_ifNum hyx, after_stage hyx]
        exact ⟨hfamily, hnum, hlisted, hguest hg⟩
  · rw [after_table hslot] at hy
    obtain ⟨hfamily, hnum, hlisted, hg⟩ := h.listed _ _ _ hy
    have hyx : y ≠ x := by
      rintro rfl
      have hn : a.ifNum (s.ifNum y) ≠ s.ifNum y := by
        intro hn
        exact hslot ⟨hfamily.symm, hnum.symm.trans hn.symm⟩
      exact absurd ((moves_ifNum hmove hn).symm.trans hlisted) nofun
    rw [after_ifNum hyx, after_stage hyx]
    exact ⟨hfamily, hnum, hlisted, hguest hg⟩

theorem owing_same (hflight : ∀ old, a.inFlight old = old)
    (howing : (s.after family x a st).owing x) : s.owing x := by
  rcases howing with hcoming | hcarried
  · have hold : (s.after family x a st).inFlight x = a.inFlight (s.inFlight x) :=
      Function.update_self ..
    rw [hold, hflight] at hcoming
    exact .inl hcoming
  · exact .inr hcarried

theorem Inv.owing_act (h : Inv family ls s) (hmove : Moves (family x) (s.stage x) a st)
    (hpermits : s.permits x a) (howing : (s.after family x a st).owing x) :
    isEarly st = false ∧ (∀ p, s.memory x p ≠ .none) ∧
      (st = .waiting ∧ s.answer x = none ∨ .act x .timeout ∈ ls ++ [.act x a]) := by
  rcases moves_sent hmove with hsame | ⟨⟨hearly, hhandle, hpvt⟩, rfl⟩
  · have hbefore := owing_same hsame howing
    refine ⟨?_, h.real x hbefore, ?_⟩
    · cases hst : isEarly st with
      | false => rfl
      | true => exact absurd hbefore (h.early x (moves_early hmove hst)).2
    · rcases h.owing x hbefore with ⟨hwait, hnone⟩ | hgone
      · rw [hwait] at hmove
        rcases moves_waiting hmove with rfl | ⟨ok, rfl⟩
        · exact .inr (List.mem_append_right _ (List.mem_singleton_self _))
        · exact absurd (hnone.symm.trans hpermits) nofun
      · exact .inr (List.mem_append_left _ hgone)
  · refine ⟨rfl, fun p => ?_, .inl ⟨rfl, (h.early x hearly).1⟩⟩
    cases p with
    | handle =>
      rw [h.handle_single (late_early hearly), hhandle]
      nofun
    | pvt =>
      rw [(h.pvt x).held hpvt]
      nofun

theorem Inv.handle_act (h : Inv family ls s) (hmove : Moves (family x) (s.stage x) a st) :
    a.memory .handle (s.memory x .handle) =
      if (if a.tells = true then .answering else s.guest x) = .freed then .freed
      else handleMemory st := by
  by_cases hfreed : s.guest x = .freed
  · have hlate := (h.told x (by rw [hfreed]; nofun)).late
    have hquiet : ¬ a.tells = true := by
      intro htells
      exact absurd ((late_early (moves_tells hmove htells).1).symm.trans hlate) nofun
    rw [h.handle x, hfreed, if_pos rfl, if_neg hquiet, if_pos rfl]
    exact memory_freed (moves_late hmove hlate).2.1
  · have hstay : ¬ (if a.tells = true then Stage.answering else s.guest x) = .freed := by
      split
      · nofun
      · exact hfreed
    rw [h.handle x, if_neg hfreed, if_neg hstay]
    exact moves_handle hmove

theorem Inv.told_act (h : Inv family ls s) (hmove : Moves (family x) (s.stage x) a st)
    (hpresent : (s.after family x a st).guest x ≠ .absent) :
    Told (ls ++ [.act x a]) (s.after family x a st) x := by
  by_cases htells : a.tells = true
  · obtain ⟨hearly, hbare, hlate, hnew, hflight⟩ := moves_tells hmove htells
    refine ⟨after_self ▸ hlate, ?_, fun howing => ?_, .inl ?_⟩
    · rw [after_memory_self, (h.pvt x).bare hbare]
      exact memory_none (by rw [hnew]; nofun)
    · exact (h.early x hearly).2 (owing_same hflight howing)
    · rw [after_guest_self, if_pos htells]
  · rw [after_guest_self, if_neg htells] at hpresent
    obtain ⟨hold, hbare, hquiet, hmisled⟩ := h.told x hpresent
    obtain ⟨hlate, hnew, hflight⟩ := moves_late hmove hold
    refine ⟨after_self ▸ hlate, ?_, fun howing => hquiet (owing_same hflight howing), ?_⟩
    · rw [after_memory_self, hbare]
      exact memory_none (by rw [hnew]; nofun)
    · rw [after_guest_self, if_neg htells]
      exact hmisled.imp_right fun hgrant => List.mem_append_left _ hgrant

theorem Inv.act (h : Inv family ls s) (hmove : Moves (family x) (s.stage x) a st)
    (hpermits : s.permits x a) : Inv family (ls ++ [.act x a]) (s.after family x a st) where
  handle y := by
    by_cases hy : y = x
    · subst hy
      rw [after_memory_self, after_self, after_guest_self]
      exact h.handle_act hmove
    · rw [after_memory hy, after_stage hy, after_guest hy]
      exact h.handle y
  pvt y := by
    by_cases hy : y = x
    · subst hy
      rw [after_memory_self, after_self]
      exact moves_pvt hmove (h.pvt y)
    · rw [after_memory hy, after_stage hy]
      exact h.pvt y
  listed _ _ _ hy := h.listed_after hmove hy
  early y hearly := by
    by_cases hy : y = x
    · subst hy
      rw [after_self] at hearly
      refine ⟨(h.early y (moves_early hmove hearly)).1, fun howing => ?_⟩
      rw [(h.owing_act hmove hpermits howing).1] at hearly
      cases hearly
    · rw [after_stage hy] at hearly
      rw [owing_after hy]
      exact h.early y hearly
  owing y howing := by
    by_cases hy : y = x
    · subst hy
      rw [after_self]
      exact (h.owing_act hmove hpermits howing).2.2
    · rw [owing_after hy] at howing
      rw [after_stage hy]
      rcases h.owing y howing with hwait | hgone
      · exact .inl hwait
      · exact .inr (List.mem_append_left _ hgone)
  real y howing p := by
    by_cases hy : y = x
    · subst hy
      rw [after_memory_self]
      exact memory_ne_none ((h.owing_act hmove hpermits howing).2.1 p)
    · rw [owing_after hy] at howing
      rw [after_memory hy]
      exact h.real y howing p
  alone i y hcarries := by
    have hcarried := h.alone i y hcarries
    by_cases hy : y = x
    · subst hy
      refine ⟨?_, hcarried.2⟩
      have hnew : (s.after family y a st).inFlight y = a.inFlight (s.inFlight y) :=
        Function.update_self ..
      rcases moves_sent hmove with hsame | ⟨⟨hearly, -⟩, -⟩
      · rw [hnew, hsame]
        exact hcarried.1
      · exact absurd (.inr ⟨i, hcarries⟩) (h.early y hearly).2
    · rw [after_inFlight hy]
      exact hcarried
  guest y := by
    by_cases hy : y = x
    · subst hy
      rw [after_guest_self]
      split
      · rfl
      · exact h.guest y
    · rw [after_guest hy]
      exact h.guest y
  told y hpresent := by
    by_cases hy : y = x
    · subst hy
      exact h.told_act hmove hpresent
    · rw [after_guest hy] at hpresent
      obtain ⟨hlate, hbare, hquiet, hmisled⟩ := h.told y hpresent
      refine ⟨?_, ?_, ?_, ?_⟩
      · rwa [after_stage hy]
      · rwa [after_memory hy]
      · rwa [owing_after hy]
      · rw [after_guest hy]
        exact hmisled.imp_right fun hgrant => List.mem_append_left _ hgrant

theorem place_self : (s.place i p).pool i = p := Function.update_self ..

theorem Told.quieter (h : Told ls s x) (howing : t.owing x → s.owing x)
    (hstage : t.stage x = s.stage x) (hguest : t.guest x = s.guest x)
    (hmemory : t.memory x = s.memory x) : Told ls t x where
  late := hstage ▸ h.late
  bare := hmemory ▸ h.bare
  quiet ho := h.quiet (howing ho)
  misled := hguest ▸ h.misled

theorem Inv.place (h : Inv family ls s) (hp : ∀ x, p.carries = some x → (s.pool i).carries = some x) :
    Inv family ls (s.place i p) := by
  have hpool : ∀ j x, ((s.place i p).pool j).carries = some x → (s.pool j).carries = some x := by
    intro j x hj
    by_cases hji : j = i
    · subst hji
      rw [place_self] at hj
      exact hp x hj
    · rwa [show (s.place i p).pool j = s.pool j from Function.update_of_ne hji _ _] at hj
  have howing : ∀ x, (s.place i p).owing x → s.owing x := by
    rintro x (hflight | ⟨j, hj⟩)
    · exact .inl hflight
    · exact .inr ⟨j, hpool j x hj⟩
  constructor
  · exact h.handle
  · exact h.pvt
  · exact h.listed
  · exact fun x hearly => ⟨(h.early x hearly).1, fun hx => (h.early x hearly).2 (howing x hx)⟩
  · exact fun x hx => h.owing x (howing x hx)
  · exact fun x hx => h.real x (howing x hx)
  · intro j x hj
    have hbefore := h.alone j x (hpool j x hj)
    exact ⟨hbefore.1, fun k hk => hbefore.2 k (hpool k x hk)⟩
  · exact h.guest
  · exact fun x hx => (h.told x hx).quieter (howing x) rfl rfl rfl

theorem Inv.more (h : Inv family ls s) (l : Label) : Inv family (ls ++ [l]) s :=
  { h with
    owing := fun x hx => (h.owing x hx).imp_right fun hgone => List.mem_append_left _ hgone
    told := fun x hx => { h.told x hx with
      misled := (h.told x hx).misled.imp_right fun hgrant => List.mem_append_left _ hgrant } }

theorem place_other {j : ℕ} (hj : j ≠ i) : (s.place i p).pool j = s.pool j :=
  Function.update_of_ne hj _ _

theorem Inv.take (h : Inv family ls s) {ok : Bool} {found : Option ℕ} (hflight : s.inFlight x = true) :
    Inv family ls ((s.took (.created x ok)).place i (.handle (.created x ok) n found)) := by
  have hnone : ∀ j, (s.pool j).carries ≠ some x := by
    intro j hj
    rw [(h.alone j x hj).1] at hflight
    cases hflight
  let t := (s.took (.created x ok)).place i (.handle (.created x ok) n found)
  have hpool : ∀ j z, (t.pool j).carries = some z →
      j = i ∧ z = x ∨ j ≠ i ∧ z ≠ x ∧ (s.pool j).carries = some z := by
    intro j z hj
    by_cases hji : j = i
    · subst hji
      rw [show t.pool j = _ from place_self] at hj
      obtain ⟨_, _, hm, -⟩ := handle_carries hj
      exact .inl ⟨rfl, (Message.created.inj hm).1.symm⟩
    · rw [show t.pool j = s.pool j from place_other hji] at hj
      refine .inr ⟨hji, ?_, hj⟩
      rintro rfl
      exact hnone j hj
  have hleft : t.inFlight x = false := Function.update_self ..
  have hkept : ∀ z, z ≠ x → t.inFlight z = s.inFlight z := fun z hz => Function.update_of_ne hz _ _
  have howing : ∀ z, t.owing z → s.owing z := by
    rintro z (hz | ⟨j, hj⟩)
    · by_cases hzx : z = x
      · exact .inl (hzx ▸ hflight)
      · exact .inl ((hkept z hzx).symm.trans hz)
    · rcases hpool j z hj with ⟨-, rfl⟩ | ⟨-, -, hj⟩
      · exact .inl hflight
      · exact .inr ⟨j, hj⟩
  constructor
  · exact h.handle
  · exact h.pvt
  · exact h.listed
  · exact fun z hearly => ⟨(h.early z hearly).1, fun hz => (h.early z hearly).2 (howing z hz)⟩
  · exact fun z hz => h.owing z (howing z hz)
  · exact fun z hz => h.real z (howing z hz)
  · intro j z hj
    rcases hpool j z hj with ⟨rfl, rfl⟩ | ⟨-, hzx, hold⟩
    · refine ⟨hleft, fun k hk => ?_⟩
      rcases hpool k z hk with ⟨hk, -⟩ | ⟨-, hz, -⟩
      · exact hk
      · exact absurd rfl hz
    · refine ⟨(hkept z hzx).trans (h.alone j z hold).1, fun k hk => ?_⟩
      rcases hpool k z hk with ⟨-, hz⟩ | ⟨-, -, hk⟩
      · exact absurd hz hzx
      · exact (h.alone j z hold).2 k hk
  · exact h.guest
  · exact fun z hz => (h.told z hz).quieter (howing z) rfl rfl rfl

theorem Inv.complete (h : Inv family ls s) {ok : Bool} (hpos : s.pool i = .completing x ok y) :
    Inv family ls ((s.answered x ok).place i .idle) := by
  have hcarries : (s.pool i).carries = some x := by
    rw [hpos]
    rfl
  have hplaced : Inv family ls (s.place i .idle) := h.place fun _ hx => follows_idle.carries hx
  have hdone : ¬ (s.place i .idle).owing x := by
    rintro (hflight | ⟨j, hj⟩)
    · exact absurd ((h.alone i x hcarries).1.symm.trans hflight) nofun
    · by_cases hji : j = i
      · subst hji
        rw [place_self] at hj
        cases hj
      · rw [place_other hji] at hj
        exact hji ((h.alone i x hcarries).2 j hj)
  have hlate : isEarly (s.stage x) ≠ true := by
    intro hearly
    exact (h.early x hearly).2 (.inr ⟨i, hcarries⟩)
  have hsame : ∀ z, z ≠ x → ((s.answered x ok).place i .idle).answer z = s.answer z :=
    fun z hz => Function.update_of_ne hz _ _
  constructor
  · exact h.handle
  · exact h.pvt
  · exact h.listed
  · intro z hearly
    have hzx : z ≠ x := by
      rintro rfl
      exact hlate hearly
    exact ⟨(hsame z hzx).trans (h.early z hearly).1, (hplaced.early z hearly).2⟩
  · intro z hz
    have hzx : z ≠ x := by
      rintro rfl
      exact hdone hz
    rw [hsame z hzx]
    exact hplaced.owing z hz
  · exact hplaced.real
  · exact hplaced.alone
  · exact h.guest
  · exact fun z hz => (hplaced.told z hz).quieter id rfl rfl rfl

theorem guest_owing (hact : GuestAct a) : (s.afterGuest family x a st).inFlight = s.inFlight := by
  funext y
  simp only [State.afterGuest, State.effect, hact.inFlight, Function.update_eq_self]

theorem guest_ifNum (hact : GuestAct a) : (s.afterGuest family x a st).ifNum = s.ifNum := by
  simp only [State.afterGuest, State.effect, hact.ifNum, Function.update_eq_self]

theorem guest_memory (hy : y ≠ x) : (s.afterGuest family x a st).memory y = s.memory y :=
  Function.update_of_ne hy _ _

theorem guest_memory_self (p : Part) :
    (s.afterGuest family x a st).memory x p = a.memory p (s.memory x p) := by
  simp [State.afterGuest, State.effect]

theorem guest_self : (s.afterGuest family x a st).guest x = st := Function.update_self ..

theorem guest_other (hy : y ≠ x) : (s.afterGuest family x a st).guest y = s.guest y :=
  Function.update_of_ne hy _ _

theorem guest_table (hact : GuestAct a) (hy : (s.afterGuest family x a st).table f n = some y) :
    s.table f n = some y ∧ (f = family x ∧ n = s.ifNum x → a ≠ .clear) := by
  by_cases hslot : f = family x ∧ n = s.ifNum x
  · obtain ⟨rfl, rfl⟩ := hslot
    have hnew : (s.afterGuest family x a st).table (family x) (s.ifNum x) =
        a.slot x (s.table (family x) (s.ifNum x)) := by
      simp [State.afterGuest, State.effect, State.setSlot, hact.ifNum]
    obtain ⟨hold, hclear⟩ := hact.slot _ _ _ (hnew ▸ hy)
    exact ⟨hold, fun _ => hclear⟩
  · refine ⟨?_, fun h => absurd h hslot⟩
    by_cases hf : f = family x
    · subst hf
      have hn : n ≠ s.ifNum x := fun hn => hslot ⟨rfl, hn⟩
      simpa [State.afterGuest, State.effect, State.setSlot, hact.ifNum, hn] using hy
    · simpa [State.afterGuest, State.effect, State.setSlot, hf] using hy

theorem guest_owes (hact : GuestAct a) : (s.afterGuest family x a st).owing y ↔ s.owing y := by
  unfold State.owing
  rw [guest_owing hact]
  exact Iff.rfl

theorem Told.guest_pvt (h : Told ls s x) (hact : GuestAct a) :
    a.memory .pvt (s.memory x .pvt) = s.memory x .pvt := by
  rw [h.bare]
  exact memory_none (by rw [hact.allocates]; nofun)

theorem Told.guestAct (h : Told ls s x) (hmove : Moves (family x) (s.guest x) a st)
    (hact : GuestAct a) : Told (ls ++ [.guest x a]) (s.afterGuest family x a st) x where
  late := h.late
  bare := by
    rw [guest_memory_self, h.guest_pvt hact]
    exact h.bare
  quiet ho := h.quiet ((guest_owes hact).mp ho)
  misled := by
    refine .inr ?_
    rcases h.misled with hanswering | hgrant
    · rw [hanswering] at hmove
      rw [moves_granted hmove]
      exact List.mem_append_right _ (List.mem_singleton_self _)
    · exact List.mem_append_left _ hgrant

theorem Inv.guestAct (h : Inv family ls s) (hmove : Moves (family x) (s.guest x) a st) :
    Inv family (ls ++ [.guest x a]) (s.afterGuest family x a st) := by
  have hguest := h.guest x
  have hact := guest_act hmove hguest
  obtain ⟨hfresh, hpresent⟩ := moves_start hmove
  have htold := h.told x hpresent
  constructor
  case handle =>
    intro y
    by_cases hy : y = x
    · subst hy
      rw [guest_memory_self, guest_self, h.handle y, if_neg hfresh]
      exact guest_handle hmove hguest htold.late
    · rw [guest_memory hy, guest_other hy]
      exact h.handle y
  case pvt =>
    intro y
    by_cases hy : y = x
    · subst hy
      rw [guest_memory_self, htold.guest_pvt hact]
      exact h.pvt y
    · rw [guest_memory hy]
      exact h.pvt y
  case listed =>
    intro f n y hy
    obtain ⟨hold, hclear⟩ := guest_table hact hy
    obtain ⟨hfamily, hnum, hlisted, hg⟩ := h.listed f n y hold
    refine ⟨hfamily, ?_, hlisted, ?_⟩
    · rw [guest_ifNum hact]
      exact hnum
    · by_cases hyx : y = x
      · subst hyx
        rw [guest_self]
        exact moves_listed hmove hg (hclear ⟨hfamily.symm, hnum.symm⟩)
      · rw [guest_other hyx]
        exact hg
  case early =>
    intro y hearly
    exact ⟨(h.early y hearly).1, fun ho => (h.early y hearly).2 ((guest_owes hact).mp ho)⟩
  case owing =>
    intro y ho
    exact (h.owing y ((guest_owes hact).mp ho)).imp_right fun hgone => List.mem_append_left _ hgone
  case real =>
    intro y ho p
    have howed := (guest_owes hact).mp ho
    by_cases hy : y = x
    · subst hy
      exact absurd howed htold.quiet
    · rw [guest_memory hy]
      exact h.real y howed p
  case alone =>
    intro i y hi
    rw [guest_owing hact]
    exact h.alone i y hi
  case guest =>
    intro y
    by_cases hy : y = x
    · subst hy
      rw [guest_self]
      exact guest_move hmove hguest
    · rw [guest_other hy]
      exact h.guest y
  case told =>
    intro y hy
    by_cases hyx : y = x
    · subst hyx
      exact htold.guestAct hmove hact
    · rw [guest_other hyx] at hy
      obtain ⟨hlate, hbare, hquiet, hmisled⟩ := h.told y hy
      refine ⟨hlate, ?_, fun ho => hquiet ((guest_owes hact).mp ho), ?_⟩
      · rw [guest_memory hyx]
        exact hbare
      · rw [guest_other hyx]
        exact hmisled.imp_right fun hgrant => List.mem_append_left _ hgrant

theorem Inv.goOn {q : Position} (h : Inv family ls s) (hpos : s.pool i = q) (hp : Follows q p) :
    Inv family ls (s.place i p) :=
  h.place fun _ hx => hpos ▸ hp.carries hx

theorem Inv.step (h : Inv family ls s) (hstep : Step family s l t) : Inv family (ls ++ [l]) t := by
  cases hstep with
  | act x a st hmove hpermits => exact h.act hmove hpermits
  | guest x a st hmove hpermits => exact h.guestAct hmove
  | lookup i f n m hidle hcomes =>
    refine Inv.more ?_ _
    cases m with
    | created x ok => exact h.take hcomes.1
    | stats | other =>
      refine h.place fun x hx => ?_
      obtain ⟨_, _, hm, -⟩ := handle_carries hx
      cases hm
  | tend i m n y hpos => exact (h.goOn hpos follows_tended).more _
  | dispatch i m n y hpos => exact (h.goOn hpos follows_dispatch).more _
  | callback i x ok n y hpos => exact (h.goOn hpos follows_callback).more _
  | recheck i x ok n y hpos => exact (h.goOn hpos follows_recheck).more _
  | complete i x ok y hpos => exact (h.complete hpos).more _
  | look i f n hidle => exact (h.place fun x hx => absurd hx copy_carries).more _
  | copy i y hpos => exact (h.goOn hpos follows_idle).more _

/-- Nothing has been allocated, and no handler or reader runs. -/
structure Start (s : State) : Prop where
  stage : ∀ x, s.stage x = .unborn
  guest : ∀ x, s.guest x = .absent
  memory : ∀ x p, s.memory x p = .none
  table : ∀ f n, s.table f n = none
  inFlight : ∀ x, s.inFlight x = false
  answer : ∀ x, s.answer x = none
  pool : ∀ i, s.pool i = .idle

theorem Start.inv (h : Start s) : Inv family [] s := by
  have howing : ∀ x, ¬ s.owing x := by
    rintro x (hx | ⟨i, hi⟩)
    · rw [h.inFlight x] at hx
      cases hx
    · rw [h.pool i] at hi
      cases hi
  constructor
  · intro x
    rw [h.stage x, h.memory x, h.guest x]
    rfl
  · intro x
    rw [h.stage x, h.memory x]
    exact ⟨nofun, nofun, fun _ => rfl⟩
  · intro f n x hx
    rw [h.table f n] at hx
    cases hx
  · exact fun x _ => ⟨h.answer x, howing x⟩
  · exact fun x hx => absurd hx (howing x)
  · exact fun x hx => absurd hx (howing x)
  · intro i x hx
    exact absurd (.inr ⟨i, hx⟩) (howing x)
  · intro x
    rw [h.guest x]
    rfl
  · exact fun x hx => absurd (h.guest x) hx

theorem Inv.of_run (hs : Start s) (h : Run (Step family) s ls t) : Inv family ls t :=
  along (Inv family) (fun _ _ _ _ hinv hstep => hinv.step hstep) h hs.inv

theorem Inv.allocated (h : Inv family ls s) (hx : s.table f n = some x) :
    s.memory x .handle = .allocated := by
  obtain ⟨-, -, hlisted, hguest⟩ := h.listed f n x hx
  have hpresent : s.guest x ≠ .freed := by
    intro hfreed
    rw [hfreed] at hguest
    cases hguest
  rw [h.handle x, if_neg hpresent]
  cases hst : s.stage x <;> first | rfl | (rw [hst] at hlisted; cases hlisted)

theorem Inv.allocated_pvt (h : Inv family ls s) (hx : s.table f n = some x)
    (hflight : s.inFlight x = true) : s.memory x .pvt = .allocated := by
  obtain ⟨-, -, hlisted, -⟩ := h.listed f n x hx
  have hnone := h.real x (.inl hflight) .pvt
  have hfreed : s.memory x .pvt ≠ .freed := by
    intro hfreed
    exact absurd (hlisted.symm.trans (dead_unlisted ((h.pvt x).dead hfreed))) nofun
  cases hm : s.memory x .pvt with
  | none => exact absurd hm hnone
  | allocated => rfl
  | freed => exact absurd hm hfreed

theorem Inv.misled (h : Inv family ls s) (hx : s.guest x = .freed) : Misled ls x := by
  refine (h.told x (by rw [hx]; nofun)).misled.resolve_left fun hanswering => ?_
  rw [hx] at hanswering
  cases hanswering

/-- The call that has the handle reads and writes what is there, if it is the only one. -/
theorem Inv.touches {p : Part} (h : Inv family ls s) (hstep : Step family s (.act x a) t)
    (hp : p ∈ a.touches (family x)) : s.memory x p = .allocated ∨ Misled ls x := by
  cases hstep with
  | act _ _ st hmove hpermits =>
    rcases moves_touches hmove hp with ⟨rfl, hst⟩ | ⟨rfl, hst⟩
    · by_cases hfreed : s.guest x = .freed
      · exact .inr (h.misled hfreed)
      · rw [h.handle x, if_neg hfreed]
        exact .inl hst
    · exact .inl ((h.pvt x).held hst)

theorem Inv.frees {p : Part} (h : Inv family ls s) (hstep : Step family s (.act x a) t)
    (hp : a.frees = some p) : s.memory x p ≠ .freed ∨ Misled ls x := by
  cases hstep with
  | act _ _ st hmove hpermits =>
    rcases moves_frees hmove hp with ⟨rfl, hst⟩ | ⟨rfl, hst⟩
    · by_cases hfreed : s.guest x = .freed
      · exact .inr (h.misled hfreed)
      · rw [h.handle x, if_neg hfreed, hst]
        exact .inl nofun
    · refine .inl fun hfreed => ?_
      rw [(h.pvt x).dead hfreed] at hst
      cases hst

theorem Inv.guest_misled (h : Inv family ls s) (hstep : Step family s (.guest x a) t) :
    a = .grant ∨ Misled ls x := by
  cases hstep with
  | guest _ _ st hmove hpermits =>
    rcases (h.told x (moves_start hmove).2).misled with hanswering | hgrant
    · rw [hanswering] at hmove
      exact .inl (moves_granted hmove)
    · exact .inr hgrant

end Invariant

section Histories
variable {family : ℕ → VirtFamily} {s t u v : State} {l : Label} {ls : List Label} {x i : ℕ} {p : Part}

theorem step_frees (h : Step family s l t) (hs : s.memory x p = .allocated)
    (ht : t.memory x p ≠ .allocated) : l.frees x p := by
  cases h with
  | act y a st hmove hpermits =>
    by_cases hy : x = y
    · subst hy
      rw [after_memory_self, hs] at ht
      refine ⟨rfl, ?_⟩
      by_contra hfrees
      apply ht
      simp [Act.memory, hfrees]
    · rw [after_memory hy] at ht
      exact absurd hs ht
  | guest y a st hmove hpermits =>
    by_cases hy : x = y
    · subst hy
      rw [guest_memory_self, hs] at ht
      refine ⟨rfl, ?_⟩
      by_contra hfrees
      apply ht
      simp [Act.memory, hfrees]
    · rw [guest_memory hy] at ht
      exact absurd hs ht
  | lookup i f n m => cases m <;> exact absurd hs ht
  | _ => exact absurd hs ht

def thread : Label → Option ℕ
  | .act _ _ => none
  | .guest _ _ => none
  | .lookup i _ _ _ _ => some i
  | .tend i => some i
  | .dispatch i => some i
  | .callback i => some i
  | .recheck i => some i
  | .complete i => some i
  | .look i _ _ _ => some i
  | .copy i => some i

theorem step_pool (h : Step family s l t) (hi : thread l ≠ some i) : t.pool i = s.pool i := by
  cases h with
  | act | guest => rfl
  | lookup j f n m =>
    have hji : i ≠ j := fun hji => hi (congrArg some hji.symm)
    cases m <;> exact place_other hji
  | tend j | dispatch j | callback j | recheck j | complete j | look j | copy j =>
    have hji : i ≠ j := fun hji => hi (congrArg some hji.symm)
    exact place_other hji

theorem step_memory (h : Step family s l t) (hi : thread l = some i) : t.memory = s.memory := by
  cases h with
  | act | guest => cases hi
  | lookup j f n m => cases m <;> rfl
  | _ => rfl

theorem step_follows (h : Step family s l t) (hi : thread l = some i) :
    (s.pool i = .idle ∧ ∃ f n m, s.comes family f n m ∧ l = .lookup i f n m (s.table f n) ∧
      t.pool i = .handle m n (s.table f n)) ∨
    (s.pool i = .idle ∧ ∃ f n, l = .look i f n (s.table f n) ∧ t.pool i = .copy (s.table f n)) ∨
    (∀ x, ¬ l.finds i x) ∧ Follows (s.pool i) (t.pool i) := by
  cases h with
  | act | guest => cases hi
  | lookup j f n m hidle hcomes =>
    obtain rfl := Option.some.inj hi
    exact .inl ⟨hidle, f, n, m, hcomes, rfl, place_self⟩
  | look j f n hidle =>
    obtain rfl := Option.some.inj hi
    exact .inr (.inl ⟨hidle, f, n, rfl, place_self⟩)
  | tend j m n y hpos =>
    obtain rfl := Option.some.inj hi
    rw [place_self, hpos]
    exact .inr (.inr ⟨nofun, follows_tended⟩)
  | dispatch j m n y hpos =>
    obtain rfl := Option.some.inj hi
    rw [place_self, hpos]
    exact .inr (.inr ⟨nofun, follows_dispatch⟩)
  | callback j z ok n y hpos =>
    obtain rfl := Option.some.inj hi
    rw [place_self, hpos]
    exact .inr (.inr ⟨nofun, follows_callback⟩)
  | recheck j z ok n y hpos =>
    obtain rfl := Option.some.inj hi
    rw [place_self, hpos]
    exact .inr (.inr ⟨nofun, follows_recheck⟩)
  | complete j | copy j =>
    obtain rfl := Option.some.inj hi
    rw [place_self]
    exact .inr (.inr ⟨nofun, follows_idle⟩)

theorem step_finds (h : Step family s l t) (hs : (s.pool i).found ≠ some x)
    (ht : (t.pool i).found = some x) :
    l.finds i x ∧ thread l = some i ∧ ∃ f n, s.table f n = some x := by
  by_cases hi : thread l = some i
  · rcases step_follows h hi with ⟨-, f, n, m, -, rfl, hpos⟩ | ⟨-, f, n, rfl, hpos⟩ | ⟨-, hgoes⟩
    · rw [hpos, handle_found] at ht
      exact ⟨⟨rfl, ht⟩, rfl, f, n, ht⟩
    · rw [hpos, copy_found] at ht
      exact ⟨⟨rfl, ht⟩, rfl, f, n, ht⟩
    · exact absurd (hgoes.found ht) hs
  · rw [step_pool h hi] at ht
    exact absurd ht hs

theorem finds_idle (h : Step family s l t) (hl : l.finds i x) : (s.pool i).found = none := by
  have hi : thread l = some i := by
    cases l with
    | lookup j | look j => exact congrArg some hl.1
    | _ => cases hl
  rcases step_follows h hi with ⟨hidle, -⟩ | ⟨hidle, -⟩ | ⟨hnot, -⟩
  · rw [hidle]
    rfl
  · rw [hidle]
    rfl
  · exact absurd hl (hnot x)

/-- The response to the create message of `x` is taken where its number has a handle. -/
theorem step_carries (h : Step family s l t) (hs : (s.pool i).carries ≠ some x)
    (ht : (t.pool i).carries = some x) :
    ∃ n ok y, l = .lookup i (family x) n (.created x ok) (some y) ∧
      s.table (family x) n = some y ∧ s.inFlight x = true := by
  by_cases hi : thread l = some i
  · rcases step_follows h hi with ⟨-, f, n, m, hcomes, rfl, hpos⟩ | ⟨-, f, n, rfl, hpos⟩ | ⟨-, hgoes⟩
    · rw [hpos] at ht
      obtain ⟨ok, y, rfl, hy⟩ := handle_carries ht
      obtain ⟨hflight, rfl, -⟩ := hcomes
      exact ⟨n, ok, y, by rw [hy], hy, hflight⟩
    · rw [hpos] at ht
      exact absurd ht copy_carries
    · exact absurd (hgoes.carries ht) hs
  · rw [step_pool h hi] at ht
    exact absurd ht hs

theorem freed_since (h : Run (Step family) s ls t) (hs : s.memory x p = .allocated)
    (ht : t.memory x p ≠ .allocated) : ∃ l ∈ ls, l.frees x p := by
  obtain ⟨l, hl, u, v, hstep, hu, hv⟩ := lost (fun s => s.memory x p = .allocated) h hs ht
  exact ⟨l, hl, step_frees hstep hu hv⟩

/-- The thread has found `x` in its table, and has not looked again when this part is freed. -/
def FoundBefore (ls : List Label) (i x : ℕ) (p : Part) : Prop :=
  ∃ before l after, ls = before ++ l :: after ∧ l.finds i x ∧ (∃ l' ∈ after, l'.frees x p) ∧
    ∀ l' ∈ after, ∀ y, ¬ l'.finds i y

/-- The create call has waited in vain, and the thread handles the response: it found the
    handle before this part was freed, or another handle under the number. -/
def AnsweredLate (family : ℕ → VirtFamily) (ls : List Label) (i x : ℕ) (p : Part) : Prop :=
  .act x .timeout ∈ ls ∧ ∃ before n ok y after,
    ls = before ++ .lookup i (family x) n (.created x ok) (some y) :: after ∧
      ((∃ l' ∈ after, l'.frees x p) ∨ y ≠ x)

theorem found_before {s₀ : State} (hs : Start s₀) (h : Run (Step family) s₀ ls s)
    (hfound : (s.pool i).found = some x) (hp : s.memory x .handle ≠ .allocated) :
    FoundBefore ls i x .handle := by
  have hstart : (s₀.pool i).found ≠ some x := by
    rw [hs.pool i]
    nofun
  obtain ⟨before, l, after, u, v, rfl, hbefore, hstep, hu, hv, hafter⟩ :=
    since (fun s => (s.pool i).found = some x) h hstart hfound
  obtain ⟨hfinds, hi, f, n, htable⟩ := step_finds hstep hu hv
  have halive : v.memory x .handle = .allocated := by
    rw [step_memory hstep hi]
    exact (Inv.of_run hs hbefore).allocated htable
  refine ⟨before, l, after, rfl, hfinds, freed_since (within_run hafter) halive hp, ?_⟩
  intro l' hl' y hy
  obtain ⟨w, w', hw⟩ := step_of_mem hafter hl'
  exact absurd (hw.2.1.symm.trans (finds_idle hw.1 hy)) nofun

theorem answered_late {s₀ : State} (hs : Start s₀) (h : Run (Step family) s₀ ls s)
    (hcarries : (s.pool i).carries = some x) (hp : s.memory x p ≠ .allocated) :
    AnsweredLate family ls i x p := by
  have hinv := Inv.of_run hs h
  refine ⟨?_, ?_⟩
  · rcases hinv.owing x (.inr ⟨i, hcarries⟩) with ⟨hwait, -⟩ | hgone
    · cases p with
      | handle =>
        have hsingle := hinv.handle_single (congrArg isLate hwait)
        exact absurd (hsingle.trans (congrArg handleMemory hwait)) hp
      | pvt => exact absurd ((hinv.pvt x).held (congrArg holdsPvt hwait)) hp
    · exact hgone
  · have hstart : (s₀.pool i).carries ≠ some x := by
      rw [hs.pool i]
      nofun
    obtain ⟨before, l, after, u, v, rfl, hbefore, hstep, hu, hv, hafter⟩ :=
      since (fun s => (s.pool i).carries = some x) h hstart hcarries
    obtain ⟨n, ok, y, rfl, htable, hflight⟩ := step_carries hstep hu hv
    refine ⟨before, n, ok, y, after, rfl, ?_⟩
    by_cases hy : y = x
    · subst hy
      have hinvu := Inv.of_run hs hbefore
      have halive : v.memory y p = .allocated := by
        rw [step_memory hstep rfl]
        cases p with
        | handle => exact hinvu.allocated htable
        | pvt => exact hinvu.allocated_pvt htable hflight
      exact .inl (freed_since (within_run hafter) halive hp)
    · exact .inr hy

end Histories

/-- The tables hold no freed handle. A part is freed twice only after its user was told of
    a create that had failed. An access to what is not there is one of a call on such a handle, one
    of a message handler or reader that found the handle before it was freed, or one for the
    response to a create message whose caller had given up, late or under a number that
    another handle has by then. -/
theorem freed_handles_reached (family : ℕ → VirtFamily) {s₀ s t : State} {ls : List Label}
    {l : Label} (hs : Start s₀) (hrun : Run (Step family) s₀ ls s) (hstep : Step family s l t) :
    (∀ f n y, s.table f n = some y → s.memory y .handle = .allocated) ∧
    ∀ x p, (l.frees x p → s.memory x p = .freed → Misled ls x) ∧
      (s.touches family x p l → s.memory x p ≠ .allocated →
        ((∃ a, l ∈ [.act x a, .guest x a]) ∧ Misled ls x) ∨
        (∃ i, l ∈ [.tend i, .dispatch i, .copy i] ∧ FoundBefore ls i x p) ∨
        ∃ i, l ∈ [.callback i, .recheck i, .complete i] ∧ AnsweredLate family ls i x p) := by
  have hinv := Inv.of_run hs hrun
  refine ⟨fun f n y hy => hinv.allocated hy, fun x p => ⟨fun hfrees hfreed => ?_,
    fun htouch hdead => ?_⟩⟩
  · cases l with
    | act y a =>
      obtain ⟨rfl, hp⟩ := hfrees
      exact (hinv.frees hstep hp).resolve_left fun hnot => hnot hfreed
    | guest y a =>
      obtain ⟨rfl, hp⟩ := hfrees
      refine (hinv.guest_misled hstep).resolve_left ?_
      rintro rfl
      cases hp
    | _ => cases hfrees
  · cases l with
    | act y a =>
      obtain ⟨rfl, hp⟩ := htouch
      exact .inl ⟨⟨a, by simp⟩, (hinv.touches hstep hp).resolve_left hdead⟩
    | guest y a =>
      obtain ⟨rfl, hp⟩ := htouch
      refine .inl ⟨⟨a, by simp⟩, (hinv.guest_misled hstep).resolve_left ?_⟩
      rintro rfl
      cases hp
    | lookup | look => cases htouch
    | tend i =>
      obtain ⟨rfl, notify, n, hpos⟩ := htouch
      have hfound := congrArg Position.found hpos
      exact .inr (.inl ⟨i, by simp, found_before hs hrun hfound hdead⟩)
    | dispatch i =>
      obtain ⟨rfl, -, m, n, hpos, -⟩ := htouch
      have hfound := congrArg Position.found hpos
      exact .inr (.inl ⟨i, by simp, found_before hs hrun hfound hdead⟩)
    | copy i =>
      obtain ⟨rfl, hpos⟩ := htouch
      have hfound := congrArg Position.found hpos
      exact .inr (.inl ⟨i, by simp, found_before hs hrun hfound hdead⟩)
    | callback i =>
      obtain ⟨-, ok, n, y, hpos⟩ := htouch
      have hcarries := congrArg Position.carries hpos
      exact .inr (.inr ⟨i, by simp, answered_late hs hrun hcarries hdead⟩)
    | recheck i =>
      obtain ⟨-, ok, n, y, hpos⟩ := htouch
      have hcarries := congrArg Position.carries hpos
      exact .inr (.inr ⟨i, by simp, answered_late hs hrun hcarries hdead⟩)
    | complete i =>
      obtain ⟨-, ok, y, hpos⟩ := htouch
      have hcarries := congrArg Position.carries hpos
      exact .inr (.inr ⟨i, by simp, answered_late hs hrun hcarries hdead⟩)

def boot : State where
  stage _ := .unborn
  guest _ := .absent
  ifNum _ := 0
  memory _ _ := .none
  table _ _ := none
  ndev _ := false
  inFlight _ := false
  answer _ := none
  pool _ := .idle

theorem boot_start : Start boot :=
  ⟨fun _ => rfl, fun _ => rfl, fun _ _ => rfl, fun _ _ => rfl, fun _ => rfl, fun _ => rfl, fun _ => rfl⟩

/-- A create call gives up while a handler has taken up the response, and frees the handle. -/
def givenUp : List Label :=
  [.act 0 (.kzalloc 24), .act 0 (.kzallocPvt true), .act 0 .publish, .act 0 (.registerHandler true),
    .act 0 (.txMsg true), .lookup 1 .virtIf 24 (.created 0 true) (some 0), .tend 1, .dispatch 1,
    .act 0 .timeout, .act 0 (.deallocNode true), .act 0 .clear, .act 0 .kfreePvt, .act 0 .kfree]

theorem givenUp_run : ∃ s t, Run (Step fun _ => .virtIf) boot givenUp s ∧
    Step (fun _ => .virtIf) s (.callback 1) t ∧ s.memory 0 .handle = .freed ∧
    s.pool 1 = .answering 0 true 24 0 :=
  ⟨_, _, .cons (.act _ _ _ _ (.kzalloc 24) trivial) <|
    .cons (.act _ _ _ _ .kzallocPvt trivial) <| .cons (.act _ _ _ _ .publish trivial) <|
    .cons (.act _ _ _ _ .registered trivial) <| .cons (.act _ _ _ _ .sent trivial) <|
    .cons (.lookup _ 1 .virtIf 24 (.created 0 true) rfl ⟨rfl, rfl, rfl⟩) <|
    .cons (.tend _ 1 (.created 0 true) 24 0 rfl) <| .cons (.dispatch _ 1 (.created 0 true) 24 0 rfl) <|
    .cons (.act _ _ _ _ .timeout rfl) <| .cons (.act _ _ _ _ (.deallocated _ (by decide)) trivial) <|
    .cons (.act _ _ _ _ (.clear _) trivial) <| .cons (.act _ _ _ _ .kfreePvt trivial) <|
    .single (.act _ _ _ _ .kfree trivial), .callback _ 1 0 true 24 0 rfl, rfl, rfl⟩

/-- An asynchronous create fails after its acknowledgement; its user is called back with the
    handle and registers the interface, and the driver's destroy ends. -/
def misledUser : List Label :=
  [.act 0 .kzallocAsync, .act 0 (.txAlloc true), .act 0 (.createCb (some 24)),
    .act 0 (.cbRegister true), .act 0 (.cbTxMsg false), .act 0 (.txDealloc false true),
    .guest 0 .grant, .guest 0 (.setNdev true), .guest 0 (.destroy false true),
    .act 0 (.destroyCb true), .guest 0 (.deallocNode true), .guest 0 .clear, .guest 0 .kfreePvt,
    .guest 0 .kfree, .act 0 .clear]

theorem misledUser_run : ∃ s t, Run (Step fun _ => .virtIf) boot misledUser s ∧
    Step (fun _ => .virtIf) s (.act 0 .kfree) t ∧ s.memory 0 .handle = .freed :=
  ⟨_, _, .cons (.act _ _ _ _ (.kzallocAsync rfl) trivial) <|
    .cons (.act _ _ _ _ .requested trivial) <| .cons (.act _ _ _ _ (.accepted 24) trivial) <|
    .cons (.act _ _ _ _ .cbRegistered trivial) <| .cons (.act _ _ _ _ .cbUnsent trivial) <|
    .cons (.act _ _ _ _ (.dismissed false) trivial) <| .cons (.guest _ _ _ _ .granted trivial) <|
    .cons (.guest _ _ _ _ (.setNdev true) trivial) <| .cons (.guest _ _ _ _ .destroy rfl) <|
    .cons (.act _ _ _ _ (.gone false) trivial) <|
    .cons (.guest _ _ _ _ (.deallocated _ (by decide)) trivial) <|
    .cons (.guest _ _ _ _ (.clear _) trivial) <| .cons (.guest _ _ _ _ .kfreePvt trivial) <|
    .cons (.guest _ _ _ _ .kfree trivial) <| .single (.act _ _ _ _ (.clear _) trivial),
    .act _ _ _ _ .kfreeAsync trivial, rfl⟩

/-- A late answer to a freed handle, and a handle that is freed twice. -/
theorem freed_handles_reached_late :
    AnsweredLate (fun _ => .virtIf) givenUp 1 0 .handle ∧ Misled misledUser 0 := by
  constructor
  · obtain ⟨s, t, hrun, hstep, hfreed, hpos⟩ := givenUp_run
    have hreached := (freed_handles_reached (fun _ => .virtIf) boot_start hrun hstep).2 0 .handle
    rcases hreached.2 ⟨rfl, true, 24, 0, hpos⟩ (by rw [hfreed]; nofun) with
      ⟨⟨a, ha⟩, -⟩ | ⟨i, hi, -⟩ | ⟨i, hi, hlate⟩
    · simp at ha
    · simp at hi
    · obtain rfl : 1 = i := by simpa using hi
      exact hlate
  · obtain ⟨s, t, hrun, hstep, hfreed⟩ := misledUser_run
    exact ((freed_handles_reached (fun _ => .virtIf) boot_start hrun hstep).2 0 .handle).1
      ⟨rfl, rfl⟩ hfreed

end NssDrv.LateAccesses

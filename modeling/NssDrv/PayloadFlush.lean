import Mathlib.Data.List.Induction
import NssDrv.PhysIfMtu

set_option autoImplicit false

/-!
# Flushes after a change of the MTU

Whether a core gives up its empty buffers when their class goes up, told by the
history of the calls and of the flushes that went out.
-/
namespace NssDrv.PayloadFlush
open HlosInterface SharedThread ThreadPool TransitionRuns TransmitApi PhysIfMtu

/-- A change that has come through, with the class that it left. -/
structure Change where
  core : CoreId
  mtuSz : U16
  flush : Option Bool

/-- What the calls so far have left: the MTUs; the class of each core's buffers, which
    the last change of that core gave them; the last change, of either core; and the
    lowest class for which a flush of the core could not be sent. -/
structure Account where
  mtus : CoreId → PhysIf → U16
  held : CoreId → U16
  last : Option Change
  owed : CoreId → Option U16

namespace Account

def fresh : Account :=
  ⟨fun _ _ => 0, fun _ => NSS_GMAC_NORMAL_FRAME_MTU, none, fun _ => none⟩

def setMtu (h : Account) (k : CoreId) (n : PhysIf) (mtu : U16) : CoreId → PhysIf → U16 :=
  Function.update h.mtus k (Function.update (h.mtus k) n mtu)

/-- The class of core `k` with a new MTU on interface `n`. -/
def classWith (h : Account) (k : CoreId) (n : PhysIf) (mtu : U16) : U16 :=
  nssPhysIfGetMtuSz ⟨Function.update (h.mtus k) n mtu, 0⟩

def owedAfter (owed : Option U16) (before after : U16) : Option Bool → Option U16
  | some true => none
  | _ =>
    if before < after then some (owed.elim after fun o => if after < o then after else o) else owed

def after (h : Account) : Done → Account
  | .registered k n => { h with mtus := h.setMtu k n NSS_GMAC_NORMAL_FRAME_MTU }
  | .unregistered n => { h with mtus := fun k => Function.update (h.mtus k) n 0 }
  | .changed k n mtu flush =>
    let mtuSz := h.classWith k n mtu
    { mtus := h.setMtu k n mtu
      held := Function.update h.held k mtuSz
      last := some ⟨k, mtuSz, flush⟩
      owed := Function.update h.owed k (owedAfter (h.owed k) (h.held k) mtuSz flush) }

def lastClass (h : Account) : U16 := h.last.elim NSS_GMAC_NORMAL_FRAME_MTU Change.mtuSz

/-- The buffers of the core become too small, or still are since a flush that could
    not be sent. -/
def Requires (h : Account) (k : CoreId) (mtuSz : U16) : Prop :=
  h.held k < mtuSz ∨ ∃ o, h.owed k = some o ∧ o ≤ mtuSz

/-- The last change was that of the other core, or its flush could not be sent, and it
    left a class that is no smaller. -/
def Shadows (h : Account) (k : CoreId) (mtuSz : U16) : Prop :=
  ∃ x, h.last = some x ∧ mtuSz ≤ x.mtuSz ∧ (x.core ≠ k ∨ x.flush = some false)

end Account

def account (calls : List Done) : Account := calls.foldl Account.after Account.fresh

def Always (P : Account → Done → Prop) (calls : List Done) : Prop :=
  ∀ earlier x later, calls = earlier ++ x :: later → P (account earlier) x

/-- A flush that is needed is asked for. -/
def Served (h : Account) : Done → Prop
  | .changed k n mtu flush => h.Requires k (h.classWith k n mtu) → flush.isSome = true
  | _ => True

/-- A change that needs a flush does not stand behind one that shadows it. -/
def Clear (h : Account) : Done → Prop
  | .changed k n mtu _ =>
    h.Requires k (h.classWith k n mtu) → ¬ h.Shadows k (h.classWith k n mtu)
  | _ => True

/-- What the source does: it compares with the last change. -/
def Compared (h : Account) : Done → Prop
  | .changed k n mtu flush => flush.isSome = decide (h.lastClass < h.classWith k n mtu)
  | _ => True

section Histories
variable {P : Account → Done → Prop} {calls : List Done} {x : Done} {h : Account} {k : CoreId}

theorem account_snoc (calls : List Done) (x : Done) :
    account (calls ++ [x]) = (account calls).after x := by
  unfold account
  rw [List.foldl_append]
  rfl

theorem always_nil : Always P [] := by
  intro earlier x later h
  cases earlier <;> cases h

theorem always_snoc : Always P (calls ++ [x]) ↔ Always P calls ∧ P (account calls) x := by
  constructor
  · intro h
    refine ⟨fun earlier y later hcalls => ?_, h calls x [] rfl⟩
    exact h earlier y (later ++ [x]) (by rw [hcalls, List.append_assoc, List.cons_append])
  · rintro ⟨hcalls, hlast⟩ earlier y later hsplit
    rcases List.eq_nil_or_concat later with rfl | ⟨later', z, rfl⟩
    · obtain ⟨rfl, hx⟩ := List.append_inj' hsplit rfl
      obtain rfl := List.singleton_inj.mp hx
      exact hlast
    · have hsplit' : calls ++ [x] = (earlier ++ y :: later') ++ [z] := by
        rw [hsplit, List.append_assoc, List.concat_eq_append, List.cons_append]
      obtain ⟨hsame, -⟩ := List.append_inj' hsplit' rfl
      exact hcalls earlier y later' hsame

/-- The last change tells the class of its core's buffers, and what is owed to it at that
    class it could not send itself. -/
structure Honest (h : Account) : Prop where
  first : h.last = none → ∀ k, h.held k = NSS_GMAC_NORMAL_FRAME_MTU ∧ h.owed k = none
  held : ∀ x, h.last = some x → h.held x.core = x.mtuSz
  unsent : ∀ x o, h.last = some x → h.owed x.core = some o → o ≤ x.mtuSz → x.flush = some false

theorem owedAfter_unserved {owed : Option U16} {before mtuSz o : U16} {flush : Option Bool}
    (howed : Account.owedAfter owed before mtuSz flush = some o) (hle : o ≤ mtuSz)
    (hserved : (before < mtuSz ∨ ∃ o, owed = some o ∧ o ≤ mtuSz) → flush.isSome = true) :
    flush = some false := by
  match flush with
  | some true => cases howed
  | some false => rfl
  | none =>
    have hneeds : before < mtuSz ∨ ∃ o, owed = some o ∧ o ≤ mtuSz := by
      by_cases hraised : before < mtuSz
      · exact .inl hraised
      · have hsame : Account.owedAfter owed before mtuSz none = owed := if_neg hraised
        exact .inr ⟨o, hsame.symm.trans howed, hle⟩
    cases hserved hneeds

theorem Honest.after (hh : Honest h) (hserved : Served h x) : Honest (h.after x) := by
  cases x with
  | registered k n => exact ⟨hh.first, hh.held, hh.unsent⟩
  | unregistered n => exact ⟨hh.first, hh.held, hh.unsent⟩
  | changed k n mtu flush =>
    refine ⟨nofun, ?_, ?_⟩
    · rintro x hx
      obtain rfl := Option.some.inj hx
      exact Function.update_self ..
    · rintro x o hx howed hle
      obtain rfl := Option.some.inj hx
      have howed : Function.update h.owed k _ k = some o := howed
      rw [Function.update_self] at howed
      exact owedAfter_unserved howed hle hserved

theorem honest_of_served (hserved : Always Served calls) : Honest (account calls) := by
  induction calls using List.reverseRecOn with
  | nil => exact ⟨fun _ _ => ⟨rfl, rfl⟩, nofun, nofun⟩
  | append_singleton calls x ih =>
    obtain ⟨hbefore, hlast⟩ := always_snoc.mp hserved
    rw [account_snoc]
    exact (ih hbefore).after hlast

/-- A flush that is needed and not shadowed is above the class of the last change. -/
theorem Honest.lastClass_lt {mtuSz : U16} (hh : Honest h) (hrequires : h.Requires k mtuSz)
    (hclear : ¬ h.Shadows k mtuSz) : h.lastClass < mtuSz := by
  unfold Account.lastClass
  cases hlast : h.last with
  | none =>
    obtain ⟨hheld, howed⟩ := hh.first hlast k
    rcases hrequires with hraised | ⟨o, ho, -⟩
    · rw [← hheld]
      exact hraised
    · cases howed.symm.trans ho
  | some x =>
    by_contra hle
    have hle : mtuSz ≤ x.mtuSz := Nat.not_lt.mp hle
    have hown : x.core = k := by
      by_contra hother
      exact hclear ⟨x, hlast, hle, .inl hother⟩
    subst hown
    rcases hrequires with hraised | ⟨o, ho, holess⟩
    · rw [hh.held x hlast] at hraised
      exact absurd hraised (Nat.not_lt.mpr hle)
    · have hfailed := hh.unsent x o hlast ho (Nat.le_trans holess hle)
      exact hclear ⟨x, hlast, hle, .inr hfailed⟩

theorem not_shadows {mtuSz : U16} (habove : h.lastClass < mtuSz) : ¬ h.Shadows k mtuSz := by
  rintro ⟨x, hlast, hle, -⟩
  unfold Account.lastClass at habove
  rw [hlast] at habove
  exact absurd habove (Nat.not_lt.mpr hle)

theorem clear_of_served (hcompared : Compared h x) (hserved : Served h x) : Clear h x := by
  cases x with
  | registered k n => trivial
  | unregistered n => trivial
  | changed k n mtu flush =>
    intro hrequires
    have hasked := hserved hrequires
    rw [hcompared] at hasked
    exact not_shadows (of_decide_eq_true hasked)

theorem served_of_clear (hcompared : Compared h x) (hh : Honest h) (hclear : Clear h x) :
    Served h x := by
  cases x with
  | registered k n => trivial
  | unregistered n => trivial
  | changed k n mtu flush =>
    intro hrequires
    rw [hcompared]
    exact decide_eq_true (hh.lastClass_lt hrequires (hclear hrequires))

theorem Always.snoc (h : Always P calls) (hx : P (account calls) x) : Always P (calls ++ [x]) :=
  always_snoc.mpr ⟨h, hx⟩

theorem Always.clear_snoc {n : PhysIf} {m : U16} {f : Option Bool} (h : Always Clear calls)
    (habove : (account calls).lastClass < (account calls).classWith k n m) :
    Always Clear (calls ++ [.changed k n m f]) :=
  h.snoc fun _ => not_shadows habove

/-- The histories in which the comparison with the last change of either core is enough. -/
theorem served_iff_clear (hcompared : Always Compared calls) :
    Always Served calls ↔ Always Clear calls := by
  constructor
  · intro hserved earlier x later hcalls
    exact clear_of_served (hcompared earlier x later hcalls) (hserved earlier x later hcalls)
  · intro hclear
    induction calls using List.reverseRecOn with
    | nil => exact always_nil
    | append_singleton calls x ih =>
      obtain ⟨hbefore, hlast⟩ := always_snoc.mp hcompared
      obtain ⟨hclear, hclearLast⟩ := always_snoc.mp hclear
      have hserved := ih hbefore hclear
      exact always_snoc.mpr
        ⟨hserved, served_of_clear hlast (honest_of_served hserved) hclearLast⟩

end Histories

structure Secured (b : Build) (d : PhysIfTop) : Prop extends Booted b d where
  crypto : d.cryptoEnabled = true

/-- Crypto is on, and `prev_mtu_sz` and the flushes so far are what the history says. -/
structure Told (d : PhysIfTop) : Prop where
  crypto : d.cryptoEnabled = true
  prev : d.prevMtuSz = (account d.done).lastClass
  compared : Always Compared d.done

def table (d : PhysIfTop) : CoreId → PhysIf → U16 := fun k => (d.core k).physIfMtu

section Calls
variable {b : Build} {d : PhysIfTop} {P : PhysIfTop → Prop} {k : CoreId} {n : PhysIf}

def During (P : PhysIfTop → Prop) (d : PhysIfTop) : Prop := Told d ∧ P d

def KeepsTold (d d' : PhysIfTop) : Prop := Told d → Told d'

theorem during_stable
    (hP : ∀ d loaded refills, P d → P { d with loaded := loaded, refills := refills }) :
    Stable (Refills b) (During P) := by
  rintro s t hstep ⟨htold, hp⟩
  cases hstep with
  | load k => exact ⟨⟨htold.crypto, htold.prev, htold.compared⟩, hP s _ _ hp⟩
  | fill l hl => exact ⟨⟨htold.crypto, htold.prev, htold.compared⟩, hP s _ _ hp⟩

def Settled (d : PhysIfTop) : Prop := table d = (account d.done).mtus

theorem settled_stable : Stable (Refills b) (During Settled) := during_stable fun _ _ _ h => h

theorem sat_done {a : TxStatus} (h : During Settled d) :
    Sat (Refills b) KeepsTold (fun _ => During Settled) (.ret a) d :=
  .ret settled_stable h

/-- Inside a call: the history, the MTUs and the flush. -/
structure Inside (calls : List Done) (mtus : CoreId → PhysIf → U16) (flush : Option Bool)
    (d : PhysIfTop) : Prop where
  done : d.done = calls
  mtus : table d = mtus
  flush : d.flush = flush

variable {calls : List Done} {mtus : CoreId → PhysIf → U16} {flush : Option Bool}

theorem inside_stable : Stable (Refills b) (During (Inside calls mtus flush)) :=
  during_stable fun _ _ _ h => ⟨h.done, h.mtus, h.flush⟩

theorem sat_aside {f : PhysIfTop → PhysIfTop} {q : Unit → Proc PhysIfTop TxStatus}
    {Q : PhysIfTop → Prop} (hstable : Stable (Refills b) (During P)) (h : During P d)
    (htold : ∀ d, Told d → Told (f d)) (hnext : ∀ d, P d → Q (f d))
    (hq : ∀ u, During Q u → Sat (Refills b) KeepsTold (fun _ => During Settled) (q ()) u) :
    Sat (Refills b) KeepsTold (fun _ => During Settled) ((Proc.modify f).bind q) d := by
  apply Sat.modify hstable h
  intro u hu
  exact ⟨htold u, hq _ ⟨htold u hu.1, hnext u hu.2⟩⟩

theorem table_onCore (d : PhysIfTop) (k : CoreId) (f : Core → Core) :
    table (d.onCore k f) = Function.update (table d) k (f (d.core k)).physIfMtu := by
  funext j
  by_cases hj : j = k
  · subst hj
    rw [Function.update_self]
    exact congrArg Core.physIfMtu (Function.update_self ..)
  · rw [Function.update_of_ne hj]
    exact congrArg Core.physIfMtu (Function.update_of_ne hj ..)

theorem Told.log {x : Done} (h : Told d) (hx : Compared (account d.done) x)
    (hprev : ((account d.done).after x).lastClass = (account d.done).lastClass) :
    Told (d.log x) := by
  refine ⟨h.crypto, ?_, always_snoc.mpr ⟨h.compared, hx⟩⟩
  change d.prevMtuSz = (account (d.done ++ [x])).lastClass
  rw [account_snoc, hprev]
  exact h.prev

theorem register_told {handlerId : PhysIf → CoreId} (h : During Settled d) :
    Sat (Refills b) KeepsTold (fun _ => During Settled) (nssPhysIfRegister handlerId n) d := by
  refine sat_aside settled_stable h (fun u hu => ?_) (fun u hu => ?_) fun u hu => sat_done hu
  · have hset : Told (u.setMtu (handlerId n) n NSS_GMAC_NORMAL_FRAME_MTU) :=
      ⟨hu.crypto, hu.prev, hu.compared⟩
    exact hset.log trivial rfl
  · change table (u.setMtu (handlerId n) n _) = (account (u.done ++ [.registered _ n])).mtus
    rw [account_snoc]
    unfold PhysIfTop.setMtu
    rw [table_onCore, hu]
    exact congrArg _ (congrArg (Function.update · n _) (congrFun hu _))

theorem unregister_told (h : During Settled d) :
    Sat (Refills b) KeepsTold (fun _ => During Settled) (nssPhysIfUnregister n) d := by
  apply Sat.modify settled_stable h
  intro u hu
  have hfirst : Told (u.setMtu 0 n 0) := ⟨hu.1.crypto, hu.1.prev, hu.1.compared⟩
  have hinside : During (Inside u.done (table (u.setMtu 0 n 0)) u.flush) (u.setMtu 0 n 0) :=
    ⟨hfirst, rfl, rfl, rfl⟩
  refine ⟨fun _ => hfirst, ?_⟩
  refine sat_aside inside_stable hinside (fun v hv => ?_) (fun v hv => ?_) fun v hv => sat_done hv
  · have hset : Told (v.setMtu 1 n 0) := ⟨hv.crypto, hv.prev, hv.compared⟩
    exact hset.log trivial rfl
  · change table (v.setMtu 1 n 0) = (account (v.done ++ [.unregistered n])).mtus
    have hmtus : table v = Function.update (table u) 0 (Function.update (table u 0) n 0) :=
      hv.mtus.trans (table_onCore u 0 _)
    rw [account_snoc, hv.done]
    unfold PhysIfTop.setMtu
    rw [table_onCore]
    change Function.update (table v) 1 (Function.update (table v 1) n 0) =
      fun k => Function.update ((account u.done).mtus k) n 0
    rw [hmtus, hu.2]
    funext k
    match k with
    | 0 => rfl
    | 1 => rfl

/-- The flush of the change says what `prev_mtu_sz` has decided, and ends it. -/
theorem record_told (flush : Option Bool) {mtu mtuSz : U16}
    (hclass : mtuSz = (account calls).classWith k n mtu)
    (hflush : flush.isSome = decide ((account calls).lastClass < mtuSz))
    (h : During (Inside calls ((account calls).setMtu k n mtu) flush) d) :
    Sat (Refills b) KeepsTold (fun _ => During Settled)
      ((Proc.modify (PhysIfTop.record k n mtu mtuSz)).bind fun _ => .ret TxStatus.success) d := by
  subst hclass
  apply Sat.modify inside_stable h
  rintro u ⟨htold, rfl, hmtus, rfl⟩
  have hafter : account (u.done ++ [.changed k n mtu u.flush]) =
      (account u.done).after (.changed k n mtu u.flush) := account_snoc _ _
  have hkept : Told (u.record k n mtu ((account u.done).classWith k n mtu)) := by
    refine ⟨htold.crypto, ?_, always_snoc.mpr ⟨htold.compared, hflush⟩⟩
    exact (congrArg Account.lastClass hafter).symm
  refine ⟨fun _ => hkept, sat_done ⟨hkept, ?_⟩⟩
  exact hmtus.trans (congrArg Account.mtus hafter).symm

theorem finish_told {mtu mtuSz : U16} {flushed : Bool}
    (hclass : mtuSz = (account calls).classWith k n mtu)
    (h : During (Inside calls ((account calls).setMtu k n mtu) none) d) :
    Sat (Refills b) KeepsTold (fun _ => During Settled) (do
      let prevMtuSz ← Proc.read PhysIfTop.prevMtuSz
      let cryptoEnabled ← Proc.read PhysIfTop.cryptoEnabled
      if mtuSz > prevMtuSz && cryptoEnabled then
        nssN2hFlushPayloads flushed
      Proc.modify (PhysIfTop.record k n mtu mtuSz)
      return TxStatus.success) d := by
  apply Sat.read (fun _ _ h => h) inside_stable h
  rintro u hu
  have hprev : u.prevMtuSz = (account calls).lastClass := by
    rw [hu.1.prev, hu.2.done]
  apply Sat.read (fun _ _ h => h) inside_stable hu
  intro v hv
  rw [hv.1.crypto, Bool.and_true, hprev]
  dsimp only
  by_cases hlarger : (account calls).lastClass < mtuSz
  · rw [if_pos (decide_eq_true hlarger)]
    refine sat_aside (Q := Inside calls ((account calls).setMtu k n mtu) (some flushed))
      inside_stable hv (fun w hw => ⟨hw.crypto, hw.prev, hw.compared⟩)
      (fun w hw => ⟨hw.done, hw.mtus, rfl⟩) fun w hw => ?_
    exact record_told (some flushed) hclass (decide_eq_true hlarger).symm hw
  · have hsame : ¬ decide ((account calls).lastClass < mtuSz) = true := by rwa [decide_eq_true_eq]
    rw [if_neg hsame]
    exact record_told none hclass (decide_eq_false hlarger).symm hv

theorem applyMtu_told {mtu : U32} {flushed : Bool} (h : During Settled d) :
    Sat (Refills b) KeepsTold (fun _ => During Settled) (applyMtu b k mtu n flushed) d := by
  unfold applyMtu
  apply Sat.modify settled_stable h
  intro u hu
  have hset : Told (u.change k n (mtu.setWidth 16)) := ⟨hu.1.crypto, hu.1.prev, hu.1.compared⟩
  have hmtus : table (u.change k n (mtu.setWidth 16)) =
      (account u.done).setMtu k n (mtu.setWidth 16) := by
    unfold Account.setMtu
    rw [← hu.2]
    exact table_onCore (u.begin k) k fun c =>
      { c with physIfMtu := Function.update c.physIfMtu n (mtu.setWidth 16) }
  refine ⟨fun _ => hset, ?_⟩
  have hinside : During (Inside u.done ((account u.done).setMtu k n (mtu.setWidth 16)) none)
      (u.change k n (mtu.setWidth 16)) := ⟨hset, rfl, hmtus, rfl⟩
  apply Sat.read (fun _ _ h => h) inside_stable hinside
  intro v hv
  have hclass : nssPhysIfGetMtuSz (v.core k) =
      (account u.done).classWith k n (mtu.setWidth 16) := by
    have hcore : (v.core k).physIfMtu =
        Function.update ((account u.done).mtus k) n (mtu.setWidth 16) :=
      (congrFun hv.2.mtus k).trans (Function.update_self ..)
    unfold Account.classWith
    rw [← hcore]
    rfl
  have hsize : ∀ (w : PhysIfTop) (size : U32), table (w.setMaxBufSize k size) = table w := by
    intro w size
    unfold PhysIfTop.setMaxBufSize
    rw [table_onCore]
    exact Function.update_eq_self k _
  refine sat_aside (Q := Inside u.done ((account u.done).setMtu k n (mtu.setWidth 16)) none)
    inside_stable hv (fun w hw => ⟨hw.crypto, hw.prev, hw.compared⟩)
    (fun w hw => ⟨hw.done, (hsize w _).trans hw.mtus, hw.flush⟩) fun w hw => ?_
  apply Sat.read (fun _ _ h => h) inside_stable hw
  intro x hx
  dsimp only
  split
  · refine sat_aside (Q := Inside u.done ((account u.done).setMtu k n (mtu.setWidth 16)) none)
      inside_stable hx (fun w hw => ⟨hw.crypto, hw.prev, hw.compared⟩)
      (fun w hw => ⟨hw.done, (hsize w _).trans hw.mtus, hw.flush⟩) fun w hw => ?_
    exact finish_told hclass hw
  · refine sat_aside (Q := Inside u.done ((account u.done).setMtu k n (mtu.setWidth 16)) none)
      inside_stable hx (fun w hw => ⟨hw.crypto, hw.prev, hw.compared⟩)
      (fun w hw => ⟨hw.done, hw.mtus, hw.flush⟩) fun w hw => ?_
    exact finish_told hclass hw

theorem changeMtu_told {mtu : U32} {acked flushed : Bool} (h : During Settled d) :
    Sat (Refills b) KeepsTold (fun _ => During Settled)
      (nssPhysIfChangeMtu b k mtu n acked flushed) d := by
  unfold nssPhysIfChangeMtu
  split
  · exact sat_done h
  · split
    · exact applyMtu_told h
    · exact sat_done h

theorem call_told {handlerId : PhysIf → CoreId} {i : Unit} {p : Proc PhysIfTop TxStatus}
    (hp : PhysIfCall b handlerId i p) (h : During Settled d) :
    Sat (Refills b) KeepsTold (fun _ => During Settled) p d := by
  cases hp with
  | register n => exact register_told h
  | unregister n => exact unregister_told h
  | changeMtu k mtu n acked flushed => exact changeMtu_told h

end Calls

section Runs
variable {b : Build} {handlerId : PhysIf → CoreId} {c : Pool Unit PhysIfTop TxStatus}

theorem calls_discipline : Discipline (PhysIfCall b handlerId) (Refills b) (fun _ => Refills b)
    (fun _ => KeepsTold) (fun _ => During Settled) (fun _ _ => During Settled) where
  others i j hne := (hne (Subsingleton.elim i j)).elim
  env _ _ _ h := h
  idle _ _ _ h := h
  calls _ _ hp _ hs := call_told hp hs

theorem Secured.told {d : PhysIfTop} (h : Secured b d) : During Settled d := by
  refine ⟨⟨h.crypto, ?_, ?_⟩, ?_⟩
  · rw [h.done]
    exact h.prevMtuSz
  · rw [h.done]
    exact always_nil
  · unfold Settled
    rw [h.done]
    funext k n
    exact h.mtu k n

theorem told_always
    (h : Reachable (Idle (Secured b)) (Step (PhysIfCall b handlerId) (Refills b)) c) :
    Told c.shared := by
  refine calls_discipline.invariant Told ?_ ?_ ?_ ?_ h
  · exact fun _ _ _ hs _ hst => settled_stable.star hst hs.told
  · exact fun _ hs => hs.told.1
  · exact fun _ _ _ hs hg => hg hs
  · intro s t hs hst
    exact (during_stable (P := fun _ => True) (fun _ _ _ h => h) s t hst ⟨hs, trivial⟩).1

/-- In every run: each change that needs a flush asks for it exactly if none of them
    stands right behind a change, of the other core or without its flush, that left a
    class no smaller. -/
theorem flushes_iff
    (h : Reachable (Idle (Secured b)) (Step (PhysIfCall b handlerId) (Refills b)) c) :
    Always Served c.shared.done ↔ Always Clear c.shared.done :=
  served_iff_clear (told_always h).compared

end Runs

theorem bootedPool_secured : Idle (Secured boardBuild) bootedPool :=
  ⟨⟨⟨fun _ _ => rfl, fun _ => rfl, rfl, rfl, rfl, rfl, rfl⟩, rfl⟩, fun _ => ⟨_, rfl⟩⟩

/-- The first interface of a core goes to an MTU, in a call without interruption. -/
def toMtu (k : CoreId) (mtu : U32) (flushed : Bool) (accesses : ℕ) :
    List (Order Unit PhysIfTop TxStatus) :=
  .call () (nssPhysIfChangeMtu boardBuild k mtu firstPort true flushed) ::
    List.replicate accesses (.run ())

theorem toMtu_allowed (k : CoreId) (mtu : U32) (flushed : Bool) (n : ℕ) :
    ∀ o ∈ toMtu k mtu flushed n, o.Allowed (PhysIfCall boardBuild fun _ => 0) (Refills boardBuild) := by
  intro o ho
  rcases List.mem_cons.mp ho with rfl | ho
  · exact .changeMtu k mtu 0 true flushed
  · obtain rfl := (List.mem_replicate.mp ho).2
    trivial

/-- The flush of core 0 cannot be sent; its MTU goes down and up again, which sends it;
    and core 1 goes above that. -/
theorem flushes_iff_both : ∃ c : Pool Unit PhysIfTop TxStatus,
    c.shared.done = [.changed 0 0 1978 (some false), .changed 0 0 1500 none,
      .changed 0 0 1978 (some true), .changed 1 0 9600 (some true)] ∧
        Always Served c.shared.done := by
  have hfailed := (Reachable.start bootedPool_secured).run
    (Pool.follow_run (toMtu_allowed 0 1978 false 9) rfl)
  have hlowered := hfailed.run
    (Pool.follow_run (toMtu_allowed 0 1500 true 8) rfl)
  have hraised := hlowered.run
    (Pool.follow_run (toMtu_allowed 0 1978 true 9) rfl)
  have hboth := hraised.run
    (Pool.follow_run (toMtu_allowed 1 9600 true 9) rfl)
  have hfirst : Always Clear [.changed 0 0 1978 (some false)] := always_nil.clear_snoc (by decide)
  have hsecond : Always Clear [.changed 0 0 1978 (some false), .changed 0 0 1500 none] := by
    refine hfirst.snoc (x := .changed 0 0 1500 none) fun hrequires => ?_
    rcases hrequires with hraised | ⟨o, ho, hle⟩
    · exact absurd hraised (by decide)
    · obtain rfl : (1978 : U16) = o := Option.some.inj ho
      exact absurd hle (by decide)
  have hthird : Always Clear [.changed 0 0 1978 (some false), .changed 0 0 1500 none,
      .changed 0 0 1978 (some true)] :=
    hsecond.clear_snoc (by decide)
  have hclear := hthird.clear_snoc (k := 1) (n := 0) (m := 9600) (f := some true) (by decide)
  exact ⟨_, rfl, (flushes_iff hboth).mpr hclear⟩

/-- The other core is raised to the class that the last change has left; and a change to
    the class whose flush could not be sent comes right behind it. -/
theorem flush_missed :
    (∃ c : Pool Unit PhysIfTop TxStatus, Reachable (Idle (Secured boardBuild))
        (Step (PhysIfCall boardBuild fun _ => 0) (Refills boardBuild)) c ∧
      (∀ x ∈ c.shared.done, ∃ k n mtu, x = .changed k n mtu (some true) ∨ x = .changed k n mtu none) ∧
        ¬ Always Served c.shared.done) ∧
    ∃ c : Pool Unit PhysIfTop TxStatus, Reachable (Idle (Secured boardBuild))
        (Step (PhysIfCall boardBuild fun _ => 0) (Refills boardBuild)) c ∧
      (∀ x ∈ c.shared.done, ∃ n mtu flush, x = .changed firstCore n mtu flush) ∧
        ¬ Always Served c.shared.done := by
  constructor
  · have hraised := (Reachable.start bootedPool_secured).run
      (Pool.follow_run (toMtu_allowed 0 1978 true 9) rfl)
    have hboth := hraised.run
      (Pool.follow_run (toMtu_allowed 1 1978 true 8) rfl)
    refine ⟨_, hboth, ?_, fun hserved => ?_⟩
    · intro x hx
      rcases List.mem_cons.mp hx with rfl | hx
      · exact ⟨0, 0, 1978, .inl rfl⟩
      · rw [List.mem_singleton.mp hx]
        exact ⟨1, 0, 1978, .inr rfl⟩
    · have hmissed := hserved [.changed 0 0 1978 (some true)] (.changed 1 0 1978 none) [] rfl
      cases hmissed (.inl (by decide))
  · have hfailed := (Reachable.start bootedPool_secured).run
      (Pool.follow_run (toMtu_allowed 0 1978 false 9) rfl)
    have hagain := hfailed.run
      (Pool.follow_run (toMtu_allowed 0 1978 true 8) rfl)
    refine ⟨_, hagain, ?_, fun hserved => ?_⟩
    · intro x hx
      rcases List.mem_cons.mp hx with rfl | hx
      · exact ⟨0, 1978, some false, rfl⟩
      · rw [List.mem_singleton.mp hx]
        exact ⟨0, 1978, none, rfl⟩
    · have hmissed := hserved [.changed 0 0 1978 (some false)] (.changed 0 0 1978 none) [] rfl
      cases hmissed (.inr ⟨1978, rfl, by decide⟩)

end NssDrv.PayloadFlush

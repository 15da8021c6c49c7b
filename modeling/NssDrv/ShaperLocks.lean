import Mathlib.Logic.Function.Basic
import NssDrv.ShaperBounce

set_option autoImplicit false

/-!
# The locks of the shaper calls

What each path of a call holds, and the observations after which it releases a
lock that it does not hold.
-/
namespace NssDrv.ShaperLocks
open HlosInterface CallTree ShaperBounce

/-- The locks a path holds, and whether it has released one that it did not. -/
structure Account where
  held : LockName → ℕ
  wrong : Bool

def Account.step (a : Account) : ShaperEvent → Account
  | .did (.spinLockBh l) => { a with held := Function.update a.held l (a.held l + 1) }
  | .did (.spinUnlockBh l) =>
    if a.held l = 0 then { a with wrong := true }
    else { a with held := Function.update a.held l (a.held l - 1) }
  | _ => a

def start : Account := ⟨fun _ => 0, false⟩

def Disciplined (evs : List ShaperEvent) : Prop := (evs.foldl Account.step start).wrong = false

/-- And each lock is released as often as it is acquired. -/
def Balanced (evs : List ShaperEvent) : Prop :=
  Disciplined evs ∧ ∀ l, (evs.foldl Account.step start).held l = 0

inductive ShaperApi where
  | registerShaping
  | unregisterShaping
  | registerInterface (ifNum : U32) (r : Registration)
  | unregisterInterface (ifNum : U32)
  | registerBridge (ifNum : U32) (r : Registration)
  | unregisterBridge (ifNum : U32)
  | bounceInterface (ifNum : U32)
  | bounceBridge (ifNum : U32)

/-- A path of a call, which has returned or not. -/
inductive ApiPath : ShaperApi → List ShaperEvent → Bool → Prop where
  | registerShaping {evs : List ShaperEvent} {r : Option (Option U8)}
      (h : Path nssShaperRegisterShaping evs r) : ApiPath .registerShaping evs r.isSome
  | unregisterShaping {evs : List ShaperEvent} {r : Option Unit}
      (h : Path nssShaperUnregisterShaping evs r) : ApiPath .unregisterShaping evs r.isSome
  | registerInterface {ifNum : U32} {reg : Registration} {evs : List ShaperEvent}
      {r : Option (Option U8)} (h : Path (nssShaperRegisterShaperBounceInterface ifNum reg) evs r) :
      ApiPath (.registerInterface ifNum reg) evs r.isSome
  | unregisterInterface {ifNum : U32} {evs : List ShaperEvent} {r : Option Unit}
      (h : Path (nssShaperUnregisterShaperBounceInterface ifNum) evs r) :
      ApiPath (.unregisterInterface ifNum) evs r.isSome
  | registerBridge {ifNum : U32} {reg : Registration} {evs : List ShaperEvent}
      {r : Option (Option U8)} (h : Path (nssShaperRegisterShaperBounceBridge ifNum reg) evs r) :
      ApiPath (.registerBridge ifNum reg) evs r.isSome
  | unregisterBridge {ifNum : U32} {evs : List ShaperEvent} {r : Option Unit}
      (h : Path (nssShaperUnregisterShaperBounceBridge ifNum) evs r) :
      ApiPath (.unregisterBridge ifNum) evs r.isSome
  | bounceInterface {ifNum : U32} {evs : List ShaperEvent} {r : Option NssTxStatus}
      (h : Path (nssShaperBounceInterfacePacket ifNum) evs r) :
      ApiPath (.bounceInterface ifNum) evs r.isSome
  | bounceBridge {ifNum : U32} {evs : List ShaperEvent} {r : Option NssTxStatus}
      (h : Path (nssShaperBounceBridgePacket ifNum) evs r) :
      ApiPath (.bounceBridge ifNum) evs r.isSome

def sawRegistered (b : Bool) : ShaperEvent → Bool
  | .saw (.registered _) a => (a : Bool) == b
  | _ => false

def sawCallbackActive : ShaperEvent → Bool
  | .saw (.callbackActive _) a => (a : Bool)
  | _ => false

/-- The bridge call also goes wrong while it waits. -/
def bridgeDefect (e : ShaperEvent) : Bool := sawRegistered false e || sawCallbackActive e

/-- The state of its registrant in which a call takes one of its wrong exits. -/
def defective : ShaperApi → ShaperEvent → Bool
  | .registerShaping, _ => false
  | .unregisterShaping, _ => false
  | .registerInterface _ _, e => sawRegistered true e
  | .unregisterInterface _, e => sawRegistered false e
  | .registerBridge _ _, e => sawRegistered true e
  | .unregisterBridge _, e => bridgeDefect e
  | .bounceInterface _, e => sawRegistered false e
  | .bounceBridge _, e => sawRegistered false e

/-- The account of a path, with whether it has seen such a state. -/
def watch (d : ShaperEvent → Bool) (s : Account × Bool) (e : ShaperEvent) : Account × Bool :=
  (s.1.step e, s.2 || d e)

theorem foldl_watch (d : ShaperEvent → Bool) (evs : List ShaperEvent) (s : Account × Bool) :
    evs.foldl (watch d) s = (evs.foldl Account.step s.1, s.2 || evs.any d) := by
  induction evs generalizing s with
  | nil => simp
  | cons e evs ih => rw [List.foldl_cons, ih, List.foldl_cons, List.any_cons, watch, Bool.or_assoc]

def Kept (s : Account × Bool) : Prop := s.2 = false → s.1.wrong = false

def Settled (s : Account × Bool) : Prop :=
  (s.1.wrong = false ∧ ∀ l, s.1.held l = 0) ↔ s.2 = false

theorem kept_of_defect {a : Account} : Kept (a, true) := fun h => Bool.noConfusion h

theorem settled_of_balance {a : Account} (hwrong : a.wrong = false)
    (hlock : a.held .lock = 0) (hstats : a.held .statsLock = 0) : Settled (a, false) := by
  refine ⟨fun _ => rfl, fun _ => ⟨hwrong, fun l => ?_⟩⟩
  cases l with
  | lock => exact hlock
  | statsLock => exact hstats

theorem Account.step_wrong {a : Account} (h : a.wrong = true) (e : ShaperEvent) :
    (a.step e).wrong = true := by
  cases e with
  | did c =>
    cases c with
    | spinUnlockBh l =>
      rw [Account.step]
      split
      · rfl
      · exact h
    | _ => exact h
  | saw q x => exact h

/-- A path that has gone wrong in a defective state has settled so. -/
def Wrong (s : Account × Bool) : Prop := s.1.wrong = true ∧ s.2 = true

theorem Wrong.watch {s : Account × Bool} (h : Wrong s) (d : ShaperEvent → Bool)
    (e : ShaperEvent) : Wrong (watch d s e) := by
  refine ⟨Account.step_wrong h.1 e, ?_⟩
  rw [ShaperLocks.watch, h.2, Bool.true_or]

theorem Wrong.kept {s : Account × Bool} (h : Wrong s) : Kept s :=
  fun hclean => Bool.noConfusion (h.2.symm.trans hclean)

theorem Wrong.settled {s : Account × Bool} (h : Wrong s) : Settled s := by
  constructor
  · intro hbalance
    exact Bool.noConfusion (h.1.symm.trans hbalance.1)
  · intro hclean
    exact Bool.noConfusion (h.2.symm.trans hclean)

theorem Wrong.throughout {s : Account × Bool} (h : Wrong s) (d : ShaperEvent → Bool)
    (body : List Command) :
    Throughout (ShaperLocks.watch d) Kept body s ∧ Wrong (after (ShaperLocks.watch d) body s) := by
  induction body generalizing s with
  | nil => exact ⟨h.kept, h⟩
  | cons c body ih =>
    have hrest := ih (h.watch d (.did c))
    exact ⟨⟨h.kept, hrest.1⟩, hrest.2⟩

theorem Wrong.always {s : Account × Bool} (h : Wrong s) {d : ShaperEvent → Bool} {α : Type}
    (p : ShaperCall α) : Always (ShaperLocks.watch d) Kept (fun _ => Settled) p s := by
  induction p generalizing s with
  | ret a => exact ⟨h.kept, h.settled⟩
  | tell c k ih => exact ⟨h.kept, ih (h.watch d _)⟩
  | ask q k ih => exact ⟨h.kept, fun a => ih a (h.watch d _)⟩
  | loop q again body k ih =>
    refine ⟨Wrong, h, fun t ht => ⟨ht.kept, ?_, ?_⟩⟩
    · exact fun a _ => ih (ht.watch d _)
    · exact fun a _ => (ht.watch d _).throughout d body

variable {reg : RegistrantId}

theorem registerShaping_settled :
    Always (watch (defective .registerShaping)) Kept (fun _ => Settled) nssShaperRegisterShaping
      (start, false) := by
  refine .ask (fun _ => rfl) fun id => .ite (fun _ => ?_) fun _ => ?_
  · exact .ret (fun _ => rfl) (settled_of_balance rfl rfl rfl)
  · exact .ret (fun _ => rfl) (settled_of_balance rfl rfl rfl)

theorem unregisterShaping_settled :
    Always (watch (defective .unregisterShaping)) Kept (fun _ => Settled)
      nssShaperUnregisterShaping (start, false) :=
  .ret (fun _ => rfl) (settled_of_balance rfl rfl rfl)

theorem registerShaperBounce_settled (r : Registration) :
    Always (watch (sawRegistered true)) Kept (fun _ => Settled) (registerShaperBounce reg r)
      (start, false) := by
  refine .ask (fun _ => rfl) fun id => .ite (fun _ => ?disabled) fun _ => ?enabled
  case disabled => exact .ret (fun _ => rfl) (settled_of_balance rfl rfl rfl)
  refine .ask (fun _ => rfl) fun hold => .ite (fun _ => ?refused) fun _ => ?owned
  case refused => exact .ret (fun _ => rfl) (settled_of_balance rfl rfl rfl)
  refine .tell (fun _ => rfl) (.ask (fun _ => rfl) fun taken => ?_)
  cases taken with
  | false =>
    refine .tell (fun _ => rfl) (.tell (fun _ => rfl) (.ask (fun _ => rfl) fun _ => ?_))
    exact .ret (fun _ => rfl) (settled_of_balance rfl rfl rfl)
  | true =>
    -- the branch unlocks `stats_lock` and goes on to register all the same
    exact .tell kept_of_defect (Wrong.always ⟨rfl, rfl⟩ _)

theorem unregisterInterface_settled (ifNum : U32) :
    Always (watch (sawRegistered false)) Kept (fun _ => Settled)
      (nssShaperUnregisterShaperBounceInterface ifNum) (start, false) := by
  refine .tell (fun _ => rfl) (.ask (fun _ => rfl) fun taken => ?_)
  cases taken with
  | true =>
    refine .ask (fun _ => rfl) fun _ => .tell (fun _ => rfl) (.tell (fun _ => rfl) ?_)
    exact .tell (fun _ => rfl) (.ret (fun _ => rfl) (settled_of_balance rfl rfl rfl))
  | false =>
    exact .tell kept_of_defect (Wrong.always ⟨rfl, rfl⟩ _)

def lockHeld : Account := ⟨Function.update (fun _ => 0) .lock 1, false⟩

/-- The loop runs with `lock` held and releases `stats_lock` in its first round. -/
theorem unregisterBridge_settled (ifNum : U32) :
    Always (watch bridgeDefect) Kept (fun _ => Settled)
      (nssShaperUnregisterShaperBounceBridge ifNum) (start, false) := by
  refine .tell (fun _ => rfl) (.ask (fun _ => rfl) fun taken => ?_)
  cases taken with
  | false => exact .tell kept_of_defect (Wrong.always ⟨rfl, rfl⟩ _)
  | true =>
    refine ⟨fun s => s = (lockHeld, false) ∨ Wrong s, .inl rfl, fun t ht => ?_⟩
    rcases ht with rfl | ht
    · refine ⟨fun _ => rfl, fun a hdone => ?_, fun a hmore => ?_⟩
      · obtain rfl : a = false := hdone
        refine .ask (fun _ => rfl) fun _ => .tell (fun _ => rfl) (.tell (fun _ => rfl) ?_)
        exact .tell (fun _ => rfl) (.ret (fun _ => rfl) (settled_of_balance rfl rfl rfl))
      · obtain rfl : a = true := hmore
        have hwrong : Wrong (watch bridgeDefect (lockHeld, true)
            (.did (.spinUnlockBh .statsLock))) := ⟨rfl, rfl⟩
        have hrest := hwrong.throughout bridgeDefect [.yield, .spinLockBh .statsLock]
        exact ⟨⟨kept_of_defect, hrest.1⟩, .inr hrest.2⟩
    · refine ⟨ht.kept, fun a _ => (ht.watch _ _).always _, fun a _ => ?_⟩
      have hrest := (ht.watch bridgeDefect (.saw _ a)).throughout bridgeDefect
        [.spinUnlockBh .statsLock, .yield, .spinLockBh .statsLock]
      exact ⟨hrest.1, .inr hrest.2⟩

theorem bouncePacket_settled (queue : ℕ) (bufferType : U8) :
    Always (watch (sawRegistered false)) Kept (fun _ => Settled)
      (bouncePacket reg queue bufferType) (start, false) := by
  refine .tell (fun _ => rfl) (.ask (fun _ => rfl) fun taken => ?_)
  cases taken with
  | true =>
    refine .tell (fun _ => rfl) (.ask (fun _ => rfl) fun sent => ?_)
    cases sent with
    | false => exact .ret (fun _ => rfl) (settled_of_balance rfl rfl rfl)
    | true =>
      refine .tell (fun _ => rfl) (.tell (fun _ => rfl) ?_)
      exact .ret (fun _ => rfl) (settled_of_balance rfl rfl rfl)
  | false =>
    -- `lock` stays held
    exact .tell kept_of_defect (Wrong.always ⟨rfl, rfl⟩ _)

/-- The call has seen its registrant in no state that leads to a wrong exit. -/
def Clean (f : ShaperApi) (evs : List ShaperEvent) : Prop := ∀ e ∈ evs, defective f e = false

theorem clean_iff {f : ShaperApi} {evs : List ShaperEvent} :
    Clean f evs ↔ evs.any (defective f) = false := by
  rw [List.any_eq_false]
  exact forall₂_congr fun e _ => (Bool.not_eq_true _).symm.to_iff

theorem settled_path {f : ShaperApi} {α : Type} {p : ShaperCall α} {evs : List ShaperEvent}
    {r : Option α}
    (hp : Always (watch (defective f)) Kept (fun _ => Settled) p (start, false))
    (h : Path p evs r) :
    (Clean f evs → Disciplined evs) ∧ (r.isSome → (Balanced evs ↔ Clean f evs)) := by
  obtain ⟨hkept, hsettled⟩ := hp.path h
  rw [foldl_watch, Bool.false_or] at hkept hsettled
  rw [clean_iff]
  refine ⟨hkept, fun hdone => ?_⟩
  obtain ⟨a, rfl⟩ := Option.isSome_iff_exists.mp hdone
  exact hsettled a rfl

/-- A path of a shaper call keeps its locks in order as long as the registrant is
    in no state that leads to a wrong exit, and a call that returns has kept them
    in order only then. -/
theorem lock_discipline {f : ShaperApi} {evs : List ShaperEvent} {done : Bool}
    (h : ApiPath f evs done) :
    (Clean f evs → Disciplined evs) ∧ (done = true → (Balanced evs ↔ Clean f evs)) := by
  cases h with
  | registerShaping h => exact settled_path registerShaping_settled h
  | unregisterShaping h => exact settled_path unregisterShaping_settled h
  | registerInterface h => exact settled_path (registerShaperBounce_settled _) h
  | unregisterInterface h => exact settled_path (unregisterInterface_settled _) h
  | registerBridge h => exact settled_path (registerShaperBounce_settled _) h
  | unregisterBridge h => exact settled_path (unregisterBridge_settled _) h
  | bounceInterface h => exact settled_path (bouncePacket_settled _ _) h
  | bounceBridge h => exact settled_path (bouncePacket_settled _ _) h

/-- A bounce to a registrant that is registered, up to a rejected send. -/
def rejectedBounce (ifNum : U32) : List ShaperEvent :=
  [.did (.spinLockBh .lock), .saw (.registered ⟨.interface, ifNum⟩) true,
    .did (.spinUnlockBh .lock),
    .saw (.sendBuffer ifNum 0 H2N_BUFFER_SHAPER_BOUNCE_INTERFACE) false]

theorem lock_discipline_rejected : Balanced (rejectedBounce 3) := by
  have hpath : Path (nssShaperBounceInterfacePacket 3) (rejectedBounce 3)
      (some .NSS_TX_FAILURE) := by
    apply Path.tell
    apply Path.ask
    apply Path.tell
    apply Path.ask
    exact .ret _
  refine ((lock_discipline (.bounceInterface hpath)).2 rfl).mpr ?_
  exact clean_iff.mpr rfl

/-- A bounce to a registrant that is not registered unlocks `stats_lock` and
    returns with `lock` held. -/
theorem unregistered_bounce_keeps_lock :
    ¬ ∀ f evs, ApiPath f evs true → Balanced evs := by
  intro hall
  have hpath : Path (nssShaperBounceInterfacePacket 3)
      [.did (.spinLockBh .lock), .saw (.registered ⟨.interface, 3⟩) false,
        .did (.spinUnlockBh .statsLock)] (some .NSS_TX_FAILURE) := by
    apply Path.tell
    apply Path.ask
    apply Path.tell
    exact .ret _
  have hheld := (hall _ _ (.bounceInterface hpath)).2 .lock
  cases hheld

end NssDrv.ShaperLocks

import NssDrv.ConnectionConfig

set_option autoImplicit false

/-!
# The numbers of IPv4 and IPv6 connections

Writers of both numbers beside each other, each number under its own semaphore.
A handler stores the number of the user before it checks it, and reads the number
of the other family without the semaphore of that family.
-/
namespace NssDrv.ConnectionRuns
open CallTree SyncRequest TransitionRuns CommonMessage HlosInterface ConnectionConfig
variable {ι : Type}

inductive Family where
  | ipv4
  | ipv6
  deriving DecidableEq

namespace Family

def other : Family → Family
  | .ipv4 => .ipv6
  | .ipv6 => .ipv4

def handler : Family → Bool → connCfgService.Asked SysctlResult
  | .ipv4 => nssIpv4ConnCfgHandler
  | .ipv6 => nssIpv6ConnCfgHandler

def Calls (f : Family) (p : connCfgService.Asked SysctlResult) : Prop :=
  ∃ write, p = f.handler write

end Family

/-- `acked` is the number that the firmware has acknowledged last. -/
structure Conns (ι : Type) where
  side : Family → State connCfgService ι
  acked : Family → U32

structure Label (ι : Type) where
  family : Family
  label : SyncRequest.Label connCfgService ι

section Steps
variable [DecidableEq ι]

/-- `proc_dointvec` leaves the number as it is where it fails, and the other number
    is read as it stands. -/
def Sees (s : Conns ι) (f : Family) : SyncRequest.Label connCfgService ι → Prop
  | .event _ (.saw (.input .procDointvec) (proc : Dointvec)) =>
    proc.ret ≠ 0 → proc.value = (s.side f).mem.connCfg
  | .event _ (.saw (.input .otherConnCfg) (other : U32)) =>
    other = (s.side f.other).mem.connCfg
  | _ => True

/-- The number that a response acknowledges becomes the firmware's. -/
def ackedAfter (s : Conns ι) (f : Family) : SyncRequest.Label connCfgService ι → U32
  | .respond id r =>
    match (s.side f).requests[id]? with
    | some (_, m) => if r = .NSS_CMN_RESPONSE_ACK then m else s.acked f
    | none => s.acked f
  | _ => s.acked f

inductive Step : Conns ι → Label ι → Conns ι → Prop where
  | side (s : Conns ι) (f : Family) (l : SyncRequest.Label connCfgService ι)
      (t : State connCfgService ι) (h : SyncRequest.Step f.Calls (s.side f) l t)
      (hsees : Sees s f l) :
      Step s ⟨f, l⟩
        { side := Function.update s.side f t
          acked := Function.update s.acked f (ackedAfter s f l) }

end Steps

/-- Two numbers that may stand beside each other. -/
structure Together (m n : U32) : Prop where
  quanta : m.toNat % 1024 = 0 ∧ n.toNat % 1024 = 0
  least : 256 ≤ m.toNat ∧ 256 ≤ n.toNat
  most : m.toNat + n.toNat ≤ NSS_MAX_TOTAL_NUM_CONN_IPV4_IPV6.toNat

structure Start (s : Conns ι) : Prop where
  side : ∀ f, SyncRequest.Start (s.side f)
  acked : ∀ f, s.acked f = (s.side f).mem.connCfg
  together : Together (s.acked .ipv4) (s.acked .ipv6)

/-- Every response comes while its call waits for it, and a handler reads the number
    of the other family when it is the one that the firmware has acknowledged. -/
def Careful (s : Conns ι) (l : Label ι) : Prop :=
  match l.label with
  | .respond id _ => ∃ owner m, (s.side l.family).requests[id]? = some (owner, m) ∧
    (s.side l.family).waiting owner = some id
  | .event _ (.saw (.input .otherConnCfg) _) =>
    (s.side l.family.other).mem.connCfg = s.acked l.family.other
  | _ => True

/-- Where no handler is under way, both numbers are the ones that the firmware has
    acknowledged, and may stand beside each other. -/
def Agreed (s : Conns ι) : Prop :=
  (∀ f, (s.side f).sem = none) →
    Together (s.side .ipv4).mem.connCfg (s.side .ipv6).mem.connCfg ∧
      ∀ f, (s.side f).mem.connCfg = s.acked f

section Numbers
variable {m n : U32}

theorem Together.symm (h : Together m n) : Together n m :=
  ⟨h.quanta.symm, h.least.symm, Nat.add_comm m.toNat n.toNat ▸ h.most⟩

theorem least_of_slt (h : m.slt NSS_MIN_NUM_CONN = false) :
    256 ≤ m.toNat ∧ m.toNat < 2 ^ 31 := by
  rw [BitVec.slt_eq_decide, decide_eq_false_iff_not] at h
  have hmin : NSS_MIN_NUM_CONN.toInt = 256 := by decide
  have hlt := m.isLt
  rw [hmin, BitVec.toInt_eq_toNat_cond] at h
  split at h <;> omega

theorem quanta_of_mask (h : m &&& NSS_NUM_CONN_QUANTA_MASK = 0) : m.toNat % 1024 = 0 := by
  have hmask := congrArg BitVec.toNat h
  rw [BitVec.toNat_and] at hmask
  have hquanta : NSS_NUM_CONN_QUANTA_MASK.toNat = 2 ^ 10 - 1 := by decide
  rw [hquanta, Nat.and_two_pow_sub_one_eq_mod] at hmask
  exact hmask

theorem most_of_sum (hm : m.toNat < 2 ^ 31)
    (hn : n.toNat ≤ NSS_MAX_TOTAL_NUM_CONN_IPV4_IPV6.toNat)
    (h : ¬ m + n > NSS_MAX_TOTAL_NUM_CONN_IPV4_IPV6) :
    m.toNat + n.toNat ≤ NSS_MAX_TOTAL_NUM_CONN_IPV4_IPV6.toNat := by
  have hmax : NSS_MAX_TOTAL_NUM_CONN_IPV4_IPV6.toNat = 8196 := by decide
  have hle : (m + n).toNat ≤ NSS_MAX_TOTAL_NUM_CONN_IPV4_IPV6.toNat :=
    BitVec.le_def.mp (BitVec.not_lt.mp h)
  rw [BitVec.toNat_add] at hle
  omega

/-- The check of a handler, against a number that was accepted with another one. -/
theorem together_accepted {k : U32} (hn : Together k n) (h : connRejected m (m + n) = false) :
    Together m n := by
  simp only [connRejected, Bool.or_eq_false_iff, decide_eq_false_iff_not, not_not] at h
  obtain ⟨⟨hmask, hsum⟩, hslt⟩ := h
  obtain ⟨hleast, hlt⟩ := least_of_slt hslt
  have hmost := hn.most
  exact ⟨⟨quanta_of_mask hmask, hn.quanta.2⟩, ⟨hleast, hn.least.2⟩,
    most_of_sum hlt (by omega) hsum⟩

end Numbers

/-- Where a call stands, with the memory and the number of the firmware as it knows
    them; `fit` once the number of the user has passed the check. -/
inductive Stage where
  | outside
  | holding (m : ConnCfg) (acked : U32) (fit : Bool)
  | sent (m : ConnCfg) (acked : U32)

def Stage.flight : Stage → Option U32
  | .holding m _ true => some m.connCfg
  | .sent m _ => some m.connCfg
  | _ => none

/-- What is left of a call keeps the number that the firmware has, and sends none that has
    not passed the check. -/
def Safe : connCfgService.Asked SysctlResult → Stage → Prop
  | .ret _, .outside => True
  | .tell .down k, .outside => ∀ m : ConnCfg, Safe k (.holding m m.connCfg false)
  | .tell .up k, .holding m acked _ => m.connCfg = acked ∧ Safe k .outside
  | .tell (.write f) k, .holding m acked _ => Safe k (.holding (f m) acked false)
  | .ask .get k, .holding m acked fit => Safe (k m) (.holding m acked fit)
  | .ask (.input .procDointvec) k, .holding m acked _ =>
    ∀ proc : Dointvec, (proc.ret ≠ 0 → proc.value = m.connCfg) →
      Safe (k proc) (.holding m acked false)
  | .ask (.input .otherConnCfg) k, .holding m acked _ =>
    ∀ other : U32,
      Safe (k other) (.holding m acked (!connRejected m.connCfg (m.connCfg + other)))
  | .ask (.send n) k, .holding m acked fit =>
    fit = true ∧ n = m.connCfg ∧ Safe (k true) (.sent m acked) ∧
      Safe (k false) (.holding m acked false)
  | .ask .wait k, .sent m acked =>
    (∀ r, Safe (k true) (.holding { m with response := callbackResponse r }
      (if r = .NSS_CMN_RESPONSE_ACK then m.connCfg else acked) false)) ∧
      Safe (k false) (.holding m acked false)
  | _, _ => False

section Handler
variable {m : ConnCfg} {acked : U32} {fit write : Bool}

theorem safe_down {k : Unit → connCfgService.Asked SysctlResult}
    (h : ∀ m : ConnCfg, Safe (k ()) (.holding m m.connCfg false)) :
    Safe (down >>= k) .outside := h

theorem safe_up {k : Unit → connCfgService.Asked SysctlResult} (hm : m.connCfg = acked)
    (h : Safe (k ()) .outside) : Safe (up >>= k) (.holding m acked fit) := ⟨hm, h⟩

theorem safe_assign {g : ConnCfg → ConnCfg} {k : Unit → connCfgService.Asked SysctlResult}
    (h : Safe (k ()) (.holding (g m) acked false)) :
    Safe (assign (S := connCfgService) g >>= k) (.holding m acked fit) := h

theorem safe_load {k : ConnCfg → connCfgService.Asked SysctlResult}
    (h : Safe (k m) (.holding m acked fit)) :
    Safe (load (S := connCfgService) >>= k) (.holding m acked fit) := h

theorem safe_proc {k : Dointvec → connCfgService.Asked SysctlResult}
    (h : ∀ proc : Dointvec, (proc.ret ≠ 0 → proc.value = m.connCfg) →
      Safe (k proc) (.holding m acked false)) :
    Safe (procDointvec >>= k) (.holding m acked fit) := h

theorem safe_other {k : U32 → connCfgService.Asked SysctlResult}
    (h : ∀ other : U32,
      Safe (k other) (.holding m acked (!connRejected m.connCfg (m.connCfg + other)))) :
    Safe (otherConnCfg >>= k) (.holding m acked fit) := h

theorem safe_send {k : Bool → connCfgService.Asked SysctlResult} (hfit : fit = true)
    (hsent : Safe (k true) (.sent m acked)) (hfailed : Safe (k false) (.holding m acked false)) :
    Safe (send (S := connCfgService) m.connCfg >>= k) (.holding m acked fit) :=
  ⟨hfit, rfl, hsent, hfailed⟩

theorem safe_ite {c : Prop} [Decidable c] {p q : connCfgService.Asked SysctlResult} {x : Stage}
    (h : c → Safe p x) (h' : ¬ c → Safe q x) : Safe (if c then p else q) x := by
  split
  · exact h ‹c›
  · exact h' ‹¬ c›

theorem safe_restore (h : m.currentValue = acked) :
    Safe (restoreConnCfg write) (.holding m acked fit) := ⟨h, trivial⟩

theorem safe_process {sum : U32 → U32 → U32} {k : ℤ → connCfgService.Asked SysctlResult}
    (hsum : ∀ x y, sum x y = x + y)
    (hfailed : ∀ ret fit, ret ≠ 0 → Safe (k ret) (.holding m acked fit))
    (hsent : Safe (k 0) (.sent m acked)) :
    Safe (connCfgProcess sum m.connCfg >>= k) (.holding m acked fit) := by
  unfold connCfgProcess
  rw [bind_assoc]
  apply safe_other
  intro other
  by_cases hrejected : connRejected m.connCfg (sum m.connCfg other) = true
  · rw [if_pos hrejected]
    exact hfailed _ _ (by decide)
  · rw [if_neg hrejected, bind_assoc]
    rw [hsum] at hrejected
    apply safe_send (by simpa using hrejected)
    · exact hsent
    · exact hfailed _ _ (by decide)

theorem safe_connCfgHandler {sum : U32 → U32 → U32} (hsum : ∀ x y, sum x y = x + y) :
    Safe (connCfgHandler sum write) .outside := by
  unfold connCfgHandler
  apply safe_down
  intro m
  apply safe_assign
  apply safe_proc
  intro proc hproc
  cases write with
  | false =>
    rw [if_neg nofun, if_pos (.inr rfl)]
    exact safe_up rfl trivial
  | true =>
    rw [if_pos rfl]
    apply safe_assign
    apply safe_ite
    · intro hret
      have hfailed : proc.ret ≠ 0 := hret.resolve_right nofun
      exact safe_up (hproc hfailed) trivial
    · intro _
      apply safe_load
      apply safe_process hsum
      · intro ret fit hret
        rw [if_pos hret]
        exact safe_restore rfl
      · rw [if_neg (not_not_intro rfl)]
        refine ⟨fun r => ?_, safe_restore rfl⟩
        apply safe_load
        by_cases hack : r = .NSS_CMN_RESPONSE_ACK
        · rw [if_neg (by simpa using callbackResponse_failure.not.mpr (not_not_intro hack))]
          exact safe_up (if_pos hack).symm trivial
        · rw [if_pos (by simpa using callbackResponse_failure.mpr hack)]
          exact safe_restore (if_neg hack).symm

theorem safe_handler (f : Family) (write : Bool) : Safe (f.handler write) .outside := by
  cases f with
  | ipv4 => exact safe_connCfgHandler fun _ _ => rfl
  | ipv6 => exact safe_connCfgHandler fun x y => BitVec.add_comm y x

end Handler

/-- The state of a family is the one that the stage of call `i` is about. -/
def Placed (s : State connCfgService ι) (acked : U32) (i : ι) : Stage → Prop
  | .outside => s.sem ≠ some i ∧ s.waiting i = none
  | .holding m known _ => s.sem = some i ∧ s.waiting i = none ∧ s.mem = m ∧ s.done = 0 ∧
    acked = known
  | .sent m known => s.sem = some i ∧ ∃ id, s.waiting i = some id ∧
    s.requests[id]? = some (i, m.connCfg) ∧
    (s.answers id = none ∧ s.mem = m ∧ s.done = 0 ∧ acked = known ∨
      ∃ r, s.answers id = some r ∧ s.mem = { m with response := callbackResponse r } ∧
        s.done = 1 ∧ acked = if r = .NSS_CMN_RESPONSE_ACK then m.connCfg else known)

structure Tracks (s : State connCfgService ι) (acked : U32) (x : ι → Stage) : Prop where
  safe : ∀ i, Safe (s.calls i) (x i)
  placed : ∀ i, Placed s acked i (x i)
  free : s.sem = none → s.done = 0 ∧ s.mem.connCfg = acked
  fresh : ∀ id, s.requests.length ≤ id → s.answers id = none

section Family
variable {s t : State connCfgService ι} {acked acked' : U32} {x : ι → Stage} {stage : Stage} {i : ι}

theorem placed_outside (h : Placed s acked i stage) (hsem : s.sem ≠ some i) :
    stage = .outside := by
  cases stage with
  | outside => rfl
  | holding m known fit => exact absurd h.1 hsem
  | sent m known => exact absurd h.1 hsem

theorem placed_flight {n : U32} (h : Placed s acked i stage) (hflight : stage.flight = some n) :
    s.mem.connCfg = n := by
  cases stage with
  | outside => cases hflight
  | holding m known fit =>
    cases fit with
    | false => cases hflight
    | true =>
      obtain ⟨-, -, hmem, -, -⟩ := h
      rw [hmem]
      exact Option.some.inj hflight
  | sent m known =>
    obtain ⟨-, id, -, -, ⟨-, hmem, -, -⟩ | ⟨r, -, hmem, -, -⟩⟩ := h
    · rw [hmem]
      exact Option.some.inj hflight
    · rw [hmem]
      exact Option.some.inj hflight

variable [DecidableEq ι]

theorem Tracks.move (h : Tracks s acked x) (hbefore : s.sem = some i ∨ s.sem = none)
    (hafter : t.sem = some i ∨ t.sem = none)
    (hothers : ∀ j, j ≠ i → t.calls j = s.calls j ∧ t.waiting j = s.waiting j)
    (hsafe : Safe (t.calls i) stage) (hplaced : Placed t acked' i stage)
    (hfree : t.sem = none → t.done = 0 ∧ t.mem.connCfg = acked')
    (hfresh : ∀ id, t.requests.length ≤ id → t.answers id = none) :
    Tracks t acked' (Function.update x i stage) := by
  have hfar : ∀ {o : Option ι}, o = some i ∨ o = none → ∀ j, j ≠ i → o ≠ some j := by
    rintro o (rfl | rfl) j hj heq
    · exact hj (Option.some.inj heq).symm
    · cases heq
  refine ⟨?_, ?_, hfree, hfresh⟩
  · refine (Function.forall_update_iff x fun j y => Safe (t.calls j) y).mpr ⟨hsafe, fun j hj => ?_⟩
    rw [(hothers j hj).1]
    exact h.safe j
  · refine (Function.forall_update_iff x fun j y => Placed t acked' j y).mpr
      ⟨hplaced, fun j hj => ?_⟩
    have hwas := h.placed j
    have hout := placed_outside hwas (hfar hbefore j hj)
    rw [hout] at hwas ⊢
    exact ⟨hfar hafter j hj, (hothers j hj).2.trans hwas.2⟩

/-- What a move of call `i` may add to the numbers that have passed the check. -/
def Checked (e : connCfgService.ServiceEvent) (was now : Stage) : Prop :=
  ∀ n, now.flight = some n → was.flight = some n ∨
    ∃ other : U32, e = .saw (.input .otherConnCfg) other ∧ connRejected n (n + other) = false

theorem safe_update {p : connCfgService.Asked SysctlResult}
    {calls : ι → connCfgService.Asked SysctlResult} (h : Safe p stage) :
    Safe (Function.update calls i p i) stage := by
  rwa [Function.update_self]

theorem safe_returned {a : SysctlResult} (h : Safe (.ret a) stage) : stage = .outside := by
  cases stage with
  | outside => rfl
  | _ => exact h.elim

section Events
variable {k : connCfgService.Asked SysctlResult}

theorem Tracks.down (h : Tracks s acked x) (hcall : s.calls i = .tell .down k)
    (heffect : s.Effect i (.did .down) t) :
    ∃ stage, Tracks { t with calls := Function.update s.calls i k } acked
      (Function.update x i stage) ∧ stage.flight = none := by
  obtain ⟨hsem, rfl⟩ := heffect
  have hsafe := h.safe i
  have hplaced := h.placed i
  rw [hcall, placed_outside hplaced (hsem ▸ nofun)] at hsafe
  rw [placed_outside hplaced (hsem ▸ nofun)] at hplaced
  obtain ⟨hdone, hmem⟩ := h.free hsem
  refine ⟨.holding s.mem s.mem.connCfg false, h.move (.inr hsem) (.inl rfl) (fun j hj => ?_)
    (safe_update (hsafe s.mem)) ⟨rfl, hplaced.2, rfl, hdone, hmem.symm⟩ nofun h.fresh, rfl⟩
  exact ⟨Function.update_of_ne hj _ _, rfl⟩

theorem Tracks.up (h : Tracks s acked x) (hcall : s.calls i = .tell .up k)
    (heffect : s.Effect i (.did .up) t) :
    ∃ stage, Tracks { t with calls := Function.update s.calls i k } acked
      (Function.update x i stage) ∧ stage.flight = none := by
  obtain rfl := heffect
  have hsafe := h.safe i
  have hplaced := h.placed i
  generalize x i = was at hsafe hplaced
  rw [hcall] at hsafe
  cases was with
  | holding m known fit =>
    obtain ⟨hsem, hwaiting, rfl, hdone, rfl⟩ := hplaced
    obtain ⟨hmem, hsafe⟩ := hsafe
    refine ⟨.outside, h.move (.inl hsem) (.inr rfl) (fun j hj => ?_) (safe_update hsafe)
      ⟨nofun, hwaiting⟩ (fun _ => ⟨hdone, hmem⟩) h.fresh, rfl⟩
    exact ⟨Function.update_of_ne hj _ _, rfl⟩
  | _ => exact hsafe.elim

theorem Tracks.write {f : ConnCfg → ConnCfg} (h : Tracks s acked x)
    (hcall : s.calls i = .tell (.write f) k) (heffect : s.Effect i (.did (.write f)) t) :
    ∃ stage, Tracks { t with calls := Function.update s.calls i k } acked
      (Function.update x i stage) ∧ stage.flight = none := by
  obtain rfl := heffect
  have hsafe := h.safe i
  have hplaced := h.placed i
  generalize x i = was at hsafe hplaced
  rw [hcall] at hsafe
  cases was with
  | holding m known fit =>
    obtain ⟨hsem, hwaiting, rfl, hdone, rfl⟩ := hplaced
    refine ⟨.holding (f s.mem) acked false, h.move (.inl hsem) (.inl hsem) (fun j hj => ?_)
      (safe_update hsafe) ⟨hsem, hwaiting, rfl, hdone, rfl⟩ (fun hnone => ?_) h.fresh, rfl⟩
    · exact ⟨Function.update_of_ne hj _ _, rfl⟩
    · cases hsem.symm.trans hnone
  | _ => exact hsafe.elim

theorem Tracks.resume {m : ConnCfg} {fit fit' : Bool} {known : U32} (h : Tracks s acked x)
    (hplaced : Placed s acked i (.holding m known fit)) (hsafe : Safe k (.holding m known fit')) :
    Tracks { s with calls := Function.update s.calls i k } acked
      (Function.update x i (.holding m known fit')) :=
  h.move (.inl hplaced.1) (.inl hplaced.1) (fun _ hj => ⟨Function.update_of_ne hj _ _, rfl⟩)
    (safe_update hsafe) hplaced h.free h.fresh

theorem Tracks.get {k : ConnCfg → connCfgService.Asked SysctlResult} {v : ConnCfg}
    (h : Tracks s acked x) (hcall : s.calls i = .ask .get k)
    (heffect : s.Effect i (.saw .get v) t) :
    ∃ stage, Tracks { t with calls := Function.update s.calls i (k v) } acked
      (Function.update x i stage) ∧ stage.flight = (x i).flight := by
  obtain ⟨hv, rfl⟩ := heffect
  have hsafe := h.safe i
  have hplaced := h.placed i
  generalize x i = was at hsafe hplaced ⊢
  rw [hcall] at hsafe
  cases was with
  | holding m known fit =>
    obtain rfl : v = m := hv.trans hplaced.2.2.1
    exact ⟨_, h.resume hplaced hsafe, rfl⟩
  | _ => exact hsafe.elim

theorem Tracks.proc {k : Dointvec → connCfgService.Asked SysctlResult} {proc : Dointvec}
    (h : Tracks s acked x) (hcall : s.calls i = .ask (.input .procDointvec) k)
    (hproc : proc.ret ≠ 0 → proc.value = s.mem.connCfg) :
    ∃ stage, Tracks { s with calls := Function.update s.calls i (k proc) } acked
      (Function.update x i stage) ∧ stage.flight = none := by
  have hsafe := h.safe i
  have hplaced := h.placed i
  generalize x i = was at hsafe hplaced
  rw [hcall] at hsafe
  cases was with
  | holding m known fit =>
    obtain rfl := hplaced.2.2.1
    exact ⟨_, h.resume hplaced (hsafe proc hproc), rfl⟩
  | _ => exact hsafe.elim

theorem Tracks.other {k : U32 → connCfgService.Asked SysctlResult} {other : U32}
    (h : Tracks s acked x) (hcall : s.calls i = .ask (.input .otherConnCfg) k) :
    ∃ stage, Tracks { s with calls := Function.update s.calls i (k other) } acked
      (Function.update x i stage) ∧
      ∀ n, stage.flight = some n → connRejected n (n + other) = false := by
  have hsafe := h.safe i
  have hplaced := h.placed i
  generalize x i = was at hsafe hplaced
  rw [hcall] at hsafe
  cases was with
  | holding m known fit =>
    refine ⟨_, h.resume hplaced (hsafe other), fun n hn => ?_⟩
    cases hrejected : connRejected m.connCfg (m.connCfg + other) with
    | false =>
      rw [hrejected] at hn
      obtain rfl := Option.some.inj hn
      exact hrejected
    | true =>
      rw [hrejected] at hn
      cases hn
  | _ => exact hsafe.elim

theorem Tracks.send {m : U32} {k : Bool → connCfgService.Asked SysctlResult} {went : Bool}
    (h : Tracks s acked x) (hcall : s.calls i = .ask (.send m) k)
    (heffect : s.Effect i (.saw (.send m) went) t) :
    ∃ stage, Tracks { t with calls := Function.update s.calls i (k went) } acked
      (Function.update x i stage) ∧ ∀ n, stage.flight = some n → (x i).flight = some n := by
  have hsafe := h.safe i
  have hplaced := h.placed i
  generalize x i = was at hsafe hplaced ⊢
  rw [hcall] at hsafe
  cases was with
  | holding v known fit =>
    obtain ⟨hsem, hwaiting, rfl, hdone, rfl⟩ := hplaced
    obtain ⟨rfl, rfl, hsent, hfailed⟩ := hsafe
    cases went with
    | true =>
      obtain rfl := heffect
      have hnew : s.answers s.requests.length = none := h.fresh _ (Nat.le_refl _)
      refine ⟨.sent s.mem acked, h.move (.inl hsem) (.inl hsem) (fun j hj => ?_)
        (safe_update hsent) ⟨hsem, _, Function.update_self _ _ _, List.getElem?_concat_length,
          .inl ⟨hnew, rfl, hdone, rfl⟩⟩ (hsem ▸ nofun) (fun id hid => h.fresh id ?_),
        fun n hn => hn⟩
      · exact ⟨Function.update_of_ne hj _ _, Function.update_of_ne hj _ _⟩
      · have hlength : (s.requests ++ [(i, s.mem.connCfg)]).length ≤ id := hid
        rw [List.length_append] at hlength
        exact Nat.le_of_succ_le hlength
    | false =>
      obtain rfl := heffect
      refine ⟨.holding s.mem acked false, h.move (.inl hsem) (.inl hsem) (fun j hj => ?_)
        (safe_update hfailed) ⟨hsem, hwaiting, rfl, hdone, rfl⟩ (hsem ▸ nofun) h.fresh, nofun⟩
      exact ⟨Function.update_of_ne hj _ _, rfl⟩
  | _ => exact hsafe.elim

theorem Tracks.wait {k : Bool → connCfgService.Asked SysctlResult} {woken : Bool}
    (h : Tracks s acked x) (hcall : s.calls i = .ask .wait k)
    (heffect : s.Effect i (.saw .wait woken) t) :
    ∃ stage, Tracks { t with calls := Function.update s.calls i (k woken) } acked
      (Function.update x i stage) ∧ stage.flight = none := by
  have hsafe := h.safe i
  have hplaced := h.placed i
  generalize x i = was at hsafe hplaced
  rw [hcall] at hsafe
  cases was with
  | sent m known =>
    obtain ⟨hsem, id, hwaiting, hrequest, hanswer⟩ := hplaced
    obtain ⟨hwoken, hlate⟩ := hsafe
    cases woken with
    | true =>
      obtain ⟨hdone, rfl⟩ := heffect
      rcases hanswer with ⟨-, -, hzero, -⟩ | ⟨r, hr, hmem, hone, hacked⟩
      · exact absurd (hzero ▸ hdone) (Nat.lt_irrefl 0)
      · refine ⟨_, h.move (.inl hsem) (.inl hsem) (fun j hj => ?_) (safe_update (hwoken r))
          ⟨hsem, Function.update_self _ _ _, hmem, ?_, hacked⟩ (hsem ▸ nofun) h.fresh, rfl⟩
        · exact ⟨Function.update_of_ne hj _ _, Function.update_of_ne hj _ _⟩
        · show s.done - 1 = 0
          rw [hone]
    | false =>
      obtain ⟨hdone, rfl⟩ := heffect
      rcases hanswer with ⟨-, hmem, hzero, hacked⟩ | ⟨r, -, -, hone, -⟩
      · refine ⟨_, h.move (.inl hsem) (.inl hsem) (fun j hj => ?_) (safe_update hlate)
          ⟨hsem, Function.update_self _ _ _, hmem, hzero, hacked⟩ (hsem ▸ nofun) h.fresh, rfl⟩
        exact ⟨Function.update_of_ne hj _ _, Function.update_of_ne hj _ _⟩
      · rw [hone] at hdone
        cases hdone
  | _ => exact hsafe.elim

end Events

theorem checked_none {e : connCfgService.ServiceEvent} {was : Stage} (h : stage.flight = none) :
    Checked e was stage := by
  intro n hn
  cases h.symm.trans hn

theorem Tracks.event {e : connCfgService.ServiceEvent} {p : connCfgService.Asked SysctlResult}
    (h : Tracks s acked x) (hnext : Next (s.calls i) e p) (heffect : s.Effect i e t)
    (hproc : ∀ proc : Dointvec, e = .saw (.input .procDointvec) proc → proc.ret ≠ 0 →
      proc.value = s.mem.connCfg) :
    ∃ stage, Tracks { t with calls := Function.update s.calls i p } acked
      (Function.update x i stage) ∧ Checked e (x i) stage := by
  generalize hcall : s.calls i = c at hnext
  cases c with
  | ret a => cases hnext
  | tell c k =>
    obtain ⟨rfl, rfl⟩ := next_tell hnext
    cases c with
    | down =>
      obtain ⟨stage, htracks, hflight⟩ := h.down hcall heffect
      exact ⟨stage, htracks, checked_none hflight⟩
    | up =>
      obtain ⟨stage, htracks, hflight⟩ := h.up hcall heffect
      exact ⟨stage, htracks, checked_none hflight⟩
    | write f =>
      obtain ⟨stage, htracks, hflight⟩ := h.write hcall heffect
      exact ⟨stage, htracks, checked_none hflight⟩
  | ask q k =>
    obtain ⟨a, rfl, rfl⟩ := next_ask hnext
    cases q with
    | get =>
      obtain ⟨stage, htracks, hflight⟩ := h.get hcall heffect
      exact ⟨stage, htracks, fun n hn => .inl (hflight ▸ hn)⟩
    | send m =>
      obtain ⟨stage, htracks, hflight⟩ := h.send hcall heffect
      exact ⟨stage, htracks, fun n hn => .inl (hflight n hn)⟩
    | wait =>
      obtain ⟨stage, htracks, hflight⟩ := h.wait hcall heffect
      exact ⟨stage, htracks, checked_none hflight⟩
    | input q =>
      obtain rfl := heffect
      cases q with
      | procDointvec =>
        obtain ⟨stage, htracks, hflight⟩ := h.proc hcall (hproc a rfl)
        exact ⟨stage, htracks, checked_none hflight⟩
      | otherConnCfg =>
        obtain ⟨stage, htracks, hflight⟩ := h.other hcall
        exact ⟨stage, htracks, fun n hn => .inr ⟨a, rfl, hflight n hn⟩⟩
  | loop q again body k =>
    have hsafe := h.safe i
    rw [hcall] at hsafe
    generalize x i = was at hsafe
    cases was <;> exact hsafe.elim

theorem Tracks.respond {id : ℕ} {owner : ι} {m : U32} {r : NssCmnResponse}
    (h : Tracks s acked x) (hrequest : s.requests[id]? = some (owner, m))
    (hnew : s.answers id = none) (hwaiting : s.waiting owner = some id) :
    (x owner).flight = some m ∧
      Tracks (s.respond id owner m r) (if r = .NSS_CMN_RESPONSE_ACK then m else acked) x := by
  have hplaced := h.placed owner
  generalize hstage : x owner = stage at hplaced
  cases stage with
  | sent v known =>
    obtain ⟨hsem, id', hid', hrequest', hanswer⟩ := hplaced
    obtain rfl : id' = id := Option.some.inj (hid'.symm.trans hwaiting)
    obtain rfl : v.connCfg = m := (Prod.mk.inj (Option.some.inj (hrequest'.symm.trans hrequest))).2
    rcases hanswer with ⟨-, hmem, hdone, hacked⟩ | ⟨r', hr', -⟩
    · refine ⟨rfl, ?_⟩
      have hself : Function.update x owner (.sent v known) = x := by
        rw [← hstage, Function.update_eq_self]
      rw [← hself]
      have hsafe := h.safe owner
      rw [hstage] at hsafe
      unfold State.respond
      refine h.move (.inl hsem) (.inl hsem) (fun _ _ => ⟨rfl, rfl⟩) hsafe
        ⟨hsem, id', hwaiting, hrequest, .inr ⟨r, ?_, ?_, ?_, ?_⟩⟩ (fun hnone => ?_)
        (fun id hid => ?_)
      · exact Function.update_self _ _ _
      · show connCfgService.callback v.connCfg r s.mem = _
        rw [hmem]
      · exact congrArg (fun n => n + 1) hdone
      · rw [hacked]
      · cases hsem.symm.trans hnone
      · have hlt : id' < s.requests.length := (List.getElem?_eq_some_iff.mp hrequest).1
        have hid : s.requests.length ≤ id := hid
        exact (Function.update_of_ne (fun heq => by omega) _ _).trans (h.fresh id hid)
    · cases hr'.symm.trans hnew
  | outside => cases hplaced.2.symm.trans hwaiting
  | holding v known fit => cases hplaced.2.1.symm.trans hwaiting

theorem Tracks.start {p : connCfgService.Asked SysctlResult} {a : SysctlResult}
    (h : Tracks s acked x) (hidle : s.calls i = .ret a) (hsafe : Safe p .outside) :
    Tracks
      { s with
        calls := Function.update s.calls i p
        woken := Function.update s.woken i false
        outcomes := Function.update s.outcomes i [] } acked x := by
  have hreturned := h.safe i
  rw [hidle] at hreturned
  have hout := safe_returned hreturned
  refine ⟨fun j => ?_, fun j => ?_, h.free, h.fresh⟩
  · by_cases hj : j = i
    · subst hj
      rw [hout]
      exact safe_update hsafe
    · show Safe (Function.update s.calls i p j) (x j)
      rw [Function.update_of_ne hj]
      exact h.safe j
  · have hwas := h.placed j
    generalize x j = stage at hwas
    cases stage <;> exact hwas

end Family

section Runs
variable {s t : Conns ι} {x : Family → ι → Stage}

def Flying (x : ι → Stage) (n : U32) : Prop := ∃ i, (x i).flight = some n

/-- Any number that a family has or may get may stand beside any of the other one. -/
structure Inv (s : Conns ι) (x : Family → ι → Stage) : Prop where
  side : ∀ f, Tracks (s.side f) (s.acked f) (x f)
  acked : Together (s.acked .ipv4) (s.acked .ipv6)
  flying : ∀ f n, Flying (x f) n → Together n (s.acked f.other)
  both : ∀ f n n', Flying (x f) n → Flying (x f.other) n' → Together n n'

theorem other_other (f : Family) : f.other.other = f := by cases f <;> rfl

theorem other_ne (f : Family) : f.other ≠ f := by cases f <;> exact nofun

theorem Inv.together (h : Inv s x) (f : Family) : Together (s.acked f) (s.acked f.other) := by
  cases f with
  | ipv4 => exact h.acked
  | ipv6 => exact h.acked.symm

theorem flying_connCfg {f : Family} {n : U32} (h : Inv s x) (hn : Flying (x f) n) :
    (s.side f).mem.connCfg = n := by
  obtain ⟨i, hi⟩ := hn
  exact placed_flight ((h.side f).placed i) hi

theorem Start.inv [DecidableEq ι] (h : Start s) : Inv s fun _ _ => .outside := by
  refine ⟨fun f => ?_, h.together, ?_, ?_⟩
  · obtain ⟨hdone, hsem, hcalls, hrequests, hanswers, hwaiting, -, -⟩ := h.side f
    refine ⟨fun i => ?_, fun i => ⟨hsem ▸ nofun, hwaiting i⟩, fun _ => ⟨hdone, (h.acked f).symm⟩,
      fun id _ => hanswers id⟩
    obtain ⟨a, ha, -⟩ := hcalls i
    rw [ha]
    trivial
  · rintro f n ⟨i, hi⟩
    cases hi
  · rintro f n n' ⟨i, hi⟩ -
    cases hi

theorem family_cases (f g : Family) : g = f ∨ g = f.other := by
  cases f <;> cases g <;> simp [Family.other]

/-- One family moves: what it adds to its numbers may stand beside the other ones. -/
theorem Inv.move {f : Family} {u : State connCfgService ι} {acked : U32}
    {y : ι → Stage} (h : Inv s x) (hside : Tracks u acked y)
    (hacked : Together acked (s.acked f.other))
    (hfly : ∀ n, Flying (x f.other) n → Together n acked)
    (hnew : ∀ n, Flying y n → Together n (s.acked f.other))
    (hboth : ∀ n n', Flying y n → Flying (x f.other) n' → Together n n') :
    Inv ⟨Function.update s.side f u, Function.update s.acked f acked⟩ (Function.update x f y) := by
  have hself : ∀ {α : Type} (g : Family → α) (v : α), Function.update g f v f = v :=
    fun g v => Function.update_self _ _ _
  have hsame : ∀ {α : Type} (g : Family → α) (v : α), Function.update g f v f.other = g f.other :=
    fun g v => Function.update_of_ne (other_ne f) _ _
  refine ⟨fun g => ?_, ?_, fun g n hn => ?_, fun g n n' hn hn' => ?_⟩
  · rcases family_cases f g with rfl | rfl
    · dsimp only
      rw [hself, hself, hself]
      exact hside
    · dsimp only
      rw [hsame, hsame, hsame]
      exact h.side _
  · cases f with
    | ipv4 => exact hacked
    | ipv6 => exact hacked.symm
  · rcases family_cases f g with rfl | rfl
    · rw [hself] at hn
      dsimp only
      rw [hsame]
      exact hnew n hn
    · rw [hsame] at hn
      dsimp only
      rw [other_other, hself]
      exact hfly n hn
  · rcases family_cases f g with rfl | rfl
    · rw [hself] at hn
      rw [hsame] at hn'
      exact hboth n n' hn hn'
    · rw [hsame] at hn
      rw [other_other, hself] at hn'
      exact (hboth n' n hn' hn).symm

variable [DecidableEq ι]

/-- One step keeps the numbers together: a number that passes the check is compared with
    the one that the firmware has acknowledged. -/
theorem Inv.step {l : Label ι} (h : Inv s x) (hstep : Step s l t) (hok : Careful s l) :
    ∃ y, Inv t y := by
  obtain ⟨f, l, u, hstep, hsees⟩ := hstep
  have hkeep : ∀ {y : ι → Stage}, Tracks u (s.acked f) y →
      (∀ n, Flying y n → Flying (x f) n) →
      ∃ z, Inv ⟨Function.update s.side f u, Function.update s.acked f (s.acked f)⟩ z := by
    intro y hside hfewer
    refine ⟨_, h.move hside (h.together f) (fun n hn => ?_) (fun n hn => h.flying f n (hfewer n hn))
      fun n n' hn hn' => h.both f n n' (hfewer n hn) hn'⟩
    have := h.flying f.other n hn
    rwa [other_other] at this
  cases hstep with
  | start i p a hidle hcall =>
    obtain ⟨write, rfl⟩ := hcall
    exact hkeep ((h.side f).start hidle (safe_handler f write)) fun _ hn => hn
  | event i e p u hnext heffect =>
    have hproc : ∀ proc : Dointvec, e = .saw (.input .procDointvec) proc → proc.ret ≠ 0 →
        proc.value = (s.side f).mem.connCfg := by
      rintro proc rfl
      exact hsees
    obtain ⟨stage, htracks, hchecked⟩ := (h.side f).event hnext heffect hproc
    have hcompared : ∀ n, Flying (Function.update (x f) i stage) n → Flying (x f) n ∨
        connRejected n (n + s.acked f.other) = false ∧
          (s.side f.other).mem.connCfg = s.acked f.other := by
      rintro n ⟨j, hj⟩
      by_cases heq : j = i
      · subst heq
        rw [Function.update_self] at hj
        rcases hchecked n hj with hwas | ⟨other, rfl, haccepted⟩
        · exact .inl ⟨j, hwas⟩
        · have hother : other = (s.side f.other).mem.connCfg := hsees
          have hsettled : (s.side f.other).mem.connCfg = s.acked f.other := hok
          rw [hother, hsettled] at haccepted
          exact .inr ⟨haccepted, hsettled⟩
      · rw [Function.update_of_ne heq] at hj
        exact .inl ⟨j, hj⟩
    refine ⟨_, h.move htracks (h.together f) (fun n hn => ?_) (fun n hn => ?_) fun n n' hn hn' => ?_⟩
    · have htogether := h.flying f.other n hn
      rwa [other_other] at htogether
    · rcases hcompared n hn with hwas | ⟨haccepted, -⟩
      · exact h.flying f n hwas
      · exact together_accepted (h.together f) haccepted
    · rcases hcompared n hn with hwas | ⟨haccepted, hsettled⟩
      · exact h.both f n n' hwas hn'
      · have hn' : s.acked f.other = n' := hsettled.symm.trans (flying_connCfg h hn')
        exact hn' ▸ together_accepted (h.together f) haccepted
  | respond id owner m r hrequest hnew =>
    obtain ⟨owner', m', hrequest', hwaiting⟩ := hok
    obtain ⟨rfl, rfl⟩ := Prod.mk.inj (Option.some.inj (hrequest'.symm.trans hrequest))
    obtain ⟨hflight, hside⟩ := (h.side f).respond hrequest hnew hwaiting
    have hacked : ackedAfter s f (.respond id r) =
        if r = .NSS_CMN_RESPONSE_ACK then m' else s.acked f := by
      unfold ackedAfter
      dsimp only
      rw [hrequest]
    by_cases hr : r = .NSS_CMN_RESPONSE_ACK
    · rw [if_pos hr] at hside hacked
      rw [hacked]
      have hm : Flying (x f) m' := ⟨owner', hflight⟩
      exact ⟨_, h.move hside (h.flying f m' hm) (fun n hn => (h.both f m' n hm hn).symm)
        (h.flying f) (h.both f)⟩
    · rw [if_neg hr] at hside hacked
      rw [hacked]
      exact hkeep hside fun _ hn => hn
  | strayResponse m r hshared => exact hshared.elim
  | drift u hdrift =>
    obtain rfl : (s.side f).mem = u := hdrift
    exact hkeep (h.side f) fun _ hn => hn

/-- In a run that is careful, both numbers are settled whenever no handler is under way. -/
theorem numbers_agreed (h : Reachable Start (Guarded Step Careful) s) : Agreed s := by
  have hinv : ∃ x, Inv s x := by
    refine h.invariant (fun s => ∃ x, Inv s x) (fun _ hs => ⟨_, hs.inv⟩) ?_
    intro s l t ⟨x, hx⟩ ⟨hstep, hok⟩
    exact hx.step hstep hok
  obtain ⟨x, hx⟩ := hinv
  intro hidle
  have hsettled : ∀ f, (s.side f).mem.connCfg = s.acked f := fun f => ((hx.side f).free (hidle f)).2
  refine ⟨?_, hsettled⟩
  rw [hsettled, hsettled]
  exact hx.acked

end Runs

section Examples

def initialSide : State connCfgService Bool where
  mem := ⟨4096, 4096, NSS_SUCCESS⟩
  done := 0
  sem := none
  calls _ := .ret ⟨false, 0⟩
  requests := []
  answers _ := none
  waiting _ := none
  woken _ := false
  outcomes _ := []
  intruded _ := false

def initial : Conns Bool := ⟨fun _ => initialSide, fun _ => 4096⟩

theorem initial_start : Start initial := by
  refine ⟨fun _ => ⟨rfl, rfl, fun _ => ⟨_, rfl, nofun⟩, rfl, fun _ => rfl, fun _ => rfl,
    fun _ => rfl, fun _ => rfl⟩, fun _ => rfl, ⟨?_, ?_, ?_⟩⟩ <;> decide

/-- Call `i` of a family reads an input. -/
theorem Step.input {s : Conns Bool} (f : Family) (i : Bool) {q : ConnCfgInput}
    {k : ConnCfgAnswer q → connCfgService.Asked SysctlResult} (a : ConnCfgAnswer q)
    (hcall : (s.side f).calls i = .ask (.input q) k)
    (hsees : Sees s f (.event i (.saw (.input q) a))) :
    Step s ⟨f, .event i (.saw (.input q) a)⟩
      ⟨Function.update s.side f
          { s.side f with calls := Function.update (s.side f).calls i (k a) },
        Function.update s.acked f (s.acked f)⟩ :=
  .side s f _ _ (.event _ i (.saw (.input q) a) _ (s.side f) (.of_ask (q := Query.input q) a hcall)
    rfl) hsees

/-- A write that the firmware acknowledges, up to the return of its handler. -/
theorem numbers_agreed_write : ∃ s : Conns Bool, (∀ f, (s.side f).sem = none) ∧
    (s.side .ipv4).mem.connCfg = 1024 ∧ Agreed s := by
  have hstart : Reachable Start (Guarded Step Careful) _ := (Reachable.start initial_start).next
    ⟨.side _ .ipv4 _ _ (.start _ true (nssIpv4ConnCfgHandler true) _ rfl ⟨true, rfl⟩) trivial,
      trivial⟩
  have hdown := hstart.next ⟨.side _ .ipv4 _ _ (.down true rfl rfl) trivial, trivial⟩
  have hsnap := hdown.next ⟨.side _ .ipv4 _ _ (.assign true rfl) trivial, trivial⟩
  have hproc := hsnap.next ⟨.input .ipv4 true (q := .procDointvec) (⟨0, 1024⟩ : Dointvec) rfl
    (fun h => absurd rfl h), trivial⟩
  have hstore := hproc.next ⟨.side _ .ipv4 _ _ (.assign true rfl) trivial, trivial⟩
  have hload := hstore.next ⟨.side _ .ipv4 _ _ (.load true rfl) trivial, trivial⟩
  have hother := hload.next ⟨.input .ipv4 true (q := .otherConnCfg) (4096 : U32) rfl rfl, rfl⟩
  have hsend := hother.next ⟨.side _ .ipv4 _ _ (.send true rfl) trivial, trivial⟩
  have hack := hsend.next ⟨.side _ .ipv4 _ _
    (.respond _ 0 true (1024 : U32) NssCmnResponse.NSS_CMN_RESPONSE_ACK rfl rfl) trivial,
      _, _, rfl, rfl⟩
  have hwake := hack.next ⟨.side _ .ipv4 _ _ (.wake true rfl (by decide)) trivial, trivial⟩
  have hread := hwake.next ⟨.side _ .ipv4 _ _ (.load true rfl) trivial, trivial⟩
  have hup := hread.next ⟨.side _ .ipv4 _ _ (.up true rfl) trivial, trivial⟩
  refine ⟨_, fun f => ?_, rfl, numbers_agreed hup⟩
  cases f <;> rfl

/-- The number of IPv6 is 1024 while its request is on its way, IPv4 takes what that leaves,
    and then the firmware refuses the 1024. -/
theorem numbers_not_agreed : ¬ ∀ s : Conns Bool, Reachable Start Step s → Agreed s := by
  intro hagreed
  have hstart : Reachable Start Step _ := (Reachable.start initial_start).next
    (.side _ .ipv6 _ _ (.start _ true (nssIpv6ConnCfgHandler true) _ rfl ⟨true, rfl⟩) trivial)
  have hdown := hstart.next (.side _ .ipv6 _ _ (.down true rfl rfl) trivial)
  have hsnap := hdown.next (.side _ .ipv6 _ _ (.assign true rfl) trivial)
  have hproc := hsnap.next
    (.input .ipv6 true (q := .procDointvec) (⟨0, 1024⟩ : Dointvec) rfl fun h => absurd rfl h)
  have hstore := hproc.next (.side _ .ipv6 _ _ (.assign true rfl) trivial)
  have hload := hstore.next (.side _ .ipv6 _ _ (.load true rfl) trivial)
  have hother := hload.next (.input .ipv6 true (q := .otherConnCfg) (4096 : U32) rfl rfl)
  have hsend := hother.next (.side _ .ipv6 _ _ (.send true rfl) trivial)
  have hstart' := hsend.next
    (.side _ .ipv4 _ _ (.start _ true (nssIpv4ConnCfgHandler true) _ rfl ⟨true, rfl⟩) trivial)
  have hdown' := hstart'.next (.side _ .ipv4 _ _ (.down true rfl rfl) trivial)
  have hsnap' := hdown'.next (.side _ .ipv4 _ _ (.assign true rfl) trivial)
  have hproc' := hsnap'.next
    (.input .ipv4 true (q := .procDointvec) (⟨0, 7168⟩ : Dointvec) rfl fun h => absurd rfl h)
  have hstore' := hproc'.next (.side _ .ipv4 _ _ (.assign true rfl) trivial)
  have hload' := hstore'.next (.side _ .ipv4 _ _ (.load true rfl) trivial)
  have hother' := hload'.next (.input .ipv4 true (q := .otherConnCfg) (1024 : U32) rfl rfl)
  have hsend' := hother'.next (.side _ .ipv4 _ _ (.send true rfl) trivial)
  have hack := hsend'.next (.side _ .ipv4 _ _
    (.respond _ 0 true (7168 : U32) NssCmnResponse.NSS_CMN_RESPONSE_ACK rfl rfl) trivial)
  have hwake := hack.next (.side _ .ipv4 _ _ (.wake true rfl (by decide)) trivial)
  have hread := hwake.next (.side _ .ipv4 _ _ (.load true rfl) trivial)
  have hup := hread.next (.side _ .ipv4 _ _ (.up true rfl) trivial)
  have hnack := hup.next (.side _ .ipv6 _ _
    (.respond _ 0 true (1024 : U32) NssCmnResponse.NSS_CMN_RESPONSE_EMSG rfl rfl) trivial)
  have hwake' := hnack.next (.side _ .ipv6 _ _ (.wake true rfl (by decide)) trivial)
  have hread' := hwake'.next (.side _ .ipv6 _ _ (.load true rfl) trivial)
  have hrestore := hread'.next (.side _ .ipv6 _ _ (.assign true rfl) trivial)
  have hup' := hrestore.next (.side _ .ipv6 _ _ (.up true rfl) trivial)
  have hmost := (hagreed _ hup' (fun f => by cases f <;> rfl)).1.most
  exact absurd hmost (by decide)

end Examples

end NssDrv.ConnectionRuns

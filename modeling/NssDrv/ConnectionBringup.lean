import NssDrv.ConnectionRuns

set_option autoImplicit false

/-!
# Connection numbers at bring-up

The end of `nss_core_init_nss`. Both numbers are set to the parameters of the
module before either update looks at them.
-/
namespace NssDrv.ConnectionBringup
open HlosInterface CommonMessage ConnectionConfig ConnectionRuns TransitionRuns

/-- `accepted` is what the firmware has acknowledged last. -/
structure Counts where
  connCfg : Family → U32
  updateDone : Family → Bool
  accepted : Family → U32

/-- Whether an update can be sent, and what the firmware answers. -/
structure Outcome where
  sent : Bool
  response : Option NssCmnResponse

namespace Counts

def setConnCfg (s : Counts) (f : Family) (conn : U32) : Counts :=
  { s with connCfg := Function.update s.connCfg f conn }

/-- `nss_ipv4_update_conn_count_cb` and its sibling only print the response. -/
def respond (s : Counts) (f : Family) (conn : U32) (response : Option NssCmnResponse) : Counts :=
  if response = some .NSS_CMN_RESPONSE_ACK then
    { s with accepted := Function.update s.accepted f conn }
  else s

end Counts

def sumOfConn : Family → U32 → U32 → U32
  | .ipv4, conn, other => conn + other
  | .ipv6, conn, other => other + conn

/-- `nss_ipv4_conn_cfg_process` and `nss_ipv6_conn_cfg_process`. -/
def connCfgProcess (s : Counts) (f : Family) (conn : U32) (sent : Bool) : ℤ :=
  if connRejected conn (sumOfConn f conn (s.connCfg f.other)) then -einval
  else if !sent then -eio
  else 0

def updateError : Family → ℤ → ℤ
  | .ipv4, ret => ret
  | .ipv6, _ => -einval

def updateConnCount (f : Family) (numConn : U32) (o : Outcome) (s : Counts) : ℤ × Counts :=
  let saved := s.connCfg f
  let s := s.setConnCfg f numConn
  let ret := connCfgProcess s f (s.connCfg f) o.sent
  if ret ≠ 0 then (updateError f ret, s.setConnCfg f saved)
  else (0, s.respond f numConn o.response)

def nssIpv4UpdateConnCount := updateConnCount .ipv4
def nssIpv6UpdateConnCount := updateConnCount .ipv6

def finishUpdate (f : Family) (r : ℤ × Counts) : Counts :=
  if r.1 = 0 then { r.2 with updateDone := Function.update r.2.updateDone f true } else r.2

/-- The inputs of a bring-up. `queued` is the answer of
    `nss_data_plane_schedule_registration`. -/
structure Bringup where
  nssId : ℕ
  queued : Bool
  maxConn : Family → U32
  outcome : Family → Outcome

def isScheduled (b : Bringup) : Bool := if b.nssId = 0 then b.queued else true

/-- `nss_core_init_nss` from `is_scheduled` on. -/
def nssCoreInitNss (b : Bringup) (s : Counts) : Counts :=
  if isScheduled b then
    let s := (s.setConnCfg .ipv4 (b.maxConn .ipv4)).setConnCfg .ipv6 (b.maxConn .ipv6)
    if b.nssId = 0 ∧ (s.updateDone .ipv4 = false ∨ s.updateDone .ipv6 = false) then
      let s := if s.updateDone .ipv4 = false then
          finishUpdate .ipv4 (nssIpv4UpdateConnCount (b.maxConn .ipv4) (b.outcome .ipv4) s)
        else s
      if s.updateDone .ipv6 = false then
        finishUpdate .ipv6 (nssIpv6UpdateConnCount (b.maxConn .ipv6) (b.outcome .ipv6) s)
      else s
    else s
  else s

/-- Both numbers are the accepted ones, and these pass the checks of the handlers. -/
structure Settled (s : Counts) : Prop where
  equal : ∀ f, s.connCfg f = s.accepted f
  together : Together (s.accepted .ipv4) (s.accepted .ipv6)

/-- The update of a family is made and acknowledged. -/
def Acknowledged (b : Bringup) (s : Counts) (f : Family) : Prop :=
  b.nssId = 0 ∧ s.updateDone f = false ∧ (b.outcome f).sent = true ∧
    (b.outcome f).response = some .NSS_CMN_RESPONSE_ACK

/-- The parameters may stand beside each other, and each is the number accepted
    before or one whose update is acknowledged. -/
def Follows (b : Bringup) (s : Counts) : Prop :=
  if isScheduled b then
    Together (b.maxConn .ipv4) (b.maxConn .ipv6) ∧
      ∀ f, b.maxConn f = s.accepted f ∨ Acknowledged b s f
  else Settled s

section Numbers
variable {m n : U32}

theorem together_passes (h : Together m n) : connRejected m (m + n) = false := by
  have hmax : NSS_MAX_TOTAL_NUM_CONN_IPV4_IPV6.toNat = 8196 := by decide
  have hmost := h.most
  have hmask : m &&& NSS_NUM_CONN_QUANTA_MASK = 0 := by
    apply BitVec.eq_of_toNat_eq
    have hquanta : NSS_NUM_CONN_QUANTA_MASK.toNat = 2 ^ 10 - 1 := by decide
    rw [BitVec.toNat_and, hquanta, Nat.and_two_pow_sub_one_eq_mod]
    exact h.quanta.1
  have hsum : ¬ m + n > NSS_MAX_TOTAL_NUM_CONN_IPV4_IPV6 := by
    rw [gt_iff_lt, BitVec.lt_def, BitVec.toNat_add]
    omega
  have hslt : m.slt NSS_MIN_NUM_CONN = false := by
    have hmin : NSS_MIN_NUM_CONN.toInt = 256 := by decide
    have hleast := h.least.1
    rw [BitVec.slt_eq_decide, decide_eq_false_iff_not, hmin, BitVec.toInt_eq_toNat_cond]
    split <;> omega
  simp [connRejected, hmask, hsum, hslt]

end Numbers

section Updates
variable {s : Counts} {f : Family} {conn : U32} {o : Outcome}

theorem sumOfConn_eq (f : Family) (conn other : U32) : sumOfConn f conn other = conn + other := by
  cases f with
  | ipv4 => rfl
  | ipv6 => exact BitVec.add_comm other conn

theorem setConnCfg_self (h : s.connCfg f = conn) : s.setConnCfg f conn = s := by
  subst h
  unfold Counts.setConnCfg
  rw [Function.update_eq_self]

theorem finishUpdate_error {ret : ℤ} (h : ret ≠ 0) : finishUpdate f (updateError f ret, s) = s := by
  apply if_neg
  cases f with
  | ipv4 => exact h
  | ipv6 =>
    show ¬ (-einval : ℤ) = 0
    decide

theorem update_failed (h : s.connCfg f = conn) (hret : connCfgProcess s f conn o.sent ≠ 0) :
    finishUpdate f (updateConnCount f conn o s) = s := by
  unfold updateConnCount
  rw [setConnCfg_self h]
  dsimp only
  rw [h, if_pos hret, setConnCfg_self h]
  exact finishUpdate_error hret

theorem update_sent (h : s.connCfg f = conn) (hret : connCfgProcess s f conn o.sent = 0) :
    finishUpdate f (updateConnCount f conn o s) =
      { s.respond f conn o.response with updateDone := Function.update s.updateDone f true } := by
  have hdone : (s.respond f conn o.response).updateDone = s.updateDone := by
    unfold Counts.respond
    split <;> rfl
  unfold updateConnCount
  rw [setConnCfg_self h]
  dsimp only
  rw [h, if_neg (not_not.mpr hret)]
  unfold finishUpdate
  rw [if_pos rfl, hdone]

theorem update_connCfg (h : s.connCfg f = conn) :
    (finishUpdate f (updateConnCount f conn o s)).connCfg = s.connCfg := by
  by_cases hret : connCfgProcess s f conn o.sent = 0
  · rw [update_sent h hret]
    unfold Counts.respond
    split <;> rfl
  · rw [update_failed h hret]

theorem update_other {f' : Family} (h : s.connCfg f = conn) (hne : f' ≠ f) :
    (finishUpdate f (updateConnCount f conn o s)).updateDone f' = s.updateDone f' ∧
      (finishUpdate f (updateConnCount f conn o s)).accepted f' = s.accepted f' := by
  by_cases hret : connCfgProcess s f conn o.sent = 0
  · rw [update_sent h hret]
    refine ⟨Function.update_of_ne hne _ _, ?_⟩
    unfold Counts.respond
    split
    · exact Function.update_of_ne hne _ _
    · rfl
  · rw [update_failed h hret]
    exact ⟨rfl, rfl⟩

theorem update_accepted (h : s.connCfg f = conn)
    (hpass : connRejected conn (conn + s.connCfg f.other) = false) :
    (finishUpdate f (updateConnCount f conn o s)).accepted f =
      if o.sent = true ∧ o.response = some .NSS_CMN_RESPONSE_ACK then conn
      else s.accepted f := by
  have hprocess : connCfgProcess s f conn o.sent = if !o.sent then -eio else 0 := by
    unfold connCfgProcess
    rw [sumOfConn_eq, hpass]
    rfl
  by_cases hsent : o.sent = true
  · rw [hsent] at hprocess
    rw [update_sent h (by rw [hsent]; exact hprocess)]
    unfold Counts.respond
    by_cases hack : o.response = some .NSS_CMN_RESPONSE_ACK
    · rw [if_pos hack, if_pos ⟨hsent, hack⟩]
      exact Function.update_self ..
    · rw [if_neg hack, if_neg fun hboth => hack hboth.2]
  · rw [if_neg fun hboth => hsent hboth.1, update_failed h]
    rw [hprocess, if_pos (by simpa using hsent)]
    decide

end Updates

section Bringups
variable {b : Bringup} {s : Counts}

def requested (b : Bringup) (s : Counts) : Counts :=
  (s.setConnCfg .ipv4 (b.maxConn .ipv4)).setConnCfg .ipv6 (b.maxConn .ipv6)

theorem requested_connCfg (b : Bringup) (s : Counts) (f : Family) :
    (requested b s).connCfg f = b.maxConn f := by
  cases f with
  | ipv4 => rfl
  | ipv6 => rfl

/-- The update of a family, where it has not been made. -/
def updated (b : Bringup) (f : Family) (s : Counts) : Counts :=
  if s.updateDone f = false then
    finishUpdate f (updateConnCount f (b.maxConn f) (b.outcome f) s)
  else s

theorem nssCoreInitNss_scheduled (h : isScheduled b = true) :
    nssCoreInitNss b s =
      if b.nssId = 0 then updated b .ipv6 (updated b .ipv4 (requested b s)) else requested b s := by
  unfold nssCoreInitNss
  rw [if_pos h]
  dsimp only
  by_cases hcore : b.nssId = 0
  · rw [if_pos hcore]
    by_cases hopen : s.updateDone .ipv4 = false ∨ s.updateDone .ipv6 = false
    · rw [if_pos ⟨hcore, hopen⟩]
      rfl
    · rw [if_neg fun hboth => hopen hboth.2]
      rw [not_or] at hopen
      have hipv4 : updated b .ipv4 (requested b s) = requested b s := if_neg hopen.1
      have hipv6 : updated b .ipv6 (requested b s) = requested b s := if_neg hopen.2
      rw [hipv4, hipv6]
      rfl
  · rw [if_neg hcore, if_neg fun hboth => hcore hboth.1]
    rfl

theorem updated_connCfg {f : Family} (h : s.connCfg f = b.maxConn f) :
    (updated b f s).connCfg = s.connCfg := by
  unfold updated
  split
  · exact update_connCfg h
  · rfl

/-- In the end both numbers are the parameters, whatever becomes of the updates. -/
theorem init_connCfg (h : isScheduled b = true) (f : Family) :
    (nssCoreInitNss b s).connCfg f = b.maxConn f := by
  rw [nssCoreInitNss_scheduled h]
  split
  · have hipv4 : (updated b .ipv4 (requested b s)).connCfg = (requested b s).connCfg :=
      updated_connCfg (requested_connCfg b s .ipv4)
    rw [updated_connCfg ?_, hipv4]
    · exact requested_connCfg b s f
    · rw [hipv4]
      exact requested_connCfg b s .ipv6
  · exact requested_connCfg b s f

theorem updated_other {f f' : Family} (h : s.connCfg f = b.maxConn f) (hne : f' ≠ f) :
    (updated b f s).updateDone f' = s.updateDone f' ∧
      (updated b f s).accepted f' = s.accepted f' := by
  unfold updated
  split
  · exact update_other h hne
  · exact ⟨rfl, rfl⟩

open Classical in
theorem updated_accepted {f : Family} (hcore : b.nssId = 0) (h : s.connCfg f = b.maxConn f)
    (hpass : connRejected (b.maxConn f) (b.maxConn f + s.connCfg f.other) = false) :
    (updated b f s).accepted f =
      if Acknowledged b s f then b.maxConn f else s.accepted f := by
  unfold updated Acknowledged
  by_cases hdone : s.updateDone f = false
  · rw [if_pos hdone, update_accepted h hpass]
    simp [hcore, hdone]
  · rw [if_neg hdone, if_neg fun hall => hdone hall.2.1]

open Classical in
/-- Parameters that may stand beside each other are accepted where their updates
    are acknowledged. -/
theorem init_accepted (h : isScheduled b = true)
    (hfit : Together (b.maxConn .ipv4) (b.maxConn .ipv6)) (f : Family) :
    (nssCoreInitNss b s).accepted f =
      if Acknowledged b s f then b.maxConn f else s.accepted f := by
  rw [nssCoreInitNss_scheduled h]
  by_cases hcore : b.nssId = 0
  · have hcfg : ∀ f, (updated b .ipv4 (requested b s)).connCfg f = b.maxConn f := by
      intro f
      rw [updated_connCfg (requested_connCfg b s .ipv4)]
      exact requested_connCfg b s f
    have hipv6 : Family.ipv6 ≠ .ipv4 := by decide
    obtain ⟨hdone, hkept⟩ := updated_other (requested_connCfg b s .ipv4) hipv6
    rw [if_pos hcore]
    cases f with
    | ipv4 =>
      rw [(updated_other (hcfg .ipv6) (by decide)).2]
      exact updated_accepted hcore (requested_connCfg b s .ipv4) (together_passes hfit)
    | ipv6 =>
      have hpass : connRejected (b.maxConn .ipv6)
          (b.maxConn .ipv6 + (updated b .ipv4 (requested b s)).connCfg .ipv4) = false := by
        rw [hcfg]
        exact together_passes hfit.symm
      rw [updated_accepted hcore (hcfg .ipv6) hpass, hkept]
      unfold Acknowledged
      rw [hdone]
      rfl
  · rw [if_neg hcore, if_neg fun hack => hcore hack.1]
    rfl

end Bringups

/-- After a bring-up both numbers are the accepted ones and within the bounds
    exactly if the parameters are and the updates are acknowledged or unneeded. -/
theorem init_settled (b : Bringup) (s : Counts) :
    Settled (nssCoreInitNss b s) ↔ Follows b s := by
  unfold Follows
  by_cases hscheduled : isScheduled b = true
  · rw [if_pos hscheduled]
    constructor
    · intro h
      have hfit : Together (b.maxConn .ipv4) (b.maxConn .ipv6) := by
        have htogether := h.together
        rw [← h.equal, ← h.equal, init_connCfg hscheduled, init_connCfg hscheduled] at htogether
        exact htogether
      refine ⟨hfit, fun f => ?_⟩
      have hequal := h.equal f
      rw [init_connCfg hscheduled, init_accepted hscheduled hfit] at hequal
      by_cases hack : Acknowledged b s f
      · exact .inr hack
      · rw [if_neg hack] at hequal
        exact .inl hequal
    · rintro ⟨hfit, heach⟩
      have hequal : ∀ f, (nssCoreInitNss b s).accepted f = b.maxConn f := by
        intro f
        rw [init_accepted hscheduled hfit]
        split
        · rfl
        · rename_i hack
          exact ((heach f).resolve_right hack).symm
      constructor
      · intro f
        rw [init_connCfg hscheduled, hequal]
      · rw [hequal, hequal]
        exact hfit
  · rw [if_neg hscheduled]
    unfold nssCoreInitNss
    rw [if_neg hscheduled]

/-- 4096 connections of each family, as at the start, and no update yet. -/
def defaults : Counts := ⟨fun _ => 4096, fun _ => false, fun _ => 4096⟩

def refused : Bringup :=
  ⟨0, true, fun _ => 2048, fun _ => ⟨true, some .NSS_CMN_RESPONSE_EMSG⟩⟩

/-- The firmware refuses both numbers, and the driver keeps them. -/
theorem init_unsettled :
    ¬ ∀ (b : Bringup) (s : Counts), Settled s → Settled (nssCoreInitNss b s) := by
  intro h
  have hbefore : Settled defaults :=
    ⟨fun _ => rfl, ⟨by decide, by decide⟩, ⟨by decide, by decide⟩, by decide⟩
  have hequal := (h refused defaults hbefore).equal .ipv4
  exact absurd hequal (by decide)

end NssDrv.ConnectionBringup

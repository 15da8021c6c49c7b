import NssDrv.InterfaceSlots

set_option autoImplicit false

/-!
# Runs over the slots of tunnels and ports

Every interface that is registered has one slot with what was reported for it,
as long as the calls keep the slots apart.
-/
namespace NssDrv.SlotAccounts
open TransitionRuns SlotTables HlosInterface InterfaceTables SessionRegistration SessionRuns
open InterfaceSlots
open DynamicInterface (nssIsDynamicInterface)
open CapwapRegistration (dynamic_range)

/-- The slot of a number, by its place. -/
def TunnelAt (s : SlotTop) (n : ℤ) (i : ℕ) : Prop :=
  ∃ x, s.tunStats[i]? = some x ∧ x.valid = true ∧ x.ifNum = n

def PortAt (s : SlotTop) (n : ℕ) (i : ℕ) : Prop :=
  ∃ x, s.nssPortidHdl[i]? = some x ∧ x.ifNum = n

structure TunnelsKept (w : Slots) : Prop where
  one : (∃ x ∈ w.top.tunStats, x.valid = false) → ∀ n, (w.tunnel n).isSome →
    ∃! i, TunnelAt w.top n i
  none : ∀ n i, w.tunnel n = none → ¬ TunnelAt w.top n i
  told : ∀ n i reports, w.tunnel n = some reports → TunnelAt w.top n i →
    nssGreRedirGetStats w.top i = some ⟨n, true, tunnelSum reports⟩

/-- A port number has a slot of its own, so the table is never full. -/
structure PortsKept (w : Slots) : Prop where
  one : ∀ n, (w.port n).isSome → ∃! i, PortAt w.top n i
  none : ∀ n i, n ≠ 0 → w.port n = none → ¬ PortAt w.top n i
  told : ∀ n p reports, w.port n = some (p, reports) →
    nssPortidGetStats w.top n = some (portSum reports)

/-- The query for a number that is not registered. -/
def Untold (w : Slots) (n : ℕ) : Prop := w.port n = none → nssPortidGetStats w.top n = none

/-- What keeps the slots apart: tunnels have dynamic numbers, they are not
    unregistered as ports, a slot that is claimed has no counts, no port is claimed
    for an interface that has one, and as long as a tunnel is without a slot none is
    given up. -/
def Apart (w : Slots) : SlotCall → Prop
  | .greRegister r _ => r.ifNum < NSS_MAX_NET_INTERFACES → (w.top.handlers r.ifNum).cb = 0 →
    nssIsDynamicInterface r.ifNum = true ∧
      ∀ x, w.top.tunStats.find? (fun x => !x.valid) = some x → x.stats = fun _ => 0
  | .greUnregister ifNum => ifNum ≠ NSS_PORTID_INTERFACE ∧
    ((∀ i, ¬ TunnelAt w.top ifNum i) ∨ ∀ n, (w.tunnel n).isSome → ∃ i, TunnelAt w.top n i)
  | .portRegister typed r portId _ => nssPortidVerifyIfNum typed r.ifNum = true →
    ∀ x, w.top.nssPortidHdl[portId]? = some x → x.ifNum = 0 →
      w.port r.ifNum = none ∧ x.stats = fun _ => 0
  | .portUnregister typed ifNum _ => nssPortidVerifyIfNum typed ifNum = true →
    w.tunnel ifNum = none
  | .receive _ => True

variable {w w' : Slots} {s t : SlotTop} {l : SlotCall} {r : IfParams} {ncm : SlotMsg}
variable {ifNum portId : ℕ} {granted : Bool} {typed : ℕ → Bool} {invoked : Invoked}

/-! ## What the calls do -/

theorem greRegister_cases (h : InterfaceSlots.nssGreRedirRegisterIf s r = some (granted, t)) :
    (granted = false ∧ t = s) ∨
    (granted = true ∧ r.ifNum < NSS_MAX_NET_INTERFACES ∧ (s.handlers r.ifNum).cb = 0 ∧
      t.handlers = Function.update s.handlers r.ifNum ⟨Family.greRedir.handler, 0⟩ ∧
      t.tunStats = claimTunnel r.ifNum s.tunStats ∧ t.nssPortidHdl = s.nssPortidHdl) := by
  unfold InterfaceSlots.nssGreRedirRegisterIf SessionRegistration.nssGreRedirRegisterIf
    nssCoreRegisterHandler at h
  by_cases hrange : r.ifNum ≥ NSS_MAX_NET_INTERFACES
  · rw [if_pos hrange] at h
    obtain ⟨rfl, rfl⟩ := Prod.mk.inj (Option.some.inj h)
    exact .inl ⟨rfl, rfl⟩
  · rw [if_neg hrange] at h
    by_cases hcb : (s.handlers r.ifNum).cb ≠ 0
    · rw [if_pos hcb] at h
      obtain ⟨rfl, rfl⟩ := Prod.mk.inj (Option.some.inj h)
      exact .inl ⟨rfl, rfl⟩
    · rw [if_neg hcb] at h
      obtain ⟨rfl, rfl⟩ := Prod.mk.inj (Option.some.inj h)
      exact .inr ⟨rfl, Nat.not_le.mp hrange, not_not.mp hcb, rfl, rfl, rfl⟩

theorem greUnregister_cases (h : InterfaceSlots.nssGreRedirUnregisterIf s ifNum = some t) :
    (NSS_MAX_NET_INTERFACES ≤ ifNum ∧ t = s) ∨
    (t.handlers = Function.update s.handlers ifNum ⟨0, 0⟩ ∧
      t.tunStats = clearTunnel ifNum s.tunStats ∧ t.nssPortidHdl = s.nssPortidHdl) := by
  unfold InterfaceSlots.nssGreRedirUnregisterIf SessionRegistration.nssGreRedirUnregisterIf
    nssCoreUnregisterHandler at h
  by_cases hrange : ifNum ≥ NSS_MAX_NET_INTERFACES
  · rw [if_pos hrange] at h
    exact .inl ⟨hrange, (Option.some.inj h).symm⟩
  · rw [if_neg hrange] at h
    obtain rfl := Option.some.inj h
    exact .inr ⟨rfl, rfl, rfl⟩

theorem portRegister_cases
    (h : nssPortidRegisterPortIf s typed r portId = (granted, t)) :
    (granted = false ∧ t = s) ∨
    ∃ x, granted = true ∧ nssPortidVerifyIfNum typed r.ifNum = true ∧
      s.nssPortidHdl[portId]? = some x ∧ x.ifNum = 0 ∧ t.handlers = s.handlers ∧
      t.tunStats = s.tunStats ∧
      t.nssPortidHdl = s.nssPortidHdl.set portId { x with ifNum := r.ifNum } := by
  unfold nssPortidRegisterPortIf at h
  split at h
  · obtain ⟨rfl, rfl⟩ := Prod.mk.inj h
    exact .inl ⟨rfl, rfl⟩
  · rename_i hverify
    split at h
    · obtain ⟨rfl, rfl⟩ := Prod.mk.inj h
      exact .inl ⟨rfl, rfl⟩
    · rename_i x hx
      split at h
      · obtain ⟨rfl, rfl⟩ := Prod.mk.inj h
        exact .inl ⟨rfl, rfl⟩
      · rename_i hfree
        obtain ⟨rfl, rfl⟩ := Prod.mk.inj h
        exact .inr ⟨x, rfl, Bool.not_eq_false _ ▸ hverify, hx, not_not.mp hfree, rfl, rfl, rfl⟩

theorem portUnregister_cases (h : nssPortidUnregisterPortIf s typed ifNum = (granted, t)) :
    (granted = false ∧ t = s) ∨
    (granted = true ∧ nssPortidVerifyIfNum typed ifNum = true ∧
      t.handlers = (nssCoreUnregisterHandler ifNum s.handlers).2 ∧ t.tunStats = s.tunStats ∧
      t.nssPortidHdl = s.nssPortidHdl.map fun x =>
        if x.ifNum = ifNum then { x with ifNum := 0 } else x) := by
  unfold nssPortidUnregisterPortIf at h
  split at h
  · obtain ⟨rfl, rfl⟩ := Prod.mk.inj h
    exact .inl ⟨rfl, rfl⟩
  · rename_i hverify
    obtain ⟨rfl, rfl⟩ := Prod.mk.inj h
    exact .inr ⟨rfl, Bool.not_eq_false _ ▸ hverify, rfl, rfl, rfl⟩

theorem syncUpdate_others (s : SlotTop) (ncm : SlotMsg) :
    (nssPortidSyncUpdate s ncm).handlers = s.handlers ∧
      (nssPortidSyncUpdate s ncm).tunStats = s.tunStats := by
  unfold nssPortidSyncUpdate
  split
  · exact ⟨rfl, rfl⟩
  split
  · exact ⟨rfl, rfl⟩
  split
  · exact ⟨rfl, rfl⟩
  · exact ⟨rfl, rfl⟩

theorem syncUpdate_length (s : SlotTop) (ncm : SlotMsg) :
    (nssPortidSyncUpdate s ncm).nssPortidHdl.length = s.nssPortidHdl.length := by
  unfold nssPortidSyncUpdate
  split
  · rfl
  split
  · rfl
  split
  · rfl
  · exact List.length_set

theorem afterReceive_tunnel {n : ℤ} :
    ((w.afterReceive ncm t).tunnel n).isSome ↔ (w.tunnel n).isSome := by
  show ((if _ then _ else _ : ℤ → Option _) n).isSome ↔ _
  split
  · by_cases hn : n = ncm.interface
    · subst hn
      rw [Function.update_self, Option.isSome_map]
    · rw [Function.update_of_ne hn]
  · exact Iff.rfl

theorem afterReceive_port {n : ℕ} :
    ((w.afterReceive ncm t).port n).isSome ↔ (w.port n).isSome := by
  show ((if _ then _ else _ : ℕ → Option _) n).isSome ↔ _
  split
  · rw [Option.isSome_map]
  · exact Iff.rfl

theorem verify_dynamic (h : nssPortidVerifyIfNum typed ifNum = true) :
    nssIsDynamicInterface ifNum = true := by
  unfold nssPortidVerifyIfNum at h
  split at h
  · cases h
  · rename_i hdynamic
    exact Bool.not_eq_false _ ▸ hdynamic

section Handlers
variable (hversion : ncm.version = NSS_HLOS_MESSAGE_VERSION) (hlen : ncm.len ≤ ncm.bufLen)
include hversion hlen

theorem greRedir_tables (h : InterfaceSlots.nssGreRedirMsgHandler s ncm = some (t, invoked)) :
    t.handlers = s.handlers ∧ t.nssPortidHdl = s.nssPortidHdl ∧
      (t.tunStats = s.tunStats ∧ ¬ tunnelReport ncm ∨
        tunnelReport ncm ∧ t.tunStats =
          nssGreRedirTunnelUpdateStats ncm.interface s.tunStats ncm.tunnelStats) := by
  unfold InterfaceSlots.nssGreRedirMsgHandler at h
  split at h
  · cases h
  split at h
  · rename_i htype
    obtain ⟨rfl, -⟩ := Prod.mk.inj (Option.some.inj h)
    refine ⟨rfl, rfl, .inl ⟨rfl, fun hreport => ?_⟩⟩
    rw [hreport.2.1] at htype
    exact absurd htype (by decide)
  split at h
  · rename_i hfits
    obtain ⟨rfl, -⟩ := Prod.mk.inj (Option.some.inj h)
    exact ⟨rfl, rfl, .inl ⟨rfl, fun hreport => absurd (hfits.symm.trans hreport.1.2.2) nofun⟩⟩
  · rename_i hfits
    obtain ⟨rfl, -⟩ := Prod.mk.inj (Option.some.inj h)
    by_cases hstats : ncm.type = NSS_GRE_REDIR_RX_STATS_SYNC_MSG ∧
        nssIsDynamicInterface ncm.interface = true
    · rw [if_pos hstats]
      exact ⟨rfl, rfl, .inr ⟨⟨⟨hversion, hlen, Bool.not_eq_false _ ▸ hfits⟩, hstats⟩, rfl⟩⟩
    · rw [if_neg hstats]
      exact ⟨rfl, rfl, .inl ⟨rfl, fun hreport => hstats hreport.2⟩⟩

theorem portid_tables (h : nssPortidHandler s ncm = some (t, invoked)) :
    t.handlers = s.handlers ∧ t.tunStats = s.tunStats ∧
      (t.nssPortidHdl = s.nssPortidHdl ∧ ¬ portReport ncm ∨
        portReport ncm ∧ t.nssPortidHdl = (nssPortidSyncUpdate s ncm).nssPortidHdl) := by
  unfold nssPortidHandler at h
  split at h
  · cases h
  rename_i hinterface
  split at h
  · rename_i htype
    obtain ⟨rfl, -⟩ := Prod.mk.inj (Option.some.inj h)
    refine ⟨rfl, rfl, .inl ⟨rfl, fun hreport => ?_⟩⟩
    rw [hreport.2.1] at htype
    exact absurd htype (by decide)
  split at h
  · rename_i hfits
    obtain ⟨rfl, -⟩ := Prod.mk.inj (Option.some.inj h)
    exact ⟨rfl, rfl, .inl ⟨rfl, fun hreport => absurd (hfits.symm.trans hreport.1.2.2) nofun⟩⟩
  · rename_i hfits
    obtain ⟨rfl, -⟩ := Prod.mk.inj (Option.some.inj h)
    by_cases hstats : ncm.type = NSS_PORTID_STATS_SYNC_MSG
    · rw [if_pos hstats]
      obtain ⟨hhandlers, htunnels⟩ := syncUpdate_others s ncm
      exact ⟨hhandlers, htunnels, .inr ⟨⟨⟨hversion, hlen, Bool.not_eq_false _ ▸ hfits⟩, hstats,
        not_not.mp hinterface⟩, rfl⟩⟩
    · rw [if_neg hstats]
      exact ⟨rfl, rfl, .inl ⟨rfl, fun hreport => hstats hreport.2.1⟩⟩

end Handlers

/-- A message for a tunnel counts where the handler of the tunnels is registered,
    and one for a port where the handler of the ports is. -/
theorem receive_tables
    (h : InterfaceSlots.nssCoreHandleNssStatusPkt s ncm = some (t, invoked)) :
    t.handlers = s.handlers ∧
    (t.tunStats = s.tunStats ∧
        (tunnelReport ncm → (s.handlers ncm.interface).cb ≠ Family.greRedir.handler) ∨
      tunnelReport ncm ∧
        t.tunStats = nssGreRedirTunnelUpdateStats ncm.interface s.tunStats ncm.tunnelStats) ∧
    (t.nssPortidHdl = s.nssPortidHdl ∧
        (portReport ncm → (s.handlers ncm.interface).cb ≠ nssPortidHandlerPtr) ∨
      portReport ncm ∧ t.nssPortidHdl = (nssPortidSyncUpdate s ncm).nssPortidHdl) := by
  unfold InterfaceSlots.nssCoreHandleNssStatusPkt at h
  split at h
  · rename_i hversion
    obtain ⟨rfl, -⟩ := Prod.mk.inj (Option.some.inj h)
    exact ⟨rfl, .inl ⟨rfl, fun hreport => absurd hreport.1.1 hversion⟩,
      .inl ⟨rfl, fun hreport => absurd hreport.1.1 hversion⟩⟩
  rename_i hversion
  split at h
  · rename_i hlen
    obtain ⟨rfl, -⟩ := Prod.mk.inj (Option.some.inj h)
    exact ⟨rfl, .inl ⟨rfl, fun hreport => absurd hreport.1.2.1 (Nat.not_le.mpr hlen)⟩,
      .inl ⟨rfl, fun hreport => absurd hreport.1.2.1 (Nat.not_le.mpr hlen)⟩⟩
  rename_i hlen
  split at h
  · rename_i hrange
    obtain ⟨rfl, -⟩ := Prod.mk.inj (Option.some.inj h)
    refine ⟨rfl, .inl ⟨rfl, fun hreport => ?_⟩, .inl ⟨rfl, fun hreport => ?_⟩⟩
    · exact absurd (dynamic_range hreport.2.2).2 (Nat.not_lt.mpr hrange)
    · rw [hreport.2.2] at hrange
      exact absurd hrange (by decide)
  rename_i hrange
  dsimp only at h
  split at h
  · rename_i hcb
    obtain ⟨hhandlers, htunnels, hports⟩ :=
      portid_tables (not_not.mp hversion) (Nat.not_lt.mp hlen) h
    refine ⟨hhandlers, .inl ⟨htunnels, fun _ => ?_⟩, ?_⟩
    · rw [hcb]
      decide
    · exact hports.imp_left fun hsame => ⟨hsame.1, fun hreport => absurd hreport hsame.2⟩
  rename_i hport
  split at h
  · rename_i hcb
    obtain ⟨hhandlers, hports, htunnels⟩ :=
      greRedir_tables (not_not.mp hversion) (Nat.not_lt.mp hlen) h
    refine ⟨hhandlers, ?_, .inl ⟨hports, fun _ => hport⟩⟩
    exact htunnels.imp_left fun hsame => ⟨hsame.1, fun hreport => absurd hreport hsame.2⟩
  · rename_i hcb
    obtain ⟨rfl, -⟩ := Prod.mk.inj (Option.some.inj h)
    exact ⟨rfl, .inl ⟨rfl, fun _ => hcb⟩, .inl ⟨rfl, fun _ => hport⟩⟩

/-! ## The invariant -/

/-- The tables agree with what was registered, and the handlers are there. -/
structure Kept (w : Slots) : Prop where
  tunnels : TunnelTable w.tunnel w.top.tunStats
  ports : PortTable w.port w.top.nssPortidHdl
  length : w.top.nssPortidHdl.length = NSS_PORTID_MAX_SWITCH_PORT
  dynamic : ∀ n : ℤ, (w.tunnel n).isSome → nssIsDynamicInterface n = true
  handler : ∀ n : ℕ, (w.tunnel n).isSome → (w.top.handlers n).cb = Family.greRedir.handler
  base : (w.top.handlers NSS_PORTID_INTERFACE).cb = nssPortidHandlerPtr
  portDynamic : ∀ n, (w.port n).isSome → nssIsDynamicInterface n = true

theorem isSome_update {α ν : Type} [DecidableEq ν] {f : ν → Option α} {n m : ν} {v : Option α}
    (h : (Function.update f n v m).isSome) : m = n ∧ v.isSome ∨ m ≠ n ∧ (f m).isSome := by
  by_cases hm : m = n
  · subst hm
    rw [Function.update_self] at h
    exact .inl ⟨rfl, h⟩
  · rw [Function.update_of_ne hm] at h
    exact .inr ⟨hm, h⟩

theorem SlotStart.kept (h : SlotStart w) : Kept w := by
  have htunnel : ∀ (i : ℕ) x, w.top.tunStats[i]? = some x → tunnelOwner x = none := by
    intro i x hx
    rw [h.tunStats] at hx
    rw [List.eq_of_mem_replicate (List.mem_of_getElem? hx)]
    rfl
  have hport : ∀ (i : ℕ) x, w.top.nssPortidHdl[i]? = some x → portOwner x = none := by
    intro i x hx
    rw [h.ports] at hx
    rw [List.eq_of_mem_replicate (List.mem_of_getElem? hx)]
    rfl
  have hgiven : ∀ n, w.tunnel n ≠ none → False := fun n hn => hn (h.tunnel n)
  constructor
  · constructor
    · constructor
      · intro i x n hx hn
        cases (htunnel i x hx).symm.trans hn
      · intro i j x y n hx _ hn
        cases (htunnel i x hx).symm.trans hn
    · right
      intro n hn
      rw [tunnelGiven_none (h.tunnel n)] at hn
      cases hn
  · constructor
    · constructor
      · intro i x n hx hn
        cases (hport i x hx).symm.trans hn
      · intro i j x y n hx _ hn
        cases (hport i x hx).symm.trans hn
    · intro n hn
      unfold portGiven at hn
      rw [h.port n] at hn
      cases hn
  · rw [h.ports]
    exact List.length_replicate
  · intro n hn
    rw [h.tunnel n] at hn
    cases hn
  · intro n hn
    rw [h.tunnel n] at hn
    cases hn
  · exact h.handler
  · intro n hn
    rw [h.port n] at hn
    cases hn

section Steps
variable (hw : Kept w)
include hw

theorem Kept.untouched (hn : NSS_MAX_NET_INTERFACES ≤ ifNum) : w.tunnel ifNum = none := by
  rw [← Option.not_isSome_iff_eq_none]
  intro hsome
  have hrange := dynamic_range (hw.dynamic ifNum hsome)
  omega

theorem Kept.greRegister {t : SlotTop}
    (h : InterfaceSlots.nssGreRedirRegisterIf w.top r = some (granted, t))
    (hok : Apart w (.greRegister r granted)) :
    Kept { w with
      top := t
      tunnel := if granted then Function.update w.tunnel r.ifNum (some []) else w.tunnel } := by
  rcases greRegister_cases h with ⟨rfl, rfl⟩ | ⟨rfl, hrange, hfree, hhandlers, htunnels, hports⟩
  · exact hw
  · obtain ⟨hdynamic, hzero⟩ := hok hrange hfree
    have hnew : w.tunnel r.ifNum = none := by
      rw [← Option.not_isSome_iff_eq_none]
      intro hsome
      have hcb := hw.handler _ hsome
      rw [hfree] at hcb
      cases hcb
    rw [if_pos rfl]
    constructor
    · show TunnelTable _ t.tunStats
      rw [htunnels]
      exact hw.tunnels.claim hnew hzero
    · show PortTable _ t.nssPortidHdl
      rw [hports]
      exact hw.ports
    · show t.nssPortidHdl.length = _
      rw [hports]
      exact hw.length
    · intro n hn
      rcases isSome_update hn with ⟨rfl, -⟩ | ⟨-, hn⟩
      · exact hdynamic
      · exact hw.dynamic n hn
    · intro n hn
      show (t.handlers n).cb = _
      rw [hhandlers]
      rcases isSome_update hn with ⟨hn, -⟩ | ⟨hne, hn⟩
      · rw [Int.ofNat.inj hn, Function.update_self]
      · rw [Function.update_of_ne (fun heq => hne (congrArg _ heq))]
        exact hw.handler n hn
    · show (t.handlers _).cb = _
      have hne : NSS_PORTID_INTERFACE ≠ r.ifNum := by
        intro heq
        rw [← heq] at hdynamic
        revert hdynamic
        decide
      rw [hhandlers, Function.update_of_ne hne]
      exact hw.base
    · exact hw.portDynamic

theorem Kept.greUnregister {t : SlotTop}
    (h : InterfaceSlots.nssGreRedirUnregisterIf w.top ifNum = some t)
    (hok : Apart w (.greUnregister ifNum)) :
    Kept { w with top := t, tunnel := Function.update w.tunnel ifNum none } := by
  obtain ⟨hbase, hplaces⟩ := hok
  rcases greUnregister_cases h with ⟨hrange, rfl⟩ | ⟨hhandlers, htunnels, hports⟩
  · rw [Function.update_eq_self_iff.mpr (hw.untouched hrange).symm]
    exact hw
  · have hplaced : (∀ (j : ℕ) x, w.top.tunStats[j]? = some x → tunnelOwner x ≠ some ↑ifNum) ∨
        Placed tunnelOwner (tunnelGiven w.tunnel) w.top.tunStats := by
      refine hplaces.imp (fun hnone j x hx hown => ?_) fun hall n hn => ?_
      · exact hnone j ⟨x, hx, tunnelOwner_some.mp hown⟩
      · unfold tunnelGiven at hn
        rw [Option.isSome_map] at hn
        obtain ⟨i, x, hx, hown⟩ := hall n hn
        exact ⟨i, x, hx, tunnelOwner_some.mpr hown⟩
    constructor
    · show TunnelTable _ t.tunStats
      rw [htunnels]
      exact hw.tunnels.clear hplaced
    · show PortTable _ t.nssPortidHdl
      rw [hports]
      exact hw.ports
    · show t.nssPortidHdl.length = _
      rw [hports]
      exact hw.length
    · intro n hn
      rcases isSome_update hn with ⟨-, hnone⟩ | ⟨-, hn⟩
      · cases hnone
      · exact hw.dynamic n hn
    · intro n hn
      show (t.handlers n).cb = _
      rw [hhandlers]
      rcases isSome_update hn with ⟨-, hnone⟩ | ⟨hne, hn⟩
      · cases hnone
      · rw [Function.update_of_ne (fun heq => hne (congrArg _ heq))]
        exact hw.handler n hn
    · show (t.handlers _).cb = _
      rw [hhandlers, Function.update_of_ne hbase.symm]
      exact hw.base
    · exact hw.portDynamic

theorem Kept.portRegister {t : SlotTop}
    (h : nssPortidRegisterPortIf w.top typed r portId = (granted, t))
    (hok : Apart w (.portRegister typed r portId granted)) :
    Kept { w with
      top := t
      port := if granted then Function.update w.port r.ifNum (some (portId, [])) else w.port } := by
  rcases portRegister_cases h with ⟨rfl, rfl⟩ |
    ⟨x, rfl, hverify, hx, hfree, hhandlers, htunnels, hports⟩
  · exact hw
  · obtain ⟨hnew, hzero⟩ := hok hverify x hx hfree
    have hdynamic := verify_dynamic hverify
    rw [if_pos rfl]
    constructor
    · show TunnelTable _ t.tunStats
      rw [htunnels]
      exact hw.tunnels
    · show PortTable _ t.nssPortidHdl
      rw [hports]
      exact hw.ports.register (dynamic_nonzero hdynamic) hnew hx hfree hzero
    · show t.nssPortidHdl.length = _
      rw [hports, List.length_set]
      exact hw.length
    · exact hw.dynamic
    · intro n hn
      show (t.handlers n).cb = _
      rw [hhandlers]
      exact hw.handler n hn
    · show (t.handlers _).cb = _
      rw [hhandlers]
      exact hw.base
    · intro n hn
      rcases isSome_update hn with ⟨rfl, -⟩ | ⟨-, hn⟩
      · exact hdynamic
      · exact hw.portDynamic n hn

theorem Kept.portUnregister {t : SlotTop}
    (h : nssPortidUnregisterPortIf w.top typed ifNum = (granted, t))
    (hok : Apart w (.portUnregister typed ifNum granted)) :
    Kept { w with
      top := t
      port := if granted then Function.update w.port ifNum none else w.port } := by
  rcases portUnregister_cases h with ⟨rfl, rfl⟩ | ⟨rfl, hverify, hhandlers, htunnels, hports⟩
  · exact hw
  · have hnone := hok hverify
    have hdynamic := verify_dynamic hverify
    rw [if_pos rfl]
    constructor
    · show TunnelTable _ t.tunStats
      rw [htunnels]
      exact hw.tunnels
    · show PortTable _ t.nssPortidHdl
      rw [hports]
      exact hw.ports.unregister
    · show t.nssPortidHdl.length = _
      rw [hports, List.length_map]
      exact hw.length
    · exact hw.dynamic
    · intro n hn
      have hne : n ≠ ifNum := by
        rintro rfl
        have hn : (w.tunnel n).isSome := hn
        rw [hnone] at hn
        cases hn
      show (t.handlers n).cb = _
      rw [hhandlers, unregisterHandler_other hne]
      exact hw.handler n hn
    · have hne : NSS_PORTID_INTERFACE ≠ ifNum := by
        rintro rfl
        revert hdynamic
        decide
      show (t.handlers _).cb = _
      rw [hhandlers, unregisterHandler_other hne]
      exact hw.base
    · intro n hn
      rcases isSome_update hn with ⟨-, hsome⟩ | ⟨-, hn⟩
      · cases hsome
      · exact hw.portDynamic n hn

theorem Kept.sync (ncm : SlotMsg) :
    PortTable (fun n => (w.port n).map (credit ncm.portId ncm.nodeStats))
      (nssPortidSyncUpdate w.top ncm).nssPortidHdl := by
  unfold nssPortidSyncUpdate
  by_cases hbase : ncm.portId = NSS_PORTID_MAX_SWITCH_PORT
  · have hnone : w.top.nssPortidHdl[ncm.portId]? = none := by
      rw [hbase, ← hw.length]
      exact List.getElem?_eq_none (Nat.le_refl _)
    rw [if_pos hbase, hw.ports.unclaimed ncm.nodeStats (p := ncm.portId)]
    · exact hw.ports
    · intro x hx
      cases hnone.symm.trans hx
  · rw [if_neg hbase]
    cases hx : w.top.nssPortidHdl[ncm.portId]? with
    | none =>
      rw [hw.ports.unclaimed ncm.nodeStats (p := ncm.portId)]
      · exact hw.ports
      · intro x hx'
        cases hx.symm.trans hx'
    | some x =>
      dsimp only
      by_cases hfree : x.ifNum = 0
      · rw [if_pos hfree, hw.ports.unclaimed ncm.nodeStats (p := ncm.portId)]
        · exact hw.ports
        · intro y hy
          obtain rfl := Option.some.inj (hx.symm.trans hy)
          exact hfree
      · rw [if_neg hfree]
        exact hw.ports.sync ncm.nodeStats hx hfree

theorem Kept.afterReceive {t : SlotTop}
    (h : InterfaceSlots.nssCoreHandleNssStatusPkt w.top ncm = some (t, invoked)) :
    Kept (w.afterReceive ncm t) := by
  obtain ⟨hhandlers, htunnels, hports⟩ := receive_tables h
  have hbase : (t.handlers NSS_PORTID_INTERFACE).cb = nssPortidHandlerPtr := by
    rw [hhandlers]
    exact hw.base
  constructor
  · show TunnelTable (if _ then _ else _) t.tunStats
    rcases htunnels with ⟨hsame, hother⟩ | ⟨hreport, hsync⟩
    · rw [hsame]
      split
      · rename_i hreport
        have hnone : w.tunnel ncm.interface = none := by
          rw [← Option.not_isSome_iff_eq_none]
          exact fun hsome => hother hreport (hw.handler _ hsome)
        rw [hnone, Option.map_none, Function.update_eq_self_iff.mpr hnone.symm]
        exact hw.tunnels
      · exact hw.tunnels
    · rw [if_pos hreport, hsync]
      exact hw.tunnels.sync ncm.tunnelStats
  · show PortTable (if _ then _ else _) t.nssPortidHdl
    rcases hports with ⟨hsame, hother⟩ | ⟨hreport, hsync⟩
    · have hnot : ¬ portReport ncm := by
        intro hreport
        apply hother hreport
        rw [hreport.2.2]
        exact hw.base
      rw [if_neg hnot, hsame]
      exact hw.ports
    · rw [if_pos hreport, hsync]
      exact hw.sync ncm
  · show t.nssPortidHdl.length = _
    rcases hports with ⟨hsame, -⟩ | ⟨-, hsync⟩
    · rw [hsame]
      exact hw.length
    · rw [hsync, syncUpdate_length]
      exact hw.length
  · intro n hn
    exact hw.dynamic n (afterReceive_tunnel.mp hn)
  · intro n hn
    show (t.handlers n).cb = _
    rw [hhandlers]
    exact hw.handler n (afterReceive_tunnel.mp hn)
  · exact hbase
  · intro n hn
    exact hw.portDynamic n (afterReceive_port.mp hn)

end Steps

theorem Kept.step (hw : Kept w) (hstep : SlotStep w l w') (hok : Apart w l) : Kept w' := by
  cases hstep with
  | greRegister r granted t h => exact hw.greRegister h hok
  | greUnregister ifNum t h => exact hw.greUnregister h hok
  | portRegister typed r portId granted t h => exact hw.portRegister h hok
  | portUnregister typed ifNum done t h => exact hw.portUnregister h hok
  | receive ncm t invoked h => exact hw.afterReceive h

theorem Kept.tunnelsKept (hw : Kept w) : TunnelsKept w := by
  have hgiven : ∀ {n : ℤ}, (w.tunnel n).isSome → (tunnelGiven w.tunnel n).isSome := by
    intro n hn
    unfold tunnelGiven
    rwa [Option.isSome_map]
  constructor
  · rintro ⟨x, hx, hfree⟩ n hn
    have hplaced := hw.tunnels.placed.resolve_left fun hfull => by
      cases hfree.symm.trans (hfull x hx)
    obtain ⟨i, y, hy, hown⟩ := hplaced n (hgiven hn)
    obtain ⟨j, ⟨z, hz, hzn⟩, hunique⟩ := hw.tunnels.held.unique hy hown
    refine ⟨j, ⟨z, hz, tunnelOwner_some.mp hzn⟩, ?_⟩
    rintro k ⟨z', hz', hzn'⟩
    exact hunique k ⟨z', hz', tunnelOwner_some.mpr hzn'⟩
  · rintro n i hnone ⟨x, hx, hown⟩
    exact hw.tunnels.unowned hnone hx (tunnelOwner_some.mpr hown)
  · rintro n i reports hreports ⟨x, hx, hvalid, hnum⟩
    have hvalue := hw.tunnels.held.held i x n hx (tunnelOwner_some.mpr ⟨hvalid, hnum⟩)
    unfold tunnelGiven at hvalue
    rw [hreports, Option.map_some] at hvalue
    have hdynamic : nssIsDynamicInterface n = true := by
      apply hw.dynamic
      rw [hreports]
      rfl
    unfold nssGreRedirGetStats
    rw [hx]
    dsimp only
    rw [if_neg (by rw [hvalid]; exact nofun), hnum, if_neg (by rw [hdynamic]; exact nofun),
      Option.some.inj hvalue, ← hvalid, ← hnum]

theorem Kept.portsKept (hw : Kept w) : PortsKept w := by
  have hnonzero : ∀ {n}, (w.port n).isSome → n ≠ 0 := fun hn => dynamic_nonzero (hw.portDynamic _ hn)
  constructor
  · intro n hn
    obtain ⟨g, hg⟩ := Option.isSome_iff_exists.mp hn
    obtain ⟨x, hx, hown, -⟩ := hw.ports.place hg
    obtain ⟨j, ⟨z, hz, hzn⟩, hunique⟩ := hw.ports.held.unique hx hown
    refine ⟨j, ⟨z, hz, (portOwner_some.mp hzn).1⟩, ?_⟩
    rintro k ⟨z', hz', hzn'⟩
    exact hunique k ⟨z', hz', portOwner_some.mpr ⟨hzn', hnonzero hn⟩⟩
  · rintro n i hn hnone ⟨x, hx, hnum⟩
    have hvalue := hw.ports.held.held i x n hx (portOwner_some.mpr ⟨hnum, hn⟩)
    unfold portGiven at hvalue
    rw [hnone] at hvalue
    cases hvalue
  · intro n p reports hreports
    obtain ⟨x, hx, hown, -⟩ := hw.ports.place hreports
    unfold nssPortidGetStats
    cases hfind : w.top.nssPortidHdl.find? fun x => x.ifNum == n with
    | none =>
      have hnot := List.find?_eq_none.mp hfind x (List.mem_of_getElem? hx)
      exact absurd (beq_iff_eq.mpr (portOwner_some.mp hown).1) hnot
    | some y =>
      obtain ⟨j, hj⟩ := List.getElem?_of_mem (List.mem_of_find?_eq_some hfind)
      have hmatch := List.find?_some (p := fun x : NssPortidHandle => x.ifNum == n) hfind
      have hnum : y.ifNum = n := beq_iff_eq.mp hmatch
      have hvalue := hw.ports.held.held j y n hj
        (portOwner_some.mpr ⟨hnum, (portOwner_some.mp hown).2⟩)
      unfold portGiven at hvalue
      rw [hreports, Option.map_some] at hvalue
      exact congrArg some (congrArg Prod.snd (Option.some.inj hvalue)).symm

theorem Kept.untold_iff (hw : Kept w) (n : ℕ) :
    Untold w n ↔ n ≠ 0 ∨ ∀ x ∈ w.top.nssPortidHdl, x.ifNum ≠ 0 := by
  have hmissing : nssPortidGetStats w.top n = none ↔
      ∀ x ∈ w.top.nssPortidHdl, x.ifNum ≠ n := by
    unfold nssPortidGetStats
    rw [Option.map_eq_none_iff, List.find?_eq_none]
    simp only [beq_iff_eq, ne_eq]
  unfold Untold
  rw [hmissing]
  constructor
  · intro h
    by_cases hn : n = 0
    · subst hn
      right
      apply h
      rw [← Option.not_isSome_iff_eq_none]
      exact fun hsome => dynamic_nonzero (hw.portDynamic 0 hsome) rfl
    · exact .inl hn
  · intro h hnone x hx hnum
    rcases h with hn | hfull
    · obtain ⟨i, hi⟩ := List.getElem?_of_mem hx
      exact hw.portsKept.none n i hn hnone ⟨x, hi, hnum⟩
    · by_cases hn : n = 0
      · exact hfull x hx (hnum.trans hn)
      · obtain ⟨i, hi⟩ := List.getElem?_of_mem hx
        exact hw.portsKept.none n i hn hnone ⟨x, hi, hnum⟩

/-- Every interface that is registered has one slot and is told the sum of its own
    reports, and a number that is not registered is told nothing, unless it is 0 and
    a port is free. -/
theorem slots_kept (h : Reachable SlotStart (Guarded SlotStep Apart) w) :
    TunnelsKept w ∧ PortsKept w ∧
      ∀ n, Untold w n ↔ n ≠ 0 ∨ ∀ x ∈ w.top.nssPortidHdl, x.ifNum ≠ 0 := by
  have hw : Kept w := by
    refine h.invariant Kept (fun w hw => SlotStart.kept hw) ?_
    intro w l w' hw ⟨hstep, hok⟩
    exact hw.step hstep hok
  exact ⟨hw.tunnelsKept, hw.portsKept, hw.untold_iff⟩

def blankSlots : Slots where
  top :=
    { NotifyRouting.blankTop with
      handlers := fun n => if n = NSS_PORTID_INTERFACE then ⟨nssPortidHandlerPtr, 0⟩ else ⟨0, 0⟩
      tunStats := List.replicate NSS_GRE_REDIR_MAX_INTERFACES freeTunnel
      nssPortidHdl := List.replicate NSS_PORTID_MAX_SWITCH_PORT freePort
      portidNode := fun _ => 0
      portidRxInvalidHeader := 0 }
  tunnel := fun _ => none
  port := fun _ => none

theorem blankSlots_start : SlotStart blankSlots :=
  ⟨rfl, rfl, rfl, fun _ => rfl, fun _ => rfl⟩

def tunnelParams (n : ℕ) : IfParams := ⟨n, 1, 5, ⟨9, 3⟩, 0, 0⟩

def fiveReported (n : ℕ) : SlotMsg where
  version := 0
  len := 0
  bufLen := 100
  interface := n
  type := NSS_GRE_REDIR_RX_STATS_SYNC_MSG
  fits := true
  response := .NSS_CMM_RESPONSE_NOTIFY
  cb := 0
  appData := 0
  dtlsStats := fun _ => 0
  pptpStats := fun _ => 0
  tunnelStats := fun _ => 5
  nodeStats := fun _ => 0
  rxInvalidHeader := 0
  portId := 0

theorem counted_run : ∃ w, Reachable SlotStart (Guarded SlotStep Apart) w ∧
    w.tunnel 24 = some [fun _ => 5] ∧ TunnelAt w.top 24 0 := by
  have hstart : Reachable SlotStart (Guarded SlotStep Apart) blankSlots := .start blankSlots_start
  have hclaim : Apart blankSlots (.greRegister (tunnelParams 24) true) := by
    intro _ _
    refine ⟨rfl, fun x hx => ?_⟩
    obtain rfl := Option.some.inj hx
    rfl
  have hone := hstart.next ⟨.greRegister _ (tunnelParams 24) true _ rfl, hclaim⟩
  have htwo := hone.next ⟨.receive _ (fiveReported 24) _ _ rfl, trivial⟩
  exact ⟨_, htwo, rfl, _, rfl, rfl, rfl⟩

theorem slots_kept_counted : ∃ w, w.tunnel 24 = some [fun _ => 5] ∧
    nssGreRedirGetStats w.top 0 = some ⟨24, true, tunnelSum [fun _ => 5]⟩ ∧
    TunnelsKept w ∧ PortsKept w ∧
      ∀ n, Untold w n ↔ n ≠ 0 ∨ ∀ x ∈ w.top.nssPortidHdl, x.ifNum ≠ 0 := by
  obtain ⟨w, hrun, hgiven, hat⟩ := counted_run
  obtain ⟨htunnels, hports, huntold⟩ := slots_kept hrun
  exact ⟨w, hgiven, htunnels.told 24 0 _ hgiven hat, htunnels, hports, huntold⟩

/-- The next owner of a slot is told what was counted for the one before, and the
    number 0 is told the counts of a free port. -/
theorem slots_mixed :
    (¬ ∀ w, Reachable SlotStart SlotStep w → TunnelsKept w) ∧
    ¬ ∀ w, Reachable SlotStart SlotStep w → ∀ n, Untold w n := by
  constructor
  · intro hall
    have hstart : Reachable SlotStart SlotStep blankSlots := .start blankSlots_start
    have hone := hstart.next (.greRegister _ (tunnelParams 24) true _ rfl)
    have htwo := hone.next (.receive _ (fiveReported 24) _ _ rfl)
    have hthree := htwo.next (.greUnregister _ 24 _ rfl)
    have hfour := hthree.next (.greRegister _ (tunnelParams 25) true _ rfl)
    have htold := (hall _ hfour).told 25 0 [] rfl ⟨_, rfl, rfl, rfl⟩
    have hstats := congrArg (Option.map fun x => x.stats .rxPackets) htold
    have hfive : some (5 : U32) = some 0 := hstats
    cases hfive
  · intro hall
    have htold := hall blankSlots (.start blankSlots_start) 0 rfl
    cases htold

end NssDrv.SlotAccounts

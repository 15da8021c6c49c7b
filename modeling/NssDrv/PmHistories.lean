import NssDrv.PmClients
import NssDrv.TransitionRuns

set_option autoImplicit false

/-!
# Histories of the power management

What the levels, the clocks and the handles of the bus driver have to be after each
call, and the calls that keep them so.
-/
namespace NssDrv.PmHistories
open HlosInterface PmClients TransitionRuns

/-- The levels are those of the bus driver, the clocks of a client are on their turbo source
    while its level is turbo, and no handle was used after it was released. -/
structure Consistent (s : PmState) : Prop where
  recorded : ∀ c, s.registered c = true → s.requested c = some (s.client c).currentPerfLvl
  tcm : s.tcmSrcCtl = tcmTurbo ↔ (s.client .netap).currentPerfLvl = .turbo
  ce5 : ∀ k, s.ce5 k = ce5Turbo ↔ (s.client .crypto).currentPerfLvl = .turbo
  handles : s.misused = false

/-- No level is another one, and no clock has changed its source. -/
structure Kept (s t : PmState) : Prop where
  level : ∀ c, (t.client c).currentPerfLvl = (s.client c).currentPerfLvl
  tcm : t.tcmSrcCtl = tcmTurbo ↔ s.tcmSrcCtl = tcmTurbo
  ce5 : t.ce5 = s.ce5

structure Sound (s : PmState) (call : PmCall) : Prop where
  consistent : Consistent (step s call)
  kept : (perform s call).1 = false → Kept s (step s call)

def ClocksOff (s : PmState) : Prop := s.tcmSrcCtl ≠ tcmTurbo ∧ ∀ k, s.ce5 k ≠ ce5Turbo

/-- The switch of the clocks agrees with what becomes of the request. -/
def Switches (s : PmState) (c : NssPmClient) (lvl : NssPmPerfLevel) (granted : Bool) : Prop :=
  let turbo := (s.client c).currentPerfLvl = .turbo
  match c, (s.client c).clientId with
  | .gmac, _ => True
  | _, .gmac => granted = true → lvl ≠ .turbo ∧ ¬ turbo
  | _, .netap => granted = true ∨ turboAsked lvl s = false ∧ ¬ turbo
  | _, .crypto => if turboAsked lvl s then granted = true else granted = true → ¬ turbo

/-- The entry has a handle, and the bus driver knows it. -/
def Usable (s : PmState) (c : NssPmClient) : Prop :=
  ∀ bus, (s.client c).busPerfClient = some bus → s.live bus = true

/-- A client is not registered again while its clocks are on their turbo source, a request that
    is not granted leaves the clocks, and a handle is not given to the bus driver twice. -/
def Proper (s : PmState) : PmCall → Prop
  | .register id bus granted _ => ∀ c, pmClient id = some c → bus = true → granted = true →
      c = .gmac ∨ (s.client c).currentPerfLvl ≠ .turbo
  | .setPerfLevel c lvl granted => (s.client c).currentPerfLvl = lvl ∨
      (s.client c).busPerfClient = none ∨ Usable s c ∧ Switches s c lvl granted
  | .unregister id => ∀ c, pmClient id = some c → Usable s c
  | .setTurbo => True

section Calls
variable {s t : PmState} {c d : NssPmClient} {lvl : NssPmPerfLevel} {bus : ℕ} {granted : Bool}
  {tcm : U32} {ce5 : Ce5Clock → ClkSrc}

theorem level_setLevel : ((s.setLevel c lvl).client d).currentPerfLvl =
    if d = c then lvl else (s.client d).currentPerfLvl := by
  by_cases h : d = c
  · rw [if_pos h, h]
    change (Function.update s.client c _ c).currentPerfLvl = lvl
    rw [Function.update_self]
  · rw [if_neg h]
    change (Function.update s.client c _ d).currentPerfLvl = _
    rw [Function.update_of_ne h]

/-- An entry that is replaced keeps the field `f`. -/
theorem field_update {α : Type} (f : NssPmClientData → α) {entry : NssPmClientData}
    (h : f entry = f (s.client c)) : f (Function.update s.client c entry d) = f (s.client d) := by
  by_cases hd : d = c
  · rw [hd, Function.update_self]
    exact h
  · rw [Function.update_of_ne hd]

theorem level_setBus {b : Option ℕ} : ((s.setBus c b).client d).currentPerfLvl =
    (s.client d).currentPerfLvl := field_update NssPmClientData.currentPerfLvl rfl

theorem level_setId : ((s.setId c).client d).currentPerfLvl = (s.client d).currentPerfLvl :=
  field_update NssPmClientData.currentPerfLvl rfl

theorem id_setBus {b : Option ℕ} : ((s.setBus c b).client d).clientId = (s.client d).clientId :=
  field_update NssPmClientData.clientId rfl

theorem id_setLevel : ((s.setLevel c lvl).client d).clientId = (s.client d).clientId :=
  field_update NssPmClientData.clientId rfl

theorem misused_iff (h : s.misused = false) :
    (s.misused || !s.live bus) = false ↔ s.live bus = true := by
  simp [h]

theorem usable_iff (h : (s.client c).busPerfClient = some bus) :
    Usable s c ↔ s.live bus = true := by
  simp [Usable, h]

/-- The clocks as they have to be with the level of `c` changed. -/
structure Clocked (s : PmState) (c : NssPmClient) (lvl : NssPmPerfLevel) (tcm : U32)
    (ce5 : Ce5Clock → ClkSrc) : Prop where
  tcm : tcm = tcmTurbo ↔
    (if NssPmClient.netap = c then lvl else (s.client .netap).currentPerfLvl) = .turbo
  ce5 : ∀ k, ce5 k = ce5Turbo ↔
    (if NssPmClient.crypto = c then lvl else (s.client .crypto).currentPerfLvl) = .turbo

def switchTo (tcm : U32) (ce5 : Ce5Clock → ClkSrc) (s : PmState) : PmState :=
  { s with tcmSrcCtl := tcm, ce5 := ce5 }

theorem consistent_granted (hs : Consistent s) :
    Consistent (((switchTo tcm ce5 s).busRequest c bus lvl true).setLevel c lvl) ↔
      s.live bus = true ∧ Clocked s c lvl tcm ce5 := by
  constructor
  · intro h
    refine ⟨(misused_iff hs.handles).mp h.handles, ?_, fun k => ?_⟩
    · have htcm := h.tcm
      rwa [level_setLevel] at htcm
    · have hce5 := h.ce5 k
      rwa [level_setLevel] at hce5
  · rintro ⟨hlive, hclocked⟩
    refine ⟨fun d hd => ?_, ?_, fun k => ?_, (misused_iff hs.handles).mpr hlive⟩
    · rw [level_setLevel]
      change Function.update s.requested c (some lvl) d = _
      by_cases h : d = c
      · rw [if_pos h, h, Function.update_self]
      · rw [if_neg h, Function.update_of_ne h]
        exact hs.recorded d hd
    · rw [level_setLevel]
      exact hclocked.tcm
    · rw [level_setLevel]
      exact hclocked.ce5 k

theorem consistent_denied (hs : Consistent s) :
    Consistent ((switchTo tcm ce5 s).busRequest c bus lvl false) ↔ s.live bus = true ∧
      (tcm = tcmTurbo ↔ (s.client .netap).currentPerfLvl = .turbo) ∧
      ∀ k, ce5 k = ce5Turbo ↔ (s.client .crypto).currentPerfLvl = .turbo :=
  ⟨fun h => ⟨(misused_iff hs.handles).mp h.handles, h.tcm, h.ce5⟩,
    fun h => ⟨hs.recorded, h.2.1, h.2.2, (misused_iff hs.handles).mpr h.1⟩⟩

theorem Kept.refl : Kept s s := ⟨fun _ => rfl, Iff.rfl, rfl⟩

/-- The entries name their clients, or the first one where they were never named. -/
def Named (s : PmState) : Prop := ∀ c, (s.client c).clientId = c ∨ (s.client c).clientId = .gmac

def tcmAfter (id : NssPmClient) (lvl : NssPmPerfLevel) (s : PmState) : U32 :=
  match id with
  | .netap => if turboAsked lvl s then tcmTurbo else tcmNominal
  | _ => s.tcmSrcCtl

def ce5After (id : NssPmClient) (lvl : NssPmPerfLevel) (s : PmState) : Ce5Clock → ClkSrc :=
  match id with
  | .crypto => if turboAsked lvl s then fun _ => ce5Turbo else s.ce5
  | _ => s.ce5

def lvlAfter (id : NssPmClient) (lvl : NssPmPerfLevel) (s : PmState) : NssPmPerfLevel :=
  match id with
  | .gmac => lvl
  | .crypto => if turboAsked lvl s then lvl else .nominal
  | .netap => if turboAsked lvl s then lvl else if lvl = .turbo then .nominal else lvl

theorem clientClocks_eq (id : NssPmClient) : clientClocks id lvl s =
    (switchTo (tcmAfter id lvl s) (ce5After id lvl s) s, lvlAfter id lvl s) := by
  cases id with
  | gmac => rfl
  | crypto =>
    unfold clientClocks tcmAfter ce5After lvlAfter
    cases turboAsked lvl s <;> rfl
  | netap =>
    unfold clientClocks tcmAfter ce5After lvlAfter
    cases turboAsked lvl s <;> rfl

theorem ce5After_cases (id : NssPmClient) :
    ce5After id lvl s = s.ce5 ∨ ce5After id lvl s = fun _ => ce5Turbo := by
  unfold ce5After
  split
  · split
    · exact .inr rfl
    · exact .inl rfl
  · exact .inl rfl

theorem turboAsked_turbo (h : turboAsked lvl s = true) : lvl = .turbo := by
  have hboth := Bool.and_eq_true_iff.mp h
  exact of_decide_eq_true hboth.1

theorem same_source {p : Prop} {l l' : NssPmPerfLevel} (hp : p ↔ l = .turbo) (hne : l ≠ l') :
    (p ↔ l' = .turbo) ↔ l' ≠ .turbo ∧ ¬ l = .turbo := by
  constructor
  · intro h
    have hnot : ¬ l = .turbo := fun hl => hne (hl.trans (h.mp (hp.mpr hl)).symm)
    exact ⟨fun hl' => hnot (hp.mp (h.mpr hl')), hnot⟩
  · rintro ⟨hl', hl⟩
    exact ⟨fun h => absurd (hp.mp h) hl, fun h => absurd h hl'⟩

theorem lowered_ne_turbo : (if lvl = .turbo then NssPmPerfLevel.nominal else lvl) ≠ .turbo := by
  split
  · exact nofun
  · assumption

theorem nominal_ne_turbo : tcmNominal ≠ tcmTurbo := by decide

theorem switches_granted (hs : Consistent s) (hnamed : Named s)
    (hne : (s.client c).currentPerfLvl ≠ lvl) :
    Clocked s c (lvlAfter (s.client c).clientId lvl s) (tcmAfter (s.client c).clientId lvl s)
      (ce5After (s.client c).clientId lvl s) ↔ Switches s c lvl true := by
  unfold Switches
  cases c with
  | gmac =>
    have hid : (s.client .gmac).clientId = .gmac := (hnamed .gmac).elim id id
    rw [hid]
    exact iff_of_true ⟨hs.tcm, hs.ce5⟩ trivial
  | netap =>
    rcases hnamed .netap with hid | hid <;> rw [hid]
    · refine iff_of_true ⟨?_, hs.ce5⟩ (.inl rfl)
      unfold tcmAfter lvlAfter
      cases hasked : turboAsked lvl s with
      | true => exact iff_of_true rfl (turboAsked_turbo hasked)
      | false => exact iff_of_false nominal_ne_turbo lowered_ne_turbo
    · have hsame := same_source hs.tcm hne
      exact ⟨fun h _ => hsame.mp h.tcm, fun h => ⟨hsame.mpr (h rfl), hs.ce5⟩⟩
  | crypto =>
    rcases hnamed .crypto with hid | hid <;> rw [hid]
    · unfold ce5After lvlAfter
      cases hasked : turboAsked lvl s with
      | true =>
        exact iff_of_true ⟨hs.tcm, fun _ => iff_of_true rfl (turboAsked_turbo hasked)⟩ rfl
      | false =>
        refine ⟨fun h _ hl => ?_, fun h => ⟨hs.tcm, fun k => ?_⟩⟩
        · exact absurd ((h.ce5 .core).mp ((hs.ce5 .core).mpr hl)) nofun
        · exact iff_of_false (fun hk => h rfl ((hs.ce5 k).mp hk)) nofun
    · refine ⟨fun h _ => (same_source (hs.ce5 .core) hne).mp (h.ce5 .core), fun h => ?_⟩
      exact ⟨hs.tcm, fun k => (same_source (hs.ce5 k) hne).mpr (h rfl)⟩

theorem switches_denied (hs : Consistent s) (hnamed : Named s)
    (hne : (s.client c).currentPerfLvl ≠ lvl) :
    ((tcmAfter (s.client c).clientId lvl s = tcmTurbo ↔
        (s.client .netap).currentPerfLvl = .turbo) ∧
      ∀ k, ce5After (s.client c).clientId lvl s k = ce5Turbo ↔
        (s.client .crypto).currentPerfLvl = .turbo) ↔ Switches s c lvl false := by
  unfold Switches
  cases c with
  | gmac =>
    have hid : (s.client .gmac).clientId = .gmac := (hnamed .gmac).elim id id
    rw [hid]
    exact iff_of_true ⟨hs.tcm, hs.ce5⟩ trivial
  | netap =>
    rcases hnamed .netap with hid | hid <;> rw [hid]
    · unfold tcmAfter
      cases hasked : turboAsked lvl s with
      | true =>
        refine iff_of_false (fun h => hne ?_) (fun h => h.elim nofun fun h => absurd h.1 nofun)
        exact (h.1.mp rfl).trans (turboAsked_turbo hasked).symm
      | false =>
        refine ⟨fun h => .inr ⟨rfl, fun hl => nominal_ne_turbo (h.1.mpr hl)⟩, fun h => ?_⟩
        have hl := (h.resolve_left nofun).2
        exact ⟨iff_of_false nominal_ne_turbo hl, hs.ce5⟩
    · exact iff_of_true ⟨hs.tcm, hs.ce5⟩ nofun
  | crypto =>
    rcases hnamed .crypto with hid | hid <;> rw [hid]
    · unfold ce5After
      cases hasked : turboAsked lvl s with
      | true =>
        refine iff_of_false (fun h => hne ?_) nofun
        exact ((h.2 .core).mp rfl).trans (turboAsked_turbo hasked).symm
      | false => exact iff_of_true ⟨hs.tcm, hs.ce5⟩ nofun
    · exact iff_of_true ⟨hs.tcm, hs.ce5⟩ nofun

theorem sound_of_success {call : PmCall} (h : perform s call = (true, t)) :
    Sound s call ↔ Consistent t := by
  have hstep : step s call = t := congrArg Prod.snd h
  constructor
  · exact fun hsound => hstep ▸ hsound.consistent
  · intro ht
    exact ⟨hstep ▸ ht, fun hfailed => absurd ((congrArg Prod.fst h).symm.trans hfailed) nofun⟩

theorem sound_of_failure {call : PmCall} (h : perform s call = (false, t))
    (hkept : Consistent t → Kept s t) : Sound s call ↔ Consistent t := by
  have hstep : step s call = t := congrArg Prod.snd h
  constructor
  · exact fun hsound => hstep ▸ hsound.consistent
  · exact fun ht => ⟨hstep ▸ ht, fun _ => hstep ▸ hkept ht⟩

theorem setPerfLevel_eq (hne : (s.client c).currentPerfLvl ≠ lvl)
    (hbus : (s.client c).busPerfClient = some bus) :
    perform s (.setPerfLevel c lvl granted) = requestLevel c bus granted
      (switchTo (tcmAfter (s.client c).clientId lvl s) (ce5After (s.client c).clientId lvl s) s,
        lvlAfter (s.client c).clientId lvl s) := by
  change nssPmSetPerfLevel c lvl granted s = _
  unfold nssPmSetPerfLevel
  rw [if_neg hne, hbus, ← clientClocks_eq]

theorem setPerfLevel_iff (hs : Consistent s) (hnamed : Named s) :
    Sound s (.setPerfLevel c lvl granted) ↔ Proper s (.setPerfLevel c lvl granted) := by
  by_cases hsame : (s.client c).currentPerfLvl = lvl
  · have hperform : perform s (.setPerfLevel c lvl granted) = (true, s) := if_pos hsame
    exact iff_of_true ((sound_of_success hperform).mpr hs) (.inl hsame)
  cases hbus : (s.client c).busPerfClient with
  | none =>
    have hperform : perform s (.setPerfLevel c lvl granted) = (false, s) := by
      change nssPmSetPerfLevel c lvl granted s = _
      unfold nssPmSetPerfLevel
      rw [if_neg hsame, hbus]
    exact iff_of_true ((sound_of_failure hperform fun _ => Kept.refl).mpr hs) (.inr (.inl hbus))
  | some bus =>
    have hproper : Proper s (.setPerfLevel c lvl granted) ↔
        s.live bus = true ∧ Switches s c lvl granted := by
      rw [← usable_iff hbus]
      refine ⟨fun h => (h.resolve_left hsame).resolve_left ?_, fun h => .inr (.inr h)⟩
      rw [hbus]
      exact nofun
    rw [hproper]
    cases granted with
    | true =>
      rw [sound_of_success (setPerfLevel_eq hsame hbus), consistent_granted hs,
        switches_granted hs hnamed hsame]
    | false =>
      rw [sound_of_failure (setPerfLevel_eq hsame hbus) fun ht => ?_, consistent_denied hs,
        switches_denied hs hnamed hsame]
      refine ⟨fun _ => rfl, ht.tcm.trans hs.tcm.symm, ?_⟩
      rcases ce5After_cases (s.client c).clientId with hkept | hturbo
      · exact hkept
      · refine hturbo.trans (funext fun k => ((hs.ce5 k).mpr ((ht.ce5 k).mp ?_)).symm)
        exact congrFun hturbo k

theorem Consistent.congr (hs : Consistent s)
    (hlevel : ∀ d, (t.client d).currentPerfLvl = (s.client d).currentPerfLvl)
    (hrequested : t.requested = s.requested) (hregistered : t.registered = s.registered)
    (htcm : t.tcmSrcCtl = s.tcmSrcCtl) (hce5 : t.ce5 = s.ce5) (hmisused : t.misused = false) :
    Consistent t := by
  refine ⟨fun d hd => ?_, ?_, fun k => ?_, hmisused⟩
  · rw [hlevel, hrequested]
    rw [hregistered] at hd
    exact hs.recorded d hd
  · rw [hlevel, htcm]
    exact hs.tcm
  · rw [hlevel, hce5]
    exact hs.ce5 k

theorem live_new : s.busRegister.live s.nextBus = true := Function.update_self _ _ _

theorem register_denied (hs : Consistent s) : Consistent
    (((s.busRegister.setBus c (some s.nextBus)).busRequest c s.nextBus .idle false).busUnregister
      s.nextBus) := by
  refine hs.congr (fun d => level_setBus) rfl rfl rfl rfl ?_
  change (s.misused || !s.busRegister.live s.nextBus || !s.busRegister.live s.nextBus) = false
  rw [hs.handles, live_new]
  rfl

theorem consistent_registered :
    Consistent (((s.busRequest c bus lvl true).setLevel c lvl).setRegistered c true) ↔
      Consistent ((s.busRequest c bus lvl true).setLevel c lvl) := by
  refine ⟨fun h => ⟨fun d hd => ?_, h.tcm, h.ce5, h.handles⟩,
    fun h => ⟨fun d hd => ?_, h.tcm, h.ce5, h.handles⟩⟩
  · refine h.recorded d ?_
    change Function.update s.registered c true d = true
    by_cases hdc : d = c
    · rw [hdc, Function.update_self]
    · rw [Function.update_of_ne hdc]
      exact hd
  · by_cases hdc : d = c
    · rw [hdc]
      change Function.update s.requested c (some lvl) c =
        some ((PmState.setLevel c lvl _).client c).currentPerfLvl
      rw [Function.update_self, level_setLevel, if_pos rfl]
    · refine h.recorded d ?_
      change Function.update s.registered c true d = true at hd
      rwa [Function.update_of_ne hdc] at hd

theorem consistent_setId : Consistent (s.setId c) ↔ Consistent s := by
  constructor
  · exact fun h => h.congr (fun d => level_setId.symm) rfl rfl rfl rfl h.handles
  · exact fun h => h.congr (fun d => level_setId) rfl rfl rfl rfl h.handles

theorem clocked_idle (hs : Consistent s) : Clocked s c .idle s.tcmSrcCtl s.ce5 ↔
    c = .gmac ∨ (s.client c).currentPerfLvl ≠ .turbo := by
  cases c with
  | gmac => exact iff_of_true ⟨hs.tcm, hs.ce5⟩ (.inl rfl)
  | crypto =>
    constructor
    · exact fun h => .inr fun hl => absurd ((h.ce5 .core).mp ((hs.ce5 .core).mpr hl)) nofun
    · intro h
      have hl := h.resolve_left nofun
      exact ⟨hs.tcm, fun k => iff_of_false (fun hk => hl ((hs.ce5 k).mp hk)) nofun⟩
  | netap =>
    constructor
    · exact fun h => .inr fun hl => absurd (h.tcm.mp (hs.tcm.mpr hl)) nofun
    · intro h
      have hl := h.resolve_left nofun
      exact ⟨iff_of_false (fun hk => hl (hs.tcm.mp hk)) nofun, hs.ce5⟩

theorem register_granted (hs : Consistent s) {dir : Bool} :
    Consistent (if dir then
        ((((s.busRegister.setBus c (some s.nextBus)).busRequest c s.nextBus .idle true).setLevel c
          .idle).setRegistered c true).setId c
      else (((s.busRegister.setBus c (some s.nextBus)).busRequest c s.nextBus .idle true).setLevel c
        .idle).setRegistered c true) ↔ c = .gmac ∨ (s.client c).currentPerfLvl ≠ .turbo := by
  have hnew : Consistent (s.busRegister.setBus c (some s.nextBus)) :=
    hs.congr (fun d => level_setBus) rfl rfl rfl rfl hs.handles
  have hready : Consistent ((((s.busRegister.setBus c (some s.nextBus)).busRequest c s.nextBus
      .idle true).setLevel c .idle).setRegistered c true) ↔
      c = .gmac ∨ (s.client c).currentPerfLvl ≠ .turbo := by
    rw [consistent_registered]
    refine (consistent_granted hnew).trans ((and_iff_right live_new).trans ?_)
    refine (clocked_idle hnew).trans (or_congr Iff.rfl (not_congr ?_))
    rw [level_setBus]
    rfl
  cases dir with
  | true => exact consistent_setId.trans hready
  | false => exact hready

theorem register_iff (hs : Consistent s) {id : ℕ} {bus granted dir : Bool} :
    Sound s (.register id bus granted dir) ↔ Proper s (.register id bus granted dir) := by
  have hperform : perform s (.register id bus granted dir) =
      nssPmClientRegister id bus granted dir s := rfl
  unfold nssPmClientRegister at hperform
  cases hid : pmClient id with
  | none =>
    rw [hid] at hperform
    refine iff_of_true ((sound_of_failure hperform fun _ => Kept.refl).mpr hs) fun c hc => ?_
    exact absurd (hid.symm.trans hc) nofun
  | some c =>
    rw [hid] at hperform
    have hproper : Proper s (.register id bus granted dir) ↔
        (bus = true → granted = true → c = .gmac ∨ (s.client c).currentPerfLvl ≠ .turbo) := by
      refine ⟨fun h => h c hid, fun h d hd => ?_⟩
      obtain rfl : c = d := Option.some.inj (hid.symm.trans hd)
      exact h
    rw [hproper]
    cases bus with
    | false =>
      have hkept : Kept s (s.setBus c none) := ⟨fun d => level_setBus, Iff.rfl, rfl⟩
      refine iff_of_true ((sound_of_failure hperform fun _ => hkept).mpr ?_) nofun
      exact hs.congr (fun d => level_setBus) rfl rfl rfl rfl hs.handles
    | true =>
      cases granted with
      | false =>
        refine iff_of_true ((sound_of_failure hperform fun _ => ?_).mpr (register_denied hs))
          fun _ => nofun
        exact ⟨fun d => level_setBus, Iff.rfl, rfl⟩
      | true =>
        rw [sound_of_success hperform]
        exact (register_granted hs).trans ⟨fun h _ _ => h, fun h => h rfl rfl⟩

theorem unregister_iff (hs : Consistent s) {id : ℕ} :
    Sound s (.unregister id) ↔ Proper s (.unregister id) := by
  cases hid : pmClient id with
  | none =>
    have hperform : perform s (.unregister id) = (false, s) := by
      simp only [perform, nssPmClientUnregister, hid]
    refine iff_of_true ((sound_of_failure hperform fun _ => Kept.refl).mpr hs) fun c hc => ?_
    exact absurd (hid.symm.trans hc) nofun
  | some c =>
    have hproper : Proper s (.unregister id) ↔ Usable s c := by
      refine ⟨fun h => h c hid, fun h d hd => ?_⟩
      obtain rfl : c = d := Option.some.inj (hid.symm.trans hd)
      exact h
    rw [hproper]
    have hrecorded : ∀ d, Function.update s.registered c false d = true →
        s.requested d = some (s.client d).currentPerfLvl := by
      intro d hd
      by_cases hdc : d = c
      · rw [hdc, Function.update_self] at hd
        exact absurd hd nofun
      · rw [Function.update_of_ne hdc] at hd
        exact hs.recorded d hd
    cases hbus : (s.client c).busPerfClient with
    | none =>
      have hperform : perform s (.unregister id) = (true, s.setRegistered c false) := by
        simp only [perform, nssPmClientUnregister, hid, hbus]
      refine iff_of_true ((sound_of_success hperform).mpr ?_) fun b hb => ?_
      · exact ⟨hrecorded, hs.tcm, hs.ce5, hs.handles⟩
      · exact absurd (hbus.symm.trans hb) nofun
    | some bus =>
      have hperform : perform s (.unregister id) =
          (true, (s.busUnregister bus).setRegistered c false) := by
        simp only [perform, nssPmClientUnregister, hid, hbus]
      rw [sound_of_success hperform, usable_iff hbus, ← misused_iff hs.handles]
      exact ⟨fun h => h.handles, fun h => ⟨hrecorded, hs.tcm, hs.ce5, h⟩⟩

theorem sound_iff (hs : Consistent s) (hnamed : Named s) (call : PmCall) :
    Sound s call ↔ Proper s call := by
  cases call with
  | register id bus granted dir => exact register_iff hs
  | setPerfLevel c lvl granted => exact setPerfLevel_iff hs hnamed
  | unregister id => exact unregister_iff hs
  | setTurbo =>
    have hperform : perform s .setTurbo = (true, nssPmSetTurbo s) := rfl
    exact iff_of_true ((sound_of_success hperform).mpr ⟨hs.recorded, hs.tcm, hs.ce5, hs.handles⟩)
      trivial

theorem Named.congr (h : Named s) (ht : ∀ d, (t.client d).clientId = (s.client d).clientId) :
    Named t := fun d => (h d).imp (ht d).trans (ht d).trans

theorem Named.setBus (h : Named s) {b : Option ℕ} : Named (s.setBus c b) :=
  h.congr fun _ => id_setBus

theorem Named.setLevel (h : Named s) : Named (s.setLevel c lvl) := h.congr fun _ => id_setLevel

theorem Named.setId (h : Named s) : Named (s.setId c) := by
  intro d
  by_cases hd : d = c
  · left
    rw [hd]
    change (Function.update s.client c _ c).clientId = c
    rw [Function.update_self]
  · have hsame : ((s.setId c).client d).clientId = (s.client d).clientId :=
      congrArg NssPmClientData.clientId (Function.update_of_ne hd _ _)
    exact (h d).imp hsame.trans hsame.trans

theorem register_named (h : Named s) {id : ℕ} {bus granted dir : Bool} :
    Named (nssPmClientRegister id bus granted dir s).2 := by
  unfold nssPmClientRegister
  cases pmClient id with
  | none => exact h
  | some c =>
    have hbus : Named s.busRegister := h
    have hnew : Named (s.busRegister.setBus c (some s.nextBus)) := hbus.setBus
    cases bus with
    | false => exact h.setBus
    | true =>
      cases granted with
      | false => exact hnew
      | true =>
        have hready : Named ((((s.busRegister.setBus c (some s.nextBus)).busRequest c s.nextBus
            .idle true).setLevel c .idle).setRegistered c true) := Named.setLevel (s := _) hnew
        cases dir with
        | false => exact hready
        | true => exact hready.setId

theorem setPerfLevel_named (h : Named s) : Named (nssPmSetPerfLevel c lvl granted s).2 := by
  unfold nssPmSetPerfLevel
  split
  · exact h
  · cases (s.client c).busPerfClient with
    | none => exact h
    | some bus =>
      change Named (requestLevel c bus granted (clientClocks (s.client c).clientId lvl s)).2
      rw [clientClocks_eq]
      cases granted with
      | false => exact h
      | true => exact Named.setLevel (s := _) h

theorem unregister_named (h : Named s) {id : ℕ} : Named (nssPmClientUnregister id s).2 := by
  unfold nssPmClientUnregister
  split
  · exact h
  · split <;> exact h

theorem step_named (h : Named s) (call : PmCall) : Named (step s call) := by
  cases call with
  | register id bus granted dir => exact register_named h
  | setPerfLevel c lvl granted => exact setPerfLevel_named h
  | unregister id => exact unregister_named h
  | setTurbo => exact h

end Calls

theorem init_consistent {tcm : U32} {ce5 : Ce5Clock → ClkSrc} :
    Consistent (nssPmInit tcm ce5) ↔ ClocksOff (nssPmInit tcm ce5) := by
  constructor
  · exact fun h => ⟨fun hon => absurd (h.tcm.mp hon) nofun,
      fun k hon => absurd ((h.ce5 k).mp hon) nofun⟩
  · exact fun h => ⟨nofun, iff_of_false h.1 nofun, fun k => iff_of_false (h.2 k) nofun, rfl⟩

/-- Along a history, the levels, the clocks and the handles are as they have to be just where
    the clocks start off their turbo sources and every call is a proper one. -/
theorem histories_iff (tcm : U32) (ce5 : Ce5Clock → ClkSrc) (calls : List PmCall) :
    (Consistent (nssPmInit tcm ce5) ∧ FoldGuard Sound step calls (nssPmInit tcm ce5)) ↔
      ClocksOff (nssPmInit tcm ce5) ∧ FoldGuard Proper step calls (nssPmInit tcm ce5) := by
  rw [← init_consistent]
  refine and_congr_right fun hstart => ?_
  refine FoldGuard.iff_of_invariant (fun s => Consistent s ∧ Named s)
    (fun s call hs => sound_iff hs.1 hs.2 call)
    (fun s call hs hsound => ⟨hsound.consistent, step_named hs.2 call⟩) ⟨hstart, fun _ => .inr rfl⟩

def ce5Slow : Ce5Clock → ClkSrc := fun _ => ⟨0, 0⟩

/-- A request of the host that is denied has switched the memory to turbo; crypto leaves turbo
    with its clocks there; a handle is released twice; and after the reset of the clocks the
    memory is on turbo while the host is idle. -/
theorem histories_break :
    ¬ FoldGuard Sound step [.setTurbo, .register 2 true true true,
        .setPerfLevel .netap .turbo false] (nssPmInit tcmNominal ce5Slow) ∧
      ¬ FoldGuard Sound step [.setTurbo, .register 1 true true true,
        .setPerfLevel .crypto .turbo true, .setPerfLevel .crypto .nominal true]
        (nssPmInit tcmNominal ce5Slow) ∧
      ¬ FoldGuard Sound step [.register 0 true true true, .unregister 0, .unregister 0]
        (nssPmInit tcmNominal ce5Slow) ∧
      ¬ FoldGuard Sound step [.register 2 true true true] (nssPmInit tcmTurbo ce5Slow) := by
  refine ⟨fun h => ?_, fun h => ?_, fun h => ?_, fun h => ?_⟩
  · have hlevel : NssPmPerfLevel.idle = .turbo := h.2.2.1.consistent.tcm.mp rfl
    exact absurd hlevel nofun
  · have hlevel : NssPmPerfLevel.nominal = .turbo := (h.2.2.2.1.consistent.ce5 .core).mp rfl
    exact absurd hlevel nofun
  · have hmisused : true = false := h.2.2.1.consistent.handles
    exact absurd hmisused nofun
  · have hlevel : NssPmPerfLevel.idle = .turbo := h.1.consistent.tcm.mp rfl
    exact absurd hlevel nofun

end NssDrv.PmHistories

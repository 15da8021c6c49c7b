import NssDrv.ProbeSteps

set_option autoImplicit false

/-!
# What a failed probe gives back

The net_devices, the lines and the NAPI contexts of a core, the ladder of labels
and the whole probe. No label disables a NAPI context.
-/
namespace NssDrv.ProbeUnwinding
open HlosInterface EarlyExit CoreProbe FrequencyTable ProbeSteps

section Staging
variable {hal : Hal} {npd : Platform} {k : Kernel} {s₀ s t : ProbeState} {e : Exit} {st : Step}
  {acq rel : List Resource} {T T' : FreqTable → Prop} {r : Resource}

theorem allocNetdev_refused {i : IntCtx} {l : Label} (h : k.noNetdev i = true) :
    allocNetdev k i l s = .error (.goto l)
      ({ s with ndev := Function.update s.ndev i none }.setErr (-ENOMEM)) := by
  unfold allocNetdev
  rw [h]
  rfl

theorem allocNetdev_done {i : IntCtx} {l : Label} (h : k.noNetdev i = false) :
    allocNetdev k i l s = .ok ()
      ({ s with ndev := Function.update s.ndev i (some s.nextNdev),
                nextNdev := s.nextNdev + 1 }.acquire (.netDevice s.nextNdev)) := by
  unfold allocNetdev
  rw [h]
  rfl

theorem withNdev_some {i : IntCtx} {n : ℕ} {f : ℕ → ProbeState → ProbeState}
    (hn : s.ndev i = some n) : withNdev i f s = .ok () (f n s) := by
  unfold withNdev
  refine (bind_ok rfl).trans ?_
  rw [hn]
  rfl

theorem registerNetdev_refused {i : IntCtx} {l : Label} {err : Errno}
    (h : k.registerNetdev i = some err) :
    registerNetdev k i l s = .error (.goto l) (s.setErr err) := by
  unfold registerNetdev
  rw [h]
  rfl

theorem registerNetdev_done {i : IntCtx} {l : Label} {n : ℕ} (h : k.registerNetdev i = none)
    (hn : s.ndev i = some n) :
    registerNetdev k i l s = .ok () ((s.setErr 0).acquire (.registration n)) := by
  have herr : checked (k.registerNetdev i) l s = .ok () (s.setErr 0) := by
    rw [h]
    rfl
  exact (bind_ok herr).trans (withNdev_some hn)

theorem requestIrq_refused {i : IntCtx} {l : Label} {err : Errno}
    (h : irqAnswer npd k i s.irqHeld = some err) :
    requestIrq npd k i l s = .error (.goto l) (s.setErr err) := by
  refine (bind_ok rfl).trans (bind_error ?_)
  rw [h]
  rfl

theorem requestIrq_done {i : IntCtx} {l : Label} (h : irqAnswer npd k i s.irqHeld = none) :
    requestIrq npd k i l s = .ok ()
      (((s.setErr 0).setHeld (npd.irq i) true).acquire (.interrupt (npd.irq i))) := by
  refine (bind_ok rfl).trans ?_
  rw [h]
  rfl

theorem irqAnswer_isSome {i : IntCtx} {held : ℕ → Bool} :
    (irqAnswer npd k i held).isSome = (held (npd.irq i) || (k.requestIrq i).isSome) := by
  unfold irqAnswer
  cases held (npd.irq i) <;> rfl

def giveBack (rs : List Resource) (t : ProbeState) : ProbeState :=
  { t with released := t.released ++ rs }

theorem giveBack_giveBack {rs rs' : List Resource} :
    giveBack rs' (giveBack rs t) = giveBack (rs ++ rs') t := by
  simp [giveBack]

theorem errInit1_run {n : ℕ} (hn : t.ndev .first = some n) :
    errInit1 hal t = .ok () (giveBack (.netDevice n :: mapped hal) t) := by
  refine (bind_ok (withNdev_some hn)).trans ?_
  unfold mapped
  cases hal.devicetree with
  | true =>
    have hall : giveBack [.mapping .vmap] (giveBack [.mapping .nmap] (giveBack [.netDevice n] t)) =
        giveBack [.netDevice n, .mapping .nmap, .mapping .vmap] t := by
      rw [giveBack_giveBack, giveBack_giveBack]
      rfl
    exact congrArg (EStateM.Result.ok ()) hall
  | false => rfl

theorem errInit2_run {n : ℕ} (hn : t.ndev .first = some n) :
    errInit2 hal t = .ok () (giveBack (.registration n :: .netDevice n :: mapped hal) t) := by
  have hreg : (giveBack [.registration n] t).ndev .first = some n := hn
  refine (bind_ok (withNdev_some hn)).trans ((errInit1_run hreg).trans ?_)
  exact congrArg (EStateM.Result.ok ()) giveBack_giveBack

theorem settle_goto {l : Label} (h : unwind hal npd l t = .ok () s) :
    settle hal npd (.goto l) t = (.failed s.err, s) := by
  change returned (unwind hal npd l t) = _
  rw [h]
  rfl

/-- Net_device 0 is there, and `more` with it. -/
structure Attached (hal : Hal) (npd : Platform) (s₀ : ProbeState) (more : ℕ → List Resource)
    (t : ProbeState) : Prop where
  ndev : ∃ n, t.ndev .first = some n ∧ t.acquired = mapped hal ++ loaded hal ++ more n
  released : t.released = loaded hal
  irqHeld : t.irqHeld = s₀.irqHeld
  again : ∀ u, u.irqHeld = t.irqHeld → u.freqScale = t.freqScale →
    (Probeable hal npd u ↔ Probeable hal npd s₀ ∧ Steady hal npd)

theorem Attached.left {more : ℕ → List Resource} {l : Label} (h : Attached hal npd s₀ more t)
    (hst : undone hal st = true) (hlate : late st = true) (err : Errno)
    (hrun : ∀ n u, u.ndev .first = some n →
      unwind hal npd l u = .ok () (giveBack ((more n).reverse ++ mapped hal) u)) :
    Left hal npd s₀ st (.goto l) (t.setErr err) := by
  obtain ⟨n, hn, hgot⟩ := h.ndev
  refine left_clean hst (settle_goto (hrun n (t.setErr err) hn)) err.2 (fun r => ?_) ?_
  · change (t.released ++ ((more n).reverse ++ mapped hal)).count r = t.acquired.count r
    rw [h.released, hgot]
    simp only [List.count_append, List.count_reverse]
    omega
  · rw [hlate]
    exact (h.again _ rfl rfl).trans ⟨fun hboth => ⟨hboth.1, fun _ => hboth.2⟩,
      fun hboth => ⟨hboth.1, hboth.2 rfl⟩⟩

theorem not_steady (hdt : hal.devicetree = false) : Steady hal npd :=
  fun _ h => absurd (hdt.symm.trans h) nofun

theorem allocNetdev_staged :
    Holding hal npd k s₀ [.netdev .first] (allocNetdev k .first .errInit0) (Booted hal npd s₀)
      (Attached hal npd s₀ fun n => [.netDevice n]) := by
  have hrefuses : refuses hal npd k s₀ (.netdev .first) = k.noNetdev .first := rfl
  refine Staged.step (fun hno s hs => ?_) (fun hyes s hs => ?_)
  · refine ⟨_, _, allocNetdev_refused (hrefuses.symm.trans hno),
      left_mapped rfl rfl rfl ?_ ?_ ?_ fun hdt => ?_⟩
    · change -ENOMEM < 0
      decide
    · change s.acquired = mapped hal ++ s.released
      rw [hs.holds.acquired, hs.holds.released]
    · change _ ∉ s.released
      rw [hs.holds.released]
      exact nmap_loaded
    · exact (hs.again rfl rfl).trans (and_iff_left (not_steady hdt))
  · refine ⟨(), _, allocNetdev_done (hrefuses.symm.trans hyes), ⟨s.nextNdev, ?_, ?_⟩,
      hs.holds.released, hs.holds.irqHeld, fun u hirq htable => hs.again hirq htable⟩
    · change Function.update s.ndev .first (some s.nextNdev) .first = _
      rw [Function.update_self]
    · change s.acquired ++ _ = _
      rw [hs.holds.acquired]

theorem registerNetdev_staged :
    Holding hal npd k s₀ [.register .first] (registerNetdev k .first .errInit1)
      (Attached hal npd s₀ fun n => [.netDevice n])
      (Attached hal npd s₀ fun n => [.netDevice n, .registration n]) := by
  have hrefuses : refuses hal npd k s₀ (.register .first) = (k.registerNetdev .first).isSome := rfl
  refine Staged.step (fun hno s hs => ?_) (fun hyes s hs => ?_)
  · obtain ⟨err, herr⟩ := Option.isSome_iff_exists.mp (hrefuses.symm.trans hno)
    exact ⟨_, _, registerNetdev_refused herr, hs.left rfl rfl err fun n u hn => errInit1_run hn⟩
  · obtain ⟨n, hn, hgot⟩ := hs.ndev
    have hnone : k.registerNetdev .first = none :=
      Option.isNone_iff_eq_none.mp (Option.isSome_eq_false_iff.mp (hrefuses.symm.trans hyes))
    refine ⟨(), _, registerNetdev_done hnone hn, ⟨n, hn, ?_⟩, hs.released, hs.irqHeld, hs.again⟩
    change s.acquired ++ _ = _
    rw [hgot, List.append_assoc]
    rfl

/-- NAPI context 0 is enabled, which no label undoes. -/
structure Running (npd : Platform) (s₀ t : ProbeState) : Prop where
  lost : Lost (.napi .first) t
  err : t.err = 0
  irqHeld : t.irqHeld = Function.update s₀.irqHeld (npd.irq .first) true

theorem requestIrq_staged :
    Holding hal npd k s₀ [.interrupt .first] (do
        requestIrq npd k .first .errInit2
        modify (·.acquire (.napi .first)))
      (Attached hal npd s₀ fun n => [.netDevice n, .registration n]) (Running npd s₀) := by
  have hrefuses : refuses hal npd k s₀ (.interrupt .first) =
      (s₀.irqHeld (npd.irq .first) || (k.requestIrq .first).isSome) :=
    congrArg (· || (k.requestIrq .first).isSome) (Bool.or_false _)
  refine Staged.step (fun hno s hs => ?_) (fun hyes s hs => ?_)
  · have hsome : (irqAnswer npd k .first s.irqHeld).isSome = true := by
      rw [irqAnswer_isSome, hs.irqHeld]
      exact hrefuses.symm.trans hno
    obtain ⟨err, herr⟩ := Option.isSome_iff_exists.mp hsome
    exact ⟨_, _, bind_error (requestIrq_refused herr),
      hs.left rfl rfl err fun n u hn => errInit2_run hn⟩
  · have hnone : irqAnswer npd k .first s.irqHeld = none := by
      rw [← Option.isNone_iff_eq_none, ← Option.isSome_eq_false_iff, irqAnswer_isSome, hs.irqHeld]
      exact hrefuses.symm.trans hyes
    refine ⟨(), _, (bind_ok (requestIrq_done hnone)).trans rfl, ⟨?_, ?_⟩, rfl, ?_⟩
    · exact List.mem_append_right _ (List.mem_singleton_self _)
    · change _ ∉ s.released
      rw [hs.released]
      unfold loaded
      split <;> simp
    · change Function.update s.irqHeld _ true = _
      rw [hs.irqHeld]

theorem bringUp_staged :
    Holding hal npd k s₀ [.netdev .first, .register .first, .interrupt .first]
      (bringUp npd k .first .errInit0 .errInit1 .errInit2) (Booted hal npd s₀) (Running npd s₀) :=
  allocNetdev_staged.bind fun _ => registerNetdev_staged.bind fun _ => requestIrq_staged

/-- The code does not give NAPI context 0 back. -/
def Keeps (p : Walk Unit) : Prop :=
  ∀ t, Lost (.napi .first) t → Ends p t (fun _ u => Lost (.napi .first) u) fun _ _ => True

theorem Keeps.bind {p q : Walk Unit} (hp : Keeps p) (hq : Keeps q) : Keeps (p >>= fun _ => q) := by
  intro t ht
  rw [ends_bind]
  exact (hp t ht).mono (fun _ u hu => hq u hu) fun _ _ h => h

theorem keeps_withNdev {i : IntCtx} (g : ℕ → Resource) (hg : ∀ n, .napi .first ≠ g n) :
    Keeps (withNdev i fun n => .release (g n)) := by
  intro t ht
  cases hn : t.ndev i with
  | none =>
    have hoops : withNdev i (fun n => .release (g n)) t = .error .oops t := by
      refine (bind_ok rfl).trans ?_
      rw [hn]
      rfl
    exact (ends_error hoops).mpr trivial
  | some n => exact (ends_ok (withNdev_some hn)).mpr (ht.release (hg n))

theorem keeps_freeNetdev {i : IntCtx} : Keeps (freeNetdev i) :=
  keeps_withNdev .netDevice fun _ => nofun

theorem keeps_unregisterNetdev {i : IntCtx} : Keeps (unregisterNetdev i) :=
  keeps_withNdev .registration fun _ => nofun

theorem keeps_errInit1 : Keeps (errInit1 hal) := by
  refine Keeps.bind keeps_freeNetdev fun t ht => ?_
  cases hal.devicetree with
  | true =>
    have hnmap : Lost (.napi .first) (t.release (.mapping .nmap)) := ht.release nofun
    have hvmap : Lost (.napi .first) ((t.release (.mapping .nmap)).release (.mapping .vmap)) :=
      hnmap.release nofun
    exact hvmap
  | false => exact ht

theorem keeps_errInit2 : Keeps (errInit2 hal) := keeps_unregisterNetdev.bind keeps_errInit1

theorem keeps_freeIrq {line : ℕ} : Keeps (freeIrq line) := by
  intro t ht
  have hheld : Lost (.napi .first) (t.setHeld line false) := ht
  have hfree : Lost (.napi .first) ((t.setHeld line false).release (.interrupt line)) :=
    hheld.release nofun
  exact hfree

theorem keeps_errInit3 : Keeps (errInit3 hal npd) := keeps_freeIrq.bind keeps_errInit2

theorem keeps_errInit4 : Keeps (errInit4 hal npd) := keeps_freeNetdev.bind keeps_errInit3

theorem unwind_keeps : ∀ l, Keeps (unwind hal npd l)
  | .errInit5 => keeps_unregisterNetdev.bind keeps_errInit4
  | .errInit4 => keeps_errInit4
  | .errInit3 => keeps_errInit3
  | .errInit2 => keeps_errInit2
  | .errInit1 => keeps_errInit1
  | .errInit0 => fun _ ht => ht

theorem left_running {l : Label} (hst : undone hal st = false) (hlost : Lost (.napi .first) t) :
    Left hal npd s₀ st (.goto l) t := by
  have hkeeps : Ends (unwind hal npd l) t (fun _ u => Lost (.napi .first) u) fun _ _ => True :=
    unwind_keeps l t hlost
  cases hrun : unwind hal npd l t with
  | ok _ u => exact left_lost hst (settle_goto hrun) ((ends_ok hrun).mp hkeeps)
  | error _ u =>
    refine left_dirty hst fun hunwound => ?_
    have hsettle : settle hal npd (.goto l) t = (.oops, u) := by
      change returned (unwind hal npd l t) = _
      rw [hrun]
      rfl
    rw [hsettle] at hunwound
    exact hunwound

structure Enabled (t : ProbeState) : Prop where
  lost : Lost (.napi .first) t
  err : t.err = 0

theorem has_second (hirqs : npd.numIrq > 1) : Platform.has npd .second = true :=
  decide_eq_true hirqs

theorem secondNetdev_staged (hirqs : npd.numIrq > 1) :
    Holding hal npd k s₀ [.netdev .second] (allocNetdev k .second .errInit3) (Running npd s₀)
      fun t => (∃ n, t.ndev .second = some n) ∧ Running npd s₀ t := by
  have hrefuses : refuses hal npd k s₀ (.netdev .second) = k.noNetdev .second :=
    congrArg (· && k.noNetdev .second) (has_second hirqs)
  refine Staged.step (fun hno s hs => ?_) (fun hyes s hs => ?_)
  · exact ⟨_, _, allocNetdev_refused (hrefuses.symm.trans hno), left_running rfl hs.lost⟩
  · refine ⟨(), _, allocNetdev_done (hrefuses.symm.trans hyes), ⟨s.nextNdev, ?_⟩,
      Lost.acquire hs.lost, hs.err, hs.irqHeld⟩
    change Function.update s.ndev .second (some s.nextNdev) .second = _
    rw [Function.update_self]

theorem secondRegister_staged (hirqs : npd.numIrq > 1) :
    Holding hal npd k s₀ [.register .second] (registerNetdev k .second .errInit4)
      (fun t => (∃ n, t.ndev .second = some n) ∧ Running npd s₀ t) (Running npd s₀) := by
  have hrefuses : refuses hal npd k s₀ (.register .second) = (k.registerNetdev .second).isSome :=
    congrArg (· && (k.registerNetdev .second).isSome) (has_second hirqs)
  refine Staged.step (fun hno s hs => ?_) (fun hyes s hs => ?_)
  · obtain ⟨err, herr⟩ := Option.isSome_iff_exists.mp (hrefuses.symm.trans hno)
    exact ⟨_, _, registerNetdev_refused herr, left_running rfl hs.2.lost⟩
  · obtain ⟨⟨n, hn⟩, hrunning⟩ := hs
    have hnone : k.registerNetdev .second = none :=
      Option.isNone_iff_eq_none.mp (Option.isSome_eq_false_iff.mp (hrefuses.symm.trans hyes))
    exact ⟨(), _, registerNetdev_done hnone hn, Lost.acquire hrunning.lost, rfl, hrunning.irqHeld⟩

/-- The line of the second interrupt is also held where it is that of the first. -/
theorem Running.line (h : Running npd s₀ t) : t.irqHeld (npd.irq .second) = lineHeld npd s₀ .second := by
  rw [h.irqHeld]
  change _ = (s₀.irqHeld (npd.irq .second) || decide (npd.irq .second = npd.irq .first))
  by_cases hsame : npd.irq .second = npd.irq .first
  · rw [hsame, Function.update_self, decide_eq_true rfl, Bool.or_true]
  · rw [Function.update_of_ne hsame, decide_eq_false hsame, Bool.or_false]

theorem secondIrq_staged (hirqs : npd.numIrq > 1) :
    Holding hal npd k s₀ [.interrupt .second] (do
        requestIrq npd k .second .errInit5
        modify (·.acquire (.napi .second))) (Running npd s₀) Enabled := by
  have hrefuses : refuses hal npd k s₀ (.interrupt .second) =
      (lineHeld npd s₀ .second || (k.requestIrq .second).isSome) :=
    congrArg (· && (lineHeld npd s₀ .second || (k.requestIrq .second).isSome)) (has_second hirqs)
  refine Staged.step (fun hno s hs => ?_) (fun hyes s hs => ?_)
  · have hsome : (irqAnswer npd k .second s.irqHeld).isSome = true := by
      rw [irqAnswer_isSome, hs.line]
      exact hrefuses.symm.trans hno
    obtain ⟨err, herr⟩ := Option.isSome_iff_exists.mp hsome
    exact ⟨_, _, bind_error (requestIrq_refused herr), left_running rfl hs.lost⟩
  · have hnone : irqAnswer npd k .second s.irqHeld = none := by
      rw [← Option.isNone_iff_eq_none, ← Option.isSome_eq_false_iff, irqAnswer_isSome, hs.line]
      exact hrefuses.symm.trans hyes
    exact ⟨(), _, (bind_ok (requestIrq_done hnone)).trans rfl,
      Lost.acquire (Lost.acquire (t := (s.setErr 0).setHeld (npd.irq .second) true) hs.lost), rfl⟩

theorem secondInterrupt_staged :
    Holding hal npd k s₀ [.netdev .second, .register .second, .interrupt .second] (secondInterrupt npd k)
      (Running npd s₀) Enabled := by
  unfold secondInterrupt
  by_cases hirqs : npd.numIrq > 1
  · rw [if_pos hirqs]
    exact (secondNetdev_staged hirqs).bind fun _ => (secondRegister_staged hirqs).bind fun _ =>
      secondIrq_staged hirqs
  · rw [if_neg hirqs]
    refine Staged.skip (Staged.quiet fun s hs => ⟨(), s, rfl, hs.lost, hs.err⟩) ?_
    simp [refuses, Platform.has, hirqs]

theorem Enabled.registerHandler {interface : ℕ} (h : Enabled t) :
    Enabled (t.registerHandler k interface) := by
  unfold ProbeState.registerHandler
  split
  · exact ⟨Lost.acquire h.lost, h.err⟩
  · exact ⟨h.lost, h.err⟩

theorem registerHandlers_staged :
    Holding hal npd k s₀ [] (registerHandlers hal npd k) Enabled Enabled := by
  have hone : ∀ interface : ℕ,
      Holding hal npd k s₀ [] (modify (·.registerHandler k interface)) Enabled Enabled :=
    fun interface => Staged.quiet fun s hs => ⟨(), _, rfl, hs.registerHandler⟩
  have hnone : (registered hal npd).flatMap (fun _ => ([] : List Step)) = [] :=
    List.flatMap_eq_nil_iff.mpr fun _ _ => rfl
  have hall := Staged.forM (registered hal npd) hone
  rwa [hnone] at hall

theorem deassert_staged (hboots : (hal.boots && hal.devicetree) = true) (line : ResetLine) :
    Holding hal npd k s₀ [.reset line] (deassert k line) Enabled Enabled := by
  have hrefuses : refuses hal npd k s₀ (.reset line) = k.noReset line := by
    change (hal.boots && hal.devicetree && _) = _
    rw [hboots, Bool.true_and]
  unfold deassert
  refine Staged.step (fun hno s hs => ?_) (fun hyes s hs => ?_)
  · rw [hrefuses.symm.trans hno]
    exact ⟨_, _, rfl, left_running rfl hs.lost⟩
  · rw [hrefuses.symm.trans hyes]
    exact ⟨(), s, rfl, hs⟩

theorem leaveReset_staged :
    Holding hal npd k s₀ (resetLines.map .reset) (leaveReset hal k) Enabled Enabled :=
  Staged.when (fun hboots => Staged.forM resetLines (deassert_staged hboots))
    fun hskip => ⟨by simp [refuses, hskip], fun s hs => hs⟩

theorem probeBody_staged :
    Holding hal npd k s₀ steps (probeBody hal npd k) (· = s₀.enter) fun t => t.err = 0 := by
  have hlast : Holding hal npd k s₀ [] (modify fun s => { s with numNss := s.numNss + 1 }) Enabled
      fun t => t.err = 0 := Staged.quiet fun s hs => ⟨(), _, rfl, hs.err⟩
  exact commonClocks_staged.bind fun _ => corePlatform_staged.bind fun _ =>
    bootCore_staged.bind fun _ => bringUp_staged.bind fun _ => secondInterrupt_staged.bind fun _ =>
      registerHandlers_staged.bind fun _ => leaveReset_staged.bind fun _ => hlast

theorem probe_ok {a : Unit} (h : probeBody hal npd k s.enter = .ok a t) :
    nssHalProbe hal npd k s = (.done t.err, t) := by
  unfold nssHalProbe
  rw [h]

theorem probe_error (h : probeBody hal npd k s.enter = .error e t) :
    nssHalProbe hal npd k s = settle hal npd e t := by
  unfold nssHalProbe
  rw [h]

theorem settle_not_done {err : ℤ} : (settle hal npd e t).1 ≠ .done err := by
  cases e with
  | goto l =>
    change (returned (unwind hal npd l t)).1 ≠ _
    cases unwind hal npd l t <;> nofun
  | ret err => nofun
  | oops => nofun

theorem done_iff : (∃ t, nssHalProbe hal npd k s = (.done 0, t)) ↔
    steps.find? (refuses hal npd k s) = none := by
  have hends := @probeBody_staged hal npd k s s.enter rfl
  cases hbody : probeBody hal npd k s.enter with
  | ok a t =>
    obtain ⟨hnone, herr⟩ := (ends_ok hbody).mp hends
    exact iff_of_true ⟨t, (probe_ok hbody).trans (by rw [herr])⟩ hnone
  | error e t =>
    obtain ⟨st, hfind, -⟩ := (ends_error hbody).mp hends
    refine iff_of_false (fun hdone => ?_) (by simp [hfind])
    obtain ⟨u, hu⟩ := hdone
    exact settle_not_done (congrArg Prod.fst ((probe_error hbody).symm.trans hu))

end Staging

def willing : Kernel where
  noTcmSrc := false
  noTcmClk := false
  noNode := false
  noPdata := false
  noProperty := false
  noNphys := false
  noVphys := false
  noNmap := false
  noVmap := false
  irqUnmapped := fun _ => false
  requestFirmware := none
  noLoadMem := false
  coreClk := none
  setRate := fun _ => true
  noNetdev := fun _ => false
  registerNetdev := fun _ => none
  requestIrq := fun _ => none
  noReset := fun _ => false
  rxMsgHandler := fun _ => 1

section Main
variable {hal : Hal} {npd : Platform} {k : Kernel} {s : ProbeState}

theorem probeable_of_done (h : steps.find? (refuses hal npd k s) = none) :
    Probeable hal npd s := by
  have hnone : ∀ st ∈ steps, refuses hal npd k s st = false := by simpa using h
  have hcore := hnone .core (by decide)
  have himage := hnone .image (by decide)
  have htable := hnone .frequencies (by decide)
  refine ⟨by simpa [refuses] using hcore, fun hboots => ?_, fun hboots hid hgiven => ?_,
    fun i hi => ?_⟩
  · simpa [refuses, hboots] using himage
  · simpa [refuses, hboots, hid, hgiven] using htable
  · have hmem : Step.interrupt i ∈ steps := by cases i <;> decide
    have hline := hnone (.interrupt i) hmem
    have hfree : lineHeld npd s i = false ∧ (k.requestIrq i).isSome = false := by
      simpa [refuses, hi] using hline
    exact hfree.1

theorem queryWorks_willing : queryWorks npd willing = true := by
  unfold queryWorks willing
  cases npd.turboFrequency <;> rfl

theorem willing_grants (h : Probeable hal npd s) (st : Step) :
    refuses hal npd willing s st = false := by
  obtain ⟨hid, himage, htable, hlines⟩ := h
  cases st with
  | core => exact decide_eq_false (Nat.not_le.mpr hid)
  | image =>
    cases hboots : hal.boots with
    | true => simpa [refuses, hboots] using himage hboots
    | false => simp [refuses, hboots]
  | frequencies =>
    cases hboots : hal.boots with
    | true =>
      have hknown := htable hboots
      simp only [refuses, queryWorks_willing, hboots]
      simpa using hknown
    | false => simp [refuses, hboots]
  | interrupt i =>
    cases hi : Platform.has npd i with
    | true => simp [refuses, hi, hlines i hi, willing]
    | false => simp [refuses, hi]
  | common | node | properties | resources | firmware | loadMem | coreClk => simp [refuses, willing]
  | netdev i | register i => simp [refuses, willing]
  | reset line => simp [refuses, willing]

theorem willing_done (h : Probeable hal npd s) :
    steps.find? (refuses hal npd willing s) = none := by
  simpa using fun st _ => willing_grants h st

theorem canSucceed_iff : CanSucceed hal npd s ↔ Probeable hal npd s := by
  unfold CanSucceed
  simp only [done_iff]
  exact ⟨fun ⟨k, hk⟩ => probeable_of_done hk, fun h => ⟨willing, willing_done h⟩⟩

/-- A probe that fails returns an error, gives back what it got and leaves the way free just
    where the step that refuses is one of a few, and the platform can be probed at all. -/
theorem probe_unwinds_iff : Unwound (CanSucceed hal npd) (nssHalProbe hal npd k s) ↔
    ∀ st, steps.find? (refuses hal npd k s) = some st → Clean hal npd s st := by
  have hlater : CanSucceed hal npd = Probeable hal npd := funext fun t => propext canSucceed_iff
  rw [hlater]
  have hends := @probeBody_staged hal npd k s s.enter rfl
  cases hbody : probeBody hal npd k s.enter with
  | ok a t =>
    obtain ⟨hnone, -⟩ := (ends_ok hbody).mp hends
    rw [probe_ok hbody]
    exact iff_of_true trivial fun st hst => absurd (hnone.symm.trans hst) nofun
  | error e t =>
    obtain ⟨st, hfind, hleft⟩ := (ends_error hbody).mp hends
    rw [probe_error hbody, hfind]
    refine Iff.trans hleft ⟨fun h st' hst' => ?_, fun h => h st rfl⟩
    cases hst'
    exact h

end Main

/-- Core 0 of a board whose firmware image has been cut off. -/
def shortImage : Platform where
  id := 0
  numIrq := 1
  oneOrTwo := .inl rfl
  irq := fun i => if i = .first then 40 else 41
  turboFrequency := false
  lowFrequency := none
  midFrequency := none
  maxFrequency := none
  enabled := fun _ => false
  imageSize := 4096

def atBoot : ProbeState where
  commonInitDone := false
  freqScale := fun _ => ⟨0, 0, 0⟩
  ndev := fun _ => none
  nextNdev := 0
  irqHeld := fun _ => false
  handlers := fun _ => ⟨0, 0⟩
  numNss := 0
  err := 0
  acquired := []
  released := []

/-- The probe of a core with a truncated image returns 0, and keeps the image. -/
theorem truncated_image : ¬ ∀ (hal : Hal) (npd : Platform) (k : Kernel) (s : ProbeState),
    Unwound (CanSucceed hal npd) (nssHalProbe hal npd k s) := by
  intro h
  have hshort : nssHalProbe (.ipq806x true false true) shortImage willing atBoot =
      (.failed 0, { atBoot with
        commonInitDone := true
        acquired := [.mapping .nmap, .mapping .vmap, .firmware] }) := rfl
  have hunwound := h (.ipq806x true false true) shortImage willing atBoot
  rw [hshort] at hunwound
  exact absurd hunwound.1 (by decide)

end NssDrv.ProbeUnwinding

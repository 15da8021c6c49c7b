import NssDrv.FrequencyTable

set_option autoImplicit false

/-!
# The steps of a probe

The steps that can refuse, what a probe has to leave for each of them, and the
steps up to the net_devices. The table of frequencies outlives the call, so a
probe that is stopped late can find other frequencies the next time.
-/
namespace NssDrv.ProbeSteps
open HlosInterface EarlyExit CoreProbe FrequencyTable
open FrequencyScaling (NssScaleInfo)

inductive Step where
  | common
  | node
  | properties
  | core
  | resources
  | firmware
  | image
  | loadMem
  | coreClk
  | frequencies
  | netdev (i : IntCtx)
  | register (i : IntCtx)
  | interrupt (i : IntCtx)
  | reset (line : ResetLine)
  deriving DecidableEq

def steps : List Step :=
  [.common, .node, .properties, .core, .resources, .firmware, .image, .loadMem, .coreClk,
    .frequencies, .netdev .first, .register .first, .interrupt .first, .netdev .second,
    .register .second, .interrupt .second] ++ resetLines.map .reset

section Steps
variable (hal : Hal) (npd : Platform) (k : Kernel) (s : ProbeState)

def tableRead : FreqTable :=
  if hal.boots && hal.devicetree then readFrequencies npd s.freqScale else s.freqScale

/-- The core has interrupt `i`. -/
def Platform.has (i : IntCtx) : Bool := i = .first || decide (npd.numIrq > 1)

/-- The line of interrupt `i` is held before the probe requests it. -/
def lineHeld (i : IntCtx) : Bool :=
  s.irqHeld (npd.irq i) || (i = .second && npd.irq .second = npd.irq .first)

/-- The step is reached if no earlier one refuses, and refuses then. -/
def refuses : Step → Bool
  | .common => hal.boots && hal.devicetree && !s.commonInitDone && (k.noTcmSrc || k.noTcmClk)
  | .node => hal.devicetree && k.noNode
  | .properties => hal.devicetree && (k.noPdata || k.noProperty)
  | .core => decide (NSS_MAX_CORES ≤ npd.id)
  | .resources => hal.devicetree && (k.noNphys || k.noVphys || k.noNmap || k.noVmap ||
      k.irqUnmapped .first || (decide (npd.numIrq > 1) && k.irqUnmapped .second))
  | .firmware => hal.boots && k.requestFirmware.isSome
  | .image => hal.boots && decide (npd.imageSize < MIN_IMG_SIZE)
  | .loadMem => hal.boots && k.noLoadMem
  | .coreClk => hal.boots && npd.id = 0 && k.coreClk.isSome
  | .frequencies => hal.boots && npd.id = 0 &&
      !(if tableGiven (tableRead hal npd s) then tableKnown (tableRead hal npd s)
        else queryWorks npd k)
  | .netdev i => Platform.has npd i && k.noNetdev i
  | .register i => Platform.has npd i && (k.registerNetdev i).isSome
  | .interrupt i => Platform.has npd i && (lineHeld npd s i || (k.requestIrq i).isSome)
  | .reset line => hal.boots && hal.devicetree && k.noReset line

/-- The step whose refusal gives back all that the probe has. -/
def undone : Step → Bool
  | .common | .node | .properties | .resources | .register .first | .interrupt .first => true
  | .firmware | .coreClk | .netdev .first => !hal.devicetree
  | _ => false

/-- Where the table of frequencies is not what the probe has found. -/
def late : Step → Bool
  | .register _ | .interrupt _ => true
  | _ => false

/-- A probe of the platform can succeed: the core exists, its image is whole, its table is
    known or incomplete, and its lines are free. -/
def Probeable : Prop :=
  npd.id < NSS_MAX_CORES ∧ (hal.boots = true → MIN_IMG_SIZE ≤ npd.imageSize) ∧
    (hal.boots = true → npd.id = 0 → tableGiven (tableRead hal npd s) = true →
      tableKnown (tableRead hal npd s) = true) ∧
    ∀ i, Platform.has npd i = true → lineHeld npd s i = false

/-- The frequencies of the node fit the ones that the driver asks the clock for. -/
def Steady : Prop :=
  hal.boots = true → hal.devicetree = true → npd.id = 0 →
    (∀ i ∈ scales, property npd i ≠ some 0) → ∀ i ∈ scales, ∀ f, property npd i = some f → Known f

def Clean (st : Step) : Prop :=
  undone hal st = true ∧ Probeable hal npd s ∧ (late st = true → Steady hal npd)

end Steps

/-- How a probe has to end: where it fails, with an error, each resource given back as often
    as it was got, and a state that suits `later`. -/
def Unwound (later : ProbeState → Prop) : Outcome × ProbeState → Prop
  | (.done _, _) => True
  | (.failed e, t) => e < 0 ∧ (∀ r, t.released.count r = t.acquired.count r) ∧ later t
  | (.oops, _) => False

/-- A later probe of the platform brings the core out of reset. -/
def CanSucceed (hal : Hal) (npd : Platform) (s : ProbeState) : Prop :=
  ∃ k t, nssHalProbe hal npd k s = (.done 0, t)

section Staging
variable {hal : Hal} {npd : Platform} {k : Kernel} {s₀ s t : ProbeState} {e : Exit} {st : Step}
  {acq rel : List Resource} {T T' : FreqTable → Prop} {r : Resource}

def Left (hal : Hal) (npd : Platform) (s₀ : ProbeState) (st : Step) (e : Exit) (t : ProbeState) :
    Prop :=
  Unwound (Probeable hal npd) (settle hal npd e t) ↔ Clean hal npd s₀ st

/-- The probe has got and given back these resources, and its table is as `T` says. -/
structure Holds (s₀ : ProbeState) (acq rel : List Resource) (T : FreqTable → Prop)
    (t : ProbeState) : Prop where
  err : t.err = 0
  acquired : t.acquired = acq
  released : t.released = rel
  irqHeld : t.irqHeld = s₀.irqHeld
  table : T t.freqScale

/-- A resource that the probe has got and never gives back. -/
def Lost (r : Resource) (t : ProbeState) : Prop := r ∈ t.acquired ∧ r ∉ t.released

theorem Lost.unbalanced (h : Lost r t) : ¬ ∀ r, t.released.count r = t.acquired.count r := by
  intro hcount
  have hgot : 0 < t.acquired.count r := List.count_pos_iff.mpr h.1
  rw [← hcount r, List.count_eq_zero.mpr h.2] at hgot
  exact Nat.lt_irrefl 0 hgot

theorem Lost.acquire {r' : Resource} (h : Lost r t) : Lost r (t.acquire r') :=
  ⟨List.mem_append_left _ h.1, h.2⟩

theorem Lost.release {r' : Resource} (h : Lost r t) (hr : r ≠ r') : Lost r (t.release r') := by
  refine ⟨h.1, fun hmem => ?_⟩
  rcases List.mem_append.mp hmem with hold | hnew
  · exact h.2 hold
  · exact hr (List.mem_singleton.mp hnew)

theorem left_dirty (hst : undone hal st = false)
    (h : ¬ Unwound (Probeable hal npd) (settle hal npd e t)) : Left hal npd s₀ st e t := by
  exact iff_of_false h fun hclean => absurd (hst.symm.trans hclean.1) nofun

theorem left_lost {err : ℤ} (hst : undone hal st = false)
    (hsettle : settle hal npd e t = (.failed err, s)) (hlost : Lost r s) :
    Left hal npd s₀ st e t := by
  refine left_dirty hst fun hunwound => ?_
  rw [hsettle] at hunwound
  exact hlost.unbalanced hunwound.2.1

theorem left_zero (hst : undone hal st = false) (hsettle : settle hal npd e t = (.failed 0, s)) :
    Left hal npd s₀ st e t := by
  refine left_dirty hst fun hunwound => ?_
  rw [hsettle] at hunwound
  exact absurd hunwound.1 (by decide)

theorem left_clean {err : ℤ} (hst : undone hal st = true)
    (hsettle : settle hal npd e t = (.failed err, s)) (herr : err < 0)
    (hcount : ∀ r, s.released.count r = s.acquired.count r)
    (hagain : Probeable hal npd s ↔ Probeable hal npd s₀ ∧ (late st = true → Steady hal npd)) :
    Left hal npd s₀ st e t := by
  unfold Left Clean
  rw [hsettle]
  change err < 0 ∧ (∀ r, s.released.count r = s.acquired.count r) ∧ Probeable hal npd s ↔ _
  exact ⟨fun h => ⟨hst, hagain.mp h.2.2⟩, fun h => ⟨herr, hcount, hagain.mpr h.2⟩⟩

theorem lineHeld_congr (h : t.irqHeld = s.irqHeld) : lineHeld npd t = lineHeld npd s := by
  unfold lineHeld
  rw [h]

theorem probeable_congr (hirq : t.irqHeld = s.irqHeld)
    (htable : SameScales (tableRead hal npd t) (tableRead hal npd s)) :
    Probeable hal npd t ↔ Probeable hal npd s := by
  unfold Probeable
  rw [htable.given, htable.known, lineHeld_congr hirq]

theorem read_of_eq (h : t.freqScale = s.freqScale) :
    SameScales (tableRead hal npd t) (tableRead hal npd s) := by
  unfold tableRead
  rw [h]
  exact same_refl

theorem read_of_read (h : t.freqScale = tableRead hal npd s) :
    SameScales (tableRead hal npd t) (tableRead hal npd s) := by
  unfold tableRead at h ⊢
  rw [h]
  split
  · exact read_again
  · exact same_refl

theorem probeable_late (hirq : t.irqHeld = s₀.irqHeld)
    (htable : hal.boots = true → npd.id = 0 → AllKnown t.freqScale)
    (hpassed : hal.boots = true → npd.id = 0 → tableGiven (tableRead hal npd s₀) = true →
      tableKnown (tableRead hal npd s₀) = true) :
    Probeable hal npd t ↔ Probeable hal npd s₀ ∧ Steady hal npd := by
  unfold Probeable
  rw [lineHeld_congr hirq]
  have hsteady : (hal.boots = true → npd.id = 0 → tableGiven (tableRead hal npd t) = true →
      tableKnown (tableRead hal npd t) = true) ↔ Steady hal npd := by
    unfold Steady
    refine forall_congr' fun hboots => ?_
    cases hdt : hal.devicetree with
    | false =>
      have hread : tableRead hal npd t = t.freqScale := by
        unfold tableRead
        rw [hdt, Bool.and_false]
        rfl
      rw [hread]
      exact iff_of_true (fun hid _ => (usable_of_known (htable hboots hid)).2) nofun
    | true =>
      have hread : tableRead hal npd t = readFrequencies npd t.freqScale := by
        unfold tableRead
        rw [hdt, hboots]
        rfl
      rw [hread]
      refine Iff.trans (forall_congr' fun hid => ?_) ⟨fun h _ => h, fun h => h rfl⟩
      rw [given_read (htable hboots hid)]
      exact forall_congr' fun hgiven => known_read (htable hboots hid) hgiven
  rw [hsteady]
  constructor
  · rintro ⟨hid, himage, hst, hlines⟩
    exact ⟨⟨hid, himage, hpassed, hlines⟩, hst⟩
  · rintro ⟨⟨hid, himage, -, hlines⟩, hst⟩
    exact ⟨hid, himage, hst, hlines⟩

abbrev Holding (hal : Hal) (npd : Platform) (k : Kernel) (s₀ : ProbeState) (which : List Step)
    (p : Walk Unit) (P Q : ProbeState → Prop) : Prop :=
  Staged (refuses hal npd k s₀) (Left hal npd s₀) which p P fun _ => Q

theorem commonInit_refused (h : (k.noTcmSrc || k.noTcmClk) = true) :
    commonInit k s = .error (.ret (-EFAULT)) s := by
  cases hsrc : k.noTcmSrc with
  | true => exact refuse_off hsrc
  | false =>
    have hclk : k.noTcmClk = true := by simpa [hsrc] using h
    exact (refuse_on hsrc).trans (refuse_off hclk)

theorem commonInit_done (h : (k.noTcmSrc || k.noTcmClk) = false) :
    commonInit k s = .ok () { s with commonInitDone := true } := by
  have hnone : k.noTcmSrc = false ∧ k.noTcmClk = false := by simpa using h
  exact (refuse_on hnone.1).trans (refuse_on hnone.2)

theorem commonClocks_staged :
    Holding hal npd k s₀ [.common] (commonClocks hal k) (· = s₀.enter)
      (Holds s₀ [] [] (· = s₀.freqScale)) := by
  refine Staged.step (fun hno s hs => ?_) (fun hyes s hs => ?_)
  · subst hs
    obtain ⟨hfirst, hclk⟩ := Bool.and_eq_true_iff.mp hno
    refine ⟨.ret (-EFAULT), s₀.enter, ?_, ?_⟩
    · exact Eq.trans (congrFun (if_pos hfirst) _) (commonInit_refused hclk)
    · exact left_clean rfl rfl (by decide) (fun r => rfl)
        ((probeable_congr rfl (read_of_eq rfl)).trans (and_iff_left nofun).symm)
  · subst hs
    refine ⟨(), ?_⟩
    cases hfirst : hal.boots && hal.devicetree && !s₀.commonInitDone with
    | false => exact ⟨s₀.enter, congrFun (if_neg (Bool.eq_false_iff.mp hfirst)) _,
        ⟨rfl, rfl, rfl, rfl, rfl⟩⟩
    | true =>
      have hclk : (k.noTcmSrc || k.noTcmClk) = false := by
        have hboth := hyes
        unfold refuses at hboth
        rwa [hfirst] at hboth
      exact ⟨_, Eq.trans (congrFun (if_pos hfirst) _) (commonInit_done hclk),
        ⟨rfl, rfl, rfl, rfl, rfl⟩⟩

def mapped (hal : Hal) : List Resource :=
  if hal.devicetree then [.mapping .nmap, .mapping .vmap] else []

def nodeRead (hal : Hal) (npd : Platform) (s : ProbeState) : ProbeState :=
  s.onTable fun table => if hal.boots then readFrequencies npd table else table

theorem pdata_properties (h : (k.noPdata || k.noProperty) = true) :
    nssHalOfGetPdata hal npd k s = .ok false s := by
  unfold nssHalOfGetPdata
  cases hpdata : k.noPdata with
  | true => rfl
  | false =>
    have hproperty : k.noProperty = true := by simpa [hpdata] using h
    rw [hproperty]
    rfl

theorem pdata_rest (h : (k.noPdata || k.noProperty) = false) :
    nssHalOfGetPdata hal npd k s = (coreInstance npd >>= fun _ =>
      if k.noNphys || k.noVphys then pdataOut []
      else if k.noNmap then pdataOut []
      else do
        modify (·.acquire (.mapping .nmap))
        if k.noVmap then pdataOut [.nmap]
        else
          modify (·.acquire (.mapping .vmap))
          if k.irqUnmapped .first || (decide (npd.numIrq > 1) && k.irqUnmapped .second) then
            pdataOut [.nmap, .vmap]
          else return true) (nodeRead hal npd s) := by
  have hboth : k.noPdata = false ∧ k.noProperty = false := by simpa using h
  unfold nssHalOfGetPdata
  rw [hboth.1, hboth.2]
  rfl

theorem coreInstance_off (h : NSS_MAX_CORES ≤ npd.id) : coreInstance npd s = .error .oops s :=
  congrFun (if_pos (decide_eq_true h)) s

theorem coreInstance_on (h : npd.id < NSS_MAX_CORES) : coreInstance npd s = .ok () s :=
  congrFun (if_neg (Bool.eq_false_iff.mp (decide_eq_false (Nat.not_le.mpr h)))) s

def noResources (npd : Platform) (k : Kernel) : Bool :=
  k.noNphys || k.noVphys || k.noNmap || k.noVmap || k.irqUnmapped .first ||
    (decide (npd.numIrq > 1) && k.irqUnmapped .second)

/-- With the same resources added to what was got and to what was given back. -/
def Balanced (s t : ProbeState) : Prop :=
  ∃ maps, t = { s with acquired := s.acquired ++ maps, released := s.released ++ maps }

theorem pdata_resources (hread : (k.noPdata || k.noProperty) = false)
    (hid : npd.id < NSS_MAX_CORES) (h : noResources npd k = true) :
    ∃ t, nssHalOfGetPdata hal npd k s = .ok false t ∧ Balanced (nodeRead hal npd s) t := by
  rw [pdata_rest hread, bind_ok (coreInstance_on hid)]
  have hnone : Balanced (nodeRead hal npd s) (nodeRead hal npd s) :=
    ⟨[], by rw [List.append_nil, List.append_nil]⟩
  cases hres : k.noNphys || k.noVphys with
  | true => exact ⟨_, rfl, hnone⟩
  | false =>
  cases hnmap : k.noNmap with
  | true => exact ⟨_, rfl, hnone⟩
  | false =>
  cases hvmap : k.noVmap with
  | true => exact ⟨_, rfl, [.mapping .nmap], rfl⟩
  | false =>
    have hirq : (k.irqUnmapped .first ||
        (decide (npd.numIrq > 1) && k.irqUnmapped .second)) = true := by
      simpa only [noResources, hres, hnmap, hvmap, Bool.false_or, Bool.or_assoc] using h
    rw [hirq]
    exact ⟨_, rfl, [.mapping .nmap, .mapping .vmap], by
      simp [ProbeState.acquire, ProbeState.release]⟩

theorem pdata_done (hread : (k.noPdata || k.noProperty) = false)
    (hid : npd.id < NSS_MAX_CORES) (h : noResources npd k = false) :
    nssHalOfGetPdata hal npd k s =
      .ok true (((nodeRead hal npd s).acquire (.mapping .nmap)).acquire (.mapping .vmap)) := by
  rw [pdata_rest hread, bind_ok (coreInstance_on hid)]
  simp only [noResources, Bool.or_eq_false_iff] at h
  obtain ⟨⟨⟨⟨⟨hfirst, hsecond⟩, hnmap⟩, hvmap⟩, hirq⟩, hnext⟩ := h
  rw [hfirst, hsecond, hnmap, hvmap, hirq, hnext]
  rfl

/-- `npd` is `NULL`. -/
theorem pdata_missing (h : nssHalOfGetPdata hal npd k s = .ok false t) :
    (nssHalOfGetPdata hal npd k >>= fun got => refuse (!got) (.ret (-EFAULT))) s =
      .error (.ret (-EFAULT)) t := (bind_ok h).trans rfl

theorem pdata_found (h : nssHalOfGetPdata hal npd k s = .ok true t) :
    (nssHalOfGetPdata hal npd k >>= fun got => refuse (!got) (.ret (-EFAULT))) s =
      .ok () t := (bind_ok h).trans rfl

theorem Balanced.irqHeld (h : Balanced s t) : t.irqHeld = s.irqHeld := by
  obtain ⟨maps, rfl⟩ := h
  rfl

theorem Balanced.freqScale (h : Balanced s t) : t.freqScale = s.freqScale := by
  obtain ⟨maps, rfl⟩ := h
  rfl

theorem Balanced.count (h : Balanced s t) (hs : s.acquired = s.released) :
    t.released.count r = t.acquired.count r := by
  obtain ⟨maps, rfl⟩ := h
  change (s.released ++ maps).count r = (s.acquired ++ maps).count r
  rw [hs]

theorem pdata_staged (hdt : hal.devicetree = true) :
    Holding hal npd k s₀ [.properties, .core, .resources]
      (nssHalOfGetPdata hal npd k >>= fun got => refuse (!got) (.ret (-EFAULT)))
      (Holds s₀ [] [] (· = s₀.freqScale))
      fun t => Holds s₀ (mapped hal) [] (· = tableRead hal npd s₀) t ∧ npd.id < NSS_MAX_CORES := by
  intro s hs
  have htable : (nodeRead hal npd s).freqScale = tableRead hal npd s₀ := by
    change (if hal.boots then readFrequencies npd s.freqScale else s.freqScale) = _
    unfold tableRead
    rw [hs.table, hdt, Bool.and_true]
  have hproperties : refuses hal npd k s₀ .properties = (k.noPdata || k.noProperty) := by
    change (hal.devicetree && _) = _
    rw [hdt, Bool.true_and]
  have hresources : refuses hal npd k s₀ .resources = noResources npd k := by
    change (hal.devicetree && _) = _
    rw [hdt, Bool.true_and]
    rfl
  cases hread : k.noPdata || k.noProperty with
  | true =>
    refine (ends_error (pdata_missing (pdata_properties hread))).mpr ⟨.properties, ?_, ?_⟩
    · exact List.find?_cons_of_pos (hproperties.trans hread)
    · exact left_clean rfl rfl (by decide) (fun r => by rw [hs.acquired, hs.released])
        ((probeable_congr hs.irqHeld (read_of_eq hs.table)).trans (and_iff_left nofun).symm)
  | false =>
  have hfirst : refuses hal npd k s₀ .properties = false := hproperties.trans hread
  by_cases hid : NSS_MAX_CORES ≤ npd.id
  · have hend : nssHalOfGetPdata hal npd k s = .error .oops (nodeRead hal npd s) := by
      rw [pdata_rest hread, bind_error (coreInstance_off hid)]
    refine (ends_error (bind_error hend)).mpr ⟨.core, ?_, left_dirty rfl nofun⟩
    have hcore : refuses hal npd k s₀ .core = true := decide_eq_true hid
    simp [hfirst, hcore]
  · have hcore : refuses hal npd k s₀ .core = false := decide_eq_false hid
    cases hres : noResources npd k with
    | true =>
      obtain ⟨t, hend, hbalanced⟩ := pdata_resources hread (Nat.not_le.mp hid) hres
      refine (ends_error (pdata_missing hend)).mpr ⟨.resources, ?_, ?_⟩
      · simp [hfirst, hcore, hresources, hres]
      · refine left_clean rfl rfl (by decide)
          (fun r => hbalanced.count (hs.acquired.trans hs.released.symm)) ?_
        have hirq : t.irqHeld = s₀.irqHeld := hbalanced.irqHeld.trans hs.irqHeld
        have hread : t.freqScale = tableRead hal npd s₀ := hbalanced.freqScale.trans htable
        exact (probeable_congr hirq (read_of_read hread)).trans (and_iff_left nofun).symm
    | false =>
      refine (ends_ok (pdata_found (pdata_done hread (Nat.not_le.mp hid) hres))).mpr ⟨?_, ?_⟩
      · simp [hfirst, hcore, hresources, hres]
      · refine ⟨⟨hs.err, ?_, hs.released, hs.irqHeld, htable⟩, Nat.not_le.mp hid⟩
        change s.acquired ++ [.mapping .nmap] ++ [.mapping .vmap] = mapped hal
        unfold mapped
        rw [hs.acquired, hdt]
        rfl

theorem corePlatform_staged :
    Holding hal npd k s₀ [.node, .properties, .core, .resources] (corePlatform hal npd k)
      (Holds s₀ [] [] (· = s₀.freqScale))
      fun t => Holds s₀ (mapped hal) [] (· = tableRead hal npd s₀) t ∧ npd.id < NSS_MAX_CORES := by
  unfold corePlatform
  cases hdt : hal.devicetree with
  | true =>
    have hnode : Holding hal npd k s₀ [.node] (refuse k.noNode (.ret (-ENODEV)))
        (Holds s₀ [] [] (· = s₀.freqScale)) (Holds s₀ [] [] (· = s₀.freqScale)) := by
      refine Staged.check ?_ fun _ s hs => ?_
      · change (hal.devicetree && _) = _
        rw [hdt, Bool.true_and]
      · exact left_clean rfl rfl (by decide) (fun r => by rw [hs.acquired, hs.released])
          ((probeable_congr hs.irqHeld (read_of_eq hs.table)).trans (and_iff_left nofun).symm)
    exact hnode.bind fun _ => pdata_staged hdt
  | false =>
    have htable : tableRead hal npd s₀ = s₀.freqScale := by
      unfold tableRead
      rw [hdt, Bool.and_false]
      rfl
    have hmapped : mapped hal = [] := by
      unfold mapped
      rw [hdt]
      rfl
    have hcore : Holding hal npd k s₀ [.core] (coreInstance npd)
        (Holds s₀ [] [] (· = s₀.freqScale))
        fun t => Holds s₀ (mapped hal) [] (· = tableRead hal npd s₀) t ∧
          npd.id < NSS_MAX_CORES := by
      rw [htable, hmapped]
      refine Staged.step (fun hno s hs => ?_) (fun hyes s hs => ?_)
      · exact ⟨.oops, s, coreInstance_off (of_decide_eq_true hno), left_dirty rfl nofun⟩
      · have hid : npd.id < NSS_MAX_CORES := Nat.not_le.mp (of_decide_eq_false hyes)
        exact ⟨(), s, coreInstance_on hid, hs, hid⟩
    refine hcore.pad [.node, .properties] [.resources] ?_ ?_ <;> simp [refuses, hdt]

def loaded (hal : Hal) : List Resource :=
  if hal.boots then [.firmware, .mapping .load] else []

theorem nmap_loaded : .mapping .nmap ∉ loaded hal := by
  unfold loaded
  split <;> simp

theorem left_mapped {err : ℤ} (hst : undone hal st = !hal.devicetree) (hlate : late st = false)
    (hsettle : settle hal npd e t = (.failed err, s)) (herr : err < 0)
    (hgot : s.acquired = mapped hal ++ s.released) (hfree : .mapping .nmap ∉ s.released)
    (hagain : hal.devicetree = false → (Probeable hal npd s ↔ Probeable hal npd s₀)) :
    Left hal npd s₀ st e t := by
  cases hdt : hal.devicetree with
  | true =>
    have hmapped : Resource.mapping .nmap ∈ s.acquired := by
      rw [hgot, mapped, hdt]
      simp
    exact left_lost (hst.trans (by rw [hdt]; rfl)) hsettle ⟨hmapped, hfree⟩
  | false =>
    have hbalanced : s.acquired = s.released := by
      rw [hgot, mapped, hdt]
      rfl
    refine left_clean (hst.trans (by rw [hdt]; rfl)) hsettle herr (fun r => by rw [hbalanced]) ?_
    rw [hagain hdt, hlate]
    exact (and_iff_left nofun).symm

theorem left_silent (hst : undone hal st = false) (herr : t.err = 0) :
    Left hal npd s₀ st (.goto .errInit0) t :=
  left_zero hst (congrArg (fun err => (Outcome.failed err, t)) herr)

theorem requestFirmware_eq (hid : npd.id < NSS_MAX_CORES) :
    requestFirmware npd k = k.requestFirmware := by
  refine if_pos ?_
  unfold NSS_MAX_CORES at hid
  omega

theorem loadFirmware_missing {rc : Errno} (hid : npd.id < NSS_MAX_CORES)
    (h : k.requestFirmware = some rc) :
    loadFirmware npd k s = .error (.goto .errInit0) (s.setErr rc) := by
  unfold loadFirmware
  rw [requestFirmware_eq hid, h]
  rfl

theorem loadFirmware_short (hid : npd.id < NSS_MAX_CORES) (h : k.requestFirmware = none)
    (himage : npd.imageSize < MIN_IMG_SIZE) :
    loadFirmware npd k s = .error (.goto .errInit0) (s.acquire .firmware) := by
  unfold loadFirmware
  rw [requestFirmware_eq hid, h, decide_eq_true himage]
  rfl

theorem loadFirmware_unmapped (hid : npd.id < NSS_MAX_CORES) (h : k.requestFirmware = none)
    (himage : ¬ npd.imageSize < MIN_IMG_SIZE) (hload : k.noLoadMem = true) :
    loadFirmware npd k s =
      .error (.goto .errInit0) ((s.acquire .firmware).release .firmware) := by
  unfold loadFirmware
  rw [requestFirmware_eq hid, h, decide_eq_false himage, hload]
  rfl

theorem loadFirmware_done (hid : npd.id < NSS_MAX_CORES) (h : k.requestFirmware = none)
    (himage : ¬ npd.imageSize < MIN_IMG_SIZE) (hload : k.noLoadMem = false) :
    loadFirmware npd k s = .ok () ((((s.acquire .firmware).acquire (.mapping .load)).release
      .firmware).release (.mapping .load)) := by
  unfold loadFirmware
  rw [requestFirmware_eq hid, h, decide_eq_false himage, hload]
  rfl

theorem firmware_staged (hboots : hal.boots = true) (hid : npd.id < NSS_MAX_CORES) :
    Holding hal npd k s₀ [.firmware, .image, .loadMem] (loadFirmware npd k)
      (Holds s₀ (mapped hal) [] (· = tableRead hal npd s₀))
      (Holds s₀ (mapped hal ++ loaded hal) (loaded hal) (· = tableRead hal npd s₀)) := by
  intro s hs
  have hfirmware : refuses hal npd k s₀ .firmware = k.requestFirmware.isSome := by
    change (hal.boots && _) = _
    rw [hboots, Bool.true_and]
  have himage : refuses hal npd k s₀ .image = decide (npd.imageSize < MIN_IMG_SIZE) := by
    change (hal.boots && _) = _
    rw [hboots, Bool.true_and]
  have hload : refuses hal npd k s₀ .loadMem = k.noLoadMem := by
    change (hal.boots && _) = _
    rw [hboots, Bool.true_and]
  cases hrc : k.requestFirmware with
  | some rc =>
    refine (ends_error (loadFirmware_missing hid hrc)).mpr ⟨.firmware, ?_, ?_⟩
    · exact List.find?_cons_of_pos (hfirmware.trans (congrArg Option.isSome hrc))
    · refine left_mapped rfl rfl rfl rc.2 ?_ ?_ fun _ => ?_
      · change s.acquired = mapped hal ++ s.released
        rw [hs.acquired, hs.released, List.append_nil]
      · change _ ∉ s.released
        rw [hs.released]
        exact List.not_mem_nil
      · exact probeable_congr hs.irqHeld (read_of_read hs.table)
  | none =>
  have hfirst : refuses hal npd k s₀ .firmware = false :=
    hfirmware.trans (congrArg Option.isSome hrc)
  by_cases hsize : npd.imageSize < MIN_IMG_SIZE
  · refine (ends_error (loadFirmware_short hid hrc hsize)).mpr ⟨.image, ?_, left_silent rfl hs.err⟩
    simp [hfirst, himage, hsize]
  · cases hmem : k.noLoadMem with
    | true =>
      refine (ends_error (loadFirmware_unmapped hid hrc hsize hmem)).mpr
        ⟨.loadMem, ?_, left_silent rfl hs.err⟩
      simp [hfirst, himage, hsize, hload, hmem]
    | false =>
      refine (ends_ok (loadFirmware_done hid hrc hsize hmem)).mpr ⟨?_, ?_⟩
      · simp [hfirst, himage, hsize, hload, hmem]
      · have hloaded : loaded hal = [.firmware, .mapping .load] := if_pos hboots
        refine ⟨hs.err, ?_, ?_, hs.irqHeld, hs.table⟩
        · change s.acquired ++ [_] ++ [_] = _
          rw [hs.acquired, hloaded, List.append_assoc]
          rfl
        · change s.released ++ [_] ++ [_] = _
          rw [hs.released, hloaded]
          rfl

/-- The state with which the net_devices are made. -/
structure Booted (hal : Hal) (npd : Platform) (s₀ t : ProbeState) : Prop where
  holds : Holds s₀ (mapped hal ++ loaded hal) (loaded hal)
    (fun table => hal.boots = true → npd.id = 0 → AllKnown table) t
  passed : hal.boots = true → npd.id = 0 → tableGiven (tableRead hal npd s₀) = true →
    tableKnown (tableRead hal npd s₀) = true

theorem findFrequencies_given (h : tableGiven s.freqScale = true) :
    findFrequencies npd k s = .ok true s := congrFun (if_pos h) s

theorem findFrequencies_query (h : tableGiven s.freqScale = false) :
    findFrequencies npd k s = queryFrequencies npd k s :=
  congrFun (if_neg (Bool.eq_false_iff.mp h)) s

theorem frequencies_none (h : findFrequencies npd k s = .ok false t) :
    frequencies npd k s = .error (.goto .errInit0) t := (bind_ok h).trans rfl

theorem frequencies_unknown (h : findFrequencies npd k s = .ok true t)
    (hknown : tableKnown t.freqScale = false) :
    frequencies npd k s = .error (.goto .errInit0) (t.onTable setupRanges) := by
  have hranges : tableKnown (t.onTable setupRanges).freqScale = false :=
    same_ranges.known.trans hknown
  refine (bind_ok h).trans ?_
  change refuse (!tableKnown (t.onTable setupRanges).freqScale) _ _ = _
  rw [hranges]
  rfl

theorem frequencies_set (h : findFrequencies npd k s = .ok true t)
    (hknown : tableKnown t.freqScale = true) :
    frequencies npd k s = .ok () (t.onTable setupRanges) := by
  have hranges : tableKnown (t.onTable setupRanges).freqScale = true :=
    same_ranges.known.trans hknown
  refine (bind_ok h).trans ?_
  change refuse (!tableKnown (t.onTable setupRanges).freqScale) _ _ = _
  rw [hranges]
  rfl

theorem frequencies_staged (hboots : hal.boots = true) (hid : npd.id = 0) :
    Holding hal npd k s₀ [.frequencies] (frequencies npd k)
      (Holds s₀ (mapped hal ++ loaded hal) (loaded hal) (· = tableRead hal npd s₀))
      (Booted hal npd s₀) := by
  have hrefuses : refuses hal npd k s₀ .frequencies =
      !(if tableGiven (tableRead hal npd s₀) then tableKnown (tableRead hal npd s₀)
        else queryWorks npd k) := by
    change (hal.boots && decide (npd.id = 0) && _) = _
    rw [hboots, decide_eq_true hid]
    rfl
  refine Staged.step (fun hno s hs => ?_) (fun hyes s hs => ?_)
  · rw [hrefuses] at hno
    refine ⟨.goto .errInit0, ?_⟩
    cases hgiven : tableGiven (tableRead hal npd s₀) with
    | true =>
      rw [hgiven] at hno
      have hunknown : tableKnown s.freqScale = false := by
        rw [hs.table]
        simpa using hno
      exact ⟨_, frequencies_unknown (findFrequencies_given (hs.table ▸ hgiven)) hunknown,
        left_silent rfl hs.err⟩
    | false =>
      rw [hgiven] at hno
      obtain ⟨u, hquery, -⟩ := @queryFrequencies_eq npd k s
      rw [show queryWorks npd k = false by simpa using hno] at hquery
      exact ⟨_, frequencies_none ((findFrequencies_query (hs.table ▸ hgiven)).trans hquery),
        left_silent rfl hs.err⟩
  · rw [hrefuses] at hyes
    refine ⟨(), ?_⟩
    cases hgiven : tableGiven (tableRead hal npd s₀) with
    | true =>
      rw [hgiven] at hyes
      have hknown : tableKnown (tableRead hal npd s₀) = true := by simpa using hyes
      have hall : AllKnown s.freqScale := hs.table ▸ allKnown hgiven hknown
      exact ⟨_, frequencies_set (findFrequencies_given (hs.table ▸ hgiven)) (hs.table ▸ hknown),
        ⟨hs.err, hs.acquired, hs.released, hs.irqHeld, fun _ _ => hall.ranges⟩,
        fun _ _ _ => hknown⟩
    | false =>
      rw [hgiven] at hyes
      have hworks : queryWorks npd k = true := by simpa using hyes
      obtain ⟨u, hquery, huse⟩ := @queryFrequencies_eq npd k s
      rw [hworks] at hquery
      have husable := huse hworks
      exact ⟨_, frequencies_set ((findFrequencies_query (hs.table ▸ hgiven)).trans hquery)
          husable.2,
        ⟨hs.err, hs.acquired, hs.released, hs.irqHeld,
          fun _ _ => (allKnown husable.1 husable.2).ranges⟩,
        fun _ _ h => absurd (hgiven.symm.trans h) nofun⟩

theorem coreClock_staged (hboots : hal.boots = true) (hid : npd.id = 0) :
    Holding hal npd k s₀ [.coreClk] (coreClock k)
      (Holds s₀ (mapped hal ++ loaded hal) (loaded hal) (· = tableRead hal npd s₀))
      (Holds s₀ (mapped hal ++ loaded hal) (loaded hal) (· = tableRead hal npd s₀)) := by
  have hrefuses : refuses hal npd k s₀ .coreClk = k.coreClk.isSome := by
    change (hal.boots && decide (npd.id = 0) && _) = _
    rw [hboots, decide_eq_true hid]
    rfl
  unfold coreClock
  refine Staged.step (fun hno s hs => ?_) (fun hyes s hs => ?_)
  · obtain ⟨e, he⟩ := Option.isSome_iff_exists.mp (hrefuses.symm.trans hno)
    rw [he]
    refine ⟨_, _, rfl, left_mapped rfl rfl rfl e.2 ?_ ?_ fun _ => ?_⟩
    · change s.acquired = mapped hal ++ s.released
      rw [hs.acquired, hs.released]
    · change _ ∉ s.released
      rw [hs.released]
      exact nmap_loaded
    · exact probeable_congr hs.irqHeld (read_of_read hs.table)
  · rw [Option.isSome_eq_false_iff.mp (hrefuses.symm.trans hyes) |> Option.isNone_iff_eq_none.mp]
    exact ⟨(), s, rfl, hs⟩

theorem clocks_staged (hboots : hal.boots = true) :
    Holding hal npd k s₀ [.coreClk, .frequencies] (bootClocks npd k)
      (Holds s₀ (mapped hal ++ loaded hal) (loaded hal) (· = tableRead hal npd s₀))
      (Booted hal npd s₀) := by
  unfold bootClocks
  by_cases hid : npd.id = 0
  · rw [if_pos hid]
    exact (coreClock_staged hboots hid).bind fun _ => frequencies_staged hboots hid
  · rw [if_neg hid]
    refine Staged.skip (Staged.quiet fun s hs => ⟨(), s, rfl, ?_, fun _ h => absurd h hid⟩) ?_
    · exact ⟨hs.err, hs.acquired, hs.released, hs.irqHeld, fun _ h => absurd h hid⟩
    · simp [refuses, hid]

theorem bootCore_staged :
    Holding hal npd k s₀ [.firmware, .image, .loadMem, .coreClk, .frequencies] (bootCore hal npd k)
      (fun t => Holds s₀ (mapped hal) [] (· = tableRead hal npd s₀) t ∧ npd.id < NSS_MAX_CORES)
      (Booted hal npd s₀) := by
  unfold bootCore
  cases hboots : hal.boots with
  | true =>
    intro s hs
    exact (firmware_staged hboots hs.2).bind (fun _ => clocks_staged hboots) s hs.1
  | false =>
    have hloaded : loaded hal = [] := if_neg (Bool.eq_false_iff.mp hboots)
    refine Staged.skip (Staged.quiet fun s hs => ⟨(), s, rfl, ?_, ?_⟩) ?_
    · rw [hloaded, List.append_nil]
      exact ⟨hs.1.err, hs.1.acquired, hs.1.released, hs.1.irqHeld,
        fun h => absurd (hboots.symm.trans h) nofun⟩
    · exact fun h => absurd (hboots.symm.trans h) nofun
    · simp [refuses, hboots]

theorem Booted.again (h : Booted hal npd s₀ s) (hirq : t.irqHeld = s.irqHeld)
    (htable : t.freqScale = s.freqScale) :
    Probeable hal npd t ↔ Probeable hal npd s₀ ∧ Steady hal npd :=
  probeable_late (hirq.trans h.holds.irqHeld) (htable ▸ h.holds.table) h.passed

end Staging
end NssDrv.ProbeSteps

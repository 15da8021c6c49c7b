import NssDrv.CoreDump

set_option autoImplicit false

/-!
# The panic handler

`nss_panic_handler` from its first access to its return, while the cores it
has asked report in: whom it asks, whom it ticks off, how long it waits.
-/
namespace NssDrv.PanicHandler
open HlosInterface SharedThread TransmitApi CoreDump
open CoreProbe (NSS_MAX_CORES)

/-- Nothing can be expected of this core any more. -/
def Gone (d : DumpTop) (i : ℕ) : Prop := d.Dead i ∨ d.nmap i = 0

def Dumped (d : DumpTop) (i : ℕ) : Prop := d.state i &&& NSS_CORE_STATE_FW_DUMP ≠ 0

/-- What happens beside the handler: cores die, each in one whole `|=`, and
    nobody else ticks them off, maps them or waits for them. -/
structure Beside (d d' : DumpTop) : Prop where
  dead : ∀ i, d.Dead i → d'.Dead i
  dumped : ∀ i, Dumped d' i ↔ Dumped d i
  nmap : d'.nmap = d.nmap
  numNss : d'.numNss = d.numNss
  delays : d'.delays = d.delays
  panicAsked : d'.panicAsked = d.panicAsked

/-- Since the handler began with `d₀`: it has waited `rounds` times, has asked
    `asks` and ticked off `ticked`. -/
structure Handling (d₀ : DumpTop) (rounds : ℕ) (asks ticked : List ℕ) (d : DumpTop) : Prop where
  nmap_eq : d.nmap = d₀.nmap
  numNss_eq : d.numNss = d₀.numNss
  delays_eq : d.delays = d₀.delays + rounds
  asked_eq : d.panicAsked = asks ++ d₀.panicAsked
  gone : ∀ i, Gone d₀ i → Gone d i
  dumped : ∀ i, Dumped d i ↔ Dumped d₀ i ∨ i ∈ ticked
  fresh : ∀ i ∈ ticked, ¬ Dumped d₀ i
  ticked_gone : ∀ i ∈ ticked, i < NSS_MAX_CORES ∧ Gone d i
  nodup : ticked.Nodup

section Handling
variable {d₀ d d' : DumpTop} {i rounds : ℕ} {asks ticked : List ℕ} {state : U32} {α : Type}
  {Q : α → DumpTop → Prop}

theorem gone_stable (i : ℕ) : Stable Beside fun d => Gone d i := by
  intro d d' hb h
  rcases h with hdead | hnmap
  · exact .inl (hb.dead i hdead)
  · exact .inr (by rw [hb.nmap, hnmap])

theorem handling_stable : Stable Beside (Handling d₀ rounds asks ticked) := by
  intro d d' hb h
  exact
    { nmap_eq := hb.nmap.trans h.nmap_eq
      numNss_eq := hb.numNss.trans h.numNss_eq
      delays_eq := hb.delays.trans h.delays_eq
      asked_eq := hb.panicAsked.trans h.asked_eq
      gone := fun i hi => gone_stable i _ _ hb (h.gone i hi)
      dumped := fun i => (hb.dumped i).trans (h.dumped i)
      fresh := h.fresh
      ticked_gone := fun i hi => ⟨(h.ticked_gone i hi).1, gone_stable i _ _ hb (h.ticked_gone i hi).2⟩
      nodup := h.nodup }

theorem handling_start (d₀ : DumpTop) : Handling d₀ 0 [] [] d₀ where
  nmap_eq := rfl
  numNss_eq := rfl
  delays_eq := rfl
  asked_eq := rfl
  gone _ := id
  dumped i := by simp
  fresh i hi := by cases hi
  ticked_gone i hi := by cases hi
  nodup := .nil

theorem gone_setState_other {j : ℕ} (hne : j ≠ i) :
    Gone (d.setState i state) j ↔ Gone d j := by
  rw [Gone, Gone, DumpTop.Dead, DumpTop.Dead, DumpTop.setState_other _ _ hne]
  rfl

theorem dumped_setState_other {j : ℕ} (hne : j ≠ i) :
    Dumped (d.setState i state) j ↔ Dumped d j := by
  rw [Dumped, Dumped, DumpTop.setState_other _ _ hne]

/-- A bit that is set stays set under `|=`. -/
theorem or_bit {x y bit : U32} (h : x &&& bit ≠ 0) : (x ||| y) &&& bit ≠ 0 := by
  intro h0
  rw [BitVec.and_or_distrib_right] at h0
  exact h (BitVec.or_eq_zero_iff.mp h0).1

theorem gone_store {bits : U32} (hload : state &&& NSS_CORE_STATE_FW_DEAD ≠ 0 ∨ d.nmap i = 0) :
    Gone (d.setState i (state ||| bits)) i := by
  rcases hload with hdead | hnmap
  · left
    rw [DumpTop.Dead, DumpTop.setState_self]
    exact or_bit hdead
  · exact .inr hnmap

theorem gone_kept {bits : U32} (hload : state &&& NSS_CORE_STATE_FW_DEAD ≠ 0 ∨ d.nmap i = 0) {j : ℕ}
    (hd : Gone d j) : Gone (d.setState i (state ||| bits)) j := by
  by_cases hne : j = i
  · subst hne
    exact gone_store hload
  · exact (gone_setState_other hne).mpr hd

theorem total_deadOrUnmapped {P : DumpTop → Prop} {k : Bool → Proc DumpTop α}
    (hstable : Stable Beside P) (hs : P d) (hstate : state &&& NSS_CORE_STATE_FW_DEAD ≠ 0 → d.Dead i)
    (hgone : ∀ u, P u → Gone u i → Total Beside Q (k true) u)
    (hlive : ∀ u, P u → ¬ state &&& NSS_CORE_STATE_FW_DEAD ≠ 0 → u.nmap i ≠ 0 →
      Total Beside Q (k false) u) :
    Total Beside Q ((deadOrUnmapped state i).bind k) d := by
  unfold deadOrUnmapped
  split
  · rename_i hdead
    exact hgone d hs (.inl (hstate hdead))
  · rename_i halive
    refine Total.read hstable hs fun u hu => ?_
    by_cases hnmap : u.nmap i = 0
    · rw [decide_eq_true hnmap]
      exact hgone u hu (.inr hnmap)
    · rw [decide_eq_false hnmap]
      exact hlive u hu halive hnmap

theorem total_orState {bits : U32} {P : DumpTop → Prop} {L : U32 → DumpTop → Prop}
    {k : Unit → Proc DumpTop α} (hstable : Stable Beside P) (hs : P d)
    (hplace : ∀ x, Stable Beside (L x)) (hload : ∀ u, P u → L (u.state i) u)
    (hk : ∀ x u, L x u → Total Beside Q (k ()) (u.setState i (x ||| bits))) :
    Total Beside Q ((orState i bits).bind k) d :=
  fun u hu => ⟨rfl, fun v hv => ⟨rfl, hk _ v ((hplace _).star hv (hload u (hstable.star hu hs)))⟩⟩

/-- What a load of the state of `i` says at a later store. -/
structure Loaded (d₀ : DumpTop) (ticked : List ℕ) (i : ℕ) (state : U32) (d : DumpTop) : Prop where
  gone : Gone d₀ i ∨ i ∈ ticked → state &&& NSS_CORE_STATE_FW_DEAD ≠ 0 ∨ d.nmap i = 0
  dumped : state &&& NSS_CORE_STATE_FW_DUMP ≠ 0 ↔ Dumped d₀ i ∨ i ∈ ticked

theorem Handling.loaded (h : Handling d₀ rounds asks ticked d) (i : ℕ) :
    Loaded d₀ ticked i (d.state i) d := by
  refine ⟨fun hi => ?_, h.dumped i⟩
  rcases hi with hgone | hticked
  · exact h.gone i hgone
  · exact (h.ticked_gone i hticked).2

theorem loaded_stable : Stable Beside (Loaded d₀ ticked i state) := by
  intro d d' hb h
  refine ⟨fun hi => ?_, h.dumped⟩
  rw [hb.nmap]
  exact h.gone hi

theorem Handling.storePanic (h : Handling d₀ rounds asks ticked d)
    (hl : Loaded d₀ ticked i state d) :
    Handling d₀ rounds asks ticked (d.setState i (state ||| NSS_CORE_STATE_PANIC)) := by
  have hgone : ∀ j, Gone d₀ j ∨ j ∈ ticked → Gone d j →
      Gone (d.setState i (state ||| NSS_CORE_STATE_PANIC)) j := by
    intro j hj hd
    by_cases hne : j = i
    · subst hne
      exact gone_store (hl.gone hj)
    · exact (gone_setState_other hne).mpr hd
  refine
    { h with
      gone := fun j hj => hgone j (.inl hj) (h.gone j hj)
      dumped := fun j => ?_
      ticked_gone := fun j hj => ⟨(h.ticked_gone j hj).1, hgone j (.inr hj) (h.ticked_gone j hj).2⟩ }
  by_cases hne : j = i
  · subst hne
    have hbit : NSS_CORE_STATE_PANIC &&& NSS_CORE_STATE_FW_DUMP = 0 := by decide
    rw [Dumped, DumpTop.setState_self, BitVec.and_or_distrib_right, hbit]
    simpa using hl.dumped
  · exact (dumped_setState_other hne).trans (h.dumped j)

theorem Handling.storeDump (h : Handling d₀ rounds asks ticked d) (hlt : i < NSS_MAX_CORES)
    (hfresh : ¬ (Dumped d₀ i ∨ i ∈ ticked))
    (hgone : state &&& NSS_CORE_STATE_FW_DEAD ≠ 0 ∨ d.nmap i = 0) :
    Handling d₀ rounds asks (i :: ticked) (d.setState i (state ||| NSS_CORE_STATE_FW_DUMP)) := by
  refine
    { h with
      gone := fun j hj => gone_kept hgone (h.gone j hj)
      dumped := fun j => ?_
      fresh := fun j hj => ?_
      ticked_gone := fun j hj => ?_
      nodup := List.nodup_cons.mpr ⟨fun hi => hfresh (.inr hi), h.nodup⟩ }
  · by_cases hne : j = i
    · subst hne
      refine ⟨fun _ => .inr (List.mem_cons_self ..), fun _ => ?_⟩
      rw [Dumped, DumpTop.setState_self, BitVec.or_comm]
      exact or_bit (by decide)
    · rw [dumped_setState_other hne, h.dumped j, List.mem_cons]
      simp [hne]
  · rcases List.mem_cons.mp hj with rfl | hold
    · exact fun hd => hfresh (.inl hd)
    · exact h.fresh j hold
  · rcases List.mem_cons.mp hj with rfl | hold
    · exact ⟨hlt, gone_store hgone⟩
    · exact ⟨(h.ticked_gone j hold).1, gone_kept hgone (h.ticked_gone j hold).2⟩

/-- Every core passed over by the first loop is gone. -/
def AskedOrGone (cores asks : List ℕ) (d : DumpTop) : Prop :=
  ∀ i ∈ cores, i ∈ asks ∨ Gone d i

theorem askedOrGone_stable {cores : List ℕ} : Stable Beside (AskedOrGone cores asks) :=
  fun _ _ hb h i hi => (h i hi).imp_right (gone_stable i _ _ hb)

/-- After the first loop over `cores`, `done` before it. -/
structure Asked (d₀ : DumpTop) (cores asks : List ℕ) (d : DumpTop) : Prop
    extends Handling d₀ 0 asks [] d where
  skipped : AskedOrGone cores asks d
  mapped : ∀ i ∈ asks, i ∈ cores ∧ d₀.nmap i ≠ 0
  asks_nodup : asks.Nodup

theorem asked_stable {cores : List ℕ} : Stable Beside (Asked d₀ cores asks) :=
  fun _ _ hb h => ⟨handling_stable _ _ hb h.toHandling, askedOrGone_stable _ _ hb h.skipped,
    h.mapped, h.asks_nodup⟩

theorem Asked.skip {cores : List ℕ} (h : Asked d₀ cores asks d) (hgone : Gone d i) :
    Asked d₀ (cores ++ [i]) asks d := by
  refine { h with skipped := fun j hj => ?_, mapped := fun j hj => ?_ }
  · rcases List.mem_append.mp hj with hold | hnew
    · exact h.skipped j hold
    · exact .inr (List.mem_singleton.mp hnew ▸ hgone)
  · exact ⟨List.mem_append_left _ (h.mapped j hj).1, (h.mapped j hj).2⟩

theorem Asked.storePanic {cores : List ℕ} (h : Asked d₀ cores asks d)
    (hl : Loaded d₀ [] i state d) (hnmap : d.nmap i ≠ 0) (hnew : i ∉ cores) :
    Asked d₀ (cores ++ [i]) (i :: asks)
      { d.setState i (state ||| NSS_CORE_STATE_PANIC) with panicAsked := i :: d.panicAsked } := by
  have hstore := h.toHandling.storePanic hl
  refine
    { hstore with
      asked_eq := congrArg (List.cons i) h.asked_eq
      skipped := fun j hj => ?_
      mapped := fun j hj => ?_
      asks_nodup := List.nodup_cons.mpr ⟨fun hi => hnew (h.mapped i hi).1, h.asks_nodup⟩ }
  · by_cases hne : j = i
    · exact .inl (hne ▸ List.mem_cons_self ..)
    · rcases List.mem_append.mp hj with hold | hlast
      · refine (h.skipped j hold).imp (List.mem_cons_of_mem _) fun hgone => ?_
        exact (gone_setState_other hne).mpr hgone
      · exact (hne (List.mem_singleton.mp hlast)).elim
  · rcases List.mem_cons.mp hj with rfl | hold
    · exact ⟨by simp, h.nmap_eq ▸ hnmap⟩
    · exact ⟨List.mem_append_left _ (h.mapped j hold).1, (h.mapped j hold).2⟩

end Handling

section Loops
variable {d₀ d : DumpTop} {rounds : ℕ} {asks ticked done rest : List ℕ}

def ask (i : ℕ) (d : DumpTop) : DumpTop := { d with panicAsked := i :: d.panicAsked }

theorem Beside.ask {d d' : DumpTop} (hb : Beside d d') (i : ℕ) :
    Beside (ask i d) (ask i d') :=
  ⟨hb.dead, hb.dumped, hb.nmap, hb.numNss, hb.delays, congrArg (List.cons i) hb.panicAsked⟩

theorem panicAsk_total (h : Asked d₀ done asks d) (hnodup : (done ++ rest).Nodup) :
    Total Beside (fun _ d => ∃ asks, Asked d₀ (done ++ rest) asks d) (panicAsk rest) d := by
  induction rest generalizing done asks d with
  | nil =>
    rw [List.append_nil]
    refine Total.ret (fun d d' hb h => ?_) ⟨asks, h⟩
    obtain ⟨asks, h⟩ := h
    exact ⟨asks, asked_stable _ _ hb h⟩
  | cons i rest ih =>
    have hsplit : done ++ i :: rest = (done ++ [i]) ++ rest := by simp
    have hnew : i ∉ done := by
      intro hi
      rw [List.nodup_append] at hnodup
      exact hnodup.2.2 i hi i (List.mem_cons_self ..) rfl
    rw [hsplit] at hnodup ⊢
    unfold panicAsk
    refine Total.read asked_stable h fun u hu => ?_
    refine total_deadOrUnmapped (P := fun d => Asked d₀ done asks d) asked_stable hu id
      (fun v hv hgone => ?_) fun v hv _ hnmap => ?_
    · exact ih (hv.skip hgone) hnodup
    · have hplace : Stable Beside fun d => Asked d₀ done asks d ∧ d.nmap i ≠ 0 :=
        asked_stable.and fun _ _ hb hne => hb.nmap ▸ hne
      have hload : ∀ x : U32, Stable Beside fun d => (Asked d₀ done asks d ∧ d.nmap i ≠ 0) ∧
          Loaded d₀ [] i x d := fun x => hplace.and loaded_stable
      refine total_orState hplace ⟨hv, hnmap⟩ hload
        (fun w hw => ⟨hw, hw.1.toHandling.loaded i⟩) fun x w hw => ?_
      have hafter : Stable Beside fun d => Asked d₀ (done ++ [i]) (i :: asks) (ask i d) :=
        fun _ _ hb h => asked_stable _ _ (hb.ask i) h
      refine Total.modify hafter (hw.1.1.storePanic hw.2 hw.1.2 hnew) fun y hy => ?_
      exact ih hy hnodup

/-- In one round: who was gone at its beginning still is. -/
structure Ticking (d₀ : DumpTop) (rounds : ℕ) (asks ticked : List ℕ) (G : ℕ → Prop) (d : DumpTop) :
    Prop extends Handling d₀ rounds asks ticked d where
  still : ∀ i, G i → Gone d i

theorem ticking_stable {G : ℕ → Prop} : Stable Beside (Ticking d₀ rounds asks ticked G) :=
  fun _ _ hb h => ⟨handling_stable _ _ hb h.toHandling, fun i hi => gone_stable i _ _ hb (h.still i hi)⟩

/-- Who was gone is ticked off, now or before the handler began. -/
def Covered (d₀ : DumpTop) (G : ℕ → Prop) (cores ticked : List ℕ) : Prop :=
  ∀ i ∈ cores, G i → Dumped d₀ i ∨ i ∈ ticked

theorem Covered.snoc {G : ℕ → Prop} {i : ℕ} (h : Covered d₀ G done ticked)
    (hi : G i → Dumped d₀ i ∨ i ∈ ticked) : Covered d₀ G (done ++ [i]) ticked := by
  intro j hj
  rcases List.mem_append.mp hj with hold | hnew
  · exact h j hold
  · rw [List.mem_singleton.mp hnew]
    exact hi

theorem Covered.cons {G : ℕ → Prop} {i : ℕ} (h : Covered d₀ G done ticked) :
    Covered d₀ G (done ++ [i]) (i :: ticked) := by
  refine Covered.snoc (fun j hj hG => ?_) fun _ => .inr (List.mem_cons_self ..)
  exact (h j hj hG).imp_right (List.mem_cons_of_mem _)

def Ticked (d₀ : DumpTop) (rounds : ℕ) (asks : List ℕ) (G : ℕ → Prop) (cores : List ℕ) (v : ℕ)
    (d : DumpTop) : Prop :=
  ∃ ticked, v = ticked.length ∧ Ticking d₀ rounds asks ticked G d ∧ Covered d₀ G cores ticked

theorem panicTick_total {G : ℕ → Prop} (h : Ticking d₀ rounds asks ticked G d)
    (hdone : Covered d₀ G done ticked) (hrange : ∀ i ∈ rest, i < NSS_MAX_CORES) :
    Total Beside (Ticked d₀ rounds asks G (done ++ rest)) (panicTick ticked.length rest) d := by
  induction rest generalizing done ticked d with
  | nil =>
    rw [List.append_nil]
    refine Total.ret (fun d d' hb h => ?_) ⟨ticked, rfl, h, hdone⟩
    obtain ⟨ticked, hv, h, hcovered⟩ := h
    exact ⟨ticked, hv, ticking_stable _ _ hb h, hcovered⟩
  | cons i rest ih =>
    have hlt := hrange i (List.mem_cons_self ..)
    have hrange' : ∀ j ∈ rest, j < NSS_MAX_CORES := fun j hj =>
      hrange j (List.mem_cons_of_mem _ hj)
    rw [show done ++ i :: rest = (done ++ [i]) ++ rest by simp]
    unfold panicTick
    refine Total.read ticking_stable h fun u hu => ?_
    have hplace : Stable Beside fun d => Ticking d₀ rounds asks ticked G d ∧
        (G i → u.state i &&& NSS_CORE_STATE_FW_DEAD ≠ 0 ∨ d.nmap i = 0) :=
      ticking_stable.and fun _ _ hb hG => hb.nmap ▸ hG
    refine total_deadOrUnmapped hplace ⟨hu, hu.still i⟩ id (fun v hv hgone => ?_)
      fun v hv halive hnmap => ?_
    · have hhere : Stable Beside fun d => Ticking d₀ rounds asks ticked G d ∧ Gone d i :=
        ticking_stable.and (gone_stable i)
      refine Total.read hhere ⟨hv.1, hgone⟩ fun w hw => ?_
      by_cases hbit : w.state i &&& NSS_CORE_STATE_FW_DUMP = 0
      · have hfresh : ¬ (Dumped d₀ i ∨ i ∈ ticked) := fun hd => (hw.1.dumped i).mpr hd hbit
        simp only [if_pos hbit]
        have hload : ∀ x : U32, Stable Beside fun d => Ticking d₀ rounds asks ticked G d ∧
            (x &&& NSS_CORE_STATE_FW_DEAD ≠ 0 ∨ d.nmap i = 0) := fun x =>
          ticking_stable.and fun _ _ hb hG => hb.nmap ▸ hG
        refine total_orState hhere hw hload (fun y hy => hy) fun x y hy => ?_
        have hstore : Ticking d₀ rounds asks (i :: ticked) G
            (y.setState i (x ||| NSS_CORE_STATE_FW_DUMP)) :=
          ⟨hy.1.toHandling.storeDump hlt hfresh hy.2, fun j hj => gone_kept hy.2 (hy.1.still j hj)⟩
        exact ih hstore hdone.cons hrange'
      · simp only [if_neg hbit]
        exact ih hw.1 (hdone.snoc fun _ => (hw.1.dumped i).mp hbit) hrange'
    · refine ih hv.1 (hdone.snoc fun hG => ?_) hrange'
      rcases hv.2 hG with hdead | hzero
      · exact (halive hdead).elim
      · exact (hnmap hzero).elim

/-- What the wait returns with, having begun after `before` rounds with `left`
    to go after the next one. -/
structure Waited (d₀ : DumpTop) (asks : List ℕ) (before left : ℕ) (G : ℕ → Prop) (v : ℕ)
    (d : DumpTop) : Prop where
  count : ∃ rounds ticked, v = ticked.length ∧ Ticking d₀ rounds asks ticked G d ∧
    before < rounds ∧ rounds ≤ before + left + 1 ∧
      (v < NSS_MAX_CORES → rounds = before + left + 1) ∧
        ((∀ i < NSS_MAX_CORES, G i ∧ ¬ Dumped d₀ i) → rounds = before + 1)

theorem waited_stable {before left : ℕ} {G : ℕ → Prop} {v : ℕ} :
    Stable Beside (Waited d₀ asks before left G v) := by
  intro d d' hb h
  obtain ⟨rounds, ticked, hv, htick, hrest⟩ := h.count
  exact ⟨rounds, ticked, hv, ticking_stable _ _ hb htick, hrest⟩

theorem full_length (h : ∀ i < NSS_MAX_CORES, i ∈ ticked) : NSS_MAX_CORES ≤ ticked.length := by
  have hsub : List.range NSS_MAX_CORES ⊆ ticked := fun i hi => h i (List.mem_range.mp hi)
  have hlen := (List.nodup_range.subperm hsub).length_le
  rwa [List.length_range] at hlen

theorem Handling.wait (h : Handling d₀ rounds asks ticked d) :
    Handling d₀ (rounds + 1) asks ticked { d with delays := d.delays + 1 } :=
  { h with delays_eq := by rw [h.delays_eq, Nat.add_assoc] }

theorem panicRounds_total {left before : ℕ} {G : ℕ → Prop}
    (h : Ticking d₀ before asks ticked G d) :
    Total Beside (Waited d₀ asks before left G) (panicRounds left ticked.length) d := by
  have hrange : ∀ i ∈ List.range NSS_MAX_CORES, i < NSS_MAX_CORES := fun i => List.mem_range.mp
  induction left generalizing before ticked d with
  | zero =>
    unfold panicRounds
    refine Total.modify ticking_stable h fun u hu => ?_
    have hwait : Ticking d₀ (before + 1) asks ticked G { u with delays := u.delays + 1 } :=
      ⟨hu.toHandling.wait, hu.still⟩
    have hnone : Covered d₀ G [] ticked := fun i hi => by cases hi
    refine (panicTick_total hwait hnone hrange).bind
      fun v w hw => ?_
    obtain ⟨ticked', rfl, htick, _⟩ := hw
    have hdone : Waited d₀ asks before 0 G ticked'.length w :=
      ⟨before + 1, ticked', rfl, htick, Nat.lt_succ_self _, le_rfl, fun _ => rfl, fun _ => rfl⟩
    split <;> exact Total.ret waited_stable hdone
  | succ left ih =>
    unfold panicRounds
    refine Total.modify ticking_stable h fun u hu => ?_
    have hwait : Ticking d₀ (before + 1) asks ticked G { u with delays := u.delays + 1 } :=
      ⟨hu.toHandling.wait, hu.still⟩
    have hnone : Covered d₀ G [] ticked := fun i hi => by cases hi
    refine (panicTick_total hwait hnone hrange).bind
      fun v w hw => ?_
    obtain ⟨ticked', rfl, htick, hcovered⟩ := hw
    split
    · rename_i hfull
      refine Total.ret waited_stable ⟨before + 1, ticked', rfl, htick, Nat.lt_succ_self _, ?_, ?_,
        fun _ => rfl⟩
      · omega
      · intro hlt
        omega
    · rename_i hnot
      refine (ih htick).mono (fun _ _ hb => hb) fun v x hx => ?_
      obtain ⟨rounds, ticked, hv, hend, hlo, hhi, hlast, _⟩ := hx.count
      refine ⟨rounds, ticked, hv, hend, by omega, by omega, fun hlt => ?_, fun hall => ?_⟩
      · rw [hlast hlt]
        omega
      · refine (hnot (full_length fun i hi => ?_)).elim
        have hi' := hcovered i (List.mem_range.mpr hi) (hall i hi).1
        exact hi'.resolve_left (hall i hi).2

end Loops

/-- What the handler has done when it returns. -/
structure Handled (d₀ d : DumpTop) : Prop where
  asked : ∃ asks, d.panicAsked = asks ++ d₀.panicAsked ∧ asks.Nodup ∧
    (∀ i ∈ asks, i < NSS_MAX_CORES ∧ d₀.nmap i ≠ 0) ∧ ∀ i < NSS_MAX_CORES, i ∈ asks ∨ Gone d i
  ticked : ∃ ticked : List ℕ, ticked.Nodup ∧
    (∀ i ∈ ticked, i < NSS_MAX_CORES ∧ Gone d i ∧ Dumped d i ∧ ¬ Dumped d₀ i) ∧
      (∀ i, Dumped d i → Dumped d₀ i ∨ i ∈ ticked) ∧
        (ticked.length < NSS_MAX_CORES → d.delays = d₀.delays + d₀.numNss * 2 + 1)
  waited : d₀.delays < d.delays ∧ d.delays ≤ d₀.delays + d₀.numNss * 2 + 1
  complete : d.delays < d₀.delays + d₀.numNss * 2 + 1 → ∀ i < NSS_MAX_CORES, Gone d i
  prompt : (∀ i < NSS_MAX_CORES, Gone d₀ i ∧ ¬ Dumped d₀ i) → d.delays = d₀.delays + 1

theorem handled_stable (d₀ : DumpTop) : Stable Beside (Handled d₀) := by
  intro d d' hb h
  obtain ⟨asks, hasked, hnodup, hmapped, hgone⟩ := h.asked
  obtain ⟨ticked, hdistinct, hticked, hall, hend⟩ := h.ticked
  refine ⟨⟨asks, hb.panicAsked.trans hasked, hnodup, hmapped, fun i hi => ?_⟩,
    ⟨ticked, hdistinct, fun i hi => ?_, fun i hi => hall i ((hb.dumped i).mp hi), ?_⟩, ?_, ?_, ?_⟩
  · exact (hgone i hi).imp_right (gone_stable i _ _ hb)
  · obtain ⟨hlt, hgone, hdumped, hfresh⟩ := hticked i hi
    exact ⟨hlt, gone_stable i _ _ hb hgone, (hb.dumped i).mpr hdumped, hfresh⟩
  · rw [hb.delays]
    exact hend
  · rw [hb.delays]
    exact h.waited
  · rw [hb.delays]
    exact fun hearly i hi => gone_stable i _ _ hb (h.complete hearly i hi)
  · rw [hb.delays]
    exact h.prompt

/-- `ticked` is duplicate free and below the number of cores. -/
theorem ticked_all {ticked : List ℕ} (hnodup : ticked.Nodup)
    (hlt : ∀ i ∈ ticked, i < NSS_MAX_CORES) (hlen : NSS_MAX_CORES ≤ ticked.length) {i : ℕ}
    (hi : i < NSS_MAX_CORES) : i ∈ ticked := by
  have hsub : ticked ⊆ List.range NSS_MAX_CORES := fun j hj => List.mem_range.mpr (hlt j hj)
  have hperm := (hnodup.subperm hsub).perm_of_length_le (by rwa [List.length_range])
  exact hperm.mem_iff.mpr (List.mem_range.mpr hi)

/-- While cores die beside it, the handler returns `NOTIFY_DONE` after at most
    `num_nss * 2 + 1` waits. It asks each mapped core at most once and passes
    over the dead and the unmapped alone; it ticks off no core twice, gives up
    early only when every core is dead or unmapped, and after the first wait if
    they all were when it began. -/
theorem panicHandler_handles (d₀ : DumpTop) :
    Total Beside (fun v d => v = NOTIFY_DONE ∧ Handled d₀ d) nssPanicHandler d₀ := by
  have hstart : Asked d₀ [] [] d₀ :=
    { handling_start d₀ with
      skipped := fun i hi => by cases hi
      mapped := fun i hi => by cases hi
      asks_nodup := .nil }
  unfold nssPanicHandler
  have hrange : ([] ++ List.range NSS_MAX_CORES).Nodup := List.nodup_range
  refine (panicAsk_total hstart hrange).bind fun _ d hd => ?_
  obtain ⟨asks, hd⟩ := hd
  rw [List.nil_append] at hd
  refine Total.read asked_stable hd fun u hu => ?_
  have hticking : Ticking d₀ 0 asks [] (Gone u) u := ⟨hu.toHandling, fun _ => id⟩
  refine (panicRounds_total hticking).bind fun v x hx => ?_
  obtain ⟨rounds, ticked, rfl, htick, hlo, hhi, hlast, hprompt⟩ := hx.count
  have hnum := hu.numNss_eq
  have hdelays := htick.delays_eq
  have hbound : ∀ i ∈ ticked, i < NSS_MAX_CORES := fun i hi => (htick.ticked_gone i hi).1
  have hhandled : Handled d₀ x := by
    refine ⟨⟨asks, htick.asked_eq, hu.asks_nodup, fun i hi => ?_, fun i hi => ?_⟩,
      ⟨ticked, htick.nodup, fun i hi => ?_, fun i => (htick.dumped i).mp, ?_⟩, ?_, ?_, ?_⟩
    · exact ⟨List.mem_range.mp (hu.mapped i hi).1, (hu.mapped i hi).2⟩
    · exact (hu.skipped i (List.mem_range.mpr hi)).imp_right (htick.still i)
    · exact ⟨hbound i hi, (htick.ticked_gone i hi).2, (htick.dumped i).mpr (.inr hi), htick.fresh i hi⟩
    · intro hlt
      have := hlast hlt
      omega
    · omega
    · intro hearly i hi
      have hfull : NSS_MAX_CORES ≤ ticked.length := by
        by_contra hnot
        have := hlast (Nat.lt_of_not_le hnot)
        omega
      exact (htick.ticked_gone i (ticked_all htick.nodup hbound hfull hi)).2
    · intro hall
      have := hprompt fun i hi => ⟨hu.gone i (hall i hi).1, (hall i hi).2⟩
      omega
  refine Total.ret (fun d d' hb h => ?_) ⟨rfl, hhandled⟩
  exact ⟨h.1, handled_stable d₀ _ _ hb h.2⟩

end NssDrv.PanicHandler

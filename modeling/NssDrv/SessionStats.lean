import Mathlib.Data.BitVec
import Mathlib.Data.List.Induction
import NssDrv.NotifyRouting

set_option autoImplicit false

/-!
# The tables of session statistics

A registered session has one slot, and the slot has counted what was reported
for the session.
-/
namespace NssDrv.SessionStats
open CallTree ThreadRuns TransitionRuns HlosInterface InterfaceTables CapwapTunnel
open CapwapRegistration SessionRegistration SessionRuns SlotTables
open DynamicInterface (nssIsDynamicInterface)

section Tables
variable {κ : Type}

def owner (x : StatsSlot κ) : Option ℕ := if x.valid = true then some x.ifNum else none

/-- The table of the sessions that are `registered`, with what was reported for them. -/
structure Accounted (size : ℕ) (registered : ℕ → Prop) (reported : ℕ → κ → BitVec 64)
    (slots : List (StatsSlot κ)) : Prop where
  length : slots.length = size
  free : ∀ x ∈ slots, x.valid = false → x.ifNum = 0
  held : ∀ x ∈ slots, x.valid = true → registered x.ifNum ∧ x.stats = reported x.ifNum
  once : Once owner slots
  covered : (∀ x ∈ slots, x.valid = true) ∨
    ∀ n, registered n → ∃ x ∈ slots, owner x = some n

variable {size n m ifIndex : ℕ} {registered registered' : ℕ → Prop}
variable {reported reported' : ℕ → κ → BitVec 64} {slots slots' : List (StatsSlot κ)}
variable {x y : StatsSlot κ}

theorem owner_some : owner x = some n ↔ x.valid = true ∧ x.ifNum = n := by
  unfold owner
  split
  · rename_i hvalid
    rw [Option.some.injEq]
    exact ⟨fun h => ⟨hvalid, h⟩, And.right⟩
  · rename_i hvalid
    exact ⟨nofun, fun h => absurd h.1 hvalid⟩

theorem Accounted.congr (h : Accounted size registered reported slots)
    (hregistered : ∀ n, registered' n ↔ registered n)
    (hreported : ∀ n, registered n → reported' n = reported n) :
    Accounted size registered' reported' slots := by
  refine ⟨h.length, h.free, fun x hx hvalid => ?_, h.once, h.covered.imp_right fun hall n hn => ?_⟩
  · obtain ⟨hreg, hstats⟩ := h.held x hx hvalid
    exact ⟨(hregistered _).mpr hreg, hstats.trans (hreported _ hreg).symm⟩
  · exact hall n ((hregistered n).mp hn)

theorem Accounted.owned_iff (h : Accounted size registered reported slots) {l : List ℕ}
    (hl : l.length ≤ size) (hall : ∀ n, registered n → n ∈ l) (hn : registered n) :
    owned owner n slots = 1 := by
  have hex : ∃ x ∈ slots, owner x = some n := by
    rcases h.covered with hfull | hcovered
    · have hheld : ∀ x ∈ slots, ∃ n, owner x = some n ∧ registered n := fun x hx =>
        ⟨x.ifNum, owner_some.mpr ⟨hfull x hx, rfl⟩, (h.held x hx (hfull x hx)).1⟩
      exact h.once.all_own hheld (h.length ▸ hl) hall hn
    · exact hcovered n hn
  obtain ⟨x, hx, hown⟩ := hex
  exact h.once.owned_one hx hown

theorem Accounted.owned_none (h : Accounted size registered reported slots)
    (hn : ¬ registered n) : owned owner n slots = 0 := by
  refine owned_zero fun x hx hown => ?_
  obtain ⟨hvalid, rfl⟩ := owner_some.mp hown
  exact hn (h.held x hx hvalid).1

theorem claimSlot_split (h : claimSlot n ifIndex slots = some slots') :
    ∃ front x back, slots = front ++ x :: back ∧ x.valid = false ∧
      slots.find? (fun x => !x.valid) = some x ∧
      slots' = front ++ { x with valid := true, ifNum := n, ifIndex := ifIndex } :: back := by
  obtain ⟨front, x, back, rfl, hfront, hx, rfl⟩ := updateFirst_split h
  refine ⟨front, x, back, rfl, ?_, ?_, rfl⟩
  · rwa [Bool.not_eq_true'] at hx
  · refine List.find?_eq_some_iff_append.mpr ⟨hx, front, back, rfl, fun y hy => ?_⟩
    rw [hfront y hy]
    rfl

theorem Accounted.claim (h : Accounted size registered reported slots)
    (hclaim : claimSlot n ifIndex slots = some slots')
    (hfresh : ∀ x ∈ slots, x.valid = true → x.ifNum ≠ n)
    (hzero : ∀ x, slots.find? (fun x => !x.valid) = some x → x.stats = fun _ => 0) :
    Accounted size (fun m => m = n ∨ registered m)
      (Function.update reported n fun _ => 0) slots' := by
  have hlength := updateFirst_length hclaim
  obtain ⟨front, x, back, rfl, hinvalid, hfind, rfl⟩ := claimSlot_split hclaim
  have hmem : ∀ {y}, y ∈ front ++ back → y ∈ front ++ x :: back := fun hy => mem_middle.mpr (.inr hy)
  refine ⟨hlength.trans h.length, fun y hy hinvalid => ?_, fun y hy hvalid => ?_, ?_, ?_⟩
  · rcases mem_middle.mp hy with rfl | hy
    · cases hinvalid
    · exact h.free y (hmem hy) hinvalid
  · rcases mem_middle.mp hy with rfl | hy
    · refine ⟨.inl rfl, ?_⟩
      rw [Function.update_self]
      exact hzero x hfind
    · obtain ⟨hreg, hown⟩ := h.held y (hmem hy) hvalid
      rw [Function.update_of_ne (hfresh y (hmem hy) hvalid)]
      exact ⟨.inr hreg, hown⟩
  · refine once_middle.mpr ⟨fun y hy k hk hyk => ?_, (once_middle.mp h.once).2⟩
    obtain ⟨-, rfl⟩ := owner_some.mp hk
    obtain ⟨hvalid, hnum⟩ := owner_some.mp hyk
    exact hfresh y (hmem hy) hvalid hnum
  · rcases h.covered with hfull | hcovered
    · cases hinvalid.symm.trans (hfull x (mem_middle.mpr (.inl rfl)))
    refine .inr fun k hk => ?_
    rcases hk with rfl | hreg
    · exact ⟨_, mem_middle.mpr (.inl rfl), owner_some.mpr ⟨rfl, rfl⟩⟩
    · obtain ⟨y, hy, hown⟩ := hcovered k hreg
      rcases mem_middle.mp hy with rfl | hy
      · cases hinvalid.symm.trans (owner_some.mp hown).1
      · exact ⟨y, mem_middle.mpr (.inr hy), hown⟩

theorem Accounted.overflow (h : Accounted size registered reported slots)
    (hclaim : claimSlot n ifIndex slots = none)
    (hfresh : ∀ x ∈ slots, x.valid = true → x.ifNum ≠ n) :
    Accounted size (fun m => m = n ∨ registered m)
      (Function.update reported n fun _ => 0) slots := by
  have hfull : ∀ x ∈ slots, x.valid = true := fun x hx => by
    have hnot := updateFirst_none hclaim x hx
    rwa [Bool.not_eq_false'] at hnot
  refine ⟨h.length, h.free, fun x hx hvalid => ?_, h.once, .inl hfull⟩
  obtain ⟨hreg, hstats⟩ := h.held x hx hvalid
  rw [Function.update_of_ne (hfresh x hx hvalid)]
  exact ⟨.inr hreg, hstats⟩

theorem Accounted.found (h : Accounted size registered reported slots) (hn : n ≠ 0)
    (hx : x ∈ slots) (hnum : x.ifNum = n) : owner x = some n := by
  refine owner_some.mpr ⟨?_, hnum⟩
  by_contra hinvalid
  exact hn (hnum.symm.trans (h.free x hx (Bool.eq_false_iff.mpr hinvalid)))

def Covered (registered : ℕ → Prop) (slots : List (StatsSlot κ)) : Prop :=
  ∀ n, registered n → ∃ x ∈ slots, owner x = some n

theorem Covered.claim (h : Covered registered slots)
    (hclaim : claimSlot n ifIndex slots = some slots') :
    Covered (fun m => m = n ∨ registered m) slots' := by
  obtain ⟨front, x, back, rfl, hinvalid, -, rfl⟩ := claimSlot_split hclaim
  rintro k (rfl | hreg)
  · exact ⟨_, mem_middle.mpr (.inl rfl), owner_some.mpr ⟨rfl, rfl⟩⟩
  · obtain ⟨y, hy, hown⟩ := h k hreg
    rcases mem_middle.mp hy with rfl | hy
    · cases hinvalid.symm.trans (owner_some.mp hown).1
    · exact ⟨y, mem_middle.mpr (.inr hy), hown⟩

theorem Accounted.clear (h : Accounted size registered reported slots)
    (hcovered : Covered registered slots) (hn : n ≠ 0)
    (hclear : clearSlot n slots = some slots') :
    Accounted size (fun m => m ≠ n ∧ registered m) reported slots' ∧
      Covered (fun m => m ≠ n ∧ registered m) slots' := by
  have hlength := updateFirst_length hclear
  obtain ⟨front, x, back, rfl, -, hx, rfl⟩ := updateFirst_split hclear
  have hmem : ∀ {y}, y ∈ front ++ back → y ∈ front ++ x :: back := fun hy => mem_middle.mpr (.inr hy)
  have hown : owner x = some n := h.found hn (mem_middle.mpr (.inl rfl)) (beq_iff_eq.mp hx)
  obtain ⟨hothers, hrest⟩ := once_middle.mp h.once
  have hcovered : Covered (fun m => m ≠ n ∧ registered m) (front ++ .empty κ :: back) := by
    rintro m ⟨hm, hreg⟩
    obtain ⟨y, hy, hy'⟩ := hcovered m hreg
    rcases mem_middle.mp hy with rfl | hy
    · exact absurd (Option.some.inj (hy'.symm.trans hown)) hm
    · exact ⟨y, mem_middle.mpr (.inr hy), hy'⟩
  refine ⟨⟨hlength.trans h.length, fun y hy hinvalid => ?_, fun y hy hvalid => ?_, ?_,
    .inr hcovered⟩, hcovered⟩
  · rcases mem_middle.mp hy with rfl | hy
    · rfl
    · exact h.free y (hmem hy) hinvalid
  · rcases mem_middle.mp hy with rfl | hy
    · cases hvalid
    · obtain ⟨hreg, hstats⟩ := h.held y (hmem hy) hvalid
      refine ⟨⟨fun hnum => ?_, hreg⟩, hstats⟩
      exact hothers y hy n hown (owner_some.mpr ⟨hvalid, hnum⟩)
  · exact once_middle.mpr ⟨fun y hy k hk => (nomatch (owner_some.mp hk).1), hrest⟩

theorem Accounted.missing (h : Accounted size registered reported slots)
    (hclear : clearSlot n slots = none) :
    Accounted size (fun m => m ≠ n ∧ registered m) reported slots := by
  have hnone := updateFirst_none hclear
  refine ⟨h.length, h.free, fun x hx hvalid => ?_, h.once, h.covered.imp_right ?_⟩
  · obtain ⟨hreg, hstats⟩ := h.held x hx hvalid
    refine ⟨⟨fun hnum => ?_, hreg⟩, hstats⟩
    exact beq_eq_false_iff_ne.mp (hnone x hx) hnum
  · exact fun hall m hm => hall m hm.2

theorem Accounted.clearAll (h : Accounted size registered reported slots) (hsize : 2 ≤ size)
    (hown : ∀ x ∈ slots, x.valid = true → x.ifNum = n) :
    Accounted size (fun m => m ≠ n ∧ registered m) reported
      (slots.map fun x => { x with valid := false, ifNum := 0, ifIndex := 0 }) := by
  have hnone : ∀ m, ¬ (m ≠ n ∧ registered m) := by
    rintro m ⟨hm, hreg⟩
    rcases h.covered with hfull | hcovered
    · obtain ⟨x, y, rest, rfl⟩ : ∃ x y rest, slots = x :: y :: rest := by
        match slots, h.length with
        | [], hlength =>
          rw [← hlength] at hsize
          exact absurd hsize (Nat.not_succ_le_zero 1)
        | [x], hlength =>
          rw [← hlength] at hsize
          exact absurd hsize (Nat.lt_irrefl 1)
        | x :: y :: rest, _ => exact ⟨x, y, rest, rfl⟩
      have hx := List.mem_cons_self (a := x) (l := y :: rest)
      have hy := List.mem_cons_of_mem x (List.mem_cons_self (a := y) (l := rest))
      refine List.rel_of_pairwise_cons h.once List.mem_cons_self n ?_ ?_
      · exact owner_some.mpr ⟨hfull x hx, hown x hx (hfull x hx)⟩
      · exact owner_some.mpr ⟨hfull y hy, hown y hy (hfull y hy)⟩
    · obtain ⟨x, hx, hx'⟩ := hcovered m hreg
      obtain ⟨hvalid, hnum⟩ := owner_some.mp hx'
      exact hm (hnum.symm.trans (hown x hx hvalid))
  refine ⟨?_, fun y hy _ => ?_, fun y hy hvalid => ?_, ?_, .inr fun m hm => absurd hm (hnone m)⟩
  · rw [List.length_map]
    exact h.length
  · obtain ⟨x, -, rfl⟩ := List.mem_map.mp hy
    rfl
  · obtain ⟨x, -, rfl⟩ := List.mem_map.mp hy
    cases hvalid
  · refine List.pairwise_map.mpr (List.pairwise_of_forall fun x y k hk => ?_)
    cases (owner_some.mp hk).1

/-- A message counts in the slot of its number, and the number has none but its own. -/
theorem Accounted.sync (h : Accounted size registered reported slots) (hn : n ≠ 0)
    (f : (κ → BitVec 64) → κ → BitVec 64) :
    Accounted size registered (Function.update reported n (f (reported n)))
        (syncSlot n f slots) ∧
      (Covered registered slots → Covered registered (syncSlot n f slots)) := by
  unfold syncSlot
  cases hupdate : updateFirst (fun x => x.ifNum == n)
      (fun x : StatsSlot κ => { x with stats := f x.stats }) slots with
  | none =>
    have hnone := updateFirst_none hupdate
    refine ⟨⟨h.length, h.free, fun x hx hvalid => ?_, h.once, h.covered⟩, id⟩
    obtain ⟨hreg, hstats⟩ := h.held x hx hvalid
    rw [Function.update_of_ne (beq_eq_false_iff_ne.mp (hnone x hx))]
    exact ⟨hreg, hstats⟩
  | some slots' =>
    rw [Option.getD_some]
    have hlength := updateFirst_length hupdate
    obtain ⟨front, x, back, rfl, -, hx, rfl⟩ := updateFirst_split hupdate
    obtain rfl := beq_iff_eq.mp hx
    have hmem : ∀ {y}, y ∈ front ++ back → y ∈ front ++ x :: back :=
      fun hy => mem_middle.mpr (.inr hy)
    have hown := h.found hn (mem_middle.mpr (.inl rfl)) rfl
    obtain ⟨hothers, hrest⟩ := once_middle.mp h.once
    have hkept : Covered registered (front ++ x :: back) →
        Covered registered (front ++ { x with stats := f x.stats } :: back) := by
      intro hcovered m hreg
      obtain ⟨y, hy, hy'⟩ := hcovered m hreg
      rcases mem_middle.mp hy with rfl | hy
      · exact ⟨_, mem_middle.mpr (.inl rfl), hy'⟩
      · exact ⟨y, mem_middle.mpr (.inr hy), hy'⟩
    refine ⟨⟨hlength.trans h.length, fun y hy hinvalid => ?_, fun y hy hvalid => ?_, ?_, ?_⟩, hkept⟩
    · rcases mem_middle.mp hy with rfl | hy
      · exact h.free x (mem_middle.mpr (.inl rfl)) hinvalid
      · exact h.free y (hmem hy) hinvalid
    · rcases mem_middle.mp hy with rfl | hy
      · obtain ⟨hreg, hstats⟩ := h.held x (mem_middle.mpr (.inl rfl)) hvalid
        refine ⟨hreg, ?_⟩
        rw [Function.update_self, ← hstats]
      · obtain ⟨hreg, hstats⟩ := h.held y (hmem hy) hvalid
        rw [Function.update_of_ne]
        · exact ⟨hreg, hstats⟩
        · exact fun hnum => hothers y hy _ hown (owner_some.mpr ⟨hvalid, hnum⟩)
    · exact once_middle.mpr ⟨hothers, hrest⟩
    · refine h.covered.imp (fun hfull y hy => ?_) hkept
      rcases mem_middle.mp hy with rfl | hy
      · exact hfull x (mem_middle.mpr (.inl rfl))
      · exact hfull y (hmem hy)

end Tables

/-! ## Runs -/

def dtlsCount (report : DtlsStat → U32) (stats : DtlsStat → BitVec 64) : DtlsStat → BitVec 64 :=
  fun k =>
    match k with
    | .epoch | .txSeqHigh | .txSeqLow => (report k).setWidth 64
    | _ => stats k + (report k).setWidth 64

def pptpCount (report : PptpStat → U32) (stats : PptpStat → BitVec 64) : PptpStat → BitVec 64 :=
  fun k => stats k + (report k).setWidth 64

def total {ρ κ : Type} (count : ρ → (κ → BitVec 64) → κ → BitVec 64) (reports : List ρ) :
    κ → BitVec 64 :=
  reports.foldl (fun stats report => count report stats) fun _ => 0

theorem total_snoc {ρ κ : Type} (count : ρ → (κ → BitVec 64) → κ → BitVec 64) (reports : List ρ)
    (report : ρ) : total count (reports ++ [report]) = count report (total count reports) := by
  unfold total
  rw [List.foldl_append]
  rfl

/-- The statistics that are not counters hold what was reported last. -/
def DtlsStat.gauge : DtlsStat → Bool
  | .epoch | .txSeqHigh | .txSeqLow => true
  | _ => false

theorem dtlsCount_counter {report : DtlsStat → U32} {stats : DtlsStat → BitVec 64} {k : DtlsStat}
    (hk : DtlsStat.gauge k = false) :
    dtlsCount report stats k = stats k + (report k).setWidth 64 := by
  cases k <;> first | rfl | cases hk

theorem total_sum {ρ κ : Type} {count : ρ → (κ → BitVec 64) → κ → BitVec 64} {k : κ}
    {delta : ρ → BitVec 64} (hcount : ∀ report stats, count report stats k = stats k + delta report)
    (reports : List ρ) : total count reports k = (reports.map delta).sum := by
  induction reports using List.reverseRecOn with
  | nil => rfl
  | append_singleton reports report ih =>
    rw [total_snoc, hcount, ih, List.map_append, List.sum_append]
    simp

variable {f : Family} {env : SessionEnv} {n m : ℕ} {ncm : RxMsg} {s t : NssTop}
variable {w w' : Sessions} {l : SessionCall} {r : IfParams} {found : Bool}

def dtlsTotal (w : Sessions) (n : ℕ) : DtlsStat → BitVec 64 := total dtlsCount (w.dtlsReports n)
def pptpTotal (w : Sessions) (n : ℕ) : PptpStat → BitVec 64 := total pptpCount (w.pptpReports n)

/-- A registration of DTLS that finds a free slot finds the data plane free, and no
    number has a slot already. A free slot of PPTP has counted nothing, and a
    session of PPTP is only unregistered when it is alone. -/
def Countable (w : Sessions) (l : SessionCall) : Prop :=
  OwnNumber w l ∧
  match l with
  | .register .dtls r _ => (∃ x ∈ w.top.dtlsSessionDebugStats, x.valid = false) →
    (w.top.dp r.ifNum).ndev = 0 ∧
      ∀ x ∈ w.top.dtlsSessionDebugStats, x.valid = true → x.ifNum ≠ r.ifNum
  | .register .pptp r _ =>
    (∀ x ∈ w.top.pptpSessionDebugStats, x.valid = true → x.ifNum ≠ r.ifNum) ∧
      ∀ x, w.top.pptpSessionDebugStats.find? (fun x => !x.valid) = some x →
        x.stats = fun _ => 0
  | .unregister .pptp n => ∀ x ∈ w.top.pptpSessionDebugStats, x.valid = true → x.ifNum = n
  | _ => True

section Registered
variable (hw : Owned w)
include hw

theorem Owned.not_free {g : Family} (hreg : w.registered f n) (hfamily : f ≠ .capwap)
    (hfree : Free g n w.top.toCapwap) : g = f := by
  obtain ⟨x, hx, rfl⟩ := hreg
  have hcb := hw.handler n x hx hfamily
  rcases hfree with hzero | hown
  · exact absurd (hcb.symm.trans hzero) (handler_pos _)
  · exact handler_injective (hown.symm.trans hcb)

theorem capwap_registered {l : Performed} {t : Capwap Unit}
    (hstep : RegistrationStep w.top.toCapwap l t) (hok : OwnNumber w (.capwap l))
    (hfamily : f ≠ .capwap) (n : ℕ) :
    (∃ g, w.afterCapwap l n = some g ∧ g.family = f) ↔ w.registered f n := by
  constructor
  · rintro ⟨g, hg, hgf⟩
    rcases afterCapwap_cases hg with hgiven | ⟨_, _, -, rfl, -⟩ | ⟨_, _, _, -, rfl, -⟩
    · exact ⟨g, hgiven, hgf⟩
    · exact absurd hgf.symm hfamily
    · exact absurd hgf.symm hfamily
  · intro hreg
    have hnot : ¬ Free .capwap n w.top.toCapwap := fun hfree =>
      hfamily (Owned.not_free hw hreg hfamily hfree).symm
    obtain ⟨g, hg, hgf⟩ := hreg
    refine ⟨g, ?_, hgf⟩
    by_cases hn : n = Performed.ifNum l
    · have hundo : w.undo .capwap n n = some g := by
        unfold Sessions.undo
        rw [hg, Option.map_some,
          if_neg (fun heq => hfamily (hgf.symm.trans (Option.some.inj heq)))]
        exact hg
      obtain ⟨call, env, result⟩ := l
      subst hn
      unfold Sessions.afterCapwap
      dsimp only
      split
      · rename_i k cb appData
        obtain ⟨hverifies, hempty⟩ := exec_notifyRegister_found cb appData hstep
        exact absurd (hok hverifies hempty) hnot
      · exact hundo
      · exact absurd (.inl (dataRegister_handler hw.tunnelled hstep).2.1) hnot
      · exact hundo
      · exact hg
    · exact (NotifyRouting.afterCapwap_other hn).trans hg

theorem register_registered {g : Family} (hfamily : f ≠ .capwap)
    (hfree : Free g r.ifNum w.top.toCapwap) (n : ℕ) :
    (w.afterRegister g r true t).registered f n ↔
      (g = f ∧ n = r.ifNum) ∨ w.registered f n := by
  constructor
  · rintro ⟨x, hx, hxf⟩
    rcases afterRegister_cases hx with ⟨hgiven, -⟩ | ⟨-, hn, rfl⟩
    · exact .inr ⟨x, hgiven, hxf⟩
    · exact .inl ⟨hxf, hn⟩
  · rintro (⟨rfl, rfl⟩ | hreg)
    · exact ⟨_, Function.update_self _ _ _, rfl⟩
    · by_cases hn : n = r.ifNum
      · subst hn
        obtain rfl := Owned.not_free hw hreg hfamily hfree
        exact ⟨_, Function.update_self _ _ _, rfl⟩
      · obtain ⟨x, hx, hxf⟩ := hreg
        exact ⟨x, (Function.update_of_ne hn _ _).trans hx, hxf⟩

omit hw in
theorem undo_registered {g : Family} (n : ℕ) :
    (∃ x, w.undo g m n = some x ∧ x.family = f) ↔ ¬ (g = f ∧ n = m) ∧ w.registered f n := by
  constructor
  · rintro ⟨x, hx, hxf⟩
    obtain ⟨hgiven, hundone⟩ := undo_cases hx
    refine ⟨?_, x, hgiven, hxf⟩
    rintro ⟨rfl, rfl⟩
    exact hundone rfl hxf
  · rintro ⟨hnot, x, hx, hxf⟩
    refine ⟨x, ?_, hxf⟩
    unfold Sessions.undo
    by_cases hfamily : (w.given m).map Session.family = some g
    · rw [if_pos hfamily]
      by_cases hn : n = m
      · subst hn
        rw [hx] at hfamily
        exact absurd ⟨(Option.some.inj hfamily).symm.trans hxf, rfl⟩ hnot
      · exact (Function.update_of_ne hn _ _).trans hx
    · rw [if_neg hfamily]
      exact hx

end Registered

/-! ## The tables before and after a call -/

theorem greRedir_tables (h : nssGreRedirRegisterIf r s = some (found, t)) :
    t.dtlsSessionDebugStats = s.dtlsSessionDebugStats ∧
      t.pptpSessionDebugStats = s.pptpSessionDebugStats := by
  unfold nssGreRedirRegisterIf at h
  dsimp only at h
  split at h
  · obtain ⟨-, rfl⟩ := Prod.mk.inj (Option.some.inj h)
    exact ⟨rfl, rfl⟩
  · obtain ⟨-, rfl⟩ := Prod.mk.inj (Option.some.inj h)
    exact ⟨rfl, rfl⟩

theorem greRedir_cleared (h : nssGreRedirUnregisterIf n s = some t) :
    t.dtlsSessionDebugStats = s.dtlsSessionDebugStats ∧
      t.pptpSessionDebugStats = s.pptpSessionDebugStats := by
  unfold nssGreRedirUnregisterIf at h
  dsimp only at h
  split at h
  · obtain rfl := Option.some.inj h
    exact ⟨rfl, rfl⟩
  · obtain rfl := Option.some.inj h
    exact ⟨rfl, rfl⟩

theorem verify_dynamic (h : ¬ nssDtlsVerifyIfNum env n = false) :
    nssIsDynamicInterface n = true := by
  by_contra hstatic
  rw [Bool.not_eq_true] at hstatic
  exact h (if_pos hstatic)

theorem dtlsRegister_tables (h : nssDtlsRegisterIf env r s = some (found, t)) :
    nssIsDynamicInterface r.ifNum = true ∧
      t.pptpSessionDebugStats = s.pptpSessionDebugStats ∧
      ((found = false ∧ t.dtlsSessionDebugStats = s.dtlsSessionDebugStats) ∨
        (∃ x ∈ s.dtlsSessionDebugStats, x.valid = false) ∧
          claimSlot r.ifNum r.netdev.ifindex s.dtlsSessionDebugStats =
            some t.dtlsSessionDebugStats ∧
          (found = false → (s.dp r.ifNum).ndev ≠ 0)) := by
  unfold nssDtlsRegisterIf at h
  split at h
  · cases h
  rename_i hverify
  have hdynamic := verify_dynamic hverify
  split at h
  · obtain ⟨rfl, rfl⟩ := Prod.mk.inj (Option.some.inj h)
    exact ⟨hdynamic, rfl, .inl ⟨rfl, rfl⟩⟩
  rename_i slots hclaim
  dsimp only at h
  split at h
  · rename_i hndev
    obtain ⟨rfl, rfl⟩ := Prod.mk.inj (Option.some.inj h)
    exact ⟨hdynamic, rfl, .inr ⟨claimSlot_free hclaim, hclaim, fun _ => hndev⟩⟩
  · obtain ⟨rfl, rfl⟩ := Prod.mk.inj (Option.some.inj h)
    exact ⟨hdynamic, rfl, .inr ⟨claimSlot_free hclaim, hclaim, nofun⟩⟩

theorem dtlsUnregister_tables (h : nssDtlsUnregisterIf env n s = some t) :
    nssIsDynamicInterface n = true ∧
      t.pptpSessionDebugStats = s.pptpSessionDebugStats ∧
      ((clearSlot n s.dtlsSessionDebugStats = none ∧
          t.dtlsSessionDebugStats = s.dtlsSessionDebugStats) ∨
        clearSlot n s.dtlsSessionDebugStats = some t.dtlsSessionDebugStats) := by
  unfold nssDtlsUnregisterIf at h
  split at h
  · cases h
  rename_i hverify
  have hdynamic := verify_dynamic hverify
  split at h
  · rename_i hclear
    obtain rfl := Option.some.inj h
    exact ⟨hdynamic, rfl, .inl ⟨hclear, rfl⟩⟩
  rename_i slots hclear
  dsimp only at h
  split at h
  · obtain rfl := Option.some.inj h
    exact ⟨hdynamic, rfl, .inr hclear⟩
  · obtain rfl := Option.some.inj h
    exact ⟨hdynamic, rfl, .inr hclear⟩

theorem register_dtls (hf : f ≠ .dtls) (h : f.register env r s = some (found, t)) :
    t.dtlsSessionDebugStats = s.dtlsSessionDebugStats := by
  cases f with
  | capwap => cases h
  | dtls => exact absurd rfl hf
  | greRedir => exact (greRedir_tables h).1
  | pptp | l2tpv2 | mapT | tun6rd | wifiVdev =>
    obtain ⟨-, rfl⟩ := Prod.mk.inj (Option.some.inj h)
    rfl

theorem register_pptp (hf : f ≠ .pptp) (h : f.register env r s = some (found, t)) :
    t.pptpSessionDebugStats = s.pptpSessionDebugStats := by
  cases f with
  | capwap => cases h
  | pptp => exact absurd rfl hf
  | dtls => exact (dtlsRegister_tables h).2.1
  | greRedir => exact (greRedir_tables h).2
  | l2tpv2 | mapT | tun6rd | wifiVdev =>
    obtain ⟨-, rfl⟩ := Prod.mk.inj (Option.some.inj h)
    rfl

theorem unregister_dtls (hf : f ≠ .dtls) (h : f.unregister env n s = some t) :
    t.dtlsSessionDebugStats = s.dtlsSessionDebugStats := by
  cases f with
  | capwap => cases h
  | dtls => exact absurd rfl hf
  | greRedir => exact (greRedir_cleared h).1
  | pptp | l2tpv2 | mapT | tun6rd | wifiVdev =>
    obtain rfl := Option.some.inj h
    rfl

theorem unregister_pptp (hf : f ≠ .pptp) (h : f.unregister env n s = some t) :
    t.pptpSessionDebugStats = s.pptpSessionDebugStats := by
  cases f with
  | capwap => cases h
  | pptp => exact absurd rfl hf
  | dtls => exact (dtlsUnregister_tables h).2.1
  | greRedir => exact (greRedir_cleared h).2
  | l2tpv2 | mapT | tun6rd | wifiVdev =>
    obtain rfl := Option.some.inj h
    rfl

section Receive
variable {invoked : Invoked} {α : Type} {type : ℕ} {old new synced : α}

/-- A message counts where it comes to the handler of its family, and nothing is
    lost of what the handler of a dynamic number gets. -/
inductive TableStep (f : Family) (type : ℕ) (ncm : RxMsg) (s : NssTop) (old new synced : α) :
    Prop where
  | kept (hsame : new = old)
      (hlost : nssIsDynamicInterface ncm.interface = true →
        (s.handlers ncm.interface).cb = f.handler → ¬ (RxMsg.arrives ncm ∧ ncm.type = type))
  | counted (hsynced : new = synced) (harrives : RxMsg.arrives ncm ∧ ncm.type = type)
      (hnonzero : ncm.interface ≠ 0)

theorem dynamic_nonzero (h : nssIsDynamicInterface n = true) : n ≠ 0 := by
  rintro rfl
  cases h

theorem receive_nonzero (hf : f = .dtls ∨ f = .pptp)
    (h : f.receive env ncm s = some (t, invoked)) : ncm.interface ≠ 0 := by
  intro hzero
  rcases hf with rfl | rfl
  · have h : nssDtlsHandler env ncm s = some (t, invoked) := h
    unfold nssDtlsHandler nssDtlsVerifyIfNum at h
    rw [hzero] at h
    cases h
  · have h : nssPptpHandler ncm s = some (t, invoked) := h
    unfold nssPptpHandler at h
    rw [hzero] at h
    cases h

theorem tableStep_of_synced {g : Family} (hhandler : (s.handlers ncm.interface).cb = g.handler)
    (hversion : ncm.version = NSS_HLOS_MESSAGE_VERSION) (hlen : ncm.len ≤ ncm.bufLen)
    (hnonzero : g = f → ncm.interface ≠ 0)
    (hnew : new = if g = f ∧ ncm.fits = true ∧ ncm.type = type then synced else old) :
    TableStep f type ncm s old new synced := by
  by_cases hcounts : g = f ∧ ncm.fits = true ∧ ncm.type = type
  · rw [if_pos hcounts] at hnew
    obtain ⟨hg, hfits, htype⟩ := hcounts
    exact .counted hnew ⟨⟨hversion, hlen, hfits⟩, htype⟩ (hnonzero hg)
  · rw [if_neg hcounts] at hnew
    refine .kept hnew fun _ hown ⟨harrives, htype⟩ => ?_
    exact hcounts ⟨handler_injective (hhandler.symm.trans hown), harrives.2.2, htype⟩

theorem status_tables (h : nssCoreHandleNssStatusPkt env ncm s = some (t, invoked)) :
    TableStep .dtls NSS_DTLS_MSG_SESSION_STATS ncm s s.dtlsSessionDebugStats
        t.dtlsSessionDebugStats
        (nssDtlsSessionStatsSync ncm.dtlsStats ncm.interface s.dtlsSessionDebugStats) ∧
      TableStep .pptp NSS_PPTP_MSG_SYNC_STATS ncm s s.pptpSessionDebugStats
        t.pptpSessionDebugStats
        (nssPptpSessionDebugStatsSync ncm.pptpStats ncm.interface s.pptpSessionDebugStats) := by
  unfold nssCoreHandleNssStatusPkt at h
  split at h
  · rename_i hversion
    obtain ⟨rfl, -⟩ := Prod.mk.inj (Option.some.inj h)
    exact ⟨.kept rfl fun _ _ harrives => hversion harrives.1.1,
      .kept rfl fun _ _ harrives => hversion harrives.1.1⟩
  rename_i hversion
  rw [not_not] at hversion
  split at h
  · rename_i hlen
    obtain ⟨rfl, -⟩ := Prod.mk.inj (Option.some.inj h)
    exact ⟨.kept rfl fun _ _ harrives => Nat.not_lt.mpr harrives.1.2.1 hlen,
      .kept rfl fun _ _ harrives => Nat.not_lt.mpr harrives.1.2.1 hlen⟩
  rename_i hlen
  have hlen := Nat.not_lt.mp hlen
  split at h
  · rename_i hrange
    obtain ⟨rfl, -⟩ := Prod.mk.inj (Option.some.inj h)
    have hstatic : nssIsDynamicInterface ncm.interface = true → False := fun hn =>
      Nat.not_le.mpr (dynamic_range hn).2 hrange
    exact ⟨.kept rfl fun hn => (hstatic hn).elim, .kept rfl fun hn => (hstatic hn).elim⟩
  split at h
  · rename_i hnone
    obtain ⟨rfl, -⟩ := Prod.mk.inj (Option.some.inj h)
    have hother : ∀ f : Family, (s.handlers ncm.interface).cb ≠ f.handler := by
      intro f hf
      rw [hf, ofHandler_handler] at hnone
      cases hnone
    exact ⟨.kept rfl fun _ hcb => (hother _ hcb).elim, .kept rfl fun _ hcb => (hother _ hcb).elim⟩
  · rename_i g hg
    have hcb := handler_ofHandler hg
    have hsynced := receive_synced h
    refine ⟨tableStep_of_synced hcb hversion hlen (fun hdtls => ?_) hsynced.dtls,
      tableStep_of_synced hcb hversion hlen (fun hpptp => ?_) hsynced.pptp⟩
    · exact receive_nonzero (.inl hdtls) h
    · exact receive_nonzero (.inr hpptp) h

end Receive

/-- What `Kept` says of the table of DTLS. -/
structure DtlsKept (w : Sessions) : Prop where
  accounted : Accounted NSS_MAX_DTLS_SESSIONS (w.registered .dtls) (dtlsTotal w)
    w.top.dtlsSessionDebugStats
  covered : Covered (w.registered .dtls) w.top.dtlsSessionDebugStats
  zero : ∀ x ∈ w.top.dtlsSessionDebugStats, x.valid = false → x.stats = fun _ => 0

def PptpKept (w : Sessions) : Prop :=
  Accounted NSS_MAX_PPTP_DYNAMIC_INTERFACES (w.registered .pptp) (pptpTotal w)
    w.top.pptpSessionDebugStats

theorem DtlsKept.same (h : DtlsKept w)
    (htable : w'.top.dtlsSessionDebugStats = w.top.dtlsSessionDebugStats)
    (hregistered : ∀ n, w'.registered .dtls n ↔ w.registered .dtls n)
    (htotal : ∀ n, w.registered .dtls n → dtlsTotal w' n = dtlsTotal w n) : DtlsKept w' := by
  constructor
  · rw [htable]
    exact h.accounted.congr hregistered htotal
  · rw [htable]
    exact fun n hn => h.covered n ((hregistered n).mp hn)
  · rw [htable]
    exact h.zero

theorem PptpKept.same (h : PptpKept w)
    (htable : w'.top.pptpSessionDebugStats = w.top.pptpSessionDebugStats)
    (hregistered : ∀ n, w'.registered .pptp n ↔ w.registered .pptp n)
    (htotal : ∀ n, w.registered .pptp n → pptpTotal w' n = pptpTotal w n) : PptpKept w' := by
  unfold PptpKept
  rw [htable]
  exact Accounted.congr h hregistered htotal

theorem register_free (h : f.register env r w.top = some (true, t))
    (hok : OwnNumber w (.register f r true)) : Free f r.ifNum w.top.toCapwap := by
  rcases register_cases h with ⟨hfalse, -⟩ | ⟨-, -, hopens, -⟩
  · cases hfalse
  · exact (hok hopens).2

theorem register_others {g : Family} (hw : Owned w) (hg : g ≠ .capwap) (hfg : f ≠ g)
    (h : f.register env r w.top = some (found, t)) (hok : OwnNumber w (.register f r found))
    (n : ℕ) : (w.afterRegister f r found t).registered g n ↔ w.registered g n := by
  cases found with
  | false => exact Iff.rfl
  | true =>
    rw [register_registered hw hg (register_free h hok)]
    exact or_iff_right fun heq => hfg heq.1

theorem DtlsKept.register (hw : Owned w) (hkept : DtlsKept w)
    (h : f.register env r w.top = some (found, t)) (hok : Countable w (.register f r found)) :
    DtlsKept (w.afterRegister f r found t) := by
  have htop : (w.afterRegister f r found t).top = t := afterRegister_top
  by_cases hf : f = .dtls
  · subst hf
    obtain ⟨-, -, ⟨rfl, hsame⟩ | ⟨hfree, hclaim, hfailed⟩⟩ := dtlsRegister_tables h
    · exact hkept.same hsame (fun _ => Iff.rfl) fun _ _ => rfl
    obtain ⟨hndev, hfresh⟩ := hok.2 hfree
    cases found with
    | false => exact absurd hndev (hfailed rfl)
    | true =>
      have hregistered := register_registered (t := t) (f := .dtls) hw nofun
        (register_free h hok.1)
      have haccounted := hkept.accounted.claim hclaim hfresh fun x hx =>
        hkept.zero x (List.mem_of_find?_eq_some hx) (by
          have hfound := List.find?_some hx
          rwa [Bool.not_eq_true'] at hfound)
      constructor
      · rw [htop]
        refine haccounted.congr (fun n => ?_) fun n _ => ?_
        · rw [hregistered]
          simp only [true_and]
        · show total dtlsCount (Function.update w.dtlsReports r.ifNum [] n) = _
          by_cases hn : n = r.ifNum
          · subst hn
            rw [Function.update_self, Function.update_self]
            rfl
          · rw [Function.update_of_ne hn, Function.update_of_ne hn]
            rfl
      · rw [htop]
        intro n hn
        exact hkept.covered.claim hclaim n (((hregistered n).mp hn).imp_left And.right)
      · rw [htop]
        obtain ⟨front, x, back, hslots, -, -, hslots'⟩ := claimSlot_split hclaim
        rw [hslots']
        intro y hy hinvalid
        rcases mem_middle.mp hy with rfl | hy
        · cases hinvalid
        · refine hkept.zero y ?_ hinvalid
          rw [hslots]
          exact mem_middle.mpr (.inr hy)
  · refine hkept.same ?_ (register_others hw nofun hf h hok.1) fun n _ => ?_
    · rw [htop]
      exact register_dtls hf h
    · cases found with
      | false => rfl
      | true =>
        show total dtlsCount ((if f = .dtls then _ else w.dtlsReports) n) = _
        rw [if_neg hf]
        rfl

theorem PptpKept.register (hw : Owned w) (hkept : PptpKept w)
    (h : f.register env r w.top = some (found, t)) (hok : Countable w (.register f r found)) :
    PptpKept (w.afterRegister f r found t) := by
  have htop : (w.afterRegister f r found t).top = t := afterRegister_top
  by_cases hf : f = .pptp
  · subst hf
    obtain ⟨hfresh, hzero⟩ := hok.2
    obtain ⟨hfound, ht⟩ := Prod.mk.inj (Option.some.inj h)
    obtain rfl : true = found := hfound
    have htable : t.pptpSessionDebugStats =
        (claimSlot r.ifNum r.netdev.ifindex w.top.pptpSessionDebugStats).getD
          w.top.pptpSessionDebugStats := by
      rw [← ht]
      rfl
    have hregistered := register_registered (t := t) (f := .pptp) hw nofun
      (register_free h hok.1)
    have haccounted : Accounted NSS_MAX_PPTP_DYNAMIC_INTERFACES
        (fun m => m = r.ifNum ∨ w.registered .pptp m)
        (Function.update (pptpTotal w) r.ifNum fun _ => 0)
        ((claimSlot r.ifNum r.netdev.ifindex w.top.pptpSessionDebugStats).getD
          w.top.pptpSessionDebugStats) := by
      cases hclaim : claimSlot r.ifNum r.netdev.ifindex w.top.pptpSessionDebugStats with
      | none => exact Accounted.overflow hkept hclaim hfresh
      | some slots => exact Accounted.claim hkept hclaim hfresh hzero
    unfold PptpKept
    rw [htop, htable]
    refine haccounted.congr (fun n => ?_) fun n _ => ?_
    · rw [hregistered]
      simp only [true_and]
    · show total pptpCount (Function.update w.pptpReports r.ifNum [] n) = _
      by_cases hn : n = r.ifNum
      · subst hn
        rw [Function.update_self, Function.update_self]
        rfl
      · rw [Function.update_of_ne hn, Function.update_of_ne hn]
        rfl
  · refine hkept.same ?_ (register_others hw nofun hf h hok.1) fun n _ => ?_
    · rw [htop]
      exact register_pptp hf h
    · cases found with
      | false => rfl
      | true =>
        show total pptpCount ((if f = .pptp then _ else w.pptpReports) n) = _
        rw [if_neg hf]
        rfl

theorem DtlsKept.unregister (hkept : DtlsKept w) (h : f.unregister env n w.top = some t) :
    DtlsKept { w with top := t, given := w.undo f n } := by
  by_cases hf : f = .dtls
  · subst hf
    have hregistered : ∀ m, Sessions.registered { w with top := t, given := w.undo .dtls n } .dtls m ↔
        m ≠ n ∧ w.registered .dtls m := fun m => by
      refine (undo_registered (g := .dtls) (f := .dtls) m).trans ?_
      simp only [true_and, ne_eq]
    obtain ⟨hdynamic, -, ⟨hclear, hsame⟩ | hclear⟩ := dtlsUnregister_tables h
    · constructor
      · refine Accounted.congr ?_ hregistered fun _ _ => rfl
        exact hsame ▸ hkept.accounted.missing hclear
      · dsimp only
        rw [hsame]
        exact fun m hm => hkept.covered m ((hregistered m).mp hm).2
      · exact hsame ▸ hkept.zero
    · obtain ⟨haccounted, hcovered⟩ :=
        hkept.accounted.clear hkept.covered (dynamic_nonzero hdynamic) hclear
      refine ⟨haccounted.congr hregistered fun _ _ => rfl,
        fun m hm => hcovered m ((hregistered m).mp hm), fun y hy hinvalid => ?_⟩
      obtain ⟨front, x, back, hslots, -, -, hslots'⟩ := updateFirst_split hclear
      have hy : y ∈ front ++ StatsSlot.empty DtlsStat :: back := hslots' ▸ hy
      rcases mem_middle.mp hy with rfl | hy
      · rfl
      · refine hkept.zero y ?_ hinvalid
        rw [hslots]
        exact mem_middle.mpr (.inr hy)
  · refine hkept.same (unregister_dtls hf h) (fun m => ?_) fun _ _ => rfl
    refine (undo_registered (g := f) (f := .dtls) m).trans ?_
    exact and_iff_right fun heq => hf heq.1

theorem PptpKept.unregister (hkept : PptpKept w) (h : f.unregister env n w.top = some t)
    (hok : Countable w (.unregister f n)) :
    PptpKept { w with top := t, given := w.undo f n } := by
  by_cases hf : f = .pptp
  · subst hf
    have hregistered : ∀ m, Sessions.registered { w with top := t, given := w.undo .pptp n } .pptp m ↔
        m ≠ n ∧ w.registered .pptp m := fun m => by
      refine (undo_registered (g := .pptp) (f := .pptp) m).trans ?_
      simp only [true_and, ne_eq]
    have hcleared := Accounted.clearAll hkept (by decide) hok.2
    obtain rfl := Option.some.inj h
    exact hcleared.congr hregistered fun _ _ => rfl
  · refine hkept.same (unregister_pptp hf h) (fun m => ?_) fun _ _ => rfl
    refine (undo_registered (g := f) (f := .pptp) m).trans ?_
    exact and_iff_right fun heq => hf heq.1

theorem sync_free {κ : Type} {size : ℕ} {registered : ℕ → Prop} {reported : ℕ → κ → BitVec 64}
    {slots : List (StatsSlot κ)} (h : Accounted size registered reported slots) (hn : n ≠ 0)
    {g : (κ → BitVec 64) → κ → BitVec 64} {y : StatsSlot κ} (hy : y ∈ syncSlot n g slots)
    (hinvalid : y.valid = false) : y ∈ slots := by
  unfold syncSlot at hy
  cases hupdate : updateFirst (fun x => x.ifNum == n)
      (fun x : StatsSlot κ => { x with stats := g x.stats }) slots with
  | none => rwa [hupdate] at hy
  | some slots' =>
    rw [hupdate, Option.getD_some] at hy
    obtain ⟨front, x, back, rfl, -, hx, rfl⟩ := updateFirst_split hupdate
    rcases mem_middle.mp hy with rfl | hy
    · have hown := h.found hn (mem_middle.mpr (.inl rfl)) (beq_iff_eq.mp hx)
      cases hinvalid.symm.trans (owner_some.mp hown).1
    · exact mem_middle.mpr (.inr hy)

theorem reports_after {ρ κ : Type} {count : ρ → (κ → BitVec 64) → κ → BitVec 64}
    {reports : ℕ → List ρ} {report : ρ} (n : ℕ) :
    (fun m => total count (Function.update reports n (reports n ++ [report]) m)) =
      Function.update (fun m => total count (reports m)) n (count report (total count (reports n))) := by
  funext m
  by_cases hm : m = n
  · subst hm
    rw [Function.update_self, Function.update_self, total_snoc]
  · rw [Function.update_of_ne hm, Function.update_of_ne hm]

theorem DtlsKept.receive {invoked : Invoked} (hw : Owned w) (hkept : DtlsKept w)
    (h : nssCoreHandleNssStatusPkt env ncm w.top = some (t, invoked)) :
    DtlsKept (w.afterReceive ncm t) := by
  cases (status_tables h).1 with
  | kept hsame hlost =>
    refine hkept.same hsame (fun _ => Iff.rfl) fun n hn => ?_
    show total dtlsCount
      ((if RxMsg.arrives ncm ∧ ncm.type = NSS_DTLS_MSG_SESSION_STATS then _
        else w.dtlsReports) n) = _
    split
    · rename_i hcounts
      by_cases hnum : n = ncm.interface
      · subst hnum
        obtain ⟨g, hg, hfamily⟩ := hn
        have hcb := hw.handler _ g hg (by rw [hfamily]; exact nofun)
        rw [hfamily] at hcb
        exact absurd hcounts (hlost (hw.dynamic _ g hg) hcb)
      · rw [Function.update_of_ne hnum]
        rfl
    · rfl
  | counted hsynced hcounts hnonzero =>
    obtain ⟨haccounted, hcovered⟩ :=
      hkept.accounted.sync hnonzero (dtlsCount ncm.dtlsStats)
    have htable : (w.afterReceive ncm t).top.dtlsSessionDebugStats =
      syncSlot ncm.interface (dtlsCount ncm.dtlsStats) w.top.dtlsSessionDebugStats := hsynced
    have htotal : dtlsTotal (w.afterReceive ncm t) = Function.update (dtlsTotal w) ncm.interface
        (dtlsCount ncm.dtlsStats (dtlsTotal w ncm.interface)) := by
      show (fun n => total dtlsCount
        ((if RxMsg.arrives ncm ∧ ncm.type = NSS_DTLS_MSG_SESSION_STATS then _
          else w.dtlsReports) n)) = _
      rw [if_pos hcounts]
      exact reports_after ncm.interface
    constructor
    · rw [htable, htotal]
      exact haccounted
    · rw [htable]
      exact hcovered hkept.covered
    · rw [htable]
      intro y hy hinvalid
      exact hkept.zero y (sync_free hkept.accounted hnonzero hy hinvalid) hinvalid

theorem PptpKept.receive {invoked : Invoked} (hw : Owned w) (hkept : PptpKept w)
    (h : nssCoreHandleNssStatusPkt env ncm w.top = some (t, invoked)) :
    PptpKept (w.afterReceive ncm t) := by
  cases (status_tables h).2 with
  | kept hsame hlost =>
    refine hkept.same hsame (fun _ => Iff.rfl) fun n hn => ?_
    show total pptpCount
      ((if RxMsg.arrives ncm ∧ ncm.type = NSS_PPTP_MSG_SYNC_STATS then _
        else w.pptpReports) n) = _
    split
    · rename_i hcounts
      by_cases hnum : n = ncm.interface
      · subst hnum
        obtain ⟨g, hg, hfamily⟩ := hn
        have hcb := hw.handler _ g hg (by rw [hfamily]; exact nofun)
        rw [hfamily] at hcb
        exact absurd hcounts (hlost (hw.dynamic _ g hg) hcb)
      · rw [Function.update_of_ne hnum]
        rfl
    · rfl
  | counted hsynced hcounts hnonzero =>
    obtain ⟨haccounted, -⟩ := Accounted.sync hkept hnonzero (pptpCount ncm.pptpStats)
    have htotal : pptpTotal (w.afterReceive ncm t) = Function.update (pptpTotal w) ncm.interface
        (pptpCount ncm.pptpStats (pptpTotal w ncm.interface)) := by
      show (fun n => total pptpCount
        ((if RxMsg.arrives ncm ∧ ncm.type = NSS_PPTP_MSG_SYNC_STATS then _
          else w.pptpReports) n)) = _
      rw [if_pos hcounts]
      exact reports_after ncm.interface
    have htable : (w.afterReceive ncm t).top.pptpSessionDebugStats =
      syncSlot ncm.interface (pptpCount ncm.pptpStats) w.top.pptpSessionDebugStats := hsynced
    unfold PptpKept
    rw [htable, htotal]
    exact haccounted

structure Kept (w : Sessions) : Prop extends Owned w where
  dtls : DtlsKept w
  pptp : PptpKept w

theorem Kept.step (hw : Kept w) (hstep : SessionStep w l w') (hok : Countable w l) : Kept w' := by
  have howned := hw.toOwned.step hstep hok.1
  refine ⟨howned, ?_, ?_⟩
  · cases hstep with
    | capwap l t hstep =>
      exact hw.dtls.same rfl (capwap_registered hw.toOwned hstep hok.1 nofun) fun _ _ => rfl
    | register f r found t env h => exact hw.dtls.register hw.toOwned h hok
    | unregister f n t env h => exact hw.dtls.unregister h
    | receive ncm t invoked env h => exact hw.dtls.receive hw.toOwned h
  · cases hstep with
    | capwap l t hstep =>
      exact hw.pptp.same rfl (capwap_registered hw.toOwned hstep hok.1 nofun) fun _ _ => rfl
    | register f r found t env h => exact hw.pptp.register hw.toOwned h hok
    | unregister f n t env h => exact hw.pptp.unregister h hok
    | receive ncm t invoked env h => exact hw.pptp.receive hw.toOwned h

theorem accounted_empty {κ : Type} (size : ℕ) {registered : ℕ → Prop}
    (hnone : ∀ n, ¬ registered n) (reported : ℕ → κ → BitVec 64) :
    Accounted size registered reported (List.replicate size (StatsSlot.empty κ)) := by
  refine ⟨List.length_replicate, fun x hx _ => ?_, fun x hx hvalid => ?_, ?_,
    .inr fun n hn => absurd hn (hnone n)⟩
  · obtain rfl := List.eq_of_mem_replicate hx
    rfl
  · obtain rfl := List.eq_of_mem_replicate hx
    cases hvalid
  · refine List.pairwise_replicate.mpr (.inr fun n hn => ?_)
    cases (owner_some.mp hn).1

theorem SessionStart.kept (hw : SessionStart w) : Kept w := by
  have hnone : ∀ f n, ¬ w.registered f n := by
    rintro f n ⟨g, hg, -⟩
    cases (hw.given n).symm.trans hg
  refine ⟨hw.owned, ⟨?_, fun n hn => absurd hn (hnone _ n), fun x hx _ => ?_⟩, ?_⟩
  · rw [hw.dtls]
    exact accounted_empty _ (hnone _) _
  · rw [hw.dtls] at hx
    obtain rfl := List.eq_of_mem_replicate hx
    rfl
  · unfold PptpKept
    rw [hw.pptp]
    exact accounted_empty _ (hnone _) _

/-- One slot for every registered session, while there are not more of them than
    slots, none for another number, and the sum of what was reported in it. -/
structure Faithful {ρ κ : Type} (size : ℕ) (registered : ℕ → Prop) (reports : ℕ → List ρ)
    (gauge : κ → Bool) (delta : κ → ρ → BitVec 64) (slots : List (StatsSlot κ)) : Prop where
  one : ∀ l : List ℕ, l.length ≤ size → (∀ n, registered n → n ∈ l) →
    ∀ n, registered n → owned owner n slots = 1
  none : ∀ n, ¬ registered n → owned owner n slots = 0
  sums : ∀ x ∈ slots, x.valid = true → ∀ k, gauge k = false →
    x.stats k = ((reports x.ifNum).map (delta k)).sum

structure Tabled (w : Sessions) : Prop where
  dtls : Faithful NSS_MAX_DTLS_SESSIONS (w.registered .dtls) w.dtlsReports DtlsStat.gauge
    (fun k report => (report k).setWidth 64) w.top.dtlsSessionDebugStats
  pptp : Faithful NSS_MAX_PPTP_DYNAMIC_INTERFACES (w.registered .pptp) w.pptpReports
    (fun _ => false) (fun k report => (report k).setWidth 64) w.top.pptpSessionDebugStats

/-- The slots in use are the same, where `own` does not hold of them. -/
def Stay {κ : Type} (own : StatsSlot κ → Prop) (slots slots' : List (StatsSlot κ)) : Prop :=
  ∀ (i : ℕ) x, slots[i]? = some x → x.valid = true → ¬ own x → slots'[i]? = some x

/-- A registration that fails changes no slot, and an unregistration no slot of
    another session. -/
structure Undisturbed (w : Sessions) (l : SessionCall) (w' : Sessions) : Prop where
  failed : ∀ f r, l = .register f r false →
    w'.top.dtlsSessionDebugStats = w.top.dtlsSessionDebugStats ∧
      w'.top.pptpSessionDebugStats = w.top.pptpSessionDebugStats
  dtls : ∀ f n, l = .unregister f n → Stay (fun x => f = .dtls ∧ x.ifNum = n)
    w.top.dtlsSessionDebugStats w'.top.dtlsSessionDebugStats
  pptp : ∀ f n, l = .unregister f n → Stay (fun x => f = .pptp ∧ x.ifNum = n)
    w.top.pptpSessionDebugStats w'.top.pptpSessionDebugStats

theorem Accounted.faithful {ρ κ : Type} {size : ℕ} {registered : ℕ → Prop} {reports : ℕ → List ρ}
    {gauge : κ → Bool} {delta : κ → ρ → BitVec 64} {slots : List (StatsSlot κ)}
    {count : ρ → (κ → BitVec 64) → κ → BitVec 64}
    (h : Accounted size registered (fun n => total count (reports n)) slots)
    (hcount : ∀ k, gauge k = false → ∀ report stats,
      count report stats k = stats k + delta k report) :
    Faithful size registered reports gauge delta slots := by
  refine ⟨fun l hl hall n hn => h.owned_iff hl hall hn, fun n hn => h.owned_none hn,
    fun x hx hvalid k hk => ?_⟩
  rw [(h.held x hx hvalid).2]
  exact total_sum (hcount k hk) _

theorem Kept.tabled (hw : Kept w) : Tabled w :=
  ⟨hw.dtls.accounted.faithful fun _ hk _ _ => dtlsCount_counter hk,
    Accounted.faithful hw.pptp fun _ _ _ _ => rfl⟩

theorem stay_of_eq {κ : Type} {own : StatsSlot κ → Prop} {slots slots' : List (StatsSlot κ)}
    (h : slots' = slots) : Stay own slots slots' := by
  intro i x hx _ _
  rwa [h]

theorem undisturbed_step (hstep : SessionStep w l w') (hok : Countable w l) :
    Undisturbed w l w' := by
  constructor
  · rintro f r rfl
    cases hstep with
    | register _ _ _ t env h =>
      by_cases hf : f = .dtls
      · subst hf
        obtain ⟨-, hpptp, ⟨-, hsame⟩ | ⟨hfree, -, hfailed⟩⟩ := dtlsRegister_tables h
        · exact ⟨hsame, hpptp⟩
        · exact absurd (hok.2 hfree).1 (hfailed rfl)
      · refine ⟨register_dtls hf h, register_pptp ?_ h⟩
        rintro rfl
        cases h
  · rintro f n rfl
    cases hstep with
    | unregister _ _ t env h =>
      by_cases hf : f = .dtls
      · subst hf
        obtain ⟨-, -, ⟨-, hsame⟩ | hclear⟩ := dtlsUnregister_tables h
        · exact stay_of_eq hsame
        · intro i x hx _ hother
          refine updateFirst_getElem hclear hx (beq_eq_false_iff_ne.mpr fun hnum => ?_)
          exact hother ⟨rfl, hnum⟩
      · exact stay_of_eq (unregister_dtls hf h)
  · rintro f n rfl
    cases hstep with
    | unregister _ _ t env h =>
      by_cases hf : f = .pptp
      · subst hf
        intro i x hx hvalid hother
        exact absurd ⟨rfl, hok.2 x (List.mem_of_getElem? hx) hvalid⟩ hother
      · exact stay_of_eq (unregister_pptp hf h)

theorem statistics_faithful (h : Reachable SessionStart (Guarded SessionStep Countable) w) :
    Tabled w ∧ ∀ l w', SessionStep w l w' → Countable w l → Undisturbed w l w' := by
  have hkept : Kept w := by
    refine h.invariant Kept (fun w hw => SessionStart.kept hw) ?_
    intro w l w' hw ⟨hstep, hok⟩
    exact hw.step hstep hok
  exact ⟨hkept.tabled, fun l w' hstep hok => undisturbed_step hstep hok⟩

def sessionParams (n : ℕ) : IfParams := ⟨n, 1, 5, ⟨9, 3⟩, 0, 0⟩

def pptpTop (n : ℕ) (s : NssTop) : NssTop :=
  let r := sessionParams n
  { s.registerIf .pptp .pptpMsgCallback 0 r.appCtx r with
    pptpSessionDebugStats := (claimSlot n 3 s.pptpSessionDebugStats).getD s.pptpSessionDebugStats }

def withPptp (w : Sessions) (n : ℕ) : Sessions :=
  w.afterRegister .pptp (sessionParams n) true (pptpTop n w.top)

theorem pptp_step (w : Sessions) (n : ℕ) :
    SessionStep w (.register .pptp (sessionParams n) true) (withPptp w n) :=
  .register w .pptp _ true _ ⟨fun _ => true, fun _ => true⟩ rfl

/-- Two sessions of PPTP. -/
theorem statistics_faithful_two : ∃ w, w.registered .pptp 24 ∧ w.registered .pptp 25 ∧
    owned owner 24 w.top.pptpSessionDebugStats = 1 ∧
    owned owner 25 w.top.pptpSessionDebugStats = 1 ∧ Tabled w ∧
      ∀ l w', SessionStep w l w' → Countable w l → Undisturbed w l w' := by
  have hfirst : Countable NotifyRouting.blank (.register .pptp (sessionParams 24) true) := by
    refine ⟨fun _ => ⟨rfl, .inl rfl⟩, fun x hx hvalid => ?_, fun x hx => ?_⟩
    · obtain rfl := List.eq_of_mem_replicate hx
      cases hvalid
    · obtain rfl := Option.some.inj hx
      rfl
  have hsecond : Countable (withPptp NotifyRouting.blank 24)
      (.register .pptp (sessionParams 25) true) := by
    refine ⟨fun _ => ⟨rfl, .inl rfl⟩, fun x hx hvalid => ?_, fun x hx => ?_⟩
    · rcases List.mem_cons.mp hx with rfl | hx
      · decide
      · obtain rfl := List.eq_of_mem_replicate hx
        cases hvalid
    · obtain rfl := Option.some.inj hx
      rfl
  have hone : Reachable SessionStart (Guarded SessionStep Countable)
      (withPptp NotifyRouting.blank 24) :=
    (Reachable.start NotifyRouting.blank_start).next ⟨pptp_step _ 24, hfirst⟩
  have htwo := hone.next ⟨pptp_step _ 25, hsecond⟩
  obtain ⟨htabled, hundisturbed⟩ := statistics_faithful htwo
  exact ⟨_, ⟨_, rfl, rfl⟩, ⟨_, rfl, rfl⟩, rfl, rfl, htabled, hundisturbed⟩

def dtlsClaimed (n : ℕ) (s : NssTop) : NssTop :=
  { s with dtlsSessionDebugStats := (claimSlot n 3 s.dtlsSessionDebugStats).getD [] }

/-- To unregister one session of PPTP clears the slot of another one, and a second
    registration of a session of DTLS fails and keeps a second slot. -/
theorem statistics_unfaithful :
    (¬ ∀ w, Reachable SessionStart SessionStep w → Tabled w) ∧
    ¬ ∀ w l w', Reachable SessionStart SessionStep w → SessionStep w l w' →
      Undisturbed w l w' := by
  have hblank : Reachable SessionStart SessionStep NotifyRouting.blank :=
    .start NotifyRouting.blank_start
  refine ⟨fun hall => ?_, fun hall => ?_⟩
  · have htwo := (hblank.next (pptp_step _ 24)).next (pptp_step _ 25)
    have hone := htwo.next (.unregister _ .pptp 25 _ ⟨fun _ => true, fun _ => true⟩ rfl)
    have hslot := (hall _ hone).pptp.one [24] (by decide) ?_ 24 ⟨_, rfl, rfl⟩
    · cases hslot
    · rintro n ⟨g, hg, hfamily⟩
      have hg : (withPptp (withPptp NotifyRouting.blank 24) 25).undo .pptp 25 n = some g := hg
      obtain ⟨hgiven, hundone⟩ := undo_cases hg
      rcases afterRegister_cases hgiven with ⟨hgiven, -⟩ | ⟨-, rfl, rfl⟩
      · rcases afterRegister_cases hgiven with ⟨hgiven, -⟩ | ⟨-, rfl, -⟩
        · cases hgiven
        · exact List.mem_singleton_self _
      · exact absurd rfl (hundone rfl)
  · have hfirst := hblank.next
      (.register _ .dtls (sessionParams 24) true
        ((dtlsClaimed 24 NotifyRouting.blankTop).registerIf .dtls .dtlsMsgCallback 0 0
          (sessionParams 24)) ⟨fun _ => true, fun _ => true⟩ rfl)
    have hsecond := (hall _ _ _ hfirst
      (.register _ .dtls (sessionParams 24) false _ ⟨fun _ => true, fun _ => true⟩ rfl)).failed
        _ _ rfl
    have hvalid := congrArg (List.map StatsSlot.valid) hsecond.1
    cases hvalid

end NssDrv.SessionStats

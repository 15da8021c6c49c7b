import NssDrv.StatisticsText
import NssDrv.TransitionRuns

set_option autoImplicit false

/-!
# Statistics files while messages come in

The handlers of several contexts change the counters, one hold of the lock after the
other, while a reader copies the sections of its file. The driver's own counters change
without the lock, and those of PPPoE in ways that are left open here.
-/
namespace NssDrv.StatisticsRuns
open CounterReports StatisticsSync StatisticsText TransitionRuns
open BoundedText (scan Request Line)

/-- `pending` is what a context has still to do for the message that it handles. -/
structure State where
  memory : Memory
  pending : ℕ → List (List Entry)

inductive Label where
  | receive (ctx core : ℕ) (msg : SyncMsg)
  | post (ctx : ℕ) (es : List Entry)
  | pktStats (i : ℕ) (up : Bool)
  | pppoe

/-- `nss_pkt_stats_increment` and `nss_pkt_stats_decrement`. -/
def pktStats (i : ℕ) (up : Bool) : Entry := (⟨.drv, i⟩, .add (if up then 1 else -1))

def ofPppoe : Bank → Bool
  | .node interface => interface == NSS_PPPOE_RX_INTERFACE
  | .pppoe => true
  | .ifExceptionPppoe _ _ => true
  | _ => false

inductive Step : State → Label → State → Prop where
  | receive (s : State) (ctx core : ℕ) (msg : SyncMsg) (idle : s.pending ctx = []) :
      Step s (.receive ctx core msg)
        { s with pending := Function.update s.pending ctx (msg.groups core) }
  | post (s : State) (ctx : ℕ) (es : List Entry) (rest : List (List Entry))
      (next : s.pending ctx = es :: rest) :
      Step s (.post ctx es) ⟨postAll s.memory es, Function.update s.pending ctx rest⟩
  | pktStats (s : State) (i : ℕ) (up : Bool) :
      Step s (.pktStats i up) { s with memory := CounterReports.post s.memory (pktStats i up) }
  | pppoe (s : State) (memory : Memory)
      (frame : ∀ k, ofPppoe k.bank = false → memory k = s.memory k) :
      Step s .pppoe { s with memory := memory }

def Label.posted : Label → List Entry
  | .post _ es => es
  | .pktStats i up => [NssDrv.StatisticsRuns.pktStats i up]
  | _ => []

def reported (k : Counter) (ls : List Label) : List (BitVec 64) :=
  amounts k (ls.flatMap Label.posted)

/-- What the messages that a context received are to change. -/
def received (ctx : ℕ) (ls : List Label) : List Entry := ls.flatMap fun
  | .receive c core msg => if c = ctx then (msg.groups core).flatten else []
  | _ => []

def postedBy (ctx : ℕ) (ls : List Label) : List Entry := ls.flatMap fun
  | .post c es => if c = ctx then es else []
  | _ => []

/-- A reader that copies the memory each time before other things happen. -/
inductive Copies : State → List Label → List Memory → State → Prop where
  | done {s t : State} {ls : List Label} (run : Run Step s ls t) : Copies s ls [] t
  | copy {s t u : State} {ls ls' : List Label} {ms : List Memory} (run : Run Step s ls t)
      (rest : Copies t ls' ms u) : Copies s (ls ++ ls') (t.memory :: ms) u

section Runs
variable {s t u : State} {l : Label} {ls ls' : List Label} {ms : List Memory} {k : Counter}

/-- What is still to be done is in the way of the counters. -/
def Orderly (s : State) : Prop := ∀ ctx, ∀ g ∈ s.pending ctx, Agrees kind g

theorem Orderly.update (hs : Orderly s) {ctx : ℕ} {gs : List (List Entry)}
    (hgs : ∀ g ∈ gs, Agrees kind g) (m : Memory) : Orderly ⟨m, Function.update s.pending ctx gs⟩ := by
  intro c g hg
  change g ∈ Function.update s.pending ctx gs c at hg
  by_cases hc : c = ctx
  · subst hc
    rw [Function.update_self] at hg
    exact hgs g hg
  · rw [Function.update_of_ne hc] at hg
    exact hs c g hg

theorem Step.orderly (h : Step s l t) (hs : Orderly s) : Orderly t := by
  cases h with
  | receive ctx core msg idle => exact hs.update (groups_agree core msg) _
  | post ctx es rest next =>
    refine hs.update (fun g hg => hs ctx g ?_) _
    rw [next]
    exact List.mem_cons_of_mem _ hg
  | pktStats => exact hs
  | pppoe => exact hs

theorem Step.agrees (h : Step s l t) (hs : Orderly s) : Agrees kind l.posted := by
  cases h with
  | receive => exact agrees_nil
  | post ctx es rest next =>
    apply hs ctx es
    rw [next]
    exact List.mem_cons_self
  | pktStats i up => exact agrees_cons rfl agrees_nil
  | pppoe => exact agrees_nil

theorem Step.memory (h : Step s l t) (hk : ofPppoe k.bank = false) :
    t.memory k = postAll s.memory l.posted k := by
  cases h with
  | receive => rfl
  | post => rfl
  | pktStats => rfl
  | pppoe memory frame => exact frame k hk

theorem reported_append (k : Counter) (ls ls' : List Label) :
    reported k (ls ++ ls') = reported k ls ++ reported k ls' := by
  unfold reported
  rw [List.flatMap_append, amounts_append]

theorem reported_one (k : Counter) (l : Label) : reported k [l] = amounts k l.posted := by
  simp [reported]

theorem run_orderly (h : Run Step s ls t) (hs : Orderly s) : Orderly t :=
  h.invariant Orderly (fun _ _ _ hs hstep => hstep.orderly hs) hs

theorem run_memory (h : Run Step s ls t) (hs : Orderly s) (hk : ofPppoe k.bank = false) :
    t.memory k = (kind k).settle (s.memory k) (reported k ls) := by
  induction h with
  | refl => cases kind k <;> simp [reported, amounts, Kind.settle]
  | snoc run last ih =>
    have hagrees := last.agrees (run_orderly run hs)
    rw [last.memory hk, postAll_settle hagrees, ih, ← settle_append, reported_append, reported_one]

theorem Step.accounted (h : Step s l t) (ctx : ℕ) :
    postedBy ctx [l] ++ (t.pending ctx).flatten =
      (s.pending ctx).flatten ++ received ctx [l] := by
  cases h with
  | receive c core msg idle =>
    by_cases hc : c = ctx
    · subst hc
      simp [postedBy, received, idle]
    · have hc' : ctx ≠ c := Ne.symm hc
      simp [postedBy, received, hc, hc']
  | post c es rest next =>
    by_cases hc : c = ctx
    · subst hc
      simp [postedBy, received, next]
    · have hc' : ctx ≠ c := Ne.symm hc
      simp [postedBy, received, hc, hc']
  | pktStats => simp [postedBy, received]
  | pppoe => simp [postedBy, received]

theorem run_accounted (h : Run Step s ls t) (ctx : ℕ) :
    postedBy ctx ls ++ (t.pending ctx).flatten = (s.pending ctx).flatten ++ received ctx ls := by
  induction h with
  | refl => simp [postedBy, received]
  | @snoc _ _ ls l run last ih =>
    have hposted : postedBy ctx (ls ++ [l]) = postedBy ctx ls ++ postedBy ctx [l] :=
      List.flatMap_append
    have hreceived : received ctx (ls ++ [l]) = received ctx ls ++ received ctx [l] :=
      List.flatMap_append
    rw [hposted, hreceived, List.append_assoc, last.accounted, ← List.append_assoc, ih,
      List.append_assoc]

theorem Copies.run (h : Copies s ls ms t) : Run Step s ls t := by
  induction h with
  | done run => exact run
  | copy run _ ih => exact run.trans ih

/-- A copy that was taken after `n` steps. -/
def CopyAt (s : State) (ls : List Label) (m : Memory) (n : ℕ) : Prop :=
  n ≤ ls.length ∧
    ∀ k, ofPppoe k.bank = false → m k = (kind k).settle (s.memory k) (reported k (ls.take n))

theorem CopyAt.later {m : Memory} {n : ℕ} (h : CopyAt t ls' m n) (run : Run Step s ls t)
    (hs : Orderly s) : CopyAt s (ls ++ ls') m (ls.length + n) := by
  refine ⟨?_, fun k hk => ?_⟩
  · have hle := h.1
    rw [List.length_append]
    omega
  · rw [h.2 k hk, run_memory run hs hk, ← settle_append, ← reported_append, List.take_append,
      List.take_of_length_le (Nat.le_add_right _ _), Nat.add_sub_cancel_left]

theorem Copies.moments (h : Copies s ls ms t) (hs : Orderly s) :
    ∃ ns : List ℕ, ns.Pairwise (· ≤ ·) ∧ List.Forall₂ (CopyAt s ls) ms ns := by
  induction h with
  | done => exact ⟨[], .nil, .nil⟩
  | @copy s t u ls ls' ms run rest ih =>
    obtain ⟨ns, hsorted, hns⟩ := ih (run_orderly run hs)
    refine ⟨ls.length :: ns.map (ls.length + ·), ?_, .cons ?_ ?_⟩
    · refine List.Pairwise.cons ?_ (hsorted.map _ fun a b hab => Nat.add_le_add_left hab _)
      intro n hn
      obtain ⟨n, -, rfl⟩ := List.mem_map.mp hn
      exact Nat.le_add_right _ _
    · have hnow : CopyAt t ls' t.memory 0 := by
        refine ⟨Nat.zero_le _, fun k _ => ?_⟩
        cases kind k <;> simp [reported, amounts, Kind.settle]
      exact hnow.later run hs
    · rw [List.forall₂_map_right_iff]
      exact hns.imp fun m n hn => hn.later run hs

theorem copies_le {ns : List ℕ} (h : List.Forall₂ (CopyAt s ls) ms ns) :
    ∀ n ∈ ns, n ≤ ls.length := by
  induction h with
  | nil => nofun
  | cons hcopy _ ih =>
    intro n hn
    rcases List.mem_cons.mp hn with rfl | hn
    · exact hcopy.1
    · exact ih n hn

/-- What a section shows that was copied after `n` steps. -/
def shownAt (s : State) (ls : List Label) (sec : Section) (n : ℕ) : List (Counter × BitVec 64) :=
  sec.counters.map fun k => (k, (kind k).settle (s.memory k) (reported k (ls.take n)))

theorem values_eq (sec : Section) (m : Memory) : sec.values m = sec.counters.map fun k => (k, m k) := by
  unfold Section.values Section.counters
  induction sec.lines with
  | nil => rfl
  | cons l rest ih =>
    rw [List.flatMap_cons, List.flatMap_cons, List.map_append, ih]
    cases l <;> rfl

theorem shown_eq (secs : List Section) (ns : List ℕ)
    (hcounters : ∀ sec ∈ secs, ∀ k ∈ sec.counters, ofPppoe k.bank = false)
    (h : List.Forall₂ (CopyAt s ls) ms ns) :
    ((secs.zip ms).flatMap fun p => p.1.values p.2) =
      (secs.zip ns).flatMap fun p => shownAt s ls p.1 p.2 := by
  induction h generalizing secs with
  | nil => simp
  | @cons m n ms ns hcopy _ ih =>
    cases secs with
    | nil => rfl
    | cons sec secs =>
      have hrest := ih secs fun sec' hsec => hcounters sec' (List.mem_cons_of_mem _ hsec)
      rw [List.zip_cons_cons, List.zip_cons_cons, List.flatMap_cons, List.flatMap_cons, hrest,
        values_eq]
      refine congrArg (· ++ _) (List.map_congr_left fun k hk => ?_)
      exact congrArg (k, ·) (hcopy.2 k (hcounters sec List.mem_cons_self k hk))

theorem others_counters (f : StatFile) (h : f ≠ .pppoe) :
    ∀ sec ∈ f.file.sections, ∀ k ∈ sec.counters, ofPppoe k.bank = false := by
  cases f with
  | pppoe => exact absurd rfl h
  | _ => decide +kernel

end Runs

/-- The text that a reader prints of these copies shows every counter with what was reported
    to it before the copy of its section, and the copies were taken in order. -/
def ShowsReports (f : StatFile) (s : State) (ls : List Label) (ms : List Memory) : Prop :=
  ∃ ns t, ns.length = ms.length ∧ ns.Pairwise (· ≤ ·) ∧ (∀ n ∈ ns, n ≤ ls.length) ∧
    f.file.printed ms = some t ∧
    scan parse '\n' f.file.lines t =
      some ((f.file.sections.zip ns).flatMap fun p => shownAt s ls p.1 p.2, [])

def quiet : State := ⟨fun _ => 0, fun _ => []⟩

/-- A message of the jack comes in and is done before the file is read. -/
def jackReport : List Label :=
  [.receive 0 0 (.sjack ⟨2, 20⟩ ⟨⟨7, 0, 0, 0, 0⟩⟩), .post 0 (nssSjackNodeSyncUpdate ⟨⟨7, 0, 0, 0, 0⟩⟩)]

end NssDrv.StatisticsRuns

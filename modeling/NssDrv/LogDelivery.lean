import Mathlib.Order.Monotone.Defs
import NssDrv.LogRead
import NssDrv.TransitionRuns

set_option autoImplicit false

/-!
# Delivery of the log

The firmware numbers its entries in the order in which it writes them. A read
runs beside it: `during i` is how many entries there are when round `i` of the
loop looks into the ring.
-/
namespace NssDrv.LogDelivery
open HlosInterface LogBuffer LogRead TransitionRuns

/-- The index of an entry, from the count that the firmware keeps in 32 bits. -/
def slot (nentries : U32) (k : ℕ) : U32 := BitVec.ofNat 32 k % nentries

def held (nentries : U32) : ℕ → U32 → ℕ
  | 0, _ => 0
  | k + 1, index => if slot nentries k = index then k else held nentries k index

/-- A finished read: what there was when it began, and what it has delivered. -/
structure Record where
  size : ReadSize
  produced : ℕ
  position : ℕ
  delivered : List ℕ

structure LogState where
  produced : ℕ
  file : LogFile
  reads : List Record

def returned (s : LogState) : List ℕ := s.reads.flatMap Record.delivered

/-- The number behind the last entry that has been returned. -/
def position (s : LogState) : ℕ :=
  match (returned s).getLast? with
  | some k => k + 1
  | none => 0

theorem position_first {s : LogState} (h : returned s = []) : position s = 0 := by
  unfold position
  rw [h]
  rfl

inductive Label where
  | produce
  | read (size : ReadSize) (during : ℕ → ℕ) (after : ℕ)

variable (nentries : U32) (written : ℕ → LogEntry)

def callOf (s : LogState) (size : ReadSize) (during : ℕ → ℕ) : ReadCall :=
  ⟨size, BitVec.ofNat 32 s.produced, fun i index => written (held nentries (during i) index),
    fun _ => true⟩

/-- The numbers of the entries whose lines a read has copied. -/
def deliveredBy (during : ℕ → ℕ) (copies : List Copy) : List ℕ :=
  copies.mapIdx fun i x => held nentries (during i) (x.entry % nentries)

def afterRead (s : LogState) (size : ReadSize) (during : ℕ → ℕ) (after : ℕ) : LogState :=
  let r := nssLogRead s.file (callOf nentries written s size during)
  ⟨after, r.file,
    s.reads ++ [⟨size, s.produced, position s, deliveredBy nentries during r.copies⟩]⟩

inductive Step : LogState → Label → LogState → Prop where
  | produce (s : LogState) : Step s .produce { s with produced := s.produced + 1 }
  | read (s : LogState) (size : ReadSize) (during : ℕ → ℕ) (after : ℕ) (hmono : Monotone during)
      (hbegin : s.produced ≤ during 0) (hend : ∀ i, during i ≤ after) :
      Step s (.read size during after) (afterRead nentries written s size during after)

/-- A file that has just been opened, however much the firmware has written. -/
def Start (s : LogState) : Prop :=
  s.reads = [] ∧ s.file.ppos = 0 ∧ s.file.data.nentries = nentries ∧
    ∃ nssId rbe rbe', nssLogOpen nssId true rbe = .ok (s.file.data, rbe')

/-- All is returned in the order of its production, what is left out was already
    overwritten when some read began, and a read with room does not come back
    empty while there is something new. -/
structure Delivers (s : LogState) : Prop where
  ordered : (returned s).Pairwise (· < ·)
  skipped : ∀ k < position s, k ∉ returned s →
    ∃ r ∈ s.reads, r.position ≤ k ∧ k + nentries.toNat < r.produced
  prompt : ∀ r ∈ s.reads, NSS_LOG_OUTPUT_LINE_SIZE.toNat ≤ r.size.size.toNat →
    r.position < r.produced → r.delivered ≠ []

/-- Where a read is to start: the oldest entry that is new and still there. -/
def oldest (s : LogState) : ℕ := max (position s) (s.produced - nentries.toNat)

/-- The count has not wrapped around since the position of the file, or is at
    least a whole ring beyond it again. -/
def Unwrapped (s : LogState) : Prop :=
  if returned s = [] then s.produced < 2 ^ 32 ∨ nentries.toNat ≤ s.produced % 2 ^ 32
  else s.produced = position s ∨ s.produced / 2 ^ 32 = position s / 2 ^ 32 ∨
    nentries.toNat + position s % 2 ^ 32 ≤ s.produced % 2 ^ 32

/-- No later entry is at the index of entry `k`. -/
def StillThere (k produced : ℕ) : Prop :=
  ∀ k', k < k' → k' < produced → slot nentries k' ≠ slot nentries k

def Steady (s : LogState) : Label → Prop
  | .produce => True
  | .read size during _ =>
    Unwrapped nentries s ∧
      ∀ i, Reached (callOf nentries written s size during) nentries
          (firstEntry s.file (BitVec.ofNat 32 s.produced)) i →
        StillThere nentries (oldest nentries s + i) (during i)

section Ring
variable {nentries : U32}

theorem held_still {k produced : ℕ} (hk : k < produced) (h : StillThere nentries k produced) :
    held nentries produced (slot nentries k) = k := by
  induction produced with
  | zero => omega
  | succ p ih =>
    unfold held
    by_cases hp : k = p
    · rw [hp, if_pos rfl]
    · rw [if_neg (h p (by omega) (Nat.lt_succ_self p))]
      exact ih (by omega) fun k' hlt hlt' => h k' hlt (by omega)

end Ring

theorem mapIdx_range {α β : Type} (f : ℕ → α → β) (g : ℕ → α) (m : ℕ) :
    ((List.range m).map g).mapIdx f = (List.range m).map fun i => f i (g i) := by
  apply List.ext_getElem
  · simp
  · intro i _ _
    simp

theorem firstEntry_toNat (f : LogFile) (entry : U32) :
    (firstEntry f entry).toNat =
      if f.ppos = 0 then
        if f.data.nentries.toNat < entry.toNat then entry.toNat - f.data.nentries.toNat else 0
      else if f.data.nentries.toNat < entry.toNat ∧
          f.data.lastEntry.toNat < entry.toNat - f.data.nentries.toNat then
        entry.toNat - f.data.nentries.toNat
      else f.data.lastEntry.toNat := by
  have hsub : f.data.nentries.toNat < entry.toNat →
      (entry - f.data.nentries).toNat = entry.toNat - f.data.nentries.toNat :=
    fun h => BitVec.toNat_sub_of_le h.le
  unfold firstEntry
  simp only [gt_iff_lt, BitVec.lt_def]
  split
  · split
    · rename_i hroll
      exact hsub hroll
    · rfl
  · by_cases hroll : f.data.nentries.toNat < entry.toNat
    · rw [hsub hroll]
      split
      · exact hsub hroll
      · rfl
    · rw [if_neg fun h => hroll h.1, if_neg fun h => hroll h.1]

section Reads
variable {nentries : U32} {written : ℕ → LogEntry} {s t : LogState} {l : Label}

/-- What the file and the records say between two reads. -/
structure Tracks (nentries : U32) (s : LogState) : Prop where
  loadMem : s.file.data.loadMem ≠ 0
  size : s.file.data.nentries = nentries
  lastEntry : s.file.data.lastEntry = BitVec.ofNat 32 (position s)
  ppos : s.file.ppos = 0 ↔ returned s = []
  produced : position s ≤ s.produced
  below : ∀ k ∈ returned s, k < position s
  delivers : Delivers nentries s

theorem Start.tracks (h : Start nentries s) : Tracks nentries s := by
  obtain ⟨hreads, hppos, hsize, nssId, rbe, rbe', hopen⟩ := h
  have hreturned : returned s = [] := by
    unfold returned
    rw [hreads]
    rfl
  have hposition : position s = 0 := position_first hreturned
  unfold nssLogOpen at hopen
  split at hopen
  · cases hopen
  · rw [if_neg (by decide)] at hopen
    dsimp only at hopen
    split at hopen
    · cases hopen
    · rename_i haddr
      have hdata := congrArg Prod.fst (Except.ok.inj hopen)
      dsimp only at hdata
      constructor
      · rw [← hdata]
        exact haddr
      · exact hsize
      · rw [hposition, ← hdata]
        rfl
      · simp [hppos, hreturned]
      · rw [hposition]
        exact Nat.zero_le _
      · rw [hreturned]
        simp
      · constructor
        · rw [hreturned]
          exact .nil
        · rw [hposition]
          exact fun k hk => absurd hk (Nat.not_lt_zero k)
        · rw [hreads]
          simp

/-- Under the condition the loop starts at the oldest entry, in the same round of
    the 32-bit count as the newest. -/
theorem firstEntry_oldest (h : Tracks nentries s) (hpos : 0 < nentries.toNat)
    (hu : Unwrapped nentries s)
    (hnew : s.file.data.lastEntry ≠ BitVec.ofNat 32 s.produced) :
    oldest nentries s < s.produced ∧
      (firstEntry s.file (BitVec.ofNat 32 s.produced)).toNat = oldest nentries s % 2 ^ 32 ∧
      oldest nentries s / 2 ^ 32 = s.produced / 2 ^ 32 := by
  have hnat : position s % 2 ^ 32 ≠ s.produced % 2 ^ 32 := by
    intro heq
    apply hnew
    rw [h.lastEntry]
    apply BitVec.eq_of_toNat_eq
    rw [BitVec.toNat_ofNat, BitVec.toNat_ofNat, heq]
  have hle := h.produced
  unfold Unwrapped at hu
  unfold oldest
  rw [firstEntry_toNat, h.size, h.lastEntry, BitVec.toNat_ofNat, BitVec.toNat_ofNat]
  by_cases hfirst : returned s = []
  · rw [if_pos hfirst] at hu
    rw [if_pos (h.ppos.mpr hfirst)]
    rw [position_first hfirst] at hnat ⊢
    split <;> omega
  · rw [if_neg hfirst] at hu
    rw [if_neg fun hzero => hfirst (h.ppos.mp hzero)]
    split <;> omega

theorem Unwrapped.fresh (hu : Unwrapped nentries s) (h : Tracks nentries s)
    (hpos : 0 < nentries.toNat) (hnew : position s < s.produced) :
    s.file.data.lastEntry ≠ BitVec.ofNat 32 s.produced := by
  intro heq
  rw [h.lastEntry] at heq
  have hnat := congrArg BitVec.toNat heq
  rw [BitVec.toNat_ofNat, BitVec.toNat_ofNat] at hnat
  unfold Unwrapped at hu
  by_cases hfirst : returned s = []
  · rw [if_pos hfirst] at hu
    rw [position_first hfirst] at hnat hnew
    omega
  · rw [if_neg hfirst] at hu
    omega

def entriesFrom (start m : ℕ) : List ℕ := (List.range m).map fun i => start + i

def withRead (s : LogState) (file : LogFile) (size : ReadSize) (after : ℕ) (entries : List ℕ) :
    LogState :=
  ⟨after, file, s.reads ++ [⟨size, s.produced, position s, entries⟩]⟩

variable {file : LogFile} {size : ReadSize} {after m : ℕ} {entries : List ℕ}

theorem returned_withRead : returned (withRead s file size after entries) =
    returned s ++ entries := by
  unfold returned withRead
  rw [List.flatMap_append, List.flatMap_singleton]

theorem position_nil : position (withRead s file size after []) = position s := by
  unfold position
  rw [returned_withRead, List.append_nil]

theorem position_entries (s : LogState) (file : LogFile) (size : ReadSize) (after start : ℕ)
    (hm : 0 < m) :
    position (withRead s file size after (entriesFrom start m)) = start + m := by
  obtain ⟨k, rfl⟩ : ∃ k, m = k + 1 := ⟨m - 1, by omega⟩
  have hlast : (returned s ++ entriesFrom start (k + 1)).getLast? = some (start + k) := by
    unfold entriesFrom
    rw [List.range_succ, List.map_append, ← List.append_assoc]
    exact List.getLast?_concat
  unfold position
  rw [returned_withRead, hlast]
  rfl

theorem mem_entriesFrom {start k : ℕ} : k ∈ entriesFrom start m ↔ start ≤ k ∧ k < start + m := by
  unfold entriesFrom
  rw [List.mem_map]
  constructor
  · rintro ⟨i, hi, rfl⟩
    have hlt := List.mem_range.mp hi
    omega
  · rintro ⟨hle, hlt⟩
    exact ⟨k - start, List.mem_range.mpr (by omega), by omega⟩

theorem entriesFrom_sorted (start m : ℕ) : (entriesFrom start m).Pairwise (· < ·) := by
  unfold entriesFrom
  rw [List.pairwise_map]
  exact List.pairwise_lt_range.imp fun h => Nat.add_lt_add_left h start

theorem Tracks.empty (h : Tracks nentries s) (hafter : s.produced ≤ after)
    (hnone : NSS_LOG_OUTPUT_LINE_SIZE.toNat ≤ size.size.toNat → ¬ position s < s.produced) :
    Tracks nentries (withRead s s.file size after []) := by
  have hreturned : returned (withRead s s.file size after []) = returned s := by
    rw [returned_withRead, List.append_nil]
  constructor
  · exact h.loadMem
  · exact h.size
  · rw [position_nil]
    exact h.lastEntry
  · rw [hreturned]
    exact h.ppos
  · rw [position_nil]
    exact h.produced.trans hafter
  · rw [hreturned, position_nil]
    exact h.below
  · constructor
    · rw [hreturned]
      exact h.delivers.ordered
    · rw [hreturned, position_nil]
      intro k hk hout
      obtain ⟨r, hr, hskip⟩ := h.delivers.skipped k hk hout
      exact ⟨r, List.mem_append_left _ hr, hskip⟩
    · intro r hr hroom hnew
      rcases List.mem_append.mp hr with hr | hr
      · exact h.delivers.prompt r hr hroom hnew
      · rw [List.mem_singleton] at hr
        subst hr
        exact absurd hnew (hnone hroom)

/-- A read that returns `m` entries from the oldest on. -/
theorem Tracks.more (h : Tracks nentries s) (hm : 0 < m) (hmem : file.data.loadMem ≠ 0)
    (hsize : file.data.nentries = nentries)
    (hlast : file.data.lastEntry = BitVec.ofNat 32 (oldest nentries s + m))
    (hppos : file.ppos ≠ 0) (hafter : oldest nentries s + m ≤ after) :
    Tracks nentries (withRead s file size after (entriesFrom (oldest nentries s) m)) := by
  have hposition := position_entries s file size after (oldest nentries s) hm
  have hle : position s ≤ oldest nentries s := Nat.le_max_left _ _
  have hnonempty : entriesFrom (oldest nentries s) m ≠ [] := by
    apply List.ne_nil_of_mem (a := oldest nentries s)
    rw [mem_entriesFrom]
    omega
  constructor
  · exact hmem
  · exact hsize
  · rw [hposition]
    exact hlast
  · rw [returned_withRead]
    constructor
    · exact fun hzero => absurd hzero hppos
    · simp [hnonempty]
  · rw [hposition]
    exact hafter
  · rw [returned_withRead, hposition]
    intro k hk
    rcases List.mem_append.mp hk with hk | hk
    · have hbelow := h.below k hk
      omega
    · exact (mem_entriesFrom.mp hk).2
  · constructor
    · rw [returned_withRead, List.pairwise_append]
      refine ⟨h.delivers.ordered, entriesFrom_sorted _ _, fun j hj k hk => ?_⟩
      have hbelow := h.below j hj
      have hfrom := (mem_entriesFrom.mp hk).1
      omega
    · rw [returned_withRead, hposition]
      intro k hk hout
      rw [List.mem_append, not_or, mem_entriesFrom] at hout
      by_cases hold : k < position s
      · obtain ⟨r, hr, hskip⟩ := h.delivers.skipped k hold hout.1
        exact ⟨r, List.mem_append_left _ hr, hskip⟩
      · refine ⟨_, List.mem_append_right _ (List.mem_singleton_self _), ?_⟩
        have hbefore : k < oldest nentries s := by omega
        unfold oldest at hbefore
        show position s ≤ k ∧ k + nentries.toNat < s.produced
        omega
    · intro r hr hroom hnew
      rcases List.mem_append.mp hr with hr | hr
      · exact h.delivers.prompt r hr hroom hnew
      · rw [List.mem_singleton] at hr
        subst hr
        exact hnonempty

variable {during : ℕ → ℕ}

theorem read_rounds (h : Tracks nentries s) (hpos : 0 < nentries.toNat)
    (hsteady : Steady nentries written s (.read size during after)) (hmono : Monotone during)
    (hbegin : s.produced ≤ during 0)
    (hloop : EntersLoop s.file (callOf nentries written s size during)) :
    ∃ m, 0 < m ∧ oldest nentries s + m ≤ s.produced ∧
      deliveredBy nentries during
          (nssLogRead s.file (callOf nentries written s size during)).copies =
        entriesFrom (oldest nentries s) m ∧
      At (callOf nentries written s size during) nentries
        (firstEntry s.file (BitVec.ofNat 32 s.produced)) m
        (loopOf s.file (callOf nentries written s size during)) ∧
      (loopOf s.file (callOf nentries written s size during)).bytes > 0 := by
  obtain ⟨hu, hthere⟩ := hsteady
  obtain ⟨hlt, hfirst, hround⟩ := firstEntry_oldest h hpos hu hloop.2.2
  obtain ⟨m, hends⟩ := loopOf_ends s.file (callOf nentries written s size during)
  rw [h.size] at hends
  have hentry : (callOf nentries written s size during).entry.toNat = s.produced % 2 ^ 32 :=
    BitVec.toNat_ofNat ..
  have hrounds : ∀ i, Reached (callOf nentries written s size during) nentries
      (firstEntry s.file (BitVec.ofNat 32 s.produced)) i → oldest nentries s + i < s.produced := by
    intro i hi
    have hmore := hi.1
    rw [hentry, hfirst] at hmore
    omega
  have hzero : 0 < m := by
    rw [hends.made 0]
    refine ⟨⟨?_, .inl rfl⟩, fun l hl => absurd hl (Nat.not_lt_zero l)⟩
    rw [hentry]
    show (firstEntry s.file (BitVec.ofNat 32 s.produced)).toNat + 0 < _
    rw [hfirst]
    omega
  refine ⟨m, hzero, ?_, ?_, hends.last fun _ => rfl, hends.bytes_pos (fun _ => rfl) hzero⟩
  · have hlast := hrounds (m - 1) ((hends.made (m - 1)).mp (by omega)).1
    omega
  · rw [nssLogRead_loop hloop]
    show deliveredBy nentries during (loopOf s.file _).copies = _
    rw [hends.copies]
    unfold deliveredBy entriesFrom
    rw [mapIdx_range]
    apply List.map_congr_left
    intro i hi
    have hmade := ((hends.made i).mp (List.mem_range.mp hi)).1
    have hnumber : BitVec.ofNat 32 (oldest nentries s + i) =
        firstEntry s.file (BitVec.ofNat 32 s.produced) + BitVec.ofNat 32 i := by
      rw [BitVec.ofNat_add]
      congr 1
      apply BitVec.eq_of_toNat_eq
      rw [hfirst, BitVec.toNat_ofNat]
    have hslot : (copyNo (callOf nentries written s size during) nentries
        (firstEntry s.file (BitVec.ofNat 32 s.produced)) i).entry % nentries =
        slot nentries (oldest nentries s + i) := by
      unfold slot
      rw [hnumber]
      rfl
    apply (congrArg (held nentries (during i)) hslot).trans
    apply held_still
    · exact (hrounds i hmade).trans_le (hbegin.trans (hmono (Nat.zero_le i)))
    · exact hthere i hmade

theorem Tracks.read (h : Tracks nentries s) (hpos : 0 < nentries.toNat)
    (hsteady : Steady nentries written s (.read size during after)) (hmono : Monotone during)
    (hbegin : s.produced ≤ during 0) (hend : ∀ i, during i ≤ after) :
    Tracks nentries (afterRead nentries written s size during after) := by
  have hafter : s.produced ≤ after := hbegin.trans (hend 0)
  by_cases hloop : EntersLoop s.file (callOf nentries written s size during)
  · obtain ⟨m, hm, hle, hdelivered, hat, hbytes⟩ := read_rounds h hpos hsteady hmono hbegin hloop
    obtain ⟨hlt, hfirst, -⟩ := firstEntry_oldest h hpos hsteady.1 hloop.2.2
    unfold afterRead
    dsimp only
    rw [hdelivered]
    apply h.more hm
    · rw [nssLogRead_loop hloop]
      exact h.loadMem
    · rw [nssLogRead_loop hloop]
      exact h.size
    · rw [nssLogRead_loop hloop]
      show (loopOf s.file _).lastEntry = _
      rw [hat.lastEntry, BitVec.ofNat_add]
      congr 1
      apply BitVec.eq_of_toNat_eq
      rw [hfirst, BitVec.toNat_ofNat]
    · rw [nssLogRead_loop hloop]
      show (if _ then _ else _) ≠ 0
      rw [if_pos hbytes]
      exact Nat.pos_iff_ne_zero.mp hbytes
    · exact hle.trans hafter
  · obtain ⟨hfile, hcopies⟩ := nssLogRead_skip hloop
    unfold afterRead
    dsimp only
    rw [hfile, hcopies]
    apply h.empty hafter
    intro hroom hnew
    apply hloop
    refine ⟨h.loadMem, fun hsmall => ?_, ?_⟩
    · have hlt : size.size.toNat < NSS_LOG_OUTPUT_LINE_SIZE.toNat := hsmall
      omega
    · exact hsteady.1.fresh h hpos hnew

theorem Tracks.step (h : Tracks nentries s) (hpos : 0 < nentries.toNat)
    (hstep : Step nentries written s l t) (hsteady : Steady nentries written s l) :
    Tracks nentries t := by
  cases hstep with
  | produce =>
    refine ⟨h.loadMem, h.size, h.lastEntry, h.ppos, ?_, h.below, ?_⟩
    · exact h.produced.trans (Nat.le_succ _)
    · exact ⟨h.delivers.ordered, h.delivers.skipped, h.delivers.prompt⟩
  | read size during after hmono hbegin hend => exact h.read hpos hsteady hmono hbegin hend

/-- As long as no read meets a wrapped count or an overwritten entry, the log is
    delivered. -/
theorem log_delivered (hpos : 0 < nentries.toNat)
    (h : Reachable (Start nentries) (Guarded (Step nentries written) (Steady nentries written)) s) :
    Delivers nentries s := by
  have htracks : Tracks nentries s := h.invariant (Tracks nentries)
    (fun _ hs => hs.tracks) (fun _ _ _ hs hstep => hs.step hpos hstep.1 hstep.2)
  exact htracks.delivers

end Reads

def onePage : ReadSize := ⟨4096, pageSize_le⟩

/-- A file on a ring of 32 entries, opened when `produced` have been written. -/
def openedAt (produced : ℕ) : LogState := ⟨produced, opened, []⟩

theorem openedAt_start (produced : ℕ) : Start 32 (openedAt produced) :=
  ⟨rfl, rfl, rfl, 0, fun _ => ⟨1, 0, 32, 0⟩, _, rfl⟩

theorem steady_one {s : LogState} {size : ReadSize} {produced after : ℕ}
    (hwritten : s.produced = produced) (hnew : produced ≤ position s + 1)
    (hsmall : produced < 2 ^ 32) (hposition : position s ≤ produced) :
    Steady 32 (fun _ => chatty) s (.read size (fun _ => produced) after) := by
  constructor
  · unfold Unwrapped
    split
    · exact .inl (by omega)
    · exact .inr (.inl (by omega))
  · intro i _ k hk hlt
    have hlt : k < produced := hlt
    have hold : position s ≤ oldest 32 s := le_max_left _ _
    omega

def firstRead : LogState :=
  afterRead 32 (fun _ => chatty) (openedAt 1) onePage (fun _ => 1) 1

def secondWritten : LogState := { firstRead with produced := firstRead.produced + 1 }

/-- An entry is read, and after it the next one. -/
theorem log_delivered_twice : returned (afterRead 32 (fun _ => chatty) secondWritten onePage
      (fun _ => 2) 2) = [0, 1] ∧
    Delivers 32 (afterRead 32 (fun _ => chatty) secondWritten onePage (fun _ => 2) 2) := by
  have hfirst : Reachable (Start 32) (Guarded (Step 32 fun _ => chatty) (Steady 32 fun _ => chatty))
      firstRead :=
    (Reachable.start (openedAt_start 1)).next (l := .read onePage (fun _ => 1) 1)
      ⟨.read _ _ _ _ monotone_const (le_refl _) fun _ => le_refl _,
        steady_one rfl (by decide) (by decide) (by decide)⟩
  have hsecond := hfirst.next (l := Label.produce) ⟨.produce _, trivial⟩
  have hthird := hsecond.next (l := .read onePage (fun _ => 2) 2)
    ⟨.read _ _ _ _ monotone_const (le_refl _) fun _ => le_refl _,
      steady_one rfl (by decide +kernel) (by decide) (by decide +kernel)⟩
  exact ⟨by decide +kernel, log_delivered (by decide) hthird⟩

/-- A first read right after the count has come back to 0. -/
theorem log_stalls : ¬ ∀ s, Reachable (Start 32) (Step 32 fun _ => chatty) s → Delivers 32 s := by
  intro h
  have hstep : Step 32 (fun _ => chatty) (openedAt (2 ^ 32))
      (.read onePage (fun _ => 2 ^ 32) (2 ^ 32))
      (afterRead 32 (fun _ => chatty) (openedAt (2 ^ 32)) onePage (fun _ => 2 ^ 32) (2 ^ 32)) :=
    .read _ _ _ _ monotone_const (le_refl _) fun _ => le_refl _
  have hprompt := (h _ ((Reachable.start (openedAt_start (2 ^ 32))).next hstep)).prompt
  have hskip : ¬ EntersLoop opened
      (callOf 32 (fun _ => chatty) (openedAt (2 ^ 32)) onePage fun _ => 2 ^ 32) := by
    intro hloop
    exact hloop.2.2 (by decide)
  have hcopies := (nssLogRead_skip hskip).2
  apply hprompt ⟨onePage, 2 ^ 32, 0, []⟩
  · unfold afterRead
    dsimp only
    rw [show (openedAt (2 ^ 32)).file = opened from rfl, hcopies]
    exact List.mem_singleton_self _
  · decide
  · decide
  · rfl

end NssDrv.LogDelivery

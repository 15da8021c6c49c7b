import Mathlib.Algebra.Order.Ring.Int
import Mathlib.Logic.Relation
import NssDrv.LogBuffer

set_option autoImplicit false

/-!
# Reading a log file

One call of `nss_log_read`. Sizes and counts are words, as `size_t` is on the
32-bit hosts of the driver; a failing copy puts `-EFAULT` into such a word.
-/
namespace NssDrv.LogRead
open HlosInterface LogBuffer

def NSS_LOG_OUTPUT_LINE_SIZE : U32 := 151
def EINVAL : ℤ := 22
def EFAULT : U32 := 14

/-- What a read finds of a `struct nss_log_entry`. `message` is the string that
    starts in the field of that name: where none of the 132 bytes is zero it runs
    on behind the field. -/
structure LogEntry where
  threadNum : U32
  timestamp : U32
  message : List U8
  message_lt : message.length < 2 ^ 30

/-- The largest size that reaches a read operation. -/
def MAX_RW_COUNT : ℕ := 0x7FFFF000

structure ReadSize where
  size : U32
  size_le : size.toNat ≤ MAX_RW_COUNT

def ascii (s : List Char) : List U8 := s.map fun c => BitVec.ofNat 8 c.toNat

/-- `%d` of an `int`. -/
def decimal (z : ℤ) : List Char :=
  if z < 0 then '-' :: Nat.toDigits 10 z.natAbs else Nat.toDigits 10 z.natAbs

/-- `NSS_LOG_LINE_FORMAT`, that is `%3d: %010u: %s` and the end of the line. -/
def logLine (rb : LogEntry) : List U8 :=
  ascii ((decimal rb.threadNum.toInt).leftpad 3 ' ' ++ [':', ' '] ++
    (Nat.toDigits 10 rb.timestamp.toNat).leftpad 10 '0' ++ [':', ' ']) ++
  rb.message ++ ascii ['\n']

/-- What `snprintf` returns: the length that the whole line would have. -/
def snprintf (rb : LogEntry) : U32 := BitVec.ofNat 32 (logLine rb).length

/-- A `copy_to_user` of `length` bytes from the line buffer, for an entry. -/
structure Copy where
  entry : U32
  offset : U32
  length : U32
  ok : Bool
  deriving DecidableEq

/-- The variables of the loop, and the copies that it has made. -/
structure Reading where
  lastEntry : U32
  bytes : U32
  copies : List Copy

/-- `entry` is what the descriptor says when the call looks. The firmware writes
    on during the call: `ring` has one content for each round of the loop. -/
structure ReadCall where
  size : ReadSize
  entry : U32
  ring : ℕ → U32 → LogEntry
  copyToUser : ℕ → Bool

/-- The body of the loop up to the check for space. -/
def copyLine (rb : LogEntry) (copied : Bool) (s : Reading) : Reading :=
  let b := snprintf rb
  { lastEntry := s.lastEntry + 1
    bytes := if copied then s.bytes + b else -EFAULT
    copies := s.copies ++ [⟨s.lastEntry, s.bytes, b, copied⟩] }

def outOfSpace (size bytes : U32) : Bool := bytes + NSS_LOG_OUTPUT_LINE_SIZE ≥ size

def readLoop (c : ReadCall) (nentries : U32) : ℕ → Reading → Reading
  | 0, s => s
  | fuel + 1, s =>
    if c.entry > s.lastEntry then
      let i := s.copies.length
      let t := copyLine (c.ring i (s.lastEntry % nentries)) (c.copyToUser i) s
      if !c.copyToUser i then t
      else if outOfSpace c.size.size t.bytes then t
      else readLoop c nentries fuel t
    else s

structure LogFile where
  data : LogData
  ppos : ℕ

structure ReadResult where
  file : LogFile
  ret : ℤ
  copies : List Copy

/-- `last_entry` when the loop starts. -/
def firstEntry (f : LogFile) (entry : U32) : U32 :=
  let data := f.data
  if f.ppos = 0 then
    if entry > data.nentries then entry - data.nentries else 0
  else if entry > data.nentries ∧ entry - data.nentries > data.lastEntry then
    entry - data.nentries
  else data.lastEntry

def nssLogRead (f : LogFile) (c : ReadCall) : ReadResult :=
  let data := f.data
  if data.loadMem = 0 then ⟨f, -EINVAL, []⟩
  else if c.size.size < NSS_LOG_OUTPUT_LINE_SIZE then ⟨f, 0, []⟩
  else if data.lastEntry = c.entry then ⟨f, 0, []⟩
  else
    let first := firstEntry f c.entry
    let s := readLoop c data.nentries (c.entry.toNat - first.toNat) ⟨first, 0, []⟩
    ⟨⟨{ data with lastEntry := s.lastEntry }, if s.bytes > 0 then s.bytes.toNat else f.ppos⟩,
      s.bytes.toInt, s.copies⟩

section Lengths

theorem decimal_length (x : U32) : (decimal x.toInt).length ≤ 11 := by
  have hdigits : (Nat.toDigits 10 x.toInt.natAbs).length ≤ 10 := by
    rw [Nat.length_toDigits_le_iff (by decide) (by decide)]
    have hbound := x.isLt
    rw [BitVec.toInt_eq_toNat_cond]
    split <;> omega
  unfold decimal
  split
  · rw [List.length_cons]
    omega
  · omega

theorem logLine_length (rb : LogEntry) :
    (logLine rb).length =
      max 3 (decimal rb.threadNum.toInt).length + rb.message.length + 15 := by
  have htime : (Nat.toDigits 10 rb.timestamp.toNat).length ≤ 10 := by
    rw [Nat.length_toDigits_le_iff (by decide) (by decide)]
    have hbound := rb.timestamp.isLt
    omega
  simp [logLine, ascii]
  omega

theorem snprintf_toNat (rb : LogEntry) : (snprintf rb).toNat = (logLine rb).length := by
  have hlength := logLine_length rb
  have hdecimal := decimal_length rb.threadNum
  have hmessage := rb.message_lt
  apply Nat.mod_eq_of_lt
  omega

theorem snprintf_bounds (rb : LogEntry) :
    18 ≤ (snprintf rb).toNat ∧ (snprintf rb).toNat < 2 ^ 30 + 26 := by
  have hlength := logLine_length rb
  have hdecimal := decimal_length rb.threadNum
  have hmessage := rb.message_lt
  rw [snprintf_toNat]
  omega

end Lengths

section Loop
variable {c : ReadCall} {nentries : U32} {s : Reading} {fuel : ℕ}

def copyAt (c : ReadCall) (nentries : U32) (s : Reading) : Copy :=
  ⟨s.lastEntry, s.bytes, snprintf (c.ring s.copies.length (s.lastEntry % nentries)),
    c.copyToUser s.copies.length⟩

def round (c : ReadCall) (nentries : U32) (s : Reading) : Reading :=
  copyLine (c.ring s.copies.length (s.lastEntry % nentries)) (c.copyToUser s.copies.length) s

theorem round_copies : (round c nentries s).copies = s.copies ++ [copyAt c nentries s] := rfl

theorem round_lastEntry : (round c nentries s).lastEntry = s.lastEntry + 1 := rfl

theorem lastEntry_succ {k entry : U32} (h : k < entry) : (k + 1).toNat = k.toNat + 1 := by
  have hlt : k.toNat < entry.toNat := h
  have hbound := entry.isLt
  have hone : (1 : U32).toNat = 1 := rfl
  rw [BitVec.toNat_add, hone]
  apply Nat.mod_eq_of_lt
  omega

theorem readLoop_cases (c : ReadCall) (nentries : U32) (fuel : ℕ) (s : Reading) :
    s.lastEntry < c.entry ∧
        readLoop c nentries (fuel + 1) s =
          (if c.copyToUser s.copies.length ∧
              outOfSpace c.size.size (round c nentries s).bytes = false then
            readLoop c nentries fuel (round c nentries s)
          else round c nentries s) ∨
      ¬ s.lastEntry < c.entry ∧ readLoop c nentries (fuel + 1) s = s := by
  by_cases hmore : c.entry > s.lastEntry
  · apply Or.inl
    refine ⟨hmore, ?_⟩
    conv_lhs => unfold readLoop
    rw [if_pos hmore]
    show (if (!c.copyToUser s.copies.length) = true then round c nentries s
      else if outOfSpace c.size.size (round c nentries s).bytes = true then round c nentries s
      else readLoop c nentries fuel (round c nentries s)) = _
    by_cases hok : c.copyToUser s.copies.length = true
    · by_cases hspace : outOfSpace c.size.size (round c nentries s).bytes = true
      · simp [hok, hspace]
      · simp [hok, hspace]
    · simp [hok]
  · exact .inr ⟨hmore, if_neg hmore⟩

theorem readLoop_enough (more : ℕ) (hfuel : c.entry.toNat - s.lastEntry.toNat ≤ fuel) :
    readLoop c nentries (fuel + more) s = readLoop c nentries fuel s := by
  induction fuel generalizing s with
  | zero =>
    cases more with
    | zero => rfl
    | succ more =>
      have hdone : ¬ c.entry > s.lastEntry := by
        simp only [gt_iff_lt, BitVec.lt_def]
        omega
      exact if_neg hdone
  | succ fuel ih =>
    rw [Nat.succ_add]
    rcases readLoop_cases c nentries (fuel + more) s with ⟨hmore, hleft⟩ | ⟨hdone, hleft⟩
    · rcases readLoop_cases c nentries fuel s with ⟨-, hright⟩ | ⟨hdone, -⟩
      · rw [hleft, hright, ih]
        rw [round_lastEntry, lastEntry_succ hmore]
        omega
      · exact absurd hmore hdone
    · rcases readLoop_cases c nentries fuel s with ⟨hmore, -⟩ | ⟨-, hright⟩
      · exact absurd hmore hdone
      · rw [hleft, hright]

theorem readLoop_failed {x : Copy} (hs : ∀ y ∈ s.copies, y.ok = true)
    (hx : x ∈ (readLoop c nentries fuel s).copies) (hfail : x.ok = false) :
    x.entry < c.entry ∧ (readLoop c nentries fuel s).lastEntry = x.entry + 1 ∧
      (readLoop c nentries fuel s).bytes = -EFAULT := by
  induction fuel generalizing s with
  | zero =>
    have hok := hs x hx
    rw [hfail] at hok
    cases hok
  | succ fuel ih =>
    rcases readLoop_cases c nentries fuel s with ⟨hmore, hround⟩ | ⟨-, hdone⟩
    · rw [hround] at hx ⊢
      by_cases hok : c.copyToUser s.copies.length = true
      · have hnext : ∀ y ∈ (round c nentries s).copies, y.ok = true := by
          intro y hy
          rw [round_copies, List.mem_append, List.mem_singleton] at hy
          rcases hy with hy | rfl
          · exact hs y hy
          · exact hok
        split at hx
        · rename_i hcond
          rw [if_pos hcond]
          exact ih hnext hx
        · have hlast := hnext x hx
          rw [hfail] at hlast
          cases hlast
      · have hcond : ¬ (c.copyToUser s.copies.length = true ∧
            outOfSpace c.size.size (round c nentries s).bytes = false) := fun h => hok h.1
        rw [if_neg hcond] at hx ⊢
        rw [round_copies, List.mem_append, List.mem_singleton] at hx
        rcases hx with hx | rfl
        · have hlast := hs x hx
          rw [hfail] at hlast
          cases hlast
        · refine ⟨hmore, rfl, ?_⟩
          exact if_neg hok
    · rw [hdone] at hx
      have hok := hs x hx
      rw [hfail] at hok
      cases hok

theorem readLoop_forward (c : ReadCall) (nentries : U32) (fuel : ℕ) (s : Reading) :
    s.lastEntry ≤ (readLoop c nentries fuel s).lastEntry ∧
      ∀ x ∈ (readLoop c nentries fuel s).copies, x ∈ s.copies ∨ s.lastEntry ≤ x.entry := by
  induction fuel generalizing s with
  | zero => exact ⟨BitVec.le_refl _, fun x hx => .inl hx⟩
  | succ fuel ih =>
    rcases readLoop_cases c nentries fuel s with ⟨hmore, hround⟩ | ⟨-, hdone⟩
    · have hnext : s.lastEntry ≤ (round c nentries s).lastEntry := by
        rw [BitVec.le_def, round_lastEntry, lastEntry_succ hmore]
        omega
      have hlast : ∀ x ∈ (round c nentries s).copies, x ∈ s.copies ∨ s.lastEntry ≤ x.entry := by
        intro x hx
        rw [round_copies, List.mem_append, List.mem_singleton] at hx
        apply hx.imp id
        rintro rfl
        exact BitVec.le_refl _
      rw [hround]
      split
      · obtain ⟨hend, hcopies⟩ := ih (round c nentries s)
        refine ⟨BitVec.le_trans hnext hend, fun x hx => ?_⟩
        rcases hcopies x hx with hx | hx
        · exact hlast x hx
        · exact .inr (BitVec.le_trans hnext hx)
      · exact ⟨hnext, hlast⟩
    · rw [hdone]
      exact ⟨BitVec.le_refl _, fun x hx => .inl hx⟩

end Loop

def lineLength (c : ReadCall) (nentries first : U32) (i : ℕ) : ℕ :=
  (logLine (c.ring i ((first + BitVec.ofNat 32 i) % nentries))).length

def printed (c : ReadCall) (nentries first : U32) : ℕ → ℕ
  | 0 => 0
  | i + 1 => printed c nentries first i + lineLength c nentries first i

/-- There is an entry for round `i`, and there was space behind the lines before. -/
def Reached (c : ReadCall) (nentries first : U32) (i : ℕ) : Prop :=
  first.toNat + i < c.entry.toNat ∧
    (i = 0 ∨ printed c nentries first i + 151 < c.size.size.toNat)

section Rounds
variable {c : ReadCall} {nentries first : U32} {s : Reading} {i : ℕ}

def copyNo (c : ReadCall) (nentries first : U32) (i : ℕ) : Copy :=
  ⟨first + BitVec.ofNat 32 i, BitVec.ofNat 32 (printed c nentries first i),
    snprintf (c.ring i ((first + BitVec.ofNat 32 i) % nentries)), c.copyToUser i⟩

theorem printed_mono {j : ℕ} (h : i ≤ j) :
    printed c nentries first i ≤ printed c nentries first j := by
  induction h with
  | refl => exact le_refl _
  | step _ ih => exact ih.trans (Nat.le_add_right _ _)

theorem Reached.earlier {j : ℕ} (h : Reached c nentries first j) (hij : i ≤ j) :
    Reached c nentries first i := by
  obtain ⟨hentry, hspace⟩ := h
  refine ⟨by omega, ?_⟩
  by_cases hi : i = 0
  · exact .inl hi
  · have hmono : printed c nentries first i ≤ printed c nentries first j := printed_mono hij
    omega

/-- The variables before round `i` when every round before it copied its line. -/
structure At (c : ReadCall) (nentries first : U32) (i : ℕ) (s : Reading) : Prop where
  copies : s.copies = (List.range i).map (copyNo c nentries first)
  lastEntry : s.lastEntry = first + BitVec.ofNat 32 i
  bytes : s.bytes = BitVec.ofNat 32 (printed c nentries first i)
  before : first.toNat + i ≤ c.entry.toNat ∨ i = 0

namespace At

theorem start : At c nentries first 0 ⟨first, 0, []⟩ :=
  ⟨rfl, (BitVec.add_zero first).symm, rfl, .inr rfl⟩

theorem count (h : At c nentries first i s) : s.copies.length = i := by
  rw [h.copies, List.length_map, List.length_range]

theorem copy (h : At c nentries first i s) : copyAt c nentries s = copyNo c nentries first i := by
  unfold copyAt copyNo
  rw [h.count, h.lastEntry, h.bytes]

theorem position (h : At c nentries first i s) : s.lastEntry.toNat = first.toNat + i := by
  have hentry := c.entry.isLt
  rw [h.lastEntry]
  rcases h.before with hle | rfl
  · rw [BitVec.toNat_add, BitVec.toNat_ofNat, Nat.mod_eq_of_lt (a := i) (by omega)]
    apply Nat.mod_eq_of_lt
    omega
  · simp

theorem lt_iff (h : At c nentries first i s) :
    s.lastEntry < c.entry ↔ first.toNat + i < c.entry.toNat := by
  rw [BitVec.lt_def, h.position]

theorem round_bytes (h : At c nentries first i s) (hok : c.copyToUser i = true) :
    (round c nentries s).bytes = BitVec.ofNat 32 (printed c nentries first (i + 1)) := by
  have hcount := h.count
  subst hcount
  have hadd : (round c nentries s).bytes =
      s.bytes + snprintf (c.ring s.copies.length (s.lastEntry % nentries)) := if_pos hok
  rw [hadd, h.bytes, h.lastEntry]
  exact (BitVec.ofNat_add ..).symm

theorem next (h : At c nentries first i s) (hmore : s.lastEntry < c.entry)
    (hok : c.copyToUser i = true) : At c nentries first (i + 1) (round c nentries s) := by
  constructor
  · rw [round_copies, h.copy, h.copies, List.range_succ, List.map_append]
    rfl
  · rw [round_lastEntry, h.lastEntry, BitVec.ofNat_add, BitVec.add_assoc]
    rfl
  · exact h.round_bytes hok
  · have hlt := h.lt_iff.mp hmore
    omega

end At

theorem printed_lt (h : Reached c nentries first i) :
    printed c nentries first (i + 1) < 0xC0000000 := by
  have hline := snprintf_bounds (c.ring i ((first + BitVec.ofNat 32 i) % nentries))
  rw [snprintf_toNat] at hline
  have hsize := c.size.size_le
  unfold MAX_RW_COUNT at hsize
  show printed c nentries first i + (logLine _).length < _
  rcases h.2 with rfl | hspace
  · show 0 + (logLine _).length < _
    omega
  · omega

theorem outOfSpace_iff (h : Reached c nentries first i) :
    outOfSpace c.size.size (BitVec.ofNat 32 (printed c nentries first (i + 1))) = false ↔
      printed c nentries first (i + 1) + 151 < c.size.size.toNat := by
  have hlt := printed_lt h
  have hline : NSS_LOG_OUTPUT_LINE_SIZE.toNat = 151 := rfl
  have hsum : (BitVec.ofNat 32 (printed c nentries first (i + 1)) +
      NSS_LOG_OUTPUT_LINE_SIZE).toNat = printed c nentries first (i + 1) + 151 := by
    have hword : printed c nentries first (i + 1) % 2 ^ 32 = printed c nentries first (i + 1) := by
      apply Nat.mod_eq_of_lt
      omega
    rw [BitVec.toNat_add, BitVec.toNat_ofNat, hline, hword]
    apply Nat.mod_eq_of_lt
    omega
  unfold outOfSpace
  rw [decide_eq_false_iff_not, ge_iff_le, BitVec.le_def, hsum]
  omega

/-- The rounds that the loop makes: none behind one that fails. -/
def Made (c : ReadCall) (nentries first : U32) (i : ℕ) : Prop :=
  Reached c nentries first i ∧ ∀ l < i, c.copyToUser l = true

/-- The loop after `m` rounds, which are all. -/
structure Ends (c : ReadCall) (nentries first : U32) (m : ℕ) (s : Reading) : Prop where
  copies : s.copies = (List.range m).map (copyNo c nentries first)
  made : ∀ j, j < m ↔ Made c nentries first j
  last : (∀ j, c.copyToUser j = true) → At c nentries first m s

/-- The rounds before round `i` have been made. -/
theorem At.made (h : At c nentries first i s)
    (hspace : i = 0 ∨ printed c nentries first i + 151 < c.size.size.toNat)
    (hok : ∀ l < i, c.copyToUser l = true) {j : ℕ} (hj : j < i) : Made c nentries first j := by
  refine ⟨⟨?_, ?_⟩, fun l hl => hok l (by omega)⟩
  · have hbefore := h.before
    omega
  · have hmono : printed c nentries first j ≤ printed c nentries first i := printed_mono hj.le
    omega

theorem Ends.bytes_pos {m : ℕ} (h : Ends c nentries first m s) (hall : ∀ j, c.copyToUser j = true)
    (hm : 0 < m) : s.bytes > 0 := by
  obtain ⟨k, rfl⟩ : ∃ k, m = k + 1 := ⟨m - 1, by omega⟩
  have hreached := ((h.made k).mp (Nat.lt_succ_self k)).1
  have hlt := printed_lt hreached
  have hline := snprintf_bounds (c.ring k ((first + BitVec.ofNat 32 k) % nentries))
  rw [snprintf_toNat] at hline
  have hsum : printed c nentries first (k + 1) = printed c nentries first k +
      (logLine (c.ring k ((first + BitVec.ofNat 32 k) % nentries))).length := rfl
  rw [(h.last hall).bytes, gt_iff_lt, BitVec.lt_def, BitVec.toNat_ofNat,
    Nat.mod_eq_of_lt (by omega)]
  show 0 < _
  omega

/-- Without a further entry the rounds before round `i` are all. -/
theorem At.ends (h : At c nentries first i s)
    (hspace : i = 0 ∨ printed c nentries first i + 151 < c.size.size.toNat)
    (hok : ∀ l < i, c.copyToUser l = true) (hdone : ¬ s.lastEntry < c.entry) :
    Ends c nentries first i s := by
  rw [h.lt_iff] at hdone
  refine ⟨h.copies, fun j => ⟨h.made hspace hok, fun hj => ?_⟩, fun _ => h⟩
  have hentry := hj.1.1
  omega

theorem readLoop_ends {fuel : ℕ} (h : At c nentries first i s)
    (hspace : i = 0 ∨ printed c nentries first i + 151 < c.size.size.toNat)
    (hok : ∀ l < i, c.copyToUser l = true)
    (hfuel : c.entry.toNat - s.lastEntry.toNat ≤ fuel) :
    ∃ m, Ends c nentries first m (readLoop c nentries fuel s) := by
  induction fuel generalizing s i with
  | zero =>
    refine ⟨i, h.ends hspace hok ?_⟩
    rw [BitVec.lt_def]
    omega
  | succ fuel ih =>
    rcases readLoop_cases c nentries fuel s with ⟨hmore, hround⟩ | ⟨hdone, hstop⟩
    · have hreached : Reached c nentries first i := ⟨h.lt_iff.mp hmore, hspace⟩
      have hcopies : (round c nentries s).copies =
          (List.range (i + 1)).map (copyNo c nentries first) := by
        rw [round_copies, h.copy, h.copies, List.range_succ, List.map_append]
        rfl
      have hmade : ∀ j, j < i + 1 → Made c nentries first j := by
        intro j hj
        rcases Nat.lt_succ_iff_lt_or_eq.mp hj with hj | rfl
        · exact h.made hspace hok hj
        · exact ⟨hreached, hok⟩
      rw [hround, h.count]
      by_cases hcopy : c.copyToUser i = true
      · have hnext := h.next hmore hcopy
        have hok' : ∀ l < i + 1, c.copyToUser l = true := by
          intro l hl
          rcases Nat.lt_succ_iff_lt_or_eq.mp hl with hl | rfl
          · exact hok l hl
          · exact hcopy
        have hiff := outOfSpace_iff hreached
        rw [← h.round_bytes hcopy] at hiff
        by_cases hroom : printed c nentries first (i + 1) + 151 < c.size.size.toNat
        · have hfuel' : c.entry.toNat - (round c nentries s).lastEntry.toNat ≤ fuel := by
            rw [round_lastEntry, lastEntry_succ hmore]
            omega
          rw [if_pos ⟨hcopy, hiff.mpr hroom⟩]
          exact ih hnext (.inr hroom) hok' hfuel'
        · rw [if_neg fun hcond => hroom (hiff.mp hcond.2)]
          refine ⟨i + 1, hcopies, fun j => ⟨hmade j, fun hj => ?_⟩, fun _ => hnext⟩
          by_contra hle
          rcases (hj.1.earlier (Nat.le_of_not_lt hle)).2 with hzero | hspace'
          · omega
          · exact hroom hspace'
      · rw [if_neg fun hcond => hcopy hcond.1]
        refine ⟨i + 1, hcopies, fun j => ⟨hmade j, fun hj => ?_⟩, fun hall => absurd (hall i) hcopy⟩
        by_contra hle
        exact hcopy (hj.2 i (by omega))
    · rw [hstop]
      exact ⟨i, h.ends hspace hok hdone⟩

end Rounds

/-- The call gets as far as its loop. -/
def EntersLoop (f : LogFile) (c : ReadCall) : Prop :=
  f.data.loadMem ≠ 0 ∧ ¬ c.size.size < NSS_LOG_OUTPUT_LINE_SIZE ∧ f.data.lastEntry ≠ c.entry

section Calls
variable {f : LogFile} {c : ReadCall}

def loopOf (f : LogFile) (c : ReadCall) : Reading :=
  readLoop c f.data.nentries (c.entry.toNat - (firstEntry f c.entry).toNat)
    ⟨firstEntry f c.entry, 0, []⟩

theorem nssLogRead_loop (h : EntersLoop f c) :
    nssLogRead f c =
      ⟨⟨{ f.data with lastEntry := (loopOf f c).lastEntry },
        if (loopOf f c).bytes > 0 then (loopOf f c).bytes.toNat else f.ppos⟩,
        (loopOf f c).bytes.toInt, (loopOf f c).copies⟩ := by
  obtain ⟨hmem, hsize, hentry⟩ := h
  unfold nssLogRead
  rw [if_neg hmem, if_neg hsize, if_neg hentry]
  rfl

theorem nssLogRead_skip (h : ¬ EntersLoop f c) :
    (nssLogRead f c).file = f ∧ (nssLogRead f c).copies = [] := by
  unfold nssLogRead
  by_cases hmem : f.data.loadMem = 0
  · rw [if_pos hmem]
    exact ⟨rfl, rfl⟩
  · rw [if_neg hmem]
    by_cases hsize : c.size.size < NSS_LOG_OUTPUT_LINE_SIZE
    · rw [if_pos hsize]
      exact ⟨rfl, rfl⟩
    · rw [if_neg hsize]
      by_cases hentry : f.data.lastEntry = c.entry
      · rw [if_pos hentry]
        exact ⟨rfl, rfl⟩
      · exact absurd ⟨hmem, hsize, hentry⟩ h

theorem loopOf_ends (f : LogFile) (c : ReadCall) :
    ∃ m, Ends c f.data.nentries (firstEntry f c.entry) m (loopOf f c) :=
  readLoop_ends At.start (.inl rfl) (fun _ hl => absurd hl (Nat.not_lt_zero _)) (le_refl _)

theorem mem_copies (h : EntersLoop f c) (x : Copy) :
    x ∈ (nssLogRead f c).copies ↔ ∃ i, Made c f.data.nentries (firstEntry f c.entry) i ∧
      x = copyNo c f.data.nentries (firstEntry f c.entry) i := by
  obtain ⟨m, hends⟩ := loopOf_ends f c
  rw [nssLogRead_loop h]
  show x ∈ (loopOf f c).copies ↔ _
  rw [hends.copies, List.mem_map]
  apply exists_congr
  intro i
  rw [List.mem_range, hends.made i, eq_comm (a := x)]

end Calls

def Later : LogFile → LogFile → Prop :=
  Relation.ReflTransGen fun f g => ∃ c, g = (nssLogRead f c).file

def Delivers (r : ReadResult) (entry : U32) : Prop :=
  ∃ x ∈ r.copies, x.entry = entry ∧ x.ok = true

/-- The call stays within the user buffer and within its line, and an entry whose
    copy fails is left for a later read. -/
structure CopiesSafely (f : LogFile) (c : ReadCall) : Prop where
  buffer : ∀ x ∈ (nssLogRead f c).copies,
    x.offset.toNat + x.length.toNat ≤ c.size.size.toNat
  line : ∀ x ∈ (nssLogRead f c).copies, x.length.toNat ≤ NSS_LOG_OUTPUT_LINE_SIZE.toNat
  failure : ∀ x ∈ (nssLogRead f c).copies, x.ok = false →
    (nssLogRead f c).ret < 0 ∧
      ∃ g c', Later (nssLogRead f c).file g ∧ Delivers (nssLogRead g c') x.entry

/-- Every line that the call gets to fits into the line buffer and is copied. -/
def LinesFit (f : LogFile) (c : ReadCall) : Prop :=
  EntersLoop f c → ∀ i, Reached c f.data.nentries (firstEntry f c.entry) i →
    lineLength c f.data.nentries (firstEntry f c.entry) i ≤ NSS_LOG_OUTPUT_LINE_SIZE.toNat ∧
      c.copyToUser i = true

section Failure
variable {f g : LogFile} {c : ReadCall} {k : U32}

/-- The file is behind an entry and has been read. -/
def Past (k : U32) (f : LogFile) : Prop := f.ppos ≠ 0 ∧ k < f.data.lastEntry

theorem firstEntry_past (h : Past k f) (entry : U32) : k < firstEntry f entry := by
  obtain ⟨hread, hlast⟩ := h
  unfold firstEntry
  rw [if_neg hread]
  by_cases hclamp : entry > f.data.nentries ∧ entry - f.data.nentries > f.data.lastEntry
  · rw [if_pos hclamp]
    exact BitVec.lt_trans hlast hclamp.2
  · rw [if_neg hclamp]
    exact hlast

theorem Past.read (h : Past k f) (c : ReadCall) :
    Past k (nssLogRead f c).file ∧ ¬ Delivers (nssLogRead f c) k := by
  by_cases hloop : EntersLoop f c
  · obtain ⟨hend, hcopies⟩ := readLoop_forward c f.data.nentries
      (c.entry.toNat - (firstEntry f c.entry).toNat) ⟨firstEntry f c.entry, 0, []⟩
    have hfirst := firstEntry_past h c.entry
    rw [nssLogRead_loop hloop]
    constructor
    · constructor
      · show (if (loopOf f c).bytes > 0 then (loopOf f c).bytes.toNat else f.ppos) ≠ 0
        split
        · rename_i hbytes
          rw [gt_iff_lt, BitVec.lt_def] at hbytes
          exact Nat.pos_iff_ne_zero.mp hbytes
        · exact h.1
      · exact Nat.lt_of_lt_of_le hfirst hend
    · rintro ⟨x, hx, rfl, -⟩
      rcases hcopies x hx with hx | hx
      · cases hx
      · exact Nat.lt_irrefl _ (Nat.lt_of_lt_of_le hfirst hx)
  · obtain ⟨hfile, hcopies⟩ := nssLogRead_skip hloop
    rw [hfile]
    refine ⟨h, ?_⟩
    rintro ⟨x, hx, -⟩
    rw [hcopies] at hx
    cases hx

theorem Past.later (h : Past k f) (hlater : Later f g) : Past k g := by
  induction hlater with
  | refl => exact h
  | tail _ hstep ih =>
    obtain ⟨c, rfl⟩ := hstep
    exact (ih.read c).1

theorem failed_past {x : Copy} (hx : x ∈ (nssLogRead f c).copies) (hfail : x.ok = false) :
    Past x.entry (nssLogRead f c).file := by
  by_cases hloop : EntersLoop f c
  · rw [nssLogRead_loop hloop] at hx ⊢
    obtain ⟨hentry, hlast, hbytes⟩ := readLoop_failed (by simp) hx hfail
    constructor
    · show (if (loopOf f c).bytes > 0 then (loopOf f c).bytes.toNat else f.ppos) ≠ 0
      have herror : (-EFAULT : U32) > 0 := by decide
      rw [show (loopOf f c).bytes = -EFAULT from hbytes, if_pos herror]
      decide
    · show x.entry < (loopOf f c).lastEntry
      rw [show (loopOf f c).lastEntry = x.entry + 1 from hlast, BitVec.lt_def]
      rw [lastEntry_succ hentry]
      exact Nat.lt_succ_self _
  · rw [(nssLogRead_skip hloop).2] at hx
    cases hx

theorem failed_lost {x : Copy} (hx : x ∈ (nssLogRead f c).copies) (hfail : x.ok = false) :
    ¬ ∃ g c', Later (nssLogRead f c).file g ∧ Delivers (nssLogRead g c') x.entry := by
  rintro ⟨g, c', hlater, hdelivers⟩
  exact (((failed_past hx hfail).later hlater).read c').2 hdelivers

end Failure

theorem copiesSafely_iff (f : LogFile) (c : ReadCall) : CopiesSafely f c ↔ LinesFit f c := by
  constructor
  · intro h hloop i
    induction i using Nat.strong_induction_on with
    | h i ih =>
      intro hreached
      have hx : copyNo c f.data.nentries (firstEntry f c.entry) i ∈ (nssLogRead f c).copies := by
        rw [mem_copies hloop]
        refine ⟨i, ⟨hreached, fun l hl => ?_⟩, rfl⟩
        exact (ih l hl (hreached.earlier hl.le)).2
      constructor
      · have hline := h.line _ hx
        rwa [show (copyNo c f.data.nentries (firstEntry f c.entry) i).length.toNat = _ from
          snprintf_toNat _] at hline
      · by_contra hcopy
        have hfail := Bool.eq_false_iff.mpr hcopy
        exact failed_lost hx hfail (h.failure _ hx hfail).2
  · intro h
    by_cases hloop : EntersLoop f c
    · have hrounds : ∀ x ∈ (nssLogRead f c).copies,
          ∃ i, Reached c f.data.nentries (firstEntry f c.entry) i ∧
            x = copyNo c f.data.nentries (firstEntry f c.entry) i := by
        intro x hx
        obtain ⟨i, hmade, hcopy⟩ := (mem_copies hloop x).mp hx
        exact ⟨i, hmade.1, hcopy⟩
      constructor
      · intro x hx
        obtain ⟨i, hreached, rfl⟩ := hrounds x hx
        obtain ⟨hline, -⟩ := h hloop i hreached
        have hsize := c.size.size_le
        have hlarge : 151 ≤ c.size.size.toNat := Nat.le_of_not_lt hloop.2.1
        unfold MAX_RW_COUNT at hsize
        show (BitVec.ofNat 32 (printed c f.data.nentries (firstEntry f c.entry) i)).toNat +
          (snprintf _).toNat ≤ _
        rw [snprintf_toNat, BitVec.toNat_ofNat]
        rw [show NSS_LOG_OUTPUT_LINE_SIZE.toNat = 151 from rfl] at hline
        have hmod := Nat.mod_le (printed c f.data.nentries (firstEntry f c.entry) i) (2 ^ 32)
        have hsum :
            printed c f.data.nentries (firstEntry f c.entry) i + 151 ≤ c.size.size.toNat := by
          rcases hreached.2 with rfl | hspace
          · show 0 + 151 ≤ c.size.size.toNat
            omega
          · omega
        exact (Nat.add_le_add hmod hline).trans hsum
      · intro x hx
        obtain ⟨i, hreached, rfl⟩ := hrounds x hx
        rw [show (copyNo c f.data.nentries (firstEntry f c.entry) i).length.toNat = _ from
          snprintf_toNat _]
        exact (h hloop i hreached).1
      · intro x hx hfail
        obtain ⟨i, hreached, rfl⟩ := hrounds x hx
        have hok := (h hloop i hreached).2
        rw [show c.copyToUser i = false from hfail] at hok
        cases hok
    · have hnone : ∀ x, x ∉ (nssLogRead f c).copies := by
        intro x hx
        rw [(nssLogRead_skip hloop).2] at hx
        cases hx
      exact ⟨fun x hx => absurd hx (hnone x), fun x hx => absurd hx (hnone x),
        fun x hx => absurd hx (hnone x)⟩

def fullMessage : List U8 := List.replicate 131 0x61

theorem fullMessage_lt : fullMessage.length < 2 ^ 30 := by
  unfold fullMessage
  rw [List.length_replicate]
  decide

/-- A thread number of six digits, and a message that fills its field. -/
def chatty : LogEntry := ⟨100000, 0, fullMessage, fullMessage_lt⟩

theorem pageSize_le : (4096 : U32).toNat ≤ MAX_RW_COUNT := by decide

def oneLine (rb : LogEntry) (copied : Bool) : ReadCall :=
  ⟨⟨4096, pageSize_le⟩, 1, fun _ _ => rb, fun _ => copied⟩

def opened : LogFile := ⟨⟨1, 0, 0, 32, 0⟩, 0⟩

theorem chatty_overruns : ¬ ∀ f c, CopiesSafely f c := by
  intro h
  have hloop : EntersLoop opened (oneLine chatty true) := by
    unfold EntersLoop
    decide
  have hx : copyNo (oneLine chatty true) 32 0 0 ∈
      (nssLogRead opened (oneLine chatty true)).copies := by
    rw [mem_copies hloop]
    exact ⟨0, ⟨⟨by decide, .inl rfl⟩, fun l hl => absurd hl (Nat.not_lt_zero l)⟩, rfl⟩
  have hline := (h opened (oneLine chatty true)).line _ hx
  have hthread : (decimal chatty.threadNum.toInt).length = 6 := by decide
  have hmessage : chatty.message.length = 131 := List.length_replicate
  rw [show (copyNo (oneLine chatty true) 32 0 0).length.toNat = _ from snprintf_toNat chatty,
    logLine_length, hthread, hmessage] at hline
  exact absurd hline (by decide)

end NssDrv.LogRead

import Mathlib.Data.List.Basic

set_option autoImplicit false

/-!
# Texts in a buffer of limited size

Pieces printed one behind the other into a buffer, a text read at a position that
moves on with what is copied, and texts of labelled values, from which the values
can be read off again.
-/
namespace BoundedText

section Printing
variable {α : Type} {cap : ℕ} {out : List α}

/-- What stands in a buffer of `cap` places, one of which is for its end, after `piece` was
    printed behind `out`. -/
def print (cap : ℕ) (out piece : List α) : List α := out ++ piece.take (cap - 1 - out.length)

def printAll (cap : ℕ) (pieces : List (List α)) : List α := pieces.foldl (print cap) []

theorem print_eq (h : out.length ≤ cap - 1) (piece : List α) :
    print cap out piece = (out ++ piece).take (cap - 1) := by
  rw [List.take_append, List.take_of_length_le h]
  rfl

theorem take_append_take (n : ℕ) (xs ys : List α) :
    (xs.take n ++ ys).take n = (xs ++ ys).take n := by
  have hroom : n - min n xs.length = n - xs.length := by omega
  rw [List.take_append, List.take_append, List.take_take, Nat.min_self, List.length_take, hroom]

theorem foldl_print (h : out.length ≤ cap - 1) (pieces : List (List α)) :
    pieces.foldl (print cap) out = (out ++ pieces.flatten).take (cap - 1) := by
  induction pieces generalizing out with
  | nil =>
    rw [List.foldl_nil, List.flatten_nil, List.append_nil, List.take_of_length_le h]
  | cons piece pieces ih =>
    have hfit : ((out ++ piece).take (cap - 1)).length ≤ cap - 1 := by
      rw [List.length_take]
      omega
    rw [List.foldl_cons, print_eq h, ih hfit, take_append_take, List.flatten_cons,
      List.append_assoc]

theorem printAll_eq (pieces : List (List α)) :
    printAll cap pieces = pieces.flatten.take (cap - 1) :=
  foldl_print (Nat.zero_le _) pieces

theorem printAll_whole {pieces : List (List α)} (h : pieces.flatten.length < cap) :
    printAll cap pieces = pieces.flatten := by
  rw [printAll_eq, List.take_of_length_le (by omega)]

theorem length_flatten_le {w : ℕ} {pieces : List (List α)} (h : ∀ p ∈ pieces, p.length ≤ w) :
    pieces.flatten.length ≤ w * pieces.length := by
  induction pieces with
  | nil => exact Nat.zero_le _
  | cons p pieces ih =>
    have hhead := h p List.mem_cons_self
    have hrest := ih fun p hp => h p (List.mem_cons_of_mem _ hp)
    rw [List.flatten_cons, List.length_append, List.length_cons, Nat.mul_succ]
    omega

end Printing

section Reading
variable {α : Type}

/-- How much is asked for, and how much of that cannot be copied. -/
structure Request where
  count : ℕ
  notCopied : ℕ

/-- What is copied of a text from a position on, or nothing where that fails, and the
    position afterwards. -/
def readAt (r : Request) (pos : ℕ) (text : List α) : Option (List α) × ℕ :=
  if text.length ≤ pos ∨ r.count = 0 then (some [], pos)
  else
    let count := min r.count (text.length - pos)
    if count ≤ r.notCopied then (none, pos)
    else (some ((text.drop pos).take (count - r.notCopied)), pos + (count - r.notCopied))

structure Reader (α : Type) where
  pos : ℕ
  got : List α

def Reader.start : Reader α := ⟨0, []⟩

def Reader.read (s : Reader α) (call : Request × List α) : Reader α :=
  let r := readAt call.1 s.pos call.2
  ⟨r.2, s.got ++ r.1.getD []⟩

def Reader.reads (s : Reader α) (calls : List (Request × List α)) : Reader α :=
  calls.foldl Reader.read s

def Reader.Has (s : Reader α) (text : List α) : Prop :=
  s.pos ≤ text.length ∧ s.got = text.take s.pos

variable {s : Reader α} {text : List α} {r : Request}

theorem Reader.Has.read (h : s.Has text) (r : Request) : (s.read (r, text)).Has text := by
  obtain ⟨hpos, hgot⟩ := h
  unfold Reader.read readAt
  by_cases hend : text.length ≤ s.pos ∨ r.count = 0
  · rw [if_pos hend]
    exact ⟨hpos, by simpa using hgot⟩
  · rw [if_neg hend]
    by_cases hfault : min r.count (text.length - s.pos) ≤ r.notCopied
    · simp only [hfault, if_true]
      exact ⟨hpos, by simpa using hgot⟩
    · simp only [hfault, if_false]
      refine ⟨?_, ?_⟩
      · change s.pos + (min r.count (text.length - s.pos) - r.notCopied) ≤ text.length
        omega
      · rw [hgot, Option.getD_some, ← List.take_add]

theorem Reader.Has.reads {calls : List (Request × List α)} (h : s.Has text)
    (hsame : ∀ call ∈ calls, call.2 = text) : (s.reads calls).Has text := by
  induction calls generalizing s with
  | nil => exact h
  | cons call calls ih =>
    obtain ⟨r, text'⟩ := call
    obtain rfl := hsame _ List.mem_cons_self
    exact ih (h.read r) fun call hcall => hsame call (List.mem_cons_of_mem _ hcall)

theorem Reader.start_has (text : List α) : (Reader.start : Reader α).Has text :=
  ⟨Nat.zero_le _, rfl⟩

/-- Who asks for something and is told that there is nothing has the whole text. -/
theorem Reader.Has.whole (h : s.Has text) (hsome : r.count ≠ 0)
    (hnone : (readAt r s.pos text).1 = some []) : s.got = text := by
  obtain ⟨hpos, hgot⟩ := h
  unfold readAt at hnone
  by_cases hend : text.length ≤ s.pos ∨ r.count = 0
  · have hle : text.length ≤ s.pos := by
      rcases hend with hle | hzero
      · exact hle
      · exact absurd hzero hsome
    rw [hgot, List.take_of_length_le hle]
  · rw [if_neg hend] at hnone
    by_cases hfault : min r.count (text.length - s.pos) ≤ r.notCopied
    · simp [hfault] at hnone
    · simp only [hfault, if_false, Option.some.injEq] at hnone
      have hlength := congrArg List.length hnone
      simp only [List.length_take, List.length_drop, List.length_nil] at hlength
      omega

end Reading

section Lines
variable {α κ ν : Type} {format : ν → List α} {parse : List α → ν} {stop : α} {width : ℕ}
  {value : κ → ν}

/-- A piece of text that stands as it is, or a label with the value of a key behind it. -/
inductive Line (α κ : Type) where
  | text (t : List α)
  | row (label : List α) (k : κ)

variable (format stop) in
def Line.print (value : κ → ν) : Line α κ → List α
  | .text t => t
  | .row label k => label ++ (format (value k) ++ [stop])

def Line.shown (value : κ → ν) : Line α κ → List (κ × ν)
  | .text _ => []
  | .row _ k => [(k, value k)]

/-- The width of a line whose value takes `width` places. -/
def Line.bound (width : ℕ) : Line α κ → ℕ
  | .text t => t.length
  | .row label _ => label.length + (width + 1)

theorem Line.length_print (hwidth : ∀ x, (format x).length ≤ width) (l : Line α κ) :
    (l.print format stop value).length ≤ l.bound width := by
  cases l with
  | text t => exact Nat.le_refl _
  | row label k =>
    have := hwidth (value k)
    simp only [Line.print, Line.bound, List.length_append, List.length_singleton]
    omega

theorem print_congr {value' : κ → ν} {ls : List (Line α κ)}
    (h : ls.flatMap (Line.shown value) = ls.flatMap (Line.shown value')) :
    ls.map (Line.print format stop value) = ls.map (Line.print format stop value') := by
  induction ls with
  | nil => rfl
  | cons l ls ih =>
    cases l with
    | text t => exact congrArg (t :: ·) (ih h)
    | row label k =>
      obtain ⟨hrow, hrest⟩ := List.cons.inj h
      have hvalue : value k = value' k := congrArg Prod.snd hrow
      rw [List.map_cons, List.map_cons, ih hrest, Line.print, Line.print, hvalue]

theorem length_shown (value' : κ → ν) (ls : List (Line α κ)) :
    (ls.flatMap (Line.shown value)).length = (ls.flatMap (Line.shown value')).length := by
  induction ls with
  | nil => rfl
  | cons l ls ih =>
    rw [List.flatMap_cons, List.flatMap_cons, List.length_append, List.length_append, ih]
    cases l <;> rfl

variable [DecidableEq α]

/-- What comes behind `label`, where the text begins with it. -/
def expect (label text : List α) : Option (List α) :=
  if label.isPrefixOf text then some (text.drop label.length) else none

@[simp] theorem expect_append (label rest : List α) : expect label (label ++ rest) = some rest := by
  simp [expect]

variable (parse stop) in
def Line.scan : Line α κ → List α → Option (List (κ × ν) × List α)
  | .text t, input => (expect t input).map fun rest => ([], rest)
  | .row label k, input => (expect label input).map fun rest =>
    ([(k, parse (rest.takeWhile (· ≠ stop)))], (rest.dropWhile (· ≠ stop)).drop 1)

variable (parse stop) in
def scan : List (Line α κ) → List α → Option (List (κ × ν) × List α)
  | [], input => some ([], input)
  | l :: ls, input => do
    let (found, rest) ← l.scan parse stop input
    let (more, rest) ← scan ls rest
    return (found ++ more, rest)

theorem takeWhile_stop {xs : List α} (h : stop ∉ xs) (rest : List α) :
    (xs ++ stop :: rest).takeWhile (· ≠ stop) = xs := by
  induction xs with
  | nil => simp
  | cons x xs ih =>
    have hne : x ≠ stop := fun he => h (he ▸ List.mem_cons_self)
    have hrest : stop ∉ xs := fun hmem => h (List.mem_cons_of_mem _ hmem)
    simpa [hne] using ih hrest

theorem dropWhile_stop {xs : List α} (h : stop ∉ xs) (rest : List α) :
    (xs ++ stop :: rest).dropWhile (· ≠ stop) = stop :: rest := by
  induction xs with
  | nil => simp
  | cons x xs ih =>
    have hne : x ≠ stop := fun he => h (he ▸ List.mem_cons_self)
    have hrest : stop ∉ xs := fun hmem => h (List.mem_cons_of_mem _ hmem)
    simpa [hne] using ih hrest

theorem Line.scan_print (hparse : ∀ x, parse (format x) = x) (hstop : ∀ x, stop ∉ format x)
    (l : Line α κ) (rest : List α) :
    l.scan parse stop (l.print format stop value ++ rest) = some (l.shown value, rest) := by
  cases l with
  | text t => simp [Line.scan, Line.print, Line.shown]
  | row label k =>
    have hbefore := takeWhile_stop (hstop (value k)) rest
    have hbehind := dropWhile_stop (hstop (value k)) rest
    simp only [Line.scan, Line.print, List.append_assoc, expect_append, List.singleton_append,
      Option.map_some]
    rw [hbefore, hbehind, hparse]
    rfl

theorem scan_append {ls ls' : List (Line α κ)} {input rest rest' : List α}
    {found found' : List (κ × ν)} (h : scan parse stop ls input = some (found, rest))
    (h' : scan parse stop ls' rest = some (found', rest')) :
    scan parse stop (ls ++ ls') input = some (found ++ found', rest') := by
  induction ls generalizing input found with
  | nil =>
    obtain ⟨rfl, rfl⟩ := Prod.mk.inj (Option.some.inj h)
    exact h'
  | cons l ls ih =>
    rw [List.cons_append]
    unfold scan at h ⊢
    cases hl : l.scan parse stop input with
    | none =>
      rw [hl] at h
      cases h
    | some a =>
      rw [hl] at h
      dsimp only [Option.bind_eq_bind, Option.bind_some] at h ⊢
      cases hls : scan parse stop ls a.2 with
      | none =>
        rw [hls] at h
        cases h
      | some b =>
        rw [hls] at h
        obtain ⟨rfl, rfl⟩ := Prod.mk.inj (Option.some.inj h)
        rw [ih hls]
        simp

theorem scan_print (hparse : ∀ x, parse (format x) = x) (hstop : ∀ x, stop ∉ format x)
    (ls : List (Line α κ)) (rest : List α) :
    scan parse stop ls (ls.flatMap (Line.print format stop value) ++ rest) =
      some (ls.flatMap (Line.shown value), rest) := by
  induction ls with
  | nil => rfl
  | cons l ls ih =>
    rw [List.flatMap_cons, List.append_assoc, scan, l.scan_print hparse hstop]
    simp [ih]

end Lines
end BoundedText

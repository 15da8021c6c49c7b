import Mathlib.Data.List.Basic
import Mathlib.Data.Nat.ModEq
import Mathlib.Logic.Function.Basic
import Mathlib.Tactic.Ring

set_option autoImplicit false

/-!
# Cyclic indexes and the contents of a circular buffer

Indexes below `n`, the forward distance between two of them, and the list of
the cells met on the way. Masked machine arithmetic on a power of two is
brought down to these.
-/
namespace CyclicIndex

def advance (n i d : ℕ) : ℕ := (i + d) % n

/-- The number of forward steps from `i` to `j`. -/
def gap (n i j : ℕ) : ℕ := (j + n - i) % n

variable {n i j d e : ℕ}

theorem advance_lt (hn : 0 < n) : advance n i d < n := Nat.mod_lt _ hn

theorem gap_lt (hn : 0 < n) : gap n i j < n := Nat.mod_lt _ hn

@[simp] theorem advance_zero (hi : i < n) : advance n i 0 = i := Nat.mod_eq_of_lt hi

@[simp] theorem advance_advance : advance n (advance n i d) e = advance n i (d + e) := by
  unfold advance
  rw [Nat.mod_add_mod, Nat.add_assoc]

theorem gap_self : gap n i i = 0 := by
  unfold gap
  rw [Nat.add_sub_cancel_left, Nat.mod_self]

theorem gap_cases (hi : i < n) (hj : j < n) :
    i ≤ j ∧ gap n i j = j - i ∨ j < i ∧ gap n i j = j + n - i := by
  unfold gap
  by_cases h : i ≤ j
  · left
    refine ⟨h, ?_⟩
    rw [show j + n - i = (j - i) + n by omega, Nat.add_mod_right, Nat.mod_eq_of_lt (by omega)]
  · right
    exact ⟨by omega, Nat.mod_eq_of_lt (by omega)⟩

theorem advance_cases (hi : i < n) (hd : d < n) :
    i + d < n ∧ advance n i d = i + d ∨ n ≤ i + d ∧ advance n i d = i + d - n := by
  unfold advance
  by_cases h : i + d < n
  · exact .inl ⟨h, Nat.mod_eq_of_lt h⟩
  · right
    refine ⟨by omega, ?_⟩
    rw [Nat.mod_eq_sub_mod (by omega), Nat.mod_eq_of_lt (by omega)]

theorem gap_advance (hi : i < n) (hd : d < n) : gap n i (advance n i d) = d := by
  have hlt := advance_lt (i := i) (d := d) (by omega : 0 < n)
  rcases advance_cases hi hd with ⟨h, ha⟩ | ⟨h, ha⟩ <;>
    rcases gap_cases hi hlt with ⟨h', hg⟩ | ⟨h', hg⟩ <;> omega

theorem advance_gap (hi : i < n) (hj : j < n) : advance n i (gap n i j) = j := by
  have hg := gap_lt (i := i) (j := j) (by omega : 0 < n)
  rcases gap_cases hi hj with ⟨h, hg'⟩ | ⟨h, hg'⟩ <;>
    rcases advance_cases hi hg with ⟨h', ha⟩ | ⟨h', ha⟩ <;> omega

theorem advance_inj (hi : i < n) (hd : d < n) (he : e < n) (h : advance n i d = advance n i e) :
    d = e := by
  rw [← gap_advance hi hd, h, gap_advance hi he]

/-- The consumer moves towards `j`. -/
theorem gap_advance_left (hi : i < n) (hj : j < n) (he : e ≤ gap n i j) :
    gap n (advance n i e) j = gap n i j - e := by
  have hg := gap_lt (i := i) (j := j) (by omega : 0 < n)
  have hlt := advance_lt (i := i) (d := e) (by omega : 0 < n)
  rcases advance_cases hi (show e < n by omega) with ⟨h, ha⟩ | ⟨h, ha⟩ <;>
    rcases gap_cases hi hj with ⟨h', hg'⟩ | ⟨h', hg'⟩ <;>
      rcases gap_cases hlt hj with ⟨h'', hg''⟩ | ⟨h'', hg''⟩ <;> omega

/-- The producer moves away from `i`, and does not lap it. -/
theorem gap_advance_right (hi : i < n) (hj : j < n) (hd : gap n i j + d < n) :
    gap n i (advance n j d) = gap n i j + d := by
  have hlt := advance_lt (i := j) (d := d) (by omega : 0 < n)
  rcases advance_cases hj (show d < n by omega) with ⟨h, ha⟩ | ⟨h, ha⟩ <;>
    rcases gap_cases hi hj with ⟨h', hg'⟩ | ⟨h', hg'⟩ <;>
      rcases gap_cases hi hlt with ⟨h'', hg''⟩ | ⟨h'', hg''⟩ <;> omega

/-- Room in front of a producer at `j` that keeps one cell unused. -/
theorem gap_room (hi : i < n) (hj : j < n) : (i + n - j - 1) % n + gap n i j = n - 1 := by
  rcases gap_cases hi hj with ⟨h, hg⟩ | ⟨h, hg⟩
  · rw [Nat.mod_eq_of_lt (by omega)]
    omega
  · rw [show i + n - j - 1 = (i - j - 1) + n by omega, Nat.add_mod_right,
      Nat.mod_eq_of_lt (by omega)]
    omega

section Window
variable {α : Type} {f g : ℕ → α} {m a b : ℕ} {v : α}

/-- The `m` cells from `i` on, in order. -/
def window (f : ℕ → α) (n i m : ℕ) : List α := (List.range m).map fun d => f (advance n i d)

@[simp] theorem window_zero : window f n i 0 = [] := rfl

@[simp] theorem length_window : (window f n i m).length = m := by simp [window]

theorem window_add : window f n i (a + b) = window f n i a ++ window f n (advance n i a) b := by
  unfold window
  rw [List.range_add, List.map_append, List.map_map]
  congr 1
  apply List.map_congr_left
  intro d _
  simp only [Function.comp, advance_advance]

theorem window_one (hi : i < n) : window f n i 1 = [f i] := by
  simp [window, advance_zero hi]

theorem window_succ (hi : i < n) : window f n i (m + 1) = f i :: window f n (advance n i 1) m := by
  rw [Nat.add_comm, window_add, window_one hi]
  rfl

theorem window_snoc : window f n i (m + 1) = window f n i m ++ [f (advance n i m)] := by
  unfold window
  rw [List.range_succ, List.map_append]
  rfl

theorem window_congr (h : ∀ d, d < m → f (advance n i d) = g (advance n i d)) :
    window f n i m = window g n i m := by
  unfold window
  apply List.map_congr_left
  intro d hd
  exact h d (List.mem_range.mp hd)

theorem window_update (h : ∀ d, d < m → advance n i d ≠ j) :
    window (Function.update f j v) n i m = window f n i m := by
  apply window_congr
  intro d hd
  exact Function.update_of_ne (h d hd) _ _

theorem window_set (hi : i < n) (hm : m ≤ n) (he : e < m) :
    window (Function.update f (advance n i e) v) n i m = (window f n i m).set e v := by
  apply List.ext_getElem
  · simp
  · intro d hd hd'
    have hdm : d < m := by simpa using hd
    rw [List.getElem_set]
    simp only [window, List.getElem_map, List.getElem_range]
    by_cases h : e = d
    · subst h
      rw [Function.update_self, if_pos rfl]
    · rw [if_neg h, Function.update_of_ne]
      intro heq
      exact h (advance_inj hi (by omega) (by omega) heq.symm)

theorem drop_window (he : e ≤ m) :
    (window f n i m).drop e = window f n (advance n i e) (m - e) := by
  obtain ⟨r, rfl⟩ := Nat.exists_eq_add_of_le he
  rw [window_add, List.drop_append_of_le_length (by simp), List.drop_of_length_le (by simp)]
  simp

/-- Cell `j` lies in the window of `m` cells from `i`. -/
def InWindow (n i m j : ℕ) : Prop := gap n i j < m

theorem ne_of_not_inWindow (hi : i < n) (hm : m ≤ n) (h : ¬ InWindow n i m j) (hd : d < m) :
    advance n i d ≠ j := by
  rintro rfl
  exact h (by rw [InWindow, gap_advance hi (by omega)]; exact hd)

end Window

/-- Masking with `2 ^ k - 1` is the remainder by `2 ^ k`. -/
theorem and_mask {w k : ℕ} (x m : BitVec w) (hm : m.toNat = 2 ^ k - 1) :
    (x &&& m).toNat = x.toNat % 2 ^ k := by
  rw [BitVec.toNat_and, hm, Nat.and_two_pow_sub_one_eq_mod]

end CyclicIndex

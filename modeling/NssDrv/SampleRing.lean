import Mathlib.Algebra.BigOperators.Group.List.Basic
import Mathlib.Data.BitVec
import NssDrv.CyclicIndex

set_option autoImplicit false

/-!
# The latest samples in a ring

A ring of `n` cells written one after the other from cell 0 holds the last `n`
samples, and a running sum that is corrected by each overwritten cell follows
the sum of all cells.
-/
namespace SampleRing
open CyclicIndex

variable {α : Type} {f : ℕ → α} {n i m : ℕ} {xs : List α} {x : α}

/-- The last `m` of some samples. -/
def recent (m : ℕ) (xs : List α) : List α := xs.drop (xs.length - m)

theorem recent_of_le (h : xs.length ≤ m) : recent m xs = xs := by
  rw [recent, Nat.sub_eq_zero_of_le h, List.drop_zero]

theorem recent_snoc : recent (m + 1) (xs ++ [x]) = recent m xs ++ [x] := by
  rw [recent, recent, List.length_append, List.length_singleton,
    Nat.add_sub_add_right, List.drop_append_of_le_length (Nat.sub_le _ _)]

theorem window_perm (hi : i < n) : (window f n i n).Perm (window f n 0 n) := by
  have hback : advance n i (n - i) = 0 := by
    rw [advance, Nat.add_sub_cancel' hi.le, Nat.mod_self]
  have hforth : advance n 0 i = i := by
    rw [advance, Nat.zero_add, Nat.mod_eq_of_lt hi]
  have hturn : window f n i n = window f n i (n - i) ++ window f n 0 i := by
    calc window f n i n = window f n i (n - i + i) := by rw [Nat.sub_add_cancel hi.le]
      _ = window f n i (n - i) ++ window f n 0 i := by rw [window_add, hback]
  have hstart : window f n 0 n = window f n 0 i ++ window f n i (n - i) := by
    calc window f n 0 n = window f n 0 (i + (n - i)) := by rw [Nat.add_sub_cancel' hi.le]
      _ = window f n 0 i ++ window f n i (n - i) := by rw [window_add, hforth]
  rw [hturn, hstart]
  exact List.perm_append_comm

/-- The samples `xs` were written from cell 0 on, and `i` is the next cell. -/
structure Holding (f : ℕ → α) (n i : ℕ) (xs : List α) : Prop where
  index : i = xs.length % n
  cells : window f n (advance n i (n - min xs.length n)) (min xs.length n) = recent n xs

theorem holding_nil (f : ℕ → α) (n : ℕ) : Holding f n 0 [] :=
  ⟨(Nat.zero_mod n).symm, by simp [recent]⟩

/-- A full ring holds the last `n` samples. -/
theorem Holding.full (h : Holding f n i xs) (hi : i < n) (hlen : n ≤ xs.length) :
    window f n i n = recent n xs := by
  have hcells := h.cells
  rw [Nat.min_eq_right hlen, Nat.sub_self, advance_zero hi] at hcells
  exact hcells

theorem Holding.push (h : Holding f n i xs) (hn : 0 < n) (x : α) :
    Holding (Function.update f i x) n (advance n i 1) (xs ++ [x]) := by
  have hi : i < n := by
    rw [h.index]
    exact Nat.mod_lt _ hn
  refine ⟨?_, ?_⟩
  · rw [h.index, advance, Nat.mod_add_mod, List.length_append, List.length_singleton]
  · by_cases hlen : xs.length < n
    · have hstart :
          advance n (advance n i 1) (n - (xs.length + 1)) = advance n i (n - xs.length) := by
        rw [advance_advance, show 1 + (n - (xs.length + 1)) = n - xs.length by omega]
      have hlast : advance n (advance n i (n - xs.length)) xs.length = i := by
        rw [advance_advance, Nat.sub_add_cancel hlen.le, advance, Nat.add_mod_right,
          Nat.mod_eq_of_lt hi]
      have hcells := h.cells
      rw [Nat.min_eq_left hlen.le, recent_of_le hlen.le] at hcells
      have hlonger : (xs ++ [x]).length ≤ n := by
        rw [List.length_append, List.length_singleton]
        exact hlen
      rw [List.length_append, List.length_singleton, Nat.min_eq_left hlen, recent_of_le hlonger,
        hstart, window_snoc, hlast, Function.update_self]
      congr 1
      refine Eq.trans (window_update fun d hd heq => ?_) hcells
      rw [advance_advance] at heq
      have hzero := advance_inj hi (d := n - xs.length + d) (e := 0) (by omega) hn
        (by rw [heq, advance_zero hi])
      omega
    · obtain ⟨k, rfl⟩ : ∃ k, n = k + 1 := ⟨n - 1, by omega⟩
      have hfull := h.full hi (by omega)
      rw [window_succ hi] at hfull
      have htail : window f (k + 1) (advance (k + 1) i 1) k = recent k xs := by
        have hdrop := congrArg (List.drop 1) hfull
        rw [List.drop_one, List.tail_cons, recent, List.drop_drop] at hdrop
        rw [hdrop, recent, show xs.length - (k + 1) + 1 = xs.length - k by omega]
      have hlast : advance (k + 1) (advance (k + 1) i 1) k = i := by
        rw [advance_advance, Nat.add_comm 1 k, advance, Nat.add_mod_right, Nat.mod_eq_of_lt hi]
      rw [List.length_append, List.length_singleton, Nat.min_eq_right (by omega), Nat.sub_self,
        advance_zero (advance_lt hn), window_snoc, hlast, Function.update_self, recent_snoc]
      congr 1
      refine Eq.trans (window_update fun d hd heq => ?_) htail
      rw [advance_advance] at heq
      have hzero := advance_inj hi (d := 1 + d) (e := 0) (by omega) hn
        (by rw [heq, advance_zero hi])
      omega

section Sum
variable {G : Type} [AddCommGroup G] {g : ℕ → G}

def total (g : ℕ → G) (n : ℕ) : G := (window g n 0 n).sum

theorem total_eq (hi : i < n) : total g n = (window g n i n).sum := (window_perm hi).sum_eq.symm

theorem total_update (hi : i < n) (x : G) :
    total (Function.update g i x) n = total g n - g i + x := by
  obtain ⟨k, rfl⟩ : ∃ k, n = k + 1 := ⟨n - 1, by omega⟩
  have hrest : window (Function.update g i x) (k + 1) (advance (k + 1) i 1) k =
      window g (k + 1) (advance (k + 1) i 1) k := by
    refine window_update fun d hd heq => ?_
    rw [advance_advance] at heq
    have hzero := advance_inj hi (d := 1 + d) (e := 0) (by omega) (Nat.succ_pos k)
      (by rw [heq, advance_zero hi])
    omega
  rw [total_eq hi, total_eq hi, window_succ hi, window_succ hi, hrest, Function.update_self,
    List.sum_cons, List.sum_cons, add_sub_cancel_left, add_comm]

end Sum

theorem word_sum {w : ℕ} (ws : List (BitVec w)) :
    ws.sum = BitVec.ofNat w (ws.map BitVec.toNat).sum := by
  induction ws with
  | nil => rfl
  | cons x ws ih =>
    rw [List.sum_cons, ih, List.map_cons, List.sum_cons, BitVec.ofNat_add, BitVec.ofNat_toNat,
      BitVec.setWidth_eq]

end SampleRing

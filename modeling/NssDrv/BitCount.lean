import Mathlib.Data.Finset.Card

set_option autoImplicit false

/-!
# Counting the bits of a word
-/
namespace BitCount
variable {w : ℕ} {x y : BitVec w}

def bitSet (x : BitVec w) : Finset ℕ := (Finset.range w).filter fun i => x.getLsbD i

def bitCount (x : BitVec w) : ℕ := (bitSet x).card

@[simp] theorem mem_bitSet {i : ℕ} : i ∈ bitSet x ↔ x.getLsbD i = true := by
  constructor
  · intro h
    exact (Finset.mem_filter.mp h).2
  · intro h
    exact Finset.mem_filter.mpr ⟨Finset.mem_range.mpr (BitVec.lt_of_getLsbD h), h⟩

theorem bitCount_le (h : ∀ i, x.getLsbD i = true → y.getLsbD i = true) : bitCount x ≤ bitCount y := by
  apply Finset.card_le_card
  intro i hi
  exact mem_bitSet.mpr (h i (mem_bitSet.mp hi))

theorem exists_bit (h : x ≠ 0) : ∃ i, x.getLsbD i = true := by
  by_contra hnone
  apply h
  apply BitVec.eq_of_getLsbD_eq
  intro i _
  have hi : ¬ x.getLsbD i = true := fun hb => hnone ⟨i, hb⟩
  rw [Bool.eq_false_iff.mpr hi]
  simp

theorem bitCount_clear_lt (h : x &&& y ≠ 0) : bitCount (x &&& ~~~y) < bitCount x := by
  obtain ⟨i, hi⟩ := exists_bit h
  rw [BitVec.getLsbD_and, Bool.and_eq_true] at hi
  apply Finset.card_lt_card
  rw [Finset.ssubset_iff_of_subset]
  · refine ⟨i, mem_bitSet.mpr hi.1, fun hmem => ?_⟩
    have hclear := mem_bitSet.mp hmem
    rw [BitVec.getLsbD_and, BitVec.getLsbD_not, hi.2] at hclear
    simp at hclear
  · intro j hj
    have hj' := mem_bitSet.mp hj
    rw [BitVec.getLsbD_and, Bool.and_eq_true] at hj'
    exact mem_bitSet.mpr hj'.1

theorem bitCount_clear (h : ∀ i, y.getLsbD i = true → x.getLsbD i = true) :
    bitCount (x &&& ~~~y) + bitCount y = bitCount x := by
  have hdisjoint : Disjoint (bitSet (x &&& ~~~y)) (bitSet y) := by
    rw [Finset.disjoint_left]
    intro i hi hy
    have hclear := mem_bitSet.mp hi
    rw [BitVec.getLsbD_and, BitVec.getLsbD_not, mem_bitSet.mp hy] at hclear
    simp at hclear
  have hunion : bitSet (x &&& ~~~y) ∪ bitSet y = bitSet x := by
    ext i
    rw [Finset.mem_union, mem_bitSet, mem_bitSet, mem_bitSet, BitVec.getLsbD_and,
      BitVec.getLsbD_not]
    constructor
    · rintro (hi | hi)
      · exact (Bool.and_eq_true _ _ ▸ hi).1
      · exact h i hi
    · intro hi
      have hlt := BitVec.lt_of_getLsbD hi
      by_cases hy : y.getLsbD i = true
      · exact .inr hy
      · left
        rw [hi, Bool.eq_false_iff.mpr hy, decide_eq_true hlt]
        rfl
  unfold bitCount
  rw [← Finset.card_union_of_disjoint hdisjoint, hunion]

theorem bitCount_or_le : bitCount (x ||| y) ≤ bitCount x + bitCount y := by
  refine le_trans (Finset.card_le_card ?_) (Finset.card_union_le (bitSet x) (bitSet y))
  intro i hi
  have hor := mem_bitSet.mp hi
  rw [BitVec.getLsbD_or, Bool.or_eq_true] at hor
  rw [Finset.mem_union, mem_bitSet, mem_bitSet]
  exact hor

theorem bitCount_pos (h : x ≠ 0) : 0 < bitCount x := by
  obtain ⟨i, hi⟩ := exists_bit h
  exact Finset.card_pos.mpr ⟨i, mem_bitSet.mpr hi⟩

end BitCount

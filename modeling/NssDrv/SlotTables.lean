import Mathlib.Data.List.Nodup
import Mathlib.Data.List.Perm.Subperm

set_option autoImplicit false

/-!
# Tables of slots

A table is searched from its first slot for one that meets a condition, and that
one is replaced. A slot is free or has an owner.
-/
namespace SlotTables
variable {α ν : Type} {p : α → Bool} {f : α → α} {xs ys : List α}

/-- `none` where no slot meets the condition. -/
def updateFirst (p : α → Bool) (f : α → α) : List α → Option (List α)
  | [] => none
  | x :: xs => if p x = true then some (f x :: xs) else (updateFirst p f xs).map (x :: ·)

theorem updateFirst_none (h : updateFirst p f xs = none) : ∀ x ∈ xs, p x = false := by
  induction xs with
  | nil => intro x hx; cases hx
  | cons y xs ih =>
    unfold updateFirst at h
    split at h
    · cases h
    · rename_i hy
      intro x hx
      rcases List.mem_cons.mp hx with rfl | hx
      · exact Bool.eq_false_iff.mpr hy
      · exact ih (Option.map_eq_none_iff.mp h) x hx

theorem updateFirst_split (h : updateFirst p f xs = some ys) :
    ∃ front x back, xs = front ++ x :: back ∧ (∀ y ∈ front, p y = false) ∧ p x = true ∧
      ys = front ++ f x :: back := by
  induction xs generalizing ys with
  | nil => cases h
  | cons y xs ih =>
    unfold updateFirst at h
    split at h
    · rename_i hy
      exact ⟨[], y, xs, rfl, (fun z hz => by cases hz), hy, (Option.some.inj h).symm⟩
    · rename_i hy
      obtain ⟨zs, hzs, rfl⟩ := Option.map_eq_some_iff.mp h
      obtain ⟨front, x, back, rfl, hfront, hx, rfl⟩ := ih hzs
      refine ⟨y :: front, x, back, rfl, ?_, hx, rfl⟩
      intro z hz
      rcases List.mem_cons.mp hz with rfl | hz
      · exact Bool.eq_false_iff.mpr hy
      · exact hfront z hz

theorem updateFirst_set (h : updateFirst p f xs = some ys) :
    ∃ (i : ℕ) (x : α), xs[i]? = some x ∧ p x = true ∧ xs.find? p = some x ∧ ys = xs.set i (f x) := by
  obtain ⟨front, x, back, rfl, hfront, hx, rfl⟩ := updateFirst_split h
  refine ⟨front.length, x, ?_, hx, ?_, ?_⟩
  · rw [List.getElem?_append_right (Nat.le_refl _), Nat.sub_self]
    rfl
  · refine List.find?_eq_some_iff_append.mpr ⟨hx, front, back, rfl, fun y hy => ?_⟩
    rw [hfront y hy]
    rfl
  · rw [List.set_append_right _ _ (Nat.le_refl _), Nat.sub_self]
    rfl

theorem updateFirst_length (h : updateFirst p f xs = some ys) : ys.length = xs.length := by
  obtain ⟨front, x, back, rfl, -, -, rfl⟩ := updateFirst_split h
  simp only [List.length_append, List.length_cons]

theorem updateFirst_getElem (h : updateFirst p f xs = some ys) {i : ℕ} {x : α}
    (hx : xs[i]? = some x) (hp : p x = false) : ys[i]? = some x := by
  induction xs generalizing ys i with
  | nil => cases h
  | cons y xs ih =>
    unfold updateFirst at h
    split at h
    · rename_i hy
      obtain rfl := Option.some.inj h
      cases i with
      | zero =>
        obtain rfl := Option.some.inj hx
        exact absurd hy (Bool.eq_false_iff.mp hp)
      | succ i => exact hx
    · obtain ⟨zs, hzs, rfl⟩ := Option.map_eq_some_iff.mp h
      cases i with
      | zero => exact hx
      | succ i => exact ih hzs hx

theorem mem_middle {front back : List α} {a b : α} :
    b ∈ front ++ a :: back ↔ b = a ∨ b ∈ front ++ back := by
  rw [List.mem_append, List.mem_cons, List.mem_append, or_left_comm]

section Owners
variable {owner : α → Option ν} {front back : List α} {a b : α}

def Once (owner : α → Option ν) (xs : List α) : Prop :=
  xs.Pairwise fun a b => ∀ n, owner a = some n → owner b ≠ some n

theorem once_middle : Once owner (front ++ a :: back) ↔
    (∀ b ∈ front ++ back, ∀ n, owner a = some n → owner b ≠ some n) ∧
      Once owner (front ++ back) := by
  have hsymm : ∀ {x y : α}, (∀ n, owner x = some n → owner y ≠ some n) →
      ∀ n, owner y = some n → owner x ≠ some n := fun h n hy hx => h n hx hy
  unfold Once
  rw [List.pairwise_middle hsymm, List.pairwise_cons]

theorem Once.nodup (h : Once owner xs) : (xs.filterMap owner).Nodup := by
  refine List.Pairwise.filterMap owner ?_ h
  intro a b hab n hn m hm
  rintro rfl
  exact hab n hn hm

variable [DecidableEq ν]

def owned (owner : α → Option ν) (n : ν) (xs : List α) : ℕ :=
  xs.countP fun x => owner x == some n

theorem owned_zero {n : ν} (h : ∀ x ∈ xs, owner x ≠ some n) : owned owner n xs = 0 := by
  refine List.countP_eq_zero.mpr ?_
  intro x hx
  rw [beq_iff_eq]
  exact h x hx

theorem Once.owned_one (h : Once owner xs) {n : ν} (ha : a ∈ xs) (hn : owner a = some n) :
    owned owner n xs = 1 := by
  obtain ⟨front, back, rfl⟩ := List.append_of_mem ha
  have hrest : owned owner n (front ++ back) = 0 :=
    owned_zero fun b hb => (once_middle.mp h).1 b hb n hn
  unfold owned at hrest ⊢
  rw [List.countP_append] at hrest
  rw [List.countP_append, List.countP_cons, if_pos (beq_iff_eq.mpr hn)]
  omega

/-- Where all slots have owners and not more are entitled to one than there are
    slots, everybody entitled has one. -/
theorem Once.all_own (h : Once owner xs) {entitled : ν → Prop} {l : List ν}
    (hfull : ∀ x ∈ xs, ∃ n, owner x = some n ∧ entitled n) (hl : l.length ≤ xs.length)
    (hall : ∀ n, entitled n → n ∈ l) {n : ν} (hn : entitled n) :
    ∃ x ∈ xs, owner x = some n := by
  by_contra hnone
  have hfresh : n ∉ xs.filterMap owner := by
    intro hmem
    obtain ⟨x, hx, hown⟩ := List.mem_filterMap.mp hmem
    exact hnone ⟨x, hx, hown⟩
  have hsub : n :: xs.filterMap owner ⊆ l := by
    intro m hm
    rcases List.mem_cons.mp hm with rfl | hm
    · exact hall m hn
    · obtain ⟨x, hx, hown⟩ := List.mem_filterMap.mp hm
      obtain ⟨k, hk, hentitled⟩ := hfull x hx
      obtain rfl := Option.some.inj (hown.symm.trans hk)
      exact hall m hentitled
  have hlength : (xs.filterMap owner).length = xs.length := by
    rw [List.length_filterMap_eq_countP]
    refine List.countP_eq_length.mpr ?_
    intro x hx
    obtain ⟨k, hk, -⟩ := hfull x hx
    rw [hk]
    rfl
  have hle := ((List.nodup_cons.mpr ⟨hfresh, h.nodup⟩).subperm hsub).length_le
  rw [List.length_cons] at hle
  omega

end Owners

/-! ## What the owners are given -/

section Holdings
variable {β : Type} {owner : α → Option ν} {value : ℕ → α → β} {given given' : ν → Option β}
variable {i j : ℕ} {x y : α} {n m : ν} {v : β}

/-- A slot with an owner holds what that owner was given, and nobody owns two. -/
structure Held (owner : α → Option ν) (value : ℕ → α → β) (given : ν → Option β)
    (xs : List α) : Prop where
  held : ∀ (i : ℕ) x n, xs[i]? = some x → owner x = some n → given n = some (value i x)
  once : ∀ (i j : ℕ) x y n, xs[i]? = some x → xs[j]? = some y → owner x = some n →
    owner y = some n → i = j

def Placed (owner : α → Option ν) (given : ν → Option β) (xs : List α) : Prop :=
  ∀ n, (given n).isSome → ∃ (i : ℕ) (x : α), xs[i]? = some x ∧ owner x = some n

theorem set_cases (h : (xs.set i y)[j]? = some x) : i = j ∧ x = y ∨ i ≠ j ∧ xs[j]? = some x := by
  by_cases hij : i = j
  · subst hij
    left
    rw [List.getElem?_set_self'] at h
    obtain ⟨z, -, hz⟩ := Option.map_eq_some_iff.mp h
    exact ⟨rfl, hz.symm⟩
  · right
    rw [List.getElem?_set_ne hij] at h
    exact ⟨hij, h⟩

theorem set_self (h : xs[i]? = some x) : (xs.set i y)[i]? = some y := by
  rw [List.getElem?_set_self', h]
  rfl

variable [DecidableEq ν]

theorem Held.assign (h : Held owner value given xs) (hown : owner y = some n)
    (hother : ∀ (j : ℕ) z, xs[j]? = some z → owner z = some n → j = i) :
    Held owner value (Function.update given n (some (value i y))) (xs.set i y) := by
  constructor
  · intro j z m hz hm
    rcases set_cases hz with ⟨rfl, rfl⟩ | ⟨hj, hz⟩
    · obtain rfl := Option.some.inj (hown.symm.trans hm)
      rw [Function.update_self]
    · have hne : m ≠ n := by
        rintro rfl
        exact hj (hother j z hz hm).symm
      rw [Function.update_of_ne hne]
      exact h.held j z m hz hm
  · intro j k z z' m hz hz' hm hm'
    rcases set_cases hz with ⟨rfl, rfl⟩ | ⟨hj, hzj⟩
    · rcases set_cases hz' with ⟨rfl, -⟩ | ⟨-, hzk⟩
      · rfl
      · obtain rfl := Option.some.inj (hown.symm.trans hm)
        exact (hother k z' hzk hm').symm
    · rcases set_cases hz' with ⟨rfl, rfl⟩ | ⟨-, hzk⟩
      · obtain rfl := Option.some.inj (hown.symm.trans hm')
        exact hother j z hzj hm
      · exact h.once j k z z' m hzj hzk hm hm'

theorem Held.release {ys : List α} (h : Held owner value given xs)
    (hys : ∀ (j : ℕ) z m, ys[j]? = some z → owner z = some m → m ≠ n ∧ xs[j]? = some z) :
    Held owner value (Function.update given n none) ys := by
  constructor
  · intro j z m hz hm
    obtain ⟨hne, hz⟩ := hys j z m hz hm
    rw [Function.update_of_ne hne]
    exact h.held j z m hz hm
  · intro j k z z' m hz hz' hm hm'
    exact h.once j k z z' m (hys j z m hz hm).2 (hys k z' m hz' hm').2 hm hm'

theorem Held.absent (h : Held owner value given xs)
    (hnone : ∀ (j : ℕ) z, xs[j]? = some z → owner z ≠ some n) (v : Option β) :
    Held owner value (Function.update given n v) xs := by
  constructor
  · intro j z m hz hm
    have hne : m ≠ n := by
      rintro rfl
      exact hnone j z hz hm
    rw [Function.update_of_ne hne]
    exact h.held j z m hz hm
  · exact h.once

theorem Placed.assign (h : Placed owner given xs) (hx : xs[i]? = some x)
    (hfree : ∀ m, owner x = some m → m = n) (hown : owner y = some n) :
    Placed owner (Function.update given n (some v)) (xs.set i y) := by
  intro m hm
  by_cases hmn : m = n
  · subst hmn
    exact ⟨i, y, set_self hx, hown⟩
  · rw [Function.update_of_ne hmn] at hm
    obtain ⟨j, z, hz, hzm⟩ := h m hm
    refine ⟨j, z, ?_, hzm⟩
    have hij : i ≠ j := by
      rintro rfl
      obtain rfl := Option.some.inj (hx.symm.trans hz)
      exact hmn (hfree m hzm)
    rw [List.getElem?_set_ne hij]
    exact hz

theorem Placed.release {ys : List α} (h : Placed owner given xs)
    (hys : ∀ (j : ℕ) z m, xs[j]? = some z → owner z = some m → m ≠ n → ys[j]? = some z) :
    Placed owner (Function.update given n none) ys := by
  intro m hm
  by_cases hmn : m = n
  · subst hmn
    rw [Function.update_self] at hm
    cases hm
  · rw [Function.update_of_ne hmn] at hm
    obtain ⟨j, z, hz, hzm⟩ := h m hm
    exact ⟨j, z, hys j z m hz hzm hmn, hzm⟩

omit [DecidableEq ν] in
theorem Held.unique (h : Held owner value given xs) (hx : xs[i]? = some x)
    (hown : owner x = some n) :
    ∃! j : ℕ, ∃ z, xs[j]? = some z ∧ owner z = some n := by
  refine ⟨i, ⟨x, hx, hown⟩, ?_⟩
  rintro j ⟨z, hz, hzn⟩
  exact h.once j i z x n hz hx hzn hown

end Holdings

end SlotTables

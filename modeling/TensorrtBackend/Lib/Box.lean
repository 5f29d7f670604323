import Mathlib.Algebra.Order.BigOperators.GroupWithZero.List
import Mathlib.Algebra.Order.Ring.Int
import Mathlib.Order.Bounds.Basic
import TensorrtBackend.Lib.Related

/-!
# Lists in a box

Lists whose entries are non-negative and bounded entry by entry.  Their products are bounded by the
product of the bounds, also after one entry has been padded to a whole number of blocks.
-/

namespace Box

universe u

/-! ### Bounded entries -/

/-- Every entry of `a` is non-negative and at most the entry of `b` at its place. -/
def Below {R : Type u} [Zero R] [LE R] (a b : List R) : Prop :=
  List.Forall₂ (fun x y => 0 ≤ x ∧ x ≤ y) a b

section Ordered

variable {R : Type u} [Zero R] [Preorder R] {a b c : List R}

theorem below_refl (h : ∀ x ∈ a, 0 ≤ x) : Below a a :=
  List.forall₂_same.mpr fun x hx => ⟨h x hx, le_refl x⟩

theorem Below.exists_le (h : Below a b) {x : R} (hx : x ∈ a) : ∃ y ∈ b, 0 ≤ x ∧ x ≤ y :=
  Related.exists_right h hx

theorem Below.nonneg (h : Below a b) (x : R) (hx : x ∈ a) : 0 ≤ x := by
  obtain ⟨y, -, hx0, -⟩ := h.exists_le hx
  exact hx0

/-- The bounds themselves are not negative. -/
theorem Below.bound_nonneg (h : Below a b) (y : R) (hy : y ∈ b) : 0 ≤ y := by
  obtain ⟨x, -, hx0, hxy⟩ := Related.exists_left h hy
  exact hx0.trans hxy

theorem below_iff_getD {a b : List R} :
    Below a b ↔ a.length = b.length ∧
      ∀ i < a.length, 0 ≤ a.getD i 0 ∧ a.getD i 0 ≤ b.getD i 0 := Related.iff_getD 0 0

theorem Below.trans (hab : Below a b) (hbc : Below b c) : Below a c := by
  induction hab generalizing c with
  | nil => exact hbc
  | cons hxy _ ih =>
      cases hbc with
      | cons hyz hbc => exact List.Forall₂.cons ⟨hxy.1, hxy.2.trans hyz.2⟩ (ih hbc)

/-- A map that is monotone on the non-negative entries may be applied at one place. -/
theorem Below.modify {f : R → R} (hf : ∀ x y, 0 ≤ x → x ≤ y → 0 ≤ f x ∧ f x ≤ f y)
    (h : Below a b) (i : ℕ) : Below (a.modify i f) (b.modify i f) := by
  induction h generalizing i with
  | nil =>
      rw [List.modify_nil]
      exact List.Forall₂.nil
  | cons hxy htail ih =>
      cases i with
      | zero => exact List.Forall₂.cons (hf _ _ hxy.1 hxy.2) htail
      | succ i => exact List.Forall₂.cons hxy (ih i)

/-- A map that lowers the non-negative entries keeps the list below its bound. -/
theorem Below.modify_left {f : R → R} (hf : ∀ x, 0 ≤ x → 0 ≤ f x ∧ f x ≤ x) (h : Below a b)
    (i : ℕ) : Below (a.modify i f) b := by
  induction h generalizing i with
  | nil =>
      rw [List.modify_nil]
      exact List.Forall₂.nil
  | cons hxy htail ih =>
      cases i with
      | zero =>
          obtain ⟨hnonneg, hle⟩ := hf _ hxy.1
          exact List.Forall₂.cons ⟨hnonneg, hle.trans hxy.2⟩ htail
      | succ i => exact List.Forall₂.cons hxy (ih i)

/-- A map that raises the non-negative entries raises the list. -/
theorem below_modify {f : R → R} (hf : ∀ x, 0 ≤ x → x ≤ f x) (h : ∀ x ∈ a, 0 ≤ x) (i : ℕ) :
    Below a (a.modify i f) := by
  induction a generalizing i with
  | nil =>
      rw [List.modify_nil]
      exact List.Forall₂.nil
  | cons x a ih =>
      obtain ⟨hx, ha⟩ := List.forall_mem_cons.mp h
      cases i with
      | zero => exact List.Forall₂.cons ⟨hx, hf x hx⟩ (below_refl ha)
      | succ i => exact List.Forall₂.cons ⟨hx, le_refl x⟩ (ih ha i)

end Ordered

/-- **The volume of a box** bounds the product of every list in it. -/
theorem Below.prod_le {R : Type u} [CommSemiring R] [PartialOrder R] [IsOrderedRing R]
    {a b : List R} (h : Below a b) : a.prod ≤ b.prod := by
  induction h with
  | nil => exact le_refl _
  | cons hxy htail ih =>
      rw [List.prod_cons, List.prod_cons]
      exact mul_le_mul hxy.2 ih (List.prod_nonneg (Below.nonneg htail)) (hxy.1.trans hxy.2)

/-- Changing one entry changes the product by that entry. -/
theorem prod_modify {R : Type u} [CommMonoid R] {l : List R} {i : ℕ} (hi : i < l.length)
    (f : R → R) (d : R) : (l.modify i f).prod = f (l.getD i d) * (l.eraseIdx i).prod := by
  induction l generalizing i with
  | nil => simp at hi
  | cons x l ih =>
      cases i with
      | zero => simp
      | succ i =>
          have hi : i < l.length := by simpa using hi
          simp [ih hi, mul_left_comm]

/-! ### Padding -/

/-- The next multiple of `c` behind `d`. -/
theorem pad_eq (d : ℤ) {c : ℤ} : d + (c - d.tmod c) = (d.tdiv c + 1) * c := by
  have h := Int.tmod_add_mul_tdiv d c
  rw [Int.add_mul, Int.one_mul, Int.mul_comm]
  omega

theorem le_pad {c d : ℤ} (hc : 0 < c) : d ≤ d + (c - d.tmod c) := by
  have h := Int.tmod_lt_of_pos d hc
  omega

/-- Padding is monotone on what is not negative. -/
theorem pad_mono {c : ℤ} (hc : 0 < c) (x y : ℤ) (hx : 0 ≤ x) (hxy : x ≤ y) :
    0 ≤ x + (c - x.tmod c) ∧ x + (c - x.tmod c) ≤ y + (c - y.tmod c) := by
  refine ⟨hx.trans (le_pad hc), ?_⟩
  rw [pad_eq, pad_eq, Int.tdiv_eq_ediv_of_nonneg hx, Int.tdiv_eq_ediv_of_nonneg (hx.trans hxy)]
  have hdiv : x / c ≤ y / c := Int.ediv_le_ediv hc hxy
  exact Int.mul_le_mul_of_nonneg_right (by omega) hc.le

/-- The least multiple of `c` that is not below `d`. -/
def roundUp (c d : ℤ) : ℤ := (d + c - 1) / c * c

theorem roundUp_of_dvd {c d : ℤ} (hc : 0 < c) (h : c ∣ d) : roundUp c d = d := by
  obtain ⟨k, rfl⟩ := h
  have hdiv : (c * k + c - 1) / c = k := by
    rw [show c * k + c - 1 = (c - 1) + c * k by omega, Int.add_mul_ediv_left _ _ hc.ne',
      Int.ediv_eq_zero_of_lt (by omega) (by omega), Int.zero_add]
  rw [roundUp, hdiv, Int.mul_comm]

theorem roundUp_of_not_dvd {c d : ℤ} (hc : 0 < c) (h : ¬ c ∣ d) :
    roundUp c d = (d / c + 1) * c := by
  have hpos : 0 < d % c := (Int.emod_pos_of_not_dvd h).resolve_left hc.ne'
  have hlt := Int.emod_lt_of_pos d hc
  have hdiv : (d + c - 1) / c = d / c + 1 := by
    have hd := Int.emod_add_mul_ediv d c
    rw [show d + c - 1 = (d % c - 1) + c * (d / c + 1) by rw [Int.mul_add]; omega,
      Int.add_mul_ediv_left _ _ hc.ne', Int.ediv_eq_zero_of_lt (by omega) (by omega), Int.zero_add]
  rw [roundUp, hdiv]

theorem isLeast_roundUp {c : ℤ} (hc : 0 < c) (d : ℤ) :
    IsLeast {m | c ∣ m ∧ d ≤ m} (roundUp c d) := by
  by_cases h : c ∣ d
  · rw [roundUp_of_dvd hc h]
    exact ⟨⟨h, le_refl d⟩, fun m hm => hm.2⟩
  · rw [roundUp_of_not_dvd hc h]
    have hd := Int.emod_add_mul_ediv d c
    have hlt := Int.emod_lt_of_pos d hc
    have hnext : (d / c + 1) * c = c * (d / c) + c := by
      rw [Int.add_mul, Int.one_mul, Int.mul_comm]
    refine ⟨⟨Dvd.intro_left _ rfl, by omega⟩, fun m hm => ?_⟩
    obtain ⟨⟨k, rfl⟩, hle⟩ := hm
    -- A multiple not below `d` is not at the quotient, which is below `d`.
    have hpos : 0 < d % c := (Int.emod_pos_of_not_dvd h).resolve_left hc.ne'
    have hk : d / c < k := by
      apply lt_of_mul_lt_mul_left _ hc.le
      omega
    rw [Int.mul_comm c k]
    exact Int.mul_le_mul_of_nonneg_right hk hc.le

/-- Padding goes to the next multiple, which is one too far from a multiple. -/
theorem pad_eq_roundUp_iff {c d : ℤ} (hc : 0 < c) (hd : 0 ≤ d) :
    d + (c - d.tmod c) = roundUp c d ↔ ¬ c ∣ d := by
  rw [pad_eq, Int.tdiv_eq_ediv_of_nonneg hd]
  by_cases h : c ∣ d
  · rw [roundUp_of_dvd hc h, Int.add_mul, Int.one_mul, Int.ediv_mul_cancel h]
    simp [h, hc.ne']
  · simp [h, roundUp_of_not_dvd hc h]

/-! ### The largest of a list -/

section Largest

variable {α : Type u} [LinearOrder α]

theorem le_foldl_max (l : List α) (m : α) : m ≤ l.foldl max m ∧ ∀ x ∈ l, x ≤ l.foldl max m := by
  induction l generalizing m with
  | nil => exact ⟨le_refl m, fun x hx => absurd hx List.not_mem_nil⟩
  | cons y l ih =>
      obtain ⟨hm, hl⟩ := ih (max m y)
      refine ⟨(le_max_left m y).trans hm, fun x hx => ?_⟩
      rcases List.mem_cons.mp hx with rfl | hx
      · exact (le_max_right m x).trans hm
      · exact hl x hx

/-- The largest is where the fold starts, or in the list. -/
theorem foldl_max_attained (l : List α) (m : α) : l.foldl max m = m ∨ l.foldl max m ∈ l := by
  induction l generalizing m with
  | nil => exact Or.inl rfl
  | cons y l ih =>
      rcases ih (max m y) with hmax | hmem
      · rw [List.foldl_cons, hmax]
        rcases max_choice m y with h | h
        · exact Or.inl h
        · rw [h]
          exact Or.inr List.mem_cons_self
      · exact Or.inr (List.mem_cons_of_mem y hmem)

end Largest

end Box

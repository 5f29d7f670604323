import Mathlib.Tactic.Linarith
import TensorrtBackend.Lib.Box

/-!
# Row-major tensors

Where an element stands in a tensor that is laid out row by row, and what becomes of the elements
when the same memory is read as a tensor of other dimensions.

* `readsInPlace_iff`: every element of the smaller tensor stands where the larger one has it exactly
  when below the first dimension with more than one element nothing was added.
-/

namespace RowMajor

open Box

/-- The position of an index. -/
def offset : List ℤ → List ℤ → ℤ
  | _ :: dims, i :: idx => i * dims.prod + offset dims idx
  | _, _ => 0

/-- An index of a tensor. -/
def Index (dims idx : List ℤ) : Prop :=
  List.Forall₂ (fun i d => 0 ≤ i ∧ i < d) idx dims

/-- Memory that is filled as a tensor of the dimensions `dims` may be read as one of `dims'`. -/
def ReadsInPlace (dims dims' : List ℤ) : Prop :=
  ∀ idx, Index dims idx → offset dims' idx = offset dims idx

/-- Below the first dimension with more than one element the dimensions are the same. -/
def Aligned : List ℤ → List ℤ → Prop
  | d :: dims, _ :: dims' => (1 < d → dims = dims') ∧ Aligned dims dims'
  | _, _ => True

variable {dims dims' idx : List ℤ}

/-! ### The first element -/

theorem index_zero (h : ∀ d ∈ dims, 0 < d) : Index dims (List.replicate dims.length 0) := by
  induction dims with
  | nil => exact List.Forall₂.nil
  | cons d dims ih =>
      rw [List.forall_mem_cons] at h
      exact List.Forall₂.cons ⟨le_refl 0, h.1⟩ (ih h.2)

theorem offset_zero (dims : List ℤ) (n : ℕ) : offset dims (List.replicate n 0) = 0 := by
  induction dims generalizing n with
  | nil => rfl
  | cons d dims ih =>
      cases n with
      | zero => rfl
      | succ n =>
          show 0 * dims.prod + offset dims (List.replicate n 0) = 0
          rw [ih, Int.zero_mul, Int.zero_add]

/-- A tensor with an empty dimension has no element. -/
theorem not_index_of_mem_zero (h : (0 : ℤ) ∈ dims) : ¬ Index dims idx := by
  intro hidx
  obtain ⟨i, -, h0, hlt⟩ := Related.exists_left hidx h
  omega

/-! ### Equal volumes -/

/-- A tensor within another is as large only if it is the same. -/
theorem eq_of_prod_eq (hbelow : Below dims dims') (hpos : ∀ d ∈ dims, 0 < d)
    (h : dims.prod = dims'.prod) : dims = dims' := by
  induction hbelow with
  | nil => rfl
  | @cons d e dims dims' hde htail ih =>
      obtain ⟨hd, hdims⟩ := List.forall_mem_cons.mp hpos
      rw [List.prod_cons, List.prod_cons] at h
      have hle : dims.prod ≤ dims'.prod := Below.prod_le htail
      have hprod : 0 < dims.prod := List.prod_pos hdims
      -- Each factor is at most its bound, so that both are equal to it.
      have htails : dims.prod = dims'.prod := by nlinarith [hde.2]
      have hheads : d = e := by
        rw [← htails] at h
        exact Int.eq_of_mul_eq_mul_right hprod.ne' h
      rw [hheads, ih hdims htails]

/-! ### Reading in place -/

theorem readsInPlace_of_aligned (hbelow : Below dims dims') (h : Aligned dims dims') :
    ReadsInPlace dims dims' := by
  induction hbelow with
  | nil => exact fun idx _ => rfl
  | @cons d e dims dims' hde htail ih =>
      intro idx hidx
      cases hidx with
      | @cons i _ idx _ hi hidx =>
          show i * dims'.prod + offset dims' idx = i * dims.prod + offset dims idx
          rw [ih h.2 idx hidx]
          by_cases hd : 1 < d
          · rw [h.1 hd]
          · have hzero : i = 0 := by omega
            rw [hzero, Int.zero_mul, Int.zero_mul]

theorem aligned_of_readsInPlace (hbelow : Below dims dims') (hpos : ∀ d ∈ dims, 0 < d)
    (h : ReadsInPlace dims dims') : Aligned dims dims' := by
  induction hbelow with
  | nil => trivial
  | @cons d e dims dims' hde htail ih =>
      obtain ⟨hd, hdims⟩ := List.forall_mem_cons.mp hpos
      have hcons : ∀ i idx, 0 ≤ i → i < d → Index dims idx →
          i * dims'.prod + offset dims' idx = i * dims.prod + offset dims idx :=
        fun i idx h0 hlt hidx => h (i :: idx) (List.Forall₂.cons ⟨h0, hlt⟩ hidx)
      refine ⟨fun hlt => ?_, ih hdims fun idx hidx => ?_⟩
      · -- The first element of the second block.
        have hsecond := hcons 1 _ (by omega) hlt (index_zero hdims)
        rw [offset_zero, offset_zero] at hsecond
        exact eq_of_prod_eq htail hdims (by omega)
      · have hfirst := hcons 0 idx (le_refl 0) hd hidx
        omega

/-- **Reading memory as a larger tensor.** -/
theorem readsInPlace_iff (hbelow : Below dims dims') :
    ReadsInPlace dims dims' ↔ 0 ∈ dims ∨ Aligned dims dims' := by
  by_cases hzero : (0 : ℤ) ∈ dims
  · exact ⟨fun _ => Or.inl hzero, fun _ idx hidx => absurd hidx (not_index_of_mem_zero hzero)⟩
  · have hpos : ∀ d ∈ dims, 0 < d := by
      intro d hd
      have hnonneg := hbelow.nonneg d hd
      have hne : d ≠ 0 := fun h => hzero (h ▸ hd)
      omega
    refine ⟨fun h => Or.inr (aligned_of_readsInPlace hbelow hpos h), fun h => ?_⟩
    exact readsInPlace_of_aligned hbelow (h.resolve_left hzero)

/-- Two rows of three read as two rows of four: the second row is out of place. -/
example : ¬ ReadsInPlace [2, 3] [2, 4] := by
  intro h
  have hidx : Index [2, 3] [1, 0] := by unfold Index; decide
  have hsecond := h [1, 0] hidx
  exact absurd hsecond (by decide)

end RowMajor

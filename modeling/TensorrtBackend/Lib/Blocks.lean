import Mathlib.Data.List.Basic

/-!
# Arrays of blocks of one width

A function `f` whose values are lists of one length `w` lays out a list `l` as the array
`l.flatMap f`.  Cutting the array at a multiple of `w` cuts the list, so that block `i` of the
array is the image of entry `i`.  `overwrite` writes a block into an array in place; writing a block
again and again, each time behind the last, fills the array with its copies.
-/

namespace Blocks

variable {α β : Type*} {f : α → List β} {w : ℕ}

theorem length_flatMap (hf : ∀ a, (f a).length = w) (l : List α) :
    (l.flatMap f).length = l.length * w := by
  induction l with
  | nil => simp
  | cons a l ih => rw [List.flatMap_cons, List.length_append, hf, ih, List.length_cons, Nat.succ_mul,
      Nat.add_comm]

theorem take_flatMap (hf : ∀ a, (f a).length = w) (l : List α) (k : ℕ) :
    (l.flatMap f).take (k * w) = (l.take k).flatMap f := by
  induction l generalizing k with
  | nil => simp
  | cons a l ih =>
      cases k with
      | zero => simp
      | succ k =>
          have hle : (f a).length ≤ (k + 1) * w := by rw [hf]; exact Nat.le_mul_of_pos_left w k.succ_pos
          rw [List.flatMap_cons, List.take_append, List.take_of_length_le hle, hf, Nat.succ_mul,
            Nat.add_sub_cancel, ih, List.take_succ_cons, List.flatMap_cons]

theorem drop_flatMap (hf : ∀ a, (f a).length = w) (l : List α) (k : ℕ) :
    (l.flatMap f).drop (k * w) = (l.drop k).flatMap f := by
  induction l generalizing k with
  | nil => simp
  | cons a l ih =>
      cases k with
      | zero => simp
      | succ k =>
          have hle : (f a).length ≤ (k + 1) * w := by rw [hf]; exact Nat.le_mul_of_pos_left w k.succ_pos
          rw [List.flatMap_cons, List.drop_append, List.drop_of_length_le hle, hf, Nat.succ_mul,
            Nat.add_sub_cancel, ih, List.drop_succ_cons, List.nil_append]

/-- Block `i` of the array is the image of entry `i`. -/
theorem block_flatMap (hf : ∀ a, (f a).length = w) {l : List α} {i : ℕ} (hi : i < l.length) :
    ((l.flatMap f).drop (i * w)).take w = f l[i] := by
  rw [drop_flatMap hf, List.drop_eq_getElem_cons hi, List.flatMap_cons]
  exact List.take_left' (hf _)

/-- The array with `src` written at `offset`. -/
def overwrite (data : List α) (offset : ℕ) (src : List α) : List α :=
  data.take offset ++ src ++ data.drop (offset + src.length)

/-- Writing behind a prefix leaves the prefix and what follows the block. -/
theorem overwrite_append (done rest src : List α) :
    overwrite (done ++ rest) done.length src = done ++ src ++ rest.drop src.length := by
  rw [overwrite, List.take_left' rfl, ← List.drop_drop, List.drop_left' rfl]

/-- **Filling**: after `n` writes of a block the array starts with `n` copies of it. -/
theorem foldl_overwrite (data src : List α) (n : ℕ) :
    (List.range n).foldl (fun s _ => (overwrite s.1 s.2 src, s.2 + src.length)) (data, 0) =
      ((List.replicate n src).flatten ++ data.drop (n * src.length), n * src.length) := by
  induction n with
  | zero => simp
  | succ n ih =>
      have hlength : ((List.replicate n src).flatten).length = n * src.length := by
        rw [List.length_flatten, List.map_replicate, List.sum_replicate_nat]
      have hwrite := overwrite_append (List.replicate n src).flatten (data.drop (n * src.length)) src
      rw [hlength, List.drop_drop] at hwrite
      rw [List.range_succ, List.foldl_append, ih]
      simp only [List.foldl_cons, List.foldl_nil, hwrite, List.replicate_succ', List.flatten_append,
        List.flatten_cons, List.flatten_nil, List.append_nil, Nat.succ_mul]

end Blocks

import Mathlib.Order.Lattice
import Mathlib.Order.Defs.LinearOrder
import Mathlib.Data.List.Basic

/-!
# First minimisers and the scan that finds them

`scan f best bound l` is the usual loop that walks a list and replaces the incumbent on a strictly
smaller cost.  It returns the first element of least cost as soon as some cost is below the initial
bound, and the initial incumbent otherwise.
-/

namespace FirstMin

variable {α κ : Type*} [LinearOrder κ]

/-- `a` is the first element of least cost in `l`: smaller than all before it, at most all after. -/
def IsFirstMin (f : α → κ) (l : List α) (a : α) : Prop :=
  ∃ pre post, l = pre ++ a :: post ∧ (∀ x ∈ pre, f a < f x) ∧ ∀ x ∈ post, f a ≤ f x

/-- The replacement loop: incumbent, its cost, and the elements still to visit. -/
def scan (f : α → κ) (best : α) (bound : κ) : List α → α × κ
  | [] => (best, bound)
  | x :: xs => if f x < bound then scan f x (f x) xs else scan f best bound xs

theorem IsFirstMin.mem {f : α → κ} {l : List α} {a : α} (h : IsFirstMin f l a) : a ∈ l := by
  obtain ⟨pre, post, rfl, -, -⟩ := h
  simp

theorem IsFirstMin.le {f : α → κ} {l : List α} {a b : α} (h : IsFirstMin f l a) (hb : b ∈ l) :
    f a ≤ f b := by
  obtain ⟨pre, post, rfl, hpre, hpost⟩ := h
  rcases List.mem_append.mp hb with hb | hb
  · exact (hpre b hb).le
  · rcases List.mem_cons.mp hb with rfl | hb
    · exact le_rfl
    · exact hpost b hb

/-- In a list sorted by a key, a first minimiser wins every tie by its key. -/
theorem IsFirstMin.lt_or_eq {ι : Type*} [Preorder ι] {f : α → κ} {key : α → ι} {l : List α} {a b : α}
    (h : IsFirstMin f l a) (hs : l.Pairwise fun x y => key x < key y) (hb : b ∈ l) :
    f a < f b ∨ f a = f b ∧ key a ≤ key b := by
  obtain ⟨pre, post, rfl, hpre, hpost⟩ := h
  rcases List.mem_append.mp hb with hb | hb
  · exact Or.inl (hpre b hb)
  · rcases List.mem_cons.mp hb with rfl | hb
    · exact Or.inr ⟨rfl, le_rfl⟩
    · have hkey : key a < key b :=
        (List.pairwise_cons.mp (List.pairwise_append.mp hs).2.1).1 b hb
      rcases (hpost b hb).lt_or_eq with hlt | heq
      · exact Or.inl hlt
      · exact Or.inr ⟨heq, hkey.le⟩

/-- A nonempty list has a first minimiser. -/
theorem exists_isFirstMin (f : α → κ) {l : List α} (hl : l ≠ []) : ∃ a, IsFirstMin f l a := by
  induction l with
  | nil => exact absurd rfl hl
  | cons x xs ih =>
      rcases eq_or_ne xs [] with rfl | hxs
      · exact ⟨x, [], [], rfl, by simp, by simp⟩
      · obtain ⟨a, ha⟩ := ih hxs
        rcases le_or_gt (f x) (f a) with hxa | hax
        · exact ⟨x, [], xs, rfl, by simp, fun y hy => hxa.trans (ha.le hy)⟩
        · obtain ⟨pre, post, rfl, hpre, hpost⟩ := ha
          refine ⟨a, x :: pre, post, rfl, fun y hy => ?_, hpost⟩
          rcases List.mem_cons.mp hy with rfl | hy
          · exact hax
          · exact hpre y hy

theorem scan_of_le {f : α → κ} {best : α} {bound : κ} {l : List α}
    (h : ∀ x ∈ l, bound ≤ f x) : scan f best bound l = (best, bound) := by
  induction l with
  | nil => rfl
  | cons x xs ih =>
      rw [scan, if_neg (not_lt.mpr (h x (by simp))), ih fun y hy => h y (by simp [hy])]

/-- Past a first minimiser below the bound, the scan keeps it. -/
theorem scan_of_isFirstMin {f : α → κ} {best : α} {bound : κ} {l : List α} {a : α}
    (h : IsFirstMin f l a) (ha : f a < bound) : scan f best bound l = (a, f a) := by
  obtain ⟨pre, post, rfl, hpre, hpost⟩ := h
  induction pre generalizing best bound with
  | nil =>
      rw [List.nil_append, scan, if_pos ha, scan_of_le hpost]
  | cons x pre ih =>
      have hax : f a < f x := hpre x (by simp)
      have hrest : ∀ y ∈ pre, f a < f y := fun y hy => hpre y (by simp [hy])
      rw [List.cons_append, scan]
      split
      · exact ih hax hrest
      · exact ih ha hrest

end FirstMin

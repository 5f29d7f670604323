import Mathlib.Data.List.Sort
import Mathlib.Data.List.Lex
import Mathlib.Order.Defs.LinearOrder

/-!
# Ordered maps as sorted association lists

`SortedMap κ ν` is the value of an ordered map such as `std::map`: its entries in strictly
increasing key order, the order being part of the value.  `insert` keeps an entry that is already
there, and `lowerBound` is the part of the map an iterator obtained from `lower_bound` still has to
visit. -/

/-- Entries in strictly increasing key order. -/
structure SortedMap (κ ν : Type*) [LinearOrder κ] where
  entries : List (κ × ν)
  sorted : entries.Pairwise fun x y => x.1 < y.1

namespace SortedMap

variable {κ ν : Type*} [LinearOrder κ]

/-- The empty map. -/
def empty : SortedMap κ ν := ⟨[], List.Pairwise.nil⟩

instance : Inhabited (SortedMap κ ν) := ⟨empty⟩

/-- Put an entry at its place, unless its key is already present. -/
def insertEntry (k : κ) (v : ν) : List (κ × ν) → List (κ × ν)
  | [] => [(k, v)]
  | x :: xs =>
      if k < x.1 then (k, v) :: x :: xs
      else if k = x.1 then x :: xs
      else x :: insertEntry k v xs

theorem mem_insertEntry {k : κ} {v : ν} {l : List (κ × ν)} {x : κ × ν}
    (h : x ∈ insertEntry k v l) : x = (k, v) ∨ x ∈ l := by
  induction l with
  | nil => exact Or.inl (by simpa [insertEntry] using h)
  | cons y ys ih =>
      rw [insertEntry] at h
      split at h
      · exact List.mem_cons.mp h
      · split at h
        · exact Or.inr h
        · rcases List.mem_cons.mp h with rfl | h
          · exact Or.inr (by simp)
          · rcases ih h with h | h
            · exact Or.inl h
            · exact Or.inr (by simp [h])

theorem mem_insertEntry_of_mem {k : κ} {v : ν} {l : List (κ × ν)} {x : κ × ν} (h : x ∈ l) :
    x ∈ insertEntry k v l := by
  induction l with
  | nil => simp at h
  | cons y ys ih =>
      rw [insertEntry]
      split
      · exact List.mem_cons_of_mem _ h
      · split
        · exact h
        · rcases List.mem_cons.mp h with rfl | h
          · exact List.mem_cons_self
          · exact List.mem_cons_of_mem _ (ih h)

theorem exists_key_insertEntry (k : κ) (v : ν) (l : List (κ × ν)) :
    ∃ x ∈ insertEntry k v l, x.1 = k := by
  induction l with
  | nil => exact ⟨(k, v), by simp [insertEntry], rfl⟩
  | cons y ys ih =>
      rw [insertEntry]
      split
      · exact ⟨(k, v), by simp, rfl⟩
      · split
        · rename_i hk
          exact ⟨y, by simp, hk.symm⟩
        · obtain ⟨x, hx, hxk⟩ := ih
          exact ⟨x, by simp [hx], hxk⟩

theorem pairwise_insertEntry {k : κ} {v : ν} {l : List (κ × ν)}
    (h : l.Pairwise fun x y => x.1 < y.1) :
    (insertEntry k v l).Pairwise fun x y => x.1 < y.1 := by
  induction l with
  | nil => simp [insertEntry]
  | cons y ys ih =>
      obtain ⟨hy, hys⟩ := List.pairwise_cons.mp h
      rw [insertEntry]
      split
      · rename_i hk
        refine List.pairwise_cons.mpr ⟨fun x hx => ?_, h⟩
        rcases List.mem_cons.mp hx with rfl | hx
        · exact hk
        · exact hk.trans (hy x hx)
      · rename_i hk
        split
        · exact h
        · rename_i hne
          refine List.pairwise_cons.mpr ⟨fun x hx => ?_, ih hys⟩
          rcases mem_insertEntry hx with rfl | hx
          · exact lt_of_le_of_ne (not_lt.mp hk) (Ne.symm hne)
          · exact hy x hx

/-- `map.insert`: no effect when the key is present. -/
def insert (m : SortedMap κ ν) (k : κ) (v : ν) : SortedMap κ ν :=
  ⟨insertEntry k v m.entries, pairwise_insertEntry m.sorted⟩

/-- The entries from the first key that is not below `k` on. -/
def lowerBound (m : SortedMap κ ν) (k : κ) : List (κ × ν) :=
  m.entries.dropWhile fun x => decide (x.1 < k)

theorem lowerBound_subset {m : SortedMap κ ν} {k : κ} {x : κ × ν} (h : x ∈ m.lowerBound k) :
    x ∈ m.entries :=
  (List.dropWhile_suffix _).subset h

/-- A present key is the first one its own lower bound yields. -/
theorem lowerBound_of_mem {m : SortedMap κ ν} {x : κ × ν} (h : x ∈ m.entries) :
    ∃ rest, m.lowerBound x.1 = x :: rest := by
  obtain ⟨l, hs⟩ := m
  unfold lowerBound
  induction l with
  | nil => simp at h
  | cons y ys ih =>
      obtain ⟨hy, hys⟩ := List.pairwise_cons.mp hs
      rcases List.mem_cons.mp h with rfl | hx
      · exact ⟨ys, by simp⟩
      · obtain ⟨rest, hrest⟩ := ih hys hx
        refine ⟨rest, ?_⟩
        rw [List.dropWhile_cons_of_pos (by simpa using hy x hx)]
        exact hrest

/-- The lower bound leaves out exactly the entries below the key. -/
theorem mem_lowerBound {m : SortedMap κ ν} {k : κ} {x : κ × ν} :
    x ∈ m.lowerBound k ↔ x ∈ m.entries ∧ k ≤ x.1 := by
  obtain ⟨l, hs⟩ := m
  unfold lowerBound
  induction l with
  | nil => simp
  | cons y ys ih =>
      obtain ⟨hy, hys⟩ := List.pairwise_cons.mp hs
      by_cases hk : y.1 < k
      · rw [List.dropWhile_cons_of_pos (by simpa using hk), ih hys, List.mem_cons]
        refine and_congr_left fun hle => (or_iff_right ?_).symm
        rintro rfl
        exact hle.not_gt hk
      · rw [List.dropWhile_cons_of_neg (by simpa using hk)]
        refine (and_iff_left_of_imp fun hx => ?_).symm
        rcases List.mem_cons.mp hx with rfl | hx
        · exact not_lt.mp hk
        · exact (not_lt.mp hk).trans (hy x hx).le

/-- The entries an iterator still has to visit are in order. -/
theorem pairwise_lowerBound (m : SortedMap κ ν) (k : κ) :
    (m.lowerBound k).Pairwise fun x y => x.1 < y.1 :=
  m.sorted.sublist (List.dropWhile_sublist _)

/-- The first of a sorted list that a test accepts has the least key of those it accepts. -/
theorem find?_eq_some_iff_least {l : List (κ × ν)} (hs : l.Pairwise fun x y => x.1 < y.1)
    {p : κ × ν → Bool} {x : κ × ν} :
    l.find? p = some x ↔ x ∈ l ∧ p x = true ∧ ∀ y ∈ l, p y = true → x.1 ≤ y.1 := by
  induction l with
  | nil => simp
  | cons y ys ih =>
      obtain ⟨hy, hys⟩ := List.pairwise_cons.mp hs
      by_cases hp : p y = true
      · rw [List.find?_cons_of_pos hp, Option.some.injEq]
        constructor
        · rintro rfl
          refine ⟨List.mem_cons_self, hp, fun z hz _ => ?_⟩
          rcases List.mem_cons.mp hz with rfl | hz
          · exact le_refl _
          · exact (hy z hz).le
        · rintro ⟨hx, -, hleast⟩
          rcases List.mem_cons.mp hx with rfl | hx
          · rfl
          · exact absurd (hleast y List.mem_cons_self hp) (hy x hx).not_ge
      · rw [List.find?_cons_of_neg hp, ih hys, List.mem_cons, List.forall_mem_cons]
        constructor
        · rintro ⟨hx, hpx, hleast⟩
          exact ⟨Or.inr hx, hpx, fun h => absurd h hp, hleast⟩
        · rintro ⟨rfl | hx, hpx, -, hleast⟩
          · exact absurd hpx hp
          · exact ⟨hx, hpx, hleast⟩

/-! ### Vectors as keys -/

/-- A vector that is below another entry by entry is below it in the lexicographic order. -/
theorem le_of_forall₂_le {α : Type*} [LinearOrder α] {a b : List α}
    (h : List.Forall₂ (· ≤ ·) a b) : a ≤ b := by
  induction h with
  | nil => exact le_refl _
  | cons hxy _ ih =>
      rcases hxy.lt_or_eq with hlt | rfl
      · exact le_of_lt (List.Lex.rel hlt)
      · exact List.cons_le_cons _ ih

end SortedMap

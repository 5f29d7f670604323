import Mathlib.Data.List.Nodup
import Mathlib.Data.List.Range
import Mathlib.Data.Nat.ModEq

/-!
# Slots used in turn

`m` slots are taken in turn, modulo `m`, and given back in the order they were taken.  `InTurn`
says that a list holds the slots in use, the oldest first, and that `next` is the one to be taken
next.  As long as no more than `m` are in use they differ, and while fewer are the next one is free.
-/

/-- The slots in use are consecutive, and `next` follows them. -/
def InTurn (m : ℕ) (used : List ℕ) (next : ℕ) : Prop :=
  ∃ k, used = (List.range' k used.length).map (· % m) ∧ next = (k + used.length) % m

namespace InTurn

variable {m next : ℕ} {used : List ℕ}

theorem nil (h : next < m) : InTurn m [] next :=
  ⟨next, rfl, (Nat.mod_eq_of_lt h).symm⟩

/-- Taking the next slot. -/
theorem take (h : InTurn m used next) : InTurn m (used ++ [next]) ((next + 1) % m) := by
  obtain ⟨k, hused, hnext⟩ := h
  refine ⟨k, ?_, ?_⟩
  · rw [List.length_append, List.length_singleton, List.range'_concat, List.map_append, ← hused]
    simp [hnext]
  · rw [List.length_append, List.length_singleton, hnext, Nat.mod_add_mod, Nat.add_assoc]

/-- Giving the oldest one back. -/
theorem giveBack {slot : ℕ} (h : InTurn m (slot :: used) next) : InTurn m used next := by
  obtain ⟨k, hused, hnext⟩ := h
  rw [List.length_cons, List.range'_succ, List.map_cons] at hused
  refine ⟨k + 1, (List.cons.inj hused).2, ?_⟩
  rw [hnext, List.length_cons, Nat.add_right_comm, Nat.add_assoc]

/-- Numbers less than `m` apart are different slots. -/
theorem mod_ne {i j : ℕ} (hij : i < j) (hj : j < i + m) : i % m ≠ j % m := by
  intro h
  have hdvd : m ∣ j - i := (Nat.modEq_iff_dvd' hij.le).mp h
  have hle := Nat.le_of_dvd (by omega) hdvd
  omega

theorem nodup (h : InTurn m used next) (hlen : used.length ≤ m) : used.Nodup := by
  obtain ⟨k, hused, -⟩ := h
  rw [hused]
  refine (List.nodup_map_iff_inj_on List.nodup_range').mpr ?_
  intro i hi j hj hij
  have hi := List.mem_range'_1.mp hi
  have hj := List.mem_range'_1.mp hj
  rcases Nat.lt_trichotomy i j with hlt | rfl | hlt
  · exact absurd hij (mod_ne hlt (by omega))
  · rfl
  · exact absurd hij.symm (mod_ne hlt (by omega))

theorem next_not_mem (h : InTurn m used next) (hlen : used.length < m) : next ∉ used := by
  obtain ⟨k, hused, hnext⟩ := h
  intro hmem
  rw [hused, hnext] at hmem
  obtain ⟨i, hi, hij⟩ := List.mem_map.mp hmem
  have hi := List.mem_range'_1.mp hi
  exact mod_ne (i := i) (j := k + used.length) (by omega) (by omega) hij

end InTurn

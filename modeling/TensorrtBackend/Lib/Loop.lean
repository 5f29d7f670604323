import Mathlib.Data.Option.Basic
import Mathlib.Order.Lattice
import Mathlib.Tactic.Common

/-!
# While loops

`whileLoop` runs a loop for a number of iterations at most; `Ends` says that it comes to an end, and
where.  `Ends.unique`: there is one end.  `Ends.of_measure`: a loop whose iterations keep an
invariant and lower a measure ends, with the invariant.
-/

namespace Loop

variable {σ : Type*} {cond : σ → Bool} {body : σ → σ}

/-- At most `fuel` iterations of `while (cond) body`; `none` when these are not enough. -/
def whileLoop (cond : σ → Bool) (body : σ → σ) : ℕ → σ → Option σ
  | 0, s => if cond s then none else some s
  | fuel + 1, s => if cond s then whileLoop cond body fuel (body s) else some s

/-- The loop ends in `t`. -/
def Ends (cond : σ → Bool) (body : σ → σ) (s t : σ) : Prop :=
  ∃ fuel, whileLoop cond body fuel s = some t

theorem whileLoop_of_false {s : σ} (h : cond s = false) (fuel : ℕ) :
    whileLoop cond body fuel s = some s := by
  cases fuel with
  | zero => rw [whileLoop, h, if_neg Bool.false_ne_true]
  | succ fuel => rw [whileLoop, h, if_neg Bool.false_ne_true]

theorem Ends.done {s : σ} (h : cond s = false) : Ends cond body s s := ⟨0, whileLoop_of_false h 0⟩

theorem Ends.step {s t : σ} (h : cond s = true) (ht : Ends cond body (body s) t) :
    Ends cond body s t := by
  obtain ⟨fuel, hfuel⟩ := ht
  exact ⟨fuel + 1, by rw [whileLoop, h, if_pos rfl, hfuel]⟩

/-- More iterations than needed change nothing. -/
theorem whileLoop_mono {fuel fuel' : ℕ} {s t : σ} (hle : fuel ≤ fuel')
    (h : whileLoop cond body fuel s = some t) : whileLoop cond body fuel' s = some t := by
  induction fuel generalizing s fuel' with
  | zero =>
      by_cases hcond : cond s
      · rw [whileLoop, if_pos hcond] at h
        exact nomatch h
      · rw [whileLoop, if_neg hcond] at h
        obtain rfl := Option.some.inj h
        exact whileLoop_of_false (eq_false_of_ne_true hcond) fuel'
  | succ fuel ih =>
      obtain ⟨more, rfl⟩ : ∃ more, fuel' = more + 1 := ⟨fuel' - 1, by omega⟩
      rw [whileLoop] at h ⊢
      by_cases hcond : cond s
      · rw [if_pos hcond] at h ⊢
        exact ih (by omega) h
      · rw [if_neg hcond] at h ⊢
        exact h

theorem Ends.unique {s t t' : σ} (h : Ends cond body s t) (h' : Ends cond body s t') : t = t' := by
  obtain ⟨fuel, hfuel⟩ := h
  obtain ⟨fuel', hfuel'⟩ := h'
  have hmax := whileLoop_mono (le_max_left fuel fuel') hfuel
  rw [whileLoop_mono (le_max_right fuel fuel') hfuel'] at hmax
  exact (Option.some.inj hmax).symm

/-- **The total rule**: an iteration keeps the invariant and lowers the measure. -/
theorem Ends.of_measure {I : σ → Prop} (measure : σ → ℕ)
    (hstep : ∀ s, cond s = true → I s → I (body s) ∧ measure (body s) < measure s) {s : σ}
    (hs : I s) : ∃ t, Ends cond body s t ∧ I t ∧ cond t = false := by
  induction hn : measure s using Nat.strong_induction_on generalizing s with
  | _ n ih =>
      by_cases hcond : cond s
      · obtain ⟨hI, hlt⟩ := hstep s hcond hs
        obtain ⟨t, ht, hend⟩ := ih (measure (body s)) (hn ▸ hlt) hI rfl
        exact ⟨t, ht.step hcond, hend⟩
      · have hfalse := eq_false_of_ne_true hcond
        exact ⟨s, Ends.done hfalse, hs, hfalse⟩

end Loop

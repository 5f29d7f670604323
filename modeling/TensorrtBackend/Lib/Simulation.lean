import TensorrtBackend.Lib.Transition

/-!
# Simulations and rest

A concrete system simulates an abstract one when each of its steps, seen through `view`, is a run of
the abstract system; `acts` says which, and in a refinement some run will do.  Steps that change
nothing in the view are the empty run.

A system that is left alone comes to rest: no action of a chosen kind can be taken any more, and a
measure bounds the runs that lead there.
-/

namespace StepSystem

variable {σ τ α β : Type*}

/-- Under the invariant `I` every step of `C` is a run of `A` between the views of its ends. -/
structure Simulation (C : StepSystem σ α) (A : StepSystem τ β) (I : σ → Prop) (view : σ → τ)
    (acts : α → List β) : Prop where
  init : ∀ s, C.init s → A.init (view s)
  step : ∀ s a t, I s → C.step s a = some t → A.run (view s) (acts a) = some (view t)

namespace Simulation

variable {C : StepSystem σ α} {A : StepSystem τ β} {I : σ → Prop} {view : σ → τ}
  {acts : α → List β}

/-- A run of `C` is, action by action, a run of `A`. -/
theorem run (h : Simulation C A I view acts)
    (hI : ∀ s a t, I s → C.step s a = some t → I t) {s t : σ} {as : List α} (hs : I s)
    (hr : C.run s as = some t) : A.run (view s) (as.flatMap acts) = some (view t) := by
  induction as generalizing s with
  | nil =>
      obtain rfl := Option.some.inj hr
      rfl
  | cons a as ih =>
      obtain ⟨u, hu, hr⟩ := run_cons_eq_some.mp hr
      rw [List.flatMap_cons]
      exact run_append_eq_some.mpr ⟨view u, h.step s a u hs hu, ih (hI s a u hs hu) hr⟩

end Simulation

/-- Under the invariant `I` every step of `C` is some run of `A` between the views of its ends. -/
structure Refinement (C : StepSystem σ α) (A : StepSystem τ β) (I : σ → Prop) (view : σ → τ) :
    Prop where
  init : ∀ s, C.init s → A.init (view s)
  step : ∀ s a t, I s → C.step s a = some t → ∃ bs, A.run (view s) bs = some (view t)

/-- A run of `C` is one of `A`. -/
theorem Refinement.run {C : StepSystem σ α} {A : StepSystem τ β} {I : σ → Prop} {view : σ → τ}
    (h : Refinement C A I view) (hI : C.Inductive I) {s t : σ} {as : List α} (hs : I s)
    (hr : C.run s as = some t) : ∃ bs, A.run (view s) bs = some (view t) := by
  induction as generalizing s with
  | nil =>
      obtain rfl := Option.some.inj hr
      exact ⟨[], rfl⟩
  | cons a as ih =>
      obtain ⟨u, hu, hr⟩ := run_cons_eq_some.mp hr
      obtain ⟨bs, hbs⟩ := h.step s a u hs hu
      obtain ⟨cs, hcs⟩ := ih (hI.step s a u hs hu) hr
      exact ⟨bs ++ cs, run_append_eq_some.mpr ⟨view u, hbs, hcs⟩⟩

/-! ### Rest -/

variable (S : StepSystem σ α)

/-- No action of the kind `K` can be taken. -/
def AtRest (K : α → Prop) (s : σ) : Prop :=
  ∀ a, K a → S.step s a = none

variable {S}

theorem AtRest.not_step {K : α → Prop} {s t : σ} (h : S.AtRest K s) {a : α} (ha : K a) :
    S.step s a ≠ some t := by
  rw [h a ha]
  exact nofun

/-- What goes down with every action of the kind `K` bounds the runs of these actions. -/
theorem length_add_le_of_measure {K : α → Prop} {I : σ → Prop} {μ : σ → ℕ}
    (hstep : ∀ s a t, K a → I s → S.step s a = some t → I t ∧ μ t < μ s) {s t : σ} {as : List α}
    (hK : ∀ a ∈ as, K a) (hs : I s) (hr : S.run s as = some t) : as.length + μ t ≤ μ s := by
  induction as generalizing s with
  | nil =>
      obtain rfl := Option.some.inj hr
      exact Nat.le_of_eq (Nat.zero_add (μ s))
  | cons a as ih =>
      obtain ⟨u, hu, hr⟩ := run_cons_eq_some.mp hr
      obtain ⟨hIu, hlt⟩ := hstep s a u (hK a List.mem_cons_self) hs hu
      have hle := ih (fun b hb => hK b (List.mem_cons_of_mem a hb)) hIu hr
      rw [List.length_cons]
      omega

end StepSystem

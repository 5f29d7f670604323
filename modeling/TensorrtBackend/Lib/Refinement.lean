import TensorrtBackend.Lib.Checked
import TensorrtBackend.Lib.Transition

/-!
# Computations that refine runs

A computation that may fail refines a list of actions of a transition system when each of its
successes is a run of these actions between what is seen of the two states.  The rules put such
computations together: one after the other, in a loop, and behind a value that was computed
before.
-/

namespace Checked

universe u v

variable {ε : Type u} {σ α : Type v} {τ ι : Type*}

/-- From a state with the invariant every success of `f` keeps the invariant and is a run of `acts`
between the views of the two states. -/
structure Refines (S : StepSystem τ ι) (view : σ → τ) (Inv : σ → Prop) (f : σ → Except ε σ)
    (acts : List ι) : Prop where
  inv : ∀ s t, Inv s → f s = .ok t → Inv t
  run : ∀ s t, Inv s → f s = .ok t → S.run (view s) acts = some (view t)

namespace Refines

variable {S : StepSystem τ ι} {view : σ → τ} {Inv : σ → Prop} {f g : σ → Except ε σ}
  {acts bcts : List ι}

/-- Doing nothing. -/
theorem skip : Refines (ε := ε) S view Inv .ok [] := by
  constructor
  · intro s t hs h
    exact Except.ok.inj h ▸ hs
  · intro s t _ h
    rw [← Except.ok.inj h]
    rfl

/-- One action. -/
theorem act {a : ι} (h : ∀ s t, Inv s → f s = .ok t →
    Inv t ∧ S.step (view s) a = some (view t)) : Refines S view Inv f [a] := by
  refine ⟨fun s t hs ht => (h s t hs ht).1, fun s t hs ht => ?_⟩
  rw [StepSystem.run_cons, (h s t hs ht).2]
  rfl

/-- One after the other. -/
theorem bind (hf : Refines S view Inv f acts) (hg : Refines S view Inv g bcts) :
    Refines S view Inv (fun s => f s >>= g) (acts ++ bcts) := by
  constructor
  · intro s t hs h
    obtain ⟨u, hu, h⟩ := bind_eq_ok.mp h
    exact hg.inv u t (hf.inv s u hs hu) h
  · intro s t hs h
    obtain ⟨u, hu, h⟩ := bind_eq_ok.mp h
    exact StepSystem.run_append_eq_some.mpr
      ⟨view u, hf.run s u hs hu, hg.run u t (hf.inv s u hs hu) h⟩

/-- Behind a value that does not depend on the state. -/
theorem read {m : Except ε α} {f : α → σ → Except ε σ}
    (h : ∀ a, m = .ok a → Refines S view Inv (f a) acts) :
    Refines S view Inv (fun s => m >>= fun a => f a s) acts := by
  constructor
  · intro s t hs ht
    obtain ⟨a, ha, ht⟩ := bind_eq_ok.mp ht
    exact (h a ha).inv s t hs ht
  · intro s t hs ht
    obtain ⟨a, ha, ht⟩ := bind_eq_ok.mp ht
    exact (h a ha).run s t hs ht

/-- **The loop rule**: the actions of the iterations in a row. -/
theorem foldlM {f : σ → α → Except ε σ} {l : List α} {acts : α → List ι}
    (h : ∀ a ∈ l, Refines S view Inv (fun s => f s a) (acts a)) :
    Refines S view Inv (fun s => l.foldlM f s) (l.flatMap acts) := by
  induction l with
  | nil => exact skip
  | cons a l ih =>
      have hrest := ih fun b hb => h b (List.mem_cons_of_mem a hb)
      have hall := (h a List.mem_cons_self).bind hrest
      simpa only [List.foldlM_cons, List.flatMap_cons] using hall

/-- A loop of single actions. -/
theorem foldlM_map {f : σ → α → Except ε σ} {l : List α} {act : α → ι}
    (h : ∀ a ∈ l, Refines S view Inv (fun s => f s a) [act a]) :
    Refines S view Inv (fun s => l.foldlM f s) (l.map act) := by
  rw [List.map_eq_flatMap]
  exact foldlM h

/-- A success of the whole, from a state with the invariant. -/
theorem result (h : Refines S view Inv f acts) {s t : σ} (hs : Inv s) (ht : f s = .ok t) :
    Inv t ∧ S.run (view s) acts = some (view t) :=
  ⟨h.inv s t hs ht, h.run s t hs ht⟩

end Refines

end Checked

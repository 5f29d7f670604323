import TensorrtBackend.Lib.Checked

/-!
# The same steps once more

A run of fallible steps is followed, once it has finished, by a second run of corresponding steps.
What the second run finds is what the first one left at its end, so the two cannot be compared state
by state from the start on: the comparison of `s` with `s'` speaks about the end of the first run,
and `Settled` says what of that end is fixed in `s` already.  It is found backwards along the first
run, while the comparison is carried forwards along both.

* `Repeats`: what one pair of corresponding steps keeps.
* `Repeats.bind`, `Repeats.foldlM`, `Repeats.ite`: how pairs of steps are put together.
-/

namespace Checked

universe u v

variable {ε : Type u} {σ α : Type v} {Inv Settled : σ → Prop} {R : σ → σ → Prop}
  {f f' g g' : σ → Except ε σ}

/-- `g` repeats `f`: from a state compared with the one `f` started from it goes to a state compared
with the one `f` went to. -/
structure Repeats (Inv Settled : σ → Prop) (R : σ → σ → Prop) (f g : σ → Except ε σ) : Prop where
  inv : ∀ {s t}, f s = .ok t → Inv s → Inv t
  settled : ∀ {s t}, f s = .ok t → Inv s → Settled t → Settled s
  agree : ∀ {s t s' t'}, f s = .ok t → Inv s → Settled t → R s s' → g s' = .ok t' → R t t'

namespace Repeats

/-- Doing nothing. -/
theorem skip : Repeats (ε := ε) Inv Settled R .ok .ok where
  inv h hs := Except.ok.inj h ▸ hs
  settled h _ ht := Except.ok.inj h ▸ ht
  agree h _ _ hR h' := Except.ok.inj h ▸ Except.ok.inj h' ▸ hR

/-- A step that cannot succeed. -/
theorem fail (h : ∀ s, ∃ e, f s = .error e) : Repeats Inv Settled R f g := by
  have hnever : ∀ {s t}, f s ≠ .ok t := by
    intro s t hok
    obtain ⟨e, he⟩ := h s
    rw [he] at hok
    cases hok
  exact ⟨fun h => absurd h hnever, fun h => absurd h hnever, fun h => absurd h hnever⟩

/-- One step behind the other. -/
theorem bind (hf : Repeats Inv Settled R f g) (hf' : Repeats Inv Settled R f' g') :
    Repeats Inv Settled R (fun s => f s >>= f') (fun s => g s >>= g') where
  inv h hs := by
    obtain ⟨t, ht, h⟩ := bind_eq_ok.mp h
    exact hf'.inv h (hf.inv ht hs)
  settled h hs hend := by
    obtain ⟨t, ht, h⟩ := bind_eq_ok.mp h
    exact hf.settled ht hs (hf'.settled h (hf.inv ht hs) hend)
  agree h hs hend hR h' := by
    obtain ⟨t, ht, h⟩ := bind_eq_ok.mp h
    obtain ⟨t', ht', h'⟩ := bind_eq_ok.mp h'
    have hmid := hf'.settled h (hf.inv ht hs) hend
    exact hf'.agree h (hf.inv ht hs) hend (hf.agree ht hs hmid hR ht') h'

/-- A value that is read before the step and does not depend on the state. -/
theorem read {f g : α → σ → Except ε σ} (m : Except ε α)
    (h : ∀ x, Repeats Inv Settled R (f x) (g x)) :
    Repeats Inv Settled R (fun s => m >>= fun x => f x s) (fun s => m >>= fun x => g x s) := by
  cases m with
  | error e => exact fail fun _ => ⟨e, rfl⟩
  | ok x => exact h x

/-- A loop over the same elements. -/
theorem foldlM {f g : σ → α → Except ε σ} {l : List α}
    (h : ∀ x ∈ l, Repeats Inv Settled R (fun s => f s x) (fun s => g s x)) :
    Repeats Inv Settled R (fun s => l.foldlM f s) (fun s => l.foldlM g s) := by
  induction l with
  | nil => exact skip
  | cons x l ih =>
      have htail := ih fun y hy => h y (List.mem_cons_of_mem x hy)
      have hboth := (h x List.mem_cons_self).bind htail
      simpa only [List.foldlM_cons] using hboth

/-- A choice that both runs make alike. -/
theorem ite {p q : σ → Prop} [DecidablePred p] [DecidablePred q]
    (hpq : ∀ {s s'}, R s s' → (p s ↔ q s')) (hthen : Repeats Inv Settled R f g)
    (helse : Repeats Inv Settled R f' g') :
    Repeats Inv Settled R (fun s => if p s then f s else f' s)
      (fun s => if q s then g s else g' s) where
  inv h hs := by
    split at h
    · exact hthen.inv h hs
    · exact helse.inv h hs
  settled h hs hend := by
    split at h
    · exact hthen.settled h hs hend
    · exact helse.settled h hs hend
  agree h hs hend hR h' := by
    split at h
    · rename_i hp
      rw [if_pos ((hpq hR).mp hp)] at h'
      exact hthen.agree h hs hend hR h'
    · rename_i hp
      rw [if_neg (mt (hpq hR).mpr hp)] at h'
      exact helse.agree h hs hend hR h'

end Repeats

end Checked

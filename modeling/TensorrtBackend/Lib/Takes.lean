import Mathlib.Data.Set.Basic
import TensorrtBackend.Lib.Checked

/-!
# Computations that take cells

A computation that may fail is given cells that are free and has taken them when it succeeds.
`Takes` says of such a computation exactly when it succeeds; the rules put computations with cells
of their own together, one after the other and in a loop. -/

namespace Checked

universe u v

variable {ε : Type u} {σ α : Type v} {κ : Type*}

/-- With the cells of `taken` in use, `f` succeeds if and only if `can` holds, and then `cells` are
in use too.  `P` says what it means for cells to be in use in a state. -/
structure Takes (P : Set κ → σ → Prop) (taken cells : Set κ) (can : Prop) (f : σ → Except ε σ) :
    Prop where
  ok_iff : ∀ s, P taken s → ((∃ t, f s = .ok t) ↔ can)
  takes : ∀ s t, P taken s → f s = .ok t → P (taken ∪ cells) t

namespace Takes

variable {P : Set κ → σ → Prop} {taken cells more : Set κ} {can also : Prop} {f g : σ → Except ε σ}

/-- A computation that leads to the cells being taken whenever it can, and otherwise fails. -/
theorem of_total (hcan : ∀ s t, P taken s → f s = .ok t → can)
    (htotal : can → ∀ s, P taken s → ∃ t, f s = .ok t ∧ P (taken ∪ cells) t) :
    Takes P taken cells can f := by
  constructor
  · intro s hs
    constructor
    · intro ⟨t, ht⟩
      exact hcan s t hs ht
    · intro h
      obtain ⟨t, ht, -⟩ := htotal h s hs
      exact ⟨t, ht⟩
  · intro s t hs ht
    obtain ⟨t', ht', htaken⟩ := htotal (hcan s t hs ht) s hs
    rwa [Except.ok.inj (ht.symm.trans ht')]

/-- Taking nothing. -/
theorem pass (h : ∀ s, P taken s → ∃ t, f s = .ok t ∧ P taken t) : Takes P taken ∅ True f := by
  refine of_total (fun s t _ _ => trivial) fun _ s hs => ?_
  rw [Set.union_empty]
  exact h s hs

theorem congr (h : Takes P taken cells can f) (hcells : cells = more) (hcan : can ↔ also) :
    Takes P taken more also f := by
  subst hcells
  exact ⟨fun s hs => (h.ok_iff s hs).trans hcan, h.takes⟩

/-- One after the other. -/
theorem bind (hf : Takes P taken cells can f) (hg : Takes P (taken ∪ cells) more also g) :
    Takes P taken (cells ∪ more) (can ∧ also) (fun s => f s >>= g) := by
  refine of_total (fun s t hs h => ?_) fun ⟨hcan, halso⟩ s hs => ?_
  · obtain ⟨u, hu, h⟩ := bind_eq_ok.mp h
    exact ⟨(hf.ok_iff s hs).mp ⟨u, hu⟩, (hg.ok_iff u (hf.takes s u hs hu)).mp ⟨t, h⟩⟩
  · obtain ⟨u, hu⟩ := (hf.ok_iff s hs).mpr hcan
    have hpu := hf.takes s u hs hu
    obtain ⟨t, ht⟩ := (hg.ok_iff u hpu).mpr halso
    refine ⟨t, bind_eq_ok.mpr ⟨u, hu, ht⟩, ?_⟩
    rw [← Set.union_assoc]
    exact hg.takes u t hpu ht

/-- **The loop rule**: every iteration has cells of its own, and is started when only cells of
others are in use. -/
theorem foldlM {f : σ → α → Except ε σ} {l : List α} {cells : α → Set κ} {can : α → Prop}
    (h : ∀ a ∈ l, ∀ taken', (∀ c ∈ taken', c ∈ taken ∨ ∃ b ∈ l, c ∈ cells b) →
      (∀ c ∈ cells a, c ∉ taken') → Takes P taken' (cells a) (can a) (fun s => f s a))
    (hown : l.Pairwise fun a b => ∀ c ∈ cells b, c ∉ cells a)
    (hfree : ∀ a ∈ l, ∀ c ∈ cells a, c ∉ taken) :
    Takes P taken {c | ∃ a ∈ l, c ∈ cells a} (∀ a ∈ l, can a) (fun s => l.foldlM f s) := by
  induction l generalizing taken with
  | nil =>
      have hnone : {c | ∃ a ∈ ([] : List α), c ∈ cells a} = ∅ :=
        Set.eq_empty_of_forall_notMem fun c ⟨a, ha, _⟩ => List.not_mem_nil ha
      have hskip : Takes P taken ∅ True (fun s => ([] : List α).foldlM f s) :=
        pass fun s hs => ⟨s, rfl, hs⟩
      exact hskip.congr hnone.symm (iff_of_true trivial fun a ha => absurd ha List.not_mem_nil)
  | cons a l ih =>
      rw [List.pairwise_cons] at hown
      rw [List.forall_mem_cons] at hfree
      have hfirst := h a List.mem_cons_self taken (fun c hc => Or.inl hc) hfree.1
      have hrest : Takes P (taken ∪ cells a) {c | ∃ b ∈ l, c ∈ cells b} (∀ b ∈ l, can b)
          (fun s => l.foldlM f s) := by
        refine ih (fun b hb taken' htaken' => ?_) hown.2 fun b hb c hc =>
          not_or.mpr ⟨hfree.2 b hb c hc, hown.1 b hb c hc⟩
        refine h b (List.mem_cons_of_mem a hb) taken' fun c hc => ?_
        rcases htaken' c hc with (hc | hc) | ⟨b', hb', hc⟩
        · exact Or.inl hc
        · exact Or.inr ⟨a, List.mem_cons_self, hc⟩
        · exact Or.inr ⟨b', List.mem_cons_of_mem a hb', hc⟩
      have hall : cells a ∪ {c | ∃ b ∈ l, c ∈ cells b} = {c | ∃ b ∈ a :: l, c ∈ cells b} := by
        apply Set.ext
        intro c
        constructor
        · rintro (hc | ⟨b, hb, hc⟩)
          · exact ⟨a, List.mem_cons_self, hc⟩
          · exact ⟨b, List.mem_cons_of_mem a hb, hc⟩
        · rintro ⟨b, hb, hc⟩
          rcases List.mem_cons.mp hb with rfl | hb
          · exact Or.inl hc
          · exact Or.inr ⟨b, hb, hc⟩
      have hboth := (hfirst.bind hrest).congr hall (List.forall_mem_cons (p := can)).symm
      simpa only [List.foldlM_cons] using hboth

end Takes

end Checked

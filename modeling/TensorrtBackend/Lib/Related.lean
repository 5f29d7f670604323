import Mathlib.Data.List.Forall2
import Mathlib.Data.List.GetD

/-!
# Related lists

Rules for `List.Forall₂`: what is known of one list, of each pair or of every two pairs is known of
the related list.
-/

namespace Related

variable {α β γ : Type*} {S T : α → β → Prop} {l : List α} {l' : List β}

/-- Each element has a partner. -/
theorem exists_right (h : List.Forall₂ S l l') {a : α} (ha : a ∈ l) : ∃ b ∈ l', S a b := by
  induction h with
  | nil => exact absurd ha List.not_mem_nil
  | cons hab _ ih =>
      rcases List.mem_cons.mp ha with rfl | ha
      · exact ⟨_, List.mem_cons_self, hab⟩
      · obtain ⟨b, hb, hab'⟩ := ih ha
        exact ⟨b, List.mem_cons_of_mem _ hb, hab'⟩

theorem exists_left (h : List.Forall₂ S l l') {b : β} (hb : b ∈ l') : ∃ a ∈ l, S a b :=
  exists_right h.flip hb

/-- The relation may be weakened by what is known of the elements on the left. -/
theorem imp_mem (h : List.Forall₂ S l l') (himp : ∀ a ∈ l, ∀ b, S a b → T a b) :
    List.Forall₂ T l l' := by
  induction h with
  | nil => exact List.Forall₂.nil
  | cons hab _ ih =>
      rw [List.forall_mem_cons] at himp
      exact List.Forall₂.cons (himp.1 _ hab) (ih himp.2)

/-- Two relations one after the other. -/
theorem comp {R : β → γ → Prop} {U : α → γ → Prop} {l'' : List γ} (h : List.Forall₂ S l l')
    (h' : List.Forall₂ R l' l'') (hcomp : ∀ a b c, S a b → R b c → U a c) :
    List.Forall₂ U l l'' := by
  induction h generalizing l'' with
  | nil =>
      cases h'
      exact List.Forall₂.nil
  | cons hab _ ih =>
      cases h' with
      | cons hbc hrest => exact List.Forall₂.cons (hcomp _ _ _ hab hbc) (ih hrest)

theorem forall_left {P : α → Prop} {Q : β → Prop} (h : List.Forall₂ S l l')
    (himp : ∀ a b, S a b → Q b → P a) (hall : ∀ b ∈ l', Q b) : ∀ a ∈ l, P a := by
  intro a ha
  obtain ⟨b, hb, hab⟩ := exists_right h ha
  exact himp a b hab (hall b hb)

theorem forall_iff {P : α → Prop} {Q : β → Prop} (h : List.Forall₂ S l l')
    (hiff : ∀ a b, S a b → (P a ↔ Q b)) : (∀ a ∈ l, P a) ↔ ∀ b ∈ l', Q b :=
  ⟨forall_left h.flip fun b a hab => (hiff a b hab).mp,
    forall_left h fun a b hab => (hiff a b hab).mpr⟩

theorem pairwise_iff {R : α → α → Prop} {R' : β → β → Prop} (h : List.Forall₂ S l l')
    (hiff : ∀ a a' b b', S a b → S a' b' → (R a a' ↔ R' b b')) : l.Pairwise R ↔ l'.Pairwise R' := by
  induction h with
  | nil => exact iff_of_true List.Pairwise.nil List.Pairwise.nil
  | cons hab hrest ih =>
      rw [List.pairwise_cons, List.pairwise_cons, ih,
        forall_iff hrest fun a' b' hab' => hiff _ a' _ b' hab hab']

/-- Lists are related when they have one length and are related at each position. -/
theorem iff_getD (d : α) (d' : β) : List.Forall₂ S l l' ↔
    l.length = l'.length ∧ ∀ i < l.length, S (l.getD i d) (l'.getD i d') := by
  rw [List.forall₂_iff_get]
  refine and_congr_right fun hlen => ?_
  constructor
  · intro h i hi
    rw [List.getD_eq_getElem l d hi, List.getD_eq_getElem l' d' (hlen ▸ hi)]
    exact h i hi (hlen ▸ hi)
  · intro h i hi hi'
    have hi := h i hi
    rwa [List.getD_eq_getElem l d, List.getD_eq_getElem l' d' hi'] at hi

/-- Lists of lists of the same lengths are related when they are one behind the other. -/
theorem of_flatten {L : List (List α)} {L' : List (List β)}
    (hlen : L.map List.length = L'.map List.length) (h : List.Forall₂ S L.flatten L'.flatten) :
    List.Forall₂ (List.Forall₂ S) L L' := by
  induction L generalizing L' with
  | nil =>
      cases L' with
      | nil => exact List.Forall₂.nil
      | cons b L' => cases hlen
  | cons a L ih =>
      cases L' with
      | nil => cases hlen
      | cons b L' =>
          rw [List.map_cons, List.map_cons, List.cons.injEq] at hlen
          rw [List.flatten_cons, List.flatten_cons] at h
          have hhead := List.forall₂_take_append _ _ _ h
          have htail := List.forall₂_drop_append _ _ _ h
          rw [← hlen.1, List.take_left] at hhead
          rw [← hlen.1, List.drop_left] at htail
          exact List.Forall₂.cons hhead (ih hlen.2 htail)

end Related

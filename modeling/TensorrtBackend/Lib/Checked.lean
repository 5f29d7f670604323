import TensorrtBackend.Lib.Related

/-!
# Computations that may fail

Rules for `Except`: what is known once a sequence of steps, a check or a loop has succeeded.
-/

namespace Checked

universe u v

variable {ε : Type u} {α β σ : Type v}

theorem bind_eq_ok {m : Except ε α} {f : α → Except ε β} {b : β} :
    (m >>= f) = .ok b ↔ ∃ a, m = .ok a ∧ f a = .ok b := by
  cases m with
  | error e => exact ⟨nofun, fun ⟨a, ha, _⟩ => by cases ha⟩
  | ok a =>
      constructor
      · intro h
        exact ⟨a, rfl, h⟩
      · rintro ⟨a', ha, h⟩
        cases ha
        exact h

theorem pure_eq_ok {a b : α} : (pure a : Except ε α) = .ok b ↔ a = b := Except.ok.injEq a b ▸ Iff.rfl

/-- Fail with `e` when the condition holds. -/
def failIf (c : Prop) [Decidable c] (e : ε) : Except ε Unit := if c then .error e else .ok ()

theorem exists_eq_ok_of_isOk {m : Except ε α} (h : m.isOk = true) : ∃ a, m = .ok a := by
  cases m with
  | error e => exact nomatch h
  | ok a => exact ⟨a, rfl⟩

theorem failIf_eq_ok {c : Prop} [Decidable c] {e : ε} {u : Unit} : failIf c e = .ok u ↔ ¬ c := by
  unfold failIf
  split
  · rename_i hc
    exact ⟨nofun, fun h => absurd hc h⟩
  · rename_i hc
    exact ⟨fun _ => hc, fun _ => rfl⟩

/-- A loop that transforms every element succeeds when every element can be transformed. -/
theorem mapM_eq_ok {f : α → Except ε β} {l : List α} {l' : List β} :
    l.mapM f = .ok l' ↔ List.Forall₂ (fun a b => f a = .ok b) l l' := by
  induction l generalizing l' with
  | nil =>
      rw [List.mapM_nil, pure_eq_ok, List.forall₂_nil_left_iff]
      exact eq_comm
  | cons a l ih =>
      rw [List.mapM_cons, bind_eq_ok]
      constructor
      · rintro ⟨b, hb, h⟩
        obtain ⟨bs, hbs, h⟩ := bind_eq_ok.mp h
        rw [← pure_eq_ok.mp h]
        exact List.Forall₂.cons hb (ih.mp hbs)
      · intro h
        cases h with
        | cons hb hbs => exact ⟨_, hb, bind_eq_ok.mpr ⟨_, ih.mpr hbs, rfl⟩⟩

theorem exists_mapM_eq_ok {f : α → Except ε β} {l : List α} (h : ∀ a ∈ l, ∃ b, f a = .ok b) :
    ∃ l', l.mapM f = .ok l' := by
  induction l with
  | nil => exact ⟨[], rfl⟩
  | cons a l ih =>
      obtain ⟨b, hb⟩ := h a List.mem_cons_self
      obtain ⟨bs, hbs⟩ := ih fun a' ha' => h a' (List.mem_cons_of_mem a ha')
      exact ⟨b :: bs, mapM_eq_ok.mpr (List.Forall₂.cons hb (mapM_eq_ok.mp hbs))⟩

/-- Each element has its image in the result. -/
theorem exists_mem_of_mapM {f : α → Except ε β} {l : List α} {l' : List β} (h : l.mapM f = .ok l')
    {a : α} (ha : a ∈ l) : ∃ b ∈ l', f a = .ok b := Related.exists_right (mapM_eq_ok.mp h) ha

/-- Each element of the result is the image of one. -/
theorem exists_of_mem_mapM {f : α → Except ε β} {l : List α} {l' : List β} (h : l.mapM f = .ok l')
    {b : β} (hb : b ∈ l') : ∃ a ∈ l, f a = .ok b := Related.exists_left (mapM_eq_ok.mp h) hb

theorem foldlM_cons_eq_ok {f : σ → α → Except ε σ} {s t : σ} {a : α} {l : List α} :
    (a :: l).foldlM f s = .ok t ↔ ∃ u, f s a = .ok u ∧ l.foldlM f u = .ok t := by
  rw [List.foldlM_cons, bind_eq_ok]

/-- What every iteration keeps, a loop that succeeds keeps. -/
theorem foldlM_invariant {f : σ → α → Except ε σ} {P : σ → Prop} {l : List α} {s t : σ}
    (hstep : ∀ s a t, a ∈ l → P s → f s a = .ok t → P t) (h : l.foldlM f s = .ok t) (hs : P s) :
    P t := by
  induction l generalizing s with
  | nil => exact pure_eq_ok.mp h ▸ hs
  | cons a l ih =>
      obtain ⟨u, hu, h⟩ := foldlM_cons_eq_ok.mp h
      exact ih (fun s b t hb => hstep s b t (List.mem_cons_of_mem a hb)) h
        (hstep s a u List.mem_cons_self hs hu)

/-- Every iteration of a loop that succeeds has succeeded. -/
theorem exists_step_of_foldlM {f : σ → α → Except ε σ} {l : List α} {s t : σ}
    (h : l.foldlM f s = .ok t) {a : α} (ha : a ∈ l) : ∃ u v, f u a = .ok v := by
  induction l generalizing s with
  | nil => exact absurd ha List.not_mem_nil
  | cons b l ih =>
      obtain ⟨u, hu, h⟩ := foldlM_cons_eq_ok.mp h
      rcases List.mem_cons.mp ha with rfl | ha
      · exact ⟨s, u, hu⟩
      · exact ih h ha

/-- The same for an invariant that knows the elements gone through, the last one first. -/
theorem foldlM_invariant_done {f : σ → α → Except ε σ} {P : List α → σ → Prop} {l : List α}
    {s t : σ} (hstep : ∀ done s a t, P done s → f s a = .ok t → P (a :: done) t)
    (h : l.foldlM f s = .ok t) (hs : P [] s) : P l.reverse t := by
  have hrun : ∀ (done : List α) (s : σ), P done s → l.foldlM f s = .ok t →
      P (l.reverse ++ done) t := by
    clear h
    induction l with
    | nil =>
        intro done s hs h
        exact pure_eq_ok.mp h ▸ hs
    | cons a l ih =>
        intro done s hs h
        obtain ⟨u, hu, h'⟩ := foldlM_cons_eq_ok.mp h
        rw [List.reverse_cons, List.append_assoc]
        exact ih (a :: done) u (hstep done s a u hs hu) h'
  have hdone := hrun [] s hs h
  rwa [List.append_nil] at hdone

/-- A loop of checks succeeds when every check does. -/
theorem forM_eq_ok {f : α → Except ε PUnit} {l : List α} {u : PUnit} :
    l.forM f = .ok u ↔ ∀ a ∈ l, f a = .ok ⟨⟩ := by
  induction l with
  | nil => exact iff_of_true rfl fun a ha => absurd ha List.not_mem_nil
  | cons a l ih =>
      rw [List.forall_mem_cons, ← ih]
      show (f a >>= fun _ => l.forM f) = .ok u ↔ _
      rw [bind_eq_ok]
      exact ⟨fun ⟨_, ha, h⟩ => ⟨ha, h⟩, fun ⟨ha, h⟩ => ⟨⟨⟩, ha, h⟩⟩

/-! ### What a computation can throw -/

section

variable {E : ε → Prop} {m : Except ε α}

/-- Whatever the computation throws is among `E`. -/
def Throws (E : ε → Prop) (m : Except ε α) : Prop := ∀ e, m = .error e → E e

theorem Throws.pure (a : α) : Throws E (pure a : Except ε α) := fun _ h => nomatch h

theorem Throws.failIf {c : Prop} [Decidable c] {e : ε} (he : E e) : Throws E (failIf c e) := by
  intro e' h
  unfold Checked.failIf at h
  split at h
  · exact Except.error.inj h ▸ he
  · exact nomatch h

theorem Throws.bind {f : α → Except ε β} (hm : Throws E m) (hf : ∀ a, Throws E (f a)) :
    Throws E (m >>= f) := by
  cases m with
  | error e => exact fun e' h => hm e' (Except.error.inj h ▸ rfl)
  | ok a => exact hf a

theorem Throws.foldlM {f : σ → α → Except ε σ} {l : List α} (hf : ∀ s, ∀ a ∈ l, Throws E (f s a))
    (s : σ) : Throws E (l.foldlM f s) := by
  induction l generalizing s with
  | nil => exact Throws.pure s
  | cons a l ih =>
      rw [List.foldlM_cons]
      exact Throws.bind (hf s a List.mem_cons_self)
        (ih fun s b hb => hf s b (List.mem_cons_of_mem a hb))

theorem Throws.mapM {f : α → Except ε β} {l : List α} (hf : ∀ a ∈ l, Throws E (f a)) :
    Throws E (l.mapM f) := by
  induction l with
  | nil => exact Throws.pure []
  | cons a l ih =>
      rw [List.mapM_cons]
      exact (hf a List.mem_cons_self).bind fun b =>
        (ih fun c hc => hf c (List.mem_cons_of_mem a hc)).bind fun bs => Throws.pure (b :: bs)

end

end Checked

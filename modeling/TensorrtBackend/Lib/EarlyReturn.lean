import Mathlib.Data.List.Basic

/-!
# Procedures with an early return

`EarlyReturn σ α` is the semantics of a void procedure body: it transforms a state `σ` and either
falls through with a value or has already executed a `return`.  `Triple P m Q R` is partial
correctness with two exits: from `P` the body falls through into `Q` or has returned in `R`.
`ReturnsIn E m s` is one run of a body: from `s` it returns in a state of which `E` holds.
-/

/-- A body that may return early: `none` marks that a `return` was executed. -/
def EarlyReturn (σ α : Type) : Type := σ → Option α × σ

namespace EarlyReturn

variable {σ α β : Type}

/-- Fall through with a value. -/
def fall (a : α) : EarlyReturn σ α := fun s => (some a, s)

/-- Sequencing: nothing after an executed `return` runs. -/
def andThen (m : EarlyReturn σ α) (f : α → EarlyReturn σ β) : EarlyReturn σ β := fun s =>
  match m s with
  | (some a, t) => f a t
  | (none, t) => (none, t)

instance : Monad (EarlyReturn σ) where
  pure := fall
  bind := andThen

/-- The `return` statement. -/
def ret : EarlyReturn σ α := fun s => (none, s)

/-- Read a component of the state. -/
def gets (f : σ → α) : EarlyReturn σ α := fun s => (some (f s), s)

/-- Assign to the state. -/
def modify (f : σ → σ) : EarlyReturn σ Unit := fun s => (some (), f s)

/-- `for (x : l) body`, left as soon as the body returns. -/
def forEach (body : β → EarlyReturn σ Unit) : List β → EarlyReturn σ Unit
  | [] => pure ()
  | b :: bs => do body b; forEach body bs

/-- A loop that carries a local variable. -/
def foldEach (body : α → β → EarlyReturn σ α) : α → List β → EarlyReturn σ α
  | a, [] => pure a
  | a, b :: bs => do foldEach body (← body a b) bs

theorem bind_of_fall {m : EarlyReturn σ α} {f : α → EarlyReturn σ β} {s t : σ} {a : α}
    (h : m s = (some a, t)) : (m >>= f) s = f a t := by
  show andThen m f s = f a t
  rw [andThen, h]

theorem bind_of_ret {m : EarlyReturn σ α} {f : α → EarlyReturn σ β} {s t : σ}
    (h : m s = (none, t)) : (m >>= f) s = (none, t) := by
  show andThen m f s = (none, t)
  rw [andThen, h]

theorem bind_assoc {γ : Type} (m : EarlyReturn σ α) (f : α → EarlyReturn σ β)
    (g : β → EarlyReturn σ γ) : (m >>= f) >>= g = m >>= fun a => f a >>= g := by
  funext s
  show andThen (andThen m f) g s = andThen m (fun a => andThen (f a) g) s
  unfold andThen
  cases m s with
  | mk r t =>
      cases r with
      | none => rfl
      | some a => rfl

/-- From `P`, the body falls through into `Q` or has returned in `R`. -/
def Triple (P : σ → Prop) (m : EarlyReturn σ α) (Q : α → σ → Prop) (R : σ → Prop) : Prop :=
  ∀ s, P s → match m s with
    | (some a, t) => Q a t
    | (none, t) => R t

variable {P P' : σ → Prop} {R R' : σ → Prop} {Q Q' : α → σ → Prop}

theorem Triple.pure {a : α} (h : ∀ s, P s → Q a s) : Triple P (Pure.pure a) Q R := h

theorem Triple.ret (h : ∀ s, P s → R s) : Triple P (ret : EarlyReturn σ α) Q R := h

theorem Triple.modify {f : σ → σ} {Q : Unit → σ → Prop} (h : ∀ s, P s → Q () (f s)) :
    Triple P (modify f) Q R := h

theorem Triple.gets {f : σ → α} (h : ∀ s, P s → Q (f s) s) : Triple P (gets f) Q R := h

theorem Triple.bind {m : EarlyReturn σ α} {f : α → EarlyReturn σ β} {T : β → σ → Prop}
    (hm : Triple P m Q R) (hf : ∀ a, Triple (Q a) (f a) T R) : Triple P (m >>= f) T R := by
  intro s hs
  have h := hm s hs
  change match EarlyReturn.andThen m f s with
    | (some a, t) => T a t
    | (none, t) => R t
  unfold EarlyReturn.andThen
  cases hms : m s with
  | mk r t =>
      rw [hms] at h
      cases r with
      | none => exact h
      | some a => exact hf a t h

/-- Strengthen the precondition and weaken both exits. -/
theorem Triple.conseq {m : EarlyReturn σ α} (h : Triple P' m Q' R') (hP : ∀ s, P s → P' s)
    (hQ : ∀ a s, Q' a s → Q a s) (hR : ∀ s, R' s → R s) : Triple P m Q R := by
  intro s hs
  have h' := h s (hP s hs)
  cases hms : m s with
  | mk r t =>
      rw [hms] at h'
      cases r with
      | none => exact hR t h'
      | some a => exact hQ a t h'

theorem Triple.post {m : EarlyReturn σ α} (h : Triple P m Q' R) (hQ : ∀ a s, Q' a s → Q a s) :
    Triple P m Q R := h.conseq (fun _ h => h) hQ (fun _ h => h)

/-- What holds where a run has fallen through. -/
theorem Triple.of_fall {m : EarlyReturn σ α} (h : Triple P m Q R) {s t : σ} {a : α} (hs : P s)
    (hrun : m s = (some a, t)) : Q a t := by
  have hpost := h s hs
  rw [hrun] at hpost
  exact hpost

theorem Triple.ite {c : Prop} [Decidable c] {m m' : EarlyReturn σ α}
    (ht : c → Triple P m Q R) (hf : ¬ c → Triple P m' Q R) :
    Triple P (if c then m else m') Q R := by
  by_cases h : c
  · rw [if_pos h]; exact ht h
  · rw [if_neg h]; exact hf h

/-- **The loop rule**: an invariant kept by every iteration is kept by the loop. -/
theorem Triple.forEach {body : β → EarlyReturn σ Unit} {l : List β}
    (h : ∀ b ∈ l, Triple P (body b) (fun _ => P) R) :
    Triple P (forEach body l) (fun _ => P) R := by
  induction l with
  | nil => exact Triple.pure fun _ hs => hs
  | cons b bs ih =>
      exact Triple.bind (h b (by simp)) fun _ => ih fun c hc => h c (by simp [hc])

/-- The loop rule with a loop-carried variable; the invariant may speak of the items done. -/
theorem Triple.foldEach {body : α → β → EarlyReturn σ α} {I : List β → α → σ → Prop}
    {done l : List β} {a : α}
    (h : ∀ pre b post x, done ++ l = pre ++ b :: post →
      Triple (I pre x) (body x b) (fun y => I (pre ++ [b]) y) R) :
    Triple (I done a) (foldEach body a l) (fun y => I (done ++ l) y) R := by
  induction l generalizing done a with
  | nil => exact Triple.pure fun s hs => by simpa using hs
  | cons b bs ih =>
      refine Triple.bind (h done b bs a rfl) fun y => ?_
      have hrest : Triple (I (done ++ [b]) y) (EarlyReturn.foldEach body y bs)
          (fun z => I (done ++ [b] ++ bs) z) R := by
        apply ih
        intro pre c post x hp
        apply h pre c post x
        rw [← hp, List.append_assoc, List.singleton_append]
      apply hrest.post
      intro z s hz
      rw [List.append_assoc, List.singleton_append] at hz
      exact hz

/-! ### Where a body returns -/

/-- From `s` the body returns in a state of which `E` holds. -/
def ReturnsIn (E : σ → Prop) (m : EarlyReturn σ α) (s : σ) : Prop :=
  ∃ t, m s = (none, t) ∧ E t

variable {E : σ → Prop} {s t : σ}

theorem not_returnsIn_of_fall {m : EarlyReturn σ α} {a : α} (h : m s = (some a, t)) :
    ¬ ReturnsIn E m s := by
  intro hr
  obtain ⟨u, hu, -⟩ := hr
  rw [h] at hu
  cases hu

/-- A body returns where its first part does, or falls through this one and returns behind it. -/
theorem returnsIn_bind {m : EarlyReturn σ α} {f : α → EarlyReturn σ β} :
    ReturnsIn E (m >>= f) s ↔
      ReturnsIn E m s ∨ ∃ a t, m s = (some a, t) ∧ ReturnsIn E (f a) t := by
  cases hms : m s with
  | mk r u =>
      cases r with
      | none =>
          simp only [ReturnsIn, bind_of_ret hms, hms, Prod.mk.injEq, reduceCtorEq, false_and,
            exists_false, or_false]
      | some a =>
          simp only [ReturnsIn, bind_of_fall hms, hms, Prod.mk.injEq, reduceCtorEq, false_and,
            exists_false, false_or, Option.some.injEq]
          constructor
          · intro h
            exact ⟨a, u, ⟨rfl, rfl⟩, h⟩
          · intro h
            obtain ⟨_, _, ⟨rfl, rfl⟩, h⟩ := h
            exact h

/-- When the first part falls through, the body returns where the rest does. -/
theorem returnsIn_bind_of_fall {m : EarlyReturn σ α} {f : α → EarlyReturn σ β} {a : α}
    (h : m s = (some a, t)) : ReturnsIn E (m >>= f) s ↔ ReturnsIn E (f a) t := by
  rw [ReturnsIn, ReturnsIn, bind_of_fall h]

/-- **Where a loop returns**: in the iteration for an item, when it has fallen through for the items
before it. -/
theorem returnsIn_forEach {body : β → EarlyReturn σ Unit} {l : List β} :
    ReturnsIn E (forEach body l) s ↔
      ∃ i b t, l[i]? = some b ∧ forEach body (l.take i) s = (some (), t) ∧
        ReturnsIn E (body b) t := by
  induction l generalizing s with
  | nil =>
      refine iff_of_false (not_returnsIn_of_fall (a := ()) (t := s) rfl) fun h => ?_
      obtain ⟨i, b, t, hb, -⟩ := h
      exact absurd hb (by simp)
  | cons c l ih =>
      have hunfold : forEach body (c :: l) = (body c >>= fun _ => forEach body l) := rfl
      rw [hunfold, returnsIn_bind]
      constructor
      · intro h
        rcases h with h | ⟨⟨⟩, t, hc, h⟩
        · exact ⟨0, c, s, rfl, rfl, h⟩
        · obtain ⟨i, b, u, hb, hpre, h⟩ := ih.mp h
          refine ⟨i + 1, b, u, hb, ?_, h⟩
          show (body c >>= fun _ => forEach body (l.take i)) s = _
          rw [bind_of_fall hc, hpre]
      · intro h
        obtain ⟨i, b, u, hb, hpre, h⟩ := h
        cases i with
        | zero =>
            cases hb
            cases hpre
            exact Or.inl h
        | succ i =>
            refine Or.inr ?_
            have hpre' : (body c >>= fun _ => forEach body (l.take i)) s = (some (), u) := hpre
            cases hc : body c s with
            | mk r t =>
                cases r with
                | none =>
                    rw [bind_of_ret hc] at hpre'
                    cases hpre'
                | some a =>
                    rw [bind_of_fall hc] at hpre'
                    exact ⟨a, t, rfl, ih.mpr ⟨i, b, u, hb, hpre', h⟩⟩

end EarlyReturn

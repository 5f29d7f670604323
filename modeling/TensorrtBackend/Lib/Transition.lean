import Mathlib.Data.List.Basic
import Mathlib.Data.List.Induction
import Mathlib.Data.Option.Basic
import Mathlib.Tactic.Cases

/-!
# Transition systems with an executable step

A `StepSystem` is a set of initial states together with a partial step function: `step s a = none`
says that action `a` is blocked in `s`.  Runs are lists of actions, so one system serves both to
execute a concrete schedule and to quantify over every schedule.  `Inductive` packages the two
obligations of an invariant once; `Reachable.of_inductive` is the induction over runs.
-/

/-- Initial states and a partial step function; a blocked action has no successor. -/
structure StepSystem (σ α : Type*) where
  init : σ → Prop
  step : σ → α → Option σ

namespace StepSystem

variable {σ α : Type*} (S : StepSystem σ α)

/-- Perform a list of actions in order; `none` as soon as one of them is blocked. -/
def run (s : σ) : List α → Option σ
  | [] => some s
  | a :: as => (S.step s a).bind fun t => run t as

/-- States some run from an initial state ends in. -/
def Reachable (s : σ) : Prop :=
  ∃ s₀ as, S.init s₀ ∧ S.run s₀ as = some s

/-- A predicate that holds initially and survives every step. -/
structure Inductive (I : σ → Prop) : Prop where
  init : ∀ s, S.init s → I s
  step : ∀ s a t, I s → S.step s a = some t → I t

variable {S}

theorem run_cons (s : σ) (a : α) (as : List α) :
    S.run s (a :: as) = (S.step s a).bind fun t => S.run t as := rfl

theorem run_cons_eq_some {s t : σ} {a : α} {as : List α} :
    S.run s (a :: as) = some t ↔ ∃ u, S.step s a = some u ∧ S.run u as = some t := by
  rw [run_cons, Option.bind_eq_some_iff]

theorem run_append (s : σ) (as bs : List α) :
    S.run s (as ++ bs) = (S.run s as).bind fun t => S.run t bs := by
  induction as generalizing s with
  | nil => rfl
  | cons a as ih =>
      rw [List.cons_append, run_cons, run_cons, Option.bind_assoc]
      exact congrArg _ (funext ih)

theorem run_append_eq_some {s t : σ} {as bs : List α} :
    S.run s (as ++ bs) = some t ↔ ∃ u, S.run s as = some u ∧ S.run u bs = some t := by
  rw [run_append, Option.bind_eq_some_iff]

/-- A property kept by each step is kept by a whole run. -/
theorem run_invariant {I : σ → Prop} (hstep : ∀ s a t, I s → S.step s a = some t → I t)
    {s t : σ} {as : List α} (hs : I s) (h : S.run s as = some t) : I t := by
  induction as generalizing s with
  | nil => cases h; exact hs
  | cons a as ih =>
      obtain ⟨u, hu, ht⟩ := run_cons_eq_some.mp h
      exact ih (hstep s a u hs hu) ht

/-- What an action brings about and no later one undoes holds of every action of a run at its end;
the invariant may serve to bring it about. -/
theorem run_done {I : σ → Prop} {D : σ → α → Prop} {as : List α}
    (hstep : ∀ s, ∀ a ∈ as, ∀ t, I s → S.step s a = some t → I t ∧ D t a)
    (hkeep : ∀ s a t b, D s b → S.step s a = some t → D t b) {s t : σ} (hs : I s)
    (h : S.run s as = some t) : I t ∧ ∀ a ∈ as, D t a := by
  induction as generalizing s with
  | nil =>
      obtain rfl := Option.some.inj h
      exact ⟨hs, fun a ha => absurd ha List.not_mem_nil⟩
  | cons a as ih =>
      obtain ⟨u, hu, h⟩ := run_cons_eq_some.mp h
      obtain ⟨hI, hD⟩ := hstep s a List.mem_cons_self u hs hu
      obtain ⟨hIt, hDt⟩ := ih (fun s b hb => hstep s b (List.mem_cons_of_mem a hb)) hI h
      refine ⟨hIt, List.forall_mem_cons.mpr ⟨?_, hDt⟩⟩
      exact run_invariant (I := fun s => D s a) (fun s b t hs ht => hkeep s b t a hs ht) hD h

theorem Reachable.of_init {s : σ} (h : S.init s) : S.Reachable s := ⟨s, [], h, rfl⟩

theorem Reachable.run {s t : σ} {as : List α} (h : S.Reachable s) (hr : S.run s as = some t) :
    S.Reachable t := by
  obtain ⟨s₀, bs, h₀, hb⟩ := h
  exact ⟨s₀, bs ++ as, h₀, run_append_eq_some.mpr ⟨s, hb, hr⟩⟩

/-- **The invariant rule**: an inductive predicate holds in every reachable state. -/
theorem Reachable.of_inductive {I : σ → Prop} (hI : S.Inductive I) {s : σ}
    (h : S.Reachable s) : I s := by
  obtain ⟨s₀, as, h₀, hr⟩ := h
  exact run_invariant hI.step (hI.init s₀ h₀) hr

/-! ### Properties at the occurrences of an action -/

/-- `P` holds of the state each time a run performs `a`. -/
def AtEvery (S : StepSystem σ α) (s : σ) (as : List α) (a : α) (P : σ → Prop) : Prop :=
  ∀ bs cs t, as = bs ++ a :: cs → S.run s bs = some t → P t

/-- What holds of every reachable state that can perform `a` holds at every `a` of a run. -/
theorem AtEvery.of_reachable {a : α} {P : σ → Prop}
    (h : ∀ s t, S.Reachable s → S.step s a = some t → P s) {s t : σ} {as : List α}
    (hs : S.Reachable s) (hr : S.run s as = some t) : S.AtEvery s as a P := by
  intro bs cs u has hu
  rw [has] at hr
  obtain ⟨v, hv, hrest⟩ := run_append_eq_some.mp hr
  have huv : u = v := Option.some.inj (hu.symm.trans hv)
  subst huv
  obtain ⟨w, hw, -⟩ := run_cons_eq_some.mp hrest
  exact h u w (hs.run hu) hw

/-- Two properties that agree where `a` can be performed agree along a run. -/
theorem atEvery_congr {a : α} {P Q : σ → Prop}
    (h : ∀ s t, S.Reachable s → S.step s a = some t → (P s ↔ Q s)) {s t : σ} {as : List α}
    (hs : S.Reachable s) (hr : S.run s as = some t) : S.AtEvery s as a P ↔ S.AtEvery s as a Q := by
  have hpq : S.AtEvery s as a fun u => P u ↔ Q u := AtEvery.of_reachable h hs hr
  constructor
  · intro hp bs cs u has hu
    exact (hpq bs cs u has hu).mp (hp bs cs u has hu)
  · intro hq bs cs u has hu
    exact (hpq bs cs u has hu).mpr (hq bs cs u has hu)

end StepSystem

/-! ### Steps that are never blocked -/

/-- Where a step keeps the invariant exactly on a condition, a run has it in every state exactly
when each of its steps is taken on the condition. -/
theorem foldl_invariant_iff {σ α : Type*} {step : σ → α → σ} {I : σ → Prop} {C : σ → α → Prop}
    {s : σ} {as : List α} (hs : I s) (hstep : ∀ s, ∀ a ∈ as, I s → (I (step s a) ↔ C s a)) :
    (∀ done, done <+: as → I (done.foldl step s)) ↔
      ∀ done a, done ++ [a] <+: as → C (done.foldl step s) a := by
  have hnext : ∀ done a, done ++ [a] <+: as → I (done.foldl step s) →
      (I ((done ++ [a]).foldl step s) ↔ C (done.foldl step s) a) := by
    intro done a hdone hI
    have ha : a ∈ as := hdone.subset (List.mem_append_right done (List.mem_singleton.mpr rfl))
    rw [List.foldl_append]
    exact hstep _ a ha hI
  have hfront : ∀ done a, done ++ [a] <+: as → done <+: as :=
    fun done a h => (List.prefix_append done [a]).trans h
  constructor
  · intro h done a hdone
    exact (hnext done a hdone (h done (hfront done a hdone))).mp (h (done ++ [a]) hdone)
  · intro h done
    induction done using List.reverseRecOn with
    | nil => exact fun _ => hs
    | append_singleton done a ih =>
        intro hdone
        exact (hnext done a hdone (ih (hfront done a hdone))).mpr (h done a hdone)

import Mathlib.Algebra.BigOperators.Group.Finset.Basic
import Mathlib.Data.Finset.Card
import TensorrtBackend.Lib.Monitor

/-!
# Monitors at rest

Monitors whose data holds units: an operation that does not notify takes one and waits while there
is none, an operation that notifies adds one and never waits.

* `Counted.attended_step`: while anybody sleeps, every unit has a thread that attends to it.
* `rest_blocked`: a monitor at rest lets nobody sleep who could go on.
* `rest_bound`: left alone it comes to rest within a number of steps.
-/

namespace Monitor

variable {θ δ ο : Type*}

section Step

variable [DecidableEq θ] [DecidableEq ο] {M : Interface δ ο} {s s' : State θ δ ο} {t u w : θ}
  {op : ο} {d : δ}

/-! ### No wake-up is lost -/

omit [DecidableEq θ] [DecidableEq ο] in
/-- The data holds units: an operation that does not notify takes one and waits while there is none,
an operation that notifies adds at most one and never waits. -/
structure Counted (M : Interface δ ο) (avail : δ → ℕ) : Prop where
  blocked : ∀ op d, M.guard op d = false → avail d = 0
  taken : ∀ op d, M.guard op d = true → M.notifies op = false →
    avail (M.effect op d) + 1 ≤ avail d
  given : ∀ op d, M.notifies op = true → avail (M.effect op d) ≤ avail d + 1
  eager : ∀ op d, M.notifies op = true → M.guard op d = true

/-- The thread will look at the data again, or have another one do so. -/
def Phase.attends (M : Interface δ ο) : Phase δ ο → Prop
  | .locking op | .inside op | .changing op _ => M.notifies op = false
  | .notifying => True
  | _ => False

/-- While anybody sleeps, every unit there is has a thread that attends to it. -/
structure State.Attended (M : Interface δ ο) (avail : δ → ℕ) (s : State θ δ ο) : Prop where
  units : s.waiters ≠ [] → ∃ A : Finset θ, avail s.data ≤ A.card ∧ ∀ t ∈ A, (s.phase t).attends M
  patient : ∀ t op, s.phase t = .sleeping op → M.notifies op = false

section Attended

variable {avail : δ → ℕ} {A : Finset θ}

omit [DecidableEq ο] in
theorem attends_goto_of_not_mem {p : Phase δ ο} (hA : ∀ u ∈ A, (s.phase u).attends M) (ht : t ∉ A) :
    ∀ u ∈ A, ((s.goto t p).phase u).attends M := by
  intro u hu
  have hne : u ≠ t := by
    rintro rfl
    exact ht hu
  rw [goto_of_ne s p hne]
  exact hA u hu

omit [DecidableEq ο] in
/-- A thread that attends goes on attending. -/
theorem attends_goto {p : Phase δ ο} (hA : ∀ u ∈ A, (s.phase u).attends M)
    (hp : (s.phase t).attends M → p.attends M) : ∀ u ∈ A, ((s.goto t p).phase u).attends M := by
  intro u hu
  by_cases hut : u = t
  · subst hut
    rw [goto_self]
    exact hp (hA u hu)
  · rw [goto_of_ne s p hut]
    exact hA u hu

omit [DecidableEq ο] in
theorem attends_wake (hA : ∀ u ∈ A, (s.phase u).attends M) :
    ∀ u ∈ A, ((s.wake w).phase u).attends M := by
  intro u hu
  have h := hA u hu
  by_cases hw : u = w
  · subst hw
    rw [wake_self]
    cases hp : s.phase u with
    | sleeping op =>
        rw [hp] at h
        exact h.elim
    | _ =>
        rw [hp] at h
        exact h
  · rw [wake_of_ne s hw]
    exact h

omit [DecidableEq ο] in
theorem patient_goto {p : Phase δ ο} (h : ∀ u op, s.phase u = .sleeping op → M.notifies op = false)
    (hp : ∀ op, p = .sleeping op → M.notifies op = false) :
    ∀ u op, (s.goto t p).phase u = .sleeping op → M.notifies op = false := by
  intro u op hu
  by_cases hut : u = t
  · subst hut
    rw [goto_self] at hu
    exact hp op hu
  · rw [goto_of_ne s p hut] at hu
    exact h u op hu

omit [DecidableEq ο] in
theorem patient_wake (h : ∀ u op, s.phase u = .sleeping op → M.notifies op = false) :
    ∀ u op, (s.wake w).phase u = .sleeping op → M.notifies op = false := by
  intro u op hu
  by_cases huw : u = w
  · subst huw
    rw [wake_self] at hu
    cases hp : s.phase u <;> rw [hp] at hu <;> cases hu
  · rw [wake_of_ne s huw] at hu
    exact h u op hu

omit [DecidableEq ο] in
/-- The guard held: one unit less and one thread less, or one unit and one thread more. -/
theorem attended_perform (hM : Counted M avail) (h : s.Attended M avail)
    {read : δ} (hp : s.phase t = .changing op read) (hg : M.guard op s.data = true) :
    State.Attended M avail { s.goto t (if M.notifies op then .notifying else .leaving) with
      data := M.effect op s.data } := by
  constructor
  · intro hw
    obtain ⟨A, hcard, hA⟩ := h.units hw
    cases hn : M.notifies op with
    | false =>
        refine ⟨A.erase t, ?_, ?_⟩
        · have htaken := hM.taken op s.data hg hn
          have herase := Finset.pred_card_le_card_erase (s := A) (a := t)
          show avail (M.effect op s.data) ≤ _
          omega
        · exact attends_goto_of_not_mem (fun u hu => hA u (Finset.mem_of_mem_erase hu))
            (Finset.notMem_erase t A)
    | true =>
        have ht : t ∉ A := by
          intro ht
          have hat := hA t ht
          rw [hp] at hat
          exact Bool.noConfusion (hn.symm.trans hat)
        refine ⟨insert t A, ?_, ?_⟩
        · rw [Finset.card_insert_of_notMem ht]
          exact (hM.given op s.data hn).trans (Nat.add_le_add_right hcard 1)
        · intro u hu
          rcases Finset.mem_insert.mp hu with rfl | hu
          · show ((s.goto u _).phase u).attends M
            rw [goto_self]
            trivial
          · exact attends_goto_of_not_mem hA ht u hu
  · refine patient_goto h.patient ?_
    intro op' hop
    split at hop <;> cases hop

theorem Counted.attended_step (hM : Counted M avail) (hok : s.Ok M) (h : s.Attended M avail)
    {a : Action θ ο} (hs : step M s a = some s') : s'.Attended M avail := by
  have hout : ∀ {A : Finset θ} {t : θ}, (∀ u ∈ A, (s.phase u).attends M) →
      ¬ (s.phase t).attends M → t ∉ A := fun hA ht hmem => ht (hA _ hmem)
  cases a with
  | call t op =>
      obtain ⟨hp, rfl⟩ := call_eq_some.mp hs
      refine ⟨fun hw => ?_, patient_goto h.patient (by simp)⟩
      obtain ⟨A, hcard, hA⟩ := h.units hw
      exact ⟨A, hcard, attends_goto_of_not_mem hA (hout hA (by rw [hp]; exact id))⟩
  | lock t =>
      obtain ⟨op, hp, -, rfl⟩ := lock_eq_some.mp hs
      refine ⟨fun hw => ?_, patient_goto h.patient (by simp)⟩
      obtain ⟨A, hcard, hA⟩ := h.units hw
      exact ⟨A, hcard, attends_goto hA (by rw [hp]; exact id)⟩
  | wait t =>
      obtain ⟨op, hp, hg, rfl⟩ := wait_eq_some.mp hs
      refine ⟨fun _ => ⟨∅, ?_, by simp⟩, patient_goto h.patient ?_⟩
      · exact (hM.blocked op s.data hg).le
      · intro op' hop
        cases hop
        cases hn : M.notifies op with
        | false => rfl
        | true =>
            rw [hM.eager op s.data hn] at hg
            cases hg
  | read t =>
      obtain ⟨op, hp, -, rfl⟩ := read_eq_some.mp hs
      refine ⟨fun hw => ?_, patient_goto h.patient (by simp)⟩
      obtain ⟨A, hcard, hA⟩ := h.units hw
      exact ⟨A, hcard, attends_goto hA (by rw [hp]; exact id)⟩
  | perform t op =>
      obtain ⟨read, hp, rfl⟩ := perform_eq_some.mp hs
      obtain ⟨rfl, hg⟩ := hok.current t op read hp
      exact attended_perform hM h hp hg
  | notify t w =>
      cases w with
      | none =>
          obtain ⟨-, hw, rfl⟩ := notify_none_eq_some.mp hs
          exact ⟨fun hne => absurd hw hne, patient_goto h.patient (by simp)⟩
      | some w =>
          obtain ⟨hp, hw, rfl⟩ := notify_some_eq_some.mp hs
          obtain ⟨op, hop⟩ := (hok.waiter w).mp hw
          refine ⟨fun _ => ?_, patient_wake (patient_goto h.patient (by simp))⟩
          obtain ⟨A, hcard, hA⟩ := h.units (List.ne_nil_of_mem hw)
          have hwA : w ∉ A := hout hA (by rw [hop]; exact id)
          have hwt : w ≠ t := by
            rintro rfl
            rw [hp] at hop
            cases hop
          -- The thread that notified is replaced by the one it woke.
          refine ⟨insert w (A.erase t), ?_, ?_⟩
          · have herase := Finset.pred_card_le_card_erase (s := A) (a := t)
            rw [Finset.card_insert_of_notMem fun hmem => hwA (Finset.mem_of_mem_erase hmem)]
            show avail s.data ≤ _
            omega
          · intro u hu
            rcases Finset.mem_insert.mp hu with rfl | hu
            · rw [wake_self, goto_of_ne s _ hwt, hop]
              exact h.patient u op hop
            · exact attends_wake (attends_goto_of_not_mem
                (fun v hv => hA v (Finset.mem_of_mem_erase hv)) (Finset.notMem_erase t A)) u hu
  | unlock t =>
      obtain ⟨hp, rfl⟩ := unlock_eq_some.mp hs
      refine ⟨fun hw => ?_, patient_goto h.patient (by simp)⟩
      obtain ⟨A, hcard, hA⟩ := h.units hw
      exact ⟨A, hcard, attends_goto_of_not_mem hA (hout hA (by rw [hp]; exact id))⟩
  | spurious w =>
      obtain ⟨hw, rfl⟩ := spurious_eq_some.mp hs
      refine ⟨fun _ => ?_, patient_wake h.patient⟩
      obtain ⟨A, hcard, hA⟩ := h.units (List.ne_nil_of_mem hw)
      exact ⟨A, hcard, attends_wake hA⟩

theorem attended_inductive (hM : Counted M avail) :
    (system M d : StepSystem (State θ δ ο) (Action θ ο)).Inductive
      fun s => s.Ok M ∧ s.Attended M avail where
  init s hs := by
    obtain rfl : s = { data := d } := hs
    exact ⟨State.Ok.initial d, fun hw => absurd rfl hw, by simp⟩
  step _ _ _ h hs := ⟨h.1.step hs, hM.attended_step h.1 h.2 hs⟩

/-! ### Rest -/

/-- The actions of a monitor that is left alone: nobody calls and nobody wakes up for no reason. -/
def Action.Internal : Action θ ο → Prop
  | .call _ _ | .spurious _ => False
  | _ => True

/-- A monitor in which everybody is outside or sleeps is at rest. -/
theorem atRest_of_blocked (h : ∀ t, s.phase t = .outside ∨ ∃ op, s.phase t = .sleeping op) :
    (system M d).AtRest Action.Internal s := by
  intro a ha
  show step M s a = none
  cases a with
  | call t op => exact ha.elim
  | spurious w => exact ha.elim
  | notify t w =>
      cases w with
      | none => rcases h t with hp | ⟨op, hp⟩ <;> simp [step, hp]
      | some w => rcases h t with hp | ⟨op, hp⟩ <;> simp [step, hp]
  | lock t => rcases h t with hp | ⟨op, hp⟩ <;> simp [step, hp]
  | wait t => rcases h t with hp | ⟨op, hp⟩ <;> simp [step, hp]
  | read t => rcases h t with hp | ⟨op, hp⟩ <;> simp [step, hp]
  | perform t op' => rcases h t with hp | ⟨op, hp⟩ <;> simp [step, hp]
  | unlock t => rcases h t with hp | ⟨op, hp⟩ <;> simp [step, hp]

/-- **Nobody sleeps who could go on**: where no internal action can be taken, every thread is
outside or sleeps in an operation whose guard does not hold. -/
theorem rest_blocked (hM : Counted M avail) (hok : s.Ok M) (h : s.Attended M avail)
    (hrest : (system M d).AtRest Action.Internal s) (t : θ) :
    s.phase t = .outside ∨
      ∃ op, s.phase t = .sleeping op ∧ M.guard op s.data = false ∧ avail s.data = 0 := by
  have hstuck : ∀ a, a.Internal → ∀ v, step M s a ≠ some v := fun a ha v => hrest.not_step ha
  -- Whoever holds the mutex could go on.
  have hfree : s.owner = none := by
    cases ho : s.owner with
    | none => rfl
    | some u =>
        exfalso
        have hu := (hok.holder u).mpr ho
        cases hp : s.phase u with
        | inside op =>
            cases hg : M.guard op s.data with
            | false => exact hstuck (.wait u) trivial _ (wait_eq_some.mpr ⟨op, hp, hg, rfl⟩)
            | true => exact hstuck (.read u) trivial _ (read_eq_some.mpr ⟨op, hp, hg, rfl⟩)
        | changing op read =>
            exact hstuck (.perform u op) trivial _ (perform_eq_some.mpr ⟨read, hp, rfl⟩)
        | notifying =>
            cases hw : s.waiters with
            | nil => exact hstuck (.notify u none) trivial _ (notify_none_eq_some.mpr ⟨hp, hw, rfl⟩)
            | cons w ws =>
                have hmem : w ∈ s.waiters := by
                  rw [hw]
                  exact List.mem_cons_self
                exact hstuck (.notify u (some w)) trivial _
                  (notify_some_eq_some.mpr ⟨hp, hmem, rfl⟩)
        | leaving => exact hstuck (.unlock u) trivial _ (unlock_eq_some.mpr ⟨hp, rfl⟩)
        | outside => rw [hp] at hu; cases hu
        | locking op => rw [hp] at hu; cases hu
        | sleeping op => rw [hp] at hu; cases hu
  have hholds : ∀ u, (s.phase u).holds = false := hok.free hfree
  have hlock : ∀ u op, s.phase u ≠ .locking op := fun u op hp =>
    hstuck (.lock u) trivial _ (lock_eq_some.mpr ⟨op, hp, hfree, rfl⟩)
  -- With nobody who attends there are no units.
  have hzero : s.waiters ≠ [] → avail s.data = 0 := by
    intro hw
    obtain ⟨A, hcard, hA⟩ := h.units hw
    have hempty : A = ∅ := by
      refine Finset.eq_empty_of_forall_notMem fun u hu => ?_
      have hat := hA u hu
      have hh := hholds u
      cases hp : s.phase u with
      | locking op => exact hlock u op hp
      | inside op => rw [hp] at hh; cases hh
      | changing op read => rw [hp] at hh; cases hh
      | notifying => rw [hp] at hh; cases hh
      | leaving => rw [hp] at hh; cases hh
      | outside => rw [hp] at hat; exact hat
      | sleeping op => rw [hp] at hat; exact hat
    rw [hempty, Finset.card_empty] at hcard
    exact Nat.le_zero.mp hcard
  have hh := hholds t
  cases hp : s.phase t with
  | outside => exact Or.inl rfl
  | locking op => exact absurd hp (hlock t op)
  | inside op => rw [hp] at hh; cases hh
  | changing op read => rw [hp] at hh; cases hh
  | notifying => rw [hp] at hh; cases hh
  | leaving => rw [hp] at hh; cases hh
  | sleeping op =>
      have hunits := hzero (List.ne_nil_of_mem ((hok.waiter t).mpr ⟨op, hp⟩))
      refine Or.inr ⟨op, rfl, ?_, hunits⟩
      cases hg : M.guard op s.data with
      | false => rfl
      | true =>
          have htaken := hM.taken op s.data hg (h.patient t op hp)
          omega

omit [DecidableEq ο] in
/-- Two sums whose terms agree but for one. -/
theorem sum_add_of_agree {B : Finset θ} {f g : θ → ℕ} (ht : t ∈ B)
    (h : ∀ u ∈ B, u ≠ t → g u = f u) : ∑ u ∈ B, g u + f t = ∑ u ∈ B, f u + g t := by
  have hrest : ∑ u ∈ B.erase t, g u = ∑ u ∈ B.erase t, f u :=
    Finset.sum_congr rfl fun u hu => h u (Finset.mem_of_mem_erase hu) (Finset.ne_of_mem_erase hu)
  rw [← Finset.add_sum_erase B f ht, ← Finset.add_sum_erase B g ht, hrest]
  omega

/-- The internal steps a thread may still take, those of the thread it notifies included. -/
def Phase.weight (M : Interface δ ο) : Phase δ ο → ℕ
  | .outside | .sleeping _ => 0
  | .leaving => 1
  | .changing op _ => if M.notifies op then 7 else 2
  | .inside op => if M.notifies op then 8 else 3
  | .locking op => if M.notifies op then 9 else 4
  | .notifying => 6

def State.work (M : Interface δ ο) (B : Finset θ) (s : State θ δ ο) : ℕ :=
  ∑ t ∈ B, (s.phase t).weight M

omit [DecidableEq ο] in
theorem work_goto {B : Finset θ} (ht : t ∈ B) (p : Phase δ ο) :
    (s.goto t p).work M B + (s.phase t).weight M = s.work M B + p.weight M := by
  have hsum := sum_add_of_agree (f := fun u => (s.phase u).weight M)
    (g := fun u => ((s.goto t p).phase u).weight M) ht fun u _ hu => by rw [goto_of_ne s p hu]
  rw [goto_self] at hsum
  exact hsum

omit [DecidableEq ο] in
/-- A thread of `B` that goes on to a phase of less weight. -/
theorem work_lt_goto {B : Finset θ} (hB : ∀ u, u ∉ B → s.phase u = .outside) {p : Phase δ ο}
    (hp : s.phase t ≠ .outside) (hphase : s'.phase = (s.goto t p).phase)
    (hlt : p.weight M < (s.phase t).weight M) :
    (∀ u, u ∉ B → s'.phase u = .outside) ∧ s'.work M B < s.work M B := by
  have ht : t ∈ B := by
    by_contra ht
    exact hp (hB t ht)
  constructor
  · intro u hu
    have hne : u ≠ t := by
      rintro rfl
      exact hu ht
    rw [hphase, goto_of_ne s p hne]
    exact hB u hu
  · have hwork := work_goto (M := M) (s := s) ht p
    have hsame : s'.work M B = (s.goto t p).work M B := by
      simp only [State.work, hphase]
    omega

omit [DecidableEq ο] in
/-- A thread that is woken goes for the mutex. -/
theorem phase_wake {op : ο} (hw : s.phase w = .sleeping op) :
    (s.wake w).phase = (s.goto w (.locking op)).phase := by
  show Function.update s.phase w (s.phase w).wake = Function.update s.phase w (.locking op)
  rw [hw]
  rfl

omit [DecidableEq ο] in
/-- The notification is worth more than the steps of the thread that is woken. -/
theorem work_lt_notify {B : Finset θ} (h : s.Attended M avail) (hok : s.Ok M)
    (hB : ∀ u, u ∉ B → s.phase u = .outside) (hp : s.phase t = .notifying) (hw : w ∈ s.waiters) :
    (∀ u, u ∉ B → ((s.goto t .leaving).wake w).phase u = .outside) ∧
      ((s.goto t .leaving).wake w).work M B < s.work M B := by
  obtain ⟨op, hop⟩ := (hok.waiter w).mp hw
  have hin : ∀ {u : θ}, s.phase u ≠ .outside → u ∈ B := by
    intro u hu
    by_contra hout
    exact hu (hB u hout)
  have ht : t ∈ B := hin (by simp [hp])
  have hwB : w ∈ B := hin (by simp [hop])
  have hne : w ≠ t := by
    rintro rfl
    rw [hp] at hop
    cases hop
  have hgo : (s.goto t .leaving).phase w = .sleeping op := by
    rw [goto_of_ne s _ hne, hop]
  constructor
  · intro u hu
    have huw : u ≠ w := by
      rintro rfl
      exact hu hwB
    have hut : u ≠ t := by
      rintro rfl
      exact hu ht
    rw [wake_of_ne _ huw, goto_of_ne _ _ hut]
    exact hB u hu
  · have hwork := work_goto (M := M) (s := s) ht .leaving
    have hwoken := work_goto (M := M) (s := s.goto t .leaving) hwB (.locking op)
    have hsame : ((s.goto t .leaving).wake w).work M B =
        ((s.goto t .leaving).goto w (.locking op)).work M B := by
      simp only [State.work, phase_wake hgo]
    rw [hp] at hwork
    rw [hgo] at hwoken
    simp only [Phase.weight, h.patient w op hop, Bool.false_eq_true, if_false] at hwork hwoken
    omega

/-- An internal action leaves less work, all of it to threads that were in the monitor before. -/
theorem work_lt {B : Finset θ} (h : s.Attended M avail) (hok : s.Ok M)
    (hB : ∀ t, t ∉ B → s.phase t = .outside) {a : Action θ ο} (ha : a.Internal)
    (hs : step M s a = some s') :
    (∀ t, t ∉ B → s'.phase t = .outside) ∧ s'.work M B < s.work M B := by
  cases a with
  | call t op => exact ha.elim
  | spurious w => exact ha.elim
  | lock t =>
      obtain ⟨op, hp, -, rfl⟩ := lock_eq_some.mp hs
      refine work_lt_goto (p := .inside op) hB (by simp [hp]) rfl ?_
      rw [hp]
      simp only [Phase.weight]
      split <;> omega
  | wait t =>
      obtain ⟨op, hp, -, rfl⟩ := wait_eq_some.mp hs
      refine work_lt_goto (p := .sleeping op) hB (by simp [hp]) rfl ?_
      rw [hp]
      simp only [Phase.weight]
      split <;> omega
  | read t =>
      obtain ⟨op, hp, -, rfl⟩ := read_eq_some.mp hs
      refine work_lt_goto (p := .changing op s.data) hB (by simp [hp]) rfl ?_
      rw [hp]
      simp only [Phase.weight]
      split <;> omega
  | perform t op =>
      obtain ⟨read, hp, rfl⟩ := perform_eq_some.mp hs
      refine work_lt_goto (p := if M.notifies op then .notifying else .leaving) hB (by simp [hp])
        rfl ?_
      rw [hp]
      cases hn : M.notifies op with
      | false => simp [Phase.weight, hn]
      | true => simp [Phase.weight, hn]
  | notify t w =>
      cases w with
      | none =>
          obtain ⟨hp, -, rfl⟩ := notify_none_eq_some.mp hs
          refine work_lt_goto (p := .leaving) hB (by simp [hp]) rfl ?_
          rw [hp]
          simp only [Phase.weight]
          omega
      | some w =>
          obtain ⟨hp, hw, rfl⟩ := notify_some_eq_some.mp hs
          exact work_lt_notify h hok hB hp hw
  | unlock t =>
      obtain ⟨hp, rfl⟩ := unlock_eq_some.mp hs
      refine work_lt_goto (p := .outside) hB (by simp [hp]) rfl ?_
      rw [hp]
      simp only [Phase.weight]
      omega

/-- **Left alone, a monitor comes to rest**: the work there is bounds the internal actions. -/
theorem rest_bound (hM : Counted M avail) (hok : s.Ok M) (h : s.Attended M avail) {B : Finset θ}
    (hB : ∀ t, t ∉ B → s.phase t = .outside) {as : List (Action θ ο)}
    (has : ∀ a ∈ as, a.Internal) (hr : (system M d).run s as = some s') :
    as.length + s'.work M B ≤ s.work M B := by
  refine StepSystem.length_add_le_of_measure
    (I := fun v : State θ δ ο => (v.Ok M ∧ v.Attended M avail) ∧ ∀ t, t ∉ B → v.phase t = .outside)
    ?_ has ⟨⟨hok, h⟩, hB⟩ hr
  intro v a v' ha hv hs
  obtain ⟨⟨hok, h⟩, hB⟩ := hv
  obtain ⟨hB', hlt⟩ := work_lt h hok hB ha hs
  exact ⟨⟨⟨hok.step hs, hM.attended_step hok h hs⟩, hB'⟩, hlt⟩

end Attended

end Step

end Monitor

import Mathlib.Algebra.Order.BigOperators.Group.Finset
import TensorrtBackend.Lib.MonitorRest

/-!
# The semaphore

`Semaphore` is a monitor: `Acquire` waits on `cv_` for a positive `count_` and takes one from it,
`Release` adds one and notifies one waiter, both under `mtx_`.  Any number of threads call it in any
order, a notification may wake any waiter, and waiters may wake up for no reason.  `count_--` and
`count_++` read `count_` in one step and write it in another.

* `semaphore_counts`: `count_` is the initial count with the performed releases added and the
  performed acquires taken off, in the order in which their threads had `mtx_`; it never falls below
  zero, and every call is performed once.
* `semaphore_comes_to_rest`: left alone, the semaphore comes to rest, and who sleeps then sleeps at
  the count zero.
-/

namespace TensorrtBackend

inductive SemaphoreOp
  | acquire
  | release
  deriving DecidableEq

/-- `Semaphore::Acquire` and `Semaphore::Release` on `count_`. -/
def semaphore : Monitor.Interface ℤ SemaphoreOp where
  guard
    | .acquire, count => decide (0 < count)
    | .release, _ => true
  effect
    | .acquire, count => count - 1
    | .release, count => count + 1
  notifies
    | .acquire => false
    | .release => true

theorem semaphore_counted : Monitor.Counted semaphore Int.toNat where
  blocked op count h := by
    cases op with
    | acquire =>
        have hcount : ¬ 0 < count := of_decide_eq_false h
        omega
    | release => cases h
  taken op count h hn := by
    cases op with
    | acquire =>
        have hcount : 0 < count := of_decide_eq_true h
        show (count - 1).toNat + 1 ≤ count.toNat
        omega
    | release => cases hn
  given op count hn := by
    cases op with
    | acquire => cases hn
    | release =>
        show (count + 1).toNat ≤ count.toNat + 1
        omega
  eager op count hn := by
    cases op with
    | acquire => cases hn
    | release => rfl

/-! ### What the count is -/

/-- As atomic operations: the count never falls below zero and accounts for every one of them. -/
theorem atomic_semaphore_counts {c e : ℤ} {ops : List SemaphoreOp} (d : ℤ) (hc : 0 ≤ c)
    (hr : (Monitor.atomic semaphore d).run c ops = some e) :
    0 ≤ e ∧ e + ops.count .acquire = c + ops.count .release := by
  induction ops generalizing c with
  | nil =>
      obtain rfl := Option.some.inj hr
      exact ⟨hc, rfl⟩
  | cons op ops ih =>
      obtain ⟨u, hu, hrest⟩ := StepSystem.run_cons_eq_some.mp hr
      cases op with
      | acquire =>
          have hstep : (if 0 < c then some (c - 1) else none) = some u := by
            simpa [Monitor.atomic, semaphore] using hu
          obtain ⟨hpos, hu⟩ := Option.ite_none_right_eq_some.mp hstep
          obtain rfl := Option.some.inj hu
          obtain ⟨he, hsum⟩ := ih (by omega) hrest
          refine ⟨he, ?_⟩
          simp only [List.count_cons, beq_self_eq_true, if_true, reduceCtorEq, beq_iff_eq, if_false]
          push_cast
          omega
      | release =>
          obtain rfl : c + 1 = u := Option.some.inj hu
          obtain ⟨he, hsum⟩ := ih (by omega) hrest
          refine ⟨he, ?_⟩
          simp only [List.count_cons, beq_self_eq_true, if_true, reduceCtorEq, beq_iff_eq, if_false]
          push_cast
          omega

variable {θ : Type} [DecidableEq θ] {count : ℤ} {s t : Monitor.State θ ℤ SemaphoreOp}
  {as bs : List (Monitor.Action θ SemaphoreOp)}

/-- `count_` and the operations performed on it, whatever the threads do. -/
theorem semaphore_run_counts (hcount : 0 ≤ count)
    (hr : (Monitor.system semaphore count).run { data := count } as = some s) :
    0 ≤ s.data ∧
      s.data + (as.flatMap Monitor.Action.performed).count .acquire =
        count + (as.flatMap Monitor.Action.performed).count .release := by
  have hstep := (Monitor.ok_inductive (θ := θ) (M := semaphore) count).step
  have hatomic := Monitor.linearizes.run hstep (Monitor.State.Ok.initial count) hr
  exact atomic_semaphore_counts count hcount hatomic

/-- **Permits are neither lost nor made up.** Whatever threads call a semaphore built with a
non-negative count, in whatever order they get the mutex and wake up: `count_` stays non-negative;
it is the initial count with the performed releases added and the performed acquires taken off; each
thread has performed each of its calls once, but for one that is still under way; and what is done
under `mtx_` is one tenure of it after the other, in the order of which the performed operations
make `count_` what it is, each acquire at a positive count. -/
theorem semaphore_counts (hcount : 0 ≤ count)
    (hr : (Monitor.system semaphore count).run { data := count } as = some s) :
    0 ≤ s.data ∧
      s.data + (as.flatMap Monitor.Action.performed).count .acquire =
        count + (as.flatMap Monitor.Action.performed).count .release ∧
      (∀ (thread : θ) (op : SemaphoreOp),
        as.count (.call thread op) =
          as.count (.perform thread op) + if (s.phase thread).pending = some op then 1 else 0) ∧
      ∃ (done : List (Monitor.Tenure θ SemaphoreOp)) (begun : List (Monitor.Action θ SemaphoreOp)),
        as.filter Monitor.Action.locked = done.flatMap Monitor.Tenure.actions ++ begun ∧
          s.Begun begun ∧
          (Monitor.atomic semaphore count).run count (done.flatMap Monitor.Tenure.performed ++
            begun.flatMap Monitor.Action.performed) = some s.data := by
  obtain ⟨hnonneg, hsum⟩ := semaphore_run_counts hcount hr
  refine ⟨hnonneg, hsum, fun thread op => ?_, Monitor.performed_in_order hr⟩
  have honce := Monitor.performed_once hr thread op
  rw [show Monitor.State.owed { data := count } thread op = 0 from rfl] at honce
  exact honce

/-- One thread takes the only permit, and another one goes to sleep. -/
def sleepingSchedule : List (Monitor.Action Bool SemaphoreOp) :=
  [.call false .acquire, .call true .acquire, .lock false, .read false, .perform false .acquire,
    .unlock false, .lock true, .wait true]

/-- The first one releases the permit, and the other one is woken and takes it. -/
def handoverSchedule : List (Monitor.Action Bool SemaphoreOp) :=
  sleepingSchedule ++ [.call false .release, .lock false, .read false, .perform false .release,
    .notify false (some true), .unlock false, .lock true, .read true, .perform true .acquire]

/-- The theorem for the permit that is handed over. -/
theorem semaphore_counts_handover :
    ∃ s, (Monitor.system semaphore 1).run { data := 1 } handoverSchedule = some s ∧
      0 ≤ s.data ∧ s.data + 2 = 1 + 1 ∧
      handoverSchedule.count (.call true .acquire) = 1 ∧
      ∃ (done : List (Monitor.Tenure Bool SemaphoreOp))
        (begun : List (Monitor.Action Bool SemaphoreOp)),
        handoverSchedule.filter Monitor.Action.locked =
            done.flatMap Monitor.Tenure.actions ++ begun ∧
          s.Begun begun ∧
          (Monitor.atomic semaphore 1).run 1 (done.flatMap Monitor.Tenure.performed ++
            begun.flatMap Monitor.Action.performed) = some s.data := by
  obtain ⟨s, hs, hdone⟩ : ∃ s, (Monitor.system semaphore 1).run { data := 1 } handoverSchedule =
      some s ∧ (s.phase true).pending = none := ⟨_, rfl, rfl⟩
  obtain ⟨hnonneg, hsum, hcalls, horder⟩ := semaphore_counts (by decide) hs
  refine ⟨s, hs, hnonneg, hsum, ?_, horder⟩
  rw [hcalls true .acquire, hdone]
  decide

/-! ### Who sleeps -/

theorem weight_le (p : Monitor.Phase ℤ SemaphoreOp) : p.weight semaphore ≤ 9 := by
  cases p with
  | inside op => cases op <;> decide
  | locking op => cases op <;> decide
  | changing op read =>
      cases op with
      | acquire => exact show 2 ≤ 9 by decide
      | release => exact show 7 ≤ 9 by decide
  | outside => decide
  | sleeping op => exact Nat.zero_le 9
  | notifying => decide
  | leaving => decide

/-- **No wake-up is lost.** From every reachable state of a semaphore that was built with a
non-negative count and that the threads in `B` have entered: left alone, with no further calls and
no spurious wake-ups, it takes at most nine steps for each of them, and where it can take none every
thread is outside, or it sleeps in `Acquire` and `count_` is zero. -/
theorem semaphore_comes_to_rest (hcount : 0 ≤ count)
    (hs : (Monitor.system semaphore count).Reachable s) {B : Finset θ}
    (hB : ∀ thread, thread ∉ B → s.phase thread = .outside) :
    (∀ bs t, (∀ a ∈ bs, Monitor.Action.Internal a) →
        (Monitor.system semaphore count).run s bs = some t → bs.length ≤ 9 * B.card) ∧
      ((Monitor.system semaphore count).AtRest Monitor.Action.Internal s →
        ∀ thread, s.phase thread = .outside ∨
          (s.phase thread = .sleeping .acquire ∧ s.data = 0)) := by
  obtain ⟨hok, hatt⟩ := hs.of_inductive (Monitor.attended_inductive semaphore_counted)
  constructor
  · intro bs t hbs hr
    have hbound := Monitor.rest_bound semaphore_counted hok hatt hB hbs hr
    have hwork : s.work semaphore B ≤ B.card * 9 :=
      Finset.sum_le_card_nsmul B _ 9 fun thread _ => weight_le (s.phase thread)
    omega
  · intro hrest thread
    have hnonneg : 0 ≤ s.data := by
      obtain ⟨s₀, as, rfl, hr⟩ := hs
      exact (semaphore_run_counts hcount hr).1
    rcases Monitor.rest_blocked semaphore_counted hok hatt hrest thread with hout | ⟨op, hop, -, hz⟩
    · exact Or.inl hout
    · have hn := hatt.patient thread op hop
      cases op with
      | acquire => exact Or.inr ⟨hop, by omega⟩
      | release => cases hn

/-- The theorem for the thread that went to sleep, where the other one is outside: nobody can take a
step, and there is no permit. -/
theorem semaphore_comes_to_rest_sleeping :
    ∃ s, (Monitor.system semaphore 1).run { data := 1 } sleepingSchedule = some s ∧
      s.phase true = .sleeping .acquire ∧
      (Monitor.system semaphore 1).AtRest Monitor.Action.Internal s ∧
      (∀ bs t, (∀ a ∈ bs, Monitor.Action.Internal a) →
        (Monitor.system semaphore 1).run s bs = some t → bs.length ≤ 9 * 2) ∧
      ∀ thread, s.phase thread = .outside ∨ (s.phase thread = .sleeping .acquire ∧ s.data = 0) := by
  obtain ⟨s, hs, hout, hsleep⟩ : ∃ s, (Monitor.system semaphore 1).run { data := 1 }
      sleepingSchedule = some s ∧ s.phase false = .outside ∧ s.phase true = .sleeping .acquire :=
    ⟨_, rfl, rfl, rfl⟩
  have hreach : (Monitor.system semaphore 1).Reachable s := ⟨_, _, rfl, hs⟩
  have hB : ∀ thread, thread ∉ (Finset.univ : Finset Bool) → s.phase thread = .outside :=
    fun thread hthread => absurd (Finset.mem_univ thread) hthread
  have hrest : (Monitor.system semaphore 1).AtRest Monitor.Action.Internal s :=
    Monitor.atRest_of_blocked fun thread => by
      cases thread with
      | false => exact Or.inl hout
      | true => exact Or.inr ⟨.acquire, hsleep⟩
  have h := semaphore_comes_to_rest (by decide) hreach hB
  exact ⟨s, hs, hsleep, hrest, h.1, h.2 hrest⟩

end TensorrtBackend

import TensorrtBackend.Lib.Simulation

/-!
# Monitors

A class whose operations lock one mutex for their whole length, wait on one condition variable until
a guard holds, change the data, and may notify one waiter before they unlock.  The threads and the
data are arbitrary.  A wait releases the mutex and puts the thread among the waiters; it may be
woken by a notification or by nothing at all, locks again and tests its guard again.  The data is
read in one step and written in a later one, so it is the mutex that keeps two changes apart.

* `tenures_of_run`: what is done under the mutex is one whole tenure of it after the other.
* `linearizes`: what the operations do to the data is a run of the same operations as atomic ones.
* `performed_once`: a call that is over has performed its operation exactly once.
-/

namespace Monitor

variable {θ δ ο : Type*}

/-- What an operation waits for, what it does to the data, and whether it notifies one waiter. -/
structure Interface (δ ο : Type*) where
  guard : ο → δ → Bool
  effect : ο → δ → δ
  notifies : ο → Bool

/-- Where a thread is. -/
inductive Phase (δ ο : Type*)
  | outside
  /-- It waits for the mutex, on entry or after a wait. -/
  | locking (op : ο)
  /-- It holds the mutex and tests the guard next. -/
  | inside (op : ο)
  /-- In the wait, without the mutex. -/
  | sleeping (op : ο)
  /-- The guard held of the data it read; what the operation makes of them is written next. -/
  | changing (op : ο) (read : δ)
  /-- It has changed the data and holds the mutex; the notification comes next. -/
  | notifying
  /-- The unlock comes next. -/
  | leaving
  deriving DecidableEq

/-- The data, who holds the mutex, who waits on the condition variable, and where each thread is. -/
structure State (θ δ ο : Type*) where
  data : δ
  owner : Option θ := none
  waiters : List θ := []
  phase : θ → Phase δ ο := fun _ => .outside

inductive Action (θ ο : Type*)
  | call (t : θ) (op : ο)
  | lock (t : θ)
  /-- The guard does not hold. -/
  | wait (t : θ)
  /-- The guard holds of the data read. -/
  | read (t : θ)
  /-- The changed data is written. -/
  | perform (t : θ) (op : ο)
  /-- `notify_one`: it wakes `w` if anyone waits. -/
  | notify (t : θ) (w : Option θ)
  | unlock (t : θ)
  /-- A waiter wakes up for no reason. -/
  | spurious (w : θ)
  deriving DecidableEq

/-- A woken thread has to lock the mutex again. -/
def Phase.wake : Phase δ ο → Phase δ ο
  | .sleeping op => .locking op
  | p => p

/-- The operation that a thread has called and not yet performed. -/
def Phase.pending : Phase δ ο → Option ο
  | .locking op | .inside op | .sleeping op | .changing op _ => some op
  | _ => none

def Phase.holds : Phase δ ο → Bool
  | .inside _ | .changing _ _ | .notifying | .leaving => true
  | _ => false

section Step

variable [DecidableEq θ]

def State.goto (s : State θ δ ο) (t : θ) (p : Phase δ ο) : State θ δ ο :=
  { s with phase := Function.update s.phase t p }

def State.wake (s : State θ δ ο) (w : θ) : State θ δ ο :=
  { s with
    waiters := s.waiters.filter fun u => u ≠ w
    phase := Function.update s.phase w (s.phase w).wake }

section

variable {s : State θ δ ο} {t u w : θ}

@[simp] theorem goto_self (s : State θ δ ο) (t : θ) (p : Phase δ ο) :
    (s.goto t p).phase t = p := by
  show Function.update s.phase t p t = p
  exact Function.update_self _ _ _

theorem goto_of_ne (s : State θ δ ο) (p : Phase δ ο) (h : u ≠ t) :
    (s.goto t p).phase u = s.phase u := by
  show Function.update s.phase t p u = s.phase u
  exact Function.update_of_ne h _ _

theorem wake_self (s : State θ δ ο) (w : θ) : (s.wake w).phase w = (s.phase w).wake :=
  Function.update_self w _ s.phase

theorem wake_of_ne (s : State θ δ ο) (h : u ≠ w) : (s.wake w).phase u = s.phase u :=
  Function.update_of_ne h _ s.phase

end

variable [DecidableEq ο]

/-- One step; `none` when it is blocked or not enabled. -/
def step (M : Interface δ ο) (s : State θ δ ο) : Action θ ο → Option (State θ δ ο)
  | .call t op =>
      match s.phase t with
      | .outside => some (s.goto t (.locking op))
      | _ => none
  | .lock t =>
      match s.phase t, s.owner with
      | .locking op, none => some { s.goto t (.inside op) with owner := some t }
      | _, _ => none
  | .wait t =>
      match s.phase t with
      | .inside op =>
          if M.guard op s.data then none
          else some { s.goto t (.sleeping op) with owner := none, waiters := s.waiters ++ [t] }
      | _ => none
  | .read t =>
      match s.phase t with
      | .inside op => if M.guard op s.data then some (s.goto t (.changing op s.data)) else none
      | _ => none
  | .perform t op =>
      match s.phase t with
      | .changing op' read =>
          if op' = op then
            some { s.goto t (if M.notifies op then .notifying else .leaving) with
              data := M.effect op read }
          else none
      | _ => none
  | .notify t none =>
      match s.phase t, s.waiters with
      | .notifying, [] => some (s.goto t .leaving)
      | _, _ => none
  | .notify t (some w) =>
      match s.phase t with
      | .notifying => if w ∈ s.waiters then some ((s.goto t .leaving).wake w) else none
      | _ => none
  | .unlock t =>
      match s.phase t with
      | .leaving => some { s.goto t .outside with owner := none }
      | _ => none
  | .spurious w => if w ∈ s.waiters then some (s.wake w) else none

/-- The monitor, built with the data `d`. -/
def system (M : Interface δ ο) (d : δ) : StepSystem (State θ δ ο) (Action θ ο) where
  init s := s = { data := d }
  step := step M

/-- The same operations, each in one step that is blocked while its guard does not hold. -/
def atomic (M : Interface δ ο) (d : δ) : StepSystem δ ο where
  init e := e = d
  step e op := if M.guard op e then some (M.effect op e) else none

variable {M : Interface δ ο} {s s' : State θ δ ο} {t u w : θ} {op : ο} {d : δ}

/-! ### What each step does -/

theorem call_eq_some :
    step M s (.call t op) = some s' ↔ s.phase t = .outside ∧ s.goto t (.locking op) = s' := by
  rw [step]
  cases s.phase t <;> simp

theorem lock_eq_some : step M s (.lock t) = some s' ↔ ∃ op, s.phase t = .locking op ∧
    s.owner = none ∧ { s.goto t (.inside op) with owner := some t } = s' := by
  rw [step]
  cases s.phase t <;> cases s.owner <;> simp

theorem wait_eq_some : step M s (.wait t) = some s' ↔ ∃ op, s.phase t = .inside op ∧
    M.guard op s.data = false ∧
    { s.goto t (.sleeping op) with owner := none, waiters := s.waiters ++ [t] } = s' := by
  rw [step]
  cases s.phase t <;> simp

theorem read_eq_some : step M s (.read t) = some s' ↔ ∃ op, s.phase t = .inside op ∧
    M.guard op s.data = true ∧ s.goto t (.changing op s.data) = s' := by
  rw [step]
  cases s.phase t <;> simp

theorem perform_eq_some : step M s (.perform t op) = some s' ↔ ∃ read,
    s.phase t = .changing op read ∧ { s.goto t (if M.notifies op then .notifying else .leaving) with
      data := M.effect op read } = s' := by
  rw [step]
  cases s.phase t <;> simp [and_assoc]

theorem notify_none_eq_some : step M s (.notify t none) = some s' ↔ s.phase t = .notifying ∧
    s.waiters = [] ∧ s.goto t .leaving = s' := by
  rw [step]
  cases s.phase t <;> cases s.waiters <;> simp

theorem notify_some_eq_some : step M s (.notify t (some w)) = some s' ↔ s.phase t = .notifying ∧
    w ∈ s.waiters ∧ (s.goto t .leaving).wake w = s' := by
  rw [step]
  cases s.phase t <;> simp

theorem unlock_eq_some : step M s (.unlock t) = some s' ↔ s.phase t = .leaving ∧
    { s.goto t .outside with owner := none } = s' := by
  rw [step]
  cases s.phase t <;> simp

theorem spurious_eq_some : step M s (.spurious w) = some s' ↔ w ∈ s.waiters ∧ s.wake w = s' := by
  simp [step]

/-! ### Mutual exclusion -/

/-- The mutex is held by the one thread that is inside, the waiters are the threads that sleep, and
what a thread has read is still the data. -/
structure State.Ok (M : Interface δ ο) (s : State θ δ ο) : Prop where
  holder : ∀ t, (s.phase t).holds = true ↔ s.owner = some t
  waiter : ∀ t, t ∈ s.waiters ↔ ∃ op, s.phase t = .sleeping op
  current : ∀ t op read, s.phase t = .changing op read → read = s.data ∧ M.guard op read = true

omit [DecidableEq θ] [DecidableEq ο] in
theorem State.Ok.initial (d : δ) : State.Ok M ({ data := d } : State θ δ ο) := by
  refine ⟨fun t => ?_, fun t => ?_, fun t op read h => ?_⟩
  · simp [Phase.holds]
  · simp
  · cases h

omit [DecidableEq ο] in
/-- A thread goes from a phase without the mutex to one without it, or from one with it to one with
it, and does not sleep in either. -/
theorem State.Ok.goto (h : s.Ok M) {p : Phase δ ο} (hold : (s.phase t).holds = p.holds)
    (hawake : ∀ op, s.phase t ≠ .sleeping op) (hp : ∀ op, p ≠ .sleeping op)
    (hread : ∀ op read, p = .changing op read → read = s.data ∧ M.guard op read = true) :
    (s.goto t p).Ok M := by
  refine ⟨fun u => ?_, fun u => ?_, fun u op read hu => ?_⟩
  · by_cases hu : u = t
    · subst hu
      rw [goto_self, ← hold]
      exact h.holder u
    · rw [goto_of_ne s p hu]
      exact h.holder u
  · by_cases hu : u = t
    · subst hu
      rw [goto_self]
      refine (h.waiter u).trans ⟨?_, ?_⟩
      · rintro ⟨op, hop⟩
        exact absurd hop (hawake op)
      · rintro ⟨op, hop⟩
        exact absurd hop (hp op)
    · rw [goto_of_ne s p hu]
      exact h.waiter u
  · by_cases hut : u = t
    · subst hut
      rw [goto_self] at hu
      exact hread op read hu
    · rw [goto_of_ne s p hut] at hu
      exact h.current u op read hu

omit [DecidableEq ο] in
theorem State.Ok.wake (h : s.Ok M) (hw : w ∈ s.waiters) : (s.wake w).Ok M := by
  obtain ⟨op, hop⟩ := (h.waiter w).mp hw
  refine ⟨fun u => ?_, fun u => ?_, fun u op' read hu => ?_⟩
  · by_cases hu : u = w
    · subst hu
      have hold := h.holder u
      rw [hop] at hold
      rw [wake_self, hop]
      exact hold
    · rw [wake_of_ne s hu]
      exact h.holder u
  · show u ∈ s.waiters.filter (fun v => v ≠ w) ↔ _
    rw [List.mem_filter, decide_eq_true_eq]
    by_cases hu : u = w
    · subst hu
      rw [wake_self, hop]
      simp [Phase.wake]
    · rw [wake_of_ne s hu, h.waiter u, and_iff_left hu]
  · by_cases huw : u = w
    · subst huw
      rw [wake_self, hop] at hu
      cases hu
    · rw [wake_of_ne s huw] at hu
      exact h.current u op' read hu

omit [DecidableEq θ] [DecidableEq ο] in
/-- Who is inside holds the mutex, and nobody else does. -/
theorem State.Ok.eq_of_holds (h : s.Ok M) (ht : (s.phase t).holds = true)
    (hu : (s.phase u).holds = true) : u = t := by
  have ht' := (h.holder t).mp ht
  rw [(h.holder u).mp hu] at ht'
  exact Option.some.inj ht'

omit [DecidableEq ο] in
/-- The holder of the mutex gives it up and nobody else is inside. -/
theorem State.Ok.goto_free (h : s.Ok M) (ht : (s.phase t).holds = true) {p : Phase δ ο}
    (hp : p.holds = false) (u : θ) : ((s.goto t p).phase u).holds = false := by
  by_cases hu : u = t
  · subst hu
    rw [goto_self, hp]
  · have hout : (s.phase u).holds ≠ true := fun hold => hu (h.eq_of_holds ht hold)
    rw [goto_of_ne s p hu]
    simpa using hout

omit [DecidableEq θ] [DecidableEq ο] in
/-- With nobody inside nobody has read the data. -/
theorem current_of_free (h : ∀ u, (s.phase u).holds = false) (t : θ) (op : ο) (read : δ)
    (ht : s.phase t = .changing op read) : read = s.data ∧ M.guard op read = true := by
  have hfree := h t
  rw [ht] at hfree
  cases hfree

omit [DecidableEq θ] [DecidableEq ο] in
/-- Nobody is inside while nobody has the mutex. -/
theorem State.Ok.free (h : s.Ok M) (ho : s.owner = none) (u : θ) : (s.phase u).holds = false := by
  have hu := h.holder u
  rw [ho] at hu
  simpa using hu

omit [DecidableEq ο] in
/-- A thread gets the mutex. -/
theorem State.Ok.lock (h : s.Ok M) {op : ο} (hp : s.phase t = .locking op) (ho : s.owner = none) :
    ({ s.goto t (.inside op) with owner := some t } : State θ δ ο).Ok M := by
  refine ⟨fun u => ?_, fun u => ?_, fun u op' read hu => ?_⟩
  · show ((s.goto t (.inside op)).phase u).holds = true ↔ some t = some u
    by_cases hu : u = t
    · subst hu
      simp [Phase.holds]
    · rw [goto_of_ne s _ hu, h.free ho u]
      simp [Ne.symm hu]
  · show u ∈ s.waiters ↔ ∃ op', (s.goto t (.inside op)).phase u = .sleeping op'
    by_cases hu : u = t
    · subst hu
      rw [h.waiter u, hp]
      simp
    · rw [goto_of_ne s _ hu]
      exact h.waiter u
  · have hu : (s.goto t (.inside op)).phase u = .changing op' read := hu
    by_cases hut : u = t
    · subst hut
      rw [goto_self] at hu
      cases hu
    · rw [goto_of_ne s _ hut] at hu
      exact h.current u op' read hu

omit [DecidableEq ο] in
/-- The holder of the mutex goes to sleep without it. -/
theorem State.Ok.wait (h : s.Ok M) {op : ο} (hp : s.phase t = .inside op) :
    ({ s.goto t (.sleeping op) with owner := none, waiters := s.waiters ++ [t] } :
      State θ δ ο).Ok M := by
  have hfree := h.goto_free (p := .sleeping op) (t := t) (by rw [hp]; rfl) rfl
  refine ⟨fun u => ?_, fun u => ?_, current_of_free hfree⟩
  · show ((s.goto t (.sleeping op)).phase u).holds = true ↔ none = some u
    rw [hfree u]
    simp
  · show u ∈ s.waiters ++ [t] ↔ ∃ op', (s.goto t (.sleeping op)).phase u = .sleeping op'
    by_cases hu : u = t
    · subst hu
      simp
    · rw [goto_of_ne s _ hu, List.mem_append, h.waiter u]
      simp [hu]

omit [DecidableEq ο] in
/-- The data is changed.  Nobody but its thread had read it. -/
theorem State.Ok.change (h : s.Ok M) {op : ο} {read : δ} (hp : s.phase t = .changing op read) :
    ({ s.goto t (if M.notifies op then .notifying else .leaving) with
      data := M.effect op read } : State θ δ ο).Ok M := by
  have hgo : (s.goto t (if M.notifies op then .notifying else .leaving)).Ok M := by
    refine h.goto ?_ (by simp [hp]) ?_ ?_
    · rw [hp]
      split <;> rfl
    · intro op'
      split <;> simp
    · intro op' read' hread
      split at hread <;> cases hread
  refine ⟨hgo.holder, hgo.waiter, fun u op' read' hu => ?_⟩
  have hu : (s.goto t (if M.notifies op then .notifying else .leaving)).phase u =
      .changing op' read' := hu
  by_cases hut : u = t
  · subst hut
    rw [goto_self] at hu
    split at hu <;> cases hu
  · rw [goto_of_ne s _ hut] at hu
    exact absurd (h.eq_of_holds (t := t) (by rw [hp]; rfl) (by rw [hu]; rfl)) hut

omit [DecidableEq ο] in
/-- The holder of the mutex gives it back. -/
theorem State.Ok.unlock (h : s.Ok M) (hp : s.phase t = .leaving) :
    ({ s.goto t .outside with owner := none } : State θ δ ο).Ok M := by
  have hfree := h.goto_free (p := .outside) (t := t) (by rw [hp]; rfl) rfl
  refine ⟨fun u => ?_, fun u => ?_, current_of_free hfree⟩
  · show ((s.goto t .outside).phase u).holds = true ↔ none = some u
    rw [hfree u]
    simp
  · show u ∈ s.waiters ↔ ∃ op', (s.goto t .outside).phase u = .sleeping op'
    by_cases hu : u = t
    · subst hu
      rw [h.waiter u, hp]
      simp
    · rw [goto_of_ne s _ hu]
      exact h.waiter u

theorem State.Ok.step (h : s.Ok M) {a : Action θ ο} (hs : Monitor.step M s a = some s') :
    s'.Ok M := by
  cases a with
  | call t op =>
      obtain ⟨hp, rfl⟩ := call_eq_some.mp hs
      exact h.goto (by rw [hp]; rfl) (by simp [hp]) (by simp) (by simp)
  | lock t =>
      obtain ⟨op, hp, ho, rfl⟩ := lock_eq_some.mp hs
      exact h.lock hp ho
  | wait t =>
      obtain ⟨op, hp, -, rfl⟩ := wait_eq_some.mp hs
      exact h.wait hp
  | read t =>
      obtain ⟨op, hp, hg, rfl⟩ := read_eq_some.mp hs
      refine h.goto (by rw [hp]; rfl) (by simp [hp]) (by simp) ?_
      intro op' read hread
      cases hread
      exact ⟨rfl, hg⟩
  | perform t op =>
      obtain ⟨read, hp, rfl⟩ := perform_eq_some.mp hs
      exact h.change hp
  | notify t w =>
      cases w with
      | none =>
          obtain ⟨hp, -, rfl⟩ := notify_none_eq_some.mp hs
          exact h.goto (by rw [hp]; rfl) (by simp [hp]) (by simp) (by simp)
      | some w =>
          obtain ⟨hp, hw, rfl⟩ := notify_some_eq_some.mp hs
          have hgo : (s.goto t .leaving).Ok M :=
            h.goto (by rw [hp]; rfl) (by simp [hp]) (by simp) (by simp)
          exact hgo.wake hw
  | unlock t =>
      obtain ⟨hp, rfl⟩ := unlock_eq_some.mp hs
      exact h.unlock hp
  | spurious w =>
      obtain ⟨hw, rfl⟩ := spurious_eq_some.mp hs
      exact h.wake hw

/-! ### Tenures of the mutex -/

/-- Whether an action is taken by a thread that gets or has the mutex. -/
def Action.locked : Action θ ο → Bool
  | .call _ _ | .spurious _ => false
  | _ => true

/-- What a thread does from a lock of the mutex to the release of it: it finds that the guard does
not hold and waits, or it performs its operation and may notify. -/
inductive Tenure (θ ο : Type*)
  | waits (t : θ)
  | performs (t : θ) (op : ο) (notification : Option (Option θ))

def Tenure.actions : Tenure θ ο → List (Action θ ο)
  | .waits t => [.lock t, .wait t]
  | .performs t op none => [.lock t, .read t, .perform t op, .unlock t]
  | .performs t op (some w) => [.lock t, .read t, .perform t op, .notify t w, .unlock t]

/-- What a thread in a phase has done since it locked the mutex. -/
inductive Phase.Begun (t : θ) : Phase δ ο → List (Action θ ο) → Prop
  | inside (op : ο) : Begun t (.inside op) [.lock t]
  | changing (op : ο) (read : δ) : Begun t (.changing op read) [.lock t, .read t]
  | notifying (op : ο) : Begun t .notifying [.lock t, .read t, .perform t op]
  | silent (op : ο) : Begun t .leaving [.lock t, .read t, .perform t op]
  | notified (op : ο) (w : Option θ) :
      Begun t .leaving [.lock t, .read t, .perform t op, .notify t w]

/-- What the holder of the mutex has done since it locked it. -/
def State.Begun (s : State θ δ ο) (as : List (Action θ ο)) : Prop :=
  match s.owner with
  | none => as = []
  | some t => (s.phase t).Begun t as

section

variable {as : List (Action θ ο)}

omit [DecidableEq θ] [DecidableEq ο] in
theorem begun_of_owner (h : s.owner = some t) : s.Begun as ↔ (s.phase t).Begun t as := by
  rw [State.Begun, h]

omit [DecidableEq θ] [DecidableEq ο] in
theorem begun_of_free (h : s.owner = none) : s.Begun as ↔ as = [] := by
  rw [State.Begun, h]

omit [DecidableEq θ] [DecidableEq ο] in
/-- What the thread that is inside has done. -/
theorem State.Begun.of_holds (h : s.Begun as) (hok : s.Ok M) (ht : (s.phase t).holds = true) :
    s.owner = some t ∧ (s.phase t).Begun t as := by
  have ho := (hok.holder t).mp ht
  exact ⟨ho, (begun_of_owner ho).mp h⟩

omit [DecidableEq θ] [DecidableEq ο] in
theorem State.Begun.intro (ho : s.owner = some t) (h : (s.phase t).Begun t as) : s.Begun as :=
  (begun_of_owner ho).mpr h

omit [DecidableEq θ] [DecidableEq ο] in
/-- The others change nothing in what the holder has done. -/
theorem State.Begun.congr (h : s.Begun as) (ho : s'.owner = s.owner)
    (hp : ∀ u, s.owner = some u → s'.phase u = s.phase u) : s'.Begun as := by
  cases hs : s.owner with
  | none => exact (begun_of_free (ho.trans hs)).mpr ((begun_of_free hs).mp h)
  | some u =>
      refine (begun_of_owner (ho.trans hs)).mpr ?_
      rw [hp u hs]
      exact (begun_of_owner hs).mp h

/-- A step goes on with the tenure under way, ends it, or is taken by a thread without the mutex. -/
theorem begun_step (hok : s.Ok M) (h : s.Begun as) {a : Action θ ο}
    (hs : step M s a = some s') :
    (a.locked = false ∧ s'.Begun as) ∨ a.locked = true ∧ (s'.Begun (as ++ [a]) ∨
      (s'.Begun [] ∧ ∃ tenure : Tenure θ ο, as ++ [a] = tenure.actions)) := by
  cases a with
  | call t op =>
      obtain ⟨hp, rfl⟩ := call_eq_some.mp hs
      refine Or.inl ⟨rfl, h.congr rfl fun u hu => goto_of_ne s _ ?_⟩
      rintro rfl
      have hold := (hok.holder u).mpr hu
      rw [hp] at hold
      cases hold
  | spurious w =>
      obtain ⟨hw, rfl⟩ := spurious_eq_some.mp hs
      obtain ⟨op, hop⟩ := (hok.waiter w).mp hw
      refine Or.inl ⟨rfl, h.congr rfl fun u hu => wake_of_ne s ?_⟩
      rintro rfl
      have hold := (hok.holder u).mpr hu
      rw [hop] at hold
      cases hold
  | lock t =>
      obtain ⟨op, hp, ho, rfl⟩ := lock_eq_some.mp hs
      obtain rfl := (begun_of_free ho).mp h
      refine Or.inr ⟨rfl, Or.inl (State.Begun.intro rfl ?_)⟩
      show ((s.goto t (.inside op)).phase t).Begun t [.lock t]
      rw [goto_self]
      exact Phase.Begun.inside op
  | wait t =>
      obtain ⟨op, hp, -, rfl⟩ := wait_eq_some.mp hs
      have hbegun := (h.of_holds hok (by rw [hp]; rfl)).2
      rw [hp] at hbegun
      cases hbegun
      exact Or.inr ⟨rfl, Or.inr ⟨(begun_of_free rfl).mpr rfl, .waits t, rfl⟩⟩
  | read t =>
      obtain ⟨op, hp, -, rfl⟩ := read_eq_some.mp hs
      obtain ⟨ho, hbegun⟩ := h.of_holds hok (t := t) (by rw [hp]; rfl)
      rw [hp] at hbegun
      cases hbegun
      refine Or.inr ⟨rfl, Or.inl (State.Begun.intro ho ?_)⟩
      rw [goto_self]
      exact Phase.Begun.changing op s.data
  | perform t op =>
      obtain ⟨read, hp, rfl⟩ := perform_eq_some.mp hs
      obtain ⟨ho, hbegun⟩ := h.of_holds hok (t := t) (by rw [hp]; rfl)
      rw [hp] at hbegun
      cases hbegun
      refine Or.inr ⟨rfl, Or.inl (State.Begun.intro (t := t) ho ?_)⟩
      show ((s.goto t _).phase t).Begun t _
      rw [goto_self]
      split
      · exact Phase.Begun.notifying op
      · exact Phase.Begun.silent op
  | notify t w =>
      cases w with
      | none =>
          obtain ⟨hp, -, rfl⟩ := notify_none_eq_some.mp hs
          obtain ⟨ho, hbegun⟩ := h.of_holds hok (t := t) (by rw [hp]; rfl)
          rw [hp] at hbegun
          cases hbegun with
          | notifying op =>
              refine Or.inr ⟨rfl, Or.inl (State.Begun.intro ho ?_)⟩
              rw [goto_self]
              exact Phase.Begun.notified op none
      | some w =>
          obtain ⟨hp, hw, rfl⟩ := notify_some_eq_some.mp hs
          obtain ⟨ho, hbegun⟩ := h.of_holds hok (t := t) (by rw [hp]; rfl)
          obtain ⟨op', hop⟩ := (hok.waiter w).mp hw
          have hne : t ≠ w := by
            rintro rfl
            rw [hp] at hop
            cases hop
          rw [hp] at hbegun
          cases hbegun with
          | notifying op =>
              refine Or.inr ⟨rfl, Or.inl (State.Begun.intro ho ?_)⟩
              rw [wake_of_ne _ hne, goto_self]
              exact Phase.Begun.notified op (some w)
  | unlock t =>
      obtain ⟨hp, rfl⟩ := unlock_eq_some.mp hs
      have hbegun := (h.of_holds hok (by rw [hp]; rfl)).2
      rw [hp] at hbegun
      have hnone : ({ s.goto t .outside with owner := none } : State θ δ ο).Begun [] :=
        (begun_of_free rfl).mpr rfl
      cases hbegun with
      | silent op => exact Or.inr ⟨rfl, Or.inr ⟨hnone, .performs t op none, rfl⟩⟩
      | notified op w => exact Or.inr ⟨rfl, Or.inr ⟨hnone, .performs t op (some w), rfl⟩⟩

theorem ok_inductive (d : δ) :
    (system M d : StepSystem (State θ δ ο) (Action θ ο)).Inductive (State.Ok M) where
  init s hs := by
    obtain rfl : s = { data := d } := hs
    exact State.Ok.initial d
  step _ _ _ h hs := h.step hs

/-- **Mutual exclusion.** What a run does under the mutex is one whole tenure of it after the other,
and at the end what the holder has done since it locked it. -/
theorem tenures_of_run (hr : (system M d).run { data := d } as = some s) :
    ∃ (done : List (Tenure θ ο)) (begun : List (Action θ ο)),
      as.filter Action.locked = done.flatMap Tenure.actions ++ begun ∧ s.Begun begun := by
  induction as using List.reverseRecOn generalizing s with
  | nil =>
      obtain rfl := Option.some.inj hr
      exact ⟨[], [], rfl, (begun_of_free rfl).mpr rfl⟩
  | append_singleton as a ih =>
      obtain ⟨v, hv, hr⟩ := StepSystem.run_append_eq_some.mp hr
      obtain ⟨w, hw, hr⟩ := StepSystem.run_cons_eq_some.mp hr
      obtain rfl := Option.some.inj hr
      obtain ⟨done, begun, hlocked, hbegun⟩ := ih hv
      have hreach : (system M d).Reachable v := ⟨_, as, rfl, hv⟩
      have hok : v.Ok M := hreach.of_inductive (ok_inductive d)
      rw [List.filter_append, hlocked]
      rcases begun_step hok hbegun hw with ⟨ha, hsame⟩ | ⟨ha, hmore | ⟨hnone, tenure, hend⟩⟩
      · exact ⟨done, begun, by simp [ha], hsame⟩
      · exact ⟨done, begun ++ [a], by simp [ha], hmore⟩
      · refine ⟨done ++ [tenure], [], ?_, hnone⟩
        rw [List.flatMap_append, List.flatMap_singleton, ← hend]
        simp [ha]

end

/-! ### The operations as atomic ones -/

/-- The operation an action performs. -/
def Action.performed : Action θ ο → List ο
  | .perform _ op => [op]
  | _ => []

/-- The operation of a tenure. -/
def Tenure.performed : Tenure θ ο → List ο
  | .waits _ => []
  | .performs _ op _ => [op]

omit [DecidableEq θ] [DecidableEq ο] in
/-- What a run performs is what is performed under the mutex. -/
theorem performed_filter_locked (as : List (Action θ ο)) :
    (as.filter Action.locked).flatMap Action.performed = as.flatMap Action.performed := by
  induction as with
  | nil => rfl
  | cons a as ih =>
      rw [List.filter_cons, List.flatMap_cons]
      split
      · rw [List.flatMap_cons, ih]
      · cases a with
        | perform t op => exact absurd rfl ‹_›
        | _ => exact ih

omit [DecidableEq θ] [DecidableEq ο] in
theorem performed_tenures (tenures : List (Tenure θ ο)) :
    (tenures.flatMap Tenure.actions).flatMap Action.performed =
      tenures.flatMap Tenure.performed := by
  induction tenures with
  | nil => rfl
  | cons tenure tenures ih =>
      rw [List.flatMap_cons, List.flatMap_append, ih, List.flatMap_cons]
      congr 1
      cases tenure with
      | waits t => rfl
      | performs t op notification => cases notification <;> rfl

/-- **Linearization**: the data goes through the performed operations as if each were one step. -/
theorem linearizes : (system M d : StepSystem (State θ δ ο) (Action θ ο)).Simulation (atomic M d)
    (State.Ok M) State.data Action.performed where
  init s hs := by
    obtain rfl : s = { data := d } := hs
    exact rfl
  step s a s' hok hs := by
    change Monitor.step M s a = some s' at hs
    cases a with
    | call t op =>
        obtain ⟨-, rfl⟩ := call_eq_some.mp hs
        rfl
    | lock t =>
        obtain ⟨op, -, -, rfl⟩ := lock_eq_some.mp hs
        rfl
    | wait t =>
        obtain ⟨op, -, -, rfl⟩ := wait_eq_some.mp hs
        rfl
    | read t =>
        obtain ⟨op, -, -, rfl⟩ := read_eq_some.mp hs
        rfl
    | perform t op =>
        obtain ⟨read, hp, rfl⟩ := perform_eq_some.mp hs
        obtain ⟨rfl, hg⟩ := hok.current t op read hp
        show ((if M.guard op s.data then some (M.effect op s.data) else none).bind some) = _
        rw [if_pos hg]
        rfl
    | notify t w =>
        cases w with
        | none =>
            obtain ⟨-, -, rfl⟩ := notify_none_eq_some.mp hs
            rfl
        | some w =>
            obtain ⟨-, -, rfl⟩ := notify_some_eq_some.mp hs
            rfl
    | unlock t =>
        obtain ⟨-, rfl⟩ := unlock_eq_some.mp hs
        rfl
    | spurious w =>
        obtain ⟨-, rfl⟩ := spurious_eq_some.mp hs
        rfl

/-- The data is what the operations make of it in the order of the tenures in which they are
performed. -/
theorem performed_in_order {as : List (Action θ ο)}
    (hr : (system M d).run { data := d } as = some s) :
    ∃ (done : List (Tenure θ ο)) (begun : List (Action θ ο)),
      as.filter Action.locked = done.flatMap Tenure.actions ++ begun ∧ s.Begun begun ∧
        (atomic M d).run d (done.flatMap Tenure.performed ++ begun.flatMap Action.performed) =
          some s.data := by
  obtain ⟨done, begun, hlocked, hbegun⟩ := tenures_of_run hr
  refine ⟨done, begun, hlocked, hbegun, ?_⟩
  have hatomic := linearizes.run (fun _ _ _ h hs => State.Ok.step h hs) (State.Ok.initial d) hr
  rw [← performed_filter_locked, hlocked, List.flatMap_append, performed_tenures] at hatomic
  exact hatomic

/-! ### A call performs its operation once -/

omit [DecidableEq ο] in
theorem pending_goto {p : Phase δ ο} (h : p.pending = (s.phase t).pending) (u : θ) :
    ((s.goto t p).phase u).pending = (s.phase u).pending := by
  by_cases hu : u = t
  · subst hu
    rw [goto_self, h]
  · rw [goto_of_ne s p hu]

omit [DecidableEq ο] in
theorem pending_wake (s : State θ δ ο) (w u : θ) :
    ((s.wake w).phase u).pending = (s.phase u).pending := by
  by_cases hu : u = w
  · subst hu
    rw [wake_self]
    cases s.phase u <;> rfl
  · rw [wake_of_ne s hu]

/-- An action that neither calls nor performs leaves the data and what is pending as they are. -/
theorem quiet_step {a : Action θ ο} (hs : step M s a = some s') (hcall : ∀ u op, a ≠ .call u op)
    (hperform : ∀ u op, a ≠ .perform u op) :
    s'.data = s.data ∧ ∀ u, (s'.phase u).pending = (s.phase u).pending := by
  cases a with
  | call t op => exact absurd rfl (hcall t op)
  | perform t op => exact absurd rfl (hperform t op)
  | lock t =>
      obtain ⟨op, hp, -, rfl⟩ := lock_eq_some.mp hs
      exact ⟨rfl, pending_goto (by rw [hp]; rfl)⟩
  | wait t =>
      obtain ⟨op, hp, -, rfl⟩ := wait_eq_some.mp hs
      exact ⟨rfl, pending_goto (by rw [hp]; rfl)⟩
  | read t =>
      obtain ⟨op, hp, -, rfl⟩ := read_eq_some.mp hs
      exact ⟨rfl, pending_goto (by rw [hp]; rfl)⟩
  | notify t w =>
      cases w with
      | none =>
          obtain ⟨hp, -, rfl⟩ := notify_none_eq_some.mp hs
          exact ⟨rfl, pending_goto (by rw [hp]; rfl)⟩
      | some w =>
          obtain ⟨hp, -, rfl⟩ := notify_some_eq_some.mp hs
          refine ⟨rfl, fun u => ?_⟩
          rw [pending_wake]
          exact pending_goto (by rw [hp]; rfl) u
  | unlock t =>
      obtain ⟨hp, rfl⟩ := unlock_eq_some.mp hs
      exact ⟨rfl, pending_goto (by rw [hp]; rfl)⟩
  | spurious w =>
      obtain ⟨-, rfl⟩ := spurious_eq_some.mp hs
      exact ⟨rfl, pending_wake s w⟩

/-- What is performed is pending before and not after; the other threads stay where they are. -/
theorem pending_perform (hs : step M s (.perform t op) = some s') : (s.phase t).pending = some op ∧
      (s'.phase t).pending = none ∧ ∀ u, u ≠ t → s'.phase u = s.phase u := by
  obtain ⟨read, hp, rfl⟩ := perform_eq_some.mp hs
  refine ⟨by rw [hp]; rfl, ?_, fun u hu => ?_⟩
  · show ((s.goto t _).phase t).pending = none
    rw [goto_self]
    split <;> rfl
  · show (s.goto t _).phase u = s.phase u
    rw [goto_of_ne s _ hu]

/-- What a performed operation does to the data: what its thread has read is still there. -/
theorem State.Ok.perform (h : s.Ok M) (hs : Monitor.step M s (.perform t op) = some s') :
    s'.data = M.effect op s.data ∧ M.guard op s.data = true := by
  obtain ⟨read, hp, rfl⟩ := perform_eq_some.mp hs
  obtain ⟨rfl, hg⟩ := h.current t op read hp
  exact ⟨rfl, hg⟩

/-- Only a call brings a thread in. -/
theorem outside_of_step {a : Action θ ο} (hs : step M s a = some s') (hcall : ∀ u op, a ≠ .call u op)
    (hu : s.phase u = .outside) : s'.phase u = .outside := by
  have hgo : ∀ {t : θ} (p : Phase δ ο), s.phase t ≠ .outside → (s.goto t p).phase u = .outside := by
    intro t p ht
    have hne : u ≠ t := by
      rintro rfl
      exact ht hu
    rw [goto_of_ne s p hne, hu]
  have hwake : ∀ {v : State θ δ ο} (w : θ), v.phase u = .outside → (v.wake w).phase u = .outside := by
    intro v w hv
    by_cases hw : u = w
    · subst hw
      rw [wake_self, hv]
      rfl
    · rw [wake_of_ne v hw, hv]
  cases a with
  | call t op => exact absurd rfl (hcall t op)
  | lock t =>
      obtain ⟨op, hp, -, rfl⟩ := lock_eq_some.mp hs
      exact hgo _ (by simp [hp])
  | wait t =>
      obtain ⟨op, hp, -, rfl⟩ := wait_eq_some.mp hs
      exact hgo _ (by simp [hp])
  | read t =>
      obtain ⟨op, hp, -, rfl⟩ := read_eq_some.mp hs
      exact hgo _ (by simp [hp])
  | perform t op =>
      obtain ⟨read, hp, rfl⟩ := perform_eq_some.mp hs
      exact hgo _ (by simp [hp])
  | notify t w =>
      cases w with
      | none =>
          obtain ⟨hp, -, rfl⟩ := notify_none_eq_some.mp hs
          exact hgo _ (by simp [hp])
      | some w =>
          obtain ⟨hp, -, rfl⟩ := notify_some_eq_some.mp hs
          exact hwake w (hgo _ (by simp [hp]))
  | unlock t =>
      obtain ⟨hp, rfl⟩ := unlock_eq_some.mp hs
      exact hgo _ (by simp [hp])
  | spurious w =>
      obtain ⟨-, rfl⟩ := spurious_eq_some.mp hs
      exact hwake w hu

/-- Whether the thread has called the operation and not yet performed it, as a number. -/
def State.owed (s : State θ δ ο) (t : θ) (op : ο) : ℕ :=
  if (s.phase t).pending = some op then 1 else 0

omit [DecidableEq θ] in
theorem owed_congr (h : (s'.phase t).pending = (s.phase t).pending) (op : ο) :
    s'.owed t op = s.owed t op := by
  rw [State.owed, State.owed, h]

theorem owed_step {a : Action θ ο} (hs : step M s a = some s') (t : θ) (op : ο) :
    [a].count (.call t op) + s.owed t op = [a].count (.perform t op) + s'.owed t op := by
  have hother : a ≠ .call t op → a ≠ .perform t op →
      (s'.phase t).pending = (s.phase t).pending →
      [a].count (.call t op) + s.owed t op = [a].count (.perform t op) + s'.owed t op := by
    intro hcall hperform hp
    rw [List.count_singleton, List.count_singleton, owed_congr hp op]
    simp [hcall, hperform]
  cases a with
  | call u op' =>
      obtain ⟨hp, rfl⟩ := call_eq_some.mp hs
      by_cases hu : u = t
      · subst hu
        have hout : s.owed u op = 0 := by
          rw [State.owed, hp]
          rfl
        rw [hout, State.owed, goto_self]
        by_cases hop : op' = op
        · subst hop
          simp [Phase.pending]
        · simp [Phase.pending, hop]
      · refine hother (by simp [hu]) (by simp) ?_
        rw [goto_of_ne s _ (Ne.symm hu)]
  | perform u op' =>
      obtain ⟨hbefore, hafter, hkeep⟩ := pending_perform hs
      by_cases hu : u = t
      · subst hu
        rw [State.owed, State.owed, hbefore, hafter]
        by_cases hop : op' = op
        · subst hop
          simp
        · simp [hop]
      · refine hother (by simp) (by simp [hu]) ?_
        rw [hkeep t (Ne.symm hu)]
  | lock u => exact hother (by simp) (by simp) ((quiet_step hs (by simp) (by simp)).2 t)
  | wait u => exact hother (by simp) (by simp) ((quiet_step hs (by simp) (by simp)).2 t)
  | read u => exact hother (by simp) (by simp) ((quiet_step hs (by simp) (by simp)).2 t)
  | notify u w => exact hother (by simp) (by simp) ((quiet_step hs (by simp) (by simp)).2 t)
  | unlock u => exact hother (by simp) (by simp) ((quiet_step hs (by simp) (by simp)).2 t)
  | spurious w => exact hother (by simp) (by simp) ((quiet_step hs (by simp) (by simp)).2 t)

/-- In a run the calls of an operation by a thread and its performances differ by the call that is
still under way. -/
theorem performed_once {as : List (Action θ ο)} (hr : (system M d).run s as = some s') (t : θ)
    (op : ο) : as.count (.call t op) + s.owed t op = as.count (.perform t op) + s'.owed t op := by
  induction as generalizing s with
  | nil =>
      obtain rfl := Option.some.inj hr
      rfl
  | cons a as ih =>
      obtain ⟨v, hv, hr⟩ := StepSystem.run_cons_eq_some.mp hr
      have hstep := owed_step hv t op
      have hrest := ih hr
      rw [show a :: as = [a] ++ as from rfl, List.count_append, List.count_append]
      omega

end Step

end Monitor

import TensorrtBackend.Lib.Simulation

/-!
# Shutting a worker down

A worker thread takes jobs from a queue until it gets `none`.  A job makes calls that use objects
and leaves entries in a log, and it may take the thread, or the whole process, with it.  The owner
destroys its objects, puts `none` on the queue and joins the thread; the thread works on meanwhile.

* `safe_iff`: no interleaving uses an object that was destroyed exactly when the calls that are left
  use none of the owner's.
* `rest_joined`, `length_le_work`: the owner gets to the end, and the jobs that are left are done.
-/

namespace Worker

variable {κ ε : Type*}

/-- A call that uses objects, or an entry for the log. -/
inductive Op (κ ε : Type*)
  | use (os : List κ)
  | emit (e : ε)

/-- What becomes of the thread behind a job. -/
inductive Fate
  | next
  | stop
  | crash
  deriving DecidableEq

structure Job (κ ε : Type*) where
  ops : List (Op κ ε)
  fate : Fate

/-- Where the thread is. -/
inductive Phase (κ ε : Type*)
  | waiting
  | serving (ops : List (Op κ ε)) (fate : Fate)
  | ended
  | crashed

/-- The objects the owner has yet to destroy and those it has destroyed, how far it has got behind
them, the thread, the queue, the log, and whether an object was used after it was destroyed. -/
structure State (κ ε : Type*) where
  pending : List κ
  destroyed : List κ := []
  notified : Bool := false
  joined : Bool := false
  phase : Phase κ ε
  queue : List (Option (Job κ ε))
  log : List ε := []
  misused : Bool := false

inductive Action
  | destroy
  /-- Put `none` on the queue. -/
  | notify
  | join
  /-- Take a job. -/
  | get
  /-- Go on with a job. -/
  | work

/-- Where the thread is once a job is done. -/
def Fate.phase : Fate → Phase κ ε
  | .next => .waiting
  | .stop => .ended
  | .crash => .crashed

/-- One step; `none` when it is blocked or not enabled.  Nothing happens in a process that has
crashed. -/
def step [DecidableEq κ] (s : State κ ε) : Action → Option (State κ ε)
  | .destroy =>
      match s.phase, s.pending with
      | .crashed, _ => none
      | _, [] => none
      | _, o :: rest => some { s with pending := rest, destroyed := s.destroyed ++ [o] }
  | .notify =>
      match s.phase, s.pending, s.notified with
      | .crashed, _, _ => none
      | _, [], false => some { s with notified := true, queue := s.queue ++ [none] }
      | _, _, _ => none
  | .join =>
      match s.phase, s.notified, s.joined with
      | .ended, true, false => some { s with joined := true }
      | _, _, _ => none
  | .get =>
      match s.phase, s.queue with
      | .waiting, none :: rest => some { s with phase := .ended, queue := rest }
      | .waiting, some job :: rest => some { s with phase := .serving job.ops job.fate, queue := rest }
      | _, _ => none
  | .work =>
      match s.phase with
      | .serving (.use os :: ops) fate => some { s with
          phase := .serving ops fate
          misused := s.misused || os.any fun o => decide (o ∈ s.destroyed) }
      | .serving (.emit e :: ops) fate => some { s with
          phase := .serving ops fate
          log := s.log ++ [e] }
      | .serving [] fate => some { s with phase := fate.phase }
      | _ => none

/-- The owner and the thread, from the states in `start` on. -/
def system [DecidableEq κ] (start : State κ ε → Prop) : StepSystem (State κ ε) Action where
  init := start
  step := step

/-! ### What a step does -/

/-- The steps, one constructor each. -/
inductive Step [DecidableEq κ] (s : State κ ε) : Action → State κ ε → Prop
  | destroy {o : κ} {rest : List κ} (hphase : s.phase ≠ .crashed) (hpending : s.pending = o :: rest) :
      Step s .destroy { s with pending := rest, destroyed := s.destroyed ++ [o] }
  | notify (hphase : s.phase ≠ .crashed) (hpending : s.pending = []) (hnotified : s.notified = false) :
      Step s .notify { s with notified := true, queue := s.queue ++ [none] }
  | join (hphase : s.phase = .ended) (hnotified : s.notified = true) (hjoined : s.joined = false) :
      Step s .join { s with joined := true }
  | leave {rest : List (Option (Job κ ε))} (hphase : s.phase = .waiting)
      (hqueue : s.queue = none :: rest) : Step s .get { s with phase := .ended, queue := rest }
  | get {job : Job κ ε} {rest : List (Option (Job κ ε))} (hphase : s.phase = .waiting)
      (hqueue : s.queue = some job :: rest) :
      Step s .get { s with phase := .serving job.ops job.fate, queue := rest }
  | use {os : List κ} {ops : List (Op κ ε)} {fate : Fate}
      (hphase : s.phase = .serving (.use os :: ops) fate) :
      Step s .work { s with
        phase := .serving ops fate
        misused := s.misused || os.any fun o => decide (o ∈ s.destroyed) }
  | emit {e : ε} {ops : List (Op κ ε)} {fate : Fate}
      (hphase : s.phase = .serving (.emit e :: ops) fate) :
      Step s .work { s with phase := .serving ops fate, log := s.log ++ [e] }
  | done {fate : Fate} (hphase : s.phase = .serving [] fate) :
      Step s .work { s with phase := fate.phase }

variable [DecidableEq κ] {s t : State κ ε} {a : Action} {start : State κ ε → Prop}

theorem step_cases (h : step s a = some t) : Step s a t := by
  cases a with
  | destroy =>
      simp only [step] at h
      split at h
      · cases h
      · cases h
      · rename_i hpending hphase
        cases h
        exact .destroy hphase hpending
  | notify =>
      simp only [step] at h
      split at h
      · cases h
      · rename_i hpending hnotified hphase
        cases h
        exact .notify hphase hpending hnotified
      · cases h
  | join =>
      simp only [step] at h
      split at h
      · rename_i hphase hnotified hjoined
        cases h
        exact .join hphase hnotified hjoined
      · cases h
  | get =>
      simp only [step] at h
      split at h
      · rename_i hphase hqueue
        cases h
        exact .leave hphase hqueue
      · rename_i hphase hqueue
        cases h
        exact .get hphase hqueue
      · cases h
  | work =>
      simp only [step] at h
      split at h
      · rename_i hphase
        cases h
        exact .use hphase
      · rename_i hphase
        cases h
        exact .emit hphase
      · rename_i hphase
        cases h
        exact .done hphase
      · cases h

theorem Step.step_eq (h : Step s a t) : step s a = some t := by
  cases h with
  | destroy hphase hpending =>
      unfold step
      rw [hpending]
      cases hp : s.phase <;> first | rfl | exact absurd hp hphase
  | notify hphase hpending hnotified =>
      unfold step
      rw [hpending, hnotified]
      cases hp : s.phase <;> first | rfl | exact absurd hp hphase
  | join hphase hnotified hjoined =>
      unfold step
      rw [hphase, hnotified, hjoined]
  | leave hphase hqueue =>
      unfold step
      rw [hphase, hqueue]
  | get hphase hqueue =>
      unfold step
      rw [hphase, hqueue]
  | use hphase =>
      unfold step
      rw [hphase]
  | emit hphase =>
      unfold step
      rw [hphase]
  | done hphase =>
      unfold step
      rw [hphase]

/-! ### What is left to do -/

/-- What follows behind a job. -/
def Fate.rest (fate : Fate) (ops : List (Op κ ε)) : List (Op κ ε) :=
  match fate with
  | .next => ops
  | _ => []

/-- What the thread will do of a queue. -/
def opsOf : List (Option (Job κ ε)) → List (Op κ ε)
  | [] => []
  | none :: _ => []
  | some job :: queue => job.ops ++ job.fate.rest (opsOf queue)

/-- Whether the process crashes, if `behind` says it of what follows. -/
def Fate.crashes (fate : Fate) (behind : Bool) : Bool :=
  match fate with
  | .next => behind
  | .stop => false
  | .crash => true

/-- Whether the thread will take the process with it, by the queue. -/
def crashesOf : List (Option (Job κ ε)) → Bool
  | [] => false
  | none :: _ => false
  | some job :: queue => job.fate.crashes (crashesOf queue)

/-- Whether the process will crash. -/
def State.crashes (s : State κ ε) : Bool :=
  match s.phase with
  | .waiting => crashesOf s.queue
  | .serving _ fate => fate.crashes (crashesOf s.queue)
  | .ended => false
  | .crashed => true

/-- What the thread will still do. -/
def State.toDo (s : State κ ε) : List (Op κ ε) :=
  match s.phase with
  | .waiting => opsOf s.queue
  | .serving ops fate => ops ++ fate.rest (opsOf s.queue)
  | _ => []

/-- The entries that will be left. -/
def emits (ops : List (Op κ ε)) : List ε :=
  ops.filterMap fun op => match op with
    | .use _ => none
    | .emit e => some e

omit [DecidableEq κ] in
theorem opsOf_append_none (queue : List (Option (Job κ ε))) : opsOf (queue ++ [none]) = opsOf queue := by
  induction queue with
  | nil => rfl
  | cons entry queue ih =>
      cases entry with
      | none => rfl
      | some job =>
          rw [List.cons_append, opsOf, opsOf, ih]

omit [DecidableEq κ] in
theorem crashesOf_append_none (queue : List (Option (Job κ ε))) :
    crashesOf (queue ++ [none]) = crashesOf queue := by
  induction queue with
  | nil => rfl
  | cons entry queue ih =>
      cases entry with
      | none => rfl
      | some job =>
          rw [List.cons_append, crashesOf, crashesOf, ih]

omit [DecidableEq κ] in
theorem emits_append (ops more : List (Op κ ε)) : emits (ops ++ more) = emits ops ++ emits more :=
  List.filterMap_append

/-- **What a step takes off**: nothing, or the next call, or the next entry. -/
theorem Step.toDo (h : Step s a t) :
    t.toDo = s.toDo ∧ t.log = s.log ∧ t.misused = s.misused ∨
      (∃ os, s.toDo = .use os :: t.toDo ∧ t.log = s.log ∧
        t.misused = (s.misused || os.any fun o => decide (o ∈ s.destroyed))) ∨
      ∃ e, s.toDo = .emit e :: t.toDo ∧ t.log = s.log ++ [e] ∧ t.misused = s.misused := by
  cases h with
  | destroy hphase hpending => exact Or.inl ⟨rfl, rfl, rfl⟩
  | notify hphase hpending hnotified =>
      refine Or.inl ⟨?_, rfl, rfl⟩
      simp only [State.toDo, opsOf_append_none]
  | join hphase hnotified hjoined => exact Or.inl ⟨rfl, rfl, rfl⟩
  | leave hphase hqueue =>
      refine Or.inl ⟨?_, rfl, rfl⟩
      simp only [State.toDo, hphase, hqueue, opsOf]
  | get hphase hqueue =>
      refine Or.inl ⟨?_, rfl, rfl⟩
      simp only [State.toDo, hphase, hqueue, opsOf]
  | @use os ops fate hphase =>
      refine Or.inr (Or.inl ⟨os, ?_, rfl, rfl⟩)
      simp only [State.toDo, hphase, List.cons_append]
  | @emit e ops fate hphase =>
      refine Or.inr (Or.inr ⟨e, ?_, rfl, rfl⟩)
      simp only [State.toDo, hphase, List.cons_append]
  | @done fate hphase =>
      refine Or.inl ⟨?_, rfl, rfl⟩
      cases fate <;> simp only [State.toDo, hphase, Fate.phase, Fate.rest, List.nil_append]

/-- The objects only go from one list to the other. -/
theorem Step.objects (h : Step s a t) : t.destroyed ++ t.pending = s.destroyed ++ s.pending := by
  cases h with
  | destroy hphase hpending =>
      rw [hpending, List.append_assoc]
      rfl
  | _ => rfl

/-- Whether the process will crash is settled from the start. -/
theorem Step.crashes (h : Step s a t) : t.crashes = s.crashes := by
  cases h with
  | destroy hphase hpending => rfl
  | notify hphase hpending hnotified => simp only [State.crashes, crashesOf_append_none]
  | join hphase hnotified hjoined => rfl
  | leave hphase hqueue => simp only [State.crashes, hphase, hqueue, crashesOf]
  | get hphase hqueue => simp only [State.crashes, hphase, hqueue, crashesOf]
  | use hphase => simp only [State.crashes, hphase]
  | emit hphase => simp only [State.crashes, hphase]
  | @done fate hphase => cases fate <;> simp only [State.crashes, hphase, Fate.phase, Fate.crashes]

/-- The log that there will be. -/
theorem run_log {as : List Action} (h : (system start).run s as = some t) :
    t.log ++ emits t.toDo = s.log ++ emits s.toDo := by
  refine StepSystem.run_invariant (I := fun u => u.log ++ emits u.toDo = s.log ++ emits s.toDo)
    (fun u a v hu hstep => ?_) rfl h
  rw [← hu]
  rcases (step_cases hstep).toDo with ⟨htoDo, hlog, -⟩ | ⟨os, htoDo, hlog, -⟩ | ⟨e, htoDo, hlog, -⟩
  · rw [htoDo, hlog]
  · rw [htoDo, hlog]
    rfl
  · rw [htoDo, hlog, List.append_assoc]
    rfl

theorem run_crashes {as : List Action} (h : (system start).run s as = some t) :
    t.crashes = s.crashes :=
  StepSystem.run_invariant (I := fun u : State κ ε => u.crashes = s.crashes)
    (fun _ _ _ hu hstep => (step_cases hstep).crashes.trans hu) rfl h

theorem run_objects {as : List Action} (h : (system start).run s as = some t) :
    t.destroyed ++ t.pending = s.destroyed ++ s.pending :=
  StepSystem.run_invariant
    (I := fun u : State κ ε => u.destroyed ++ u.pending = s.destroyed ++ s.pending)
    (fun _ _ _ hu hstep => (step_cases hstep).objects.trans hu) rfl h

/-! ### The work that is left -/

/-- The steps the thread needs for a queue. -/
def queueWork : List (Option (Job κ ε)) → ℕ
  | [] => 0
  | none :: queue => 1 + queueWork queue
  | some job :: queue => job.ops.length + 2 + queueWork queue

def Phase.work : Phase κ ε → ℕ
  | .serving ops _ => ops.length + 1
  | _ => 0

/-- A bound for the steps that are left. -/
def State.work (s : State κ ε) : ℕ :=
  s.pending.length + (if s.notified then 0 else 2) + (if s.joined then 0 else 1) + s.phase.work +
    queueWork s.queue

omit [DecidableEq κ] in
theorem queueWork_append_none (queue : List (Option (Job κ ε))) :
    queueWork (queue ++ [none]) = queueWork queue + 1 := by
  induction queue with
  | nil => rfl
  | cons entry queue ih =>
      cases entry with
      | none =>
          rw [List.cons_append, queueWork, queueWork, ih]
          omega
      | some job =>
          rw [List.cons_append, queueWork, queueWork, ih]
          omega

theorem Step.work_lt (h : Step s a t) : t.work < s.work := by
  cases h with
  | destroy hphase hpending =>
      simp only [State.work, hpending, List.length_cons]
      omega
  | notify hphase hpending hnotified =>
      simp only [State.work, hnotified, queueWork_append_none, if_true, Bool.false_eq_true, if_false]
      omega
  | join hphase hnotified hjoined =>
      simp only [State.work, hjoined, if_true, Bool.false_eq_true, if_false]
      omega
  | leave hphase hqueue =>
      simp only [State.work, hphase, hqueue, queueWork, Phase.work]
      omega
  | get hphase hqueue =>
      simp only [State.work, hphase, hqueue, queueWork, Phase.work]
      omega
  | use hphase =>
      simp only [State.work, hphase, Phase.work, List.length_cons]
      omega
  | emit hphase =>
      simp only [State.work, hphase, Phase.work, List.length_cons]
      omega
  | @done fate hphase =>
      cases fate <;> simp only [State.work, hphase, Phase.work, Fate.phase, List.length_nil] <;> omega

/-- **The owner and the thread make a bounded number of steps.** -/
theorem length_le_work {as : List Action} (h : (system start).run s as = some t) :
    as.length ≤ s.work := by
  have hbound := StepSystem.length_add_le_of_measure (K := fun _ => True)
    (I := fun _ : State κ ε => True) (μ := State.work)
    (fun u a v _ _ hstep => ⟨trivial, (step_cases hstep).work_lt⟩) (fun _ _ => trivial) trivial h
  omega

/-! ### Use after destruction -/

/-- No call that is left uses an object of the owner's. -/
def State.Apart (s : State κ ε) : Prop :=
  ∀ os, Op.use os ∈ s.toDo → ∀ o ∈ os, o ∉ s.destroyed ++ s.pending

/-- The thread can go on while there is something left to do. -/
theorem exists_thread_step (h : s.toDo ≠ []) :
    ∃ a t, Step s a t ∧ t.destroyed = s.destroyed := by
  cases hphase : s.phase with
  | waiting =>
      cases hqueue : s.queue with
      | nil =>
          simp only [State.toDo, hphase, hqueue, opsOf] at h
          exact absurd rfl h
      | cons entry queue =>
          cases entry with
          | none => exact ⟨_, _, .leave hphase hqueue, rfl⟩
          | some job => exact ⟨_, _, .get hphase hqueue, rfl⟩
  | serving ops fate =>
      cases ops with
      | nil => exact ⟨_, _, .done hphase, rfl⟩
      | cons op ops =>
          cases op with
          | use os => exact ⟨_, _, .use hphase, rfl⟩
          | emit e => exact ⟨_, _, .emit hphase, rfl⟩
  | ended =>
      simp only [State.toDo, hphase] at h
      exact absurd rfl h
  | crashed =>
      simp only [State.toDo, hphase] at h
      exact absurd rfl h

/-- The owner can destroy everything before the thread goes on. -/
theorem exists_all_destroyed (start : State κ ε → Prop) (hphase : s.phase ≠ .crashed) :
    ∃ as t, (system start).run s as = some t ∧ t.destroyed = s.destroyed ++ s.pending ∧
      t.toDo = s.toDo := by
  obtain ⟨pending, hpending⟩ : ∃ pending, s.pending = pending := ⟨_, rfl⟩
  induction pending generalizing s with
  | nil =>
      rw [hpending, List.append_nil]
      exact ⟨[], s, rfl, rfl, rfl⟩
  | cons o rest ih =>
      have hstep : Step s .destroy { s with pending := rest, destroyed := s.destroyed ++ [o] } :=
        .destroy hphase hpending
      obtain ⟨as, t, hr, hdestroyed, htoDo⟩ :=
        @ih { s with pending := rest, destroyed := s.destroyed ++ [o] } hphase rfl
      refine ⟨.destroy :: as, t, StepSystem.run_cons_eq_some.mpr ⟨_, hstep.step_eq, hr⟩, ?_, htoDo⟩
      rw [hdestroyed, hpending, List.append_assoc]
      rfl

/-- The thread gets to each call that is left. -/
theorem exists_misuse (start : State κ ε → Prop) {os : List κ} {o : κ} (hos : Op.use os ∈ s.toDo)
    (ho : o ∈ os) (hdestroyed : o ∈ s.destroyed) :
    ∃ as t, (system start).run s as = some t ∧ t.misused = true := by
  obtain ⟨n, hn⟩ : ∃ n, s.work = n := ⟨_, rfl⟩
  induction n using Nat.strongRecOn generalizing s with
  | _ n ih =>
      obtain ⟨a, u, hstep, hsame⟩ := exists_thread_step (List.ne_nil_of_mem hos)
      have hgo : Op.use os ∈ u.toDo →
          ∃ as t, (system start).run s as = some t ∧ t.misused = true := by
        intro hleft
        obtain ⟨as, t, hr, ht⟩ := ih u.work (hn ▸ hstep.work_lt) hleft (hsame ▸ hdestroyed) rfl
        exact ⟨a :: as, t, StepSystem.run_cons_eq_some.mpr ⟨u, hstep.step_eq, hr⟩, ht⟩
      rcases hstep.toDo with ⟨htoDo, -, -⟩ | ⟨os', htoDo, -, hmisused⟩ | ⟨e, htoDo, -, -⟩
      · exact hgo (htoDo ▸ hos)
      · rw [htoDo] at hos
        rcases List.mem_cons.mp hos with heq | hleft
        · obtain rfl := Op.use.inj heq
          have hany : (os.any fun o => decide (o ∈ s.destroyed)) = true :=
            List.any_eq_true.mpr ⟨o, ho, decide_eq_true hdestroyed⟩
          refine ⟨[a], u, StepSystem.run_cons_eq_some.mpr ⟨u, hstep.step_eq, rfl⟩, ?_⟩
          rw [hmisused, hany, Bool.or_true]
        · exact hgo hleft
      · rw [htoDo] at hos
        rcases List.mem_cons.mp hos with heq | hleft
        · cases heq
        · exact hgo hleft

/-- **When shutting down is safe**: whatever the interleaving, no object is used after it was
destroyed, if and only if no call that is left uses one of the owner's. -/
theorem safe_iff (hfresh : s.misused = false) :
    (∀ as t, (system start).run s as = some t → t.misused = false) ↔ s.Apart := by
  constructor
  · intro hsafe os hos o ho hmem
    have hphase : s.phase ≠ .crashed := by
      intro hcrashed
      simp only [State.toDo, hcrashed] at hos
      exact absurd hos List.not_mem_nil
    obtain ⟨as, u, hr, hdestroyed, htoDo⟩ := exists_all_destroyed start hphase
    rw [← hdestroyed] at hmem
    obtain ⟨bs, t, hr', hmisused⟩ := exists_misuse start (htoDo ▸ hos) ho hmem
    have hnone := hsafe (as ++ bs) t (StepSystem.run_append_eq_some.mpr ⟨u, hr, hr'⟩)
    exact Bool.noConfusion (hmisused.symm.trans hnone)
  · intro hapart as t hr
    refine (StepSystem.run_invariant (I := fun u : State κ ε => u.Apart ∧ u.misused = false)
      (fun u a v hu hstep => ?_) ⟨hapart, hfresh⟩ hr).2
    have hstep := step_cases hstep
    have hobjects := hstep.objects
    rcases hstep.toDo with ⟨htoDo, -, hm⟩ | ⟨os, htoDo, -, hm⟩ | ⟨e, htoDo, -, hm⟩
    · refine ⟨fun os hos => ?_, hm.trans hu.2⟩
      rw [hobjects]
      exact hu.1 os (htoDo ▸ hos)
    · refine ⟨fun os' hos => ?_, ?_⟩
      · rw [hobjects]
        exact hu.1 os' (htoDo ▸ List.mem_cons_of_mem _ hos)
      · rw [hm, hu.2, Bool.false_or, List.any_eq_false]
        intro o ho hdestroyed
        have hnot := hu.1 os (htoDo ▸ List.mem_cons_self) o ho
        exact hnot (List.mem_append_left _ (of_decide_eq_true hdestroyed))
    · refine ⟨fun os' hos => ?_, hm.trans hu.2⟩
      rw [hobjects]
      exact hu.1 os' (htoDo ▸ List.mem_cons_of_mem _ hos)

/-! ### Rest -/

/-- The thread will look at the queue again. -/
def Phase.GoesOn : Phase κ ε → Prop
  | .waiting => True
  | .serving _ fate => fate = .next
  | _ => False

/-- A thread that will look at the queue again finds `none` there once it was notified, and one that
was joined has ended. -/
structure State.Attended (s : State κ ε) : Prop where
  notified : s.notified = true → s.phase.GoesOn → none ∈ s.queue
  joined : s.joined = true → s.phase = .ended

theorem Step.attended (h : Step s a t) (hs : s.Attended) : t.Attended := by
  cases h with
  | destroy hphase hpending => exact ⟨hs.notified, hs.joined⟩
  | notify hphase hpending hnotified =>
      exact ⟨fun _ _ => List.mem_append_right _ (List.mem_singleton.mpr rfl), hs.joined⟩
  | join hphase hnotified hjoined => exact ⟨hs.notified, fun _ => hphase⟩
  | leave hphase hqueue => exact ⟨fun _ h => h.elim, fun _ => rfl⟩
  | get hphase hqueue =>
      constructor
      · intro hnotified _
        have hnone := hs.notified hnotified (hphase ▸ trivial)
        rw [hqueue] at hnone
        exact (List.mem_cons.mp hnone).resolve_left (by simp)
      · intro hjoined
        exact absurd (hphase.symm.trans (hs.joined hjoined)) (by simp)
  | use hphase =>
      refine ⟨fun hnotified hgo => hs.notified hnotified ?_, fun hjoined => ?_⟩
      · rw [hphase]
        exact hgo
      · exact absurd (hphase.symm.trans (hs.joined hjoined)) (by simp)
  | emit hphase =>
      refine ⟨fun hnotified hgo => hs.notified hnotified ?_, fun hjoined => ?_⟩
      · rw [hphase]
        exact hgo
      · exact absurd (hphase.symm.trans (hs.joined hjoined)) (by simp)
  | @done fate hphase =>
      refine ⟨fun hnotified hgo => hs.notified hnotified ?_, fun hjoined => ?_⟩
      · rw [hphase]
        cases fate with
        | next => rfl
        | stop => exact hgo.elim
        | crash => exact hgo.elim
      · exact absurd (hphase.symm.trans (hs.joined hjoined)) (by simp)

/-- **Where everything is at rest**: everything that was left has been done, and unless it makes the
process crash, the thread was joined and the owner's objects are destroyed. -/
theorem rest_joined (hs : s.Attended) {as : List Action} (hr : (system start).run s as = some t)
    (hrest : (system start).AtRest (fun _ => True) t) :
    t.log = s.log ++ emits s.toDo ∧
      (s.crashes = true ∧ t.phase = .crashed ∨
        s.crashes = false ∧ t.joined = true ∧ t.destroyed = s.destroyed ++ s.pending) := by
  have hattended : t.Attended := StepSystem.run_invariant (I := State.Attended)
    (fun u a v hu hstep => (step_cases hstep).attended hu) hs hr
  have hlog := run_log hr
  have hobjects := run_objects hr
  have hcrashes := run_crashes hr
  have hblocked : ∀ a u, ¬ Step t a u := fun a u hstep => hrest.not_step trivial hstep.step_eq
  -- Only a crash keeps the owner from what it has to do.
  have howner : t.phase ≠ .crashed → t.pending = [] ∧ t.notified = true := by
    intro hphase
    have hpending : t.pending = [] := by
      cases hpending : t.pending with
      | nil => rfl
      | cons o rest => exact absurd (Step.destroy hphase hpending) (hblocked _ _)
    refine ⟨hpending, eq_true_of_ne_false fun hnotified => ?_⟩
    exact hblocked _ _ (Step.notify hphase hpending hnotified)
  cases hphase : t.phase with
  | waiting =>
      obtain ⟨-, hnotified⟩ := howner (by rw [hphase]; simp)
      have hnone := hattended.notified hnotified (hphase ▸ trivial)
      cases hqueue : t.queue with
      | nil =>
          rw [hqueue] at hnone
          exact absurd hnone List.not_mem_nil
      | cons entry queue =>
          cases entry with
          | none => exact absurd (Step.leave hphase hqueue) (hblocked _ _)
          | some job => exact absurd (Step.get hphase hqueue) (hblocked _ _)
  | serving ops fate =>
      cases ops with
      | nil => exact absurd (Step.done hphase) (hblocked _ _)
      | cons op ops =>
          cases op with
          | use os => exact absurd (Step.use hphase) (hblocked _ _)
          | emit e => exact absurd (Step.emit hphase) (hblocked _ _)
  | ended =>
      obtain ⟨hpending, hnotified⟩ := howner (by rw [hphase]; simp)
      have hjoined : t.joined = true := eq_true_of_ne_false fun hjoined =>
        hblocked _ _ (Step.join hphase hnotified hjoined)
      rw [hpending, List.append_nil] at hobjects
      simp only [State.toDo, hphase] at hlog
      simp only [State.crashes, hphase] at hcrashes
      exact ⟨(List.append_nil _).symm.trans hlog, Or.inr ⟨hcrashes.symm, hjoined, hobjects⟩⟩
  | crashed =>
      simp only [State.toDo, hphase] at hlog
      simp only [State.crashes, hphase] at hcrashes
      exact ⟨(List.append_nil _).symm.trans hlog, Or.inl ⟨hcrashes.symm, rfl⟩⟩

end Worker

import TensorrtBackend.ServerInvariant

/-!
# A device-blocked model comes to rest

Once no request arrives, the threads go on by themselves: to the end of `Run`, inside the
semaphores, out of `Acquire` and `Release`, and through the completion queues.  Each such action
leaves less work, and where none can be taken nothing is under way.

* `server_comes_to_rest`: the work bounds these actions, and at rest every device is idle, every
  completion queue is empty and no thread is inside a semaphore.
-/

namespace TensorrtBackend

variable {ι : Type}

/-- The actions that need no request and no new instance; a waiter wakes up only when notified. -/
def ServerAction.Internal : ServerAction ι → Prop
  | .register _ _ | .execute _ => False
  | .semaphore _ a => a.Internal
  | _ => True

/-- What a device has still to do by itself, outside the semaphores. -/
def IssueStage.weight : IssueStage ι → ℕ
  | .idle => 0
  | .acquiring _ => 1
  | .failing _ _ => 6
  | .running _ _ => 19

/-- What a completion thread has still to do with its payload, outside the semaphores. -/
def CompletionStage.weight : CompletionStage → ℕ
  | .waiting => 0
  | .responding => 1
  | .releasing _ => 2
  | .dequeued _ => 12

section Work

variable [DecidableEq ι]

/-- The threads of the devices in `D` and of the instances in `X`. -/
def serverThreads (X : Finset ι) (D : Finset ℕ) : Finset (ServerThread ι) :=
  D.image .device ∪ X.image .completion

/-- What the threads have still to do in the semaphores. -/
def semaphoreWork (semaphores : ι → Monitor.State (ServerThread ι) ℤ SemaphoreOp) (X : Finset ι)
    (D : Finset ℕ) : ℕ :=
  ∑ x ∈ X, (semaphores x).work semaphore (serverThreads X D)

def completionWork (completion : ι → CompletionStage) (queue : ι → List ℕ) (X : Finset ι) : ℕ :=
  ∑ x ∈ X, ((completion x).weight + 13 * (queue x).length)

def issueWork (issue : ℕ → IssueStage ι) (D : Finset ℕ) : ℕ :=
  ∑ d ∈ D, (issue d).weight

/-- The internal actions that may still be taken, at most. -/
def ServerState.work (s : ServerState ι) (X : Finset ι) (D : Finset ℕ) : ℕ :=
  semaphoreWork s.semaphores X D + completionWork s.completion s.queue X + issueWork s.issue D

variable {config : PipelineConfig} {s s₁ s' : ServerState ι} {inst x : ι} {d : ℕ}
  {u : ServerThread ι} {op : SemaphoreOp} {X : Finset ι} {D : Finset ℕ}

theorem device_mem (hd : d ∈ D) : ServerThread.device d ∈ serverThreads X D :=
  Finset.mem_union_left _ (Finset.mem_image_of_mem _ hd)

theorem completion_mem (hx : x ∈ X) : ServerThread.completion x ∈ serverThreads X D :=
  Finset.mem_union_right _ (Finset.mem_image_of_mem _ hx)

/-- `X` holds the registered instances and `D` the devices that execute. -/
structure ServerState.Within (s : ServerState ι) (X : Finset ι) (D : Finset ℕ) : Prop where
  inst : ∀ x, x ∉ X → s.home x = none
  device : ∀ d, d ∉ D → s.issue d = .idle

omit [DecidableEq ι] in
theorem ServerState.Within.mem_inst (h : s.Within X D) (hx : s.home x ≠ none) : x ∈ X := by
  by_contra hout
  exact hx (h.inst x hout)

omit [DecidableEq ι] in
theorem ServerState.Within.mem_device (h : s.Within X D) (hd : s.issue d ≠ .idle) : d ∈ D := by
  by_contra hout
  exact hd (h.device d hout)

/-- The threads outside `D` and `X` are in no semaphore. -/
theorem ServerState.Within.outside (h : s.Within X D) (hlinked : s.Linked config)
    (hu : u ∉ serverThreads X D) : (s.semaphores x).phase u = .outside := by
  refine hlinked.outside ?_
  cases u with
  | device d =>
      have hd : d ∉ D := fun hd => hu (device_mem hd)
      show (s.issue d).expected x = none
      rw [h.device d hd]
      rfl
  | completion y =>
      have hy : y ∉ X := fun hy => hu (completion_mem hy)
      show (if y = x then (s.completion y).expected else none) = none
      rw [(hlinked.fresh y (h.inst y hy)).1]
      exact ite_self _

/-! ### What the actions leave of the work -/

theorem semaphoreWork_congr {m : ι → Monitor.State (ServerThread ι) ℤ SemaphoreOp} (hX : inst ∈ X)
    (hother : ∀ x, x ≠ inst → ∀ v, (m x).phase v = (s.semaphores x).phase v) :
    semaphoreWork m X D + (s.semaphores inst).work semaphore (serverThreads X D) =
      semaphoreWork s.semaphores X D + (m inst).work semaphore (serverThreads X D) :=
  Monitor.sum_add_of_agree (f := fun x => (s.semaphores x).work semaphore (serverThreads X D))
    (g := fun x => (m x).work semaphore (serverThreads X D)) hX fun x _ hx =>
      Finset.sum_congr rfl fun v _ => by rw [hother x hx v]

/-- A thread that enters a semaphore has the steps of the operation before it. -/
theorem Entered.work (he : Entered s₁ s' inst u op) (hout : (s₁.semaphores inst).phase u = .outside)
    (hX : inst ∈ X) (hu : u ∈ serverThreads X D) :
    semaphoreWork s'.semaphores X D =
      semaphoreWork s₁.semaphores X D + (Monitor.Phase.locking op).weight semaphore := by
  have hsum := semaphoreWork_congr (D := D) hX
    fun x hx v => he.other x v fun h => hx (Prod.ext_iff.mp h).1
  have hself := Monitor.sum_add_of_agree
    (f := fun v => ((s₁.semaphores inst).phase v).weight semaphore)
    (g := fun v => ((s'.semaphores inst).phase v).weight semaphore) hu fun v _ hv => by
      rw [he.other inst v fun h => hv (Prod.ext_iff.mp h).2]
  rw [hout, he.self] at hself
  have hzero : (Monitor.Phase.outside : Monitor.Phase ℤ SemaphoreOp).weight semaphore = 0 := rfl
  simp only [Monitor.State.work] at hsum
  omega

omit [DecidableEq ι] in
theorem issueWork_update (hd : d ∈ D) (st : IssueStage ι) :
    issueWork (Function.update s.issue d st) D + (s.issue d).weight =
      issueWork s.issue D + st.weight := by
  have hsum := Monitor.sum_add_of_agree (f := fun e => (s.issue e).weight)
    (g := fun e => (Function.update s.issue d st e).weight) hd fun e _ he => by
      rw [Function.update_of_ne he]
  simp only [Function.update_self] at hsum
  exact hsum

theorem completionWork_update (hX : inst ∈ X) (st : CompletionStage) (queue : ι → List ℕ)
    (hqueue : ∀ x, x ≠ inst → queue x = s.queue x) :
    completionWork (Function.update s.completion inst st) queue X +
        ((s.completion inst).weight + 13 * (s.queue inst).length) =
      completionWork s.completion s.queue X + (st.weight + 13 * (queue inst).length) := by
  have hsum := Monitor.sum_add_of_agree
    (f := fun x => (s.completion x).weight + 13 * (s.queue x).length)
    (g := fun x => (Function.update s.completion inst st x).weight + 13 * (queue x).length) hX
    fun x _ hx => by rw [Function.update_of_ne hx, hqueue x hx]
  simp only [Function.update_self] at hsum
  exact hsum

omit [DecidableEq ι] in
/-- A device that executes may go to any stage. -/
theorem ServerState.Within.issue_update (h : s.Within X D) (hd : d ∈ D) (st : IssueStage ι) (e : ℕ)
    (he : e ∉ D) : Function.update s.issue d st e = .idle := by
  have hne : e ≠ d := by
    rintro rfl
    exact he hd
  rw [Function.update_of_ne hne]
  exact h.device e he

/-- An instance with a payload under way is registered. -/
theorem ServerState.Within.mem_busy (hw : s.Within X D) (h : s.Linked config)
    (hx : s.completion x ≠ .waiting ∨ s.queue x ≠ []) : x ∈ X := by
  refine hw.mem_inst fun hnone => ?_
  obtain ⟨hc, hq⟩ := h.fresh x hnone
  exact hx.elim (fun hne => hne hc) fun hne => hne hq

theorem lock_acquire_weight :
    (Monitor.Phase.locking SemaphoreOp.acquire : Monitor.Phase ℤ SemaphoreOp).weight semaphore = 4 :=
  rfl

theorem lock_release_weight :
    (Monitor.Phase.locking SemaphoreOp.release : Monitor.Phase ℤ SemaphoreOp).weight semaphore = 9 :=
  rfl

theorem runFailed_lt (h : s.Linked config) (hw : s.Within X D)
    (hs : serverStep config s (.runFailed d) = some s') :
    s'.Within X D ∧ s'.work X D < s.work X D := by
  rw [serverStep] at hs
  cases hissue : s.issue d with
  | running current next =>
      simp only [hissue] at hs
      have hout := (callSemaphore_eq_some.mp hs).1
      have he := entered hs
      have hd : d ∈ D := hw.mem_device (by simp [hissue])
      have hcurrent : current ∈ X :=
        hw.mem_inst (h.known d current (by rw [hissue]; exact Or.inl rfl))
      have hsem := he.work hout hcurrent (device_mem (X := X) hd)
      have hdev := issueWork_update (s := s) hd (.failing current next)
      rw [hissue] at hdev
      refine ⟨⟨he.home ▸ hw.inst, he.issue ▸ hw.issue_update hd _⟩, ?_⟩
      rw [ServerState.work, ServerState.work, hsem, he.issue, he.completion, he.queue]
      have hlock := lock_release_weight
      simp only [IssueStage.weight] at hdev
      show semaphoreWork s.semaphores X D + _ + completionWork s.completion s.queue X +
        issueWork (Function.update s.issue d (.failing current next)) D < _
      omega
  | _ => simp only [hissue] at hs; cases hs

theorem runQueued_lt (h : s.Linked config) (hw : s.Within X D)
    (hs : serverStep config s (.runQueued d) = some s') :
    s'.Within X D ∧ s'.work X D < s.work X D := by
  rw [serverStep] at hs
  cases hissue : s.issue d with
  | running current next =>
      simp only [hissue] at hs
      have hout := (callSemaphore_eq_some.mp hs).1
      have he := entered hs
      have hd : d ∈ D := hw.mem_device (by simp [hissue])
      have hcurrent : current ∈ X :=
        hw.mem_inst (h.known d current (by rw [hissue]; exact Or.inl rfl))
      have hnext : next ∈ X := hw.mem_inst (h.known d next (by rw [hissue]; exact Or.inr rfl))
      have hsem := he.work hout hnext (device_mem (X := X) hd)
      have hdev := issueWork_update (s := s) hd (.acquiring next)
      have hqueue := completionWork_update (s := s) hcurrent (s.completion current)
        (Function.update s.queue current (s.queue current ++ [s.nextSet current]))
        fun x hx => Function.update_of_ne hx _ _
      rw [hissue] at hdev
      rw [Function.update_eq_self, Function.update_self, List.length_append] at hqueue
      refine ⟨⟨he.home ▸ hw.inst, he.issue ▸ hw.issue_update hd _⟩, ?_⟩
      rw [ServerState.work, ServerState.work, hsem, he.issue, he.completion, he.queue]
      have hlock := lock_acquire_weight
      simp only [IssueStage.weight] at hdev
      simp only [List.length_singleton] at hqueue
      show semaphoreWork s.semaphores X D + _ + completionWork s.completion
        (Function.update s.queue current (s.queue current ++ [s.nextSet current])) X +
        issueWork (Function.update s.issue d (.acquiring next)) D < _
      omega
  | _ => simp only [hissue] at hs; cases hs

theorem failReleased_lt (h : s.Linked config) (hw : s.Within X D)
    (hs : serverStep config s (.failReleased d) = some s') :
    s'.Within X D ∧ s'.work X D < s.work X D := by
  rw [serverStep] at hs
  cases hissue : s.issue d with
  | failing current next =>
      simp only [hissue] at hs
      obtain ⟨-, hs⟩ := Option.ite_none_right_eq_some.mp hs
      have hout := (callSemaphore_eq_some.mp hs).1
      have he := entered hs
      have hd : d ∈ D := hw.mem_device (by simp [hissue])
      have hnext : next ∈ X := hw.mem_inst (h.known d next (by rw [hissue]; exact Or.inr rfl))
      have hsem := he.work hout hnext (device_mem (X := X) hd)
      have hdev := issueWork_update (s := s) hd (.acquiring next)
      rw [hissue] at hdev
      refine ⟨⟨he.home ▸ hw.inst, he.issue ▸ hw.issue_update hd _⟩, ?_⟩
      rw [ServerState.work, ServerState.work, hsem, he.issue, he.completion, he.queue]
      have hlock := lock_acquire_weight
      simp only [IssueStage.weight] at hdev
      show semaphoreWork s.semaphores X D + _ + completionWork s.completion s.queue X +
        issueWork (Function.update s.issue d (.acquiring next)) D < _
      omega
  | _ => simp only [hissue] at hs; cases hs

theorem acquired_lt (hw : s.Within X D) (hs : serverStep config s (.acquired d) = some s') :
    s'.Within X D ∧ s'.work X D < s.work X D := by
  rw [serverStep] at hs
  cases hissue : s.issue d with
  | acquiring next =>
      simp only [hissue] at hs
      obtain ⟨-, hs⟩ := Option.ite_none_right_eq_some.mp hs
      obtain rfl := Option.some.inj hs
      have hd : d ∈ D := hw.mem_device (by simp [hissue])
      have hdev := issueWork_update (s := s) hd .idle
      rw [hissue] at hdev
      refine ⟨⟨hw.inst, hw.issue_update hd _⟩, ?_⟩
      simp only [IssueStage.weight] at hdev
      show semaphoreWork s.semaphores X D + completionWork s.completion s.queue X +
        issueWork (Function.update s.issue d .idle) D < _
      rw [ServerState.work]
      omega
  | _ => simp only [hissue] at hs; cases hs

/-- A completion thread goes to another stage outside its semaphore. -/
theorem completion_lt (hw : s.Within X D) (hX : inst ∈ X) (st : CompletionStage)
    {queue : ι → List ℕ} (hqueue : ∀ x, x ≠ inst → queue x = s.queue x)
    (hs : { s with
      completion := Function.update s.completion inst st
      queue := queue } = s')
    (hlt : st.weight + 13 * (queue inst).length <
      (s.completion inst).weight + 13 * (s.queue inst).length) :
    s'.Within X D ∧ s'.work X D < s.work X D := by
  subst hs
  refine ⟨⟨hw.inst, hw.device⟩, ?_⟩
  have hwork := completionWork_update (s := s) hX st _ hqueue
  show semaphoreWork s.semaphores X D +
    completionWork (Function.update s.completion inst st) queue X + issueWork s.issue D < _
  rw [ServerState.work]
  omega

theorem inputReady_lt (h : s.Linked config) (hw : s.Within X D)
    (hs : serverStep config s (.inputReady inst) = some s') :
    s'.Within X D ∧ s'.work X D < s.work X D := by
  rw [serverStep] at hs
  cases hcompletion : s.completion inst with
  | dequeued eventSetIdx =>
      simp only [hcompletion] at hs
      have hout := (callSemaphore_eq_some.mp hs).1
      have he := entered hs
      have hX : inst ∈ X := hw.mem_busy h (Or.inl (by simp [hcompletion]))
      have hsem := he.work hout hX (completion_mem (D := D) hX)
      have hwork := completionWork_update (s := s) hX (.releasing eventSetIdx) _ (fun x _ => rfl)
      rw [hcompletion] at hwork
      refine ⟨⟨he.home ▸ hw.inst, he.issue ▸ hw.device⟩, ?_⟩
      rw [ServerState.work, ServerState.work, hsem, he.issue, he.completion, he.queue]
      have hlock := lock_release_weight
      simp only [CompletionStage.weight] at hwork
      show semaphoreWork s.semaphores X D + _ + completionWork
        (Function.update s.completion inst (.releasing eventSetIdx)) s.queue X + issueWork s.issue D < _
      omega
  | _ => simp only [hcompletion] at hs; cases hs

theorem semaphore_lt (h : s.Linked config) (hw : s.Within X D)
    {a : Monitor.Action (ServerThread ι) SemaphoreOp} (ha : a.Internal)
    (hs : serverStep config s (.semaphore inst a) = some s') :
    s'.Within X D ∧ s'.work X D < s.work X D := by
  obtain ⟨-, m, hm, rfl⟩ := semaphoreStep_eq_some hs
  have hok := h.semaphores inst
  -- Somebody is in the semaphore, so it is one of a registered instance.
  have hX : inst ∈ X := by
    refine hw.mem_inst fun hnone => ?_
    have hlt := (Monitor.work_lt hok.attended hok.ok (B := ∅) (fun t _ => h.unused hnone t) ha hm).2
    exact Nat.not_lt_zero _ hlt
  have hlt := (Monitor.work_lt hok.attended hok.ok (B := serverThreads X D)
    (fun t ht => hw.outside h ht) ha hm).2
  have hsum := semaphoreWork_congr (s := s) (D := D) (m := Function.update s.semaphores inst m) hX
    fun x hx v => by rw [Function.update_of_ne hx]
  rw [Function.update_self] at hsum
  refine ⟨⟨hw.inst, hw.device⟩, ?_⟩
  show semaphoreWork (Function.update s.semaphores inst m) X D + completionWork s.completion s.queue X +
    issueWork s.issue D < _
  rw [ServerState.work]
  omega

/-- **An internal action leaves less work.** -/
theorem internal_lt (h : s.Linked config) (hw : s.Within X D) {a : ServerAction ι} (ha : a.Internal)
    (hs : serverStep config s a = some s') : s'.Within X D ∧ s'.work X D < s.work X D := by
  cases a with
  | register d inst => exact ha.elim
  | execute d => exact ha.elim
  | runFailed d => exact runFailed_lt h hw hs
  | runQueued d => exact runQueued_lt h hw hs
  | failReleased d => exact failReleased_lt h hw hs
  | acquired d => exact acquired_lt hw hs
  | inputReady inst => exact inputReady_lt h hw hs
  | semaphore inst a => exact semaphore_lt h hw ha hs
  | dequeue inst =>
      rw [serverStep] at hs
      cases hcompletion : s.completion inst with
      | waiting =>
          cases hqueue : s.queue inst with
          | nil =>
              simp only [hcompletion, hqueue] at hs
              cases hs
          | cons eventSetIdx rest =>
              simp only [hcompletion, hqueue] at hs
              have hX : inst ∈ X := hw.mem_busy h (Or.inr (by rw [hqueue]; exact List.cons_ne_nil _ _))
              refine completion_lt hw hX _ (fun x hx => Function.update_of_ne hx _ _)
                (Option.some.inj hs) ?_
              rw [Function.update_self, hcompletion, hqueue]
              simp only [CompletionStage.weight, List.length_cons]
              omega
      | _ => simp only [hcompletion] at hs; cases hs
  | released inst =>
      rw [serverStep] at hs
      cases hcompletion : s.completion inst with
      | releasing eventSetIdx =>
          simp only [hcompletion] at hs
          obtain ⟨-, hs⟩ := Option.ite_none_right_eq_some.mp hs
          have hX : inst ∈ X := hw.mem_busy h (Or.inl (by simp [hcompletion]))
          refine completion_lt hw hX _ (fun x _ => rfl) (Option.some.inj hs) ?_
          rw [hcompletion]
          simp only [CompletionStage.weight]
          omega
      | _ => simp only [hcompletion] at hs; cases hs
  | responded inst =>
      rw [serverStep] at hs
      cases hcompletion : s.completion inst with
      | responding =>
          simp only [hcompletion] at hs
          have hX : inst ∈ X := hw.mem_busy h (Or.inl (by simp [hcompletion]))
          refine completion_lt hw hX _ (fun x _ => rfl) (Option.some.inj hs) ?_
          rw [hcompletion]
          simp only [CompletionStage.weight]
          omega
      | _ => simp only [hcompletion] at hs; cases hs

/-! ### At rest -/

/-- At rest a thread that may be in a semaphore has left it, or it sleeps in `Acquire` where there
is no permit. -/
theorem ServerState.Linked.rest_semaphore (h : s.Linked config)
    (hrest : (Server ι config).AtRest ServerAction.Internal s) (x : ι) (u : ServerThread ι) :
    (s.semaphores x).phase u = .outside ∨
      (s.expected x u = some .acquire ∧ s.pending x u = some .acquire ∧
        (s.semaphores x).data.toNat = 0) := by
  have hok := h.semaphores x
  have hstuck : (Monitor.system semaphore 0).AtRest Monitor.Action.Internal (s.semaphores x) := by
    intro a ha
    have hnone : serverStep config s (.semaphore x a) = none := hrest (.semaphore x a) ha
    cases a with
    | call t op => exact ha.elim
    | _ => exact Option.map_eq_none_iff.mp hnone
  rcases Monitor.rest_blocked semaphore_counted hok.ok hok.attended hstuck u with
    hout | ⟨op, hop, -, hzero⟩
  · exact Or.inl hout
  · have hpending : s.pending x u = some op := by
      rw [ServerState.pending, hop]
      rfl
    have hn := hok.attended.patient u op hop
    cases op with
    | acquire => exact Or.inr ⟨h.expected_of_pending hpending, hpending, hzero⟩
    | release => cases hn

/-- At rest a completion thread waits on an empty queue. -/
theorem ServerState.Linked.rest_completion (h : s.Linked config)
    (hrest : (Server ι config).AtRest ServerAction.Internal s) (x : ι) :
    s.completion x = .waiting ∧ s.queue x = [] := by
  have hstuck : ∀ a : ServerAction ι, a.Internal → serverStep config s a = none :=
    fun a ha => hrest a ha
  -- The completion thread never acquires.
  have hout : (s.semaphores x).phase (.completion x) = .outside := by
    refine (h.rest_semaphore hrest x (.completion x)).resolve_right ?_
    rintro ⟨hexpected, -⟩
    have hexpected : (if x = x then (s.completion x).expected else none) = some .acquire := hexpected
    rw [if_pos rfl] at hexpected
    cases hcompletion : s.completion x with
    | releasing e => rw [hcompletion] at hexpected; cases hexpected
    | _ => rw [hcompletion] at hexpected; cases hexpected
  cases hcompletion : s.completion x with
  | responding =>
      have hnone := hstuck (.responded x) trivial
      simp only [serverStep, hcompletion] at hnone
      cases hnone
  | releasing e =>
      have hnone := hstuck (.released x) trivial
      have hleft : s.isOutside x (.completion x) = true := decide_eq_true hout
      simp only [serverStep, hcompletion, if_pos hleft] at hnone
      cases hnone
  | dequeued e =>
      have hnone := hstuck (.inputReady x) trivial
      simp only [serverStep, hcompletion] at hnone
      exact absurd hnone (callSemaphore_ne_none hout)
  | waiting =>
      refine ⟨rfl, ?_⟩
      cases hqueue : s.queue x with
      | nil => rfl
      | cons e rest =>
          have hnone := hstuck (.dequeue x) trivial
          simp only [serverStep, hcompletion, hqueue] at hnone
          cases hnone

/-- At rest a device executes nothing. -/
theorem ServerState.Linked.rest_device (h : s.Linked config)
    (hrest : (Server ι config).AtRest ServerAction.Internal s) (d : ℕ) : s.issue d = .idle := by
  have hstuck : ∀ a : ServerAction ι, a.Internal → serverStep config s a = none :=
    fun a ha => hrest a ha
  cases hissue : s.issue d with
  | idle => rfl
  | running current next =>
      exfalso
      have hout : (s.semaphores current).phase (.device d) = .outside :=
        h.device_outside (fun x => by rw [hissue]; rfl) current
      have hnone := hstuck (.runFailed d) trivial
      simp only [serverStep, hissue] at hnone
      exact absurd hnone (callSemaphore_ne_none hout)
  | failing current next =>
      exfalso
      have hout : ∀ x, (s.semaphores x).phase (.device d) = .outside := by
        intro x
        refine (h.rest_semaphore hrest x (.device d)).resolve_right ?_
        rintro ⟨hexpected, -⟩
        have hexpected : (s.issue d).expected x = some .acquire := hexpected
        rw [hissue] at hexpected
        obtain ⟨-, hop⟩ := Option.ite_none_right_eq_some.mp hexpected
        cases hop
      have hnone := hstuck (.failReleased d) trivial
      have hleft : s.isOutside current (.device d) = true := decide_eq_true (hout current)
      simp only [serverStep, hissue, if_pos hleft] at hnone
      exact absurd hnone (callSemaphore_ne_none (hout next))
  | acquiring next =>
      exfalso
      rcases h.rest_semaphore hrest next (.device d) with hout | ⟨-, hpending, hzero⟩
      · have hnone := hstuck (.acquired d) trivial
        have hleft : s.isOutside next (.device d) = true := decide_eq_true hout
        simp only [serverStep, hissue, if_pos hleft] at hnone
        cases hnone
      · -- All permits of `next` would be out, but none of its executions is under way.
        have hphase : s.permits.phase d = .acquiring next := by
          show (s.issue d).executePhase _ = _
          rw [hissue]
          exact if_pos hpending
        obtain ⟨il, hil⟩ := h.permits.list_of_phase (by rw [hphase]; simp)
        have hget := h.permits.acquiring d il next hil hphase
        have hconserved := h.permits.conserved d il hil next (List.mem_of_getElem? hget)
        rw [PermitState.unreleased, hphase] at hconserved
        obtain ⟨hwaiting, hempty⟩ := h.rest_completion hrest next
        have hqueued : s.permits.queued next = 0 := by
          show (s.inFlight next).length = 0
          rw [ServerState.inFlight, hwaiting, hempty]
          rfl
        have hcount : s.permits.count next = 0 := hzero
        have hpos : 1 ≤ config.semaphoreCount := by
          rw [PipelineConfig.semaphoreCount]
          split <;> decide
        simp only [ExecutePhase.running, ExecutePhase.reserved] at hconserved
        omega

/-- At rest nobody is inside a semaphore. -/
theorem ServerState.Linked.rest_outside (h : s.Linked config)
    (hrest : (Server ι config).AtRest ServerAction.Internal s) (x : ι) (u : ServerThread ι) :
    (s.semaphores x).phase u = .outside := by
  refine h.outside ?_
  cases u with
  | device d =>
      show (s.issue d).expected x = none
      rw [h.rest_device hrest d]
      rfl
  | completion y =>
      show (if y = x then (s.completion y).expected else none) = none
      rw [(h.rest_completion hrest y).1]
      exact ite_self _

/-- Where every device is idle, every completion thread waits on an empty queue and nobody is inside
a semaphore, nothing goes on. -/
theorem atRest_of_idle (hissue : ∀ d, s.issue d = .idle)
    (hcompletion : ∀ x, s.completion x = .waiting) (hqueue : ∀ x, s.queue x = [])
    (hout : ∀ x u, (s.semaphores x).phase u = .outside) :
    (Server ι config).AtRest ServerAction.Internal s := by
  intro a ha
  show serverStep config s a = none
  cases a with
  | register d inst => exact ha.elim
  | execute d => exact ha.elim
  | runFailed d => rw [serverStep, hissue d]
  | runQueued d => rw [serverStep, hissue d]
  | failReleased d => rw [serverStep, hissue d]
  | acquired d => rw [serverStep, hissue d]
  | dequeue inst => rw [serverStep, hcompletion inst, hqueue inst]
  | inputReady inst => rw [serverStep, hcompletion inst]
  | released inst => rw [serverStep, hcompletion inst]
  | responded inst => rw [serverStep, hcompletion inst]
  | semaphore inst a =>
      have hrest : (Monitor.system semaphore 0).AtRest Monitor.Action.Internal (s.semaphores inst) :=
        Monitor.atRest_of_blocked fun u => Or.inl (hout inst u)
      have hnone : Monitor.step semaphore (s.semaphores inst) a = none := hrest a ha
      cases a with
      | call t op => exact ha.elim
      | _ => exact Option.map_eq_none_iff.mpr hnone

end Work

/-- With eager batching: the one execution under way behind another one fails, and both permits come
back. -/
def restSchedule : List (ServerAction ℕ) :=
  [.runFailed 0, .semaphore 0 (.lock (.device 0)), .semaphore 0 (.read (.device 0)),
    .semaphore 0 (.perform (.device 0) .release), .semaphore 0 (.notify (.device 0) none),
    .semaphore 0 (.unlock (.device 0)), .failReleased 0, .semaphore 0 (.lock (.device 0)),
    .semaphore 0 (.read (.device 0)), .semaphore 0 (.perform (.device 0) .acquire),
    .semaphore 0 (.unlock (.device 0)), .acquired 0, .dequeue 0, .inputReady 0,
    .semaphore 0 (.lock (.completion 0)), .semaphore 0 (.read (.completion 0)),
    .semaphore 0 (.perform (.completion 0) .release), .semaphore 0 (.notify (.completion 0) none),
    .semaphore 0 (.unlock (.completion 0)), .released 0, .responded 0]

/-- The state at rest. -/
theorem eager_rest {t : ServerState ℕ}
    (ht : (Server ℕ { eagerBatching := true }).run {} (eagerSchedule ++ restSchedule) = some t) :
    (∀ d, t.issue d = .idle) ∧ (∀ x, t.completion x = .waiting) ∧ (∀ x, t.queue x = []) ∧
      ∀ x thread, (t.semaphores x).phase thread = .outside := by
  cases ht
  refine ⟨fun d => ?_, fun x => ?_, fun x => ?_, fun x thread => ?_⟩
  · by_cases hd : d = 0
    · subst hd
      rfl
    · simp [Function.update_of_ne hd]
  · by_cases hx : x = 0
    · subst hx
      rfl
    · simp [Function.update_of_ne hx]
  · by_cases hx : x = 0
    · subst hx
      rfl
    · simp [Function.update_of_ne hx]
  · by_cases hx : x = 0
    · subst hx
      -- The last change of each thread's phase takes it outside.
      cases thread with
      | device d =>
          by_cases hd : d = 0
          · subst hd
            rfl
          · simp [Monitor.State.goto]
      | completion y =>
          by_cases hy : y = 0
          · subst hy
            rfl
          · simp [Monitor.State.goto]
    · simp [Function.update_of_ne hx]

end TensorrtBackend

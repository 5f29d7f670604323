import TensorrtBackend.Lib.Turns
import TensorrtBackend.Permits
import TensorrtBackend.Pipeline
import TensorrtBackend.Semaphore

/-!
# The threads of a device-blocked model

The threads that execute on the devices and the completion threads of the instances, on the
semaphores as they are: an `Acquire` or a `Release` is a call of the monitor that takes its own
steps, between which all other threads take theirs.  Payloads carry their `event_set_idx_` through
the completion queue.  A model whose states are updated has sequence batching and no device-blocking
arbitrator, so nothing stops a completion thread here.

* `Server`: the transition system of the threads.
* `ServerState.permits`: what is seen of it at the steps that change a count.
-/

namespace TensorrtBackend

variable {ι : Type}

/-- The threads that use the semaphores. -/
inductive ServerThread (ι : Type)
  /-- The one that calls `TRITONBACKEND_ModelInstanceExecute` for a device. -/
  | device (deviceId : ℕ)
  | completion (inst : ι)
  deriving DecidableEq

/-- How far the `TRITONBACKEND_ModelInstanceExecute` call of a device has got. -/
inductive IssueStage (ι : Type)
  | idle
  /-- `Run` of `current`; the semaphore of `next` will be acquired. -/
  | running (current next : ι)
  /-- `semaphore_->Release()` behind a failed `Run`. -/
  | failing (current next : ι)
  /-- `semaphore->Acquire()`. -/
  | acquiring (next : ι)

/-- How far a completion thread has got with the payload on an event set. -/
inductive CompletionStage
  | waiting
  /-- `cudaEventSynchronize(ready_for_input_)`. -/
  | dequeued (eventSetIdx : ℕ)
  /-- `semaphore_->Release()`. -/
  | releasing (eventSetIdx : ℕ)
  | responding

/-- The arbitrator's lists, the device of each registered instance, the semaphores, where the
threads are, `next_set_` and the event sets of the payloads on each completion queue. -/
structure ServerState (ι : Type) where
  devices : DeviceInstances ι := fun _ => none
  home : ι → Option ℕ := fun _ => none
  semaphores : ι → Monitor.State (ServerThread ι) ℤ SemaphoreOp := fun _ => { data := 0 }
  issue : ℕ → IssueStage ι := fun _ => .idle
  completion : ι → CompletionStage := fun _ => .waiting
  nextSet : ι → ℕ := fun _ => 0
  queue : ι → List ℕ := fun _ => []

inductive ServerAction (ι : Type)
  | register (deviceId : ℕ) (inst : ι)
  | execute (deviceId : ℕ)
  | runFailed (deviceId : ℕ)
  | runQueued (deviceId : ℕ)
  /-- `Release` behind a failed `Run` has returned. -/
  | failReleased (deviceId : ℕ)
  /-- `Acquire` has returned, and `TRITONBACKEND_ModelInstanceExecute` returns. -/
  | acquired (deviceId : ℕ)
  | dequeue (inst : ι)
  | inputReady (inst : ι)
  /-- `Release` of the completion thread has returned. -/
  | released (inst : ι)
  | responded (inst : ι)
  /-- A step inside the semaphore of `inst`. -/
  | semaphore (inst : ι) (a : Monitor.Action (ServerThread ι) SemaphoreOp)

section Step

variable [DecidableEq ι]

/-- The thread enters the semaphore of `inst`. -/
def ServerState.callSemaphore (s : ServerState ι) (inst : ι) (thread : ServerThread ι)
    (op : SemaphoreOp) : Option (ServerState ι) :=
  (Monitor.step semaphore (s.semaphores inst) (.call thread op)).map fun m =>
    { s with semaphores := Function.update s.semaphores inst m }

/-- Whether the thread is in no operation of the semaphore of `inst`. -/
def ServerState.isOutside (s : ServerState ι) (inst : ι) (thread : ServerThread ι) : Bool :=
  (s.semaphores inst).phase thread = .outside

/-- One step; `none` when it is blocked or not enabled. -/
def serverStep (config : PipelineConfig) (s : ServerState ι) : ServerAction ι → Option (ServerState ι)
  | .register deviceId inst =>
      if (s.home inst).isSome then none
      else
        let count : ℤ :=
          if (s.devices deviceId).isNone then config.semaphoreCount - 1 else config.semaphoreCount
        some { s with
          devices := registerInstance s.devices deviceId inst
          semaphores := Function.update s.semaphores inst { data := count }
          home := Function.update s.home inst (some deviceId) }
  | .execute deviceId =>
      match s.issue deviceId with
      | .idle =>
          (executionState s.devices deviceId).map fun r =>
            { s with
              devices := r.2
              issue := Function.update s.issue deviceId (.running r.1.1 r.1.2) }
      | _ => none
  | .runFailed deviceId =>
      match s.issue deviceId with
      | .running current next =>
          ({ s with issue := Function.update s.issue deviceId (.failing current next) }).callSemaphore
            current (.device deviceId) .release
      | _ => none
  | .runQueued deviceId =>
      match s.issue deviceId with
      | .running current next =>
          ({ s with
            issue := Function.update s.issue deviceId (.acquiring next)
            queue := Function.update s.queue current (s.queue current ++ [s.nextSet current])
            nextSet := Function.update s.nextSet current
              ((s.nextSet current + 1) % eventSetCount) }).callSemaphore
            next (.device deviceId) .acquire
      | _ => none
  | .failReleased deviceId =>
      match s.issue deviceId with
      | .failing current next =>
          if s.isOutside current (.device deviceId) then
            ({ s with issue := Function.update s.issue deviceId (.acquiring next) }).callSemaphore
              next (.device deviceId) .acquire
          else none
      | _ => none
  | .acquired deviceId =>
      match s.issue deviceId with
      | .acquiring next =>
          if s.isOutside next (.device deviceId) then
            some { s with issue := Function.update s.issue deviceId .idle }
          else none
      | _ => none
  | .dequeue inst =>
      match s.completion inst, s.queue inst with
      | .waiting, eventSetIdx :: rest =>
          some { s with
            completion := Function.update s.completion inst (.dequeued eventSetIdx)
            queue := Function.update s.queue inst rest }
      | _, _ => none
  | .inputReady inst =>
      match s.completion inst with
      | .dequeued eventSetIdx =>
          ({ s with
            completion := Function.update s.completion inst (.releasing eventSetIdx) }).callSemaphore
            inst (.completion inst) .release
      | _ => none
  | .released inst =>
      match s.completion inst with
      | .releasing _ =>
          if s.isOutside inst (.completion inst) then
            some { s with completion := Function.update s.completion inst .responding }
          else none
      | _ => none
  | .responded inst =>
      match s.completion inst with
      | .responding => some { s with completion := Function.update s.completion inst .waiting }
      | _ => none
  | .semaphore _ (.call _ _) => none
  | .semaphore inst a =>
      (Monitor.step semaphore (s.semaphores inst) a).map fun m =>
        { s with semaphores := Function.update s.semaphores inst m }

/-- The threads of a model under the device-blocking arbitrator. -/
def Server (ι : Type) [DecidableEq ι] (config : PipelineConfig) :
    StepSystem (ServerState ι) (ServerAction ι) where
  init s := s = {}
  step := serverStep config

/-! ### What is seen of it at the counts -/

/-- The operation a thread has called on the semaphore of `inst` and not yet performed. -/
def ServerState.pending (s : ServerState ι) (inst : ι) (thread : ServerThread ι) :
    Option SemaphoreOp :=
  ((s.semaphores inst).phase thread).pending

/-- Whether a completion thread still holds the permit of the payload it has dequeued; `pending` is
its operation on its semaphore. -/
def CompletionStage.inFlight (pending : Option SemaphoreOp) : CompletionStage → List ℕ
  | .dequeued eventSetIdx => [eventSetIdx]
  | .releasing eventSetIdx => if pending = some .release then [eventSetIdx] else []
  | _ => []

/-- The event sets of the executions whose permits the completion thread has not released, the
oldest first. -/
def ServerState.inFlight (s : ServerState ι) (inst : ι) : List ℕ :=
  (s.completion inst).inFlight (s.pending inst (.completion inst)) ++ s.queue inst

/-- Where the execution of a device is, going by the counts. -/
def IssueStage.executePhase (pending : ι → Option SemaphoreOp) : IssueStage ι → ExecutePhase ι
  | .idle => .idle
  | .running current next => .issuing current next
  | .failing current next =>
      if pending current = some .release then .issuing current next else .acquiring next
  | .acquiring next => if pending next = some .acquire then .acquiring next else .idle

/-- The state of `Permits`. -/
def ServerState.permits (s : ServerState ι) : PermitState ι where
  devices := s.devices
  count inst := (s.semaphores inst).data.toNat
  queued inst := (s.inFlight inst).length
  phase deviceId := (s.issue deviceId).executePhase fun inst => s.pending inst (.device deviceId)
  home := s.home

/-- The steps of `Permits` an action comes to. -/
def ServerAction.permitActions : ServerAction ι → List (PermitAction ι)
  | .register deviceId inst => [.register deviceId inst]
  | .execute deviceId => [.execute deviceId]
  | .runQueued deviceId => [.runQueued deviceId]
  | .semaphore _ (.perform (.device deviceId) .release) => [.runFailed deviceId]
  | .semaphore _ (.perform (.device deviceId) .acquire) => [.acquire deviceId]
  | .semaphore _ (.perform (.completion inst) _) => [.release inst]
  | _ => []

/-! ### Where a thread may be -/

/-- The operation the thread of a device may be in, on the semaphore of `inst`. -/
def IssueStage.expected (inst : ι) : IssueStage ι → Option SemaphoreOp
  | .failing current _ => if current = inst then some .release else none
  | .acquiring next => if next = inst then some .acquire else none
  | _ => none

/-- The operation a completion thread may be in, on its semaphore. -/
def CompletionStage.expected : CompletionStage → Option SemaphoreOp
  | .releasing _ => some .release
  | _ => none

/-- The operation a thread may be in, on the semaphore of `inst`. -/
def ServerState.expected (s : ServerState ι) (inst : ι) : ServerThread ι → Option SemaphoreOp
  | .device deviceId => (s.issue deviceId).expected inst
  | .completion owner => if owner = inst then (s.completion owner).expected else none

variable {s s' : ServerState ι} {inst x : ι} {thread v : ServerThread ι} {op : SemaphoreOp} {d : ℕ}

theorem callSemaphore_eq_some : s.callSemaphore inst thread op = some s' ↔
    (s.semaphores inst).phase thread = .outside ∧ { s with
      semaphores := Function.update s.semaphores inst
        ((s.semaphores inst).goto thread (.locking op)) } = s' := by
  rw [ServerState.callSemaphore, Option.map_eq_some_iff]
  constructor
  · rintro ⟨m, hm, hs⟩
    obtain ⟨hout, rfl⟩ := Monitor.call_eq_some.mp hm
    exact ⟨hout, hs⟩
  · rintro ⟨hout, hs⟩
    exact ⟨_, Monitor.call_eq_some.mpr ⟨hout, rfl⟩, hs⟩

/-- A thread that is in no operation of a semaphore can enter it. -/
theorem callSemaphore_ne_none (hout : (s.semaphores inst).phase thread = .outside) :
    s.callSemaphore inst thread op ≠ none := by
  rw [callSemaphore_eq_some.mpr ⟨hout, rfl⟩]
  exact Option.some_ne_none _

/-- Another stage of one device. -/
theorem expected_issue {st : IssueStage ι} (hissue : s'.issue = Function.update s.issue d st)
    (hcompletion : s'.completion = s.completion) :
    s'.expected x (.device d) = st.expected x ∧
      (v ≠ .device d → s'.expected x v = s.expected x v) := by
  constructor
  · show (s'.issue d).expected x = st.expected x
    rw [hissue, Function.update_self]
  · intro hv
    cases v with
    | completion y =>
        show (if y = x then (s'.completion y).expected else none) = _
        rw [hcompletion]
        rfl
    | device d' =>
        have hne : d' ≠ d := fun hd => hv (by rw [hd])
        show (s'.issue d').expected x = (s.issue d').expected x
        rw [hissue, Function.update_of_ne hne]

/-- Another stage of one completion thread. -/
theorem expected_completion {st : CompletionStage} (hissue : s'.issue = s.issue)
    (hcompletion : s'.completion = Function.update s.completion inst st) :
    s'.expected inst (.completion inst) = st.expected ∧
      (v ≠ .completion inst → s'.expected x v = s.expected x v) := by
  constructor
  · show (if inst = inst then (s'.completion inst).expected else none) = st.expected
    rw [if_pos rfl, hcompletion, Function.update_self]
  · intro hv
    cases v with
    | completion y =>
        have hne : y ≠ inst := fun hy => hv (by rw [hy])
        show (if y = x then (s'.completion y).expected else none) =
          if y = x then (s.completion y).expected else none
        rw [hcompletion, Function.update_of_ne hne]
    | device d' =>
        show (s'.issue d').expected x = (s.issue d').expected x
        rw [hissue]

omit [DecidableEq ι] in
theorem permits_ext {p q : PermitState ι} (hdevices : p.devices = q.devices)
    (hcount : ∀ x, p.count x = q.count x) (hqueued : ∀ x, p.queued x = q.queued x)
    (hphase : ∀ d, p.phase d = q.phase d) (hhome : p.home = q.home) : p = q := by
  cases p
  cases q
  obtain rfl := hdevices
  obtain rfl := funext hcount
  obtain rfl := funext hqueued
  obtain rfl := funext hphase
  obtain rfl := hhome
  rfl

omit [DecidableEq ι] in
/-- A step that changes nothing at the counts. -/
theorem permits_congr (hdevices : s'.devices = s.devices) (hhome : s'.home = s.home)
    (hdata : ∀ x, (s'.semaphores x).data = (s.semaphores x).data)
    (hflight : ∀ x, (s'.inFlight x).length = (s.inFlight x).length)
    (hphase : ∀ d, s'.permits.phase d = s.permits.phase d) : s'.permits = s.permits :=
  permits_ext hdevices (fun x => congrArg Int.toNat (hdata x)) hflight hphase hhome

end Step

end TensorrtBackend

import TensorrtBackend.GraphPairing
import TensorrtBackend.Lib.Transition

/-!
# The issue thread and the completion thread

One instance with a separate output stream under the instance-blocking arbitrator.  The issue thread
runs an execution, enqueues its payload and acquires a permit for the next one; the completion
thread releases that permit as soon as the inputs are consumed, while it goes on to read the events
of the payload.  Event sets are used modulo `EVENT_SET_COUNT` and buffer sets modulo two, each
advanced by a successful `Run` only.

`output_ready_` of an event set marks a position of the output stream.  Positions are counted, so
that to wait for a record is to wait for all records before it.

* `Pipeline`: the transition system of both threads.
* `pipelineStep_cases`: what each step does.
-/

namespace TensorrtBackend

/-- Number of buffer sets of an instance with a separate output stream. -/
def outputBufferSets : ℕ := 2

/-- The settings that decide how far the two threads may be apart. -/
structure PipelineConfig where
  eagerBatching : Bool
  usesImplicitState : Bool := false
  enableStats : Bool := true

/-- `InitSemaphore`. -/
def PipelineConfig.semaphoreCount (config : PipelineConfig) : ℕ :=
  if config.eagerBatching then eventSetCount else 1

/-- A payload on `completion_queue_`: the number of its execution and `event_set_idx_`. -/
structure QueueEntry where
  exec : ℕ
  eventSetIdx : ℕ
  deriving DecidableEq

/-- Where the issue thread is. -/
inductive IssuePhase
  /-- It holds the permit for the next execution. -/
  | ready
  /-- In `Run`, recording on the events of `next_set_`. -/
  | running
  /-- `stream_` waits for `output_ready_`; the work is enqueued next. -/
  | waited
  | enqueued
  /-- `barrier_->get_future().wait()`. -/
  | barrier
  /-- `semaphore->Acquire()`. -/
  | acquiring
  deriving DecidableEq

/-- Where the completion thread is. -/
inductive CompletionPhase
  | waiting
  /-- `cudaEventSynchronize(ready_for_input_)`. -/
  | dequeued (p : QueueEntry)
  /-- The semaphore is released; the outputs are being finished. -/
  | released (p : QueueEntry)
  /-- Behind `cudaEventSynchronize(output_ready_)`; the states are being updated. -/
  | synced (p : QueueEntry)
  /-- The barrier is fulfilled; the timing events are being read. -/
  | updated (p : QueueEntry)
  | responding
  /-- Out of the thread by a failed state update. -/
  | exited
  deriving DecidableEq

/-- Both threads, the semaphore, the events, and the history the properties speak of: the number of
successful executions and of dequeued payloads, the output record of each execution, the executions
whose outputs were synchronized with, the last execution on each buffer set, and the number of
successful executions there were when a failed `Run` last recorded `output_ready_`. -/
structure PipelineState where
  indices : SetIndices := {}
  count : ℕ
  issue : IssuePhase := .ready
  queue : List QueueEntry := []
  completion : CompletionPhase := .waiting
  barrierFulfilled : Bool := false
  records : ℕ := 0
  outputReady : ℕ → ℕ := fun _ => 0
  streamWaited : ℕ := 0
  executions : ℕ := 0
  dequeued : ℕ := 0
  outputRecord : ℕ → ℕ := fun _ => 0
  outputSynced : ℕ → Bool := fun _ => false
  lastUse : ℕ → Option ℕ := fun _ => none
  failedRecord : Option ℕ := none

/-- The steps of the two threads. -/
inductive PipelineAction
  | runStart
  /-- `cudaStreamWaitEvent(stream_, events_[next_set_].output_ready_)`. -/
  | streamWait
  /-- `cudaGraphLaunch` or `Enqueue`. -/
  | enqueue
  /-- `Run` fails and the permit is put back; whether it has recorded `output_ready_`. -/
  | runFail (recorded : Bool)
  /-- `Run` has recorded `output_ready_` behind its output copies, and the payload is enqueued. -/
  | runSucceed
  | barrierPass
  | acquire
  | dequeue
  | release
  | outputSync
  | stateUpdated
  | stateUpdateFailed
  | readStats
  | respond
  deriving DecidableEq

/-- `cudaEventRecord(events_[next_set_].output_ready_, output_copy_stream_)`. -/
def PipelineState.record (s : PipelineState) : PipelineState :=
  { s with
    records := s.records + 1
    outputReady := Function.update s.outputReady s.indices.nextSet (s.records + 1) }

/-- What a successful `Run` leaves to `ProcessRequests` and what that does with it. -/
def PipelineState.succeed (config : PipelineConfig) (s : PipelineState) : PipelineState :=
  { s.record with
    issue := if config.usesImplicitState then .barrier else .acquiring
    indices := processRequestsIndices outputBufferSets s.indices true
    queue := s.queue ++ [⟨s.executions, s.indices.nextSet⟩]
    executions := s.executions + 1
    outputRecord := Function.update s.outputRecord s.executions (s.records + 1)
    lastUse := Function.update s.lastUse s.indices.nextBufferBindingSet (some s.executions) }

/-- What a failed `Run` leaves behind. -/
def PipelineState.fail (s : PipelineState) (recorded : Bool) : PipelineState :=
  let s := if recorded then { s.record with failedRecord := some s.executions } else s
  { s with
    issue := .acquiring
    count := s.count + 1
    indices := processRequestsIndices outputBufferSets s.indices false }

/-- A phase between `Run`'s first record on the events and its end. -/
def IssuePhase.inRun : IssuePhase → Bool
  | .running | .waited | .enqueued => true
  | _ => false

/-- One step; `none` when it is blocked or not enabled. -/
def pipelineStep (config : PipelineConfig) (s : PipelineState) : PipelineAction → Option PipelineState
  | .runStart =>
      if s.issue = .ready then some { s with issue := .running, barrierFulfilled := false } else none
  | .streamWait =>
      if s.issue = .running then
        some { s with
          issue := .waited
          streamWaited := max s.streamWaited (s.outputReady s.indices.nextSet) }
      else none
  | .enqueue => if s.issue = .waited then some { s with issue := .enqueued } else none
  | .runFail recorded =>
      if s.issue.inRun ∧ (recorded → s.issue = .enqueued) then some (s.fail recorded) else none
  | .runSucceed => if s.issue = .enqueued then some (s.succeed config) else none
  | .barrierPass =>
      if s.issue = .barrier ∧ s.barrierFulfilled then some { s with issue := .acquiring } else none
  | .acquire =>
      if s.issue = .acquiring ∧ 0 < s.count then
        some { s with issue := .ready, count := s.count - 1 }
      else none
  | .dequeue =>
      match s.completion, s.queue with
      | .waiting, p :: queue =>
          some { s with completion := .dequeued p, queue := queue, dequeued := s.dequeued + 1 }
      | _, _ => none
  | .release =>
      match s.completion with
      | .dequeued p => some { s with completion := .released p, count := s.count + 1 }
      | _ => none
  | .outputSync =>
      match s.completion with
      | .released p =>
          some { s with
            completion := .synced p
            outputSynced := Function.update s.outputSynced p.exec true }
      | _ => none
  | .stateUpdated =>
      match s.completion with
      | .synced p => some { s with completion := .updated p, barrierFulfilled := true }
      | _ => none
  | .stateUpdateFailed =>
      match s.completion with
      | .synced _ => some { s with completion := .exited }
      | _ => none
  | .readStats =>
      match s.completion with
      | .updated _ => some { s with completion := .responding }
      | _ => none
  | .respond =>
      match s.completion with
      | .responding => some { s with completion := .waiting }
      | _ => none

/-- The state after loading: the first permit is held, the buffer set index may be either. -/
def PipelineState.initial (config : PipelineConfig) (bufferSet : ℕ) : PipelineState where
  indices := { nextBufferBindingSet := bufferSet }
  count := config.semaphoreCount - 1

/-- The executions of one instance. -/
def Pipeline (config : PipelineConfig) : StepSystem PipelineState PipelineAction where
  init s := ∃ bufferSet < outputBufferSets, s = .initial config bufferSet
  step := pipelineStep config

/-- `pipelineStep`, action by action. -/
inductive PipelineStep (config : PipelineConfig) (s : PipelineState) :
    PipelineAction → PipelineState → Prop
  | runStart (h : s.issue = .ready) :
      PipelineStep config s .runStart { s with issue := .running, barrierFulfilled := false }
  | streamWait (h : s.issue = .running) :
      PipelineStep config s .streamWait { s with
        issue := .waited
        streamWaited := max s.streamWaited (s.outputReady s.indices.nextSet) }
  | enqueue (h : s.issue = .waited) : PipelineStep config s .enqueue { s with issue := .enqueued }
  | runFail (recorded : Bool) (h : s.issue.inRun = true) :
      PipelineStep config s (.runFail recorded) (s.fail recorded)
  | runSucceed (h : s.issue = .enqueued) : PipelineStep config s .runSucceed (s.succeed config)
  | barrierPass (h : s.issue = .barrier) (hf : s.barrierFulfilled = true) :
      PipelineStep config s .barrierPass { s with issue := .acquiring }
  | acquire (h : s.issue = .acquiring) (hc : 0 < s.count) :
      PipelineStep config s .acquire { s with issue := .ready, count := s.count - 1 }
  | dequeue (h : s.completion = .waiting) (p : QueueEntry) (queue : List QueueEntry)
      (hq : s.queue = p :: queue) :
      PipelineStep config s .dequeue
        { s with completion := .dequeued p, queue := queue, dequeued := s.dequeued + 1 }
  | release (p : QueueEntry) (h : s.completion = .dequeued p) :
      PipelineStep config s .release { s with completion := .released p, count := s.count + 1 }
  | outputSync (p : QueueEntry) (h : s.completion = .released p) :
      PipelineStep config s .outputSync { s with
        completion := .synced p
        outputSynced := Function.update s.outputSynced p.exec true }
  | stateUpdated (p : QueueEntry) (h : s.completion = .synced p) :
      PipelineStep config s .stateUpdated
        { s with completion := .updated p, barrierFulfilled := true }
  | stateUpdateFailed (p : QueueEntry) (h : s.completion = .synced p) :
      PipelineStep config s .stateUpdateFailed { s with completion := .exited }
  | readStats (p : QueueEntry) (h : s.completion = .updated p) :
      PipelineStep config s .readStats { s with completion := .responding }
  | respond (h : s.completion = .responding) :
      PipelineStep config s .respond { s with completion := .waiting }

/-- Every step is one of these. -/
theorem pipelineStep_cases {config : PipelineConfig} {s t : PipelineState} {a : PipelineAction}
    (h : pipelineStep config s a = some t) : PipelineStep config s a t := by
  cases a with
  | runStart =>
      simp only [pipelineStep] at h
      split at h
      · rename_i hp
        cases h
        exact .runStart hp
      · cases h
  | streamWait =>
      simp only [pipelineStep] at h
      split at h
      · rename_i hp
        cases h
        exact .streamWait hp
      · cases h
  | enqueue =>
      simp only [pipelineStep] at h
      split at h
      · rename_i hp
        cases h
        exact .enqueue hp
      · cases h
  | runFail recorded =>
      simp only [pipelineStep] at h
      split at h
      · rename_i hp
        cases h
        exact .runFail recorded hp.1
      · cases h
  | runSucceed =>
      simp only [pipelineStep] at h
      split at h
      · rename_i hp
        cases h
        exact .runSucceed hp
      · cases h
  | barrierPass =>
      simp only [pipelineStep] at h
      split at h
      · rename_i hp
        cases h
        exact .barrierPass hp.1 hp.2
      · cases h
  | acquire =>
      simp only [pipelineStep] at h
      split at h
      · rename_i hp
        cases h
        exact .acquire hp.1 hp.2
      · cases h
  | dequeue =>
      simp only [pipelineStep] at h
      split at h
      · rename_i p queue hp hq
        cases h
        exact .dequeue hp p queue hq
      · cases h
  | release =>
      simp only [pipelineStep] at h
      split at h
      · rename_i p hp
        cases h
        exact .release p hp
      · cases h
  | outputSync =>
      simp only [pipelineStep] at h
      split at h
      · rename_i p hp
        cases h
        exact .outputSync p hp
      · cases h
  | stateUpdated =>
      simp only [pipelineStep] at h
      split at h
      · rename_i p hp
        cases h
        exact .stateUpdated p hp
      · cases h
  | stateUpdateFailed =>
      simp only [pipelineStep] at h
      split at h
      · rename_i p hp
        cases h
        exact .stateUpdateFailed p hp
      · cases h
  | readStats =>
      simp only [pipelineStep] at h
      split at h
      · rename_i p hp
        cases h
        exact .readStats p hp
      · cases h
  | respond =>
      simp only [pipelineStep] at h
      split at h
      · rename_i hp
        cases h
        exact .respond hp
      · cases h

end TensorrtBackend

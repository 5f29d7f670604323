import TensorrtBackend.PipelineInvariant

/-!
# How far the two threads may overlap

The permit of a payload is released before its outputs are finished and its events are read, so with
eager batching three earlier payloads can be unfinished when `Run` starts, and two can be waiting
for their outputs when it enqueues work on the buffers of the older one.

* `eventSets_unshared_iff`: when `Run` has an event set for itself.
* `outputs_ordered_iff`: when the outputs of the previous execution on the buffers come first.
-/

namespace TensorrtBackend

open StepSystem

variable {config : PipelineConfig}

/-! ### Event sets -/

/-- The payload whose event set the completion thread has not read for the last time.  The timing
events are read for the statistics only. -/
def CompletionPhase.reads (enableStats : Bool) : CompletionPhase → Option QueueEntry
  | .dequeued p | .released p => some p
  | .synced p | .updated p => if enableStats then some p else none
  | _ => none

/-- The payloads that are on the queue or being processed up to the last read of their event set. -/
def PipelineState.unfinished (config : PipelineConfig) (s : PipelineState) : List QueueEntry :=
  (s.completion.reads config.enableStats).toList ++ s.queue

/-- No unfinished payload has the event set `Run` is going to record on. -/
def EventSetUnshared (config : PipelineConfig) (s : PipelineState) : Prop :=
  ∀ p ∈ s.unfinished config, p.eventSetIdx ≠ s.indices.nextSet

theorem CompletionPhase.payload_of_reads {enableStats : Bool} {phase : CompletionPhase}
    {p : QueueEntry} (h : phase.reads enableStats = some p) : phase.payload = some p := by
  cases phase with
  | dequeued q | released q => exact h
  | synced q | updated q =>
      cases enableStats with
      | false => cases h
      | true => exact h
  | waiting | responding | exited => cases h

/-- The unfinished payloads are those of the last executions. -/
theorem unfinished_eq {s : PipelineState} (h : s.Ok config) :
    ∃ d, s.executions = d + (s.unfinished config).length ∧
      s.unfinished config = (List.range' d (s.unfinished config).length).map queueEntry := by
  have hexec := h.queue.executions
  have hqueue := h.queue.queue
  cases hreads : s.completion.reads config.enableStats with
  | none =>
      have hlist : s.unfinished config = s.queue := by
        rw [PipelineState.unfinished, hreads]
        rfl
      rw [hlist]
      exact ⟨s.dequeued, hexec, hqueue⟩
  | some p =>
      have hlist : s.unfinished config = p :: s.queue := by
        rw [PipelineState.unfinished, hreads]
        rfl
      obtain ⟨hp, hdeq⟩ := h.queue.held p (CompletionPhase.payload_of_reads hreads)
      refine ⟨p.exec, ?_, ?_⟩
      · rw [hlist, List.length_cons]
        omega
      · rw [hlist, List.length_cons, List.range'_succ, List.map_cons, ← hdeq, ← hqueue, ← hp]

/-- `Run` has its event set for itself exactly when fewer payloads are unfinished than there are
event sets. -/
theorem eventSetUnshared_iff {s : PipelineState} (h : s.Ok config) :
    EventSetUnshared config s ↔ (s.unfinished config).length < eventSetCount := by
  obtain ⟨d, hexec, hlist⟩ := unfinished_eq h
  have hnext := h.indices.eventSet
  rw [hexec] at hnext
  constructor
  · intro hun
    by_contra hge
    have hmem : queueEntry (d + (s.unfinished config).length - eventSetCount) ∈
        s.unfinished config := by
      rw [hlist]
      refine List.mem_map_of_mem (List.mem_range'_1.mpr ?_)
      rw [List.length_map, List.length_range']
      unfold eventSetCount at hge ⊢
      omega
    refine hun _ hmem ?_
    rw [hnext]
    show (d + (s.unfinished config).length - eventSetCount) % eventSetCount = _
    unfold eventSetCount at hge ⊢
    omega
  · intro hlt p hp
    rw [hlist] at hp
    obtain ⟨i, hi, rfl⟩ := List.mem_map.mp hp
    have hi' := List.mem_range'_1.mp hi
    rw [hnext]
    show i % eventSetCount ≠ _
    unfold eventSetCount at hlt ⊢
    omega

/-- Without eager batching, or with a barrier, nothing is queued while a permit is held for a
run. -/
theorem queue_empty_of_permit {s : PipelineState} (h : s.Ok config)
    (hconfig : config.eagerBatching = false ∨ config.usesImplicitState = true)
    (hp : s.issue = .ready ∨ s.issue = .waited) :
    s.queue.length = 0 ∧ s.completion.unreleased = 0 := by
  have hpermit : s.issue.permit = 1 := by rcases hp with hp | hp <;> rw [hp] <;> rfl
  have hne : s.issue ≠ .barrier := by rcases hp with hp | hp <;> rw [hp] <;> decide
  rcases hconfig with heager | himp
  · have hpermits := h.queue.permits
    have hcount : config.semaphoreCount = 1 := by
      rw [PipelineConfig.semaphoreCount, heager]
      rfl
    omega
  · have hbar := h.queue.barrier himp
    rw [PipelineState.awaited_of_ne hne] at hbar
    have hle : s.completion.unreleased ≤ s.completion.pending := by
      cases s.completion <;> first | exact Nat.le_refl _ | exact Nat.zero_le _
    omega

/-- **When the event sets are not shared.** Each time a run of the instance starts `Run`, no earlier
payload that is queued or being processed has the event set of `next_set_`, if and only if each time
at most two earlier payloads are.  Without eager batching, or with an implicit state, that is always
so. -/
theorem eventSets_unshared_iff {s t : PipelineState} {as : List PipelineAction}
    (h₀ : (Pipeline config).init s) (hr : (Pipeline config).run s as = some t) :
    ((Pipeline config).AtEvery s as .runStart (EventSetUnshared config) ↔
        (Pipeline config).AtEvery s as .runStart
          fun u => (u.unfinished config).length < eventSetCount) ∧
      (config.eagerBatching = false ∨ config.usesImplicitState = true →
        (Pipeline config).AtEvery s as .runStart (EventSetUnshared config)) := by
  have hreach := Reachable.of_init h₀
  have hok : ∀ u, (Pipeline config).Reachable u → u.Ok config :=
    fun u hu => hu.of_inductive (pipeline_inductive config)
  refine ⟨?_, fun hconfig => ?_⟩
  · exact atEvery_congr (fun u v hu _ => eventSetUnshared_iff (hok u hu)) hreach hr
  · refine AtEvery.of_reachable (fun u v hu hv => ?_) hreach hr
    have hready : u.issue = .ready := by
      have hstep : pipelineStep config u .runStart = some v := hv
      cases pipelineStep_cases hstep with
      | runStart hp => exact hp
    have hempty := queue_empty_of_permit (hok u hu) hconfig (Or.inl hready)
    rw [eventSetUnshared_iff (hok u hu), PipelineState.unfinished, List.length_append, hempty.1]
    have hone : (u.completion.reads config.enableStats).toList.length ≤ 1 := by
      cases u.completion.reads config.enableStats with
      | none => exact Nat.zero_le 1
      | some p => exact Nat.le_refl 1
    unfold eventSetCount
    omega

/-- The issue thread through one successful execution, up to the permit for the next. -/
def issueExecution : List PipelineAction := [.runStart, .streamWait, .enqueue, .runSucceed, .acquire]

/-- The theorem for two executions without eager batching, the second of which starts while the
outputs of the first are being finished. -/
theorem eventSets_unshared_two :
    (Pipeline { eagerBatching := false }).AtEvery (.initial { eagerBatching := false } 0)
      [.runStart, .streamWait, .enqueue, .runSucceed, .dequeue, .release, .acquire, .runStart]
      .runStart (EventSetUnshared { eagerBatching := false }) :=
  (eventSets_unshared_iff ⟨0, by decide, rfl⟩ rfl).2 (Or.inl rfl)

/-- **The slip**: with eager batching the fourth execution starts on the event set of the first
while the completion thread still finishes the outputs of the first. -/
theorem eventSets_shared_eager :
    ∃ s, (Pipeline { eagerBatching := true }).run (.initial { eagerBatching := true } 0)
        (issueExecution ++ issueExecution ++
          [.runStart, .streamWait, .enqueue, .runSucceed, .dequeue, .release, .acquire]) = some s ∧
      s.issue = .ready ∧ s.completion = .released ⟨0, 0⟩ ∧
      ¬ EventSetUnshared { eagerBatching := true } s := by
  refine ⟨_, rfl, rfl, rfl, fun h => ?_⟩
  exact h ⟨0, 0⟩ List.mem_cons_self rfl

/-! ### Output buffers -/

/-- The outputs of the last successful execution on the buffers that are next come before the work
on `stream_`: the completion thread has synchronized with them, or `stream_` waits for them. -/
def OutputsOrdered (s : PipelineState) : Prop :=
  ∀ m, s.lastUse s.indices.nextBufferBindingSet = some m →
    s.outputSynced m = true ∨ s.outputRecord m ≤ s.streamWaited

/-- The payloads whose outputs the completion thread has not synchronized with. -/
def PipelineState.unsynced (s : PipelineState) : ℕ := s.queue.length + s.completion.unsynced

/-- A failed `Run` has recorded `output_ready_` since the last but one successful execution. -/
def FailureRecorded (s : PipelineState) : Prop :=
  ∃ i, s.failedRecord = some i ∧ s.executions ≤ i + 1

/-- The last but one execution is synchronized with when at most one payload is not. -/
theorem outputSynced_iff {s : PipelineState} (h : s.Ok config) (hexec : 2 ≤ s.executions) :
    s.outputSynced (s.executions - 2) = true ↔ s.unsynced ≤ 1 := by
  have hlen := h.queue.executions
  rw [h.queue.synced, PipelineState.unsynced]
  omega

/-- Behind the wait, `stream_` waits for the outputs of the last but one execution only if a failed
`Run` has recorded since. -/
theorem outputRecord_le_iff {s : PipelineState} (h : s.Ok config) (hp : s.issue = .waited)
    (hexec : 2 ≤ s.executions) :
    s.outputRecord (s.executions - 2) ≤ s.streamWaited ↔ FailureRecorded s := by
  constructor
  · intro hle
    by_contra hnone
    have hno : s.NoFailureSince (s.executions - 2) := by
      intro i hi
      by_contra hlt
      exact hnone ⟨i, hi, by omega⟩
    have hlt := h.records.waited_lt (s.executions - 2) (by omega) (by omega) hno
    omega
  · rintro ⟨i, hi, hlast⟩
    have hfailed := h.records.failed_le i hi
    by_cases hie : i = s.executions
    · -- The failed `Run` was for this execution, and its record has just been waited for.
      rw [hie] at hi
      have hready := h.records.failed_ready hi (s.executions - 2) (by omega)
      exact (hready.trans_le (h.records.waitedFor (Or.inl hp))).le
    · exact (h.records.failed_waited i (by omega) hi (s.executions - 2) (by omega)).le

/-- The outputs come first exactly when at most one payload waits for its outputs, or a failed `Run`
has recorded. -/
theorem outputsOrdered_iff {s : PipelineState} (h : s.Ok config) (hp : s.issue = .waited) :
    OutputsOrdered s ↔ s.unsynced ≤ 1 ∨ FailureRecorded s := by
  have huse := h.indices.lastUse
  by_cases hexec : 2 ≤ s.executions
  · rw [if_pos hexec] at huse
    rw [OutputsOrdered, huse, ← outputSynced_iff h hexec, ← outputRecord_le_iff h hp hexec]
    constructor
    · intro hall
      exact hall _ rfl
    · intro hone m hm
      cases hm
      exact hone
  · rw [if_neg hexec] at huse
    have hfew : s.unsynced ≤ 1 := by
      have hlen := h.queue.executions
      have hsynced := h.queue.synced
      have hheld := h.queue.held
      rw [PipelineState.unsynced]
      cases hc : s.completion with
      | dequeued p | released p =>
          have hdeq := (hheld p (by rw [hc]; rfl)).2
          show s.queue.length + 1 ≤ 1
          omega
      | _ =>
          show s.queue.length + 0 ≤ 1
          omega
    refine ⟨fun _ => Or.inl hfew, fun _ m hm => ?_⟩
    rw [huse] at hm
    cases hm

end TensorrtBackend

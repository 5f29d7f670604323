import Mathlib.Data.List.Range
import TensorrtBackend.Pipeline

/-!
# What holds in every state of the two threads

Three invariants of `Pipeline`: where the two indices are (`IndicesOk`), how payloads, permits and
the barrier are accounted for (`QueueOk`), and in which order the records on the output stream were
made and waited for (`RecordsOk`).
-/

namespace TensorrtBackend

/-! ### Phases as counts -/

/-- The permit the issue thread holds. -/
def IssuePhase.permit : IssuePhase → ℕ
  | .barrier | .acquiring => 0
  | _ => 1

/-- The payload whose event set the thread still reads, or has read up to the outputs. -/
def CompletionPhase.payload : CompletionPhase → Option QueueEntry
  | .dequeued p | .released p | .synced p | .updated p => some p
  | _ => none

/-- A dequeued payload whose permit is still out. -/
def CompletionPhase.unreleased : CompletionPhase → ℕ
  | .dequeued _ => 1
  | _ => 0

/-- A dequeued payload whose outputs have not been synchronized with. -/
def CompletionPhase.unsynced : CompletionPhase → ℕ
  | .dequeued _ | .released _ => 1
  | _ => 0

/-- A dequeued payload whose states have not been updated. -/
def CompletionPhase.pending : CompletionPhase → ℕ
  | .dequeued _ | .released _ | .synced _ => 1
  | _ => 0

/-- The payload the issue thread waits for. -/
def PipelineState.awaited (s : PipelineState) : ℕ :=
  if s.issue = .barrier ∧ s.barrierFulfilled = false then 1 else 0

theorem PipelineState.succeed_issue (config : PipelineConfig) (s : PipelineState) :
    (s.succeed config).issue = if config.usesImplicitState then .barrier else .acquiring := rfl

theorem IssuePhase.permit_of_inRun {phase : IssuePhase} (h : phase.inRun = true) :
    phase.permit = 1 := by
  cases phase <;> first | rfl | cases h

theorem PipelineState.awaited_of_ne {s : PipelineState} (h : s.issue ≠ .barrier) : s.awaited = 0 :=
  if_neg fun hc => h hc.1

/-- The payload of execution `i`. -/
def queueEntry (i : ℕ) : QueueEntry := ⟨i, i % eventSetCount⟩

/-! ### The two indices -/

/-- The indices follow the number of successful executions, and the buffer sets take turns. -/
structure IndicesOk (s : PipelineState) : Prop where
  eventSet : s.indices.nextSet = s.executions % eventSetCount
  bufferSet : s.indices.nextBufferBindingSet < outputBufferSets
  lastUse : s.lastUse s.indices.nextBufferBindingSet =
    if 2 ≤ s.executions then some (s.executions - 2) else none
  otherUse : s.lastUse ((s.indices.nextBufferBindingSet + 1) % outputBufferSets) =
    if 1 ≤ s.executions then some (s.executions - 1) else none

theorem IndicesOk.succeed {config : PipelineConfig} {s : PipelineState} (h : IndicesOk s) :
    IndicesOk (s.succeed config) := by
  have hb := h.bufferSet
  have hbuf : (s.succeed config).indices.nextBufferBindingSet =
      (s.indices.nextBufferBindingSet + 1) % outputBufferSets := rfl
  have huse : (s.succeed config).lastUse =
      Function.update s.lastUse s.indices.nextBufferBindingSet (some s.executions) := rfl
  have hexec : (s.succeed config).executions = s.executions + 1 := rfl
  have hne : (s.indices.nextBufferBindingSet + 1) % outputBufferSets ≠
      s.indices.nextBufferBindingSet := by
    unfold outputBufferSets at hb ⊢
    omega
  have hback : ((s.indices.nextBufferBindingSet + 1) % outputBufferSets + 1) % outputBufferSets =
      s.indices.nextBufferBindingSet := by
    unfold outputBufferSets at hb ⊢
    omega
  refine ⟨?_, ?_, ?_, ?_⟩
  · show (s.indices.nextSet + 1) % eventSetCount = (s.executions + 1) % eventSetCount
    rw [h.eventSet, Nat.mod_add_mod]
  · rw [hbuf]
    exact Nat.mod_lt _ (by decide)
  · rw [hbuf, huse, hexec, Function.update_of_ne hne, h.otherUse]
    by_cases h1 : 1 ≤ s.executions
    · rw [if_pos h1, if_pos (by omega)]
      exact congrArg some (by omega)
    · rw [if_neg h1, if_neg (by omega)]
  · rw [hbuf, huse, hexec, hback, Function.update_self, if_pos (by omega)]
    exact congrArg some (by omega)

theorem indicesOk_step {config : PipelineConfig} {s t : PipelineState} {a : PipelineAction}
    (h : IndicesOk s) (hs : PipelineStep config s a t) : IndicesOk t := by
  cases hs with
  | runFail recorded _ => cases recorded <;> exact { h with }
  | runSucceed _ => exact h.succeed
  | _ => exact { h with }

/-! ### Payloads, permits and the barrier -/

/-- The payloads are those of consecutive executions; a permit is in the semaphore, with the issue
thread or with a payload; with a barrier there is at most the payload that is waited for. -/
structure QueueOk (config : PipelineConfig) (s : PipelineState) : Prop where
  queue : s.queue = (List.range' s.dequeued s.queue.length).map queueEntry
  executions : s.executions = s.dequeued + s.queue.length
  held : ∀ p, s.completion.payload = some p → p = queueEntry p.exec ∧ s.dequeued = p.exec + 1
  synced : ∀ i, s.outputSynced i = true ↔ i + s.completion.unsynced < s.dequeued
  permits : s.count + s.issue.permit + s.queue.length + s.completion.unreleased =
    config.semaphoreCount
  barrier : config.usesImplicitState = true → s.queue.length + s.completion.pending ≤ s.awaited
  fresh : config.usesImplicitState = true → s.issue.inRun = true → s.barrierFulfilled = false

theorem queueOk_initial (config : PipelineConfig) (bufferSet : ℕ) :
    QueueOk config (.initial config bufferSet) := by
  have hcount : 1 ≤ config.semaphoreCount := by
    unfold PipelineConfig.semaphoreCount
    split <;> decide
  refine ⟨rfl, rfl, ?_, ?_, ?_, ?_, ?_⟩
  · intro p hp
    cases hp
  · intro i
    show false = true ↔ i + 0 < 0
    simp
  · show config.semaphoreCount - 1 + 1 + 0 + 0 = config.semaphoreCount
    omega
  · intro _
    exact Nat.le_refl 0
  · intro _ hrun
    cases hrun

theorem QueueOk.succeed {config : PipelineConfig} {s : PipelineState} (h : QueueOk config s)
    (hi : IndicesOk s) (hp : s.issue = .enqueued) : QueueOk config (s.succeed config) := by
  have hlen : (s.succeed config).queue.length = s.queue.length + 1 := List.length_append
  have hentry : (⟨s.executions, s.indices.nextSet⟩ : QueueEntry) = queueEntry s.executions := by
    rw [queueEntry, hi.eventSet]
  refine ⟨?_, ?_, h.held, h.synced, ?_, ?_, ?_⟩
  · show s.queue ++ [⟨s.executions, s.indices.nextSet⟩] =
      (List.range' s.dequeued (s.succeed config).queue.length).map queueEntry
    rw [hlen, List.range'_1_concat, List.map_append, ← h.queue, hentry, h.executions]
    rfl
  · show s.executions + 1 = s.dequeued + (s.succeed config).queue.length
    rw [hlen, h.executions, Nat.add_assoc]
  · have hpermits := h.permits
    rw [hp] at hpermits
    have hnone : (s.succeed config).issue.permit = 0 := by
      rw [PipelineState.succeed_issue]
      cases config.usesImplicitState <;> rfl
    rw [hlen, hnone]
    show s.count + 0 + (s.queue.length + 1) + s.completion.unreleased = _
    have hone : IssuePhase.enqueued.permit = 1 := rfl
    omega
  · intro himp
    have hbar := h.barrier himp
    have hfresh := h.fresh himp (by rw [hp]; rfl)
    have hnow : (s.succeed config).awaited = 1 := by
      refine if_pos ⟨?_, hfresh⟩
      rw [PipelineState.succeed_issue, himp]
      rfl
    have hbefore : s.awaited = 0 := PipelineState.awaited_of_ne (by rw [hp]; decide)
    rw [hlen, hnow]
    show s.queue.length + 1 + s.completion.pending ≤ 1
    omega
  · intro himp hrun
    have hissue : (s.succeed config).issue = .barrier := by
      rw [PipelineState.succeed_issue, himp]
      rfl
    rw [hissue] at hrun
    cases hrun

/-- The issue thread moves on and leaves the payloads alone. -/
structure SamePayloads (s t : PipelineState) : Prop where
  queue : t.queue = s.queue
  executions : t.executions = s.executions
  dequeued : t.dequeued = s.dequeued
  completion : t.completion = s.completion
  outputSynced : t.outputSynced = s.outputSynced

/-- A step of the issue thread inside an execution: what it does to the permits and the barrier is
left to show. -/
theorem QueueOk.issueStep {config : PipelineConfig} {s t : PipelineState} (h : QueueOk config s)
    (hsame : SamePayloads s t) (hpermit : t.count + t.issue.permit = s.count + s.issue.permit)
    (hawaited : s.awaited = 0)
    (hfresh : config.usesImplicitState = true → t.issue.inRun = true →
      t.barrierFulfilled = false) : QueueOk config t := by
  refine ⟨?_, ?_, ?_, ?_, ?_, fun himp => ?_, hfresh⟩
  · rw [hsame.queue, hsame.dequeued]
    exact h.queue
  · rw [hsame.executions, hsame.dequeued, hsame.queue]
    exact h.executions
  · rw [hsame.completion, hsame.dequeued]
    exact h.held
  · rw [hsame.outputSynced, hsame.completion, hsame.dequeued]
    exact h.synced
  · rw [hpermit, hsame.queue, hsame.completion]
    exact h.permits
  · have hbar := h.barrier himp
    rw [hawaited] at hbar
    rw [hsame.queue, hsame.completion]
    exact hbar.trans (Nat.zero_le _)

theorem QueueOk.fail {config : PipelineConfig} {s : PipelineState} (h : QueueOk config s)
    (hp : s.issue.inRun = true) (recorded : Bool) : QueueOk config (s.fail recorded) := by
  have hissue : (s.fail recorded).issue = .acquiring := by cases recorded <;> rfl
  have hcount : (s.fail recorded).count = s.count + 1 := by cases recorded <;> rfl
  refine h.issueStep ?_ ?_ ?_ fun _ hrun => ?_
  · cases recorded <;> exact ⟨rfl, rfl, rfl, rfl, rfl⟩
  · rw [hissue, hcount, IssuePhase.permit_of_inRun hp]
    rfl
  · apply PipelineState.awaited_of_ne
    intro hc
    rw [hc] at hp
    cases hp
  · rw [hissue] at hrun
    cases hrun

/-- A step of the completion thread on a payload it holds: it keeps the payload or lets it go, and
what it does to the permits and the barrier is left to show. -/
theorem QueueOk.completionStep {config : PipelineConfig} {s t : PipelineState}
    (h : QueueOk config s) (hqueue : t.queue = s.queue) (hexec : t.executions = s.executions)
    (hdequeued : t.dequeued = s.dequeued) (hissue : t.issue = s.issue)
    (hpayload : ∀ p, t.completion.payload = some p → s.completion.payload = some p)
    (hsynced : ∀ i, t.outputSynced i = true ↔ i + t.completion.unsynced < s.dequeued)
    (hpermit : t.count + t.completion.unreleased = s.count + s.completion.unreleased)
    (hbarrier : config.usesImplicitState = true →
      s.queue.length + t.completion.pending ≤ t.awaited)
    (hfresh : config.usesImplicitState = true → s.issue.inRun = true →
      t.barrierFulfilled = false) : QueueOk config t := by
  refine ⟨?_, ?_, fun p hp => ?_, ?_, ?_, ?_, ?_⟩
  · rw [hqueue, hdequeued]
    exact h.queue
  · rw [hexec, hdequeued, hqueue]
    exact h.executions
  · rw [hdequeued]
    exact h.held p (hpayload p hp)
  · rw [hdequeued]
    exact hsynced
  · have hpermits := h.permits
    rw [hissue, hqueue]
    omega
  · rw [hqueue]
    exact hbarrier
  · rw [hissue]
    exact hfresh

theorem QueueOk.dequeue {config : PipelineConfig} {s : PipelineState} (h : QueueOk config s)
    (hp : s.completion = .waiting) {p : QueueEntry} {queue : List QueueEntry}
    (hq : s.queue = p :: queue) :
    QueueOk config
      { s with completion := .dequeued p, queue := queue, dequeued := s.dequeued + 1 } := by
  have hlen : s.queue.length = queue.length + 1 := by rw [hq]; rfl
  have hentries := h.queue
  rw [hlen, List.range'_succ, List.map_cons, hq] at hentries
  obtain ⟨hhead, htail⟩ := List.cons.inj hentries
  have hexec := h.executions
  have hpermits := h.permits
  have hsynced := h.synced
  rw [hp] at hpermits hsynced
  have hidle : CompletionPhase.waiting.unreleased = 0 := rfl
  refine { h with
    queue := htail, executions := ?_, held := ?_, synced := ?_, permits := ?_,
    barrier := fun himp => ?_ }
  · show s.executions = s.dequeued + 1 + queue.length
    omega
  · intro p' hp'
    cases hp'
    rw [hhead]
    exact ⟨rfl, rfl⟩
  · intro i
    show s.outputSynced i = true ↔ i + 1 < s.dequeued + 1
    rw [hsynced]
    exact Nat.succ_lt_succ_iff.symm
  · show s.count + s.issue.permit + queue.length + 1 = _
    omega
  · have hbar := h.barrier himp
    rw [hp, hlen] at hbar
    exact hbar

theorem QueueOk.outputSync {config : PipelineConfig} {s : PipelineState} (h : QueueOk config s)
    {p : QueueEntry} (hp : s.completion = .released p) :
    QueueOk config { s with
      completion := .synced p
      outputSynced := Function.update s.outputSynced p.exec true } := by
  have hheld := h.held p (by rw [hp]; rfl)
  refine h.completionStep rfl rfl rfl rfl (fun p' hp' => ?_) (fun i => ?_) ?_ (fun himp => ?_) h.fresh
  · rw [hp]
    exact hp'
  · show Function.update s.outputSynced p.exec true i = true ↔ i + 0 < s.dequeued
    by_cases hip : i = p.exec
    · subst hip
      rw [Function.update_self]
      simp only [true_iff]
      omega
    · rw [Function.update_of_ne hip, h.synced, hp]
      show i + 1 < s.dequeued ↔ i + 0 < s.dequeued
      omega
  · rw [hp]
    rfl
  · have hbar := h.barrier himp
    rw [hp] at hbar
    exact hbar

/-- The barrier is fulfilled for the payload that is waited for: with a barrier no other is there.
-/
theorem QueueOk.stateUpdated {config : PipelineConfig} {s : PipelineState} (h : QueueOk config s)
    {p : QueueEntry} (hp : s.completion = .synced p) :
    QueueOk config { s with completion := .updated p, barrierFulfilled := true } := by
  have hone : (CompletionPhase.synced p).pending = 1 := rfl
  have hle : s.awaited ≤ 1 := by
    unfold PipelineState.awaited
    split <;> decide
  refine h.completionStep rfl rfl rfl rfl (fun p' hp' => ?_) (fun i => ?_) ?_ (fun himp => ?_)
    fun himp hrun => ?_
  · rw [hp]
    exact hp'
  · rw [h.synced, hp]
    rfl
  · rw [hp]
    rfl
  · have hbar := h.barrier himp
    rw [hp] at hbar
    show s.queue.length + 0 ≤ _
    omega
  · -- No payload is pending while a run is in progress.
    have hbar := h.barrier himp
    have hne : s.issue ≠ .barrier := by
      intro hc
      rw [hc] at hrun
      cases hrun
    rw [hp, PipelineState.awaited_of_ne hne] at hbar
    omega

/-- **Payloads, permits and the barrier**, kept by each step of either thread. -/
theorem queueOk_step {config : PipelineConfig} {s t : PipelineState} {a : PipelineAction}
    (h : QueueOk config s) (hi : IndicesOk s) (hs : PipelineStep config s a t) :
    QueueOk config t := by
  cases hs with
  | runStart hp =>
      refine h.issueStep ⟨rfl, rfl, rfl, rfl, rfl⟩ ?_ ?_ fun _ _ => rfl
      · rw [hp]
        rfl
      · exact PipelineState.awaited_of_ne (by rw [hp]; decide)
  | streamWait hp | enqueue hp =>
      refine h.issueStep ⟨rfl, rfl, rfl, rfl, rfl⟩ ?_ ?_ fun himp _ => ?_
      · rw [hp]
        rfl
      · exact PipelineState.awaited_of_ne (by rw [hp]; decide)
      · exact h.fresh himp (by rw [hp]; rfl)
  | runFail recorded hp => exact h.fail hp recorded
  | runSucceed hp => exact h.succeed hi hp
  | barrierPass hp hf =>
      refine h.issueStep ⟨rfl, rfl, rfl, rfl, rfl⟩ ?_ ?_ fun _ hrun => ?_
      · rw [hp]
        rfl
      · exact if_neg fun hc => by rw [hf] at hc; cases hc.2
      · cases hrun
  | acquire hp hc =>
      refine h.issueStep ⟨rfl, rfl, rfl, rfl, rfl⟩ ?_ ?_ fun _ hrun => ?_
      · rw [hp]
        show s.count - 1 + 1 = s.count + 0
        omega
      · exact PipelineState.awaited_of_ne (by rw [hp]; decide)
      · cases hrun
  | dequeue hp p queue hq => exact h.dequeue hp hq
  | release p hp =>
      refine h.completionStep rfl rfl rfl rfl (fun p' hp' => ?_) (fun i => ?_) ?_ (fun himp => ?_)
        h.fresh
      · rw [hp]
        exact hp'
      · rw [h.synced, hp]
        rfl
      · rw [hp]
        rfl
      · have hbar := h.barrier himp
        rw [hp] at hbar
        exact hbar
  | outputSync p hp => exact h.outputSync hp
  | stateUpdated p hp => exact h.stateUpdated hp
  | stateUpdateFailed _ hp | readStats _ hp | respond hp =>
      refine h.completionStep rfl rfl rfl rfl (fun p' hp' => ?_) (fun i => ?_) ?_ (fun himp => ?_)
        h.fresh
      · cases hp'
      · rw [h.synced, hp]
        rfl
      · rw [hp]
        rfl
      · have hbar := h.barrier himp
        show s.queue.length + 0 ≤ s.awaited
        omega

/-! ### The output stream -/

/-- No failed `Run` has recorded `output_ready_` since execution `m`. -/
def PipelineState.NoFailureSince (s : PipelineState) (m : ℕ) : Prop :=
  ∀ i, s.failedRecord = some i → i ≤ m

/-- The records on the output stream.  Unless a failed `Run` has recorded since, the events that are
waited for and the position `stream_` waits for are older than the outputs of the last two
executions; if one has, its record is younger than all outputs before it. -/
structure RecordsOk (s : PipelineState) : Prop where
  ready_le : ∀ e, s.outputReady e ≤ s.records
  record_le : ∀ i < s.executions, s.outputRecord i ≤ s.records
  waited_le : s.streamWaited ≤ s.records
  mono : ∀ i j, i < j → j < s.executions → s.outputRecord i < s.outputRecord j
  failed_le : s.NoFailureSince s.executions
  waitedFor : s.issue = .waited ∨ s.issue = .enqueued →
    s.outputReady s.indices.nextSet ≤ s.streamWaited
  ready_lt : ∀ j m, s.executions ≤ j → m < s.executions → j ≤ m + 2 → s.NoFailureSince m →
    s.outputReady (j % eventSetCount) < s.outputRecord m
  waited_lt : ∀ m < s.executions, s.executions ≤ m + 2 → s.NoFailureSince m →
    s.streamWaited < s.outputRecord m
  failed_ready : s.failedRecord = some s.executions → ∀ m < s.executions,
    s.outputRecord m < s.outputReady s.indices.nextSet
  failed_waited : ∀ i < s.executions, s.failedRecord = some i → ∀ m < i,
    s.outputRecord m < s.streamWaited

theorem recordsOk_initial (config : PipelineConfig) (bufferSet : ℕ) :
    RecordsOk (.initial config bufferSet) where
  ready_le _ := Nat.le_refl 0
  record_le i hi := absurd hi (Nat.not_lt_zero i)
  waited_le := Nat.le_refl 0
  mono _ j _ hj := absurd hj (Nat.not_lt_zero j)
  failed_le _ h := by cases h
  waitedFor h := by rcases h with h | h <;> cases h
  ready_lt _ m _ hm := absurd hm (Nat.not_lt_zero m)
  waited_lt m hm := absurd hm (Nat.not_lt_zero m)
  failed_ready h := by cases h
  failed_waited i hi := absurd hi (Nat.not_lt_zero i)

/-- A new record does not disturb the events of the other sets. -/
theorem update_outputReady_le {f : ℕ → ℕ} {r : ℕ} (h : ∀ e, f e ≤ r) (e₀ e : ℕ) :
    Function.update f e₀ (r + 1) e ≤ r + 1 := by
  by_cases he : e = e₀
  · subst he
    rw [Function.update_self]
  · rw [Function.update_of_ne he]
    exact (h e).trans (Nat.le_succ r)

theorem RecordsOk.fail {s : PipelineState} (h : RecordsOk s) (recorded : Bool) :
    RecordsOk (s.fail recorded) := by
  cases recorded with
  | false =>
      refine { h with waitedFor := fun hphase => ?_ }
      rcases hphase with hphase | hphase <;> cases hphase
  | true =>
      have hready : (s.fail true).outputReady =
          Function.update s.outputReady s.indices.nextSet (s.records + 1) := rfl
      -- The condition of `ready_lt` and `waited_lt` no longer holds of any execution.
      have hlast : ∀ m < s.executions, ¬ (s.fail true).NoFailureSince m := by
        intro m hm hno
        exact absurd (hno s.executions rfl) (by omega)
      refine
        { ready_le := update_outputReady_le h.ready_le _
          record_le := fun i hi => (h.record_le i hi).trans (Nat.le_succ _)
          waited_le := h.waited_le.trans (Nat.le_succ _)
          mono := h.mono
          failed_le := ?_
          waitedFor := fun hphase => ?_
          ready_lt := fun j m _ hm _ hno => absurd hno (hlast m hm)
          waited_lt := fun m hm _ hno => absurd hno (hlast m hm)
          failed_ready := fun _ m hm => ?_
          failed_waited := fun i hi hfailed => ?_ }
      · intro i hi
        cases hi
        exact Nat.le_refl _
      · rcases hphase with hphase | hphase <;> cases hphase
      · show s.outputRecord m < (s.fail true).outputReady s.indices.nextSet
        rw [hready, Function.update_self]
        exact Nat.lt_succ_of_le (h.record_le m hm)
      · have hi' : i < s.executions := hi
        cases hfailed
        exact absurd hi' (lt_irrefl _)

theorem RecordsOk.succeed {config : PipelineConfig} {s : PipelineState} (h : RecordsOk s)
    (hi : IndicesOk s) (hp : s.issue = .enqueued) : RecordsOk (s.succeed config) := by
  have hready : (s.succeed config).outputReady =
      Function.update s.outputReady s.indices.nextSet (s.records + 1) := rfl
  have hrecord : (s.succeed config).outputRecord =
      Function.update s.outputRecord s.executions (s.records + 1) := rfl
  have hold : ∀ m, m ≠ s.executions → (s.succeed config).outputRecord m = s.outputRecord m := by
    intro m hm
    rw [hrecord, Function.update_of_ne hm]
  have hnew : (s.succeed config).outputRecord s.executions = s.records + 1 := by
    rw [hrecord, Function.update_self]
  refine
    { ready_le := update_outputReady_le h.ready_le _
      record_le := fun i hlt => ?_
      waited_le := h.waited_le.trans (Nat.le_succ _)
      mono := fun i j hij hj => ?_
      failed_le := fun i hfailed => (h.failed_le i hfailed).trans (Nat.le_succ _)
      waitedFor := fun hphase => ?_
      ready_lt := fun j m hj hm hjm hno => ?_
      waited_lt := fun m hm hm2 hno => ?_
      failed_ready := fun hfailed => ?_
      failed_waited := fun i hlt hfailed m hm => ?_ }
  · have hlt' : i < s.executions + 1 := hlt
    show (s.succeed config).outputRecord i ≤ s.records + 1
    by_cases hie : i = s.executions
    · rw [hie, hnew]
    · rw [hold i hie]
      exact (h.record_le i (by omega)).trans (Nat.le_succ _)
  · have hj' : j < s.executions + 1 := hj
    rw [hold i (by omega)]
    by_cases hje : j = s.executions
    · rw [hje, hnew]
      exact Nat.lt_succ_of_le (h.record_le i (by omega))
    · rw [hold j hje]
      exact h.mono i j hij (by omega)
  · have hissue : (s.succeed config).issue = .barrier ∨ (s.succeed config).issue = .acquiring := by
      rw [PipelineState.succeed_issue]
      cases config.usesImplicitState with
      | false => exact Or.inr rfl
      | true => exact Or.inl rfl
    rcases hissue with hissue | hissue <;> rw [hissue] at hphase <;>
      rcases hphase with hphase | hphase <;> cases hphase
  · have hj' : s.executions + 1 ≤ j := hj
    have hm' : m < s.executions + 1 := hm
    have hother : j % eventSetCount ≠ s.indices.nextSet := by
      rw [hi.eventSet]
      unfold eventSetCount
      omega
    rw [hready, Function.update_of_ne hother]
    by_cases hme : m = s.executions
    · rw [hme, hnew]
      exact Nat.lt_succ_of_le (h.ready_le _)
    · rw [hold m hme]
      exact h.ready_lt j m (by omega) (by omega) hjm hno
  · have hm' : m < s.executions + 1 := hm
    have hm2' : s.executions + 1 ≤ m + 2 := hm2
    show s.streamWaited < (s.succeed config).outputRecord m
    by_cases hme : m = s.executions
    · rw [hme, hnew]
      exact Nat.lt_succ_of_le h.waited_le
    · rw [hold m hme]
      exact h.waited_lt m (by omega) (by omega) hno
  · have hle : s.executions + 1 ≤ s.executions := h.failed_le _ hfailed
    omega
  · have hlt' : i < s.executions + 1 := hlt
    rw [hold m (by omega)]
    show s.outputRecord m < s.streamWaited
    by_cases hie : i = s.executions
    · -- The `Run` that succeeds has waited for what the failed one recorded.
      rw [hie] at hfailed hm
      exact (h.failed_ready hfailed m hm).trans_le (h.waitedFor (Or.inr hp))
    · exact h.failed_waited i (by omega) hfailed m hm

/-- **The output stream**, kept by each step of either thread. -/
theorem recordsOk_step {config : PipelineConfig} {s t : PipelineState} {a : PipelineAction}
    (h : RecordsOk s) (hi : IndicesOk s) (hs : PipelineStep config s a t) : RecordsOk t := by
  cases hs with
  | streamWait hp =>
      refine { h with
        waited_le := max_le h.waited_le (h.ready_le _)
        waitedFor := fun _ => le_max_right _ _
        waited_lt := fun m hm hm2 hno => ?_
        failed_waited := fun i hlt hfailed m hm =>
          (h.failed_waited i hlt hfailed m hm).trans_le (le_max_left _ _) }
      have hready := h.ready_lt s.executions m (Nat.le_refl _) hm hm2 hno
      rw [← hi.eventSet] at hready
      exact max_lt (h.waited_lt m hm hm2 hno) hready
  | enqueue hp => exact { h with waitedFor := fun _ => h.waitedFor (Or.inl hp) }
  | runFail recorded _ => exact h.fail recorded
  | runSucceed hp => exact h.succeed hi hp
  | runStart _ | barrierPass _ _ | acquire _ _ =>
      refine { h with waitedFor := fun hphase => ?_ }
      rcases hphase with hphase | hphase <;> cases hphase
  | _ => exact { h with }

/-! ### Every state -/

/-- The invariant. -/
structure PipelineState.Ok (config : PipelineConfig) (s : PipelineState) : Prop where
  indices : IndicesOk s
  queue : QueueOk config s
  records : RecordsOk s

theorem pipeline_inductive (config : PipelineConfig) :
    (Pipeline config).Inductive (PipelineState.Ok config) where
  init s hs := by
    obtain ⟨bufferSet, hb, rfl⟩ := hs
    exact ⟨⟨rfl, hb, rfl, rfl⟩, queueOk_initial config bufferSet, recordsOk_initial config bufferSet⟩
  step s a t h ht := by
    have hs := pipelineStep_cases ht
    exact ⟨indicesOk_step h.indices hs, queueOk_step h.queue h.indices hs,
      recordsOk_step h.records h.indices hs⟩

end TensorrtBackend

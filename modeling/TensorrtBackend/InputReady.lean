import TensorrtBackend.GraphPairing
import TensorrtBackend.Lib.Transition

/-!
# The event an execution waits for before it fills its buffers

Before `Run` fills the current set of buffers it hands the collector the `ready_for_input_` event of
`prev_set`, an index computed from the next event set and the number of buffer sets.  The buffers
were filled last by an earlier execution, under an event set of its own.  The state below keeps the
executions so far and, for each event set, the execution that recorded the event last; a failed
execution may have recorded it too.  One for which `total_batch_size_` is 0 returns from `Run`
before it records anything, and `ProcessRequests` goes on as behind a success.

* `readyOk_inductive`: how the executions so far went round the sets.
* `prevSet_most_recent_iff`: `prev_set` is the event set of the last execution with the current
  buffers, and its event is recorded by that execution unless the batch of it was empty.
-/

namespace TensorrtBackend

/-- How an execution ends: `Run` has answered all requests with an error, and may have come far
enough to record its event, or it leaves a payload with this `total_batch_size_` to
`ProcessRequests`. -/
inductive RunEnding
  | failed (recorded : Bool)
  | succeeded (totalBatchSize : ℕ)
  deriving DecidableEq

/-- `ProcessRequests` takes it for a success. -/
def RunEnding.isSuccess : RunEnding → Bool
  | .failed _ => false
  | .succeeded _ => true

/-- `ready_for_input_` has been recorded; `Run` returns before that when `total_batch_size_` is 0.
-/
def RunEnding.records : RunEnding → Bool
  | .failed recorded => recorded
  | .succeeded totalBatchSize => totalBatchSize ≠ 0

/-- One execution: its event set, its buffers and its end. -/
structure Execution where
  eventSetIdx : ℕ
  bufferBindingSet : ℕ
  ending : RunEnding
  deriving DecidableEq

/-- The two indices, the executions so far with the latest in front, and for each event set the
number of the execution that recorded `ready_for_input_` last. -/
structure ReadyState where
  indices : SetIndices
  executions : List Execution
  readyForInput : ℕ → Option ℕ

/-- `prev_set` of `Run`. -/
def prevSet (bufferSets nextSet : ℕ) : ℕ :=
  (eventSetCount - bufferSets % eventSetCount + nextSet) % eventSetCount

/-- One call of `ProcessRequests`. -/
def processExecution (numCopyStreams : ℕ) (s : ReadyState) (ending : RunEnding) : ReadyState where
  indices := processRequestsIndices numCopyStreams s.indices ending.isSuccess
  executions := ⟨s.indices.nextSet, s.indices.nextBufferBindingSet, ending⟩ :: s.executions
  readyForInput :=
    if ending.records then
      Function.update s.readyForInput s.indices.nextSet (some s.executions.length)
    else s.readyForInput

/-- The executions of an instance whose indices are `start` when it is created. -/
def readySystem (numCopyStreams : ℕ) (start : SetIndices) : StepSystem ReadyState RunEnding where
  init s := s = ⟨start, [], fun _ => none⟩
  step s ending := some (processExecution numCopyStreams s ending)

/-! ### Counting successes -/

/-- The number of successful executions. -/
def successes (executions : List Execution) : ℕ :=
  executions.countP fun e => e.ending.isSuccess

theorem successes_cons (e : Execution) (executions : List Execution) :
    successes (e :: executions) =
      successes executions + if e.ending.isSuccess = true then 1 else 0 := by
  simp [successes, List.countP_cons]

theorem successes_append (after before : List Execution) :
    successes (after ++ before) = successes after + successes before := by
  simp [successes, List.countP_append]

/-- Each success has a number. -/
theorem exists_success {executions : List Execution} {j : ℕ} (h : j < successes executions) :
    ∃ after e before, executions = after ++ e :: before ∧ e.ending.isSuccess = true ∧
      successes before = j := by
  induction executions with
  | nil => simp [successes] at h
  | cons e executions ih =>
      by_cases hj : j < successes executions
      · obtain ⟨after, x, before, hsplit, hok, hbefore⟩ := ih hj
        exact ⟨e :: after, x, before, by simp [hsplit], hok, hbefore⟩
      · rw [successes_cons] at h
        split at h
        · rename_i hok
          exact ⟨[], e, executions, rfl, hok, by omega⟩
        · omega

/-! ### How the executions go round -/

/-- The sets of every execution are given by the number of successes before it, and the event set of
an execution is still marked by it unless a later one recorded the same event. -/
structure ReadyOk (numCopyStreams : ℕ) (start : SetIndices) (s : ReadyState) : Prop where
  next_set : s.indices.nextSet = (start.nextSet + successes s.executions) % eventSetCount
  next_buffer : s.indices.nextBufferBindingSet =
    (start.nextBufferBindingSet + successes s.executions) % numCopyStreams
  sets : ∀ after e before, s.executions = after ++ e :: before →
    e.eventSetIdx = (start.nextSet + successes before) % eventSetCount ∧
      e.bufferBindingSet = (start.nextBufferBindingSet + successes before) % numCopyStreams
  recorded : ∀ after e before, s.executions = after ++ e :: before → e.ending.records = true →
    (∀ x ∈ after, x.ending.records = true → x.eventSetIdx ≠ e.eventSetIdx) →
      s.readyForInput e.eventSetIdx = some before.length
  marked : ∀ set number, s.readyForInput set = some number →
    ∃ after e before, s.executions = after ++ e :: before ∧ before.length = number ∧
      e.ending.records = true

section Invariant

variable {numCopyStreams : ℕ} {start : SetIndices}

theorem readyOk_initial (hset : start.nextSet < eventSetCount)
    (hbuffer : start.nextBufferBindingSet < numCopyStreams) :
    ReadyOk numCopyStreams start ⟨start, [], fun _ => none⟩ where
  next_set := (Nat.mod_eq_of_lt hset).symm
  next_buffer := (Nat.mod_eq_of_lt hbuffer).symm
  sets := by simp
  recorded := by simp
  marked _ _ h := by cases h

/-- Where the indices are behind one more execution. -/
theorem ReadyOk.indices_step {s : ReadyState} (h : ReadyOk numCopyStreams start s)
    (ending : RunEnding) :
    (processExecution numCopyStreams s ending).indices.nextSet =
        (start.nextSet + successes (processExecution numCopyStreams s ending).executions) %
          eventSetCount ∧
      (processExecution numCopyStreams s ending).indices.nextBufferBindingSet =
        (start.nextBufferBindingSet +
          successes (processExecution numCopyStreams s ending).executions) % numCopyStreams := by
  simp only [processExecution, processRequestsIndices, successes_cons]
  cases hok : ending.isSuccess with
  | true => simp [h.next_set, h.next_buffer, Nat.add_assoc]
  | false => simp [h.next_set, h.next_buffer]

/-- Who recorded each event behind one more execution. -/
theorem ReadyOk.recorded_step {s : ReadyState} (h : ReadyOk numCopyStreams start s)
    {ending : RunEnding} {after before : List Execution} {e : Execution}
    (hsplit : (processExecution numCopyStreams s ending).executions = after ++ e :: before)
    (hrecords : e.ending.records = true)
    (hlater : ∀ x ∈ after, x.ending.records = true → x.eventSetIdx ≠ e.eventSetIdx) :
    (processExecution numCopyStreams s ending).readyForInput e.eventSetIdx = some before.length := by
  cases after with
  | nil =>
      -- The execution is the one just performed.
      obtain ⟨rfl, rfl⟩ := List.cons.inj hsplit
      have hending : ending.records = true := hrecords
      simp [processExecution, hending]
  | cons x after =>
      obtain ⟨rfl, hold⟩ := List.cons.inj hsplit
      rw [List.forall_mem_cons] at hlater
      have hready := h.recorded after e before hold hrecords hlater.2
      cases hending : ending.records with
      | false => simpa [processExecution, hending] using hready
      | true =>
          have hne : s.indices.nextSet ≠ e.eventSetIdx := hlater.1 hending
          simpa [processExecution, hending, Function.update_of_ne hne.symm] using hready

/-- An event that is recorded is so by one of the executions. -/
theorem ReadyOk.marked_step {s : ReadyState} (h : ReadyOk numCopyStreams start s)
    {ending : RunEnding} {set number : ℕ}
    (hready : (processExecution numCopyStreams s ending).readyForInput set = some number) :
    ∃ after e before, (processExecution numCopyStreams s ending).executions = after ++ e :: before ∧
      before.length = number ∧ e.ending.records = true := by
  have hold : s.readyForInput set = some number → ∃ after e before,
      (processExecution numCopyStreams s ending).executions = after ++ e :: before ∧
        before.length = number ∧ e.ending.records = true := by
    intro hset
    obtain ⟨after, e, before, hsplit, hnumber, hrecords⟩ := h.marked set number hset
    refine ⟨⟨s.indices.nextSet, s.indices.nextBufferBindingSet, ending⟩ :: after, e, before, ?_,
      hnumber, hrecords⟩
    rw [List.cons_append, ← hsplit]
    rfl
  cases hending : ending.records with
  | false => exact hold (by simpa [processExecution, hending] using hready)
  | true =>
      by_cases hset : set = s.indices.nextSet
      · subst hset
        refine ⟨[], _, s.executions, rfl, ?_, hending⟩
        simpa [processExecution, hending] using hready
      · exact hold (by simpa [processExecution, hending, Function.update_of_ne hset] using hready)

theorem readyOk_step {s : ReadyState} (h : ReadyOk numCopyStreams start s) (ending : RunEnding) :
    ReadyOk numCopyStreams start (processExecution numCopyStreams s ending) where
  next_set := (h.indices_step ending).1
  next_buffer := (h.indices_step ending).2
  sets := by
    intro after e before hsplit
    cases after with
    | nil =>
        obtain ⟨rfl, rfl⟩ := List.cons.inj hsplit
        exact ⟨h.next_set, h.next_buffer⟩
    | cons x after => exact h.sets after e before (List.cons.inj hsplit).2
  recorded := fun _ _ _ hsplit hrecords hlater => h.recorded_step hsplit hrecords hlater
  marked := fun _ _ hready => h.marked_step hready

theorem readyOk_inductive (hset : start.nextSet < eventSetCount)
    (hbuffer : start.nextBufferBindingSet < numCopyStreams) :
    (readySystem numCopyStreams start).Inductive (ReadyOk numCopyStreams start) where
  init := by
    intro s hs
    rw [show s = ⟨start, [], fun _ => none⟩ from hs]
    exact readyOk_initial hset hbuffer
  step := by
    intro s ending t hs hstep
    rw [← Option.some.inj hstep]
    exact readyOk_step hs ending

/-- Behind the last success with the current buffers there was one success for every other set of
buffers. -/
theorem ReadyOk.successes_after {s : ReadyState} (h : ReadyOk numCopyStreams start s)
    (hpos : 0 < numCopyStreams) {after before : List Execution} {e : Execution}
    (hsplit : s.executions = after ++ e :: before) (hok : e.ending.isSuccess = true)
    (hbuffer : e.bufferBindingSet = s.indices.nextBufferBindingSet)
    (hlast : ∀ x ∈ after, x.ending.isSuccess = true →
      x.bufferBindingSet ≠ s.indices.nextBufferBindingSet) :
    successes after + 1 = numCopyStreams := by
  have he := (h.sets after e before hsplit).2
  have hcurrent := h.next_buffer
  have hcount : successes s.executions = successes after + (successes before + 1) := by
    rw [hsplit, successes_append, successes_cons, if_pos hok]
  have hlt : successes after < numCopyStreams := by
    by_contra hge
    -- After as many successes as there are sets it is the turn of these buffers again.
    obtain ⟨after', x, between, hafter, hxok, hbetween⟩ :=
      exists_success (show numCopyStreams - 1 < successes after by omega)
    have hx := (h.sets after' x (between ++ e :: before) (by simp [hsplit, hafter])).2
    have hxcount : successes (between ++ e :: before) =
        numCopyStreams + successes before := by
      rw [successes_append, successes_cons, if_pos hok, hbetween]
      omega
    refine hlast x (by simp [hafter]) hxok ?_
    rw [← hbuffer, he, hx, hxcount, Nat.add_left_comm, Nat.add_mod_left]
  have hmod : (start.nextBufferBindingSet + successes before) % numCopyStreams =
      (start.nextBufferBindingSet + successes before + (successes after + 1)) % numCopyStreams := by
    rw [← he, hbuffer, hcurrent, hcount]
    congr 1
    omega
  have hdvd : numCopyStreams ∣ successes after + 1 := by
    have hsub := Nat.sub_mod_eq_zero_of_mod_eq hmod.symm
    rw [Nat.add_sub_cancel_left] at hsub
    exact Nat.dvd_of_mod_eq_zero hsub
  exact Nat.le_antisymm hlt (Nat.le_of_dvd (Nat.succ_pos _) hdvd)

end Invariant

/-! ### The event passed to the collector -/

/-- `e` is the last success with the current buffers; the executions `after` are later. -/
structure LastUse (s : ReadyState) (after : List Execution) (e : Execution)
    (before : List Execution) : Prop where
  split : s.executions = after ++ e :: before
  success : e.ending.isSuccess = true
  buffer : e.bufferBindingSet = s.indices.nextBufferBindingSet
  last : ∀ x ∈ after, x.ending.isSuccess = true →
    x.bufferBindingSet ≠ s.indices.nextBufferBindingSet

/-- Once the current buffers have been used by a success, `prev_set` is the event set of the last
one, no execution since has had that event set, and the event is the one it recorded. -/
def PrevSetRecent (bufferSets : ℕ) (s : ReadyState) : Prop :=
  ∀ after e before, LastUse s after e before →
    prevSet bufferSets s.indices.nextSet = e.eventSetIdx ∧
      (∀ x ∈ after, x.eventSetIdx ≠ e.eventSetIdx) ∧
      s.readyForInput (prevSet bufferSets s.indices.nextSet) = some before.length

section Recent

variable {numCopyStreams : ℕ} {start : SetIndices} {s : ReadyState} {after before : List Execution}
  {e : Execution}

/-- The two cycles lead `prev_set` to the event set of the last use. -/
theorem ReadyOk.prevSet_eq (h : ReadyOk numCopyStreams start s)
    (hcount : numCopyStreams = 1 ∨ numCopyStreams = 2) (huse : LastUse s after e before) :
    prevSet numCopyStreams s.indices.nextSet = e.eventSetIdx ∧
      ∀ x ∈ after, x.eventSetIdx ≠ e.eventSetIdx := by
  have hpos : 0 < numCopyStreams := by omega
  have hafter := h.successes_after hpos huse.split huse.success huse.buffer huse.last
  have he := (h.sets after e before huse.split).1
  have hnext := h.next_set
  rw [huse.split, successes_append, successes_cons, if_pos huse.success] at hnext
  constructor
  · rw [prevSet, he, hnext, eventSetCount]
    omega
  · intro x hx
    obtain ⟨later, between, hsplit⟩ := List.append_of_mem hx
    have hx := (h.sets later x (between ++ e :: before) (by simp [huse.split, hsplit])).1
    have hle : successes between ≤ successes after := by
      rw [hsplit, successes_append, successes_cons]
      omega
    rw [hx, he, successes_append, successes_cons, if_pos huse.success, eventSetCount]
    omega

/-- The event of an execution that nobody overwrote is marked by it exactly when it recorded it. -/
theorem ReadyOk.marked_iff (h : ReadyOk numCopyStreams start s)
    (hsplit : s.executions = after ++ e :: before)
    (hothers : ∀ x ∈ after, x.eventSetIdx ≠ e.eventSetIdx) :
    s.readyForInput e.eventSetIdx = some before.length ↔ e.ending.records = true := by
  constructor
  · intro hready
    obtain ⟨after', x, before', hsplit', hlength, hrecords⟩ := h.marked _ _ hready
    have htails : x :: before' = e :: before := by
      refine List.append_inj_right' (hsplit'.symm.trans hsplit) ?_
      rw [List.length_cons, List.length_cons, hlength]
    rw [(List.cons.inj htails).1] at hrecords
    exact hrecords
  · exact fun hrecords => h.recorded after e before hsplit hrecords fun x hx _ => hothers x hx

end Recent

theorem records_of_success {ending : RunEnding} (h : ending.isSuccess = true) :
    ending.records = true ↔ ending ≠ .succeeded 0 := by
  cases ending with
  | failed recorded => cases h
  | succeeded totalBatchSize => simp [RunEnding.records]

/-- **The event of the last execution with the current buffers.** For one or two sets of buffers,
after any initialisation of the CUDA graphs and any executions: the collector gets the event
recorded by the last success with the current buffers exactly when the total batch size of that one
was not zero. -/
theorem prevSet_most_recent_iff {inst : Instance}
    (hbuffers : inst.ioBindingInfos.length = inst.numCopyStreams)
    (hcount : inst.numCopyStreams = 1 ∨ inst.numCopyStreams = 2)
    (calls : ℕ → ℕ → BuildCalls) (graphSpecs : List GraphSpec) {s : ReadyState}
    (hreach : (readySystem inst.numCopyStreams
      (initializeCudaGraph inst calls graphSpecs).indices).Reachable s) :
    PrevSetRecent inst.ioBindingInfos.length s ↔
      ∀ after e before, LastUse s after e before → e.ending ≠ .succeeded 0 := by
  have hpos : 0 < inst.numCopyStreams := by omega
  have hstart := initializeCudaGraph_paired hpos calls graphSpecs
  have hset : (initializeCudaGraph inst calls graphSpecs).indices.nextSet < eventSetCount := by
    rw [hstart.nextSet]
    decide
  have hready := StepSystem.Reachable.of_inductive (readyOk_inductive hset hstart.buffer) hreach
  rw [hbuffers]
  constructor
  · intro h after e before huse
    obtain ⟨hprev, hothers, hevent⟩ := h after e before huse
    rw [hprev] at hevent
    exact (records_of_success huse.success).mp ((hready.marked_iff huse.split hothers).mp hevent)
  · intro h after e before huse
    obtain ⟨hprev, hothers⟩ := hready.prevSet_eq hcount huse
    refine ⟨hprev, hothers, ?_⟩
    rw [hprev, hready.marked_iff huse.split hothers]
    exact (records_of_success huse.success).mpr (h after e before huse)

/-! ### A failed warm-up and a failed execution -/

/-- The matrix model with two sets of buffers, of which the second could not be warmed up. -/
def warmUpFailedCalls : ℕ → ℕ → BuildCalls := fun _ _ => { warmUpEnqueue := fun s => s == 0 }

/-- The matrix model behind these executions. -/
def matrixReady (numCopyStreams : ℕ) (endings : List RunEnding) : ReadyState :=
  endings.foldl (processExecution numCopyStreams)
    ⟨(initializeCudaGraph (matrixInstance 8 numCopyStreams matrixBatchSize_lt) warmUpFailedCalls
      [defaultSpec 4]).indices, [], fun _ => none⟩

/-- A failed execution and three successful ones. -/
def matrixEndings : List RunEnding := [.failed true, .succeeded 1, .succeeded 2, .succeeded 1]

theorem matrixReady_reachable (numCopyStreams : ℕ) (endings : List RunEnding) :
    (readySystem numCopyStreams (initializeCudaGraph
      (matrixInstance 8 numCopyStreams matrixBatchSize_lt) warmUpFailedCalls
        [defaultSpec 4]).indices).Reachable (matrixReady numCopyStreams endings) := by
  refine ⟨_, endings, rfl, ?_⟩
  rw [matrixReady]
  generalize (⟨_, [], fun _ => none⟩ : ReadyState) = s
  induction endings generalizing s with
  | nil => rfl
  | cons ending endings ih => exact ih (processExecution numCopyStreams s ending)

/-- The last use of the first buffers behind those executions. -/
theorem matrixReady_lastUse : LastUse (matrixReady 2 matrixEndings) [⟨2, 1, .succeeded 1⟩]
    ⟨1, 0, .succeeded 2⟩ [⟨0, 1, .succeeded 1⟩, ⟨0, 1, .failed true⟩] where
  split := rfl
  success := rfl
  buffer := rfl
  last := by decide

/-- The theorem for the fifth execution, which fills the buffers the third one used: no use with
these buffers was of an empty batch, and the event is that of the third execution. -/
theorem prevSet_most_recent_matrix :
    LastUse (matrixReady 2 matrixEndings) [⟨2, 1, .succeeded 1⟩]
        ⟨1, 0, .succeeded 2⟩ [⟨0, 1, .succeeded 1⟩, ⟨0, 1, .failed true⟩] ∧
      PrevSetRecent 2 (matrixReady 2 matrixEndings) := by
  have hbuffers : (matrixInstance 8 2 matrixBatchSize_lt).ioBindingInfos.length =
      (matrixInstance 8 2 matrixBatchSize_lt).numCopyStreams := rfl
  refine ⟨matrixReady_lastUse, (prevSet_most_recent_iff hbuffers (Or.inr rfl) warmUpFailedCalls
    [defaultSpec 4] (matrixReady_reachable 2 matrixEndings)).mpr ?_⟩
  intro after e before huse
  have hmem : e ∈ (matrixReady 2 matrixEndings).executions := by
    rw [huse.split]
    exact List.mem_append_right _ List.mem_cons_self
  have hnonempty : ∀ x ∈ (matrixReady 2 matrixEndings).executions, x.ending ≠ .succeeded 0 := by
    decide
  exact hnonempty e hmem

/-- With one set of buffers, a success and then a call whose batch is empty: the event set of the
latter is the previous one, and it has recorded nothing there. -/
theorem prevSet_after_empty_batch :
    ∃ s, (readySystem 1 (initializeCudaGraph (matrixInstance 8 1 matrixBatchSize_lt)
        warmUpFailedCalls [defaultSpec 4]).indices).Reachable s ∧
      LastUse s [] ⟨1, 0, .succeeded 0⟩ [⟨0, 0, .succeeded 1⟩] ∧
      s.readyForInput (prevSet 1 s.indices.nextSet) = none ∧ ¬ PrevSetRecent 1 s := by
  have huse : LastUse (matrixReady 1 [.succeeded 1, .succeeded 0]) [] ⟨1, 0, .succeeded 0⟩
      [⟨0, 0, .succeeded 1⟩] :=
    ⟨rfl, rfl, rfl, fun x hx => absurd hx List.not_mem_nil⟩
  refine ⟨_, matrixReady_reachable 1 [.succeeded 1, .succeeded 0], huse, rfl, fun h => ?_⟩
  have hnone : (none : Option ℕ) = some 1 := (h _ _ _ huse).2.2
  cases hnone

end TensorrtBackend

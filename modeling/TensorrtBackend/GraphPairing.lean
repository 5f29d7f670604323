import TensorrtBackend.GraphKey

/-!
# Captured graphs and the buffers they read

A graph is captured for event set `set_idx` with the binding buffers `set_idx % num_copy_streams_`.
At run time the event set index goes round `EVENT_SET_COUNT` sets and the buffer set index round
`num_copy_streams_`, each advancing on success only.  With two buffer sets and three event sets the
two indices fall out of step after three executions.

* `initializeCudaGraph_paired`: every stored graph carries the pairing of its capture.
* `processRequestsAll_indices`: where the two indices are after any sequence of executions.
* `foundGraph_buffer_iff`: when a graph that is looked up was captured with the current buffers.
-/

namespace TensorrtBackend

/-- How `ProcessRequests` moves the two indices: only a successful `Run` advances them. -/
def processRequestsIndices (numCopyStreams : ℕ) (s : SetIndices) (runOk : Bool) : SetIndices :=
  if runOk then
    { nextSet := (s.nextSet + 1) % eventSetCount
      nextBufferBindingSet := (s.nextBufferBindingSet + 1) % numCopyStreams }
  else s

/-- The indices after a sequence of `ProcessRequests` calls. -/
def processRequestsAll (numCopyStreams : ℕ) (s : SetIndices) (runOks : List Bool) : SetIndices :=
  runOks.foldl (processRequestsIndices numCopyStreams) s

/-- Every stored graph was captured with the buffers and events of its event set. -/
def Paired (numCopyStreams : ℕ) (graphs : List CudaGraphMap) : Prop :=
  ∀ set, ∀ x ∈ graphEntries graphs set,
    x.2.cudaGraphExec = some ⟨set % numCopyStreams, set⟩

/-! ### What is stored -/

theorem captureEventSet_paired {numCopyStreams : ℕ} {calls : BuildCalls} {key : List ℤ}
    {graph : CudaGraph} {s : Bool × List CudaGraphMap} (h : Paired numCopyStreams s.2)
    (setIdx : ℕ) :
    Paired numCopyStreams (captureEventSet numCopyStreams calls key graph s setIdx).2 := by
  rcases captureEventSet_cases numCopyStreams calls key graph s setIdx with hc | ⟨-, hc⟩
  · rw [hc]
    exact h
  · rw [hc]
    intro set x hx
    by_cases hset : setIdx = set
    · subst hset
      by_cases hlt : setIdx < s.2.length
      · rw [graphEntries_modify_self hlt] at hx
        rcases SortedMap.mem_insertEntry hx with rfl | hold
        · rfl
        · exact h setIdx x hold
      · rw [List.modify_eq_self (not_lt.mp hlt)] at hx
        exact h setIdx x hx
    · rw [graphEntries_modify_of_ne hset] at hx
      exact h set x hx

theorem captureEventSets_paired {numCopyStreams : ℕ} {calls : BuildCalls} {key : List ℤ}
    {graph : CudaGraph} {graphs : List CudaGraphMap} (h : Paired numCopyStreams graphs) :
    Paired numCopyStreams (captureEventSets numCopyStreams calls key graph graphs).2 := by
  have hfold : ∀ (l : List ℕ) (s : Bool × List CudaGraphMap), Paired numCopyStreams s.2 →
      Paired numCopyStreams (l.foldl (captureEventSet numCopyStreams calls key graph) s).2 := by
    intro l
    induction l with
    | nil => intro s hs; exact hs
    | cons setIdx l ih => intro s hs; exact ih _ (captureEventSet_paired hs setIdx)
  exact hfold _ (true, graphs) h

/-- What one build keeps: the pairing of the context's graphs, the event set index, and a buffer set
index that names a buffer set. -/
theorem buildCudaGraph_paired {inst : Instance} {calls : BuildCalls} {trtContext : TensorRTContext}
    {graphSpec : GraphSpec} {indices : SetIndices}
    (h : Paired inst.numCopyStreams trtContext.cudaGraphExecs)
    (hbuffer : indices.nextBufferBindingSet < inst.numCopyStreams) :
    Paired inst.numCopyStreams
        (buildCudaGraph inst calls trtContext graphSpec indices).2.1.cudaGraphExecs ∧
      (buildCudaGraph inst calls trtContext graphSpec indices).2.2.nextSet = indices.nextSet ∧
      (buildCudaGraph inst calls trtContext graphSpec indices).2.2.nextBufferBindingSet <
        inst.numCopyStreams := by
  unfold buildCudaGraph
  split
  · exact ⟨h, rfl, hbuffer⟩
  · split
    · exact ⟨h, rfl, hbuffer⟩
    · split
      · rename_i s hs
        exact ⟨h, rfl, List.mem_range.mp (List.mem_of_find?_eq_some hs)⟩
      · exact ⟨captureEventSets_paired h, rfl, hbuffer⟩

/-- The invariant of the initialisation. -/
structure GraphState.Paired (inst : Instance) (s : GraphState) : Prop where
  contexts : ∀ j, TensorrtBackend.Paired inst.numCopyStreams
    (s.contexts.getD j default).cudaGraphExecs
  nextSet : s.indices.nextSet = 0
  buffer : s.indices.nextBufferBindingSet < inst.numCopyStreams

theorem graphEntries_replicate_empty (n set : ℕ) :
    graphEntries (List.replicate n SortedMap.empty) set = [] := by
  rw [graphEntries, List.getD_eq_getElem?_getD, List.getElem?_replicate]
  split <;> rfl

/-- Nothing is captured at first. -/
theorem graphEntries_initial (inst : Instance) (j set : ℕ) :
    graphEntries ((GraphState.initial inst).contexts.getD j default).cudaGraphExecs set = [] := by
  rw [GraphState.initial, List.getD_eq_getElem?_getD, List.getElem?_map]
  cases inst.trtContexts[j]? with
  | none => exact graphEntries_replicate_empty eventSetCount set
  | some c => exact graphEntries_replicate_empty eventSetCount set

theorem GraphState.initial_paired {inst : Instance} (h : 0 < inst.numCopyStreams) :
    (GraphState.initial inst).Paired inst where
  contexts := by
    intro j set x hx
    rw [graphEntries_initial] at hx
    exact absurd hx List.not_mem_nil
  nextSet := rfl
  buffer := h

theorem buildStep_paired {inst : Instance} {s : GraphState} (h : s.Paired inst)
    (step : BuildStep) : (buildStep inst s step).2.Paired inst := by
  have hbuilt : TensorrtBackend.Paired inst.numCopyStreams (buildCudaGraph inst step.calls
      (s.contexts.getD step.context default) step.graphSpec s.indices).2.1.cudaGraphExecs ∧ _ :=
    buildCudaGraph_paired (h.contexts step.context) h.buffer
  obtain ⟨hpaired, hset, hbuffer⟩ := hbuilt
  refine ⟨fun j => ?_, hset.trans h.nextSet, hbuffer⟩
  by_cases hj : step.context = j
  · subst hj
    by_cases hlt : step.context < s.contexts.length
    · rw [buildStep_context hlt]
      exact hpaired
    · rw [buildStep, List.set_eq_of_length_le (not_lt.mp hlt)]
      exact h.contexts step.context
  · rw [buildStep, List.getD_eq_getElem?_getD, List.getElem?_set_ne hj,
      ← List.getD_eq_getElem?_getD]
    exact h.contexts j

theorem runBuilds_paired {inst : Instance} {s : GraphState} (h : s.Paired inst)
    (steps : List BuildStep) : (runBuilds inst s steps).Paired inst := by
  induction steps generalizing s with
  | nil => exact h
  | cons step steps ih => exact ih (buildStep_paired h step)

/-- **After the initialisation** every graph carries the pairing of its capture. -/
theorem initializeCudaGraph_paired {inst : Instance} (h : 0 < inst.numCopyStreams)
    (calls : ℕ → ℕ → BuildCalls) (graphSpecs : List GraphSpec) :
    (initializeCudaGraph inst calls graphSpecs).Paired inst :=
  runBuilds_paired (GraphState.initial_paired h) _

/-! ### Where the indices are -/

theorem processRequestsAll_cons (numCopyStreams : ℕ) (s : SetIndices) (runOk : Bool)
    (runOks : List Bool) :
    processRequestsAll numCopyStreams s (runOk :: runOks) =
      processRequestsAll numCopyStreams (processRequestsIndices numCopyStreams s runOk) runOks := rfl

/-- **The two cycles**: after any calls, of which `k` succeeded, both indices have advanced by `k`.
-/
theorem processRequestsAll_indices {numCopyStreams : ℕ} {s : SetIndices} (runOks : List Bool)
    (hset : s.nextSet < eventSetCount) (hbuffer : s.nextBufferBindingSet < numCopyStreams) :
    (processRequestsAll numCopyStreams s runOks).nextSet =
        (s.nextSet + runOks.count true) % eventSetCount ∧
      (processRequestsAll numCopyStreams s runOks).nextBufferBindingSet =
        (s.nextBufferBindingSet + runOks.count true) % numCopyStreams := by
  induction runOks generalizing s with
  | nil =>
      show s.nextSet = (s.nextSet + 0) % eventSetCount ∧ _ = (_ + 0) % numCopyStreams
      rw [Nat.add_zero, Nat.add_zero, Nat.mod_eq_of_lt hset, Nat.mod_eq_of_lt hbuffer]
      exact ⟨rfl, rfl⟩
  | cons runOk runOks ih =>
      rw [processRequestsAll_cons]
      cases runOk with
      | false =>
          rw [List.count_cons_of_ne (by decide)]
          exact ih hset hbuffer
      | true =>
          have hpos : 0 < numCopyStreams := by omega
          have hcount : (true :: runOks).count true = runOks.count true + 1 := List.count_cons_self
          obtain ⟨h1, h2⟩ := ih (s := processRequestsIndices numCopyStreams s true)
            (Nat.mod_lt _ (by decide)) (Nat.mod_lt _ hpos)
          rw [h1, h2, hcount]
          show ((s.nextSet + 1) % eventSetCount + runOks.count true) % eventSetCount = _ ∧
            ((s.nextBufferBindingSet + 1) % numCopyStreams + runOks.count true) % numCopyStreams = _
          rw [Nat.mod_add_mod, Nat.mod_add_mod]
          constructor
          · rw [show s.nextSet + 1 + runOks.count true = s.nextSet + (runOks.count true + 1) by omega]
          · rw [show s.nextBufferBindingSet + 1 + runOks.count true =
              s.nextBufferBindingSet + (runOks.count true + 1) by omega]

/-! ### The buffers of a graph that is found -/

/-- **When a launched graph uses the current buffers.**  With a separate output stream, after any
sequence of calls: a graph that is found was captured with the current buffer set exactly when the
number of successful calls, taken round the event sets, has the parity of the buffer set index. -/
theorem foundGraph_buffer_iff {inst : Instance} (hstreams : inst.numCopyStreams = 2)
    (calls : ℕ → ℕ → BuildCalls) (graphSpecs : List GraphSpec) (runOks : List Bool)
    {j : ℕ} {key : List ℤ} {allowInexactMatch exact : Bool} {graph : CudaGraph}
    (hfind : findClosestCudaGraph allowInexactMatch
      (processRequestsAll inst.numCopyStreams (initializeCudaGraph inst calls graphSpecs).indices
        runOks).nextSet
      ((initializeCudaGraph inst calls graphSpecs).contexts.getD j default) key =
        (some graph, exact)) :
    ∃ exec, graph.cudaGraphExec = some exec ∧
      (exec.bufferBindingSet = (processRequestsAll inst.numCopyStreams
          (initializeCudaGraph inst calls graphSpecs).indices runOks).nextBufferBindingSet ↔
        runOks.count true % eventSetCount % 2 =
          ((initializeCudaGraph inst calls graphSpecs).indices.nextBufferBindingSet +
            runOks.count true) % 2) := by
  have hinit := initializeCudaGraph_paired (by omega : 0 < inst.numCopyStreams) calls graphSpecs
  obtain ⟨hset, hbuffer⟩ := processRequestsAll_indices runOks
    (by rw [hinit.nextSet]; decide) hinit.buffer
  obtain ⟨k, hmem⟩ := mem_of_findClosestCudaGraph hfind
  have hexec := hinit.contexts j _ _ hmem
  refine ⟨_, hexec, ?_⟩
  rw [hset, hbuffer, hinit.nextSet, Nat.zero_add, hstreams]

/-- A matrix model with a separate output stream whose graphs are captured for batches of four. -/
def matrixGraphs : GraphState :=
  initializeCudaGraph (matrixInstance 8 2 matrixBatchSize_lt) (fun _ _ => {}) [defaultSpec 4]

/-- The graph captured there for an event set. -/
def matrixGraph (set : ℕ) : CudaGraph where
  lowerBoundKey := [4, 4, 4]
  inputDims := [[4, 4]]
  cudaGraphExec := some ⟨set % 2, set⟩

/-- The theorem after one successful call. -/
theorem foundGraph_buffer_iff_matrix :
    ∃ exec, (matrixGraph 1).cudaGraphExec = some exec ∧
      (exec.bufferBindingSet =
          (processRequestsAll 2 matrixGraphs.indices [true]).nextBufferBindingSet ↔
        [true].count true % eventSetCount % 2 =
          (matrixGraphs.indices.nextBufferBindingSet + [true].count true) % 2) := by
  have hfind : findClosestCudaGraph false (processRequestsAll 2 matrixGraphs.indices [true]).nextSet
      (matrixGraphs.contexts.getD 0 default) [4, 4, 4] = (some (matrixGraph 1), true) := rfl
  exact foundGraph_buffer_iff rfl _ _ [true] hfind

/-- **The slip**: after three successful calls the graph that is found reads the buffers of set 0
while the execution fills those of set 1. -/
theorem foundGraph_wrong_buffer :
    findClosestCudaGraph false
        (processRequestsAll 2 matrixGraphs.indices [true, true, true]).nextSet
        (matrixGraphs.contexts.getD 0 default) [4, 4, 4] = (some (matrixGraph 0), true) ∧
      (matrixGraph 0).cudaGraphExec = some ⟨0, 0⟩ ∧
      (processRequestsAll 2 matrixGraphs.indices [true, true, true]).nextBufferBindingSet = 1 := by
  refine ⟨rfl, rfl, ?_⟩
  decide

end TensorrtBackend

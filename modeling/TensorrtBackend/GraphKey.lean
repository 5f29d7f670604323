import TensorrtBackend.CudaGraph

/-!
# The key of a captured graph and the key of an execution

`SetCudaGraphShape` puts the spec's batch size in front of the dimensions of the inputs, `Run` the
total batch size in front of the shapes it sets.  The two keys agree on the dimensions; on the first
element they agree for a batching model, while a model without batching captures under `0` and looks
up under `1`.
-/

namespace TensorrtBackend

/-- `input_dims` of `Run` when the input loop is done: the key it looks up. -/
def runKey (lib : BackendCommon) (inst : Instance) (set : ℕ)
    (batchInputShape : BatchInput → Option (List ℤ)) (setInputShape : ℕ → Dims → Bool)
    (totalBatchSize : ℕ) (requests : List Request) (citr : TensorRTContext)
    (requestShapeValues : ShapeValueMap) : List ℤ :=
  (runChecks lib inst set batchInputShape setInputShape totalBatchSize requests citr
    requestShapeValues 0 inst.tensors [(totalBatchSize : ℤ)]).2

theorem setCudaGraphShape_key {inst : Instance} {setInputShape : ℕ → Dims → Bool}
    {trtContext : TensorRTContext} {graphSpec : GraphSpec} {key : List ℤ} {graph : CudaGraph}
    (h : setCudaGraphShape inst setInputShape trtContext graphSpec = .ok (key, graph)) :
    key = toInt32 graphSpec.batchSize :: graph.inputDims.flatten := by
  simp only [setCudaGraphShape] at h
  generalize (if graphSpec.lowerBoundBatchSize = 0 then 1 else graphSpec.lowerBoundBatchSize) =
    lowerBoundBatch at h
  split at h
  · cases h
  · cases h
    rfl

/-- What a spec passes: without batching both batch sizes are 0, with batching they are in range,
and every shape has a lower bound. -/
theorem validateGraphSpec_eq_none_iff {maxBatchSize : ℕ} {graphSpec : GraphSpec} :
    validateGraphSpec maxBatchSize graphSpec = none ↔
      (maxBatchSize = 0 → graphSpec.batchSize = 0 ∧ graphSpec.lowerBoundBatchSize = 0) ∧
        (maxBatchSize ≠ 0 → 1 ≤ graphSpec.lowerBoundBatchSize ∧
          graphSpec.batchSize ≤ maxBatchSize) ∧
        graphSpec.lowerBoundBatchSize ≤ graphSpec.batchSize ∧
        ∀ input ∈ graphSpec.shapes,
          validateGraphSpecInput graphSpec.lowerBoundShapes input = none := by
  rw [validateGraphSpec, check_eq_none_iff, check_eq_none_iff, check_eq_none_iff,
    List.findSome?_eq_none_iff]
  constructor
  · intro h
    obtain ⟨hzero, hrange, hlower, hinputs⟩ := h
    exact ⟨by omega, by omega, by omega, hinputs⟩
  · intro h
    obtain ⟨hzero, hrange, hlower, hinputs⟩ := h
    exact ⟨by omega, by omega, by omega, hinputs⟩

/-- What `ValidateGraphSpec` says about the batch size. -/
theorem validateGraphSpec_batchSize {maxBatchSize : ℕ} {graphSpec : GraphSpec}
    (h : validateGraphSpec maxBatchSize graphSpec = none) :
    (maxBatchSize = 0 → graphSpec.batchSize = 0) ∧
      (maxBatchSize ≠ 0 → 1 ≤ graphSpec.batchSize ∧ graphSpec.batchSize ≤ maxBatchSize) := by
  obtain ⟨hzero, hpos, hlower, -⟩ := validateGraphSpec_eq_none_iff.mp h
  constructor
  · intro hm
    exact (hzero hm).1
  · intro hm
    have := hpos hm
    omega

/-- Every spec that is captured has been validated. -/
theorem initializeGraphSpecs_valid {maxBatchSize : ℕ} {config : GraphConfig}
    {graphSpecs : List GraphSpec} {allowInexactMatch : Bool}
    (h : initializeGraphSpecs maxBatchSize config = .ok (graphSpecs, allowInexactMatch)) :
    ∀ graphSpec ∈ graphSpecs, validateGraphSpec maxBatchSize graphSpec = none := by
  unfold initializeGraphSpecs at h
  simp only at h
  split at h
  · cases h
  · rename_i hvalid
    cases h
    exact List.findSome?_eq_none_iff.mp hvalid

/-! ### Captured graphs stay stored -/

section Stored

variable {numCopyStreams : ℕ} {calls : BuildCalls} {key : List ℤ} {graph : CudaGraph}
  {s : Bool × List CudaGraphMap} {setIdx : ℕ}

/-- The entries stored for event set `set`. -/
def graphEntries (graphs : List CudaGraphMap) (set : ℕ) : List (List ℤ × CudaGraph) :=
  (graphs.getD set default).entries

theorem graphEntries_modify_of_ne {graphs : List CudaGraphMap} {f : CudaGraphMap → CudaGraphMap}
    {set : ℕ} (h : setIdx ≠ set) :
    graphEntries (graphs.modify setIdx f) set = graphEntries graphs set := by
  rw [graphEntries, graphEntries, List.getD_eq_getElem?_getD, List.getD_eq_getElem?_getD,
    List.getElem?_modify_ne f graphs h]

theorem graphEntries_modify_self {graphs : List CudaGraphMap} {f : CudaGraphMap → CudaGraphMap}
    (h : setIdx < graphs.length) :
    graphEntries (graphs.modify setIdx f) setIdx = (f (graphs.getD setIdx default)).entries := by
  rw [graphEntries, List.getD_eq_getElem?_getD, List.getD_eq_getElem?_getD,
    List.getElem?_modify_eq, List.getElem?_eq_getElem h]
  rfl

/-- What one capture stores: nothing, or one graph for its own event set. -/
theorem captureEventSet_cases (numCopyStreams : ℕ) (calls : BuildCalls) (key : List ℤ)
    (graph : CudaGraph) (s : Bool × List CudaGraphMap) (setIdx : ℕ) :
    captureEventSet numCopyStreams calls key graph s setIdx = (false, s.2) ∨
      s.1 = true ∧ captureEventSet numCopyStreams calls key graph s setIdx =
        (calls.destroy setIdx, s.2.modify setIdx fun graphs => graphs.insert key
          { graph with cudaGraphExec := some ⟨setIdx % numCopyStreams, setIdx⟩ }) := by
  unfold captureEventSet
  split
  · exact Or.inl rfl
  · split
    · exact Or.inl rfl
    · rename_i hok
      simp only [Bool.not_eq_true', Bool.not_eq_false, Bool.and_eq_true] at hok
      split
      · exact Or.inl rfl
      · exact Or.inr ⟨hok.1.1, rfl⟩

theorem captureEventSet_mono {set : ℕ} {x : List ℤ × CudaGraph} (h : x ∈ graphEntries s.2 set) :
    x ∈ graphEntries (captureEventSet numCopyStreams calls key graph s setIdx).2 set := by
  rcases captureEventSet_cases numCopyStreams calls key graph s setIdx with hc | ⟨-, hc⟩
  · rw [hc]
    exact h
  · rw [hc]
    by_cases hset : setIdx = set
    · subst hset
      by_cases hlt : setIdx < s.2.length
      · rw [graphEntries_modify_self hlt]
        exact SortedMap.mem_insertEntry_of_mem h
      · rw [List.modify_eq_self (not_lt.mp hlt)]
        exact h
    · rw [graphEntries_modify_of_ne hset]
      exact h

/-- A capture that leaves the flag set has stored the key. -/
theorem captureEventSet_stores
    (h : (captureEventSet numCopyStreams calls key graph s setIdx).1 = true)
    (hlt : setIdx < s.2.length) :
    s.1 = true ∧ ∃ g, (key, g) ∈
      graphEntries (captureEventSet numCopyStreams calls key graph s setIdx).2 setIdx := by
  rcases captureEventSet_cases numCopyStreams calls key graph s setIdx with hc | ⟨hs, hc⟩
  · rw [hc] at h
    cases h
  · rw [hc, graphEntries_modify_self hlt]
    obtain ⟨x, hx, hkey⟩ := SortedMap.exists_key_insertEntry key
      { graph with cudaGraphExec := some ⟨setIdx % numCopyStreams, setIdx⟩ }
      (s.2.getD setIdx default).entries
    exact ⟨hs, x.2, hkey ▸ hx⟩

theorem foldl_captureEventSet_mono {l : List ℕ} {set : ℕ} {x : List ℤ × CudaGraph}
    (h : x ∈ graphEntries s.2 set) :
    x ∈ graphEntries (l.foldl (captureEventSet numCopyStreams calls key graph) s).2 set := by
  induction l generalizing s with
  | nil => exact h
  | cons setIdx l ih => exact ih (captureEventSet_mono h)

/-- A capture loop that leaves the flag set has stored the key for every event set it visited. -/
theorem foldl_captureEventSet_stores {l : List ℕ}
    (h : (l.foldl (captureEventSet numCopyStreams calls key graph) s).1 = true)
    (hl : ∀ setIdx ∈ l, setIdx < s.2.length) :
    s.1 = true ∧ ∀ setIdx ∈ l, ∃ g, (key, g) ∈
      graphEntries (l.foldl (captureEventSet numCopyStreams calls key graph) s).2 setIdx := by
  induction l generalizing s with
  | nil => exact ⟨h, by simp⟩
  | cons setIdx l ih =>
      rw [List.foldl_cons] at h ⊢
      have hlen : (captureEventSet numCopyStreams calls key graph s setIdx).2.length = s.2.length :=
        captureEventSet_length s setIdx
      obtain ⟨hflag, hrest⟩ := ih h fun j hj => by
        rw [hlen]
        exact hl j (by simp [hj])
      obtain ⟨hs, g, hg⟩ := captureEventSet_stores hflag (hl setIdx (by simp))
      refine ⟨hs, fun j hj => ?_⟩
      rcases List.mem_cons.mp hj with rfl | hj
      · exact ⟨g, foldl_captureEventSet_mono hg⟩
      · exact hrest j hj

end Stored

/-! ### Builds -/

section Builds

variable {inst : Instance} {calls : BuildCalls} {graphSpec : GraphSpec}

/-- `BuildCudaGraph` removes no graph from the context. -/
theorem buildCudaGraph_mono {trtContext : TensorRTContext} {indices : SetIndices} {set : ℕ}
    {x : List ℤ × CudaGraph} (h : x ∈ graphEntries trtContext.cudaGraphExecs set) :
    x ∈ graphEntries (buildCudaGraph inst calls trtContext graphSpec indices).2.1.cudaGraphExecs
      set := by
  unfold buildCudaGraph
  split
  · exact h
  · split
    · exact h
    · split
      · exact h
      · exact foldl_captureEventSet_mono (s := (true, trtContext.cudaGraphExecs)) h

/-- **Capture**: a captured graph is stored for every event set, under the key of its shape. -/
theorem buildCudaGraph_stores {trtContext : TensorRTContext} {indices : SetIndices}
    (h : (buildCudaGraph inst calls trtContext graphSpec indices).1 = true) {key : List ℤ}
    {graph : CudaGraph}
    (hshape : setCudaGraphShape inst calls.setInputShape trtContext graphSpec = .ok (key, graph))
    {set : ℕ} (hset : set < eventSetCount) :
    ∃ g, (key, g) ∈ graphEntries
      (buildCudaGraph inst calls trtContext graphSpec indices).2.1.cudaGraphExecs set := by
  unfold buildCudaGraph at h ⊢
  split at h
  · cases h
  · rename_i hnoshape
    rw [if_neg hnoshape]
    simp only [hshape] at h ⊢
    split at h
    · cases h
    · rename_i hwarm
      simp only at h ⊢
      have hlen : ∀ i ∈ List.range eventSetCount, i < trtContext.cudaGraphExecs.length := by
        intro i hi
        rw [trtContext.cudaGraphExecs_length]
        exact List.mem_range.mp hi
      exact (foldl_captureEventSet_stores (s := (true, trtContext.cudaGraphExecs)) h hlen).2 set
        (List.mem_range.mpr hset)

/-- The graphs of context `j` for event set `set`. -/
def contextEntries (s : GraphState) (j set : ℕ) : List (List ℤ × CudaGraph) :=
  graphEntries (s.contexts.getD j default).cudaGraphExecs set

theorem buildStep_context {s : GraphState} {step : BuildStep}
    (h : step.context < s.contexts.length) :
    (buildStep inst s step).2.contexts.getD step.context default =
      (buildCudaGraph inst step.calls (s.contexts.getD step.context default) step.graphSpec
        s.indices).2.1 := by
  rw [buildStep, List.getD_eq_getElem?_getD, List.getElem?_set_self h, Option.getD_some]

theorem buildStep_length (s : GraphState) (step : BuildStep) :
    (buildStep inst s step).2.contexts.length = s.contexts.length := by
  rw [buildStep, List.length_set]

theorem runBuilds_length (s : GraphState) (steps : List BuildStep) :
    (runBuilds inst s steps).contexts.length = s.contexts.length := by
  induction steps generalizing s with
  | nil => rfl
  | cons step steps ih =>
      show (runBuilds inst (buildStep inst s step).2 steps).contexts.length = _
      rw [ih, buildStep_length]

theorem buildStep_mono {s : GraphState} {step : BuildStep} {j set : ℕ} {x : List ℤ × CudaGraph}
    (h : x ∈ contextEntries s j set) : x ∈ contextEntries (buildStep inst s step).2 j set := by
  by_cases hj : step.context = j
  · subst hj
    by_cases hlt : step.context < s.contexts.length
    · rw [contextEntries, buildStep_context hlt]
      exact buildCudaGraph_mono h
    · rw [contextEntries, buildStep, List.set_eq_of_length_le (not_lt.mp hlt)]
      exact h
  · rw [contextEntries, buildStep, List.getD_eq_getElem?_getD, List.getElem?_set_ne hj,
      ← List.getD_eq_getElem?_getD]
    exact h

theorem runBuilds_mono {s : GraphState} {steps : List BuildStep} {j set : ℕ}
    {x : List ℤ × CudaGraph} (h : x ∈ contextEntries s j set) :
    x ∈ contextEntries (runBuilds inst s steps) j set := by
  induction steps generalizing s with
  | nil => exact h
  | cons step steps ih => exact ih (buildStep_mono h)

/-- Every build of the initialisation is for a context of the instance. -/
theorem context_lt_of_mem_buildSteps {calls : ℕ → ℕ → BuildCalls} {graphSpecs : List GraphSpec}
    {n : ℕ} {step : BuildStep} (h : step ∈ buildSteps calls graphSpecs n) : step.context < n := by
  obtain ⟨⟨spec, i⟩, -, hstep⟩ := List.mem_flatMap.mp h
  obtain ⟨j, hj, rfl⟩ := List.mem_map.mp hstep
  exact List.mem_range.mp hj

/-- A graph captured during the initialisation is there when it is over. -/
theorem initializeCudaGraph_stores {calls : ℕ → ℕ → BuildCalls} {graphSpecs : List GraphSpec}
    {pre post : List BuildStep} {step : BuildStep}
    (hsteps : buildSteps calls graphSpecs inst.trtContexts.length = pre ++ step :: post)
    (hcap : (buildStep inst (runBuilds inst (.initial inst) pre) step).1 = true)
    {key : List ℤ} {graph : CudaGraph}
    (hshape : setCudaGraphShape inst step.calls.setInputShape
      ((runBuilds inst (.initial inst) pre).contexts.getD step.context default) step.graphSpec =
        .ok (key, graph)) {set : ℕ} (hset : set < eventSetCount) :
    ∃ g, (key, g) ∈ contextEntries (initializeCudaGraph inst calls graphSpecs) step.context set := by
  have hlt : step.context < (runBuilds inst (.initial inst) pre).contexts.length := by
    rw [runBuilds_length]
    show step.context < (inst.trtContexts.map _).length
    rw [List.length_map]
    exact context_lt_of_mem_buildSteps (hsteps ▸ (by simp) : step ∈ buildSteps calls graphSpecs _)
  obtain ⟨g, hg⟩ := buildCudaGraph_stores hcap hshape hset
  rw [← buildStep_context hlt] at hg
  refine ⟨g, ?_⟩
  rw [initializeCudaGraph, hsteps, runBuilds, List.foldl_append, List.foldl_cons]
  exact runBuilds_mono hg

end Builds

/-! ### The two keys -/

/-- **When capture and lookup agree on the key.**  For an execution that gives a captured graph's
shapes and batch size, the keys agree and the lookup is exact if and only if the model supports
batching. -/
theorem graphKey_matches_iff {inst : Instance} {calls : ℕ → ℕ → BuildCalls}
    {graphSpecs : List GraphSpec} {pre post : List BuildStep} {step : BuildStep}
    (hsteps : buildSteps calls graphSpecs inst.trtContexts.length = pre ++ step :: post)
    (hspec : validateGraphSpec inst.maxBatchSize step.graphSpec = none)
    (hcap : (buildStep inst (runBuilds inst (.initial inst) pre) step).1 = true)
    {key : List ℤ} {graph : CudaGraph}
    (hshape : setCudaGraphShape inst step.calls.setInputShape
      ((runBuilds inst (.initial inst) pre).contexts.getD step.context default) step.graphSpec =
        .ok (key, graph))
    {lib : BackendCommon} {set : ℕ} {batchInputShape : BatchInput → Option (List ℤ)}
    {setInputShape : ℕ → Dims → Bool} {totalBatchSize : ℕ} {requests : List Request}
    {requestShapeValues : ShapeValueMap} {citr : TensorRTContext}
    (hcitr : citr = (initializeCudaGraph inst calls graphSpecs).contexts.getD step.context default)
    (hrun : (runChecks lib inst set batchInputShape setInputShape totalBatchSize requests citr
      requestShapeValues 0 inst.tensors [(totalBatchSize : ℤ)]).1 = none)
    (hdims : runtimeShapes lib inst set batchInputShape totalBatchSize requests 0 inst.tensors =
      graph.inputDims)
    (hbatch : (totalBatchSize : ℤ) =
      if inst.maxBatchSize = 0 then 1 else step.graphSpec.batchSize)
    (allowInexactMatch : Bool) {nextSet : ℕ} (hset : nextSet < eventSetCount) :
    (runKey lib inst set batchInputShape setInputShape totalBatchSize requests citr
          requestShapeValues = key ∧
        (findClosestCudaGraph allowInexactMatch nextSet citr
          (runKey lib inst set batchInputShape setInputShape totalBatchSize requests citr
            requestShapeValues)).2 = true) ↔ 0 < inst.maxBatchSize := by
  have hkey : key = toInt32 step.graphSpec.batchSize :: graph.inputDims.flatten :=
    setCudaGraphShape_key hshape
  have hrunKey : runKey lib inst set batchInputShape setInputShape totalBatchSize requests citr
      requestShapeValues = (totalBatchSize : ℤ) :: graph.inputDims.flatten := by
    rw [runKey, runChecks_key hrun, hdims, List.singleton_append]
  obtain ⟨hzero, hpos⟩ := validateGraphSpec_batchSize hspec
  constructor
  · rintro ⟨heq, -⟩
    by_contra hnot
    have hm : inst.maxBatchSize = 0 := by omega
    rw [hrunKey, hkey, hbatch, if_pos hm, hzero hm] at heq
    exact absurd (List.cons.inj heq).1 (by decide)
  · intro hm
    have hne : inst.maxBatchSize ≠ 0 := by omega
    have hint := inst.maxBatchSize_int
    obtain ⟨hlow, hhigh⟩ := hpos hne
    have hnarrow : toInt32 step.graphSpec.batchSize = step.graphSpec.batchSize := by
      apply toInt32_eq_self <;> omega
    have heq : runKey lib inst set batchInputShape setInputShape totalBatchSize requests citr
        requestShapeValues = key := by
      rw [hrunKey, hkey, hbatch, if_neg hne, hnarrow]
    refine ⟨heq, ?_⟩
    rw [heq, findClosestCudaGraph_exact_iff, hcitr]
    exact initializeCudaGraph_stores hsteps hcap hshape hset

/-! ### Graphs of a matrix model -/

/-- The default spec for a batch size. -/
def defaultSpec (batchSize : ℤ) : GraphSpec :=
  { batchSize := batchSize, lowerBoundBatchSize := batchSize }

/-- The first context of a model with one matrix input once the default spec is captured. -/
def matrixGraphContext (maxBatchSize : ℕ) (batchSize : ℤ) (h : maxBatchSize < 2 ^ 31) :
    TensorRTContext :=
  (initializeCudaGraph (matrixInstance maxBatchSize 1 h) (fun _ _ => {})
    [defaultSpec batchSize]).contexts.getD 0 default

/-- The key an execution of four rows of four looks up there. -/
def matrixRunKey (maxBatchSize : ℕ) (batchSize : ℤ) (h : maxBatchSize < 2 ^ 31)
    (totalBatchSize : ℕ) : List ℤ :=
  runKey BackendCommon.plain (matrixInstance maxBatchSize 1 h) 0 (fun _ => none) (fun _ _ => true)
    totalBatchSize (matrixRequests 4 4) (matrixGraphContext maxBatchSize batchSize h) fun _ => none

/-- The theorem at a batch of four. -/
theorem graphKey_matches_iff_matrix :
    (matrixRunKey 8 4 (by decide) 4 = [4, 4, 4] ∧
        (findClosestCudaGraph false 0 (matrixGraphContext 8 4 (by decide))
          (matrixRunKey 8 4 (by decide) 4)).2 = true) ↔
      0 < (matrixInstance 8 1).maxBatchSize := by
  have hsteps : buildSteps (fun _ _ => {}) [defaultSpec 4] (matrixInstance 8 1).trtContexts.length =
      [] ++ ⟨{}, defaultSpec 4, 0⟩ :: [⟨{}, defaultSpec 4, 1⟩] := rfl
  have hshape : setCudaGraphShape (matrixInstance 8 1) (fun _ _ => true)
      ((runBuilds (matrixInstance 8 1) (.initial (matrixInstance 8 1)) []).contexts.getD 0 default)
      (defaultSpec 4) = .ok ([4, 4, 4], { lowerBoundKey := [4, 4, 4], inputDims := [[4, 4]] }) := rfl
  exact graphKey_matches_iff hsteps (by decide) rfl hshape rfl rfl rfl rfl false (by decide)

/-- **The slip**: without batching the graph is captured under a key that starts with `0`, and the
execution with exactly its shapes looks up `1`. -/
theorem graphKey_mismatch_matrix :
    validateGraphSpec 0 (defaultSpec 0) = none ∧
      (buildStep (matrixInstance 0 1) (.initial (matrixInstance 0 1)) ⟨{}, defaultSpec 0, 0⟩).1 =
        true ∧
      setCudaGraphShape (matrixInstance 0 1) (fun _ _ => true) (matrixProfile 0 4 4)
        (defaultSpec 0) = .ok ([0, 4, 4], { lowerBoundKey := [1, 4, 4], inputDims := [[4, 4]] }) ∧
      runtimeShapes BackendCommon.plain (matrixInstance 0 1) 0 (fun _ => none) 1 (matrixRequests 4 4)
        0 (matrixInstance 0 1).tensors = [[4, 4]] ∧
      ¬ (matrixRunKey 0 0 (by decide) 1 = [0, 4, 4] ∧
        (findClosestCudaGraph false 0 (matrixGraphContext 0 0 (by decide))
          (matrixRunKey 0 0 (by decide) 1)).2 = true) := by
  refine ⟨by decide, rfl, rfl, rfl, fun h => ?_⟩
  have hkey : matrixRunKey 0 0 (by decide) 1 = [1, 4, 4] := rfl
  have heq := h.1
  rw [hkey] at heq
  exact absurd heq (by decide)

end TensorrtBackend

import TensorrtBackend.InputChecks

/-!
# CUDA graphs: specs, capture and lookup

`InitializeCudaGraph` captures one graph for every graph spec, every context and every event set.
`SetCudaGraphShape` derives the key of a graph from the spec and the opt dims; `BuildCudaGraph`
warms the context up once for each set of binding buffers and then captures for event set `set_idx`
with the buffers `set_idx % num_copy_streams_`.  `FindClosestCudaGraph` looks a key up in the graphs
of the event set that is next.

The outcomes of the CUDA and TensorRT calls of one capture are a `BuildCalls`.
-/

namespace TensorrtBackend

/-! ### Graph specs -/

/-- `GraphSpec`; the shapes are maps, listed by input name. -/
structure GraphSpec where
  batchSize : ℤ := 0
  shapes : List (String × List ℤ) := []
  lowerBoundBatchSize : ℤ := 0
  lowerBoundShapes : List (String × List ℤ) := []
  deriving DecidableEq

/-- The checks `ValidateGraphSpec` makes on the shape of one input. -/
def validateGraphSpecInput (lowerBoundShapes : List (String × List ℤ)) (input : String × List ℤ) :
    Option Error :=
  match lowerBoundShapes.lookup input.1 with
  | none =>
      errorNew .invalidArg ("graph lower bound spec expects shape for input '" ++ input.1 ++ "'")
  | some lower =>
    if lower.length ≠ input.2.length then
      errorNew .invalidArg ("graph lower bound spec expects to have '" ++
        toString input.2.length ++ " dimensions, got " ++ toString lower.length)
    else
      (List.range input.2.length).findSome? fun idx =>
        if lower.getD idx 0 < 0 ∨ input.2.getD idx 0 < 0 then
          errorNew .invalidArg ("graph spec expects input '" ++ input.1 ++
            "' to have dimension >= 0")
        else if lower.getD idx 0 > input.2.getD idx 0 then
          errorNew .invalidArg ("graph lower bound spec expects input '" ++ input.1 ++
            "' to have dimension <= " ++ toString (input.2.getD idx 0))
        else none

/-- `ValidateGraphSpec`. -/
def validateGraphSpec (maxBatchSize : ℕ) (graphSpec : GraphSpec) : Option Error :=
  if maxBatchSize = 0 ∧ (graphSpec.batchSize ≠ 0 ∨ graphSpec.lowerBoundBatchSize ≠ 0) then
    errorNew .invalidArg
      "graph spec expects 'batch_size' to be 0 if 'max_batch_size' is 0"
  else if maxBatchSize ≠ 0 ∧ ((graphSpec.batchSize > maxBatchSize ∨ graphSpec.batchSize < 1) ∨
      (graphSpec.lowerBoundBatchSize > maxBatchSize ∨ graphSpec.lowerBoundBatchSize < 1)) then
    errorNew .invalidArg ("graph spec expects 'batch_size' to be >= 1 and <= " ++
      toString maxBatchSize)
  else if graphSpec.lowerBoundBatchSize > graphSpec.batchSize then
    errorNew .invalidArg
      "graph lower bound spec expects 'batch_size' to be <= graph spec 'batch_size'"
  else graphSpec.shapes.findSome? (validateGraphSpecInput graphSpec.lowerBoundShapes)

/-- The members of one `graph_spec` of the model configuration. -/
structure GraphSpecConfig where
  batchSize : ℤ
  input : List (String × List ℤ) := []
  graphLowerBound : Option (ℤ × List (String × List ℤ)) := none

/-- Where the configuration gives preferred batch sizes: in `dynamic_batching`, or in the `oldest`
strategy of `sequence_batching`. -/
structure GraphConfig where
  graphSpecs : List GraphSpecConfig := []
  preferredBatchSize : Option (List ℤ) := none

/-- The spec of one entry of the configuration. -/
def GraphSpecConfig.graphSpec (config : GraphSpecConfig) : GraphSpec :=
  match config.graphLowerBound with
  | some (batchSize, shapes) =>
      { batchSize := config.batchSize, shapes := config.input,
        lowerBoundBatchSize := batchSize, lowerBoundShapes := shapes }
  | none =>
      { batchSize := config.batchSize, shapes := config.input,
        lowerBoundBatchSize := config.batchSize, lowerBoundShapes := config.input }

/-- `cuda_graph_batch_sizes`, in increasing order. -/
def defaultBatchSizes (maxBatchSize : ℕ) (preferred : Option (List ℤ)) : List ℤ :=
  let sizes := match preferred with
    | some pbs => (if maxBatchSize = 0 then 0 else 1) :: pbs.map toInt32
    | none => [1, 2, 3, 4, 6, 8, 12, 16] ++ if maxBatchSize = 0 then [0] else []
  let sizes := sizes ++ if maxBatchSize > 0 then [(maxBatchSize : ℤ)] else []
  sizes.dedup.insertionSort (· ≤ ·)

/-- `InitializeGraphSpecs`: the specs and `allow_inexact_match_`. -/
def initializeGraphSpecs (maxBatchSize : ℕ) (config : GraphConfig) :
    Except Error (List GraphSpec × Bool) :=
  let specs :=
    if config.graphSpecs.isEmpty then
      ((defaultBatchSizes maxBatchSize config.preferredBatchSize).filter
        fun (bs : ℤ) => decide (bs ≤ maxBatchSize)).map fun bs =>
          { batchSize := bs, lowerBoundBatchSize := bs }
    else config.graphSpecs.map GraphSpecConfig.graphSpec
  match specs.findSome? (validateGraphSpec maxBatchSize) with
  | some err => .error err
  | none => .ok (specs, config.graphSpecs.any fun spec => spec.graphLowerBound.isSome)

/-! ### The shape of a graph -/

/-- One iteration of the loop of `SetCudaGraphShape`: the dimensions the input adds to the key and
those it adds to the lower bound key, whose first element is `lowerBoundBatch`. -/
def cudaGraphInput (inst : Instance) (setInputShape : ℕ → Dims → Bool)
    (trtContext : TensorRTContext) (graphSpec : GraphSpec) (lowerBoundBatch : ℤ) (io : ℕ)
    (name : String) : Except Error (List ℤ × List ℤ) :=
  let batchSize := toInt32 graphSpec.batchSize
  let failed := fun shape : Dims =>
    Except.error ⟨.internal, "trt failed to set input shape to " ++ dimsDebugString shape ++
      " for input " ++ name ++ " for " ++ inst.name⟩
  -- An empty shape map marks a default spec, for which the opt dims are used.
  if graphSpec.shapes.isEmpty then
    let optDims := trtContext.optDims io
    let shape := if batchSize ≠ 0 then optDims.setDim 0 batchSize else optDims
    if !setInputShape io shape then failed shape
    else .ok (dimsToDimVec shape, dimsToDimVec shape)
  else
    match graphSpec.shapes.lookup name with
    | none =>
        .error ⟨.invalidArg, "trt failed to set input shape for unknown input '" ++ name ++
          "' for " ++ inst.name⟩
    | some specShape =>
      let info := inst.bindingInfo 0 io
      -- The shape of a ragged or batch input is given as it is after the concatenation.
      let asGiven := info.isBufferRagged || info.batchInput.isSome
      let shape := (if !asGiven && batchSize ≠ 0 then [batchSize] else []) ++ specShape
      let lower := (if asGiven then [] else [lowerBoundBatch]) ++
        (graphSpec.lowerBoundShapes.lookup name).getD []
      let trtShape := (dimVecToDims shape default).getD default
      if !setInputShape io trtShape then failed trtShape
      else .ok (shape, lower)

/-- The loop of `SetCudaGraphShape` from binding `io` on: the dimensions of the inputs, in binding
order, and what they append to the lower bound key. -/
def cudaGraphInputs (inst : Instance) (setInputShape : ℕ → Dims → Bool)
    (trtContext : TensorRTContext) (graphSpec : GraphSpec) (lowerBoundBatch : ℤ) :
    ℕ → List EngineTensor → Except Error (List (List ℤ) × List ℤ)
  | _, [] => .ok ([], [])
  | io, tensor :: tensors =>
      if !tensor.isInput then
        cudaGraphInputs inst setInputShape trtContext graphSpec lowerBoundBatch (io + 1) tensors
      else
        match cudaGraphInput inst setInputShape trtContext graphSpec lowerBoundBatch io
          tensor.name with
        | .error err => .error err
        | .ok (dims, lower) =>
          match cudaGraphInputs inst setInputShape trtContext graphSpec lowerBoundBatch (io + 1)
            tensors with
          | .error err => .error err
          | .ok (inputDims, lowers) => .ok (dims :: inputDims, lower ++ lowers)

/-- `SetCudaGraphShape`: the key and the graph without its executable. -/
def setCudaGraphShape (inst : Instance) (setInputShape : ℕ → Dims → Bool)
    (trtContext : TensorRTContext) (graphSpec : GraphSpec) : Except Error (List ℤ × CudaGraph) :=
  let lowerBoundBatch :=
    if graphSpec.lowerBoundBatchSize = 0 then 1 else graphSpec.lowerBoundBatchSize
  match cudaGraphInputs inst setInputShape trtContext graphSpec lowerBoundBatch 0 inst.tensors with
  | .error err => .error err
  | .ok (inputDims, lowers) =>
      .ok (toInt32 graphSpec.batchSize :: inputDims.flatten,
        { lowerBoundKey := lowerBoundBatch :: lowers, inputDims := inputDims })

/-! ### Capture -/

/-- Outcomes of the calls one `BuildCudaGraph` makes: the warm-up by buffer set, the rest by event
set. -/
structure BuildCalls where
  setInputShape : ℕ → Dims → Bool := fun _ _ => true
  warmUpEnqueue : ℕ → Bool := fun _ => true
  beginCapture : ℕ → Bool := fun _ => true
  enqueue : ℕ → Bool := fun _ => true
  endCapture : ℕ → Bool := fun _ => true
  instantiate : ℕ → Bool := fun _ => true
  destroy : ℕ → Bool := fun _ => true

/-- One iteration of the capture loop: the flag `captured`, which never becomes true again, and the
graphs by event set.  A graph is stored as soon as it is instantiated. -/
def captureEventSet (numCopyStreams : ℕ) (calls : BuildCalls) (key : List ℤ) (graph : CudaGraph)
    (s : Bool × List CudaGraphMap) (setIdx : ℕ) : Bool × List CudaGraphMap :=
  if !calls.beginCapture setIdx then (false, s.2)
  else if !(s.1 && calls.enqueue setIdx && calls.endCapture setIdx) then (false, s.2)
  else if !calls.instantiate setIdx then (false, s.2)
  else
    let exec : GraphExec := { bufferBindingSet := setIdx % numCopyStreams, eventSet := setIdx }
    let stored := { graph with cudaGraphExec := some exec }
    (calls.destroy setIdx, s.2.modify setIdx fun graphs => graphs.insert key stored)

/-- The capture loop. -/
def captureEventSets (numCopyStreams : ℕ) (calls : BuildCalls) (key : List ℤ) (graph : CudaGraph)
    (graphs : List CudaGraphMap) : Bool × List CudaGraphMap :=
  (List.range eventSetCount).foldl (captureEventSet numCopyStreams calls key graph) (true, graphs)

theorem captureEventSet_length {numCopyStreams : ℕ} {calls : BuildCalls} {key : List ℤ}
    {graph : CudaGraph} (s : Bool × List CudaGraphMap) (setIdx : ℕ) :
    (captureEventSet numCopyStreams calls key graph s setIdx).2.length = s.2.length := by
  unfold captureEventSet
  split
  · rfl
  · split
    · rfl
    · split
      · rfl
      · exact List.length_modify _ _ _

theorem captureEventSets_length (numCopyStreams : ℕ) (calls : BuildCalls) (key : List ℤ)
    (graph : CudaGraph) (graphs : List CudaGraphMap) :
    (captureEventSets numCopyStreams calls key graph graphs).2.length = graphs.length := by
  have hfold : ∀ (l : List ℕ) (s : Bool × List CudaGraphMap),
      (l.foldl (captureEventSet numCopyStreams calls key graph) s).2.length = s.2.length := by
    intro l
    induction l with
    | nil => intro s; rfl
    | cons setIdx l ih => intro s; rw [List.foldl_cons, ih, captureEventSet_length]
  exact hfold _ (true, graphs)

/-- The contexts and the two indices while graphs are built. -/
structure GraphState where
  contexts : List TensorRTContext
  indices : SetIndices

/-- `BuildCudaGraph`: whether the graph was captured, the context, and the two indices.  When a
warm-up fails the buffer set index is left at the set it failed for. -/
def buildCudaGraph (inst : Instance) (calls : BuildCalls) (trtContext : TensorRTContext)
    (graphSpec : GraphSpec) (indices : SetIndices) : Bool × TensorRTContext × SetIndices :=
  if inst.tensors.any EngineTensor.isShapeInferenceIo then (false, trtContext, indices)
  else
    match setCudaGraphShape inst calls.setInputShape trtContext graphSpec with
    | .error _ => (false, trtContext, indices)
    | .ok (key, graph) =>
      match (List.range inst.numCopyStreams).find? fun s => !calls.warmUpEnqueue s with
      | some s => (false, trtContext, { indices with nextBufferBindingSet := s })
      | none =>
        let graphs := captureEventSets inst.numCopyStreams calls key graph trtContext.cudaGraphExecs
        (graphs.1,
          { trtContext with
            cudaGraphExecs := graphs.2
            cudaGraphExecs_length := by
              rw [captureEventSets_length, trtContext.cudaGraphExecs_length] },
          indices)

/-- One call of `BuildCudaGraph` made while loading. -/
structure BuildStep where
  calls : BuildCalls
  graphSpec : GraphSpec
  context : ℕ

/-- The effect of one such call. -/
def buildStep (inst : Instance) (s : GraphState) (step : BuildStep) : Bool × GraphState :=
  let built := buildCudaGraph inst step.calls (s.contexts.getD step.context default) step.graphSpec
    s.indices
  (built.1, ⟨s.contexts.set step.context built.2.1, built.2.2⟩)

/-- The calls of `BuildCudaGraph`, in order: every context for every spec. -/
def buildSteps (calls : ℕ → ℕ → BuildCalls) (graphSpecs : List GraphSpec) (contexts : ℕ) :
    List BuildStep :=
  graphSpecs.zipIdx.flatMap fun (graphSpec, i) =>
    (List.range contexts).map fun j => ⟨calls i j, graphSpec, j⟩

/-- The calls in order. -/
def runBuilds (inst : Instance) (s : GraphState) (steps : List BuildStep) : GraphState :=
  steps.foldl (fun s step => (buildStep inst s step).2) s

/-- The state `InitializeCudaGraph` starts from: contexts without graphs, both indices 0. -/
def GraphState.initial (inst : Instance) : GraphState where
  contexts := inst.trtContexts.map fun c =>
    { c with
      cudaGraphExecs := noGraphs
      cudaGraphExecs_length := noGraphs_length }
  indices := {}

/-- `InitializeCudaGraph` for the specs of `InitializeGraphSpecs`. -/
def initializeCudaGraph (inst : Instance) (calls : ℕ → ℕ → BuildCalls)
    (graphSpecs : List GraphSpec) : GraphState :=
  runBuilds inst (.initial inst) (buildSteps calls graphSpecs inst.trtContexts.length)

/-! ### Lookup -/

/-- The test of the inexact match: every element of the key is between the lower bound key and the
key of the graph. -/
def coversKey (cudaGraphKey : List ℤ) (entry : List ℤ × CudaGraph) : Bool :=
  (List.range cudaGraphKey.length).all fun i =>
    decide (cudaGraphKey.getD i 0 ≤ entry.1.getD i 0) &&
      decide (entry.2.lowerBoundKey.getD i 0 ≤ cudaGraphKey.getD i 0)

/-- `FindClosestCudaGraph`: the graph, if any, and `found_exact`. -/
def findClosestCudaGraph (allowInexactMatch : Bool) (nextSet : ℕ) (trtContext : TensorRTContext)
    (cudaGraphKey : List ℤ) : Option CudaGraph × Bool :=
  match (trtContext.cudaGraphExecs.getD nextSet default).lowerBound cudaGraphKey with
  | [] => (none, false)
  | entry :: entries =>
      if entry.1 = cudaGraphKey then (some entry.2, true)
      else if allowInexactMatch then
        (((entry :: entries).find? (coversKey cudaGraphKey)).map Prod.snd, false)
      else (none, false)

/-! ### What a lookup finds -/

section Lookup

variable {allowInexactMatch : Bool} {nextSet : ℕ} {trtContext : TensorRTContext} {key : List ℤ}

/-- A stored key is found as such. -/
theorem findClosestCudaGraph_of_mem {graph : CudaGraph}
    (h : (key, graph) ∈ (trtContext.cudaGraphExecs.getD nextSet default).entries) :
    findClosestCudaGraph allowInexactMatch nextSet trtContext key = (some graph, true) := by
  obtain ⟨rest, hrest⟩ := SortedMap.lowerBound_of_mem h
  have hl : (trtContext.cudaGraphExecs.getD nextSet default).lowerBound key =
      (key, graph) :: rest := hrest
  rw [findClosestCudaGraph, hl]
  simp only [if_true]

/-- A key that is not stored starts the search for a range. -/
theorem findClosestCudaGraph_of_not_mem
    (h : ∀ graph, (key, graph) ∉ (trtContext.cudaGraphExecs.getD nextSet default).entries) :
    findClosestCudaGraph allowInexactMatch nextSet trtContext key =
      (if allowInexactMatch then
        (((trtContext.cudaGraphExecs.getD nextSet default).lowerBound key).find?
          (coversKey key)).map Prod.snd else none, false) := by
  rw [findClosestCudaGraph]
  cases hl : (trtContext.cudaGraphExecs.getD nextSet default).lowerBound key with
  | nil => cases allowInexactMatch <;> rfl
  | cons entry entries =>
      have hne : entry.1 ≠ key := by
        intro heq
        have hmem : entry ∈ (trtContext.cudaGraphExecs.getD nextSet default).entries :=
          SortedMap.lowerBound_subset (hl ▸ List.mem_cons_self)
        exact h entry.2 (heq ▸ hmem)
      simp only [if_neg hne]
      cases allowInexactMatch <;> rfl

/-- A graph that is found is stored for the event set it was looked up in. -/
theorem mem_of_findClosestCudaGraph {graph : CudaGraph} {exact : Bool}
    (h : findClosestCudaGraph allowInexactMatch nextSet trtContext key = (some graph, exact)) :
    ∃ k, (k, graph) ∈ (trtContext.cudaGraphExecs.getD nextSet default).entries := by
  by_cases hstored : ∃ graph, (key, graph) ∈
      (trtContext.cudaGraphExecs.getD nextSet default).entries
  · obtain ⟨stored, hmem⟩ := hstored
    rw [findClosestCudaGraph_of_mem hmem] at h
    cases h
    exact ⟨key, hmem⟩
  · rw [findClosestCudaGraph_of_not_mem (not_exists.mp hstored)] at h
    obtain ⟨hfound, -⟩ := Prod.mk.inj h
    split at hfound
    · obtain ⟨entry, hfind, rfl⟩ := Option.map_eq_some_iff.mp hfound
      exact ⟨entry.1, SortedMap.lowerBound_subset (List.mem_of_find?_eq_some hfind)⟩
    · cases hfound

/-- The match is exact exactly when the key is one of the stored ones. -/
theorem findClosestCudaGraph_exact_iff :
    (findClosestCudaGraph allowInexactMatch nextSet trtContext key).2 = true ↔
      ∃ graph, (key, graph) ∈ (trtContext.cudaGraphExecs.getD nextSet default).entries := by
  constructor
  · intro h
    by_contra hnone
    rw [findClosestCudaGraph_of_not_mem (not_exists.mp hnone)] at h
    exact Bool.false_ne_true h
  · intro h
    obtain ⟨graph, hmem⟩ := h
    rw [findClosestCudaGraph_of_mem hmem]

end Lookup

end TensorrtBackend

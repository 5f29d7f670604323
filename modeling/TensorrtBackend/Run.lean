import TensorrtBackend.CudaGraph
import TensorrtBackend.Responses

/-!
# One execution

`Run` body by body, in the order of the source: the batch sizes, the shape values and the profile,
the responses, the inputs, the CUDA graph, the launch, the requested outputs and the outputs.  Every
outside call takes its outcome from a `RunCalls`, so that a statement about all of these is one
about every pattern of failures.  A value read although the call that yields it failed is read
through an unset pointer: the process dies.
-/

namespace TensorrtBackend

open EarlyReturn PayloadM

/-- What the outside calls of an execution give: an outcome each, and the values the code reads
back. -/
structure RunCalls extends Calls where
  evaluate : TensorRTContext → EvaluateCalls := fun _ => {}
  batchInputShape : BatchInput → List ℤ := fun _ => []
  setInputShape : ℕ → Dims → Bool := fun _ _ => true
  /-- `getTensorShape`, or the shape of the output allocator. -/
  outputDims : ℕ → Dims := fun _ => default
  /-- `*shape_value_ptr`. -/
  firstShapeValue : ℕ → ℤ := fun _ => 0
  /-- What `ProcessStateTensor` returns, as the outcomes of the updates to come. -/
  updatedStates : ℕ → List (Option Error) := fun _ => []

/-- A statement under a condition. -/
def PayloadM.onlyIf (c : Prop) [Decidable c] (m : PayloadM Unit) : PayloadM Unit :=
  if c then m else pure ()

/-- The shape of the first input of a request. -/
def firstShape (request : Request) : List ℤ :=
  match request.inputs with
  | [] => []
  | input :: _ => input.shape

/-- The first dimension of the first input of a request. -/
def batchDim (request : Request) : ℤ := (firstShape request).headD 0

section Run

variable (lib : BackendCommon) (inst : Instance) (indices : SetIndices) (calls : RunCalls)
  (requests : List Request)

/-- `io_binding_infos_[next_buffer_binding_set_][io_index]`. -/
def ioBindingInfo (io : ℕ) : IOBindingInfo := inst.bindingInfo indices.nextBufferBindingSet io

/-! ### The batch -/

/-- `TRITONBACKEND_RequestInputByIndex` for the first input. -/
def requestFirstInput (request : Request) : PayloadM (Option Error) := do
  let err ← call calls.toCalls
  pure (if err.isNone ∧ request.inputs = [] then
    errorNew .invalidArg "out of bounds index 0: request has 0 inputs" else err)

/-- `TRITONBACKEND_InputProperties` for the first input.  The shape is read before the error is
looked at. -/
def addFirstDim (request : Request) : PayloadM Unit := do
  match ← call calls.toCalls with
  | some _ => crash .invalidRead
  | none => do
    let dim ← unlessCrash (firstDim (firstShape request))
    modify fun s => { s with totalBatchSize := toSizeT (s.totalBatchSize + dim) }

/-- The batch size of one request of a model that supports batching. -/
def addRequestBatch (request : Request) : PayloadM Unit := do
  match ← requestFirstInput calls request with
  | some err => respondAllAndReturn err
  | none => addFirstDim calls request

/-- One iteration of the loop over the batch sizes. -/
def addBatchSize (i : ℕ) (request : Request) : PayloadM Unit := do
  let present ← gets fun s => (s.slots.getD i default).request
  if !present then
    respondAllAndReturn
      ⟨.internal, "null request given to TensorRT backend for '" ++ inst.name ++ "'"⟩
  else if 0 < inst.maxBatchSize then addRequestBatch calls request
  else modify fun s => { s with totalBatchSize := toSizeT (s.totalBatchSize + 1) }

/-- The loop over the batch sizes. -/
def sumBatchSizes : PayloadM Unit :=
  forEach (fun x => addBatchSize inst calls x.2 x.1) requests.zipIdx

/-- The checks on the total batch size.  A batch of size 0 is left alone. -/
def checkBatchSize (total : ℕ) : PayloadM Unit :=
  if total = 0 then ret
  else
    onlyIf (total ≠ 1 ∧ inst.maxBatchSize < total)
      (respondAllAndReturn ⟨.internal, "batch size " ++ toString total ++ " for '" ++ inst.name ++
        "', max allowed is " ++ toString inst.maxBatchSize⟩)

/-- `TRITONBACKEND_RequestInputByIndex` where the error is not looked at. -/
def uncheckedInput : PayloadM Unit := do
  match ← call calls.toCalls with
  | none => pure ()
  | some _ => crash .invalidRead

/-- The buffer of a shape tensor: `TRITONBACKEND_InputBuffer` when there is one only, and
`GetElementCount` when it is on the CPU. -/
def shapeBuffer (input : InputProperties) : PayloadM Unit :=
  onlyIf (input.bufferCount = 1) (do
    callOrRespondAll calls.toCalls
    onlyIf (¬ (input.buffer.isNone ∨ input.dataMemoryType = .gpu)) (callOrRespondAll calls.toCalls))

/-- One iteration of the loop of `GetRequestShapeValues`. -/
def shapeValue (total : ℕ) (values : ShapeValueMap) (input : InputProperties) :
    PayloadM ShapeValueMap := do
  uncheckedInput calls
  callOrRespondAll calls.toCalls
  if inst.isShapeInferenceIo input.name then do
    shapeBuffer calls input
    let value ← respondAllUnless (requestShapeValue lib inst total input)
    pure (Function.update values (inst.ioIndex input.name) (some value))
  else pure values

/-- `GetRequestShapeValues` for the first request. -/
def shapeValues (total : ℕ) : PayloadM ShapeValueMap := do
  callOrRespondAll calls.toCalls
  foldEach (shapeValue lib inst calls total) (fun _ => none) (batchInputs requests)

/-! ### The inputs -/

/-- `TRITONBACKEND_RequestInput` and `TRITONBACKEND_InputProperties`. -/
def requestInput (request : Request) (name : String) : PayloadM InputProperties := do
  failAllIfError (← call calls.toCalls)
  match request.input? name with
  | none => failAllAndReturn ⟨.invalidArg, "unknown request input name " ++ name⟩
  | some input =>
    failAllIfError (← call calls.toCalls)
    pure input

/-- `SetBindingDimensions` on `input_dims`. -/
def setBinding (citr : TensorRTContext) (io : ℕ) (name : String) (shape : List ℤ) :
    PayloadM Unit := do
  let key ← gets PayloadState.inputDims
  modify fun s => { s with
    inputDims := (setBindingDimensions inst calls.setInputShape name shape citr io key).2 }
  failAllIfError (setBindingDimensions inst calls.setInputShape name shape citr io key).1

/-- `GetByteSize`, `ProcessBatchInput` and, for a buffer on the GPU that is not there for its shape
only, `CopyBuffer`. -/
def fillBatchInput (io : ℕ) (batchInput : BatchInput) : PayloadM Unit := do
  failAllIfError (← call calls.toCalls)
  failAllIfError (← collect calls.toCalls)
  onlyIf (batchInput.kind ≠ .batchMaxElementCountAsShape ∧
      (ioBindingInfo inst indices io).memoryType = .gpu) (do
    failAllIfError (← call calls.toCalls))

/-- A shape tensor. -/
def runShapeInput (citr : TensorRTContext) (values : ShapeValueMap) (io : ℕ) (name : String) :
    PayloadM Unit :=
  match values io with
  | none =>
      failAllAndReturn ⟨.internal, "unable to find shape values for shape input '" ++ name ++
        "' in request for " ++ inst.name⟩
  | some value =>
      failAllIfError (validateShapeValues value (citr.minShapes io) (citr.maxShapes io)
        citr.nbShapeValues)

/-- An input the backend computes for the batch. -/
def runBatchInput (citr : TensorRTContext) (io : ℕ) (name : String) (batchInput : BatchInput) :
    PayloadM Unit := do
  failAllIfError (← call calls.toCalls)
  setBinding inst calls citr io name (calls.batchInputShape batchInput)
  fillBatchInput inst indices calls io batchInput

/-- One request of the loop over a ragged input: the data type of the first one is kept, and the
elements are added up. -/
def addRaggedInput (name : String) (ragged : Option DataType × ℤ) (request : Request) :
    PayloadM (Option DataType × ℤ) := do
  let input ← requestInput calls request name
  failAllIfError (← call calls.toCalls)
  pure (ragged.1.or (some input.datatype), ragged.2 + lib.elementCount input.shape)

/-- An input that concatenates elements without padding, and `total_byte_size`, which the collector
copies. -/
def runRaggedInput (citr : TensorRTContext) (io : ℕ) (name : String) : PayloadM ℤ := do
  let ragged ← foldEach (addRaggedInput lib calls name) (none, 0) requests
  setBinding inst calls citr io name [ragged.2]
  failAllIfError (← call calls.toCalls)
  let _ ← collect calls.toCalls
  pure (lib.byteSize (ragged.1.getD .invalid) [ragged.2])

/-- The batch shape with the vectorized dimension padded to whole elements. -/
def TensorFormat.padShape (format : TensorFormat) (shape : List ℤ) : List ℤ :=
  shape.modify format.vectorizedDim.toNat fun d =>
    d + (format.componentsPerElement - d.tmod format.componentsPerElement)

/-- The shape whose bytes a buffer of the format holds. -/
def TensorFormat.bufferShape (format : TensorFormat) (shape : List ℤ) : List ℤ :=
  if format.isLinearFormat then shape else format.padShape shape

/-- Any other input, and `total_byte_size`. -/
def runRegularInput (citr : TensorRTContext) (total io : ℕ) (name : String) : PayloadM ℤ := do
  let input ← requestInput calls (requests.headD default) name
  let shape := batchnShape inst.supportBatching total input.shape
  let format := (ioBindingInfo inst indices io).format
  setBinding inst calls citr io name shape
  failAllIfError (← call calls.toCalls)
  let totalByteSize := lib.byteSize input.datatype (format.bufferShape shape)
  onlyIf (format.isLinearFormat = false ∧ input.byteSize ≠ toSizeT totalByteSize)
    (failAllAndReturn ⟨.invalidArg, "input byte size mismatch for input '" ++ name ++
      "' for model '" ++ inst.name ++ "'. Expected " ++ toString totalByteSize ++ ", got " ++
      toString input.byteSize⟩)
  let _ ← collect calls.toCalls
  pure totalByteSize

/-- One iteration of the input loop. -/
def runInput (citr : TensorRTContext) (values : ShapeValueMap) (total io : ℕ)
    (tensor : EngineTensor) : PayloadM Unit :=
  if !tensor.isInput then pure ()
  else if tensor.isShapeInferenceIo then runShapeInput inst citr values io tensor.name
  else
    match (ioBindingInfo inst indices io).batchInput with
    | some batchInput => runBatchInput inst indices calls citr io tensor.name batchInput
    | none =>
      if (ioBindingInfo inst indices io).isBufferRagged then do
        let _ ← runRaggedInput lib inst calls requests citr io tensor.name
      else do
        let _ ← runRegularInput lib inst indices calls requests citr total io tensor.name

/-- The input loop and the collector's `Finalize`. -/
def runInputs (citr : TensorRTContext) (values : ShapeValueMap) (total : ℕ) : PayloadM Unit := do
  forEach (fun x => runInput lib inst indices calls requests citr values total x.2 x.1)
    inst.tensors.zipIdx
  let _ ← collect calls.toCalls

/-! ### The launch -/

/-- One iteration of the loop that gives the inputs the dimensions of an inexact CUDA graph. -/
def graphInput (citr : TensorRTContext) (graph : CudaGraph) (inputIdx io : ℕ)
    (tensor : EngineTensor) : PayloadM ℕ :=
  if !tensor.isInput || tensor.isShapeInferenceIo then pure inputIdx
  else do
    failAllIfError (setBindingDimensions inst calls.setInputShape "CUDA graph input"
      (graph.inputDims.getD inputIdx []) citr io []).1
    match (ioBindingInfo inst indices io).batchInput with
    | some batchInput => fillBatchInput inst indices calls io batchInput
    | none => pure ()
    pure (inputIdx + 1)

/-- `FindClosestCudaGraph` and, when the graph found is not exact, the dimensions of its inputs. -/
def selectGraph (citr : TensorRTContext) : PayloadM (Option CudaGraph) := do
  let inputDims ← gets PayloadState.inputDims
  match findClosestCudaGraph inst.allowInexactMatch indices.nextSet citr inputDims with
  | (some graph, false) =>
      let _ ← foldEach (fun inputIdx x => graphInput inst indices calls citr graph inputIdx x.2 x.1)
        0 inst.tensors.zipIdx
      pure (some graph)
  | (graph, _) => pure graph

/-- A call whose failure is reported to every request with a message of its own. -/
def failAllWith (message : Error → String) : PayloadM Unit := do
  match ← call calls.toCalls with
  | none => pure ()
  | some err => failAllAndReturn ⟨.internal, message err⟩

/-- `cudaGraphLaunch`, or `inferShapes` and `Enqueue`. -/
def launch (graph : Option CudaGraph) : PayloadM Unit :=
  match graph with
  | some _ =>
      failAllWith calls fun err =>
        "unable to execute graph for inference " ++ inst.name ++ ": " ++ err.message
  | none => do
      failAllWith calls fun _ => "failed to specify the dimensions of all input tensors or values " ++
        "of all input shape tensors"
      failAllWith calls fun _ => "unable to enqueue for inference " ++ inst.name

/-! ### The outputs -/

/-- The requested outputs of one request; none for a response that has been sent. -/
def requestOutputs (idx : ℕ) (request : Request) : PayloadM (List String) := do
  if ← responseLive idx then
    respondIfError idx (← call calls.toCalls)
    if ← responseLive idx then
      foldEach (fun names name => do
        respondIfError idx (← call calls.toCalls)
        if ← responseLive idx then pure (names ++ [name]) else pure names)
        [] request.requestedOutputs
    else pure []
  else pure []

/-- `request_required_outputs`. -/
def requiredOutputs : PayloadM (List (List String)) :=
  foldEach (fun required x => do
    let names ← requestOutputs calls x.2 x.1
    pure (required ++ [names])) [] requests.zipIdx

/-- `SetOutputShapeTensorBuffer`: `OutputBuffer`, the number of values in a row, and `batch_size`
copies, of which the last error counts. -/
def setOutputShapeTensorBuffer (idx tensorElementCount : ℕ) (batchSize : ℤ) : PayloadM Unit := do
  match ← call calls.toCalls with
  | some err => respondIfError idx (some err)
  | none =>
    let _ ← unlessCrash (divideSizeT tensorElementCount batchSize)
    let err ← foldEach (fun _ _ => call calls.toCalls) none (List.range batchSize.toNat)
    respondIfError idx err

/-- `batchn_shape[0]` for one response.  The shape is read whether the call for it failed or not. -/
def outputBatchSize (dims : Dims) (idx : ℕ) (request : Request) : PayloadM ℤ :=
  if inst.supportBatching then do
    uncheckedInput calls
    let err ← call calls.toCalls
    respondIfError idx err
    if err.isSome then crash .invalidRead else unlessCrash (firstDim (firstShape request))
  else pure (dims.dim 0)

/-- `batchn_shape` for one response of a request of `batchSize`. -/
def outputShape (dims : Dims) (batchSize : ℤ) : List ℤ :=
  if inst.supportBatching then [batchSize, dims.dim 0 - 1] else [batchSize]

/-- The output of a shape tensor for one response. -/
def shapeOutputResponse (required : List (List String)) (name : String) (dims : Dims) (idx : ℕ)
    (request : Request) : PayloadM Unit := do
  let batchSize ← outputBatchSize inst calls dims idx request
  respondIfError idx (← call calls.toCalls)
  let tensorElementCnt := toSizeT (lib.elementCount (outputShape inst dims batchSize))
  let live ← responseLive idx
  onlyIf (live = true ∧ name ∈ required.getD idx []) (do
    respondIfError idx (← call calls.toCalls)
    setOutputShapeTensorBuffer calls idx tensorElementCnt batchSize)

/-- The output of a shape tensor. -/
def runShapeOutput (required : List (List String)) (io : ℕ) (tensor : EngineTensor) (dims : Dims) :
    PayloadM Unit := do
  onlyIf (tensor.dataType ≠ .int64)
    (failAllAndReturn ⟨.internal, "Expected data type of output shape tensor to be INT64 " ++
      "for binding '" ++ inst.name ++ "', got " ++ tensor.dataType.string⟩)
  let total ← gets PayloadState.totalBatchSize
  onlyIf (inst.supportBatching = true ∧ total ≠ toSizeT (calls.firstShapeValue io))
    (failAllAndReturn ⟨.internal, "failed to retrieve the output shape values " ++
      "from binding '" ++ inst.name ++ "'"⟩)
  forEach (fun x => shapeOutputResponse lib inst calls required tensor.name dims x.2 x.1)
    requests.zipIdx

/-- Any other output, unless it is ragged. -/
def runRegularOutput (io : ℕ) (tensor : EngineTensor) (dims : Dims) : PayloadM Unit := do
  let info := ioBindingInfo inst indices io
  failAllIfError (← call calls.toCalls)
  let total ← gets PayloadState.totalBatchSize
  let byteSize := toSizeT (lib.byteSize tensor.dataType (dimsToDimVec dims))
  let batch1ByteSize ← unlessCrash
    (if inst.supportBatching then divideSizeT byteSize total else .ok byteSize)
  onlyIf (info.byteSize < toSizeT (batch1ByteSize * total) ∧ info.isDynamicShapeOutput = false)
    (failAllAndReturn ⟨.internal, "unexpected size for output '" ++ tensor.name ++
      "', byte-size " ++ toString info.byteSize ++ " is less than " ++ toString total ++ " * " ++
      toString batch1ByteSize⟩)
  onlyIf (info.isRequestedOutputTensor = true) (do
    let _ ← collect calls.toCalls)
  onlyIf (info.isStateOutput = true) (do
    let _ ← collect calls.toCalls
    modify fun s => { s with seqStates := s.seqStates ++ calls.updatedStates io })

/-- One iteration of the output loop. -/
def runOutput (required : List (List String)) (io : ℕ) (tensor : EngineTensor) : PayloadM Unit :=
  let dims := calls.outputDims io
  if tensor.isInput then pure ()
  else if tensor.isShapeInferenceIo then
    onlyIf (dims.nbDims ≠ 0) (runShapeOutput lib inst calls requests required io tensor dims)
  else if (ioBindingInfo inst indices io).isBufferRagged then do
    let _ ← collect calls.toCalls
  else runRegularOutput lib inst indices calls io tensor dims

/-- The part of `Run` behind the launch.  Only here does the payload get its responder. -/
def runOutputs : PayloadM Unit := do
  let required ← requiredOutputs calls requests
  modify fun s => { s with responder := true }
  forEach (fun x => runOutput lib inst indices calls requests required x.2 x.1) inst.tensors.zipIdx

/-- The part of `Run` that works with a response for every request. -/
def runCommitted (citr : TensorRTContext) (values : ShapeValueMap) (total : ℕ) : PayloadM Unit := do
  createResponses calls.toCalls
  modify fun s => { s with inputDims := [(total : ℤ)] }
  runInputs lib inst indices calls requests citr values total
  let graph ← selectGraph inst indices calls citr
  launch inst calls graph
  runOutputs lib inst indices calls requests

/-- `Run` behind the loop over the batch sizes.  An error of `GetMostOptimizedProfile` is logged
only. -/
def runBatch (total : ℕ) : PayloadM Unit := do
  checkBatchSize inst total
  let values ← shapeValues lib inst calls requests total
  let citr := (getMostOptimizedProfile lib inst indices.nextBufferBindingSet calls.evaluate total
    requests values).2
  runCommitted lib inst indices calls requests citr values total

/-- `Run`. -/
def run : PayloadM Unit := do
  sumBatchSizes inst calls requests
  let total ← gets PayloadState.totalBatchSize
  runBatch lib inst indices calls requests total

end Run

/-! ### `ProcessRequests` -/

/-- The payload `Run` is given for `n` requests. -/
def newPayload (n : ℕ) : PayloadState := { slots := List.replicate n {} }

/-- What `ProcessRequests` does after `Run`. -/
inductive Handover
  /-- Every request is null: the permit is put back. -/
  | failed (s : PayloadState)
  /-- The payload is put on `completion_queue_`. -/
  | enqueued (payload : PayloadState)
  /-- Nothing: the process died in `Run`. -/
  | crashed (kind : Crash)

/-- That `Run` failed is inferred from the requests. -/
def handOver (s : PayloadState) : Handover :=
  match s.crash with
  | some kind => .crashed kind
  | none =>
    if s.slots.any Slot.request then .enqueued s
    else .failed { s with semaphoreReleases := s.semaphoreReleases + 1 }

/-- `ProcessRequests`. -/
def processRequests (lib : BackendCommon) (inst : Instance) (indices : SetIndices)
    (calls : RunCalls) (requests : List Request) : Handover :=
  handOver (run lib inst indices calls requests (newPayload requests.length)).2

end TensorrtBackend

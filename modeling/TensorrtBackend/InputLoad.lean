import TensorrtBackend.AutoComplete
import TensorrtBackend.Run

/-!
# Allocating the input buffers

`InitIOBindingBuffers` goes through the buffer sets and, in each, through the inputs of the
configuration, the sequence controls, the batch inputs and the sequence states.  For an execution
input `InitializeExecuteInputBinding` lowers the maximum dims of every context to what the
configuration leaves of them and allocates room for the largest of these; the contexts it lowered
are those the next buffer set starts from.  What concerns shape tensors and outputs alone is left
out.
-/

namespace TensorrtBackend

open Checked

/-! ### What is loaded -/

/-- An IO tensor with its shape and its format.  TensorRT reports a number of components for every
vectorized dimension. -/
structure BoundTensor extends EngineTensor where
  shape : Dims
  format : TensorFormat := {}
  components_pos : format.vectorizedDim ≠ -1 → 0 < format.componentsPerElement

/-- The linear format has no vectorized dimension. -/
theorem linear_components_pos : ({} : TensorFormat).vectorizedDim ≠ -1 →
    0 < ({} : TensorFormat).componentsPerElement := fun h => absurd rfl h

/-- What the load reads of an entry of `batch_input`. -/
structure ConfigBatchInput extends BatchInput where
  targetNames : List String
  sourceInputs : List String := []

/-- What the load reads of an entry of `sequence_batching.state`. -/
structure ConfigState where
  inputName : String
  outputName : String := ""
  dataType : String
  dims : List ℤ

/-- The members of the model configuration that the load of the inputs reads.  A sequence control is
given by its tensor and its data type. -/
structure LoadConfig extends ModelConfig where
  sequenceControls : List (String × String) := []
  batchInput : List ConfigBatchInput := []
  sequenceStates : List ConfigState := []

/-- The outcomes of the outside calls made for one buffer set, by profile index and binding. -/
structure LoadCalls where
  setInputShape : ℤ → ℕ → Dims → Bool := fun _ _ _ => true
  /-- An error of `GetByteSize`. -/
  byteSizeError : ℤ → ℕ → Option Error := fun _ _ => none
  /-- `cudaGetErrorString` of a failed `cudaMalloc` or `cudaHostAlloc`. -/
  cudaMalloc : ℕ → Option String := fun _ => none
  cudaMemset : ℕ → Option String := fun _ => none
  cudaHostGetDevicePointer : ℕ → Option String := fun _ => none
  setTensorAddress : ℤ → ℕ → Bool := fun _ _ => true

/-- What `InitIOBindingBuffers` starts from.  `configDataType` is
`ModelConfigDataTypeToTritonServerDataType`. -/
structure Loader where
  name : String
  config : LoadConfig
  tensors : List BoundTensor
  trtContexts : List TensorRTContext
  separateOutputStream : Bool := false
  zeroCopySupport : Bool := false
  configDataType : String → DataType
  calls : ℕ → LoadCalls := fun _ => {}
  contexts_ne : trtContexts ≠ []

/-- `num_copy_streams_`. -/
def Loader.numCopyStreams (loader : Loader) : ℕ := if loader.separateOutputStream then 2 else 1

/-- `support_batching_`. -/
def Loader.supportBatching (loader : Loader) : Bool := decide (0 < loader.config.maxBatchSize)

/-- `io_index_map_.find(name)`, with the tensor. -/
def Loader.ioIndex? (loader : Loader) (name : String) : Option (BoundTensor × ℕ) :=
  loader.tensors.zipIdx.find? fun x => x.1.name == name

/-- The tensor found under a name stands at the index found. -/
theorem getElem?_of_ioIndex? {loader : Loader} {inputName : String} {t : BoundTensor} {io : ℕ}
    (h : loader.ioIndex? inputName = some (t, io)) : loader.tensors[io]? = some t :=
  List.mem_zipIdx_iff_getElem?.mp (List.mem_of_find?_eq_some h)

/-- The binding information and `IsBufferAllocated()`. -/
structure BindingSlot where
  info : IOBindingInfo := {}
  allocated : Bool := false
  deriving DecidableEq

instance : Inhabited BindingSlot := ⟨{}⟩

/-- The members of the instance that the load of the inputs writes. -/
structure LoadState where
  trtContexts : List TensorRTContext
  ioBindingInfos : List (List BindingSlot)

/-- `io_binding_infos_[set][io]`. -/
def LoadState.slot (s : LoadState) (set io : ℕ) : BindingSlot :=
  (s.ioBindingInfos.getD set []).getD io default

/-- Assignment to `io_binding_infos_[set][io]`. -/
def LoadState.setSlot (s : LoadState) (set io : ℕ) (slot : BindingSlot) : LoadState :=
  { s with ioBindingInfos := s.ioBindingInfos.modify set fun infos => infos.set io slot }

/-- The instance before any binding is initialized. -/
def Loader.start (loader : Loader) : LoadState where
  trtContexts := loader.trtContexts
  ioBindingInfos := List.replicate loader.numCopyStreams
    (List.replicate loader.tensors.length default)

/-! ### Maximum dims -/

/-- Writing the maximum dims of a profile; other dims than those of its rank are not written. -/
def ProfileDims.setMaxDims (p : ProfileDims) (dims : Dims) : ProfileDims :=
  if h : dims.nbDims = p.maxDims.nbDims then
    { p with maxDims := dims, min_rank := p.min_rank.trans h.symm, opt_rank := p.opt_rank.trans h.symm }
  else p

/-- `DimVecToDims` into `max_dims_[io]`, whatever it returns. -/
def TensorRTContext.setMaxDims (ctx : TensorRTContext) (io : ℕ) (dimVec : List ℤ) :
    TensorRTContext :=
  { ctx with
    dims := ctx.dims.modify io fun p =>
      p.setMaxDims ((dimVecToDims dimVec p.maxDims).getD p.maxDims) }

/-- `MaximumDims`. -/
def maximumDims (maxProfileDims : Dims) (dims : List ℤ) : Result (List ℤ) :=
  let notMaximized (reason : String) : Failure := .returned ⟨.invalidArg,
    "can not maximize dimension " ++ shapeToString dims ++ " to " ++
      dimsDebugString maxProfileDims ++ reason⟩
  if maxProfileDims.nbDims ≠ dims.length then .error (notMaximized " due to  incompatibility.")
  else
    (List.range dims.length).mapM fun i =>
      if dims.getD i 0 = wildcardDim then .ok (maxProfileDims.dim i)
      else if dims.getD i 0 ≤ maxProfileDims.dim i then .ok (dims.getD i 0)
      else .error (notMaximized " due to incompatibility.")

section Binding

variable (lib : BackendCommon) (loader : Loader) (set : ℕ)

/-- `ConfigureInputDimensions`.  The first entry of `full_config_dims` is read before anything is
checked. -/
def configureInputDimensions (ctx : TensorRTContext) (io : ℕ) (tensorName : String)
    (fullConfigDims : List ℤ) : Result (TensorRTContext × List ℤ) := do
  let batchDim ← orCrash (firstDim fullConfigDims)
  let dims := if loader.supportBatching then fullConfigDims.set 0 (-1) else fullConfigDims
  match validateDimensionVec dims (ctx.minDims io) (ctx.maxDims io) false with
  | some err =>
      .error (.returned ⟨.invalidArg, "model configuration specified invalid shape for input '" ++
        tensorName ++ "' for model " ++ loader.config.name ++ ". Error details: " ++ err.message⟩)
  | none =>
      let maximum ← maximumDims (ctx.maxDims io) dims
      let maximum := if loader.supportBatching ∧ batchDim ≠ -1 then
        maximum.modify 0 fun d => min d batchDim else maximum
      let ctx := ctx.setMaxDims io maximum
      failIf ((loader.calls set).setInputShape ctx.profileIdx io (ctx.maxDims io) = false)
        (.returned ⟨.internal, "trt failed to set binding dimension to " ++
          dimsDebugString (ctx.maxDims io) ++ " for input '" ++ tensorName ++ "' for " ++
          loader.name⟩)
      pure (ctx, maximum)

/-! ### One input -/

/-- `SetFormat`. -/
def setFormat (t : BoundTensor) (format : TensorFormat) : Result TensorFormat :=
  if t.format.isLinearFormat then .ok { format with isLinearFormat := true }
  else if t.format.vectorizedDim = -1 then
    .error (.returned ⟨.invalidArg, "unexpected vectorized dim is -1 for non-linear tensor '" ++
      t.name ++ "' for " ++ loader.name⟩)
  else .ok { t.format with isLinearFormat := false }

/-- The binding of a tensor that is taken already. -/
def alreadyAppeared (inputName : String) : Failure :=
  .returned ⟨.invalidArg, "input '" ++ inputName ++
    "'  has already appeared as an input or output for " ++ loader.name⟩

/-- The tensor is not an input. -/
def notAnInput (inputName : String) : Failure :=
  .returned ⟨.invalidArg, "input '" ++ inputName ++ "' is expected to be an input in model for " ++
    loader.name⟩

/-- What the shape of the engine is compared with: a ragged input is concatenated and flattened, a
dynamic control has dims of its own. -/
def checkInputDims (t : BoundTensor) (inputDims : List ℤ) (isControl isRagged isDynamic : Bool) :
    Result Unit :=
  if isControl ∧ isDynamic then
    match validateControlDimsDynamic t.shape loader.supportBatching with
    | some err => .error (.returned ⟨.invalidArg, "unexpected shape " ++ dimsDebugString t.shape ++
        " for control input '" ++ t.name ++ "' for model " ++ loader.config.name ++ ": " ++
        err.message⟩)
    | none => .ok ()
  else if isRagged then
    match inputDims with
    | [] => .error (.returned ⟨.internal, "attempt to access non-existing array index '0'"⟩)
    | inputDims0 :: _ =>
      failIf (t.shape.nbDims ≠ 1 ∨ t.shape.dim 0 ≠ inputDims0) (.returned ⟨.invalidArg,
        "model '" ++ loader.config.name ++ "', tensor '" ++ t.name ++
          "': for the model to support ragged input, the engine shape is: " ++
          dimsDebugString t.shape ++ " while the model config shape is: " ++
          shapeToString inputDims⟩)
  else
    match compareDimsSupported loader.config.name t.name t.shape inputDims loader.supportBatching
      false with
    | some err => .error (.returned err)
    | none => .ok ()

/-- `full_config_dim`. -/
def fullConfigDim (inputDims : List ℤ) (isRagged : Bool) (batchInput : Option BatchInput) :
    List ℤ :=
  if isRagged then [-1]
  else if loader.supportBatching then
    -- The batch dimension of a batch input is not limited by the maximum batch size.
    (if batchInput.isSome then -1 else (loader.config.maxBatchSize : ℤ)) :: inputDims
  else inputDims

/-- A binding whose shape has a wildcard is dynamic. -/
def TensorRTContext.markDynamic (ctx : TensorRTContext) (io : ℕ) (engineDims : Dims) :
    TensorRTContext :=
  if containsWildcard engineDims then
    { ctx with isDynamicPerBinding := ctx.isDynamicPerBinding.set io true }
  else ctx

theorem markDynamic_maxDims (ctx : TensorRTContext) (io : ℕ) (engineDims : Dims) (io' : ℕ) :
    (ctx.markDynamic io engineDims).maxDims io' = ctx.maxDims io' := by
  unfold TensorRTContext.markDynamic
  split <;> rfl

theorem markDynamic_profileIdx (ctx : TensorRTContext) (io : ℕ) (engineDims : Dims) :
    (ctx.markDynamic io engineDims).profileIdx = ctx.profileIdx := by
  unfold TensorRTContext.markDynamic
  split <;> rfl

/-- One iteration of the loop over the contexts, from the shape of the engine on: the context with
its maximum dims and the bytes these take. -/
def configureContext (io : ℕ) (t : BoundTensor) (inputDims : List ℤ) (isControl isRagged : Bool)
    (batchInput : Option BatchInput) (format : TensorFormat) (ctx : TensorRTContext) :
    Result (TensorRTContext × ℤ) := do
  let ctx := ctx.markDynamic io t.shape
  checkInputDims loader t inputDims isControl isRagged (ctx.isDynamicPerBinding.getD io false)
  let (ctx, maximum) ← configureInputDimensions loader set ctx io t.name
    (fullConfigDim loader inputDims isRagged batchInput)
  match (loader.calls set).byteSizeError ctx.profileIdx io with
  | some err => .error (.returned err)
  | none =>
      let byteSize := lib.byteSize t.dataType (format.bufferShape maximum)
      failIf (byteSize = -1) (.returned ⟨.internal, "unable to calculate size for input '" ++
        t.name ++ "' for " ++ loader.name⟩)
      pure (ctx, byteSize)

/-- A CUDA call that may fail. -/
def failIfCuda (err : Option String) (message : String) : Result Unit :=
  match err with
  | some err => .error (.returned ⟨.internal, message ++ err⟩)
  | none => .ok ()

/-- The allocation of the buffer, once its size is known. -/
def allocateInput (io : ℕ) (inputName : String) (isRagged : Bool) (maxByteSize : ℤ)
    (info : IOBindingInfo) : Result BindingSlot := do
  failIfCuda ((loader.calls set).cudaMalloc io)
    ("unable to allocate memory for input '" ++ inputName ++ "' for " ++ loader.name ++ ": ")
  failIfCuda ((loader.calls set).cudaMemset io)
    ("unable to set memory for input '" ++ inputName ++ "' for " ++ loader.name ++ ": ")
  failIfCuda (if loader.zeroCopySupport then (loader.calls set).cudaHostGetDevicePointer io else none)
    ("unable to get mapped device address for input '" ++ inputName ++ "' for " ++ loader.name ++
      ": ")
  failIf (isRagged = true ∧ info.format.isLinearFormat = false) (.returned ⟨.internal,
    "unexpected allow-ragged for non-linear input '" ++ inputName ++ "' for " ++ loader.name⟩)
  pure
    { info :=
        { info with
          byteSize := maxByteSize.toNat
          isBufferRagged := isRagged
          memoryType := if loader.zeroCopySupport then .cpuPinned else .gpu }
      allocated := true }

/-- `InitializeExecuteInputBinding` behind its first checks.  Up to the format the loop over the
contexts does not look at the context. -/
def bindInput (io : ℕ) (t : BoundTensor) (inputDatatype : String) (inputDims : List ℤ)
    (isControl isRagged : Bool) (s : LoadState) : Result LoadState := do
  let slot := s.slot set io
  failIf (slot.allocated = true) (alreadyAppeared loader t.name)
  failIf (t.isInput = false) (notAnInput loader t.name)
  failIf (t.dataType = .invalid ∨ t.dataType ≠ loader.configDataType inputDatatype)
    (.returned ⟨.invalidArg, "unexpected datatype TYPE_" ++ t.dataType.string ++
      " for inference input '" ++ t.name ++ "', expecting TYPE_" ++
      (loader.configDataType inputDatatype).string ++ " for " ++ loader.name⟩)
  let format ← setFormat loader t slot.info.format
  let configured ← s.trtContexts.mapM
    (configureContext lib loader set io t inputDims isControl isRagged slot.info.batchInput format)
  let slot ← allocateInput loader set io t.name isRagged ((configured.map Prod.snd).foldl max 0)
    { slot.info with format := format }
  failIf (∃ x ∈ configured, (loader.calls set).setTensorAddress x.1.profileIdx io = false)
    (.returned ⟨.invalidArg, "'" ++ t.name ++ "' does not map to an input or output tensor"⟩)
  pure ({ s with trtContexts := configured.map Prod.fst }.setSlot set io slot)

/-- `InitializeExecuteInputBinding`. -/
def initializeExecuteInputBinding (inputName inputDatatype : String) (inputDims : List ℤ)
    (isControl isRagged isState : Bool) (s : LoadState) : Result LoadState :=
  match loader.ioIndex? inputName with
  | none => .error (.returned ⟨.notFound, "input '" ++ inputName ++ "' not found for " ++
      loader.name⟩)
  | some (t, io) =>
    if (s.slot set io).allocated ∧ isState then .ok s
    else if t.isShapeInferenceIo then .ok s
    else bindInput lib loader set io t inputDatatype inputDims isControl isRagged s

/-! ### All inputs -/

/-- A member that must be there. -/
def requireMember {α : Type} (member : String) : Option α → Result α
  | some value => .ok value
  | none => .error (missingMember member)

/-- One entry of `InitializeConfigExecuteInputBindings`. -/
def initializeConfigExecuteInputBinding (s : LoadState) (io : ConfigIo) : Result LoadState := do
  let dataType ← requireMember "data_type" io.dataType
  let dims ← io.usedDims
  initializeExecuteInputBinding lib loader set io.name dataType dims false
    (io.allowRaggedBatch.getD false) false s

/-- `InitializeSequenceControlInputBindings` for one control, whose dims are `[1]`. -/
def initializeSequenceControlInputBinding (s : LoadState) (control : String × String) :
    Result LoadState :=
  initializeExecuteInputBinding lib loader set control.1 control.2 [1] true false false s

/-- The rank of the source input, unless it is 0.  The loop over `input` reads the first source
input, whether there is one or not. -/
def sourceRank (batchInput : ConfigBatchInput) : Result (List ℤ) := do
  let inputs ← loader.config.ioEntries true
  match inputs, batchInput.sourceInputs with
  | [], _ => pure []
  | _ :: _, [] => .error (.crashed .invalidRead)
  | inputs, source :: _ =>
      match inputs.find? fun io => io.name == source with
      | none => pure []
      | some io =>
          let dims ← io.usedDims
          pure (if dims = [] then [] else [(dims.length : ℤ)])

/-- The dims of a batch input, without the batch dimension. -/
def batchInputDims (batchInput : ConfigBatchInput) : Result (List ℤ) :=
  if loader.config.maxBatchSize = 0 then
    match batchInput.kind with
    | .batchElementCount | .batchAccumulatedElementCount => .ok [1]
    | .batchAccumulatedElementCountWithZero => .ok [2]
    | .batchMaxElementCountAsShape => .ok [-1]
    | .batchItemShape => do
        let rank ← sourceRank loader batchInput
        pure (1 :: rank)
    | .batchItemShapeFlatten => sourceRank loader batchInput
  else
    match batchInput.kind with
    | .batchItemShape => sourceRank loader batchInput
    | _ => .ok []

/-- `SetBatchInput`. -/
def LoadState.setBatchInput (s : LoadState) (set io : ℕ) (batchInput : BatchInput) : LoadState :=
  s.setSlot set io
    { s.slot set io with info := { (s.slot set io).info with batchInput := some batchInput } }

/-- One target of a batch input.  `io_index_map_[name]` gives an unknown name the index 0, at which
the engine does not know it as an input. -/
def initializeBatchInputBinding (batchInput : ConfigBatchInput) (s : LoadState)
    (tensorName : String) : Result LoadState := do
  let dims ← batchInputDims loader batchInput
  match loader.ioIndex? tensorName with
  | none =>
      .error (if (s.slot set 0).allocated then alreadyAppeared loader tensorName
        else notAnInput loader tensorName)
  | some (_, io) =>
      initializeExecuteInputBinding lib loader set tensorName
        ("TYPE_" ++ batchInput.dataType.string) dims false false false
        (s.setBatchInput set io batchInput.toBatchInput)

/-- `InitializeBatchInputBindings` for one batch input. -/
def initializeBatchInputBindings (s : LoadState) (batchInput : ConfigBatchInput) :
    Result LoadState :=
  batchInput.targetNames.foldlM (initializeBatchInputBinding lib loader set batchInput) s

/-- `InitializeSequenceStateInputBindings` for one state. -/
def initializeSequenceStateInputBinding (s : LoadState) (state : ConfigState) : Result LoadState :=
  initializeExecuteInputBinding lib loader set state.inputName state.dataType state.dims false false
    true s

/-- The first loop of `InitIOBindingBuffers` for one buffer set. -/
def initInputBindings (s : LoadState) : Result LoadState := do
  let inputs ← loader.config.ioEntries true
  let s ← inputs.foldlM (initializeConfigExecuteInputBinding lib loader set) s
  let s ← loader.config.sequenceControls.foldlM
    (initializeSequenceControlInputBinding lib loader set) s
  let s ← loader.config.batchInput.foldlM (initializeBatchInputBindings lib loader set) s
  loader.config.sequenceStates.foldlM (initializeSequenceStateInputBinding lib loader set) s

end Binding

/-- An execution input. -/
def EngineTensor.isExecutionInput (t : EngineTensor) : Bool := t.isInput && !t.isShapeInferenceIo

/-- The execution inputs without a buffer are an error. -/
def checkAllocated (loader : Loader) (s : LoadState) : Result Unit :=
  (List.range loader.numCopyStreams).forM fun set =>
    loader.tensors.zipIdx.forM fun x =>
      failIf (x.1.isExecutionInput = true ∧ (s.slot set x.2).allocated = false)
        (.returned ⟨.invalidArg, "expected configuration for input '" ++ x.1.name ++ "' for " ++
          loader.name⟩)

/-- `InitIOBindingBuffers`, as far as the execution inputs go. -/
def initIoBindingBuffers (lib : BackendCommon) (loader : Loader) : Result LoadState := do
  let s ← (List.range loader.numCopyStreams).foldlM (fun s set => initInputBindings lib loader set s)
    loader.start
  checkAllocated loader s
  pure s

end TensorrtBackend

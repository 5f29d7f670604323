import TensorrtBackend.ShapeInputs

/-!
# Validating and allocating all bindings

`ValidateIO` compares the entries of `input` and `output` with the engine, and
`InitIOBindingBuffers` goes through everything the configuration says about tensors: inputs twice,
once for the shape tensors and once for the others, sequence controls, batch inputs, the inputs of
sequence states, and then batch outputs, outputs and the outputs of sequence states.  Each entry
names a tensor; the initialisers write into one table that is addressed through `io_index_map_`,
some with `find` and some with `operator[]`.

Who allocated a buffer is written down beside the table; no function reads it.  The mapping of a
batch output and the flag for implicit state are written by these functions but not read, and are
left out.
-/

namespace TensorrtBackend

open Checked

/-! ### What is loaded -/

/-- `ConvertDataTypeToTrtType`, with `none` for a failed conversion. -/
def convertDataTypeToTrtType : DataType → Option TrtDataType
  | .fp32 => some .float
  | .fp16 => some .half
  | .int8 => some .int8
  | .uint8 => some .uint8
  | .bf16 => some .bf16
  | .int32 => some .int32
  | .int64 => some .int64
  | .bool => some .bool
  | _ => none

/-- What the load reads of an entry of `batch_output`. -/
structure ConfigBatchOutput where
  /-- `BatchOutputKind() == BATCH_SCATTER_WITH_INPUT_SHAPE`. -/
  isScatterWithInputShape : Bool := true
  targetNames : List String

/-- What TensorRT reports of the outputs of a context, by profile index and binding. -/
structure OutputLoadCalls where
  /-- `context_->getTensorShape`. -/
  tensorShape : ℤ → ℕ → Dims
  /-- `GetFullByteSize`. -/
  fullByteSize : ℤ → ℕ → ℤ := fun _ _ => 0

/-- A loader for all tensors. -/
structure IoLoader extends ShapeLoader where
  batchOutput : List ConfigBatchOutput := []
  outputCalls : ℕ → OutputLoadCalls
  /-- `inferShapes(0, nullptr)` returns 0 for every context. -/
  inferShapes : Bool := true

/-- An entry of the configuration that names a tensor; a batch input by the position of the target
too. -/
inductive ConfigEntry
  | input (i : ℕ)
  | control (i : ℕ)
  | batchInput (i target : ℕ)
  | output (i : ℕ)
  | state (i : ℕ)
  deriving DecidableEq

/-- `io_binding_infos_[set][io]` was given its buffer or allocator for an entry. -/
structure Allocation where
  set : ℕ
  io : ℕ
  entry : ConfigEntry
  deriving DecidableEq

/-- The members of the instance that the load writes, and what has been allocated.  A name is empty
until it is set. -/
structure IoState extends LoadState where
  ioIndexMap : String → Option ℕ
  names : ℕ → ℕ → String := fun _ _ => ""
  allocations : List Allocation := []

namespace IoState

/-- `io_index_map_[name]`, which gives a name that is not there the index 0. -/
def ioIndex (s : IoState) (name : String) : ℕ × IoState :=
  match s.ioIndexMap name with
  | some io => (io, s)
  | none => (0, { s with ioIndexMap := Function.update s.ioIndexMap name (some 0) })

/-- `SetName`. -/
def setName (s : IoState) (set io : ℕ) (name : String) : IoState :=
  { s with names := Function.update s.names set (Function.update (s.names set) io name) }

/-- A change of the binding information that leaves the buffer. -/
def setInfo (s : IoState) (set io : ℕ) (f : IOBindingInfo → IOBindingInfo) : IoState :=
  { s with
    toLoadState := s.toLoadState.setSlot set io
      { s.slot set io with info := f (s.slot set io).info } }

/-- What a binding function has done to the contexts and the table, and for which entry. -/
def bound (s : IoState) (l : LoadState) (set io : ℕ) (entry : ConfigEntry) : IoState :=
  { s with toLoadState := l, allocations := s.allocations ++ [⟨set, io, entry⟩] }

end IoState

namespace IoLoader

variable (loader : IoLoader)

/-- What TensorRT says of a name it does not know: neither an input nor a shape tensor, with the
default data type. -/
def unknownTensor (name : String) : BoundTensor where
  name := name
  isInput := false
  shape := default
  components_pos := linear_components_pos

/-- The engine asked by name. -/
def tensor (name : String) : BoundTensor :=
  ((loader.ioIndex? name).map Prod.fst).getD (unknownTensor name)

/-- The instance before any binding is initialized. -/
def ioStart : IoState where
  toLoadState := loader.start
  ioIndexMap := fun name => (loader.ioIndex? name).map Prod.snd

/-! ### `ValidateIO` -/

/-- `allowed_inputs` or `allowed_outputs`. -/
def allowedIos (isInput : Bool) : List String :=
  (loader.tensors.filter fun t => t.isInput == isInput).map fun t => t.name

/-- One iteration of `ValidateIOHelper`. -/
def validateIoEntry (isInput : Bool) (io : ConfigIo) : Result Unit := do
  let ioDataType ← requireMember "data_type" io.dataType
  let ofModel := " '" ++ io.name ++ "' for model '" ++ loader.config.name ++ "'"
  failIf (convertDataTypeToTrtType (loader.configDataType ioDataType) = none) (.returned ⟨.internal,
    "unsupported datatype " ++ ioDataType ++ " for " ++ ioType isInput ++ ofModel⟩)
  let isShapeTensor ← requireMember "is_shape_tensor" io.isShapeTensor
  if (loader.tensor io.name).isShapeInferenceIo then
    failIf (isShapeTensor = false) (.returned ⟨.internal, ioType isInput ++ ofModel ++
      " is a shape tensor but the model configuration doesn't mark it as a shape tensor."⟩)
  else
    failIf (isShapeTensor = true) (.returned ⟨.internal, ioType isInput ++ ofModel ++
      " is incorrectly marked as a shape tensor in the model configuration."⟩)
  let isNonLinearFormatIo ← requireMember "is_non_linear_format_io" io.isNonLinearFormatIo
  if (loader.tensor io.name).format.isLinearFormat then
    failIf (isNonLinearFormatIo = true) (.returned ⟨.internal, ioType isInput ++ ofModel ++
      " uses a linear IO format, but 'is_non_linear_format_io' is incorrectly set to true in the " ++
      "model configuration."⟩)
  else
    failIf (isNonLinearFormatIo = false) (.returned ⟨.internal, ioType isInput ++ ofModel ++
      " uses a non-linear IO format, but 'is_non_linear_format_io' is incorrectly set to false " ++
      "in the model configuration."⟩)

/-- `ValidateIO`. -/
def validateIo : Result Unit := do
  let inputs ← loader.config.ioEntries true
  failIf ((loader.allowedIos true).length < inputs.length) (.returned ⟨.invalidArg,
    "unable to load model '" ++ loader.config.name ++ "', configuration expects " ++
      toString inputs.length ++ " inputs, model provides at most " ++
      toString (loader.allowedIos true).length⟩)
  inputs.forM fun io => checkAllowedModelIo "input" io.name (loader.allowedIos true)
  let outputs ← loader.config.ioEntries false
  outputs.forM fun io => checkAllowedModelIo "output" io.name (loader.allowedIos false)
  inputs.forM (loader.validateIoEntry true)
  outputs.forM (loader.validateIoEntry false)

/-! ### Inputs -/

section Binding

variable (lib : BackendCommon) (set : ℕ)

/-- `InitializeShapeInputBinding`.  A shape input without bytes gets no buffer. -/
def initializeShapeInputBinding (entry : ConfigEntry) (inputName : String)
    (inputDatatype : DataType) (modelConfigDims : List ℤ) (s : IoState) : Result IoState :=
  match s.ioIndexMap inputName with
  | none => .error (.returned ⟨.notFound, "input '" ++ inputName ++ "' not found for " ++
      loader.name⟩)
  | some io =>
    let s := s.setName set io inputName
    let t := loader.tensor inputName
    if (s.slot set io).allocated then .error (alreadyAppeared loader.toLoader inputName)
    else if t.isInput = false then .error (notAnInput loader.toLoader inputName)
    else if t.isShapeInferenceIo = false then .ok s
    else do
      let l ← bindShapeInput lib loader.toShapeLoader set io t inputDatatype modelConfigDims
        s.toLoadState
      pure (if (l.slot set io).allocated then s.bound l set io entry
        else { s with toLoadState := l })

/-- `InitializeExecuteInputBinding`. -/
def initializeExecuteInputBinding (entry : ConfigEntry) (inputName inputDatatype : String)
    (inputDims : List ℤ) (isControl isRagged isState : Bool) (s : IoState) : Result IoState :=
  match s.ioIndexMap inputName with
  | none => .error (.returned ⟨.notFound, "input '" ++ inputName ++ "' not found for " ++
      loader.name⟩)
  | some io =>
    let s := s.setName set io inputName
    let t := loader.tensor inputName
    if (s.slot set io).allocated ∧ isState then .ok s
    else if t.isShapeInferenceIo then .ok s
    else do
      let l ← bindInput lib loader.toLoader set io t inputDatatype inputDims isControl isRagged
        s.toLoadState
      pure (s.bound l set io entry)

/-- One entry of `InitializeConfigShapeInputBindings`. -/
def initializeConfigShapeInputBinding (s : IoState) (x : ConfigIo × ℕ) : Result IoState := do
  let dataType ← requireMember "data_type" x.1.dataType
  let dims ← x.1.usedDims
  loader.initializeShapeInputBinding lib set (.input x.2) x.1.name (loader.configDataType dataType)
    dims s

/-- One entry of `InitializeConfigExecuteInputBindings`. -/
def initializeConfigExecuteInputBinding (s : IoState) (x : ConfigIo × ℕ) : Result IoState := do
  let dataType ← requireMember "data_type" x.1.dataType
  let dims ← x.1.usedDims
  loader.initializeExecuteInputBinding lib set (.input x.2) x.1.name dataType dims false
    (x.1.allowRaggedBatch.getD false) false s

/-- `InitializeSequenceControlInputBindings` for one control. -/
def initializeSequenceControlInputBinding (s : IoState) (x : (String × String) × ℕ) :
    Result IoState :=
  loader.initializeExecuteInputBinding lib set (.control x.2) x.1.1 x.1.2 [1] true false false s

/-- One target of a batch input. -/
def initializeBatchInputBinding (batchInput : ConfigBatchInput) (i : ℕ) (s : IoState)
    (x : String × ℕ) : Result IoState := do
  let dims ← batchInputDims loader.toLoader batchInput
  let (io, s) := s.ioIndex x.1
  let s := s.setName set io x.1
  let s := s.setInfo set io fun info => { info with batchInput := some batchInput.toBatchInput }
  loader.initializeExecuteInputBinding lib set (.batchInput i x.2) x.1
    ("TYPE_" ++ batchInput.dataType.string) dims false false false s

/-- `InitializeBatchInputBindings` for one batch input. -/
def initializeBatchInputBindings (s : IoState) (x : ConfigBatchInput × ℕ) : Result IoState :=
  x.1.targetNames.zipIdx.foldlM (loader.initializeBatchInputBinding lib set x.1 x.2) s

/-- `InitializeSequenceStateInputBindings` for one state. -/
def initializeSequenceStateInputBinding (s : IoState) (x : ConfigState × ℕ) : Result IoState :=
  loader.initializeExecuteInputBinding lib set (.state x.2) x.1.inputName x.1.dataType x.1.dims false
    false true s

/-- The first loop of `InitIOBindingBuffers` for one buffer set. -/
def initInputBindings (inputs : List ConfigIo) (s : IoState) : Result IoState := do
  let s ← inputs.zipIdx.foldlM (loader.initializeConfigShapeInputBinding lib set) s
  let s ← inputs.zipIdx.foldlM (loader.initializeConfigExecuteInputBinding lib set) s
  let s ← loader.config.sequenceControls.zipIdx.foldlM
    (loader.initializeSequenceControlInputBinding lib set) s
  let s ← loader.config.batchInput.zipIdx.foldlM (loader.initializeBatchInputBindings lib set) s
  loader.config.sequenceStates.zipIdx.foldlM (loader.initializeSequenceStateInputBinding lib set) s

/-! ### Outputs -/

/-- The binding of an output that is taken already. -/
def outputAlreadyAppeared (outputName : String) : Failure :=
  .returned ⟨.invalidArg, "output '" ++ outputName ++
    "'  has already appeared as an input or output for " ++ loader.name⟩

/-- The data type of an output is not that of the configuration. -/
def unexpectedOutputDatatype (t : BoundTensor) (configDatatype : DataType) : Failure :=
  .returned ⟨.invalidArg, "unexpected datatype TYPE_" ++ t.dataType.string ++
    " for inference output '" ++ t.name ++ "', expecting TYPE_" ++ configDatatype.string ++
    " for " ++ loader.name⟩

/-- One target of a batch output. -/
def initializeBatchOutputBinding (batchOutput : ConfigBatchOutput) (s : IoState) (name : String) :
    Result IoState := do
  let (io, s) := s.ioIndex name
  let s := s.setName set io name
  failIf ((loader.tensor name).isShapeInferenceIo = true) (.returned ⟨.invalidArg,
    "batch output '" ++ name ++ "' can not be shape binding"⟩)
  failIf (batchOutput.isScatterWithInputShape = false) (.returned ⟨.invalidArg,
    "batch output kind other than BATCH_SCATTER_WITH_INPUT_SHAPE is not supported for " ++ name⟩)
  pure (s.setInfo set io fun info => { info with isBufferRagged := true })

/-- `InitializeBatchOutputBindings` for one batch output. -/
def initializeBatchOutputBindings (s : IoState) (batchOutput : ConfigBatchOutput) :
    Result IoState :=
  batchOutput.targetNames.foldlM (loader.initializeBatchOutputBinding set batchOutput) s

/-- One iteration of the loop over the contexts for a shape output, from the shape of the engine on:
the context and the bytes of the output in it, unless its shape is dynamic. -/
def configureShapeOutputContext (io : ℕ) (t : BoundTensor) (modelConfigDims : List ℤ)
    (isDynamic : Bool) (ctx : TensorRTContext) : Result (TensorRTContext × ℤ) :=
  let ctx := ctx.markDynamic io t.shape
  match compareShapeDimsSupported loader.name t.name t.shape modelConfigDims
    loader.supportBatching with
  | some err => .error (.returned err)
  | none =>
    if isDynamic then .ok (ctx, 0)
    else
      match (loader.calls set).byteSizeError ctx.profileIdx io with
      | some err => .error (.returned err)
      | none => .ok (ctx, lib.byteSize t.dataType
          (dimsToDimVec ((loader.outputCalls set).tensorShape ctx.profileIdx io)))

/-- The allocation for an output of fixed shape, or the allocator of one of dynamic shape. -/
def allocateOutput (io : ℕ) (outputName : String) (isDynamic mapped : Bool) : Result Unit := do
  failIfCuda (if isDynamic then none else (loader.calls set).cudaMalloc io)
    ("unable to allocate memory for output '" ++ outputName ++ "' for " ++ loader.name ++ ": ")
  failIfCuda (if isDynamic ∨ mapped = false then none
      else (loader.calls set).cudaHostGetDevicePointer io)
    ("unable to get mapped device address for output '" ++ outputName ++ " for " ++ loader.name ++
      ": ")

/-- `setTensorAddress` for the contexts, which an output of dynamic shape does not need. -/
def setOutputAddress (io : ℕ) (outputName : String) (isDynamic : Bool)
    (contexts : List TensorRTContext) : Result Unit :=
  failIf (isDynamic = false ∧ ∃ ctx ∈ contexts,
      (loader.calls set).setTensorAddress ctx.profileIdx io = false)
    (.returned ⟨.invalidArg, "'" ++ outputName ++ "' does not map to an input or output tensor"⟩)

/-- `InitializeConfigShapeOutputBindings` for a shape output, from the loop over the contexts on. -/
def bindShapeOutput (io : ℕ) (t : BoundTensor) (config : ConfigIo) (s : LoadState) :
    Result LoadState := do
  let slot := s.slot set io
  failIf (slot.allocated = true) (loader.outputAlreadyAppeared config.name)
  failIf (t.isInput = true) (.returned ⟨.invalidArg, "output '" ++ config.name ++
    "' is expected to be an output in model for " ++ loader.name⟩)
  let ioDataType ← requireMember "data_type" config.dataType
  failIf (ioDataType ≠ "TYPE_INT64") (.returned ⟨.invalidArg, "unexpected datatype '" ++ ioDataType ++
    " in model configuration for shape output '" ++ config.name ++ "', expecting TYPE_INT64 for " ++
    loader.name⟩)
  failIf (t.dataType = .invalid ∨ t.dataType ≠ loader.configDataType ioDataType)
    (loader.unexpectedOutputDatatype t (loader.configDataType ioDataType))
  let format ← setFormat loader.toLoader t slot.info.format
  let dims ← config.usedDims
  let isDynamic := slot.info.isDynamicShapeOutput || containsWildcard t.shape
  let configured ← s.trtContexts.mapM
    (loader.configureShapeOutputContext lib set io t dims isDynamic)
  loader.allocateOutput set io config.name isDynamic false
  loader.setOutputAddress set io config.name isDynamic (configured.map Prod.fst)
  let info : IOBindingInfo :=
    { slot.info with
      format := format
      isDynamicShapeOutput := isDynamic
      byteSize := if isDynamic then slot.info.byteSize
        else toSizeT ((configured.map Prod.snd).foldl max 0)
      memoryType := .cpuPinned }
  pure ({ s with trtContexts := configured.map Prod.fst }.setSlot set io
    { info := info, allocated := true })

/-- One entry of `InitializeConfigShapeOutputBindings`. -/
def initializeConfigShapeOutputBinding (s : IoState) (x : ConfigIo × ℕ) : Result IoState := do
  let isShapeTensor ← requireMember "is_shape_tensor" x.1.isShapeTensor
  if isShapeTensor then
    let (io, s) := s.ioIndex x.1.name
    let s := s.setName set io x.1.name
    let l ← loader.bindShapeOutput lib set io (loader.tensor x.1.name) x.1 s.toLoadState
    pure (s.bound l set io (.output x.2))
  else pure s

/-- One iteration of the loop over the contexts for another output: the context and the bytes of the
output in it, unless its shape is dynamic. -/
def configureOutputContext (io : ℕ) (t : BoundTensor) (isDynamic : Bool) (ctx : TensorRTContext) :
    Result (TensorRTContext × ℤ) := do
  let ctx := ctx.markDynamic io t.shape
  if isDynamic then pure (ctx, 0)
  else
    let byteSize := (loader.outputCalls set).fullByteSize ctx.profileIdx io
    failIf (byteSize = -1) (.returned ⟨.internal, "unable to allocate memory for output '" ++
      t.name ++ "' for " ++ loader.name⟩)
    pure (ctx, byteSize)

/-- `InitializeExecuteOutputBinding`, from the shape of the output in the contexts on. -/
def bindOutput (io : ℕ) (t : BoundTensor) (outputDatatype : String) (outputDims : List ℤ)
    (s : LoadState) : Result LoadState := do
  let slot := s.slot set io
  let isDynamic := slot.info.isDynamicShapeOutput || s.trtContexts.any fun ctx =>
    containsWildcard ((loader.outputCalls set).tensorShape ctx.profileIdx io)
  failIf (t.isInput = true) (.returned ⟨.invalidArg, "output '" ++ t.name ++
    "' is expected to be an input in model for " ++ loader.name⟩)
  failIf (slot.allocated = true) (loader.outputAlreadyAppeared t.name)
  failIf (t.dataType = .invalid ∨ t.dataType ≠ loader.configDataType outputDatatype)
    (loader.unexpectedOutputDatatype t (loader.configDataType outputDatatype))
  let format ← setFormat loader.toLoader t slot.info.format
  match (if slot.info.isBufferRagged then none
    else compareDimsSupported loader.config.name t.name t.shape outputDims loader.supportBatching
      false) with
  | some err => .error (.returned err)
  | none =>
      failIf (slot.info.isBufferRagged = true ∧ format.isLinearFormat = false) (.returned
        ⟨.invalidArg, "unexpected allow-ragged for non-linear output '" ++ t.name ++ "' for " ++
          loader.name⟩)
      let configured ← s.trtContexts.mapM (loader.configureOutputContext set io t isDynamic)
      loader.allocateOutput set io t.name isDynamic loader.zeroCopySupport
      loader.setOutputAddress set io t.name isDynamic (configured.map Prod.fst)
      let info : IOBindingInfo :=
        { slot.info with
          format := format
          isDynamicShapeOutput := isDynamic
          byteSize := if isDynamic then slot.info.byteSize
            else toSizeT ((configured.map Prod.snd).foldl max 0)
          memoryType := if loader.zeroCopySupport then .cpuPinned else .gpu }
      pure ({ s with trtContexts := configured.map Prod.fst }.setSlot set io
        { info := info, allocated := true })

/-- `InitializeExecuteOutputBinding`. -/
def initializeExecuteOutputBinding (entry : ConfigEntry) (outputName outputDatatype : String)
    (outputDims : List ℤ) (isState : Bool) (s : IoState) : Result IoState :=
  match s.ioIndexMap outputName with
  | none => .error (.returned ⟨.notFound, "output '" ++ outputName ++ "' not found for " ++
      loader.name⟩)
  | some io =>
    let s := s.setName set io outputName
    let s := s.setInfo set io fun info =>
      if isState then { info with isStateOutput := true }
      else { info with isRequestedOutputTensor := true }
    if (s.slot set io).allocated ∧ isState then .ok s
    else do
      let l ← loader.bindOutput set io (loader.tensor outputName) outputDatatype outputDims
        s.toLoadState
      pure (s.bound l set io entry)

/-- One entry of `InitializeConfigExecuteOutputBindings`. -/
def initializeConfigExecuteOutputBinding (s : IoState) (x : ConfigIo × ℕ) : Result IoState := do
  let ioDatatype ← requireMember "data_type" x.1.dataType
  let isShapeTensor ← requireMember "is_shape_tensor" x.1.isShapeTensor
  let dims ← x.1.usedDims
  if isShapeTensor then pure s
  else loader.initializeExecuteOutputBinding set (.output x.2) x.1.name ioDatatype dims false s

/-- `InitializeSequenceStateOutputBindings` for one state. -/
def initializeSequenceStateOutputBinding (s : IoState) (x : ConfigState × ℕ) : Result IoState :=
  loader.initializeExecuteOutputBinding set (.state x.2) x.1.outputName x.1.dataType x.1.dims true s

/-- The second loop of `InitIOBindingBuffers` for one buffer set. -/
def initOutputBindings (outputs : List ConfigIo) (s : IoState) : Result IoState := do
  let s ← loader.batchOutput.foldlM (loader.initializeBatchOutputBindings set) s
  let s ← outputs.zipIdx.foldlM (loader.initializeConfigShapeOutputBinding lib set) s
  let s ← outputs.zipIdx.foldlM (loader.initializeConfigExecuteOutputBinding set) s
  loader.config.sequenceStates.zipIdx.foldlM (loader.initializeSequenceStateOutputBinding set) s

end Binding

/-! ### All bindings -/

/-- The last check: a tensor without a buffer is an error. -/
def checkAllocated (s : IoState) : Result Unit :=
  (List.range loader.numCopyStreams).forM fun set =>
    loader.tensors.zipIdx.forM fun x =>
      failIf ((s.slot set x.2).allocated = false) (.returned ⟨.invalidArg,
        "expected configuration for " ++ ioType x.1.isInput ++ " '" ++ x.1.name ++ "' for " ++
          loader.name⟩)

/-- `InitIOBindingBuffers`. -/
def initIoBindingBuffers (lib : BackendCommon) : Result IoState := do
  let inputs ← loader.config.ioEntries true
  let outputs ← loader.config.ioEntries false
  let s ← (List.range loader.numCopyStreams).foldlM
    (fun s set => loader.initInputBindings lib set inputs s) loader.ioStart
  let s ← (List.range loader.numCopyStreams).foldlM
    (fun s set => loader.initOutputBindings lib set outputs s) s
  loader.checkAllocated s
  failIf (loader.inferShapes = false) (.returned ⟨.internal,
    "failed to specify the dimensions of all input tensors or values of all input shape tensors"⟩)
  pure s

end IoLoader

end TensorrtBackend

import TensorrtBackend.Dims
import TensorrtBackend.ShapeTensor
import TensorrtBackend.Lib.SortedMap

/-!
# The state of a model instance and of a request

Data model of `ModelInstanceState`: the engine's I/O tensors in binding order, one
`TensorRTContext` for each optimization profile, the binding information of each buffer set, and
the two indices that select the event set and the buffer set of the next execution.  What TensorRT
and the loader guarantee about this data is carried by the structures themselves.
-/

namespace TensorrtBackend

/-- Number of CUDA event sets of an instance (`EVENT_SET_COUNT`). -/
def eventSetCount : ℕ := 3

/-- `TRITONSERVER_MemoryType`. -/
inductive MemoryType
  | cpu | cpuPinned | gpu
  deriving DecidableEq, Repr

/-! ### Engine and bindings -/

/-- What the engine reports about one I/O tensor. -/
structure EngineTensor where
  name : String
  isInput : Bool
  isShapeInferenceIo : Bool := false
  dataType : DataType := .fp32
  deriving DecidableEq

/-- `TensorFormat`. -/
structure TensorFormat where
  isLinearFormat : Bool := true
  vectorizedDim : ℤ := -1
  componentsPerElement : ℤ := 1
  deriving DecidableEq

/-- `BatchInput::Kind`. -/
inductive BatchInputKind
  | batchElementCount | batchAccumulatedElementCount | batchAccumulatedElementCountWithZero
  | batchMaxElementCountAsShape | batchItemShape | batchItemShapeFlatten
  deriving DecidableEq

/-- The part of `BatchInput` that an execution reads. -/
structure BatchInput where
  kind : BatchInputKind
  dataType : DataType
  deriving DecidableEq

/-- `IOBindingInfo`, without the addresses. -/
structure IOBindingInfo where
  byteSize : ℕ := 0
  memoryType : MemoryType := .gpu
  isBufferRagged : Bool := false
  format : TensorFormat := {}
  batchInput : Option BatchInput := none
  isDynamicShapeOutput : Bool := false
  isRequestedOutputTensor : Bool := false
  isStateOutput : Bool := false
  deriving DecidableEq

instance : Inhabited IOBindingInfo := ⟨{}⟩

/-! ### Execution contexts -/

/-- The two indices a successful execution advances. -/
structure SetIndices where
  nextSet : ℕ := 0
  nextBufferBindingSet : ℕ := 0
  deriving DecidableEq

/-- What a `cudaGraphExec_t` replays: the binding buffers and the event set its capture was issued
with. -/
structure GraphExec where
  bufferBindingSet : ℕ
  eventSet : ℕ
  deriving DecidableEq

/-- `TensorRTContext::CudaGraph`. -/
structure CudaGraph where
  lowerBoundKey : List ℤ := []
  inputDims : List (List ℤ) := []
  cudaGraphExec : Option GraphExec := none
  deriving DecidableEq

instance : Inhabited CudaGraph := ⟨{}⟩

/-- The captured graphs of one event set, ordered by key. -/
abbrev CudaGraphMap := SortedMap (List ℤ) CudaGraph

/-- No graph for any event set. -/
def noGraphs : List CudaGraphMap := List.replicate eventSetCount SortedMap.empty

theorem noGraphs_length : noGraphs.length = eventSetCount := List.length_replicate

/-- The dims of one tensor in a profile.  TensorRT gives the three selectors one rank and no
negative minimum; loading may lower `maxDims` but keeps the rank. -/
structure ProfileDims where
  minDims : Dims := default
  maxDims : Dims := default
  optDims : Dims := default
  min_rank : minDims.nbDims = maxDims.nbDims := by decide
  opt_rank : optDims.nbDims = maxDims.nbDims := by decide
  min_nonneg : ∀ i, 0 ≤ minDims.dim i

/-- The entry of a tensor no profile dims were stored for. -/
instance : Inhabited ProfileDims :=
  ⟨{ min_nonneg := fun i => by
      show 0 ≤ (List.replicate maxDimsCount (0 : ℤ)).getD i 0
      rw [List.getD_eq_getElem?_getD, List.getElem?_replicate]
      split <;> simp }⟩

/-- The shape values of one tensor in a profile. -/
structure ProfileShapes where
  minShapes : ShapeTensor := {}
  maxShapes : ShapeTensor := {}
  optShapes : ShapeTensor := {}

instance : Inhabited ProfileShapes := ⟨{}⟩

/-- `TensorRTContext`; the per-binding vectors are indexed by the position of the tensor. -/
structure TensorRTContext where
  profileName : String := "default"
  profileIdx : ℤ := 0
  dims : List ProfileDims := []
  shapes : List ProfileShapes := []
  nbShapeValues : ℕ := 0
  isDynamicPerBinding : List Bool := []
  cudaGraphExecs : List CudaGraphMap := noGraphs
  cudaGraphExecs_length : cudaGraphExecs.length = eventSetCount := by exact noGraphs_length

instance : Inhabited TensorRTContext := ⟨{}⟩

namespace TensorRTContext

def minDims (ctx : TensorRTContext) (io : ℕ) : Dims := (ctx.dims.getD io default).minDims
def maxDims (ctx : TensorRTContext) (io : ℕ) : Dims := (ctx.dims.getD io default).maxDims
def optDims (ctx : TensorRTContext) (io : ℕ) : Dims := (ctx.dims.getD io default).optDims
def minShapes (ctx : TensorRTContext) (io : ℕ) : ShapeTensor :=
  (ctx.shapes.getD io default).minShapes
def maxShapes (ctx : TensorRTContext) (io : ℕ) : ShapeTensor :=
  (ctx.shapes.getD io default).maxShapes
def optShapes (ctx : TensorRTContext) (io : ℕ) : ShapeTensor :=
  (ctx.shapes.getD io default).optShapes

theorem minDims_nonneg (ctx : TensorRTContext) (io i : ℕ) : 0 ≤ (ctx.minDims io).dim i :=
  (ctx.dims.getD io default).min_nonneg i

end TensorRTContext

/-! ### The instance -/

/-- The part of `ModelInstanceState` that is fixed once `Create` has returned.  `MaxBatchSize()` is
an `int`; the contexts are the
values of `trt_contexts_`, a map keyed by profile index that holds at least one entry; tensor names
are unique in an engine; the stored maximum dims of an execution input were written by
`DimVecToDims` and are `int` values.  A shape-tensor input has at most one dimension
(`CompareShapeDimsSupported`), and `InitializeExecuteInputBinding` leaves before it could mark one
as ragged. -/
structure Instance where
  name : String
  maxBatchSize : ℕ
  tensors : List EngineTensor
  trtContexts : List TensorRTContext
  ioBindingInfos : List (List IOBindingInfo)
  numCopyStreams : ℕ := 1
  allowInexactMatch : Bool := false
  contexts_ne : trtContexts ≠ []
  contexts_sorted : trtContexts.Pairwise fun c c' => c.profileIdx < c'.profileIdx
  maxBatchSize_int : maxBatchSize < 2 ^ 31 := by decide
  names_nodup : (tensors.map EngineTensor.name).Nodup
  max_int : ∀ c ∈ trtContexts, ∀ io t, tensors[io]? = some t → t.isInput = true →
    t.isShapeInferenceIo = false → ∀ i < (c.maxDims io).nbDims, (c.maxDims io).dim i < 2 ^ 31
  shape_rank : ∀ c ∈ trtContexts, ∀ io t, tensors[io]? = some t → t.isInput = true →
    t.isShapeInferenceIo = true → (c.maxDims io).nbDims ≤ 1
  shape_not_ragged : ∀ set io t, tensors[io]? = some t → t.isInput = true →
    t.isShapeInferenceIo = true →
      ((ioBindingInfos.getD set []).getD io default).isBufferRagged = false

namespace Instance

/-- `support_batching_`. -/
def supportBatching (inst : Instance) : Bool := decide (0 < inst.maxBatchSize)

/-- `io_index_map_[name]`: an unknown name is inserted with index 0. -/
def ioIndex (inst : Instance) (name : String) : ℕ :=
  (inst.tensors.findIdx? fun t => t.name == name).getD 0

/-- `engine_->isShapeInferenceIo(name)`; an unknown name is not a shape tensor. -/
def isShapeInferenceIo (inst : Instance) (name : String) : Bool :=
  inst.tensors.any fun t => t.name == name && t.isShapeInferenceIo

/-- `io_binding_infos_[set][io]`. -/
def bindingInfo (inst : Instance) (set io : ℕ) : IOBindingInfo :=
  (inst.ioBindingInfos.getD set []).getD io default

theorem ioIndex_of_getElem? (inst : Instance) {io : ℕ} {t : EngineTensor}
    (h : inst.tensors[io]? = some t) : inst.ioIndex t.name = io := by
  obtain ⟨hlt, ht⟩ := List.getElem?_eq_some_iff.mp h
  have hfind : inst.tensors.findIdx? (fun u => u.name == t.name) = some io := by
    rw [List.findIdx?_eq_some_iff_getElem]
    refine ⟨hlt, by simp [ht], fun j hj => ?_⟩
    intro hname
    have hjlt : j < inst.tensors.length := hj.trans hlt
    have hnames : (inst.tensors.map EngineTensor.name)[j]? =
        (inst.tensors.map EngineTensor.name)[io]? := by
      rw [List.getElem?_map, List.getElem?_map, h, List.getElem?_eq_getElem hjlt]
      exact congrArg some (beq_iff_eq.mp hname)
    have hlen : j < (inst.tensors.map EngineTensor.name).length := by rw [List.length_map]; exact hjlt
    exact hj.ne ((List.getElem?_inj hlen inst.names_nodup).mp hnames)
  rw [ioIndex, hfind, Option.getD_some]

theorem isShapeInferenceIo_of_getElem? (inst : Instance) {io : ℕ} {t : EngineTensor}
    (h : inst.tensors[io]? = some t) :
    inst.isShapeInferenceIo t.name = t.isShapeInferenceIo := by
  obtain ⟨hlt, ht⟩ := List.getElem?_eq_some_iff.mp h
  rw [isShapeInferenceIo]
  by_cases hs : t.isShapeInferenceIo = true
  · rw [hs, List.any_eq_true]
    exact ⟨t, ht ▸ List.getElem_mem hlt, by simp [hs]⟩
  · rw [Bool.not_eq_true] at hs
    rw [hs, List.any_eq_false]
    intro u hu hc
    obtain ⟨j, hj, hju⟩ := List.getElem_of_mem hu
    simp only [Bool.and_eq_true, beq_iff_eq] at hc
    have huj : inst.tensors[j]? = some u := by rw [List.getElem?_eq_getElem hj, hju]
    have hji : j = io := by
      rw [← inst.ioIndex_of_getElem? huj, ← inst.ioIndex_of_getElem? h, hc.1]
    subst hji
    rw [huj] at h
    cases h
    rw [hs] at hc
    exact Bool.noConfusion hc.2

end Instance

/-! ### Requests -/

/-- `TRITONBACKEND_InputProperties` and `TRITONBACKEND_InputBuffer` of one input. -/
structure InputProperties where
  name : String
  datatype : DataType := .fp32
  shape : List ℤ
  byteSize : ℕ := 0
  bufferCount : ℕ := 1
  buffer : Option Bytes := none
  dataByteSize : ℕ := 0
  dataMemoryType : MemoryType := .cpu
  deriving DecidableEq

/-- A request: its inputs in index order, of which no two share a name, and the names of its
requested outputs. -/
structure Request where
  inputs : List InputProperties
  requestedOutputs : List String := []
  names_nodup : (inputs.map InputProperties.name).Nodup := by simp
  deriving DecidableEq

instance : Inhabited Request := ⟨{ inputs := [] }⟩

/-- `TRITONBACKEND_RequestInput`. -/
def Request.input? (request : Request) (name : String) : Option InputProperties :=
  request.inputs.find? fun input => input.name == name

theorem Request.input?_of_mem {request : Request} {input : InputProperties}
    (h : input ∈ request.inputs) : request.input? input.name = some input := by
  obtain ⟨inputs, outputs, hnodup⟩ := request
  show inputs.find? (fun x => x.name == input.name) = some input
  have hmem : input ∈ inputs := h
  induction inputs with
  | nil => simp at hmem
  | cons x xs ih =>
      rw [List.map_cons, List.nodup_cons] at hnodup
      rcases List.mem_cons.mp hmem with rfl | hmem
      · rw [List.find?_cons_of_pos (by simp)]
      · have hne : x.name ≠ input.name := by
          intro heq
          exact hnodup.1 (heq ▸ List.mem_map_of_mem hmem)
        rw [List.find?_cons_of_neg (by simpa using hne)]
        exact ih hnodup.2 hmem hmem

theorem Request.mem_of_input? {request : Request} {name : String} {input : InputProperties}
    (h : request.input? name = some input) : input ∈ request.inputs ∧ input.name = name := by
  rw [Request.input?] at h
  have hname := List.find?_some h
  exact ⟨List.mem_of_find?_eq_some h, beq_iff_eq.mp hname⟩

/-- Values of the `triton::backend` helpers that are not part of this repository. -/
structure BackendCommon where
  /-- `backend::GetElementCount`. -/
  elementCount : List ℤ → ℤ
  /-- `GetByteSize`. -/
  byteSize : DataType → List ℤ → ℤ

/-- The documented behaviour of the helpers: `-1` when a dimension is a wildcard or the data type
has no fixed size. -/
def BackendCommon.plain : BackendCommon where
  elementCount dims := if wildcardDim ∈ dims then -1 else dims.prod
  byteSize datatype dims :=
    if datatype.byteSize = 0 ∨ wildcardDim ∈ dims then -1 else datatype.byteSize * dims.prod

/-- The shape values of a request by tensor index, `std::map<int, ShapeTensor>`. -/
abbrev ShapeValueMap := ℕ → Option ShapeTensor

/-! ### A model of one matrix input -/

/-- The dims of a matrix. -/
def matrixDims (rows columns : ℤ) : Dims := Dims.ofList [rows, columns] (by show 2 ≤ 8; omega)

/-- The dims of a vector. -/
def vectorDims (n : ℤ) : Dims := Dims.ofList [n] (by show 1 ≤ 8; omega)

theorem matrixDims_nonneg (i : ℕ) : 0 ≤ (matrixDims 1 1).dim i :=
  Dims.forall_dim (by decide) (by decide) i

/-- A profile for matrices of up to eight rows of up to sixteen columns. -/
def matrixProfile (idx : ℤ) (rows columns : ℤ) : TensorRTContext where
  profileIdx := idx
  dims := [{ minDims := matrixDims 1 1, maxDims := matrixDims 8 16,
             optDims := matrixDims rows columns, opt_rank := rfl,
             min_nonneg := matrixDims_nonneg }]
  isDynamicPerBinding := [true]

theorem matrixProfile_maxDims_lt (idx rows columns : ℤ) (io i : ℕ) :
    ((matrixProfile idx rows columns).maxDims io).dim i < 2 ^ 31 := by
  cases io with
  | zero =>
      have h : ∀ x ∈ (matrixDims 8 16).d, x < 2 ^ 31 := by decide
      exact Dims.forall_dim (by decide) h i
  | succ io =>
      have h : ∀ x ∈ (default : Dims).d, x < 2 ^ 31 := by decide
      exact Dims.forall_dim (by decide) h i

theorem matrixProfiles_ne : [matrixProfile 0 4 4, matrixProfile 1 4 10] ≠ [] :=
  List.cons_ne_nil _ _

/-- A model with one matrix input and two profiles, the second optimal for four rows of ten. -/
def matrixInstance (maxBatchSize numCopyStreams : ℕ) (h : maxBatchSize < 2 ^ 31 := by decide) :
    Instance where
  name := "matrix"
  maxBatchSize := maxBatchSize
  maxBatchSize_int := h
  tensors := [{ name := "in", isInput := true }]
  trtContexts := [matrixProfile 0 4 4, matrixProfile 1 4 10]
  ioBindingInfos := List.replicate numCopyStreams [{}]
  numCopyStreams := numCopyStreams
  contexts_ne := by simp
  contexts_sorted := by simp [matrixProfile]
  names_nodup := by simp
  shape_rank := by
    intro c _ io t ht _ hs
    rw [List.mem_singleton.mp (List.mem_of_getElem? ht)] at hs
    exact Bool.noConfusion hs
  shape_not_ragged := by
    intro set io t ht _ hs
    rw [List.mem_singleton.mp (List.mem_of_getElem? ht)] at hs
    exact Bool.noConfusion hs
  max_int := by
    intro c hc io t _ _ _ i _
    simp only [List.mem_cons, List.not_mem_nil, or_false] at hc
    rcases hc with rfl | rfl
    · exact matrixProfile_maxDims_lt 0 4 4 io i
    · exact matrixProfile_maxDims_lt 1 4 10 io i

/-- The maximum batch size of the examples is an `int`. -/
theorem matrixBatchSize_lt : 8 < 2 ^ 31 := by decide

/-- One request of one matrix. -/
def matrixRequests (rows columns : ℤ) : List Request :=
  [{ inputs := [{ name := "in", shape := [rows, columns] }] }]

end TensorrtBackend

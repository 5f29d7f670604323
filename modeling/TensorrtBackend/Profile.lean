import Mathlib.Algebra.BigOperators.Group.List.Basic
import TensorrtBackend.Instance
import TensorrtBackend.Lib.FirstMin

/-!
# Selecting an optimization profile

`GetMostOptimizedProfile` evaluates every context of the instance with `EvaluateTensorRTContext`
and keeps the first one of least distance; a rejected context is given the distance `LLONG_MAX`.
The evaluation walks the inputs of the first request: a ragged input is judged by the element
counts of all requests, any other input by its shape with the batch dimension replaced by the total
batch size, and a shape tensor by its values as well.

The distance of an input compares `opt_dims.d[0]` with the total batch size and `opt_dims.d[idx]`,
for `idx ≥ 1`, with the entry `idx - 1` of the shape.
-/

namespace TensorrtBackend

/-- Outcomes of the Triton calls one evaluation of a context makes, by input and request. -/
structure EvaluateCalls where
  requestInputCount : Option Error := none
  inputProperties : ℕ → Option Error := fun _ => none
  raggedInput : ℕ → ℕ → Option Error := fun _ _ => none

/-- Every call succeeds. -/
def EvaluateCalls.succeed : EvaluateCalls := {}

/-- How one input ends its part of the evaluation. -/
inductive InputVerdict
  | failed (err : Error)
  | rejected
  | accepted (distance : ℤ)
  deriving DecidableEq

/-- The request shape with its first dimension replaced by the total batch size when the model
supports batching (`input_shape_vec`). -/
def inputShapeVec (supportBatching : Bool) (totalBatchSize : ℕ) (shape : List ℤ) : List ℤ :=
  if supportBatching then shape.set 0 totalBatchSize else shape

/-- The distance the evaluation adds for an input with opt dims `optDims`. -/
def inputDistance (optDims : Dims) (inputShapeVec : List ℤ) (totalBatchSize : ℕ) : ℤ :=
  (List.range' 1 (optDims.nbDims - 1)).foldl
    (fun distance idx => distance + |optDims.dim idx - inputShapeVec.getD (idx - 1) 0|)
    |optDims.dim 0 - totalBatchSize|

/-- The one-dimensional shape of a ragged input: the element counts of all requests, summed.  A
request without the input makes `TRITONBACKEND_RequestInput` fail. -/
def raggedShape (lib : BackendCommon) (name : String) : List Request → Option ℤ
  | [] => some 0
  | request :: requests =>
      match request.input? name, raggedShape lib name requests with
      | some input, some sum => some (lib.elementCount input.shape + sum)
      | _, _ => none

/-- One iteration of the loop of `EvaluateTensorRTContext`. -/
def evaluateInput (lib : BackendCommon) (inst : Instance) (set : ℕ) (calls : EvaluateCalls)
    (cit : TensorRTContext) (totalBatchSize : ℕ) (requests : List Request)
    (requestShapeValues : ShapeValueMap) (i : ℕ) (input : InputProperties) : InputVerdict :=
  match calls.inputProperties i with
  | some err => .failed err
  | none =>
    let shapeVec := inputShapeVec inst.supportBatching totalBatchSize input.shape
    let io := inst.ioIndex input.name
    if (inst.bindingInfo set io).isBufferRagged then
      match (List.range requests.length).findSome? (calls.raggedInput i) with
      | some err => .failed err
      | none =>
        match raggedShape lib input.name requests with
        | none => .failed ⟨.invalidArg, "unknown request input name " ++ input.name⟩
        | some sum =>
          if (validateDimensionVec [sum] (cit.minDims io) (cit.maxDims io) false).isSome then
            .rejected
          else .accepted |(cit.optDims io).dim 0 - sum|
    else
      let err := validateDimensionVec shapeVec (cit.minDims io) (cit.maxDims io) false
      if inst.isShapeInferenceIo input.name then
        match requestShapeValues io with
        | none => .rejected
        | some values =>
          let shapeErr := validateShapeValues values (cit.minShapes io) (cit.maxShapes io)
            cit.nbShapeValues
          let validBs := !inst.supportBatching ||
            validateBatchSize totalBatchSize (cit.minShapes io) (cit.maxShapes io)
          if err.isSome || shapeErr.isSome || !validBs then .rejected
          else
            .accepted (inputDistance (cit.optDims io) shapeVec totalBatchSize +
              values.getDistance (cit.optShapes io) totalBatchSize)
      else if err.isSome then .rejected
      else .accepted (inputDistance (cit.optDims io) shapeVec totalBatchSize)

/-- The loop over the inputs: a rejected input breaks it with the distance `LLONG_MAX`, a failed
call returns with the distance accumulated so far. -/
def evaluateInputs (judge : ℕ → InputProperties → InputVerdict) :
    ℕ → List InputProperties → ℤ → Option Error × ℤ
  | _, [], distance => (none, distance)
  | i, input :: inputs, distance =>
      match judge i input with
      | .failed err => (some err, distance)
      | .rejected => (none, llongMax)
      | .accepted d => evaluateInputs judge (i + 1) inputs (distance + d)

/-- The inputs a batch is judged by: those of its first request. -/
def batchInputs (requests : List Request) : List InputProperties := (requests.headD default).inputs

/-- `EvaluateTensorRTContext`: the error, if any, and `error_distance`. -/
def evaluateTensorRTContext (lib : BackendCommon) (inst : Instance) (set : ℕ)
    (calls : EvaluateCalls) (cit : TensorRTContext) (totalBatchSize : ℕ)
    (requests : List Request) (requestShapeValues : ShapeValueMap) : Option Error × ℤ :=
  match calls.requestInputCount with
  | some err => (some err, 0)
  | none =>
    evaluateInputs
      (evaluateInput lib inst set calls cit totalBatchSize requests requestShapeValues)
      0 (batchInputs requests) 0

/-- `GetMostOptimizedProfile`: the error, if any, and the selected context, which is the first one
when no context is better.  The error an evaluation returns is not looked at. -/
def getMostOptimizedProfile (lib : BackendCommon) (inst : Instance) (set : ℕ)
    (calls : TensorRTContext → EvaluateCalls) (totalBatchSize : ℕ) (requests : List Request)
    (requestShapeValues : ShapeValueMap) : Option Error × TensorRTContext :=
  let begin := inst.trtContexts.head inst.contexts_ne
  if inst.trtContexts.length ≠ 1 then
    let distance := fun c => (evaluateTensorRTContext lib inst set (calls c) c totalBatchSize
      requests requestShapeValues).2
    let best := FirstMin.scan distance begin llongMax inst.trtContexts
    if best.2 = llongMax then
      (errorNew .invalidArg ("failed to find any Optimization Profile among [" ++
        String.join (inst.trtContexts.map fun c =>
          " " ++ c.profileName ++ "[" ++ toString c.profileIdx ++ "]") ++
        "] to support the requested dimensions (or shape values), proceeding with first profile."),
        best.1)
    else (none, best.1)
  else (none, begin)

/-- `element_cnt` of a shape-tensor input: the count of one item when the model supports batching.
-/
def itemElementCount (lib : BackendCommon) (supportBatching : Bool) (shape : List ℤ) :
    Except Crash ℤ :=
  if supportBatching then firstDim shape >>= divide (lib.elementCount shape)
  else .ok (lib.elementCount shape)

/-- One iteration of the loop of `GetRequestShapeValues` for a shape-tensor input. -/
def requestShapeValue (lib : BackendCommon) (inst : Instance) (totalBatchSize : ℕ)
    (input : InputProperties) : Except Failure ShapeTensor :=
  let notContiguous : Failure := .returned ⟨.invalidArg, "shape tensor for input '" ++ input.name ++
    "' must be in single contiguous buffer on CPU"⟩
  if input.bufferCount ≠ 1 then .error notContiguous
  else if input.buffer.isNone ∨ input.dataMemoryType = .gpu then .error notContiguous
  else
    match itemElementCount lib inst.supportBatching input.shape with
    | .error crash => .error (.crashed crash)
    | .ok elementCnt =>
      match ({} : ShapeTensor).setDataFromBuffer input.buffer input.dataByteSize input.datatype
        (toSizeT elementCnt) input.name inst.supportBatching totalBatchSize with
      | (some err, _) => .error (.returned err)
      | (none, values) => .ok values

/-- `GetRequestShapeValues`, with the Triton calls it makes succeeding. -/
def getRequestShapeValues (lib : BackendCommon) (inst : Instance) (totalBatchSize : ℕ) :
    List InputProperties → ShapeValueMap → Except Failure ShapeValueMap
  | [], values => .ok values
  | input :: inputs, values =>
      if inst.isShapeInferenceIo input.name then
        match requestShapeValue lib inst totalBatchSize input with
        | .error failure => .error failure
        | .ok value =>
            getRequestShapeValues lib inst totalBatchSize inputs
              (Function.update values (inst.ioIndex input.name) (some value))
      else getRequestShapeValues lib inst totalBatchSize inputs values

/-! ### What the loops compute -/

/-- When each input is either rejected or accepted with a distance of its own, a context is either
rejected as a whole or given the sum. -/
theorem evaluateInputs_eq {judge : ℕ → InputProperties → InputVerdict} {A : InputProperties → Prop}
    [DecidablePred A] {term : InputProperties → ℤ} {i : ℕ} {inputs : List InputProperties}
    (h : ∀ j, ∀ input ∈ inputs,
      judge j input = if A input then .accepted (term input) else .rejected) (distance : ℤ) :
    evaluateInputs judge i inputs distance =
      (none, if ∀ input ∈ inputs, A input then distance + (inputs.map term).sum else llongMax) := by
  induction inputs generalizing i distance with
  | nil => simp [evaluateInputs]
  | cons input inputs ih =>
      rw [evaluateInputs, h i input (by simp)]
      by_cases hin : A input
      · rw [if_pos hin]
        show evaluateInputs judge (i + 1) inputs (distance + term input) = _
        rw [ih fun j x hx => h j x (by simp [hx])]
        simp only [List.forall_mem_cons, hin, true_and, List.map_cons, List.sum_cons, add_assoc]
      · rw [if_neg hin]
        simp only [List.forall_mem_cons, hin, false_and, if_false]

section Selection

variable {lib : BackendCommon} {inst : Instance} {set totalBatchSize : ℕ}
  {calls : TensorRTContext → EvaluateCalls} {requests : List Request}
  {requestShapeValues : ShapeValueMap} {distance : TensorRTContext → ℤ}

/-- **The selection**: it succeeds exactly when some context is given a distance below `LLONG_MAX`,
and then returns the first context of least distance. -/
theorem getMostOptimizedProfile_spec (hctx : 2 ≤ inst.trtContexts.length)
    (hd : ∀ c, (evaluateTensorRTContext lib inst set (calls c) c totalBatchSize requests
      requestShapeValues).2 = distance c) :
    ((getMostOptimizedProfile lib inst set calls totalBatchSize requests requestShapeValues).1 =
        none ↔ ∃ c ∈ inst.trtContexts, distance c < llongMax) ∧
      ((∃ c ∈ inst.trtContexts, distance c < llongMax) →
        FirstMin.IsFirstMin distance inst.trtContexts
            (getMostOptimizedProfile lib inst set calls totalBatchSize requests
              requestShapeValues).2 ∧
          distance (getMostOptimizedProfile lib inst set calls totalBatchSize requests
            requestShapeValues).2 < llongMax) := by
  have hne : inst.trtContexts.length ≠ 1 := by omega
  obtain ⟨m, hm⟩ := FirstMin.exists_isFirstMin distance inst.contexts_ne
  have hex : (∃ c ∈ inst.trtContexts, distance c < llongMax) ↔ distance m < llongMax :=
    ⟨fun ⟨c, hc, hlt⟩ => (hm.le hc).trans_lt hlt, fun hlt => ⟨m, hm.mem, hlt⟩⟩
  simp only [getMostOptimizedProfile, hne, ne_eq, not_false_eq_true, if_true, hd, hex]
  by_cases hlt : distance m < llongMax
  · have hscan : FirstMin.scan distance (inst.trtContexts.head inst.contexts_ne) llongMax
        inst.trtContexts = (m, distance m) := FirstMin.scan_of_isFirstMin hm hlt
    rw [show (fun c => distance c) = distance from rfl, hscan, if_neg hlt.ne]
    exact ⟨⟨fun _ => hlt, fun _ => rfl⟩, fun _ => ⟨hm, hlt⟩⟩
  · have hall : ∀ c ∈ inst.trtContexts, llongMax ≤ distance c := by
      intro c hc
      have := hm.le hc
      omega
    rw [show (fun c => distance c) = distance from rfl, FirstMin.scan_of_le hall, if_pos rfl]
    refine ⟨⟨fun h => ?_, fun h => absurd h hlt⟩, fun h => absurd h hlt⟩
    exact absurd h (by simp [errorNew])

end Selection

end TensorrtBackend

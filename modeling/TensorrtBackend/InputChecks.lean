import TensorrtBackend.Profile

/-!
# The checks an execution makes on its inputs

`Run` walks the engine's input tensors in binding order.  A shape tensor has its values validated
against the selected profile; any other input is given a shape (the batch input's own shape, the
summed element count of a ragged input, or the request shape behind the total batch size), and
`SetBindingDimensions` appends that shape to the CUDA graph key, narrows it to `Dims` and validates
it.  `runChecks` is that walk with the copies left out.
-/

namespace TensorrtBackend

/-- `SetBindingDimensions`: the error, if any, and the extended `cuda_graph_key`.  The answer of
`IExecutionContext::setInputShape` is the argument of that name. -/
def setBindingDimensions (inst : Instance) (setInputShape : ℕ → Dims → Bool) (inputName : String)
    (shape : List ℤ) (trtContext : TensorRTContext) (ioIndex : ℕ) (cudaGraphKey : List ℤ) :
    Option Error × List ℤ :=
  let key := cudaGraphKey ++ shape
  match dimVecToDims shape default with
  | none =>
      (errorNew .internal ("failed to create dims object for " ++ shapeToString shape ++
        " for input '" ++ inputName ++ "' for " ++ inst.name ++ "."), key)
  | some thisDim =>
    match validateDimension thisDim (trtContext.minDims ioIndex) (trtContext.maxDims ioIndex) with
    | some err =>
        (errorNew .internal ("request specifies invalid shape for input '" ++ inputName ++
          "' for " ++ inst.name ++ ". Error details: " ++ err.message), key)
    | none =>
      -- A binding without a dynamic dimension needs no shape.
      if !trtContext.isDynamicPerBinding.getD ioIndex false then (none, key)
      else if !setInputShape ioIndex thisDim then
        (errorNew .internal ("trt failed to set binding dimension to " ++
          dimsDebugString thisDim ++ " for input '" ++ inputName ++ "' for " ++ inst.name), key)
      else (none, key)

/-- The shape of a regular input for the entire batch, `[total_batch_size, ...]`. -/
def batchnShape (supportBatching : Bool) (totalBatchSize : ℕ) (shape : List ℤ) : List ℤ :=
  if supportBatching then (totalBatchSize : ℤ) :: shape.drop 1 else shape

section Run

variable (lib : BackendCommon) (inst : Instance) (set : ℕ)
  (batchInputShape : BatchInput → Option (List ℤ)) (setInputShape : ℕ → Dims → Bool)
  (totalBatchSize : ℕ) (requests : List Request)

/-- The shape `Run` sets for an execution input; `none` when a call that yields it fails. -/
def runtimeShape (io : ℕ) (name : String) : Option (List ℤ) :=
  match (inst.bindingInfo set io).batchInput with
  | some batchInput => batchInputShape batchInput
  | none =>
    if (inst.bindingInfo set io).isBufferRagged then
      (raggedShape lib name requests).map fun sum => [sum]
    else
      ((requests.headD default).input? name).map fun input =>
        batchnShape inst.supportBatching totalBatchSize input.shape

/-- The input loop of `Run` from binding `io` on: the first error, if any, and `input_dims`. -/
def runChecks (citr : TensorRTContext) (requestShapeValues : ShapeValueMap) :
    ℕ → List EngineTensor → List ℤ → Option Error × List ℤ
  | _, [], key => (none, key)
  | io, tensor :: tensors, key =>
      if !tensor.isInput then runChecks citr requestShapeValues (io + 1) tensors key
      else if tensor.isShapeInferenceIo then
        match requestShapeValues io with
        | none =>
            (errorNew .internal ("unable to find shape values for shape input '" ++ tensor.name ++
              "' in request for " ++ inst.name), key)
        | some values =>
          match validateShapeValues values (citr.minShapes io) (citr.maxShapes io)
            citr.nbShapeValues with
          | some err => (some err, key)
          | none => runChecks citr requestShapeValues (io + 1) tensors key
      else
        match runtimeShape lib inst set batchInputShape totalBatchSize requests io tensor.name with
        | none => (errorNew .internal ("failed to obtain the input '" ++ tensor.name ++ "'"), key)
        | some shape =>
          match setBindingDimensions inst setInputShape tensor.name shape citr io key with
          | (some err, key) => (some err, key)
          | (none, key) => runChecks citr requestShapeValues (io + 1) tensors key

/-- What `Run` asks of one input tensor of the engine. -/
def InputPasses (citr : TensorRTContext) (requestShapeValues : ShapeValueMap) (io : ℕ)
    (tensor : EngineTensor) : Prop :=
  if tensor.isShapeInferenceIo then
    ∃ values, requestShapeValues io = some values ∧ validateShapeValues values (citr.minShapes io)
      (citr.maxShapes io) citr.nbShapeValues = none
  else
    ∃ shape, runtimeShape lib inst set batchInputShape totalBatchSize requests io tensor.name =
        some shape ∧
      (setBindingDimensions inst setInputShape tensor.name shape citr io []).1 = none

/-- The context passes all of `Run`'s own checks for the batch. -/
def PassesRunChecks (citr : TensorRTContext) (requestShapeValues : ShapeValueMap) : Prop :=
  (runChecks lib inst set batchInputShape setInputShape totalBatchSize requests citr
    requestShapeValues 0 inst.tensors [(totalBatchSize : ℤ)]).1 = none

end Run

/-! ### One binding -/

section Binding

variable {inst : Instance} {setInputShape : ℕ → Dims → Bool} {inputName : String} {shape : List ℤ}
  {trtContext : TensorRTContext} {ioIndex : ℕ} {cudaGraphKey : List ℤ}

/-- Whatever the outcome, exactly the shape is appended to the key. -/
@[simp] theorem setBindingDimensions_key :
    (setBindingDimensions inst setInputShape inputName shape trtContext ioIndex cudaGraphKey).2 =
      cudaGraphKey ++ shape := by
  unfold setBindingDimensions
  split
  · rfl
  · split
    · rfl
    · split
      · rfl
      · split <;> rfl

/-- The outcome does not depend on the key. -/
theorem setBindingDimensions_fst :
    (setBindingDimensions inst setInputShape inputName shape trtContext ioIndex cudaGraphKey).1 =
      (setBindingDimensions inst setInputShape inputName shape trtContext ioIndex []).1 := by
  unfold setBindingDimensions
  split
  · rfl
  · split
    · rfl
    · split
      · rfl
      · split <;> rfl

theorem maxDims_nbDims_le (trtContext : TensorRTContext) (ioIndex : ℕ) :
    (trtContext.maxDims ioIndex).nbDims ≤ maxDimsCount := (trtContext.maxDims ioIndex).nbDims_le

/-- What TensorRT accepts of a binding, it accepts in range. -/
theorem setBindingDimensions_of_ok
    (h : (setBindingDimensions inst setInputShape inputName shape trtContext ioIndex
      cudaGraphKey).1 = none) :
    (setBindingDimensions inst (fun _ _ => true) inputName shape trtContext ioIndex
      cudaGraphKey).1 = none := by
  unfold setBindingDimensions at h ⊢
  cases hdims : dimVecToDims shape default with
  | none => simp only [hdims, errorNew, reduceCtorEq] at h
  | some thisDim =>
      cases herr : validateDimension thisDim (trtContext.minDims ioIndex)
          (trtContext.maxDims ioIndex) with
      | some err => simp only [hdims, herr, errorNew, reduceCtorEq] at h
      | none => simp only [herr, Bool.not_true, Bool.false_eq_true, if_false, ite_self]

/-- When TensorRT accepts every shape, a binding is set exactly when the narrowed shape has the
rank of the profile and lies in its range. -/
theorem setBindingDimensions_eq_none_iff (hset : ∀ io dims, setInputShape io dims = true) :
    (setBindingDimensions inst setInputShape inputName shape trtContext ioIndex cudaGraphKey).1 =
        none ↔
      shape.length = (trtContext.maxDims ioIndex).nbDims ∧
        ∀ i < shape.length, (trtContext.minDims ioIndex).dim i ≤ toInt32 (shape.getD i 0) ∧
          toInt32 (shape.getD i 0) ≤ (trtContext.maxDims ioIndex).dim i := by
  have hrank := maxDims_nbDims_le trtContext ioIndex
  unfold setBindingDimensions
  cases hdims : dimVecToDims shape default with
  | none =>
      have hlen : ¬ shape.length ≤ maxDimsCount := by
        rw [← dimVecToDims_isSome shape default, hdims]
        exact Bool.false_ne_true
      simp only [errorNew, reduceCtorEq, false_iff]
      omega
  | some thisDim =>
      have hnb := dimVecToDims_nbDims hdims
      have hvalid : validateDimension thisDim (trtContext.minDims ioIndex)
          (trtContext.maxDims ioIndex) = none ↔
          shape.length = (trtContext.maxDims ioIndex).nbDims ∧
            ∀ i < shape.length, (trtContext.minDims ioIndex).dim i ≤ toInt32 (shape.getD i 0) ∧
              toInt32 (shape.getD i 0) ≤ (trtContext.maxDims ioIndex).dim i := by
        rw [validateDimension_eq_none_iff, hnb]
        refine and_congr_right fun _ => forall₂_congr fun i hi => ?_
        rw [dimVecToDims_dim hdims hi]
      cases herr : validateDimension thisDim (trtContext.minDims ioIndex)
          (trtContext.maxDims ioIndex) with
      | some err =>
          simp only [← hvalid, herr, errorNew, reduceCtorEq]
      | none =>
          simp only [← hvalid, herr, hset, Bool.not_true, Bool.false_eq_true, if_false, ite_self]

/-- The shape has the rank of the profile and every entry, narrowed to `int`, is in range. -/
def NarrowedInRange (trtContext : TensorRTContext) (ioIndex : ℕ) (shape : List ℤ) : Prop :=
  shape.length = (trtContext.maxDims ioIndex).nbDims ∧
    ∀ i < shape.length, (trtContext.minDims ioIndex).dim i ≤ toInt32 (shape.getD i 0) ∧
      toInt32 (shape.getD i 0) ≤ (trtContext.maxDims ioIndex).dim i

/-- A shape that gets past the range check, which it does when it is accepted by a TensorRT that
accepts every shape, is itself within the profile. -/
def RangeCheckSound (inst : Instance) (inputName : String) (trtContext : TensorRTContext)
    (ioIndex : ℕ) (shape : List ℤ) : Prop :=
  (setBindingDimensions inst (fun _ _ => true) inputName shape trtContext ioIndex []).1 = none →
    shape.length = (trtContext.maxDims ioIndex).nbDims ∧
      ∀ i < shape.length, (trtContext.minDims ioIndex).dim i ≤ shape.getD i 0 ∧
        shape.getD i 0 ≤ (trtContext.maxDims ioIndex).dim i

/-- **When the range check is sound.**  Its verdict is on the narrowed entries, so that it holds of
the shape exactly when no entry changes or the narrowed shape is out of range. -/
theorem rangeCheck_sound_iff {tensor : EngineTensor} (hctx : trtContext ∈ inst.trtContexts)
    (htensor : inst.tensors[ioIndex]? = some tensor) (hin : tensor.isInput = true)
    (hexec : tensor.isShapeInferenceIo = false) :
    RangeCheckSound inst inputName trtContext ioIndex shape ↔
      (∀ i < shape.length, -2 ^ 31 ≤ shape.getD i 0 ∧ shape.getD i 0 < 2 ^ 31) ∨
        ¬ NarrowedInRange trtContext ioIndex shape := by
  have hmax := inst.max_int trtContext hctx ioIndex tensor htensor hin hexec
  rw [RangeCheckSound, setBindingDimensions_eq_none_iff fun _ _ => rfl]
  constructor
  · intro hsound
    by_cases hnarrow : NarrowedInRange trtContext ioIndex shape
    · -- What is within the profile is an `int`.
      left
      intro i hi
      obtain ⟨hlen, hrange⟩ := hsound hnarrow
      have hmin := trtContext.minDims_nonneg ioIndex i
      have hlt := hmax i (hlen ▸ hi)
      have hr := hrange i hi
      omega
    · exact Or.inr hnarrow
  · intro hcases hnarrow
    have hints := hcases.resolve_right fun hout => hout hnarrow
    refine ⟨hnarrow.1, fun i hi => ?_⟩
    obtain ⟨hlow, hhigh⟩ := hints i hi
    have hr := hnarrow.2 i hi
    rwa [toInt32_eq_self hlow hhigh] at hr

end Binding

/-- The theorem for four rows of four, which the matrix profile takes. -/
theorem rangeCheck_sound_iff_matrix :
    RangeCheckSound (matrixInstance 8 1) "in" (matrixProfile 0 4 4) 0 [4, 4] ↔
      (∀ i < [4, 4].length, -2 ^ 31 ≤ [4, 4].getD i (0 : ℤ) ∧ [4, 4].getD i (0 : ℤ) < 2 ^ 31) ∨
        ¬ NarrowedInRange (matrixProfile 0 4 4) 0 [4, 4] := by
  have hctx : matrixProfile 0 4 4 ∈ (matrixInstance 8 1).trtContexts := List.mem_cons_self
  have htensor : (matrixInstance 8 1).tensors[0]? = some { name := "in", isInput := true } := rfl
  exact rangeCheck_sound_iff hctx htensor rfl rfl

/-- **The slip**: a shape of `2 ^ 32 + 4` rows passes the check of a profile of up to eight. -/
theorem rangeCheck_unsound :
    (setBindingDimensions (matrixInstance 8 1) (fun _ _ => true) "in" [2 ^ 32 + 4, 4]
        (matrixProfile 0 4 4) 0 []).1 = none ∧
      ¬ RangeCheckSound (matrixInstance 8 1) "in" (matrixProfile 0 4 4) 0 [2 ^ 32 + 4, 4] := by
  have hpass : (setBindingDimensions (matrixInstance 8 1) (fun _ _ => true) "in" [2 ^ 32 + 4, 4]
      (matrixProfile 0 4 4) 0 []).1 = none := by rfl
  refine ⟨hpass, fun hsound => ?_⟩
  have hrows : (2 ^ 32 + 4 : ℤ) ≤ 8 := ((hsound hpass).2 0 (by decide)).2
  exact absurd hrows (by decide)

/-! ### The walk over the bindings -/

section Walk

variable {lib : BackendCommon} {inst : Instance} {set : ℕ}
  {batchInputShape : BatchInput → Option (List ℤ)} {setInputShape : ℕ → Dims → Bool}
  {totalBatchSize : ℕ} {requests : List Request} {citr : TensorRTContext}
  {requestShapeValues : ShapeValueMap}

/-- What one tensor appends to the key. -/
def bindingShape (lib : BackendCommon) (inst : Instance) (set : ℕ)
    (batchInputShape : BatchInput → Option (List ℤ)) (totalBatchSize : ℕ)
    (requests : List Request) (io : ℕ) (tensor : EngineTensor) : List ℤ :=
  if tensor.isInput && !tensor.isShapeInferenceIo then
    (runtimeShape lib inst set batchInputShape totalBatchSize requests io tensor.name).getD []
  else []

/-- The walk goes on behind a tensor that passes. -/
theorem runChecks_cons_of_passes {io : ℕ} {tensor : EngineTensor} {tensors : List EngineTensor}
    {key : List ℤ}
    (h : tensor.isInput = true → InputPasses lib inst set batchInputShape setInputShape
      totalBatchSize requests citr requestShapeValues io tensor) :
    runChecks lib inst set batchInputShape setInputShape totalBatchSize requests citr
        requestShapeValues io (tensor :: tensors) key =
      runChecks lib inst set batchInputShape setInputShape totalBatchSize requests citr
        requestShapeValues (io + 1) tensors
        (key ++ bindingShape lib inst set batchInputShape totalBatchSize requests io tensor) := by
  rw [runChecks, bindingShape]
  cases hin : tensor.isInput with
  | false =>
      simp only [Bool.not_false, if_true, Bool.false_and, Bool.false_eq_true, if_false,
        List.append_nil]
  | true =>
      have hpass := h hin
      cases hshapeIo : tensor.isShapeInferenceIo with
      | true =>
          rw [InputPasses, if_pos hshapeIo] at hpass
          obtain ⟨values, hvalues, hvalid⟩ := hpass
          simp only [hvalues, hvalid, Bool.not_true, Bool.false_eq_true, if_false, if_true,
            Bool.and_false, List.append_nil]
      | false =>
          rw [InputPasses, if_neg (by simp [hshapeIo])] at hpass
          obtain ⟨shape, hshape, hset⟩ := hpass
          have hbound : setBindingDimensions inst setInputShape tensor.name shape citr io key =
              (none, key ++ shape) :=
            Prod.ext (setBindingDimensions_fst.trans hset) setBindingDimensions_key
          simp only [hshape, hbound, Bool.not_true, Bool.not_false, Bool.false_eq_true, if_false,
            Bool.and_self, if_true, Option.getD_some]

/-- A walk that succeeds has passed its first tensor. -/
theorem inputPasses_of_runChecks {io : ℕ} {tensor : EngineTensor} {tensors : List EngineTensor}
    {key : List ℤ}
    (h : (runChecks lib inst set batchInputShape setInputShape totalBatchSize requests citr
      requestShapeValues io (tensor :: tensors) key).1 = none) (hin : tensor.isInput = true) :
    InputPasses lib inst set batchInputShape setInputShape totalBatchSize requests citr
      requestShapeValues io tensor := by
  rw [runChecks, hin] at h
  cases hshapeIo : tensor.isShapeInferenceIo with
  | true =>
      rw [InputPasses, if_pos hshapeIo]
      simp only [hshapeIo, Bool.not_true, Bool.false_eq_true, if_false, if_true] at h
      cases hvalues : requestShapeValues io with
      | none => rw [hvalues] at h; cases h
      | some values =>
          cases herr : validateShapeValues values (citr.minShapes io) (citr.maxShapes io)
              citr.nbShapeValues with
          | some err => simp only [hvalues, herr, reduceCtorEq] at h
          | none => exact ⟨values, rfl, herr⟩
  | false =>
      rw [InputPasses, if_neg (by simp [hshapeIo])]
      simp only [hshapeIo, Bool.not_true, Bool.false_eq_true, if_false] at h
      cases hshape : runtimeShape lib inst set batchInputShape totalBatchSize requests io
          tensor.name with
      | none => rw [hshape] at h; cases h
      | some shape =>
          refine ⟨shape, rfl, ?_⟩
          rw [← setBindingDimensions_fst]
          cases hset : setBindingDimensions inst setInputShape tensor.name shape citr io key with
          | mk err key' =>
              cases err with
              | none => rfl
              | some err => simp only [hshape, hset, reduceCtorEq] at h

/-- The walk succeeds exactly when every input tensor it visits passes. -/
theorem runChecks_eq_none_iff {io : ℕ} {tensors : List EngineTensor} {key : List ℤ} :
    (runChecks lib inst set batchInputShape setInputShape totalBatchSize requests citr
        requestShapeValues io tensors key).1 = none ↔
      ∀ j tensor, tensors[j]? = some tensor → tensor.isInput = true →
        InputPasses lib inst set batchInputShape setInputShape totalBatchSize requests citr
          requestShapeValues (io + j) tensor := by
  induction tensors generalizing io key with
  | nil => simp [runChecks]
  | cons tensor tensors ih =>
      constructor
      · intro h j t ht hin
        have hhead := inputPasses_of_runChecks h
        rw [runChecks_cons_of_passes hhead] at h
        cases j with
        | zero => cases ht; exact hhead hin
        | succ j =>
            rw [Nat.add_comm j 1, ← Nat.add_assoc]
            exact ih.mp h j t ht hin
      · intro h
        have hhead := h 0 tensor rfl
        rw [Nat.add_zero] at hhead
        rw [runChecks_cons_of_passes hhead]
        refine ih.mpr fun j t ht hin => ?_
        rw [Nat.add_assoc, Nat.add_comm 1 j]
        exact h (j + 1) t ht hin

theorem passesRunChecks_iff :
    PassesRunChecks lib inst set batchInputShape setInputShape totalBatchSize requests citr
        requestShapeValues ↔
      ∀ io tensor, inst.tensors[io]? = some tensor → tensor.isInput = true →
        InputPasses lib inst set batchInputShape setInputShape totalBatchSize requests citr
          requestShapeValues io tensor := by
  rw [PassesRunChecks, runChecks_eq_none_iff]
  simp only [Nat.zero_add]

/-- The shapes of the execution inputs from binding `io` on, in binding order. -/
def runtimeShapes (lib : BackendCommon) (inst : Instance) (set : ℕ)
    (batchInputShape : BatchInput → Option (List ℤ)) (totalBatchSize : ℕ)
    (requests : List Request) : ℕ → List EngineTensor → List (List ℤ)
  | _, [] => []
  | io, tensor :: tensors =>
      let shapes := runtimeShapes lib inst set batchInputShape totalBatchSize requests (io + 1) tensors
      if tensor.isInput && !tensor.isShapeInferenceIo then
        (runtimeShape lib inst set batchInputShape totalBatchSize requests io
          tensor.name).getD [] :: shapes
      else shapes

/-- **The key of a completed walk**: the shapes of the execution inputs, appended in order. -/
theorem runChecks_key {io : ℕ} {tensors : List EngineTensor} {key : List ℤ}
    (h : (runChecks lib inst set batchInputShape setInputShape totalBatchSize requests citr
      requestShapeValues io tensors key).1 = none) :
    (runChecks lib inst set batchInputShape setInputShape totalBatchSize requests citr
        requestShapeValues io tensors key).2 =
      key ++ (runtimeShapes lib inst set batchInputShape totalBatchSize requests io
        tensors).flatten := by
  induction tensors generalizing io key with
  | nil => simp [runChecks, runtimeShapes]
  | cons tensor tensors ih =>
      have hhead := inputPasses_of_runChecks h
      rw [runChecks_cons_of_passes hhead] at h ⊢
      rw [ih h, runtimeShapes, bindingShape, List.append_assoc]
      split
      · rw [List.flatten_cons]
      · rw [List.nil_append]

end Walk

end TensorrtBackend

import TensorrtBackend.InputFit
import TensorrtBackend.Lib.Accesses

/-!
# The entries `ConfigureInputDimensions` accesses

`ConfigureInputDimensions` reads the first of the dims it is given before anything has been checked.
`InitializeExecuteInputBinding` puts the batch dimension there, but only when the model batches; a
scalar input has no dims otherwise, and `CompareDimsSupported` accepts it.

* `configureInputDimensionsAccessing_result`: forgetting the accesses gives
  `configureInputDimensions`, where there are dims; where there are none the process dies.
* `configureInputDimensions_safe_iff`: when all entries accessed are there.
-/

namespace TensorrtBackend

open Checked Accessing

/-! ### The functions with their accesses -/

/-- `ValidateDimension<std::vector<int64_t>>` with its accesses. -/
def validateDimensionVecAccessing (thisDims : List ℤ) (minDims maxDims : Dims)
    (skipFirstDimension : Bool) : Accessing Failure (Option Error) :=
  let nonbatchStartIdx := if skipFirstDimension then 1 else 0
  if thisDims.length ≠ maxDims.nbDims + nonbatchStartIdx then
    pure (errorNew .invalidArg ("model expected " ++ toString (maxDims.nbDims + nonbatchStartIdx) ++
      " dimensions but received " ++ toString thisDims.length ++ " dimensions"))
  else
    Accessing.findSome (fun i => do
      if (← read thisDims i 0) = -1 then pure none
      else
        let d ← read thisDims (i + nonbatchStartIdx) 0
        if d < minDims.dim i ∨ d > maxDims.dim i then
          pure (errorNew .invalidArg ("model expected the shape of dimension " ++
            toString (i + nonbatchStartIdx) ++ " to be between " ++ toString (minDims.dim i) ++
            " and " ++ toString (maxDims.dim i) ++ " but received " ++ toString d))
        else pure none) (List.range maxDims.nbDims)

/-- `MaximumDims` with its accesses; the entries of the result are appended. -/
def maximumDimsAccessing (maxProfileDims : Dims) (dims : List ℤ) : Accessing Failure (List ℤ) :=
  let notMaximized (reason : String) : Failure := .returned ⟨.invalidArg,
    "can not maximize dimension " ++ shapeToString dims ++ " to " ++
      dimsDebugString maxProfileDims ++ reason⟩
  if maxProfileDims.nbDims ≠ dims.length then
    lift (.error (notMaximized " due to  incompatibility."))
  else
    Accessing.map (fun i => do
      let d ← read dims i 0
      if d = wildcardDim then pure (maxProfileDims.dim i)
      else if d ≤ maxProfileDims.dim i then pure d
      else lift (.error (notMaximized " due to incompatibility."))) (List.range dims.length)

/-- `DimVecToDims` with its accesses. -/
def dimVecToDimsAccessing (dimVec : List ℤ) (dims : Dims) : Accessing Failure (Option Dims) := do
  if dimVec.length ≤ maxDimsCount then
    let _ ← Accessing.map (fun i => read dimVec i 0) (List.range dimVec.length)
    pure (dimVecToDims dimVec dims)
  else pure (dimVecToDims dimVec dims)

/-- The batch dimension is put aside while the dims are checked. -/
def putAsideBatchDim (supportBatching : Bool) (fullConfigDims : List ℤ) :
    Accessing Failure (List ℤ) :=
  if supportBatching then write fullConfigDims 0 (-1) else pure fullConfigDims

/-- The batch dimension limits the first of the maximum dims. -/
def limitBatchDim (supportBatching : Bool) (batchDim : ℤ) (maximumDims : List ℤ) :
    Accessing Failure (List ℤ) :=
  if supportBatching ∧ batchDim ≠ -1 then do
    let first ← read maximumDims 0 0
    write maximumDims 0 (min first batchDim)
  else pure maximumDims

/-- `ConfigureInputDimensions` with its accesses to `full_config_dims` and `maximum_dims`. -/
def configureInputDimensionsAccessing (loader : Loader) (set : ℕ) (ctx : TensorRTContext) (io : ℕ)
    (tensorName : String) (fullConfigDims : List ℤ) :
    Accessing Failure (TensorRTContext × List ℤ) := do
  let batchDim ← read fullConfigDims 0 0
  let dims ← putAsideBatchDim loader.supportBatching fullConfigDims
  match ← validateDimensionVecAccessing dims (ctx.minDims io) (ctx.maxDims io) false with
  | some err => lift (.error (.returned ⟨.invalidArg,
      "model configuration specified invalid shape for input '" ++ tensorName ++ "' for model " ++
        loader.config.name ++ ". Error details: " ++ err.message⟩))
  | none =>
      let maximum ← maximumDimsAccessing (ctx.maxDims io) dims
      let maximum ← limitBatchDim loader.supportBatching batchDim maximum
      let _ ← dimVecToDimsAccessing maximum (ctx.maxDims io)
      let ctx := ctx.setMaxDims io maximum
      lift (failIf ((loader.calls set).setInputShape ctx.profileIdx io (ctx.maxDims io) = false)
        (.returned ⟨.internal, "trt failed to set binding dimension to " ++
          dimsDebugString (ctx.maxDims io) ++ " for input '" ++ tensorName ++ "' for " ++
          loader.name⟩))
      pure (ctx, maximum)

/-! ### Forgetting the accesses -/

theorem validateDimensionVecAccessing_result (thisDims : List ℤ) (minDims maxDims : Dims)
    (skipFirstDimension : Bool) :
    (validateDimensionVecAccessing thisDims minDims maxDims skipFirstDimension).result =
      .ok (validateDimensionVec thisDims minDims maxDims skipFirstDimension) := by
  simp only [validateDimensionVecAccessing, validateDimensionVec, result_ite, result_pure]
  rw [apply_ite Except.ok]
  congr 1
  refine result_findSome (fun i => ?_) (List.range maxDims.nbDims)
  simp only [result_bind, result_read, result_ite, result_pure, apply_ite Except.ok]
  rfl

theorem maximumDimsAccessing_result (maxProfileDims : Dims) (dims : List ℤ) :
    (maximumDimsAccessing maxProfileDims dims).result = maximumDims maxProfileDims dims := by
  simp only [maximumDimsAccessing, maximumDims, result_ite, result_lift]
  congr 1
  refine result_map (fun i => ?_) (List.range dims.length)
  simp only [result_bind, result_read, result_ite, result_pure, result_lift]
  rfl

theorem dimVecToDimsAccessing_result (dimVec : List ℤ) (dims : Dims) :
    (dimVecToDimsAccessing dimVec dims).result = .ok (dimVecToDims dimVec dims) := by
  have hread : ∀ i, (read dimVec i 0 : Accessing Failure ℤ).result = .ok (dimVec.getD i 0) :=
    fun _ => rfl
  obtain ⟨entries, hentries⟩ : ∃ entries, (List.range dimVec.length).mapM
      (fun i => (.ok (dimVec.getD i 0) : Result ℤ)) = .ok entries :=
    exists_mapM_eq_ok fun i _ => ⟨dimVec.getD i 0, rfl⟩
  unfold dimVecToDimsAccessing
  split
  · rw [result_bind, result_map hread, hentries]
    rfl
  · rfl

/-- `std::min` on the first entry, as a read and a write. -/
theorem modify_zero_eq_set (l : List ℤ) (f : ℤ → ℤ) : l.modify 0 f = l.set 0 (f (l.getD 0 0)) := by
  cases l with
  | nil => rfl
  | cons a l => rfl

/-- **Forgetting the accesses** gives the function on the dims that have a first entry. -/
theorem configureInputDimensionsAccessing_result (loader : Loader) (set : ℕ) (ctx : TensorRTContext)
    (io : ℕ) (tensorName : String) {full : List ℤ} (hfull : full ≠ []) :
    (configureInputDimensionsAccessing loader set ctx io tensorName full).result =
      configureInputDimensions loader set ctx io tensorName full := by
  obtain ⟨batchDim, dims, rfl⟩ := List.exists_cons_of_ne_nil hfull
  have hdims : (putAsideBatchDim loader.supportBatching (batchDim :: dims)).result =
      .ok (if loader.supportBatching then (batchDim :: dims).set 0 (-1) else batchDim :: dims) := by
    rw [putAsideBatchDim, result_ite, apply_ite Except.ok]
    rfl
  have hlimit : ∀ maximum,
      (limitBatchDim loader.supportBatching ((batchDim :: dims).getD 0 0) maximum).result =
        .ok (if loader.supportBatching ∧ batchDim ≠ -1 then
          maximum.modify 0 fun d => min d batchDim else maximum) := by
    intro maximum
    rw [List.getD_cons_zero, limitBatchDim, result_ite, apply_ite Except.ok, modify_zero_eq_set]
    rfl
  unfold configureInputDimensionsAccessing configureInputDimensions
  rw [result_bind, result_read]
  show (putAsideBatchDim loader.supportBatching (batchDim :: dims) >>= _).result = _
  rw [result_bind, hdims]
  show (validateDimensionVecAccessing _ _ _ false >>= _).result = _
  rw [result_bind, validateDimensionVecAccessing_result]
  simp only [orCrash, firstDim]
  cases hvalid : validateDimensionVec
      (if loader.supportBatching then (batchDim :: dims).set 0 (-1) else batchDim :: dims)
      (ctx.minDims io) (ctx.maxDims io) false with
  | some err => rfl
  | none =>
      show (maximumDimsAccessing _ _ >>= _).result = _
      simp only [result_bind, maximumDimsAccessing_result, hlimit, dimVecToDimsAccessing_result,
        result_lift, result_pure]
      rfl

/-- Without dims the process dies. -/
theorem configureInputDimensions_nil (loader : Loader) (set : ℕ) (ctx : TensorRTContext) (io : ℕ)
    (tensorName : String) :
    configureInputDimensions loader set ctx io tensorName [] = .error (.crashed .invalidRead) := rfl

/-! ### Safety -/

theorem validateDimensionVecAccessing_safe (thisDims : List ℤ) (minDims maxDims : Dims)
    (skipFirstDimension : Bool) :
    Safe (validateDimensionVecAccessing thisDims minDims maxDims skipFirstDimension) := by
  refine safe_ite (fun _ => safe_pure _) fun hlength => safe_findSome fun i hi => ?_
  have hi' := List.mem_range.mp hi
  rw [not_not] at hlength
  refine safe_bind.mpr ⟨safe_read.mpr (by omega), fun first _ => ?_⟩
  refine safe_ite (fun _ => safe_pure none) fun _ => ?_
  refine safe_bind.mpr ⟨safe_read.mpr (by omega), fun d _ => ?_⟩
  exact safe_ite (fun _ => safe_pure _) fun _ => safe_pure none

theorem maximumDimsAccessing_safe (maxProfileDims : Dims) (dims : List ℤ) :
    Safe (maximumDimsAccessing maxProfileDims dims) := by
  refine safe_ite (fun _ => safe_lift _) fun _ => safe_map fun i hi => ?_
  refine safe_bind.mpr ⟨safe_read.mpr (List.mem_range.mp hi), fun d _ => ?_⟩
  refine safe_ite (fun _ => safe_pure _) fun _ => ?_
  exact safe_ite (fun _ => safe_pure d) fun _ => safe_lift _

theorem dimVecToDimsAccessing_safe (dimVec : List ℤ) (dims : Dims) :
    Safe (dimVecToDimsAccessing dimVec dims) := by
  refine safe_ite (fun _ => ?_) fun _ => safe_pure _
  refine safe_bind.mpr ⟨safe_map fun i hi => ?_, fun _ _ => safe_pure _⟩
  exact safe_read.mpr (List.mem_range.mp hi)

/-- There are as many maximum dims as dims. -/
theorem maximumDims_length {maxProfileDims : Dims} {dims maximum : List ℤ}
    (h : maximumDims maxProfileDims dims = .ok maximum) : maximum.length = dims.length := by
  unfold maximumDims at h
  simp only at h
  split at h
  · exact nomatch h
  · have hforall := mapM_eq_ok.mp h
    rw [← hforall.length_eq, List.length_range]

/-- The function is safe on the dims that have a first entry. -/
theorem configureInputDimensionsAccessing_safe_iff {loader : Loader} {set : ℕ}
    {ctx : TensorRTContext} {io : ℕ} {tensorName : String} {full : List ℤ} :
    Safe (configureInputDimensionsAccessing loader set ctx io tensorName full) ↔ full ≠ [] := by
  constructor
  · intro hsafe
    have hread := safe_read.mp (safe_bind.mp hsafe).1
    exact List.length_pos_iff.mp hread
  · intro hne
    have hpos := List.length_pos_iff.mpr hne
    refine safe_bind.mpr ⟨safe_read.mpr hpos, fun batchDim _ => ?_⟩
    refine safe_bind.mpr ⟨?_, fun dims hdims => ?_⟩
    · exact safe_ite (fun _ => safe_write.mpr hpos) fun _ => safe_pure full
    have hlength : dims.length = full.length := by
      rw [putAsideBatchDim, result_ite] at hdims
      split at hdims
      · rw [← Except.ok.inj hdims, List.length_set]
      · rw [← Except.ok.inj hdims]
    refine safe_bind.mpr ⟨validateDimensionVecAccessing_safe _ _ _ _, fun found _ => ?_⟩
    cases found with
    | some err => exact safe_lift _
    | none =>
        refine safe_bind.mpr ⟨maximumDimsAccessing_safe _ _, fun maximum hmaximum => ?_⟩
        rw [maximumDimsAccessing_result] at hmaximum
        have hmax : 0 < maximum.length := by
          rw [maximumDims_length hmaximum, hlength]
          exact hpos
        refine safe_bind.mpr ⟨?_, fun limited _ => ?_⟩
        · refine safe_ite (fun _ => ?_) fun _ => safe_pure maximum
          exact safe_bind.mpr ⟨safe_read.mpr hmax, fun _ _ => safe_write.mpr hmax⟩
        refine safe_bind.mpr ⟨dimVecToDimsAccessing_safe _ _, fun _ _ => ?_⟩
        exact safe_bind.mpr ⟨safe_lift _, fun _ _ => safe_pure _⟩

/-- Dims that agree with those of a tensor are as many as its rank, or one less when the model
batches. -/
theorem compareDimsSupported_rank {modelName tensorName : String} {modelDims : Dims}
    {dims : List ℤ} {supportsBatching : Bool}
    (h : compareDimsSupported modelName tensorName modelDims dims supportsBatching false = none)
    (hbatch : supportsBatching = false) : modelDims.nbDims = dims.length := by
  subst hbatch
  unfold compareDimsSupported at h
  simp only [Bool.false_eq_true, if_false] at h
  split at h
  · rename_i hagree
    exact (dimsAgree_eq_true.mp hagree).1
  · exact nomatch h

/-- **The entries `ConfigureInputDimensions` accesses.** On dims that were compared with the
engine, or for a ragged input, it accesses existing entries exactly when the model batches, the
input is ragged or the tensor is no scalar. -/
theorem configureInputDimensions_safe_iff {loader : Loader} {set : ℕ} {ctx : TensorRTContext}
    {io : ℕ} {t : BoundTensor} {inputDims : List ℤ} {isRagged : Bool}
    {batchInput : Option BatchInput}
    (hdims : isRagged = false → compareDimsSupported loader.config.name t.name t.shape inputDims
      loader.supportBatching false = none) :
    Safe (configureInputDimensionsAccessing loader set ctx io t.name
        (fullConfigDim loader inputDims isRagged batchInput)) ↔
      isRagged = true ∨ loader.supportBatching = true ∨ t.shape.nbDims ≠ 0 := by
  rw [configureInputDimensionsAccessing_safe_iff, fullConfigDim]
  cases hragged : isRagged with
  | true => simp
  | false =>
      cases hbatch : loader.supportBatching with
      | true => simp
      | false =>
          have hrank := compareDimsSupported_rank (hdims hragged) hbatch
          simp [hrank]

/-! ### A scalar and a vector -/

/-- An input of a model that does not batch. -/
def unbatchedTensor (shape : Dims) : BoundTensor where
  name := "x"
  isInput := true
  shape := shape
  components_pos := linear_components_pos

/-- A loader of that model, with the entry auto-completion makes of the input. -/
def unbatchedLoader (shape : Dims) (hshape : ∀ x ∈ shape.d, 0 ≤ x) : Loader where
  name := "unbatched"
  config := { input := some [refIo 0 { name := "x", isInput := true, shape := shape }] }
  tensors := [unbatchedTensor shape]
  trtContexts := [{
    dims := [{ minDims := shape, maxDims := shape, optDims := shape, min_rank := rfl, opt_rank := rfl,
               min_nonneg := Dims.forall_dim (le_refl 0) hshape }]
    isDynamicPerBinding := [false] }]
  configDataType := fun s => if s = "TYPE_FP32" then .fp32 else .invalid
  contexts_ne := List.cons_ne_nil _ _

/-- A vector of three numbers. -/
def vectorLoader : Loader := unbatchedLoader (vectorDims 3) (by decide)

/-- One number. -/
def scalarLoader : Loader := unbatchedLoader (Dims.ofList [] (by decide)) (by decide)

theorem configureInputDimensions_safe_vector :
    Safe (configureInputDimensionsAccessing vectorLoader 0 (vectorLoader.trtContexts.headD default) 0
      "x" (fullConfigDim vectorLoader [3] false none)) :=
  (configureInputDimensions_safe_iff (t := unbatchedTensor (vectorDims 3))
    fun _ => by decide).mpr (Or.inr (Or.inr (by decide)))

/-- The entry that auto-completion makes of a scalar is reshaped to no dims and accepted, and the
load dies at the read of `full_config_dims[0]`, which is not there. -/
theorem configureInputDimensions_unsafe_scalar :
    (∃ io ∈ scalarLoader.config.ios true, io.usedDims = .ok []) ∧
      compareDimsSupported scalarLoader.config.name "x" (Dims.ofList [] (by decide)) []
        scalarLoader.supportBatching false = none ∧
      ¬ Safe (configureInputDimensionsAccessing scalarLoader 0
        (scalarLoader.trtContexts.headD default) 0 "x"
        (fullConfigDim scalarLoader [] false none)) ∧
      initIoBindingBuffers BackendCommon.plain scalarLoader = .error (.crashed .invalidRead) := by
  refine ⟨⟨_, List.mem_singleton.mpr rfl, by decide⟩, by decide, fun hsafe => ?_, rfl⟩
  exact configureInputDimensionsAccessing_safe_iff.mp hsafe rfl

end TensorrtBackend

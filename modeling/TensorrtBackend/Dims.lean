import TensorrtBackend.Basic

/-!
# Dimensions and their validation

`nvinfer1::Dims` is a count together with a fixed array of `MAX_DIMS` entries, so reading `d[i]`
past `nbDims` is a read of the array, not a fault.  The two overloads of `ValidateDimension` are
kept apart as the source has them: the template works on the request's `int64_t` vector and lets a
`-1` entry pass, the other works on `Dims` and compares every entry.
-/

namespace TensorrtBackend

/-- `nvinfer1::Dims::MAX_DIMS`. -/
def maxDimsCount : ℕ := 8

/-- `nvinfer1::Dims`. -/
structure Dims where
  nbDims : ℕ
  d : List ℤ
  d_length : d.length = maxDimsCount
  nbDims_le : nbDims ≤ maxDimsCount
  deriving DecidableEq

/-- The value-initialised `Dims`. -/
instance : Inhabited Dims := ⟨⟨0, List.replicate maxDimsCount 0, rfl, by decide⟩⟩

/-- The array entry `d[i]`. -/
def Dims.dim (dims : Dims) (i : ℕ) : ℤ := dims.d.getD i 0

/-- The assignment `d[i] = v`. -/
def Dims.setDim (dims : Dims) (i : ℕ) (v : ℤ) : Dims :=
  { dims with d := dims.d.set i v, d_length := by simp [dims.d_length] }

/-- The dims with the given entries. -/
def Dims.ofList (l : List ℤ) (h : l.length ≤ maxDimsCount) : Dims where
  nbDims := l.length
  d := l ++ List.replicate (maxDimsCount - l.length) 0
  d_length := by rw [List.length_append, List.length_replicate]; omega
  nbDims_le := h

/-- `DimsToDimVec`. -/
def dimsToDimVec (modelDims : Dims) : List ℤ := modelDims.d.take modelDims.nbDims

/-- `DimVecToDims`: fails on more than `MAX_DIMS` entries and narrows each entry to `int`; the
array beyond the new count keeps what `dims` held. -/
def dimVecToDims (dimVec : List ℤ) (dims : Dims) : Option Dims :=
  if h : dimVec.length ≤ maxDimsCount then
    some
      { nbDims := dimVec.length
        d := dimVec.map toInt32 ++ dims.d.drop dimVec.length
        d_length := by simp only [List.length_append, List.length_map, List.length_drop,
          dims.d_length]; omega
        nbDims_le := h }
  else none

/-- `ContainsWildcard`. -/
def containsWildcard (dims : Dims) : Bool :=
  (List.range dims.nbDims).any fun i => dims.dim i = wildcardDim

/-- `DimsDebugString`. -/
def dimsDebugString (dims : Dims) : String := shapeToString (dimsToDimVec dims)

/-- `ValidateDimension<std::vector<int64_t>>`. -/
def validateDimensionVec (thisDims : List ℤ) (minDims maxDims : Dims)
    (skipFirstDimension : Bool) : Option Error :=
  let nonbatchStartIdx := if skipFirstDimension then 1 else 0
  if thisDims.length ≠ maxDims.nbDims + nonbatchStartIdx then
    errorNew .invalidArg ("model expected " ++ toString (maxDims.nbDims + nonbatchStartIdx) ++
      " dimensions but received " ++ toString thisDims.length ++ " dimensions")
  else
    (List.range maxDims.nbDims).findSome? fun i =>
      if thisDims.getD i 0 = -1 then none
      else if thisDims.getD (i + nonbatchStartIdx) 0 < minDims.dim i ∨
          thisDims.getD (i + nonbatchStartIdx) 0 > maxDims.dim i then
        errorNew .invalidArg ("model expected the shape of dimension " ++
          toString (i + nonbatchStartIdx) ++ " to be between " ++ toString (minDims.dim i) ++
          " and " ++ toString (maxDims.dim i) ++ " but received " ++
          toString (thisDims.getD (i + nonbatchStartIdx) 0))
      else none

/-- `ValidateDimension` on `nvinfer1::Dims`. -/
def validateDimension (thisDims minDims maxDims : Dims) : Option Error :=
  if thisDims.nbDims ≠ maxDims.nbDims then
    errorNew .internal ("model expected " ++ toString maxDims.nbDims ++
      " dimensions but received " ++ toString thisDims.nbDims ++ " dimensions")
  else
    (List.range thisDims.nbDims).findSome? fun i =>
      if thisDims.dim i < minDims.dim i ∨ thisDims.dim i > maxDims.dim i then
        errorNew .internal ("model expected the shape of dimension " ++ toString i ++
          " to be between " ++ toString (minDims.dim i) ++ " and " ++ toString (maxDims.dim i) ++
          " but received " ++ toString (thisDims.dim i))
      else none

/-- The dims agree in rank and, where both are known or `compare_exact` is set, in every entry. -/
def dimsAgree (modelDims : Dims) (dims : List ℤ) (compareExact : Bool) : Bool :=
  decide (modelDims.nbDims = dims.length) && (List.range dims.length).all fun i =>
    if compareExact ∨ modelDims.dim i ≠ -1 ∧ dims.getD i 0 ≠ -1 then
      decide (modelDims.dim i = dims.getD i 0)
    else true

/-- `CompareDimsSupported`. -/
def compareDimsSupported (modelName tensorName : String) (modelDims : Dims) (dims : List ℤ)
    (supportsBatching compareExact : Bool) : Option Error :=
  if supportsBatching then
    if modelDims.nbDims = 0 then
      errorNew .invalidArg ("model '" ++ modelName ++ "', tensor '" ++ tensorName ++
        "': for the model to support batching the shape should have at least 1 dimension; " ++
        "but shape expected by the model is " ++ dimsDebugString modelDims)
    else if dimsAgree modelDims (wildcardDim :: dims) compareExact then none
    else
      errorNew .invalidArg ("model '" ++ modelName ++ "', tensor '" ++ tensorName ++
        "': the model expects " ++ toString modelDims.nbDims ++ " dimensions (shape " ++
        dimsDebugString modelDims ++ ") but the model configuration specifies " ++
        toString (wildcardDim :: dims).length ++ " dimensions (an initial batch dimension because " ++
        "max_batch_size > 0 followed by the explicit tensor shape, making complete shape " ++
        shapeToString (wildcardDim :: dims) ++ ")")
  else if dimsAgree modelDims dims compareExact then none
  else
    errorNew .invalidArg ("model '" ++ modelName ++ "', tensor '" ++ tensorName ++
      "': the model expects " ++ toString modelDims.nbDims ++ " dimensions (shape " ++
      dimsDebugString modelDims ++ ") but the model configuration specifies " ++
      toString dims.length ++ " dimensions (shape " ++ shapeToString dims ++ ")")

/-- `CompareShapeDimsSupported`. -/
def compareShapeDimsSupported (modelName tensorName : String) (modelDims : Dims) (dims : List ℤ)
    (supportsBatching : Bool) : Option Error :=
  let batchOffset : ℤ := if supportsBatching then 1 else 0
  let notSupported := errorNew .internal ("unable to load model '" ++ modelName ++ "', binding '" ++
    tensorName ++ "' shape expected by framework " ++ dimsDebugString modelDims ++
    " doesn't match model configuration shape " ++ shapeToString dims)
  if dims.length ≠ modelDims.nbDims then notSupported
  else if modelDims.nbDims = 1 then
    if dims.headD 0 + batchOffset ≠ modelDims.dim 0 ∨ dims.headD 0 = wildcardDim then notSupported
    else none
  else if 1 < modelDims.nbDims then
    errorNew .internal ("unable to load model '" ++ modelName ++ "', shape binding '" ++ tensorName ++
      "' can only be 0-d or 1-D tensor, got " ++ dimsDebugString modelDims)
  else none

/-- `ValidateControlDimsDynamic`. -/
def validateControlDimsDynamic (dims : Dims) (supportBatching : Bool) : Option Error :=
  let expectedFirstShape : ℤ := if supportBatching then -1 else 1
  if dims.dim 0 ≠ expectedFirstShape then
    errorNew .internal ("expects the first dimension to be " ++ toString expectedFirstShape ++
      " but the model specified " ++ toString (dims.dim 0))
  else if (List.range dims.nbDims).any fun i => i ≠ 0 ∧ dims.dim i ≠ 1 then
    errorNew .internal ("expects all dimensions (conditionally first) to be 1 but the model " ++
      "specified shape " ++ dimsDebugString dims)
  else none

/-! ### Entries and vectors -/

/-- What holds of `0` and of the whole array holds of every read. -/
theorem Dims.forall_dim {p : ℤ → Prop} {dims : Dims} (h₀ : p 0) (h : ∀ x ∈ dims.d, p x) (i : ℕ) :
    p (dims.dim i) := by
  rw [Dims.dim, List.getD_eq_getElem?_getD]
  by_cases hi : i < dims.d.length
  · rw [List.getElem?_eq_getElem hi]
    exact h _ (List.getElem_mem hi)
  · rw [List.getElem?_eq_none (not_lt.mp hi)]
    exact h₀

theorem dimsToDimVec_length (dims : Dims) : (dimsToDimVec dims).length = dims.nbDims := by
  rw [dimsToDimVec, List.length_take, dims.d_length]
  exact Nat.min_eq_left dims.nbDims_le

theorem dimsToDimVec_getD {dims : Dims} {i : ℕ} (hi : i < dims.nbDims) :
    (dimsToDimVec dims).getD i 0 = dims.dim i := by
  rw [dimsToDimVec, Dims.dim, List.getD_eq_getElem?_getD, List.getD_eq_getElem?_getD,
    List.getElem?_take_of_lt hi]

theorem dimVecToDims_isSome (dimVec : List ℤ) (dims : Dims) :
    (dimVecToDims dimVec dims).isSome ↔ dimVec.length ≤ maxDimsCount := by
  unfold dimVecToDims
  split <;> simp_all

theorem dimVecToDims_nbDims {dimVec : List ℤ} {dims out : Dims}
    (h : dimVecToDims dimVec dims = some out) : out.nbDims = dimVec.length := by
  unfold dimVecToDims at h
  split at h
  · cases h; rfl
  · cases h

theorem dimVecToDims_dim {dimVec : List ℤ} {dims out : Dims}
    (h : dimVecToDims dimVec dims = some out) {i : ℕ} (hi : i < dimVec.length) :
    out.dim i = toInt32 (dimVec.getD i 0) := by
  unfold dimVecToDims at h
  split at h
  · cases h
    simp only [Dims.dim, List.getD_eq_getElem?_getD]
    rw [List.getElem?_append_left (by simpa using hi)]
    simp [hi]
  · cases h

/-! ### When validation succeeds -/

/-- The template accepts exactly the vectors of the right length whose entries are `-1` or in
range. -/
theorem validateDimensionVec_eq_none_iff {thisDims : List ℤ} {minDims maxDims : Dims} :
    validateDimensionVec thisDims minDims maxDims false = none ↔
      thisDims.length = maxDims.nbDims ∧ ∀ i < maxDims.nbDims, thisDims.getD i 0 = -1 ∨
        minDims.dim i ≤ thisDims.getD i 0 ∧ thisDims.getD i 0 ≤ maxDims.dim i := by
  simp only [validateDimensionVec, Bool.false_eq_true, if_false, Nat.add_zero, check_eq_none_iff,
    not_not, List.findSome?_eq_none_iff, List.mem_range]
  refine and_congr_right fun _ => forall₂_congr fun i _ => ?_
  by_cases hwild : thisDims.getD i 0 = -1
  · rw [if_pos hwild]
    exact ⟨fun _ => Or.inl hwild, fun _ => rfl⟩
  · rw [if_neg hwild, rangeCheck_eq_none_iff, or_iff_right hwild]

/-- The overload on `Dims` accepts exactly the dims of the right rank with every entry in range. -/
theorem validateDimension_eq_none_iff {thisDims minDims maxDims : Dims} :
    validateDimension thisDims minDims maxDims = none ↔
      thisDims.nbDims = maxDims.nbDims ∧ ∀ i < thisDims.nbDims,
        minDims.dim i ≤ thisDims.dim i ∧ thisDims.dim i ≤ maxDims.dim i := by
  rw [validateDimension, check_eq_none_iff, not_not]
  simp only [List.findSome?_eq_none_iff, List.mem_range, rangeCheck_eq_none_iff]

/-! ### When the dims of the configuration are supported -/

theorem dimsAgree_eq_true {modelDims : Dims} {dims : List ℤ} :
    dimsAgree modelDims dims false = true ↔ modelDims.nbDims = dims.length ∧
      ∀ i < dims.length, modelDims.dim i = -1 ∨ dims.getD i 0 = -1 ∨
        modelDims.dim i = dims.getD i 0 := by
  rw [dimsAgree, Bool.and_eq_true, decide_eq_true_eq, List.all_eq_true]
  simp only [List.mem_range]
  refine and_congr_right fun _ => forall₂_congr fun i _ => ?_
  split
  · rename_i hknown
    obtain ⟨hmodel, hdim⟩ := hknown.resolve_left Bool.false_ne_true
    rw [decide_eq_true_eq, or_iff_right hmodel, or_iff_right hdim]
  · rename_i hwild
    refine iff_of_true rfl ?_
    by_contra hne
    simp only [not_or] at hne
    exact hwild (Or.inr ⟨hne.1, hne.2.1⟩)

end TensorrtBackend

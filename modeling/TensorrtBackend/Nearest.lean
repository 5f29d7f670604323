import Mathlib.Data.List.GetD
import TensorrtBackend.Profile

/-!
# Which profile is the nearest

For a batch of ordinary execution inputs the evaluation of a context is a closed formula: it is
rejected when some shape is out of range, and otherwise its distance is the sum over the inputs of
`misalignedDistance`, which compares each opt dim after the first with the *preceding* entry of the
shape.  The Manhattan distance the selection is meant to minimise compares equal positions.

* `getMostOptimizedProfile_misaligned`: the selected context is the nearest one in the misaligned
  distance, ties going to the lowest profile index.
* `getMostOptimizedProfile_nearest_iff`: it is the nearest one in the Manhattan distance exactly
  when shifting the shape by one position leaves the nearest context the nearest.
-/

namespace TensorrtBackend

/-- `Σ_j |opt_dims.d[j] - shape[j]|` over all dimension positions. -/
def manhattanDistance (optDims : Dims) (shape : List ℤ) : ℤ :=
  ((List.range optDims.nbDims).map fun j => |optDims.dim j - shape.getD j 0|).sum

/-- `|opt_dims.d[0] - total_batch_size| + Σ_{j ≥ 1} |opt_dims.d[j] - shape[j-1]|`. -/
def misalignedDistance (optDims : Dims) (shape : List ℤ) (totalBatchSize : ℕ) : ℤ :=
  |optDims.dim 0 - totalBatchSize| +
    ((List.range (optDims.nbDims - 1)).map fun j => |optDims.dim (j + 1) - shape.getD j 0|).sum

theorem inputDistance_eq_misaligned (optDims : Dims) (shape : List ℤ) (totalBatchSize : ℕ) :
    inputDistance optDims shape totalBatchSize =
      misalignedDistance optDims shape totalBatchSize := by
  rw [inputDistance, foldl_add_eq_sum, misalignedDistance, List.range'_eq_map_range, List.map_map]
  refine congrArg (fun l : List ℤ => _ + l.sum) (List.map_congr_left fun j _ => ?_)
  show |optDims.dim (1 + j) - shape.getD (1 + j - 1) 0| = _
  rw [Nat.add_comm 1 j, Nat.add_sub_cancel]

/-- A shape all of whose entries are the total batch size does not notice the shift. -/
theorem misaligned_eq_manhattan {optDims : Dims} {shape : List ℤ} {totalBatchSize : ℕ}
    (hrank : shape.length = optDims.nbDims) (hne : shape ≠ [])
    (hall : ∀ s ∈ shape, s = totalBatchSize) :
    misalignedDistance optDims shape totalBatchSize = manhattanDistance optDims shape := by
  have hpos : 0 < shape.length := List.length_pos_of_ne_nil hne
  have hget : ∀ j < shape.length, shape.getD j 0 = totalBatchSize := by
    intro j hj
    rw [List.getD_eq_getElem shape 0 hj]
    exact hall _ (List.getElem_mem hj)
  obtain ⟨n, hn⟩ : ∃ n, optDims.nbDims = n + 1 := ⟨optDims.nbDims - 1, by omega⟩
  rw [misalignedDistance, manhattanDistance, hn, Nat.add_sub_cancel, List.range_succ_eq_map,
    List.map_cons, List.sum_cons, List.map_map, hget 0 hpos]
  refine congrArg (fun l : List ℤ => _ + l.sum) (List.map_congr_left fun j hj => ?_)
  have hj' : j < n := List.mem_range.mp hj
  show |optDims.dim (j + 1) - shape.getD j 0| = |optDims.dim (j + 1) - shape.getD (j + 1) 0|
  rw [hget j (by omega), hget (j + 1) (by omega)]

/-! ### A batch of ordinary inputs -/

section Batch

variable (lib : BackendCommon) (inst : Instance) (set : ℕ) (totalBatchSize : ℕ)
  (requests : List Request) (requestShapeValues : ShapeValueMap)

/-- No input is a shape tensor or ragged. -/
def OrdinaryBatch : Prop :=
  ∀ input ∈ batchInputs requests, inst.isShapeInferenceIo input.name = false ∧
    (inst.bindingInfo set (inst.ioIndex input.name)).isBufferRagged = false

/-- The evaluation rejects no input: every shape is in the range of the profile. -/
def NotRejected (c : TensorRTContext) : Prop :=
  ∀ input ∈ batchInputs requests,
    validateDimensionVec (inputShapeVec inst.supportBatching totalBatchSize input.shape)
      (c.minDims (inst.ioIndex input.name)) (c.maxDims (inst.ioIndex input.name)) false = none

/-- The Manhattan distance of a context: all inputs, all dimension positions. -/
def contextManhattan (c : TensorRTContext) : ℤ :=
  ((batchInputs requests).map fun input => manhattanDistance (c.optDims (inst.ioIndex input.name))
    (inputShapeVec inst.supportBatching totalBatchSize input.shape)).sum

/-- The same sum with each shape shifted by one position behind the total batch size. -/
def contextMisaligned (c : TensorRTContext) : ℤ :=
  ((batchInputs requests).map fun input => misalignedDistance (c.optDims (inst.ioIndex input.name))
    (inputShapeVec inst.supportBatching totalBatchSize input.shape) totalBatchSize).sum

/-- `c` is the nearest context in the distance `d` among those not rejected; ties go to the lowest
profile index. -/
def IsNearest (d : TensorRTContext → ℤ) (c : TensorRTContext) : Prop :=
  c ∈ inst.trtContexts ∧ NotRejected inst totalBatchSize requests c ∧
    ∀ c' ∈ inst.trtContexts, NotRejected inst totalBatchSize requests c' →
      d c < d c' ∨ d c = d c' ∧ c.profileIdx ≤ c'.profileIdx

/-- The selection returns the nearest context in the Manhattan distance, when one is acceptable. -/
def SelectsNearest : Prop :=
  (∃ c ∈ inst.trtContexts, NotRejected inst totalBatchSize requests c) →
    IsNearest inst totalBatchSize requests (contextManhattan inst totalBatchSize requests)
      (getMostOptimizedProfile lib inst set (fun _ => .succeed) totalBatchSize requests
        requestShapeValues).2

/-- Shifting every shape by one position leaves the nearest context the nearest. -/
def ShiftKeepsNearest : Prop :=
  ∀ c, IsNearest inst totalBatchSize requests (contextManhattan inst totalBatchSize requests) c →
    IsNearest inst totalBatchSize requests (contextMisaligned inst totalBatchSize requests) c

variable {lib inst set totalBatchSize requests requestShapeValues}

/-- One ordinary input: a range check and the misaligned distance. -/
theorem evaluateInput_ordinary {c : TensorRTContext} {i : ℕ} {input : InputProperties}
    (hshape : inst.isShapeInferenceIo input.name = false)
    (hragged : (inst.bindingInfo set (inst.ioIndex input.name)).isBufferRagged = false) :
    evaluateInput lib inst set .succeed c totalBatchSize requests requestShapeValues i input =
      if validateDimensionVec (inputShapeVec inst.supportBatching totalBatchSize input.shape)
          (c.minDims (inst.ioIndex input.name)) (c.maxDims (inst.ioIndex input.name)) false = none
      then .accepted (misalignedDistance (c.optDims (inst.ioIndex input.name))
        (inputShapeVec inst.supportBatching totalBatchSize input.shape) totalBatchSize)
      else .rejected := by
  simp only [evaluateInput, EvaluateCalls.succeed, hshape, hragged, Bool.false_eq_true, if_false,
    inputDistance_eq_misaligned]
  by_cases h : validateDimensionVec (inputShapeVec inst.supportBatching totalBatchSize input.shape)
      (c.minDims (inst.ioIndex input.name)) (c.maxDims (inst.ioIndex input.name)) false = none
  · simp [h]
  · rw [if_neg h, if_pos (Option.isSome_iff_ne_none.mpr h)]

/-- **The evaluation of a context**: the misaligned distance, or `LLONG_MAX` when rejected. -/
theorem evaluateTensorRTContext_ordinary (hord : OrdinaryBatch inst set requests)
    (c : TensorRTContext) [Decidable (NotRejected inst totalBatchSize requests c)] :
    evaluateTensorRTContext lib inst set .succeed c totalBatchSize requests requestShapeValues =
      (none, if NotRejected inst totalBatchSize requests c
        then contextMisaligned inst totalBatchSize requests c else llongMax) := by
  have hjudge : ∀ i, ∀ input ∈ batchInputs requests,
      evaluateInput lib inst set .succeed c totalBatchSize requests requestShapeValues i input = _ :=
    fun _ input hinput => evaluateInput_ordinary (hord input hinput).1 (hord input hinput).2
  have hloop := evaluateInputs_eq (i := 0) hjudge 0
  rw [zero_add] at hloop
  exact hloop.trans (congrArg (Prod.mk none) (if_congr Iff.rfl rfl rfl))

/-! ### The selected context -/

/-- Two nearest contexts in one distance are the same. -/
theorem IsNearest.unique {d : TensorRTContext → ℤ} {c c' : TensorRTContext}
    (h : IsNearest inst totalBatchSize requests d c)
    (h' : IsNearest inst totalBatchSize requests d c') : c = c' := by
  have hle := h.2.2 c' h'.1 h'.2.1
  have hge := h'.2.2 c h.1 h.2.1
  have hidx : c.profileIdx = c'.profileIdx := by omega
  by_contra hne
  rcases (List.pairwise_iff_getElem.mp inst.contexts_sorted) with hs
  obtain ⟨j, hj, hjc⟩ := List.getElem_of_mem h.1
  obtain ⟨k, hk, hkc⟩ := List.getElem_of_mem h'.1
  rcases Nat.lt_trichotomy j k with hlt | heq | hgt
  · have := hs j k hj hk hlt
    rw [hjc, hkc] at this
    omega
  · subst heq
    exact hne (hjc.symm.trans hkc)
  · have := hs k j hk hj hgt
    rw [hjc, hkc] at this
    omega

/-- A nearest context exists as soon as one is acceptable, whatever the distance. -/
theorem exists_isNearest (d : TensorRTContext → ℤ)
    (h : ∃ c ∈ inst.trtContexts, NotRejected inst totalBatchSize requests c) :
    ∃ c, IsNearest inst totalBatchSize requests d c := by
  classical
  obtain ⟨c, hc, hacc⟩ := h
  set l := inst.trtContexts.filter fun c => NotRejected inst totalBatchSize requests c with hl
  have hmem : ∀ x, x ∈ l ↔ x ∈ inst.trtContexts ∧ NotRejected inst totalBatchSize requests x := by
    intro x
    simp [hl]
  obtain ⟨m, hm⟩ := FirstMin.exists_isFirstMin d (List.ne_nil_of_mem ((hmem c).mpr ⟨hc, hacc⟩))
  have hsorted : l.Pairwise fun x y => x.profileIdx < y.profileIdx :=
    inst.contexts_sorted.sublist List.filter_sublist
  refine ⟨m, ((hmem m).mp hm.mem).1, ((hmem m).mp hm.mem).2, fun c' hc' hacc' => ?_⟩
  exact hm.lt_or_eq hsorted ((hmem c').mpr ⟨hc', hacc'⟩)

/-- **What the selection minimises**: the context it returns is the nearest one in the misaligned
distance. -/
theorem getMostOptimizedProfile_misaligned (hctx : 2 ≤ inst.trtContexts.length)
    (hord : OrdinaryBatch inst set requests)
    (hov : ∀ c ∈ inst.trtContexts, NotRejected inst totalBatchSize requests c →
      contextMisaligned inst totalBatchSize requests c < llongMax)
    (hex : ∃ c ∈ inst.trtContexts, NotRejected inst totalBatchSize requests c) :
    IsNearest inst totalBatchSize requests (contextMisaligned inst totalBatchSize requests)
      (getMostOptimizedProfile lib inst set (fun _ => .succeed) totalBatchSize requests
        requestShapeValues).2 := by
  classical
  set dist := fun c => if NotRejected inst totalBatchSize requests c
    then contextMisaligned inst totalBatchSize requests c else llongMax with hdist
  have hd : ∀ c, (evaluateTensorRTContext lib inst set .succeed c totalBatchSize requests
      requestShapeValues).2 = dist c := by
    intro c
    rw [evaluateTensorRTContext_ordinary hord]
  obtain ⟨c, hc, hacc⟩ := hex
  have hcd : dist c < llongMax := by
    rw [hdist]
    simp only [hacc, if_true]
    exact hov c hc hacc
  obtain ⟨hm, hlt⟩ := (getMostOptimizedProfile_spec hctx hd).2 ⟨c, hc, hcd⟩
  set sel := (getMostOptimizedProfile lib inst set (fun _ => .succeed) totalBatchSize requests
    requestShapeValues).2
  -- The selected context is acceptable: its distance is below that of every rejected one.
  have hsel : NotRejected inst totalBatchSize requests sel := by
    by_contra hrej
    rw [hdist] at hlt
    simp only [hrej, if_false, lt_irrefl] at hlt
  refine ⟨hm.mem, hsel, fun c' hc' hacc' => ?_⟩
  have h := hm.lt_or_eq inst.contexts_sorted hc'
  simp only [hdist, hsel, hacc', if_true] at h
  exact h

/-- **When the selection meets its purpose.**  The selected context is the nearest one in the
Manhattan distance exactly when the nearest context stays the nearest after the shapes are shifted
by one position. -/
theorem getMostOptimizedProfile_nearest_iff (hctx : 2 ≤ inst.trtContexts.length)
    (hord : OrdinaryBatch inst set requests)
    (hov : ∀ c ∈ inst.trtContexts, NotRejected inst totalBatchSize requests c →
      contextMisaligned inst totalBatchSize requests c < llongMax) :
    SelectsNearest lib inst set totalBatchSize requests requestShapeValues ↔
      ShiftKeepsNearest inst totalBatchSize requests := by
  constructor
  · intro hsel c hc
    have hex : ∃ c ∈ inst.trtContexts, NotRejected inst totalBatchSize requests c :=
      ⟨c, hc.1, hc.2.1⟩
    rw [hc.unique (hsel hex)]
    exact getMostOptimizedProfile_misaligned hctx hord hov hex
  · intro hshift hex
    obtain ⟨c, hc⟩ := exists_isNearest (contextManhattan inst totalBatchSize requests) hex
    have hsel : IsNearest inst totalBatchSize requests
        (contextMisaligned inst totalBatchSize requests)
        (getMostOptimizedProfile lib inst set (fun _ => .succeed) totalBatchSize requests
          requestShapeValues).2 := getMostOptimizedProfile_misaligned hctx hord hov hex
    rw [← (hshift c hc).unique hsel]
    exact hc

end Batch

/-! ### Batches of one matrix -/

theorem matrix_ordinary (rows columns : ℤ) :
    OrdinaryBatch (matrixInstance 8 1) 0 (matrixRequests rows columns) := by
  intro input hinput
  have hin : input = { name := "in", shape := [rows, columns] } := List.mem_singleton.mp hinput
  subst hin
  exact ⟨rfl, rfl⟩

/-- The theorem at four rows of four columns, which the first profile fits exactly. -/
theorem getMostOptimizedProfile_nearest_iff_square :
    SelectsNearest BackendCommon.plain (matrixInstance 8 1) 0 4 (matrixRequests 4 4) (fun _ => none) ↔
      ShiftKeepsNearest (matrixInstance 8 1) 4 (matrixRequests 4 4) := by
  refine getMostOptimizedProfile_nearest_iff (by decide) (matrix_ordinary 4 4) ?_
  intro c hc _
  have hc' : c = matrixProfile 0 4 4 ∨ c = matrixProfile 1 4 10 := by
    simpa [matrixInstance] using hc
  rcases hc' with rfl | rfl
  · decide
  · decide

/-- **The slip**: for four rows of ten the profile optimal for exactly that matrix is passed over,
since the ten columns are never compared with its opt dims. -/
theorem getMostOptimizedProfile_not_nearest :
    2 ≤ (matrixInstance 8 1).trtContexts.length ∧
      OrdinaryBatch (matrixInstance 8 1) 0 (matrixRequests 4 10) ∧
      ¬ SelectsNearest BackendCommon.plain (matrixInstance 8 1) 0 4 (matrixRequests 4 10)
        (fun _ => none) := by
  refine ⟨by decide, matrix_ordinary 4 10, fun hsel => ?_⟩
  have hacc₀ : NotRejected (matrixInstance 8 1) 4 (matrixRequests 4 10) (matrixProfile 0 4 4) := by
    unfold NotRejected
    decide
  have hacc₁ : NotRejected (matrixInstance 8 1) 4 (matrixRequests 4 10) (matrixProfile 1 4 10) := by
    unfold NotRejected
    decide
  have hmem₀ : matrixProfile 0 4 4 ∈ (matrixInstance 8 1).trtContexts := by simp [matrixInstance]
  have hmem₁ : matrixProfile 1 4 10 ∈ (matrixInstance 8 1).trtContexts := by simp [matrixInstance]
  have hnear := (hsel ⟨_, hmem₀, hacc₀⟩).2.2 _ hmem₁ hacc₁
  have hpicked : (getMostOptimizedProfile BackendCommon.plain (matrixInstance 8 1) 0
      (fun _ => .succeed) 4 (matrixRequests 4 10) (fun _ => none)).2 = matrixProfile 0 4 4 := by rfl
  rw [hpicked] at hnear
  have hfar : contextManhattan (matrixInstance 8 1) 4 (matrixRequests 4 10)
      (matrixProfile 0 4 4) = 6 := by
    decide
  have hexact : contextManhattan (matrixInstance 8 1) 4 (matrixRequests 4 10)
      (matrixProfile 1 4 10) = 0 := by
    decide
  omega

end TensorrtBackend

import Mathlib.Data.List.GetD
import TensorrtBackend.InputChecks

/-!
# Profile selection against execution

`EvaluateTensorRTContext` judges the inputs of the first request, `Run` the input tensors of the
engine, and the two apply different checks.  On execution inputs they agree as long as no dimension
is narrowed.  On a shape tensor the evaluation also compares the *declared shape* of the input with
the profile dims, which `Run` does not do: with batching the declared shape is `[b, n]`, and no
profile of a shape tensor has two dimensions.

* `selectionAgrees_iff`: selection and execution agree exactly when no context passes `Run`'s checks
  or one of those that do also has room for the declared shapes of the shape tensors.
* `not_shapeTensorsFit_of_batched`: with batching and a shape tensor sent as `[b, n]` no context
  has room for it.
-/

namespace TensorrtBackend

section Batch

variable (lib : BackendCommon) (inst : Instance) (set : ℕ) (totalBatchSize : ℕ)
  (requests : List Request) (requestShapeValues : ShapeValueMap)

/-- What the caller of `Run` and the calls before the selection have established: there is a
request, its inputs are inputs of the engine and start with the batch dimension when the model
supports batching, the shape values were read from it, and no tensor is a batch input. -/
structure BatchReady : Prop where
  nonempty : requests ≠ []
  input_known : ∀ input ∈ batchInputs requests, ∃ (io : ℕ) (tensor : EngineTensor),
    inst.tensors[io]? = some tensor ∧ tensor.name = input.name ∧ tensor.isInput = true
  batch_dim : inst.supportBatching = true → ∀ input ∈ batchInputs requests, input.shape ≠ []
  shape_values : getRequestShapeValues lib inst totalBatchSize (batchInputs requests)
    (fun _ => none) = .ok requestShapeValues
  no_batch_input : ∀ (io : ℕ) (tensor : EngineTensor), inst.tensors[io]? = some tensor →
    tensor.isInput = true → (inst.bindingInfo set io).batchInput = none

/-- `Run`'s checks on a batch without batch inputs, TensorRT accepting every shape. -/
def RunPasses (c : TensorRTContext) : Prop :=
  PassesRunChecks lib inst set (fun _ => none) (fun _ _ => true) totalBatchSize requests c
    requestShapeValues

/-- The summed element count of a ragged input. -/
def raggedSum (input : InputProperties) : ℤ := (raggedShape lib input.name requests).getD 0

/-- The shape an execution input of the batch is judged by. -/
def executionShape (input : InputProperties) : List ℤ :=
  if (inst.bindingInfo set (inst.ioIndex input.name)).isBufferRagged then
    [raggedSum lib requests input]
  else inputShapeVec inst.supportBatching totalBatchSize input.shape

/-- The evaluation of `c` does not reject the input. -/
def Admits (c : TensorRTContext) (input : InputProperties) : Prop :=
  let io := inst.ioIndex input.name
  validateDimensionVec (executionShape lib inst set totalBatchSize requests input) (c.minDims io)
      (c.maxDims io) false = none ∧
    ((inst.bindingInfo set io).isBufferRagged = false → inst.isShapeInferenceIo input.name = true →
      ∃ values, requestShapeValues io = some values ∧
        validateShapeValues values (c.minShapes io) (c.maxShapes io) c.nbShapeValues = none ∧
        (inst.supportBatching = true →
          validateBatchSize totalBatchSize (c.minShapes io) (c.maxShapes io) = true))

/-- The distance the evaluation adds for an input it accepts. -/
def inputTerm (c : TensorRTContext) (input : InputProperties) : ℤ :=
  let io := inst.ioIndex input.name
  if (inst.bindingInfo set io).isBufferRagged then
    |(c.optDims io).dim 0 - raggedSum lib requests input|
  else
    inputDistance (c.optDims io)
        (inputShapeVec inst.supportBatching totalBatchSize input.shape) totalBatchSize +
      if inst.isShapeInferenceIo input.name then
        ((requestShapeValues io).getD default).getDistance (c.optShapes io) totalBatchSize
      else 0

/-- The distance of a context that rejects no input. -/
def contextDistance (c : TensorRTContext) : ℤ :=
  ((batchInputs requests).map
    (inputTerm lib inst set totalBatchSize requests requestShapeValues c)).sum

/-- The declared shape of every shape tensor is in the range of the profile dims, and with batching
the total batch size is in the range of its first shape value. -/
def ShapeTensorsFit (c : TensorRTContext) : Prop :=
  ∀ input ∈ batchInputs requests, inst.isShapeInferenceIo input.name = true →
    validateDimensionVec (inputShapeVec inst.supportBatching totalBatchSize input.shape)
        (c.minDims (inst.ioIndex input.name)) (c.maxDims (inst.ioIndex input.name)) false = none ∧
      (inst.supportBatching = true → validateBatchSize totalBatchSize
        (c.minShapes (inst.ioIndex input.name)) (c.maxShapes (inst.ioIndex input.name)) = true)

/-- Every dimension of the execution inputs is an `int`. -/
def DimsAreInts : Prop :=
  ∀ input ∈ batchInputs requests, inst.isShapeInferenceIo input.name = false →
    ∀ x ∈ executionShape lib inst set totalBatchSize requests input, toInt32 x = x

/-- **Agreement**: if some context passes `Run`'s checks then the selection succeeds with one that
does. -/
def SelectionAgrees : Prop :=
  (∃ c ∈ inst.trtContexts, RunPasses lib inst set totalBatchSize requests requestShapeValues c) →
    (getMostOptimizedProfile lib inst set (fun _ => .succeed) totalBatchSize requests
        requestShapeValues).1 = none ∧
      RunPasses lib inst set totalBatchSize requests requestShapeValues
        (getMostOptimizedProfile lib inst set (fun _ => .succeed) totalBatchSize requests
          requestShapeValues).2

end Batch

/-! ### The two range checks -/

section Range

variable {inst : Instance} {name : String} {shape : List ℤ} {c : TensorRTContext} {io : ℕ}

theorem mem_of_getD {shape : List ℤ} {i : ℕ} (hi : i < shape.length) : shape.getD i 0 ∈ shape := by
  rw [List.getD_eq_getElem shape 0 hi]
  exact List.getElem_mem hi

/-- A binding that can be set is in range, unless narrowing changed it. -/
theorem validateDimensionVec_of_binding
    (h : (setBindingDimensions inst (fun _ _ => true) name shape c io []).1 = none)
    (hint : ∀ x ∈ shape, toInt32 x = x) :
    validateDimensionVec shape (c.minDims io) (c.maxDims io) false = none := by
  obtain ⟨hlen, hrange⟩ := (setBindingDimensions_eq_none_iff fun _ _ => rfl).mp h
  refine validateDimensionVec_eq_none_iff.mpr ⟨hlen, fun i hi => Or.inr ?_⟩
  have hi' : i < shape.length := by omega
  have hr := hrange i hi'
  rw [hint _ (mem_of_getD hi')] at hr
  exact hr

/-- No dimension of a binding that can be set is a wildcard. -/
theorem ne_wildcard_of_binding
    (h : (setBindingDimensions inst (fun _ _ => true) name shape c io []).1 = none) :
    ∀ x ∈ shape, x ≠ -1 := by
  obtain ⟨-, hrange⟩ := (setBindingDimensions_eq_none_iff fun _ _ => rfl).mp h
  intro x hx hneg
  obtain ⟨i, hi, hix⟩ := List.getElem_of_mem hx
  have hr := (hrange i hi).1
  have hmin := c.minDims_nonneg io i
  have hget : shape.getD i 0 = -1 := by
    rw [List.getD_eq_getElem shape 0 hi, hix, hneg]
  rw [hget, show toInt32 (-1) = -1 by decide] at hr
  omega

/-- A shape in a range of `int` values is not narrowed. -/
theorem toInt32_of_validateDimensionVec
    (h : validateDimensionVec shape (c.minDims io) (c.maxDims io) false = none)
    (hmax : ∀ i < (c.maxDims io).nbDims, (c.maxDims io).dim i < 2 ^ 31) :
    ∀ x ∈ shape, toInt32 x = x := by
  obtain ⟨hlen, hrange⟩ := validateDimensionVec_eq_none_iff.mp h
  intro x hx
  obtain ⟨i, hi, hix⟩ := List.getElem_of_mem hx
  have hget : shape.getD i 0 = x := by
    rw [List.getD_eq_getElem shape 0 hi, hix]
  have hr := hrange i (by omega)
  have hm := hmax i (by omega)
  have hmin := c.minDims_nonneg io i
  rw [hget] at hr
  apply toInt32_eq_self <;> omega

/-- A shape in range can be set, unless it has a wildcard dimension. -/
theorem binding_of_validateDimensionVec
    (h : validateDimensionVec shape (c.minDims io) (c.maxDims io) false = none)
    (hmax : ∀ i < (c.maxDims io).nbDims, (c.maxDims io).dim i < 2 ^ 31)
    (hwild : ∀ x ∈ shape, x ≠ -1) :
    (setBindingDimensions inst (fun _ _ => true) name shape c io []).1 = none := by
  have hint := toInt32_of_validateDimensionVec h hmax
  obtain ⟨hlen, hrange⟩ := validateDimensionVec_eq_none_iff.mp h
  refine (setBindingDimensions_eq_none_iff fun _ _ => rfl).mpr ⟨hlen, fun i hi => ?_⟩
  have hmem := mem_of_getD hi
  rw [hint _ hmem]
  rcases hrange i (by omega) with hneg | hr
  · exact absurd hneg (hwild _ hmem)
  · exact hr

end Range

/-! ### The evaluation of a context -/

section Evaluate

variable {lib : BackendCommon} {inst : Instance} {set : ℕ} {totalBatchSize : ℕ}
  {requests : List Request} {requestShapeValues : ShapeValueMap} {c : TensorRTContext}

/-- The verdict on one input, when every request has the ragged ones. -/
theorem evaluateInput_eq {i : ℕ} {input : InputProperties}
    [Decidable (Admits lib inst set totalBatchSize requests requestShapeValues c input)]
    (hsum : (inst.bindingInfo set (inst.ioIndex input.name)).isBufferRagged = true →
      (raggedShape lib input.name requests).isSome) :
    evaluateInput lib inst set .succeed c totalBatchSize requests requestShapeValues i input =
      if Admits lib inst set totalBatchSize requests requestShapeValues c input then
        .accepted (inputTerm lib inst set totalBatchSize requests requestShapeValues c input)
      else .rejected := by
  by_cases hr : (inst.bindingInfo set (inst.ioIndex input.name)).isBufferRagged = true
  · obtain ⟨sum, hsum'⟩ := Option.isSome_iff_exists.mp (hsum hr)
    have hadmits : Admits lib inst set totalBatchSize requests requestShapeValues c input ↔
        validateDimensionVec [sum] (c.minDims (inst.ioIndex input.name))
          (c.maxDims (inst.ioIndex input.name)) false = none := by
      simp [Admits, executionShape, raggedSum, hr, hsum']
    have hcalls : (List.range requests.length).findSome? (EvaluateCalls.succeed.raggedInput i) =
        none := List.findSome?_eq_none_iff.mpr fun _ _ => rfl
    have hterm : inputTerm lib inst set totalBatchSize requests requestShapeValues c input =
        |(c.optDims (inst.ioIndex input.name)).dim 0 - sum| := by
      simp [inputTerm, raggedSum, hr, hsum']
    simp only [hadmits, hterm, evaluateInput, hr, hcalls, hsum', if_true]
    show (if _ then _ else _) = _
    split
    · rename_i herr
      rw [if_neg (Option.isSome_iff_ne_none.mp herr)]
    · rename_i herr
      rw [if_pos (Option.not_isSome_iff_eq_none.mp herr)]
  · rw [Bool.not_eq_true] at hr
    simp only [evaluateInput, Admits, inputTerm, executionShape, hr, Bool.false_eq_true, if_false,
      true_implies]
    set err := validateDimensionVec
      (inputShapeVec inst.supportBatching totalBatchSize input.shape)
      (c.minDims (inst.ioIndex input.name)) (c.maxDims (inst.ioIndex input.name)) false
    by_cases hs : inst.isShapeInferenceIo input.name = true
    · cases hvalues : requestShapeValues (inst.ioIndex input.name) with
      | none => simp [EvaluateCalls.succeed, hs]
      | some values =>
          cases hshape : validateShapeValues values (c.minShapes (inst.ioIndex input.name))
              (c.maxShapes (inst.ioIndex input.name)) c.nbShapeValues <;>
            cases validateBatchSize totalBatchSize (c.minShapes (inst.ioIndex input.name))
              (c.maxShapes (inst.ioIndex input.name)) <;>
            cases err <;> cases inst.supportBatching <;>
            simp [EvaluateCalls.succeed, hs, hshape]
    · cases err <;> simp [EvaluateCalls.succeed, hs]

/-! ### The inputs of a ready batch -/

/-- The binding of an input of the batch. -/
theorem BatchReady.binding (h : BatchReady lib inst set totalBatchSize requests requestShapeValues)
    {input : InputProperties} (hinput : input ∈ batchInputs requests) :
    ∃ tensor, inst.tensors[inst.ioIndex input.name]? = some tensor ∧ tensor.name = input.name ∧
      tensor.isInput = true ∧ tensor.isShapeInferenceIo = inst.isShapeInferenceIo input.name := by
  obtain ⟨io, tensor, ht, hname, hin⟩ := h.input_known input hinput
  have hio : inst.ioIndex input.name = io := by rw [← hname, inst.ioIndex_of_getElem? ht]
  refine ⟨tensor, by rw [hio]; exact ht, hname, hin, ?_⟩
  rw [← hname, inst.isShapeInferenceIo_of_getElem? ht]

/-- Only shape tensors of the first request have shape values. -/
theorem exists_input_of_getRequestShapeValues {inputs : List InputProperties}
    {values out : ShapeValueMap}
    (h : getRequestShapeValues lib inst totalBatchSize inputs values = .ok out) {io : ℕ}
    (hio : (out io).isSome) :
    (values io).isSome ∨ ∃ input ∈ inputs, inst.isShapeInferenceIo input.name = true ∧
      inst.ioIndex input.name = io := by
  induction inputs generalizing values with
  | nil =>
      cases h
      exact Or.inl hio
  | cons input inputs ih =>
      rw [getRequestShapeValues] at h
      split at h
      · rename_i hs
        cases hvalue : requestShapeValue lib inst totalBatchSize input with
        | error err => rw [hvalue] at h; cases h
        | ok value =>
            rw [hvalue] at h
            rcases ih h with hold | ⟨x, hx, hxs, hxio⟩
            · by_cases heq : io = inst.ioIndex input.name
              · exact Or.inr ⟨input, by simp, hs, heq.symm⟩
              · rw [Function.update_of_ne heq] at hold
                exact Or.inl hold
            · exact Or.inr ⟨x, by simp [hx], hxs, hxio⟩
      · rcases ih h with hold | ⟨x, hx, hxs, hxio⟩
        · exact Or.inl hold
        · exact Or.inr ⟨x, by simp [hx], hxs, hxio⟩

theorem inputShapeVec_eq_batchnShape {batching : Bool} {shape : List ℤ}
    (h : batching = true → shape ≠ []) (totalBatchSize : ℕ) :
    inputShapeVec batching totalBatchSize shape = batchnShape batching totalBatchSize shape := by
  cases batching with
  | false => rfl
  | true =>
      cases shape with
      | nil => exact absurd rfl (h rfl)
      | cons x xs => rfl

/-- The first request has the input a ragged sum was taken of. -/
theorem input?_isSome_of_raggedShape {name : String} {sum : ℤ} (hne : requests ≠ [])
    (h : raggedShape lib name requests = some sum) :
    ((requests.headD default).input? name).isSome := by
  cases requests with
  | nil => exact absurd rfl hne
  | cons request rest =>
      rw [raggedShape] at h
      split at h
      · rename_i input sum' hin hsum
        rw [List.headD_cons, hin]
        rfl
      · cases h

/-- **From execution to selection**: a context that passes `Run`'s checks admits every input, once
its shape tensors fit and no dimension is narrowed. -/
theorem admits_of_runPasses
    (h : BatchReady lib inst set totalBatchSize requests requestShapeValues)
    (hrun : RunPasses lib inst set totalBatchSize requests requestShapeValues c)
    (hfit : ShapeTensorsFit inst totalBatchSize requests c)
    (hint : DimsAreInts lib inst set totalBatchSize requests) {input : InputProperties}
    (hinput : input ∈ batchInputs requests) :
    Admits lib inst set totalBatchSize requests requestShapeValues c input := by
  obtain ⟨tensor, ht, hname, hin, hs⟩ := h.binding hinput
  have hpass := passesRunChecks_iff.mp hrun _ tensor ht hin
  cases hshape : tensor.isShapeInferenceIo with
  | true =>
      have hragged := inst.shape_not_ragged set _ tensor ht hin hshape
      have hragged' : (inst.bindingInfo set (inst.ioIndex input.name)).isBufferRagged = false :=
        hragged
      obtain ⟨hdims, hbatch⟩ := hfit input hinput (by rw [← hs, hshape])
      rw [InputPasses, if_pos hshape] at hpass
      obtain ⟨values, hvalues, hvalid⟩ := hpass
      rw [Admits, executionShape, if_neg (by simp [hragged'])]
      exact ⟨hdims, fun _ _ => ⟨values, hvalues, hvalid, hbatch⟩⟩
  | false =>
      have hns : inst.isShapeInferenceIo input.name = false := by rw [← hs, hshape]
      rw [InputPasses, if_neg (by simp [hshape])] at hpass
      obtain ⟨shape, hrt, hbind⟩ := hpass
      have hexec : shape = executionShape lib inst set totalBatchSize requests input := by
        rw [runtimeShape, h.no_batch_input _ tensor ht hin, hname] at hrt
        rw [executionShape]
        cases hr : (inst.bindingInfo set (inst.ioIndex input.name)).isBufferRagged with
        | true =>
            simp only [hr, if_true, Option.map_eq_some_iff] at hrt ⊢
            obtain ⟨sum, hsum, rfl⟩ := hrt
            rw [raggedSum, hsum, Option.getD_some]
        | false =>
            have hmem : (requests.headD default).input? input.name = some input :=
              Request.input?_of_mem hinput
            simp only [hr, Bool.false_eq_true, if_false, hmem, Option.map_some,
              Option.some.injEq] at hrt ⊢
            rw [← hrt, inputShapeVec_eq_batchnShape fun hb => h.batch_dim hb input hinput]
      rw [Admits, ← hexec]
      refine ⟨validateDimensionVec_of_binding hbind ?_, fun _ hshapeIo => ?_⟩
      · rw [hexec]
        exact hint input hinput hns
      · rw [hns] at hshapeIo
        exact Bool.noConfusion hshapeIo

/-- The ragged sums of a batch some context passes `Run`'s checks for exist. -/
theorem raggedShape_isSome
    (h : BatchReady lib inst set totalBatchSize requests requestShapeValues)
    (hrun : RunPasses lib inst set totalBatchSize requests requestShapeValues c)
    {input : InputProperties} (hinput : input ∈ batchInputs requests)
    (hragged : (inst.bindingInfo set (inst.ioIndex input.name)).isBufferRagged = true) :
    (raggedShape lib input.name requests).isSome := by
  obtain ⟨tensor, ht, hname, hin, hs⟩ := h.binding hinput
  have hpass := passesRunChecks_iff.mp hrun _ tensor ht hin
  cases hshape : tensor.isShapeInferenceIo with
  | true =>
      have hnot := inst.shape_not_ragged set _ tensor ht hin hshape
      exact absurd (hragged.symm.trans hnot) (by decide)
  | false =>
      rw [InputPasses, if_neg (by simp [hshape])] at hpass
      obtain ⟨shape, hrt, -⟩ := hpass
      simp only [runtimeShape, h.no_batch_input _ tensor ht hin, hname, hragged, if_true,
        Option.map_eq_some_iff] at hrt
      obtain ⟨sum, hsum, -⟩ := hrt
      rw [hsum]
      rfl

/-- **From selection to execution**: a context that admits every input passes `Run`'s checks, once
some context does. -/
theorem runPasses_of_admits
    (h : BatchReady lib inst set totalBatchSize requests requestShapeValues)
    {c₀ : TensorRTContext}
    (hrun : RunPasses lib inst set totalBatchSize requests requestShapeValues c₀)
    (hc : c ∈ inst.trtContexts)
    (hadm : ∀ input ∈ batchInputs requests,
      Admits lib inst set totalBatchSize requests requestShapeValues c input) :
    RunPasses lib inst set totalBatchSize requests requestShapeValues c := by
  refine passesRunChecks_iff.mpr fun io tensor ht hin => ?_
  have hpass := passesRunChecks_iff.mp hrun io tensor ht hin
  have hio := inst.ioIndex_of_getElem? ht
  cases hshape : tensor.isShapeInferenceIo with
  | true =>
      rw [InputPasses, if_pos hshape] at hpass ⊢
      obtain ⟨values, hvalues, -⟩ := hpass
      have hsome : (requestShapeValues io).isSome := by rw [hvalues]; rfl
      rcases exists_input_of_getRequestShapeValues h.shape_values hsome with
        hnone | ⟨input, hinput, his, hiio⟩
      · exact absurd hnone (by simp)
      · have hragged : (inst.bindingInfo set (inst.ioIndex input.name)).isBufferRagged = false := by
          rw [hiio]
          exact inst.shape_not_ragged set io tensor ht hin hshape
        obtain ⟨values', hvalues', hvalid, -⟩ := (hadm input hinput).2 hragged his
        rw [hiio] at hvalues' hvalid
        exact ⟨values', hvalues', hvalid⟩
  | false =>
      rw [InputPasses, if_neg (by simp [hshape])] at hpass ⊢
      obtain ⟨shape, hrt, hbind⟩ := hpass
      refine ⟨shape, hrt, ?_⟩
      -- The input of the first request behind this binding, and the shape it is judged by.
      obtain ⟨input, hinput, hname, hexec⟩ : ∃ input ∈ batchInputs requests,
          input.name = tensor.name ∧
            shape = executionShape lib inst set totalBatchSize requests input := by
        rw [runtimeShape, h.no_batch_input io tensor ht hin] at hrt
        cases hr : (inst.bindingInfo set io).isBufferRagged with
        | true =>
            simp only [hr, if_true, Option.map_eq_some_iff] at hrt
            obtain ⟨sum, hsum, rfl⟩ := hrt
            obtain ⟨input, hin?⟩ := Option.isSome_iff_exists.mp
              (input?_isSome_of_raggedShape h.nonempty hsum)
            obtain ⟨hmem, hname⟩ := Request.mem_of_input? hin?
            refine ⟨input, hmem, hname, ?_⟩
            rw [executionShape, hname, hio, if_pos hr, raggedSum, hname, hsum, Option.getD_some]
        | false =>
            simp only [hr, Bool.false_eq_true, if_false, Option.map_eq_some_iff] at hrt
            obtain ⟨input, hin?, hrt⟩ := hrt
            obtain ⟨hmem, hname⟩ := Request.mem_of_input? hin?
            refine ⟨input, hmem, hname, ?_⟩
            rw [executionShape, hname, hio, if_neg (by simp [hr]), ← hrt,
              inputShapeVec_eq_batchnShape fun hb => h.batch_dim hb input hmem]
      have hvalid := (hadm input hinput).1
      rw [hname, hio, ← hexec] at hvalid
      exact binding_of_validateDimensionVec hvalid (inst.max_int c hc io tensor ht hin hshape)
        (ne_wildcard_of_binding hbind)

/-- A context that admits every input has room for the shape tensors, and the dimensions it was
compared with are `int` values. -/
theorem fit_of_admits
    (h : BatchReady lib inst set totalBatchSize requests requestShapeValues)
    (hc : c ∈ inst.trtContexts)
    (hadm : ∀ input ∈ batchInputs requests,
      Admits lib inst set totalBatchSize requests requestShapeValues c input) :
    ShapeTensorsFit inst totalBatchSize requests c ∧
      DimsAreInts lib inst set totalBatchSize requests := by
  constructor
  · intro input hinput his
    obtain ⟨tensor, ht, -, hin, hs⟩ := h.binding hinput
    have hragged : (inst.bindingInfo set (inst.ioIndex input.name)).isBufferRagged = false :=
      inst.shape_not_ragged set _ tensor ht hin (by rw [hs, his])
    obtain ⟨hdims, hvalues⟩ := hadm input hinput
    rw [executionShape, if_neg (by simp [hragged])] at hdims
    obtain ⟨values, -, -, hbatch⟩ := hvalues hragged his
    exact ⟨hdims, hbatch⟩
  · intro input hinput hns
    obtain ⟨tensor, ht, -, hin, hs⟩ := h.binding hinput
    exact toInt32_of_validateDimensionVec (hadm input hinput).1
      (inst.max_int c hc _ tensor ht hin (by rw [hs, hns]))

end Evaluate

/-! ### Agreement -/

section Agreement

variable {lib : BackendCommon} {inst : Instance} {set : ℕ} {totalBatchSize : ℕ}
  {requests : List Request} {requestShapeValues : ShapeValueMap}

/-- **The evaluation of a context** of a batch some context passes `Run`'s checks for. -/
theorem evaluateTensorRTContext_eq
    (h : BatchReady lib inst set totalBatchSize requests requestShapeValues)
    {c₀ : TensorRTContext}
    (hrun : RunPasses lib inst set totalBatchSize requests requestShapeValues c₀)
    (c : TensorRTContext)
    [DecidablePred (Admits lib inst set totalBatchSize requests requestShapeValues c)] :
    evaluateTensorRTContext lib inst set .succeed c totalBatchSize requests requestShapeValues =
      (none, if ∀ input ∈ batchInputs requests,
          Admits lib inst set totalBatchSize requests requestShapeValues c input
        then contextDistance lib inst set totalBatchSize requests requestShapeValues c
        else llongMax) := by
  have hjudge : ∀ i, ∀ input ∈ batchInputs requests,
      evaluateInput lib inst set .succeed c totalBatchSize requests requestShapeValues i input = _ :=
    fun _ input hinput => evaluateInput_eq (raggedShape_isSome h hrun hinput)
  have hloop := evaluateInputs_eq (i := 0) hjudge 0
  rw [zero_add] at hloop
  exact hloop

/-- **When selection and execution agree.** -/
theorem selectionAgrees_iff (hctx : 2 ≤ inst.trtContexts.length)
    (h : BatchReady lib inst set totalBatchSize requests requestShapeValues) :
    SelectionAgrees lib inst set totalBatchSize requests requestShapeValues ↔
      ((¬ ∃ c ∈ inst.trtContexts,
          RunPasses lib inst set totalBatchSize requests requestShapeValues c) ∨
        ∃ c ∈ inst.trtContexts,
          RunPasses lib inst set totalBatchSize requests requestShapeValues c ∧
          ShapeTensorsFit inst totalBatchSize requests c ∧
          DimsAreInts lib inst set totalBatchSize requests ∧
          contextDistance lib inst set totalBatchSize requests requestShapeValues c < llongMax) := by
  classical
  by_cases hex : ∃ c ∈ inst.trtContexts,
      RunPasses lib inst set totalBatchSize requests requestShapeValues c
  · obtain ⟨c₀, hc₀, hrun₀⟩ := hex
    have hex : ∃ c ∈ inst.trtContexts,
      RunPasses lib inst set totalBatchSize requests requestShapeValues c := ⟨c₀, hc₀, hrun₀⟩
    set dist := fun c => if ∀ input ∈ batchInputs requests,
        Admits lib inst set totalBatchSize requests requestShapeValues c input
      then contextDistance lib inst set totalBatchSize requests requestShapeValues c
      else llongMax with hdist
    have hd : ∀ c, (evaluateTensorRTContext lib inst set .succeed c totalBatchSize requests
        requestShapeValues).2 = dist c := by
      intro c
      rw [evaluateTensorRTContext_eq h hrun₀ c]
    obtain ⟨hsucc, hsel⟩ := getMostOptimizedProfile_spec hctx hd
    have hadm : ∀ c, dist c < llongMax → ∀ input ∈ batchInputs requests,
        Admits lib inst set totalBatchSize requests requestShapeValues c input := by
      intro c hlt
      by_contra hno
      simp only [hdist, hno, if_false, lt_irrefl] at hlt
    constructor
    · intro hagree
      obtain ⟨hok, hrun⟩ := hagree hex
      obtain ⟨hmin, hlt⟩ := hsel (hsucc.mp hok)
      have hall := hadm _ hlt
      obtain ⟨hfit, hint⟩ := fit_of_admits h hmin.mem hall
      simp only [hdist] at hlt
      rw [if_pos hall] at hlt
      exact Or.inr ⟨_, hmin.mem, hrun, hfit, hint, hlt⟩
    · rintro (hno | ⟨c, hc, hrun, hfit, hint, hlt⟩) -
      · exact absurd hex hno
      · have hdc : dist c < llongMax := by
          simp only [hdist]
          rw [if_pos fun input hinput => admits_of_runPasses h hrun hfit hint hinput]
          exact hlt
        obtain ⟨hmin, hlt'⟩ := hsel ⟨c, hc, hdc⟩
        exact ⟨hsucc.mpr ⟨c, hc, hdc⟩, runPasses_of_admits h hrun hmin.mem (hadm _ hlt')⟩
  · exact ⟨fun _ => Or.inl hex, fun _ hex' => absurd hex' hex⟩

/-- **Batched shape tensors**: with batching and a shape tensor sent as `[b, n]` the two agree only
on batches no context passes `Run`'s checks for. -/
theorem not_shapeTensorsFit_of_batched
    (h : BatchReady lib inst set totalBatchSize requests requestShapeValues)
    (hbatch : inst.supportBatching = true) {input : InputProperties}
    (hinput : input ∈ batchInputs requests)
    (hshape : inst.isShapeInferenceIo input.name = true) (hrank : input.shape.length = 2)
    {c : TensorRTContext} (hc : c ∈ inst.trtContexts) :
    ¬ ShapeTensorsFit inst totalBatchSize requests c := by
  intro hfit
  obtain ⟨tensor, ht, -, hin, hs⟩ := h.binding hinput
  have hprofile := inst.shape_rank c hc _ tensor ht hin (by rw [hs, hshape])
  obtain ⟨hlen, -⟩ := validateDimensionVec_eq_none_iff.mp (hfit input hinput hshape).1
  rw [inputShapeVec, if_pos hbatch, List.length_set, hrank] at hlen
  omega

end Agreement

/-! ### A batching model with a shape tensor -/

/-- The shape values `values`, of type `INT32`. -/
def int32Values (values : List ℤ) : ShapeTensor :=
  (({} : ShapeTensor).setDataFromShapeValues values .int32 values.length).2

/-- A profile for rows of up to eight entries and a shape tensor of the batch size and one value. -/
def shapedProfile (idx : ℤ) : TensorRTContext where
  profileIdx := idx
  dims := [{ minDims := matrixDims 1 1, maxDims := matrixDims 8 8, optDims := matrixDims 4 4,
             min_nonneg := matrixDims_nonneg },
           { minDims := Dims.ofList [2] (by decide), maxDims := Dims.ofList [2] (by decide),
             optDims := Dims.ofList [2] (by decide),
             min_nonneg := Dims.forall_dim (by decide) (by decide) }]
  shapes := [default, { minShapes := int32Values [1, 1], maxShapes := int32Values [8, 16],
                        optShapes := int32Values [4, 8] }]
  nbShapeValues := 2

theorem shapedProfile_maxDims_lt (idx : ℤ) (io i : ℕ) :
    ((shapedProfile idx).maxDims io).dim i < 2 ^ 31 := by
  match io with
  | 0 =>
      have h : ∀ x ∈ (matrixDims 8 8).d, x < 2 ^ 31 := by decide
      exact Dims.forall_dim (by decide) h i
  | 1 =>
      have h : ∀ x ∈ (Dims.ofList [2] (by decide)).d, x < 2 ^ 31 := by decide
      exact Dims.forall_dim (by decide) h i
  | io + 2 =>
      have h : ∀ x ∈ (default : Dims).d, x < 2 ^ 31 := by decide
      exact Dims.forall_dim (by decide) h i

/-- A batching model with an execution input and a shape tensor, and two profiles. -/
def shapedInstance : Instance where
  name := "shaped"
  maxBatchSize := 8
  tensors := [{ name := "in", isInput := true },
              { name := "shape", isInput := true, isShapeInferenceIo := true, dataType := .int32 }]
  trtContexts := [shapedProfile 0, shapedProfile 1]
  ioBindingInfos := [[{}, {}]]
  contexts_ne := by simp
  contexts_sorted := by simp [shapedProfile]
  names_nodup := by simp
  max_int := by
    intro c hc io t _ _ _ i _
    simp only [List.mem_cons, List.not_mem_nil, or_false] at hc
    rcases hc with rfl | rfl
    · exact shapedProfile_maxDims_lt 0 io i
    · exact shapedProfile_maxDims_lt 1 io i
  shape_rank := by
    intro c hc io t ht _ hs
    simp only [List.mem_cons, List.not_mem_nil, or_false] at hc
    have hio : io = 1 := by
      match io with
      | 0 => cases ht; exact Bool.noConfusion hs
      | 1 => rfl
      | io + 2 => simp at ht
    subst hio
    rcases hc with rfl | rfl <;> decide
  shape_not_ragged := by
    intro set io t _ _ _
    match set, io with
    | 0, 0 => rfl
    | 0, 1 => rfl
    | 0, io + 2 => rfl
    | set + 1, io => rfl

/-- A request of two rows of four with the shape value five, sent with shape `[2, 1]`. -/
def shapedRequests : List Request :=
  [{ inputs := [{ name := "in", shape := [2, 4] },
                { name := "shape", datatype := .int32, shape := [2, 1],
                  buffer := some (valueBytes .int32 5), dataByteSize := 4 }] }]

/-- The shape values read from that request: the total batch size and the value. -/
def shapedValues : ShapeValueMap :=
  Function.update (fun _ => none) 1 (some (int32Values [2, 5]))

theorem shaped_ready :
    BatchReady BackendCommon.plain shapedInstance 0 2 shapedRequests shapedValues where
  nonempty := by simp [shapedRequests]
  input_known := by
    intro input hinput
    have hin : input.name = "in" ∨ input.name = "shape" := by
      rcases List.mem_cons.mp hinput with rfl | hin
      · exact Or.inl rfl
      · rw [List.mem_singleton.mp hin]
        exact Or.inr rfl
    rcases hin with hname | hname
    · exact ⟨0, _, rfl, hname.symm, rfl⟩
    · exact ⟨1, _, rfl, hname.symm, rfl⟩
  batch_dim := by
    intro _ input hinput
    rcases List.mem_cons.mp hinput with rfl | hin
    · exact List.cons_ne_nil _ _
    · rw [List.mem_singleton.mp hin]
      exact List.cons_ne_nil _ _
  shape_values := rfl
  no_batch_input := by
    intro io tensor _ _
    match io with
    | 0 => rfl
    | 1 => rfl
    | io + 2 => rfl

/-- The theorem at that batch. -/
theorem selectionAgrees_iff_shaped :
    SelectionAgrees BackendCommon.plain shapedInstance 0 2 shapedRequests shapedValues ↔
      ((¬ ∃ c ∈ shapedInstance.trtContexts,
          RunPasses BackendCommon.plain shapedInstance 0 2 shapedRequests shapedValues c) ∨
        ∃ c ∈ shapedInstance.trtContexts,
          RunPasses BackendCommon.plain shapedInstance 0 2 shapedRequests shapedValues c ∧
          ShapeTensorsFit shapedInstance 2 shapedRequests c ∧
          DimsAreInts BackendCommon.plain shapedInstance 0 2 shapedRequests ∧
          contextDistance BackendCommon.plain shapedInstance 0 2 shapedRequests shapedValues c <
            llongMax) :=
  selectionAgrees_iff (by decide) shaped_ready

/-- **The slip**: both profiles pass every check of `Run`, and the selection finds none. -/
theorem selection_disagrees_shaped :
    2 ≤ shapedInstance.trtContexts.length ∧
      BatchReady BackendCommon.plain shapedInstance 0 2 shapedRequests shapedValues ∧
      ¬ SelectionAgrees BackendCommon.plain shapedInstance 0 2 shapedRequests shapedValues := by
  refine ⟨by decide, shaped_ready, fun hagree => ?_⟩
  have hmem : shapedProfile 0 ∈ shapedInstance.trtContexts := List.mem_cons_self
  have hrun : RunPasses BackendCommon.plain shapedInstance 0 2 shapedRequests shapedValues
      (shapedProfile 0) := by rfl
  obtain ⟨hok, -⟩ := hagree ⟨_, hmem, hrun⟩
  have hfail : (getMostOptimizedProfile BackendCommon.plain shapedInstance 0 (fun _ => .succeed) 2
      shapedRequests shapedValues).1.isSome = true := by rfl
  rw [hok] at hfail
  exact Bool.noConfusion hfail

end TensorrtBackend

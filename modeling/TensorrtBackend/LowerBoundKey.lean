import TensorrtBackend.GraphKey
import TensorrtBackend.Lib.Box

/-!
# The lower bound key of a captured graph

`SetCudaGraphShape` builds the key of a graph and its lower bound key side by side: a batch size and
then, for each input, its dimensions.  Behind the batch size of the key there is one in front of the
dimensions of every regular input as well, unless it is 0; the lower bound key always has one, and
has 1 for 0.  The two keys agree position by position for a batching model and never for another.
-/

namespace TensorrtBackend

open Box

/-- What an inexact lookup relies on: the lower bound key is as long as the key and nowhere above
it. `SetCudaGraphShape` dereferences what it finds in `lower_bound_shapes_` for an input. -/
structure LowerBoundFits (inst : Instance) (graphSpec : GraphSpec) (cudaGraphKey : List ℤ)
    (graph : CudaGraph) : Prop where
  length_eq : graph.lowerBoundKey.length = cudaGraphKey.length
  le_key : ∀ i < cudaGraphKey.length, graph.lowerBoundKey.getD i 0 ≤ cudaGraphKey.getD i 0
  lookup_found : graphSpec.shapes ≠ [] → ∀ tensor ∈ inst.tensors, tensor.isInput = true →
    (graphSpec.lowerBoundShapes.lookup tensor.name).isSome

/-! ### What the validation of a spec says -/

/-- Both batch sizes of a validated spec of a batching model. -/
theorem validateGraphSpec_lowerBoundBatchSize {maxBatchSize : ℕ} {graphSpec : GraphSpec}
    (h : validateGraphSpec maxBatchSize graphSpec = none) :
    (maxBatchSize = 0 → graphSpec.lowerBoundBatchSize = 0) ∧
      (maxBatchSize ≠ 0 → 1 ≤ graphSpec.lowerBoundBatchSize ∧
        graphSpec.lowerBoundBatchSize ≤ graphSpec.batchSize) := by
  obtain ⟨hzero, hpos, hlower, -⟩ := validateGraphSpec_eq_none_iff.mp h
  constructor
  · intro hm
    exact (hzero hm).2
  · intro hm
    exact ⟨(hpos hm).1, hlower⟩

/-- The shape of one input has a lower bound. -/
theorem validateGraphSpecInput_eq_none {lowerBoundShapes : List (String × List ℤ)}
    {input : String × List ℤ} (h : validateGraphSpecInput lowerBoundShapes input = none) :
    ∃ lower, lowerBoundShapes.lookup input.1 = some lower ∧ Below lower input.2 := by
  unfold validateGraphSpecInput at h
  split at h
  · cases h
  · rename_i lower hlower
    rw [check_eq_none_iff, not_not, List.findSome?_eq_none_iff] at h
    obtain ⟨hlen, hdims⟩ := h
    refine ⟨lower, hlower, below_iff_getD.mpr ⟨hlen, fun i hi => ?_⟩⟩
    have hdim := hdims i (List.mem_range.mpr (hlen ▸ hi))
    rw [check_eq_none_iff, check_eq_none_iff] at hdim
    omega

theorem mem_of_lookup {name : String} {shape : List ℤ} {shapes : List (String × List ℤ)}
    (h : shapes.lookup name = some shape) : (name, shape) ∈ shapes := by
  obtain ⟨before, after, rfl, -⟩ := List.lookup_eq_some_iff.mp h
  exact List.mem_append_right _ List.mem_cons_self

/-- So every shape of a validated spec has one. -/
theorem lowerBound_of_lookup {maxBatchSize : ℕ} {graphSpec : GraphSpec} {name : String}
    {shape : List ℤ} (h : validateGraphSpec maxBatchSize graphSpec = none)
    (hshape : graphSpec.shapes.lookup name = some shape) :
    ∃ lower, graphSpec.lowerBoundShapes.lookup name = some lower ∧ Below lower shape := by
  obtain ⟨-, -, -, hinputs⟩ := validateGraphSpec_eq_none_iff.mp h
  exact validateGraphSpecInput_eq_none (hinputs (name, shape) (mem_of_lookup hshape))

/-! ### The loop over the inputs -/

section Inputs

variable {inst : Instance} {setInputShape : ℕ → Dims → Bool} {trtContext : TensorRTContext}
  {graphSpec : GraphSpec} {lowerBoundBatch : ℤ}

/-- One input: what it adds to the lower bound key is nowhere above what it adds to the key. -/
theorem cudaGraphInput_le {io : ℕ} {name : String} {dims lower : List ℤ}
    (hspec : validateGraphSpec inst.maxBatchSize graphSpec = none)
    (hbatch : toInt32 graphSpec.batchSize ≠ 0) (hle : lowerBoundBatch ≤ toInt32 graphSpec.batchSize)
    (h : cudaGraphInput inst setInputShape trtContext graphSpec lowerBoundBatch io name =
      .ok (dims, lower)) : List.Forall₂ (· ≤ ·) lower dims := by
  unfold cudaGraphInput at h
  simp only at h
  split at h
  · -- A default spec gives both keys the same dimensions.
    split at h
    · cases h
    · obtain ⟨rfl, rfl⟩ := Prod.mk.inj (Except.ok.inj h)
      exact List.forall₂_refl _
  · split at h
    · cases h
    · rename_i specShape hlookup
      obtain ⟨lowerShape, hlower, hbelow⟩ := lowerBound_of_lookup hspec hlookup
      have hshapes : List.Forall₂ (· ≤ ·) lowerShape specShape := hbelow.imp fun _ _ h => h.2
      rw [hlower, Option.getD_some] at h
      cases hgiven : (inst.bindingInfo 0 io).isBufferRagged ||
          (inst.bindingInfo 0 io).batchInput.isSome with
      | true =>
          simp only [hgiven, Bool.not_true, Bool.false_and, Bool.false_eq_true, if_false, if_true,
            List.nil_append] at h
          split at h
          · cases h
          · obtain ⟨rfl, rfl⟩ := Prod.mk.inj (Except.ok.inj h)
            exact hshapes
      | false =>
          -- The batch size is not 0, so that both shapes have one in front.
          simp only [hgiven, hbatch, ne_eq, not_false_eq_true, decide_true, Bool.not_false,
            Bool.and_self, Bool.false_eq_true, if_false, if_true, List.singleton_append] at h
          split at h
          · cases h
          · obtain ⟨rfl, rfl⟩ := Prod.mk.inj (Except.ok.inj h)
            exact List.Forall₂.cons hle hshapes

/-- The loop skips an output and puts what an input adds in front of the rest. -/
theorem cudaGraphInputs_cons_eq_ok {io : ℕ} {tensor : EngineTensor} {tensors : List EngineTensor}
    {inputDims : List (List ℤ)} {lowers : List ℤ}
    (h : cudaGraphInputs inst setInputShape trtContext graphSpec lowerBoundBatch io
      (tensor :: tensors) = .ok (inputDims, lowers)) :
    (tensor.isInput = false ∧ cudaGraphInputs inst setInputShape trtContext graphSpec
        lowerBoundBatch (io + 1) tensors = .ok (inputDims, lowers)) ∨
      ∃ dims lower restDims restLowers,
        cudaGraphInput inst setInputShape trtContext graphSpec lowerBoundBatch io tensor.name =
            .ok (dims, lower) ∧
          cudaGraphInputs inst setInputShape trtContext graphSpec lowerBoundBatch (io + 1) tensors =
            .ok (restDims, restLowers) ∧
          inputDims = dims :: restDims ∧ lowers = lower ++ restLowers := by
  rw [cudaGraphInputs] at h
  split at h
  · rename_i hout
    exact Or.inl ⟨by simpa using hout, h⟩
  · split at h
    · cases h
    · rename_i dims lower hinput
      split at h
      · cases h
      · rename_i restDims restLowers hrest
        obtain ⟨rfl, rfl⟩ := Prod.mk.inj (Except.ok.inj h)
        exact Or.inr ⟨dims, lower, restDims, restLowers, hinput, hrest, rfl, rfl⟩

theorem cudaGraphInputs_le {io : ℕ} {tensors : List EngineTensor} {inputDims : List (List ℤ)}
    {lowers : List ℤ} (hspec : validateGraphSpec inst.maxBatchSize graphSpec = none)
    (hbatch : toInt32 graphSpec.batchSize ≠ 0) (hle : lowerBoundBatch ≤ toInt32 graphSpec.batchSize)
    (h : cudaGraphInputs inst setInputShape trtContext graphSpec lowerBoundBatch io tensors =
      .ok (inputDims, lowers)) : List.Forall₂ (· ≤ ·) lowers inputDims.flatten := by
  induction tensors generalizing io inputDims lowers with
  | nil =>
      obtain ⟨rfl, rfl⟩ := Prod.mk.inj (Except.ok.inj h)
      exact List.Forall₂.nil
  | cons tensor tensors ih =>
      rcases cudaGraphInputs_cons_eq_ok h with
        ⟨-, hrest⟩ | ⟨dims, lower, restDims, restLowers, hinput, hrest, rfl, rfl⟩
      · exact ih hrest
      · rw [List.flatten_cons]
        exact List.rel_append (cudaGraphInput_le hspec hbatch hle hinput) (ih hrest)

/-- With a shape map every input is looked up in it. -/
theorem cudaGraphInputs_lookup {io : ℕ} {tensors : List EngineTensor} {inputDims : List (List ℤ)}
    {lowers : List ℤ} (hshapes : graphSpec.shapes ≠ [])
    (h : cudaGraphInputs inst setInputShape trtContext graphSpec lowerBoundBatch io tensors =
      .ok (inputDims, lowers)) :
    ∀ tensor ∈ tensors, tensor.isInput = true →
      ∃ shape, graphSpec.shapes.lookup tensor.name = some shape := by
  induction tensors generalizing io inputDims lowers with
  | nil => exact fun _ hmem => absurd hmem List.not_mem_nil
  | cons tensor tensors ih =>
      rw [List.forall_mem_cons]
      rcases cudaGraphInputs_cons_eq_ok h with
        ⟨hout, hrest⟩ | ⟨dims, lower, restDims, restLowers, hinput, hrest, -, -⟩
      · exact ⟨fun hin => absurd hin (by simp [hout]), ih hrest⟩
      · refine ⟨fun _ => ?_, ih hrest⟩
        unfold cudaGraphInput at hinput
        simp only [List.isEmpty_iff, hshapes, if_false] at hinput
        split at hinput
        · cases hinput
        · rename_i shape hlookup
          exact ⟨shape, hlookup⟩

end Inputs

/-! ### The two keys -/

/-- **When the lower bound key fits the key.**  For every validated spec whose shape can be set:
exactly when the model supports batching. -/
theorem lowerBoundKey_fits_iff {inst : Instance} {setInputShape : ℕ → Dims → Bool}
    {trtContext : TensorRTContext} {graphSpec : GraphSpec} {cudaGraphKey : List ℤ}
    {graph : CudaGraph} (hspec : validateGraphSpec inst.maxBatchSize graphSpec = none)
    (hshape : setCudaGraphShape inst setInputShape trtContext graphSpec =
      .ok (cudaGraphKey, graph)) :
    LowerBoundFits inst graphSpec cudaGraphKey graph ↔ 0 < inst.maxBatchSize := by
  obtain ⟨hzero, hpos⟩ := validateGraphSpec_batchSize hspec
  obtain ⟨hlowerZero, hlowerPos⟩ := validateGraphSpec_lowerBoundBatchSize hspec
  unfold setCudaGraphShape at hshape
  simp only at hshape
  split at hshape
  · cases hshape
  · rename_i inputDims lowers hinputs
    obtain ⟨rfl, rfl⟩ := Prod.mk.inj (Except.ok.inj hshape)
    constructor
    · -- Without batching the first element is 1 in the lower bound key and 0 in the key.
      intro hfits
      by_contra hnot
      have hm : inst.maxBatchSize = 0 := by omega
      have hfirst := hfits.le_key 0 (Nat.succ_pos _)
      rw [hzero hm, hlowerZero hm] at hfirst
      have hfirst : (1 : ℤ) ≤ toInt32 0 := hfirst
      exact absurd hfirst (by decide)
    · intro hm
      have hint := inst.maxBatchSize_int
      obtain ⟨hlow, hhigh⟩ := hpos hm.ne'
      obtain ⟨hlowerOne, hlowerLe⟩ := hlowerPos hm.ne'
      have hnarrow : toInt32 graphSpec.batchSize = graphSpec.batchSize := by
        apply toInt32_eq_self <;> omega
      rw [if_neg (by omega : ¬ graphSpec.lowerBoundBatchSize = 0)] at hinputs ⊢
      have hrest := cudaGraphInputs_le hspec (by omega) (by omega) hinputs
      have hkeys : List.Forall₂ (· ≤ ·) (graphSpec.lowerBoundBatchSize :: lowers)
          (toInt32 graphSpec.batchSize :: inputDims.flatten) :=
        List.Forall₂.cons (by omega) hrest
      obtain ⟨hlen, hle⟩ := (Related.iff_getD 0 0).mp hkeys
      refine ⟨hlen, fun i hi => hle i (hlen ▸ hi), fun hshapes tensor htensor hin => ?_⟩
      obtain ⟨shape, hlookup⟩ := cudaGraphInputs_lookup hshapes hinputs tensor htensor hin
      obtain ⟨lower, hlower, -⟩ := lowerBound_of_lookup hspec hlookup
      rw [hlower]
      rfl

/-- A spec for up to four rows of four, and at least two rows of two. -/
def boundedSpec (batchSize : ℤ) (shape lower : List ℤ) : GraphSpec where
  batchSize := batchSize
  shapes := [("in", shape)]
  lowerBoundBatchSize := min batchSize 2
  lowerBoundShapes := [("in", lower)]

/-- The theorem for batches of two to four rows of two to four columns. -/
theorem lowerBoundKey_fits_iff_matrix :
    LowerBoundFits (matrixInstance 8 1) (boundedSpec 4 [4] [2]) [4, 4, 4]
        { lowerBoundKey := [2, 2, 2], inputDims := [[4, 4]] } ↔
      0 < (matrixInstance 8 1).maxBatchSize := by
  have hshape : setCudaGraphShape (matrixInstance 8 1) (fun _ _ => true) (matrixProfile 0 4 4)
      (boundedSpec 4 [4] [2]) =
        .ok ([4, 4, 4], { lowerBoundKey := [2, 2, 2], inputDims := [[4, 4]] }) := rfl
  exact lowerBoundKey_fits_iff (by decide) hshape

/-- **The slip**: without batching the lower bound key of four rows of four has an element more than
the key, and starts above it. -/
theorem lowerBoundKey_misaligned :
    validateGraphSpec 0 (boundedSpec 0 [4, 4] [2, 2]) = none ∧
      setCudaGraphShape (matrixInstance 0 1) (fun _ _ => true) (matrixProfile 0 4 4)
        (boundedSpec 0 [4, 4] [2, 2]) =
          .ok ([0, 4, 4], { lowerBoundKey := [1, 1, 2, 2], inputDims := [[4, 4]] }) ∧
      ¬ LowerBoundFits (matrixInstance 0 1) (boundedSpec 0 [4, 4] [2, 2]) [0, 4, 4]
        { lowerBoundKey := [1, 1, 2, 2], inputDims := [[4, 4]] } := by
  refine ⟨by decide, rfl, fun h => ?_⟩
  exact absurd h.length_eq (by decide)

end TensorrtBackend

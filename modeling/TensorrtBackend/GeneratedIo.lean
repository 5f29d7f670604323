import TensorrtBackend.SupportedBatch

/-!
# Generated entries and the checks of an instance

The entries generated for an empty list take their dims from the plan: without the first dimension
of an execution tensor and with a shape tensor's one dimension lowered by one when the model
batches.  An instance compares the dims of an entry with those of the tensor again, each kind of
tensor in its own way.

* `compareDimsSupported_refIo`, `compareShapeDimsSupported_refIo`: when a generated entry passes.
* `generated_supported_iff`: when the whole generated configuration does.
-/

namespace TensorrtBackend

open Checked

/-! ### The checks -/

/-- The entry passes the check an instance makes of the dims it uses. -/
def IoSupported (modelName : String) (supportsBatching : Bool) (t : PlanTensor) (io : ConfigIo) :
    Prop :=
  ∃ dims, io.usedDims = .ok dims ∧
    (if t.isShapeInferenceIo then
      compareShapeDimsSupported modelName io.name t.shape dims supportsBatching
    else compareDimsSupported modelName io.name t.shape dims supportsBatching false) = none

/-! ### When a generated entry passes -/

/-- **Execution tensors.**  With batching the tensor needs a dimension to leave out. -/
theorem compareDimsSupported_refIo {modelName name : String} {shape : Dims} {maxBatchSize : ℕ} :
    compareDimsSupported modelName name shape
        ((dimsToDimVec shape).drop (if maxBatchSize = 0 then 0 else 1))
        (decide (0 < maxBatchSize)) false = none ↔ (0 < maxBatchSize → shape.nbDims ≠ 0) := by
  unfold compareDimsSupported
  by_cases hbatch : maxBatchSize = 0
  · have hagree : dimsAgree shape (dimsToDimVec shape) false = true := by
      rw [dimsAgree_eq_true, dimsToDimVec_length]
      exact ⟨rfl, fun i hi => Or.inr (Or.inr (dimsToDimVec_getD hi).symm)⟩
    simp [hbatch, hagree]
  · have hpos : 0 < maxBatchSize := Nat.pos_of_ne_zero hbatch
    rw [if_neg hbatch, decide_eq_true hpos, if_pos rfl]
    by_cases hrank : shape.nbDims = 0
    · simp [hrank, hpos, errorNew]
    · have hagree : dimsAgree shape (wildcardDim :: (dimsToDimVec shape).drop 1) false = true := by
        rw [dimsAgree_eq_true, List.length_cons, List.length_drop, dimsToDimVec_length]
        refine ⟨by omega, fun i hi => ?_⟩
        cases i with
        | zero => exact Or.inr (Or.inl rfl)
        | succ i =>
            refine Or.inr (Or.inr ?_)
            rw [List.getD_cons_succ, ← dimsToDimVec_getD (by omega), List.getD_eq_getElem?_getD,
              List.getD_eq_getElem?_getD, List.getElem?_drop, Nat.add_comm 1 i]
      rw [if_neg hrank, if_pos hagree]
      exact ⟨fun _ _ => hrank, fun _ => rfl⟩

/-- **Shape tensors.**  They must be scalars or vectors, and the one dim must not become, or be, a
wildcard. -/
theorem compareShapeDimsSupported_refIo {modelName name : String} {shape : Dims} {maxBatchSize : ℕ} :
    compareShapeDimsSupported modelName name shape
        (if shape.nbDims = 0 then [] else [shape.dim 0 - if maxBatchSize = 0 then 0 else 1])
        (decide (0 < maxBatchSize)) = none ↔
      shape.nbDims = 0 ∨
        shape.nbDims = 1 ∧ shape.dim 0 ≠ if maxBatchSize = 0 then -1 else 0 := by
  unfold compareShapeDimsSupported
  by_cases hrank : shape.nbDims = 0
  · simp [hrank]
  · rw [if_neg hrank, List.length_singleton]
    by_cases hone : shape.nbDims = 1
    · by_cases hbatch : maxBatchSize = 0
      · simp [hone, hbatch, errorNew, wildcardDim]
      · have hpos : 0 < maxBatchSize := Nat.pos_of_ne_zero hbatch
        simp [hone, hbatch, hpos, errorNew, wildcardDim]
    · rw [if_pos (Ne.symm hone)]
      simp [hrank, hone, errorNew]

/-- The entry generated for the tensor passes the check of an instance. -/
def PlanTensor.Completable (t : PlanTensor) (batching : Bool) : Prop :=
  if t.isShapeInferenceIo then
    t.shape.nbDims = 0 ∨ t.shape.nbDims = 1 ∧ t.shape.dim 0 ≠ if batching then 0 else -1
  else batching = true → t.shape.nbDims ≠ 0

theorem ioSupported_refIo {modelName : String} {t : PlanTensor} {maxBatchSize : ℕ} :
    IoSupported modelName (decide (0 < maxBatchSize)) t (refIo maxBatchSize t) ↔
      t.Completable (decide (0 < maxBatchSize)) := by
  have hbatching : (if decide (0 < maxBatchSize) = true then (0 : ℤ) else -1) =
      if maxBatchSize = 0 then -1 else 0 := by
    by_cases hbatch : maxBatchSize = 0
    · rw [hbatch]
      rfl
    · rw [if_pos (decide_eq_true (Nat.pos_of_ne_zero hbatch)), if_neg hbatch]
  unfold IoSupported PlanTensor.Completable
  by_cases ht : t.isShapeInferenceIo = true
  · simp only [refIo_usedDims_shape ht, ht, if_true, Except.ok.injEq, exists_eq_left']
    rw [compareShapeDimsSupported_refIo, hbatching]
  · rw [Bool.not_eq_true] at ht
    simp only [refIo_usedDims ht, ht, Bool.false_eq_true, if_false, Except.ok.injEq, exists_eq_left']
    rw [compareDimsSupported_refIo, decide_eq_true_iff]

/-! ### The generated configuration -/

/-- Some instance group lists the profile, or it is profile 0 and none lists any. -/
def ModelConfig.ListsProfile (config : ModelConfig) (p : ℤ) : Prop :=
  (∃ group ∈ config.instanceGroups, ∃ name ∈ group, getProfileIndex name = .ok p) ∨
    (∀ group ∈ config.instanceGroups, group = []) ∧ p = 0

/-- Every input takes a batch in one of the profiles. -/
def Plan.Batches (plan : Plan) (config : ModelConfig) : Prop :=
  ∃ p, config.ListsProfile p ∧ ∀ t ∈ plan.ios true, 0 < t.maxBatch p

theorem supported_pos_iff {plan : Plan} {config : ModelConfig} {m : ℕ}
    (h : getMaxSupportedBatchSize plan config = .ok m) : 0 < m ↔ plan.Batches config := by
  obtain ⟨indices, hindices, hbound, hattained⟩ := getMaxSupportedBatchSize_spec h
  have hmem := (mem_getProfileIndices hindices).2
  constructor
  · intro hm
    obtain ⟨p, hp, hbest⟩ := hattained.resolve_left hm.ne'
    have hone : (1 : ℤ) ≤ getProfileMaxBatchSize plan p := by omega
    refine ⟨p, (hmem p).mp hp, fun t ht => ?_⟩
    exact ((le_getProfileMaxBatchSize plan p 1).mp hone).2 t ht
  · rintro ⟨p, hp, hinputs⟩
    have hone : (1 : ℤ) ≤ getProfileMaxBatchSize plan p :=
      (le_getProfileMaxBatchSize plan p 1).mpr ⟨by decide, hinputs⟩
    have hle := hbound p ((hmem p).mpr hp)
    omega

/-- Without entries there are no hints. -/
theorem readBatchHints_of_no_ios {plan : Plan} {config : ModelConfig} {hints : BatchHints}
    (hnone : ∀ isInput, config.ios isInput = []) (h : readBatchHints plan config = .ok hints) :
    hints = {} := by
  obtain ⟨mid, hmid, h⟩ := readBatchHints_of_ok h
  rw [hnone, List.foldlM_nil, pure_eq_ok] at hmid h
  rw [← h, ← hmid]

/-- Every entry passes the check an instance makes of it, against the tensor it was generated
from. -/
def EveryIoSupported (plan : Plan) (config : ModelConfig) : Prop :=
  ∀ isInput, List.Forall₂ (IoSupported config.name (decide (0 < config.maxBatchSize)))
    (plan.ios isInput) (config.ios isInput)

/-- The tensors of the plan survive the completion with the batching the inputs decide on. -/
def Plan.Completable (plan : Plan) (config : ModelConfig) : Prop :=
  ∀ t ∈ plan.tensors,
    (plan.Batches config → t.Completable true) ∧ (¬ plan.Batches config → t.Completable false)

theorem everyIoSupported_refIo {plan : Plan} {config : ModelConfig}
    (h : ∀ isInput, config.ios isInput = getRefIo plan isInput config.maxBatchSize) :
    EveryIoSupported plan config ↔
      ∀ t ∈ plan.tensors, t.Completable (decide (0 < config.maxBatchSize)) := by
  have hlist : ∀ isInput, List.Forall₂ (IoSupported config.name (decide (0 < config.maxBatchSize)))
      (plan.ios isInput) (config.ios isInput) ↔
      ∀ t ∈ plan.ios isInput, t.Completable (decide (0 < config.maxBatchSize)) := by
    intro isInput
    rw [h, getRefIo, List.forall₂_map_right_iff, List.forall₂_same]
    exact forall₂_congr fun t _ => ioSupported_refIo
  constructor
  · intro hall t ht
    exact (hlist t.isInput).mp (hall t.isInput) t (Plan.mem_ios.mpr ⟨ht, rfl⟩)
  · intro hall isInput
    exact (hlist isInput).mpr fun t ht => hall t (Plan.mem_ios.mp ht).1

/-- **When a generated configuration is accepted.**  If auto-completion of a configuration without
entries succeeds, every generated entry passes the check of an instance if and only if: no shape
tensor has two or more dimensions; and if every input takes a batch in some profile that is asked,
every execution tensor has a dimension and no shape tensor is an empty vector, otherwise no shape
tensor has an unknown number of values. -/
theorem generated_supported_iff {modelPath : String} {plan : Plan} {config config' : ModelConfig}
    (hnone : ∀ isInput, config.ios isInput = [])
    (h : autoCompleteConfigHelper modelPath (some plan) config = .ok config') :
    EveryIoSupported plan config' ↔ plan.Completable config := by
  obtain ⟨hints, supported, m, inputs, outputs, hhints, hsupported, hm, hle, hinputs, houtputs, rfl⟩ :=
    autoCompleteConfigHelper_eq_ok.mp h
  rw [hnone, fixIo, if_pos rfl, Except.ok.injEq] at hinputs houtputs
  rw [readBatchHints_of_no_ios hnone hhints] at hm
  have hm : m = supported := (hintedBatchSize_eq_ok.mp hm).2
  have hmax := completedConfig_maxBatchSize config m inputs outputs
  have hios : ∀ isInput, (completedConfig config m inputs outputs).ios isInput =
      getRefIo plan isInput (completedConfig config m inputs outputs).maxBatchSize := by
    intro isInput
    rw [hmax]
    cases isInput
    · exact houtputs.symm
    · exact hinputs.symm
  have hbatching : 0 < (completedConfig config m inputs outputs).maxBatchSize ↔
      plan.Batches config := by
    rw [hmax, ← supported_pos_iff hsupported, ← hm, completedBatchSize]
    split <;> omega
  rw [everyIoSupported_refIo hios, Plan.Completable]
  refine forall₂_congr fun t _ => ?_
  by_cases hb : plan.Batches config
  · rw [decide_eq_true (hbatching.mpr hb)]
    exact ⟨fun h => ⟨fun _ => h, fun hn => absurd hb hn⟩, fun h => h.1 hb⟩
  · rw [decide_eq_false (mt hbatching.mp hb)]
    exact ⟨fun h => ⟨fun hn => absurd hn hb, fun _ => h⟩, fun h => h.2 hb⟩

theorem generated_supported_iff_twoProfile :
    ∃ config', autoCompleteConfigHelper "" (some twoProfilePlan) twoGroupConfig = .ok config' ∧
      (EveryIoSupported twoProfilePlan config' ↔ twoProfilePlan.Completable twoGroupConfig) := by
  obtain ⟨config', h, -⟩ := twoGroupConfig_completed
  exact ⟨config', h, generated_supported_iff (by decide) h⟩

/-- A plan of one batched matrix input and a scalar output. -/
def scalarOutputPlan : Plan where
  tensors :=
    [{ name := "x", isInput := true, shape := rowDims (-1), maxShape := fun _ => rowDims 8 },
     { name := "sum", isInput := false, shape := default }]
  names_nodup := by decide

/-- The scalar output is taken for a batched one and rejected. -/
theorem generated_not_supported :
    ¬ ∀ (plan : Plan) (config config' : ModelConfig), (∀ isInput, config.ios isInput = []) →
      autoCompleteConfigHelper "" (some plan) config = .ok config' →
        EveryIoSupported plan config' := by
  intro hall
  have hcompleted : ∃ config', autoCompleteConfigHelper "" (some scalarOutputPlan) {} =
      .ok config' ∧ config'.name = "" ∧ config'.maxBatchSize = 8 ∧
        config'.ios false = getRefIo scalarOutputPlan false 8 := ⟨_, rfl, rfl, rfl, rfl⟩
  obtain ⟨config', h, hname, hmax, hios⟩ := hcompleted
  have hout := hall scalarOutputPlan {} config' (by decide) h false
  rw [hios, hname, hmax] at hout
  obtain ⟨dims, hdims, hcheck⟩ := (List.forall₂_cons.mp hout).1
  cases hdims
  exact absurd hcheck (by decide)

end TensorrtBackend

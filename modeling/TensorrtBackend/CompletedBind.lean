import TensorrtBackend.CompletedIo
import TensorrtBackend.GeneratedIo

/-!
# Binding the tensors of a completed configuration

When no outside call fails, whether the tensor of a generated entry can be bound is a matter of the
tensor alone.

* `bindInput_total`, `bindShapeInput_total`, `bindOutput_total`, `bindShapeOutput_total`: a tensor
  that has what it needs is bound.
* `bindInput_rank`, `bindShapeInput_shape`, `bindOutput_rank`, `bindShapeOutput_shape`: a tensor that
  is bound has had it.
-/

namespace TensorrtBackend

open Box Checked

/-! ### What the load meets -/

/-- The dims of a profile are dims of the tensors: they have the rank of the tensor and reach every
dim that is known, except for the batch dimension. -/
structure ProfileOf (loader : IoLoader) (ctx : TensorRTContext) : Prop where
  ints : ctx.MaxDimsAreInts
  rank : ∀ io t, loader.tensors[io]? = some t → t.isInput = true →
    (ctx.maxDims io).nbDims = t.shape.nbDims
  known : ∀ io t, loader.tensors[io]? = some t → t.isInput = true → ∀ i < t.shape.nbDims,
    (loader.supportBatching = true → i ≠ 0) → t.shape.dim i ≠ -1 →
      (ctx.minDims io).dim i ≤ t.shape.dim i ∧ t.shape.dim i ≤ (ctx.maxDims io).dim i

/-- The engine has a vectorized dimension for every tensor that is not linear, and no outside call
fails. -/
structure IoLoader.CallsSucceed (loader : IoLoader) : Prop where
  vectorized : ∀ t ∈ loader.tensors, t.format.isLinearFormat = false → t.format.vectorizedDim ≠ -1
  setInputShape : ∀ set profileIdx io dims,
    (loader.calls set).setInputShape profileIdx io dims = true
  byteSize : ∀ set profileIdx io, (loader.calls set).byteSizeError profileIdx io = none
  cudaMalloc : ∀ set io, (loader.calls set).cudaMalloc io = none
  cudaMemset : ∀ set io, (loader.calls set).cudaMemset io = none
  cudaHostGetDevicePointer : ∀ set io, (loader.calls set).cudaHostGetDevicePointer io = none
  setTensorAddress : ∀ set profileIdx io, (loader.calls set).setTensorAddress profileIdx io = true
  setInputTensorAddress : ∀ set profileIdx io,
    (loader.shapeCalls set).setInputTensorAddress profileIdx io = true
  fullByteSize : ∀ set profileIdx io, (loader.outputCalls set).fullByteSize profileIdx io ≠ -1
  inferShapes : loader.inferShapes = true

/-- The configuration names tensors in its inputs and outputs only. -/
structure IoLoader.OnlyIos (loader : IoLoader) : Prop where
  sequenceControls : loader.config.sequenceControls = []
  batchInput : loader.config.batchInput = []
  sequenceStates : loader.config.sequenceStates = []
  batchOutput : loader.batchOutput = []

section Contexts

variable {loader : IoLoader} {ctx ctx' : TensorRTContext} {set io : ℕ} {t : BoundTensor}

/-- Only the limits of the profile matter. -/
theorem ProfileOf.congr (h : ProfileOf loader ctx) (hlimits : SameLimits ctx ctx') :
    ProfileOf loader ctx' := by
  constructor
  · intro io'
    rw [(hlimits io').2]
    exact h.ints io'
  · intro io' t' ht' hinput
    rw [(hlimits io').2]
    exact h.rank io' t' ht' hinput
  · intro io' t' ht' hinput
    rw [(hlimits io').1, (hlimits io').2]
    exact h.known io' t' ht' hinput

theorem sameLimits_markDynamic (ctx : TensorRTContext) (io : ℕ) (engineDims : Dims) :
    SameLimits ctx (ctx.markDynamic io engineDims) := fun io' =>
  ⟨markDynamic_minDims ctx io engineDims io', markDynamic_maxDims ctx io engineDims io'⟩

/-! ### The dims of a generated entry -/

/-- The dims of the entry generated for an execution tensor. -/
def generatedDims (maxBatchSize : ℕ) (shape : Dims) : List ℤ :=
  (dimsToDimVec shape).drop (if maxBatchSize = 0 then 0 else 1)

/-- The dims of the entry generated for a shape tensor. -/
def generatedShapeDims (maxBatchSize : ℕ) (shape : Dims) : List ℤ :=
  if shape.nbDims = 0 then [] else [shape.dim 0 - if maxBatchSize = 0 then 0 else 1]

/-- The dims an execution input is configured with. -/
def generatedFull (loader : IoLoader) (shape : Dims) : List ℤ :=
  fullConfigDim loader.toLoader (generatedDims loader.config.maxBatchSize shape) false none

theorem supportBatching_iff : loader.supportBatching = true ↔ loader.config.maxBatchSize ≠ 0 := by
  rw [Loader.supportBatching, decide_eq_true_iff]
  exact Nat.pos_iff_ne_zero

/-- With the batch dimension they are the dims of the tensor. -/
theorem generatedFull_length {shape : Dims} (hrank : loader.supportBatching = true → shape.nbDims ≠ 0) :
    (generatedFull loader shape).length = shape.nbDims := by
  unfold generatedFull fullConfigDim generatedDims
  by_cases hbatch : loader.supportBatching = true
  · have hone := hrank hbatch
    rw [if_neg Bool.false_ne_true, if_pos hbatch, if_neg (supportBatching_iff.mp hbatch),
      List.length_cons, List.length_drop, dimsToDimVec_length]
    omega
  · have hnone : loader.config.maxBatchSize = 0 := not_not.mp (mt supportBatching_iff.mpr hbatch)
    rw [if_neg Bool.false_ne_true, if_neg hbatch, if_pos hnone, List.drop_zero,
      dimsToDimVec_length]

theorem generatedFull_ne_nil_iff {shape : Dims}
    (hrank : loader.supportBatching = true → shape.nbDims ≠ 0) :
    generatedFull loader shape ≠ [] ↔ shape.nbDims ≠ 0 := by
  rw [← generatedFull_length hrank, ne_eq, ne_eq, List.length_eq_zero_iff]

theorem generatedFull_getD {shape : Dims} {i : ℕ} (hi : i < shape.nbDims)
    (hother : loader.supportBatching = true → i ≠ 0) :
    (generatedFull loader shape).getD i 0 = shape.dim i := by
  unfold generatedFull fullConfigDim generatedDims
  by_cases hbatch : loader.supportBatching = true
  · rw [if_neg Bool.false_ne_true, if_pos hbatch, if_neg (supportBatching_iff.mp hbatch)]
    cases i with
    | zero => exact absurd rfl (hother hbatch)
    | succ i =>
        rw [List.getD_cons_succ, List.getD_eq_getElem?_getD, List.getElem?_drop, Nat.add_comm 1 i,
          ← List.getD_eq_getElem?_getD, dimsToDimVec_getD hi]
  · have hnone : loader.config.maxBatchSize = 0 := not_not.mp (mt supportBatching_iff.mpr hbatch)
    rw [if_neg Bool.false_ne_true, if_neg hbatch, if_pos hnone, List.drop_zero,
      dimsToDimVec_getD hi]

/-- The dims are valid for every profile. -/
theorem generatedFull_valid (hctx : ProfileOf loader ctx) (ht : loader.tensors[io]? = some t)
    (hinput : t.isInput = true) (hrank : loader.supportBatching = true → t.shape.nbDims ≠ 0) :
    validateDimensionVec (validatedDims loader.supportBatching (generatedFull loader t.shape))
      (ctx.minDims io) (ctx.maxDims io) false = none := by
  refine validateDimensionVec_eq_none_iff.mpr ⟨?_, fun i hi => ?_⟩
  · rw [validatedDims_length, generatedFull_length hrank, hctx.rank io t ht hinput]
  · rw [hctx.rank io t ht hinput] at hi
    by_cases hfirst : loader.supportBatching = true ∧ i = 0
    · obtain ⟨hbatch, rfl⟩ := hfirst
      rw [hbatch]
      refine Or.inl (validatedDims_batch (List.ne_nil_of_length_pos ?_))
      rw [generatedFull_length hrank]
      exact hi
    · have hother : loader.supportBatching = true → i ≠ 0 := fun hb h0 => hfirst ⟨hb, h0⟩
      rw [validatedDims_getD hother, generatedFull_getD hi hother]
      by_cases hwild : t.shape.dim i = -1
      · exact Or.inl hwild
      · exact Or.inr (hctx.known io t ht hinput i hi hother hwild)

/-- The lowered profile still is one of the engine. -/
theorem ProfileOf.lowered {byteSize : ℤ} {format : TensorFormat}
    (hctx : ProfileOf loader ctx) (ht : loader.tensors[io]? = some t)
    (hrank : loader.supportBatching = true → t.shape.nbDims ≠ 0)
    (h : configureContext BackendCommon.plain loader.toLoader set io t
      (generatedDims loader.config.maxBatchSize t.shape) false false none format ctx =
        .ok (ctx', byteSize)) : ProfileOf loader ctx' := by
  obtain ⟨maximum, hconf, -⟩ := configureContext_configured h
  have hmarked := hctx.congr (sameLimits_markDynamic ctx io t.shape)
  have hlowered := lowered_of_eq_ok (hmarked.ints io) hconf
  have hlen : (generatedFull loader t.shape).length = t.shape.nbDims := generatedFull_length hrank
  constructor
  · exact (configureContext_eq_ok hctx.ints h).1.areInts hctx.ints
  · intro io' t' ht' hinput
    by_cases hio : io = io'
    · subst hio
      obtain rfl := Option.some.inj (ht.symm.trans ht')
      rw [hlowered.nbDims]
      exact hlen
    · rw [(configureContext_frame h io').2 hio]
      exact hctx.rank io' t' ht' hinput
  · intro io' t' ht' hinput i hi hother hknown
    rw [(configureContext_frame h io').1]
    by_cases hio : io = io'
    · subst hio
      obtain rfl := Option.some.inj (ht.symm.trans ht')
      have hfull : (generatedFull loader t.shape).getD i 0 = t.shape.dim i :=
        generatedFull_getD hi hother
      rcases hlowered.dim_other (hlen.symm ▸ hi) hother with ⟨hwild, -⟩ | ⟨-, hdim⟩
      · exact absurd (hfull.symm.trans hwild) hknown
      · rw [hdim]
        exact ⟨(hctx.known io t ht' hinput i hi hother hknown).1, hfull.ge⟩
    · rw [(configureContext_frame h io').2 hio]
      exact hctx.known io' t' ht' hinput i hi hother hknown

end Contexts

/-! ### What a tensor needs -/

/-- The tensor can be bound to the entry that is generated for it.  The first dim of an execution
input is read whether or not the model batches. -/
structure IoLoader.Bindable (loader : IoLoader) (io : ℕ) (t : BoundTensor) : Prop where
  dataType : t.dataType ≠ .invalid
  execution : t.isShapeInferenceIo = false → t.isInput = true ∨ loader.supportBatching = true →
    t.shape.nbDims ≠ 0
  shape : t.isShapeInferenceIo = true → t.shape.nbDims = 0 ∨
    t.shape.nbDims = 1 ∧ t.shape.dim 0 ≠ if loader.supportBatching then 0 else -1
  shapeInput : t.isShapeInferenceIo = true → t.isInput = true →
    (t.dataType = .int32 ∨ t.dataType = .int64) ∧
      ∀ set < loader.numCopyStreams, loader.needsBuffer BackendCommon.plain set io = true
  shapeOutput : t.isShapeInferenceIo = true → t.isInput = false → t.dataType = .int64

section Bind

variable {loader : IoLoader} {ctx : TensorRTContext} {set io : ℕ} {t : BoundTensor} {s : LoadState}

theorem byteSize_ne_zero {dataType : DataType} {trtType : TrtDataType}
    (h : dataType = convertTrtTypeToDataType trtType) (hvalid : dataType ≠ .invalid) :
    dataType.byteSize ≠ 0 := by
  subst h
  cases trtType <;> first | exact absurd rfl hvalid | decide

theorem setFormat_total (hloader : loader.CallsSucceed) (ht : t ∈ loader.tensors)
    (format : TensorFormat) :
    ∃ format', setFormat loader.toLoader t format = .ok format' := by
  unfold setFormat
  by_cases hlinear : t.format.isLinearFormat = true
  · exact ⟨_, if_pos hlinear⟩
  · rw [if_neg hlinear, if_neg (hloader.vectorized t ht (Bool.eq_false_of_not_eq_true hlinear))]
    exact ⟨_, rfl⟩

/-- When the dims generated for an execution tensor pass its check. -/
theorem compareDims_generated {name : String} {shape : Dims} :
    compareDimsSupported loader.config.name name shape
        (generatedDims loader.config.maxBatchSize shape) loader.supportBatching false = none ↔
      (loader.supportBatching = true → shape.nbDims ≠ 0) := by
  refine compareDimsSupported_refIo.trans ?_
  rw [Loader.supportBatching, decide_eq_true_iff]

theorem checkInputDims_generated {isDynamic : Bool} :
    checkInputDims loader.toLoader t (generatedDims loader.config.maxBatchSize t.shape) false false
        isDynamic = .ok () ↔ (loader.supportBatching = true → t.shape.nbDims ≠ 0) := by
  have hdims : compareDimsSupported loader.config.name t.name t.shape
      (generatedDims loader.config.maxBatchSize t.shape) loader.supportBatching false = none ↔
        (loader.supportBatching = true → t.shape.nbDims ≠ 0) := compareDims_generated
  rw [← hdims]
  unfold checkInputDims
  rw [if_neg fun h => Bool.false_ne_true h.1, if_neg Bool.false_ne_true]
  cases compareDimsSupported loader.config.name t.name t.shape
      (generatedDims loader.config.maxBatchSize t.shape) loader.supportBatching false with
  | none => exact iff_of_true rfl rfl
  | some err => exact iff_of_false (by simp) (by simp)

/-- When the dims generated for a shape tensor pass its check. -/
theorem compareShapeDims_generated {modelName name : String} {shape : Dims} :
    compareShapeDimsSupported modelName name shape
        (generatedShapeDims loader.config.maxBatchSize shape) loader.supportBatching = none ↔
      shape.nbDims = 0 ∨
        shape.nbDims = 1 ∧ shape.dim 0 ≠ if loader.supportBatching then 0 else -1 := by
  refine compareShapeDimsSupported_refIo.trans ?_
  by_cases hbatch : loader.supportBatching = true
  · rw [if_pos hbatch, if_neg (supportBatching_iff.mp hbatch)]
  · rw [if_neg hbatch, if_pos (not_not.mp (mt supportBatching_iff.mpr hbatch))]

/-- An execution input has its profile lowered and its bytes counted. -/
theorem configureContext_total (hloader : loader.CallsSucceed) (hctx : ProfileOf loader ctx)
    (ht : loader.tensors[io]? = some t) (hinput : t.isInput = true)
    (hrank : t.shape.nbDims ≠ 0) (hbytes : t.dataType.byteSize ≠ 0)
    {format : TensorFormat} (hformat : format.ComponentsPos) :
    ∃ x, configureContext BackendCommon.plain loader.toLoader set io t
      (generatedDims loader.config.maxBatchSize t.shape) false false none format ctx = .ok x := by
  have hmarked := hctx.congr (sameLimits_markDynamic ctx io t.shape)
  obtain ⟨maximum, hmaximum⟩ : ∃ maximum, maximum = loweredDims loader.supportBatching
      (generatedFull loader t.shape) ((ctx.markDynamic io t.shape).maxDims io) := ⟨_, rfl⟩
  have hconf : configureInputDimensions loader.toLoader set (ctx.markDynamic io t.shape) io t.name
      (generatedFull loader t.shape) =
        .ok ((ctx.markDynamic io t.shape).setMaxDims io maximum, maximum) :=
    configureInputDimensions_eq_ok_iff.mpr ⟨(generatedFull_ne_nil_iff fun _ => hrank).mpr hrank,
      generatedFull_valid hmarked ht hinput fun _ => hrank, hmaximum, rfl,
      hloader.setInputShape _ _ _ _⟩
  have hnonneg := (configureInputDimensions_eq_ok hmarked.ints fullConfigDim_headD hconf).1.nonneg
  have hsize : BackendCommon.plain.byteSize t.dataType (format.bufferShape maximum) ≠ -1 := by
    have hpadded := (below_bufferShape hformat hnonneg).bound_nonneg
    rw [plain_byteSize_of_nonneg hpadded, if_neg hbytes]
    have hbytes' := mul_nonneg (Int.natCast_nonneg t.dataType.byteSize) (List.prod_nonneg hpadded)
    omega
  refine ⟨((ctx.markDynamic io t.shape).setMaxDims io maximum,
    BackendCommon.plain.byteSize t.dataType (format.bufferShape maximum)),
    bind_eq_ok.mpr ⟨(), checkInputDims_generated.mpr fun _ => hrank, bind_eq_ok.mpr ⟨_, hconf, ?_⟩⟩⟩
  simp only [hloader.byteSize]
  exact bind_eq_ok.mpr ⟨(), failIf_eq_ok.mpr hsize, rfl⟩

/-- An execution input that has no buffer is given one. -/
theorem bindInput_total (hloader : loader.CallsSucceed)
    (hctxs : ∀ ctx ∈ s.trtContexts, ProfileOf loader ctx)
    (ht : loader.tensors[io]? = some t) (hinput : t.isInput = true)
    (hrank : t.shape.nbDims ≠ 0) (hbytes : t.dataType.byteSize ≠ 0)
    {inputDatatype : String} (hdataType : loader.configDataType inputDatatype = t.dataType)
    (hslot : s.slot set io = default) :
    ∃ l, bindInput BackendCommon.plain loader.toLoader set io t inputDatatype
        (generatedDims loader.config.maxBatchSize t.shape) false false s = .ok l ∧
      ∀ ctx ∈ l.trtContexts, ProfileOf loader ctx := by
  have hmem := List.mem_of_getElem? ht
  have hinvalid : t.dataType ≠ .invalid := fun h => hbytes (h ▸ rfl)
  obtain ⟨format, hformat⟩ := setFormat_total hloader hmem (s.slot set io).info.format
  have hpos := setFormat_componentsPos hformat
  have hbatchInput : (s.slot set io).info.batchInput = none := by rw [hslot]; rfl
  have hconfigure : ∀ ctx ∈ s.trtContexts, ∃ x, configureContext BackendCommon.plain loader.toLoader
      set io t (generatedDims loader.config.maxBatchSize t.shape) false false none format ctx =
        .ok x := fun ctx hctx =>
    configureContext_total hloader (hctxs ctx hctx) ht hinput hrank hbytes hpos
  obtain ⟨configured, hconfigured⟩ := exists_mapM_eq_ok hconfigure
  have hallocate : ∃ slot, allocateInput loader.toLoader set io t.name false
      ((configured.map Prod.snd).foldl max 0) { (s.slot set io).info with format := format } =
        .ok slot := by
    unfold allocateInput
    rw [hloader.cudaMalloc, hloader.cudaMemset, hloader.cudaHostGetDevicePointer, ite_self]
    exact ⟨_, rfl⟩
  obtain ⟨slot, hslot'⟩ := hallocate
  refine ⟨_, bind_eq_ok.mpr ⟨(), failIf_eq_ok.mpr ?_, bind_eq_ok.mpr ⟨(), failIf_eq_ok.mpr ?_,
    bind_eq_ok.mpr ⟨(), failIf_eq_ok.mpr ?_, bind_eq_ok.mpr ⟨format, hformat,
    bind_eq_ok.mpr ⟨configured, ?_, bind_eq_ok.mpr ⟨slot, hslot',
    bind_eq_ok.mpr ⟨(), failIf_eq_ok.mpr ?_, rfl⟩⟩⟩⟩⟩⟩⟩, ?_⟩
  · rw [hslot]
    exact Bool.false_ne_true
  · rw [hinput]
    exact fun h => Bool.noConfusion h
  · rw [hdataType]
    exact not_or.mpr ⟨hinvalid, not_not.mpr rfl⟩
  · rw [hbatchInput]
    exact hconfigured
  · rintro ⟨x, -, hx⟩
    rw [hloader.setTensorAddress] at hx
    exact Bool.noConfusion hx
  · intro ctx' hctx'
    obtain ⟨x, hx, rfl⟩ := List.mem_map.mp hctx'
    obtain ⟨ctx, hctx, hconf⟩ := exists_of_mem_mapM hconfigured hx
    exact (hctxs ctx hctx).lowered ht (fun _ => hrank) hconf

/-- A shape input has its values stored. -/
theorem configureShapeContext_total (hloader : loader.CallsSucceed) {dims : List ℤ}
    (hdims : compareShapeDimsSupported loader.name t.name t.shape dims
      loader.supportBatching = none) (inputDatatype : DataType) (format : TensorFormat) :
    ∃ x, configureShapeContext BackendCommon.plain loader.toShapeLoader set io t inputDatatype dims
      format ctx = .ok x := by
  have hsize : ∀ ctx, ∃ size, shapeByteSize BackendCommon.plain loader.toShapeLoader set io t format
      ctx = .ok size := by
    intro ctx
    unfold shapeByteSize
    rw [hloader.byteSize]
    split
    · exact ⟨_, rfl⟩
    · split <;> exact ⟨_, rfl⟩
  unfold configureShapeContext
  simp only [hdims]
  obtain ⟨size, hsize⟩ := hsize (((ctx.markDynamic io t.shape).setShapes io
    (shapeCount ((ctx.markDynamic io t.shape).maxDims io))
    (profileShapes loader.toShapeLoader (ctx.markDynamic io t.shape).profileIdx io inputDatatype
      (shapeCount ((ctx.markDynamic io t.shape).maxDims io)))))
  refine ⟨_, bind_eq_ok.mpr ⟨(), failIf_eq_ok.mpr ?_, bind_eq_ok.mpr ⟨(), failIf_eq_ok.mpr ?_,
    bind_eq_ok.mpr ⟨size, hsize, rfl⟩⟩⟩⟩
  · rw [hloader.setInputShape]
    exact fun h => Bool.noConfusion h
  · rw [hloader.setInputTensorAddress]
    exact fun h => Bool.noConfusion h

/-- A shape input is bound; whether it is given a buffer depends on the bytes it needs. -/
theorem bindShapeInput_total (hloader : loader.CallsSucceed)
    (hctxs : ∀ ctx ∈ s.trtContexts, ProfileOf loader ctx) (ht : t ∈ loader.tensors)
    (hdataType : t.dataType = .int32 ∨ t.dataType = .int64) {dims : List ℤ}
    (hdims : compareShapeDimsSupported loader.name t.name t.shape dims
      loader.supportBatching = none) :
    ∃ l, bindShapeInput BackendCommon.plain loader.toShapeLoader set io t t.dataType dims s = .ok l ∧
      ∀ ctx ∈ l.trtContexts, ProfileOf loader ctx := by
  obtain ⟨format, hformat⟩ := setFormat_total hloader ht (s.slot set io).info.format
  have hconfigure : ∀ ctx ∈ s.trtContexts, ∃ x, configureShapeContext BackendCommon.plain
      loader.toShapeLoader set io t t.dataType dims format ctx = .ok x := fun ctx _ =>
    configureShapeContext_total hloader hdims t.dataType format
  obtain ⟨configured, hconfigured⟩ := exists_mapM_eq_ok hconfigure
  have hallocate : ∀ slot, ∃ slot', allocateShapeInput loader.toShapeLoader set io t.name
      ((configured.map Prod.snd).foldl max 0) slot = .ok slot' := by
    intro slot
    unfold allocateShapeInput
    rw [hloader.cudaMalloc]
    split <;> exact ⟨_, rfl⟩
  obtain ⟨slot, hslot⟩ := hallocate
    { s.slot set io with info := { (s.slot set io).info with format := format } }
  refine ⟨_, bind_eq_ok.mpr ⟨(), failIf_eq_ok.mpr ?_, bind_eq_ok.mpr ⟨(), failIf_eq_ok.mpr ?_,
    bind_eq_ok.mpr ⟨format, hformat, bind_eq_ok.mpr ⟨configured, hconfigured,
    bind_eq_ok.mpr ⟨slot, hslot, rfl⟩⟩⟩⟩⟩, ?_⟩
  · rintro ⟨h32, h64⟩
    exact hdataType.elim h32 h64
  · rintro (hinvalid | hother)
    · rw [hinvalid] at hdataType
      exact hdataType.elim (fun h => nomatch h) fun h => nomatch h
    · exact hother rfl
  · intro ctx' hctx'
    obtain ⟨x, hx, rfl⟩ := List.mem_map.mp hctx'
    obtain ⟨ctx, hctx, hconf⟩ := exists_of_mem_mapM hconfigured hx
    have hstored := configureShapeContext_eq_ok hconf
    rw [hstored]
    exact (hctxs ctx hctx).congr (sameLimits_markDynamic ctx io t.shape)

/-- The last calls for an output. -/
theorem allocateOutput_total (hloader : loader.CallsSucceed) (outputName : String)
    (isDynamic mapped : Bool) :
    loader.allocateOutput set io outputName isDynamic mapped = .ok () := by
  unfold IoLoader.allocateOutput
  rw [hloader.cudaMalloc, hloader.cudaHostGetDevicePointer, ite_self, ite_self]
  rfl

theorem setOutputAddress_total (hloader : loader.CallsSucceed) (outputName : String) (isDynamic : Bool)
    (contexts : List TensorRTContext) :
    loader.setOutputAddress set io outputName isDynamic contexts = .ok () := by
  refine failIf_eq_ok.mpr ?_
  rintro ⟨-, ctx, -, haddress⟩
  rw [hloader.setTensorAddress] at haddress
  exact Bool.noConfusion haddress

/-- The contexts an output leaves only have the binding marked. -/
theorem profiles_of_marked {f : TensorRTContext → Result (TensorRTContext × ℤ)}
    {ctxs : List TensorRTContext} {configured : List (TensorRTContext × ℤ)}
    (hctxs : ∀ ctx ∈ ctxs, ProfileOf loader ctx) (h : ctxs.mapM f = .ok configured)
    (hmark : ∀ ctx x, f ctx = .ok x → x.1 = ctx.markDynamic io t.shape) :
    ∀ ctx ∈ configured.map Prod.fst, ProfileOf loader ctx := by
  intro ctx' hctx'
  obtain ⟨x, hx, rfl⟩ := List.mem_map.mp hctx'
  obtain ⟨ctx, hctx, hconf⟩ := exists_of_mem_mapM h hx
  rw [hmark ctx x hconf]
  exact (hctxs ctx hctx).congr (sameLimits_markDynamic ctx io t.shape)

/-- A shape output that has no buffer is given one. -/
theorem bindShapeOutput_total (hloader : loader.CallsSucceed)
    (hctxs : ∀ ctx ∈ s.trtContexts, ProfileOf loader ctx) (ht : t ∈ loader.tensors)
    (houtput : t.isInput = false) {config : ConfigIo} (hconfig : config.dataType = some "TYPE_INT64")
    (hint64 : loader.configDataType "TYPE_INT64" = .int64) (hdataType : t.dataType = .int64)
    {dims : List ℤ} (hused : config.usedDims = .ok dims)
    (hdims : compareShapeDimsSupported loader.name t.name t.shape dims loader.supportBatching = none)
    (hslot : (s.slot set io).allocated = false) :
    ∃ l, loader.bindShapeOutput BackendCommon.plain set io t config s = .ok l ∧
      ∀ ctx ∈ l.trtContexts, ProfileOf loader ctx := by
  obtain ⟨format, hformat⟩ := setFormat_total hloader ht (s.slot set io).info.format
  obtain ⟨isDynamic, hdynamic⟩ : ∃ isDynamic, isDynamic =
      ((s.slot set io).info.isDynamicShapeOutput || containsWildcard t.shape) := ⟨_, rfl⟩
  have hconfigure : ∀ ctx ∈ s.trtContexts, ∃ x, loader.configureShapeOutputContext
      BackendCommon.plain set io t dims isDynamic ctx = .ok x := by
    intro ctx _
    unfold IoLoader.configureShapeOutputContext
    simp only [hdims, hloader.byteSize]
    split <;> exact ⟨_, rfl⟩
  obtain ⟨configured, hconfigured⟩ := exists_mapM_eq_ok hconfigure
  refine ⟨_, bind_eq_ok.mpr ⟨(), failIf_eq_ok.mpr ?_, bind_eq_ok.mpr ⟨(), failIf_eq_ok.mpr ?_,
    bind_eq_ok.mpr ⟨"TYPE_INT64", requireMember_eq_ok_iff.mpr hconfig,
    bind_eq_ok.mpr ⟨(), failIf_eq_ok.mpr (not_not.mpr rfl),
    bind_eq_ok.mpr ⟨(), failIf_eq_ok.mpr ?_, bind_eq_ok.mpr ⟨format, hformat,
    bind_eq_ok.mpr ⟨dims, hused, bind_eq_ok.mpr ⟨configured, ?_,
    bind_eq_ok.mpr ⟨(), allocateOutput_total hloader _ _ _,
    bind_eq_ok.mpr ⟨(), setOutputAddress_total hloader _ _ _, rfl⟩⟩⟩⟩⟩⟩⟩⟩⟩⟩, ?_⟩
  · rw [hslot]
    exact Bool.false_ne_true
  · rw [houtput]
    exact Bool.false_ne_true
  · rw [hint64, hdataType]
    rintro (h | h)
    · cases h
    · exact h rfl
  · rw [← hdynamic]
    exact hconfigured
  · exact profiles_of_marked hctxs hconfigured fun ctx x => configureShapeOutputContext_fst

/-- Another output that has no buffer is given one. -/
theorem bindOutput_total (hloader : loader.CallsSucceed)
    (hctxs : ∀ ctx ∈ s.trtContexts, ProfileOf loader ctx) (ht : t ∈ loader.tensors)
    (houtput : t.isInput = false) (hrank : loader.supportBatching = true → t.shape.nbDims ≠ 0)
    (hvalid : t.dataType ≠ .invalid) {outputDatatype : String}
    (hdataType : loader.configDataType outputDatatype = t.dataType)
    (hslot : (s.slot set io).allocated = false)
    (hragged : (s.slot set io).info.isBufferRagged = false) :
    ∃ l, loader.bindOutput set io t outputDatatype
        (generatedDims loader.config.maxBatchSize t.shape) s = .ok l ∧
      ∀ ctx ∈ l.trtContexts, ProfileOf loader ctx := by
  obtain ⟨format, hformat⟩ := setFormat_total hloader ht (s.slot set io).info.format
  obtain ⟨isDynamic, hdynamic⟩ : ∃ isDynamic, isDynamic =
      ((s.slot set io).info.isDynamicShapeOutput || s.trtContexts.any fun ctx =>
        containsWildcard ((loader.outputCalls set).tensorShape ctx.profileIdx io)) := ⟨_, rfl⟩
  have hdims : (if (s.slot set io).info.isBufferRagged then none
      else compareDimsSupported loader.config.name t.name t.shape
        (generatedDims loader.config.maxBatchSize t.shape) loader.supportBatching false) = none := by
    rw [hragged, if_neg Bool.false_ne_true]
    exact compareDims_generated.mpr hrank
  have hconfigure : ∀ ctx ∈ s.trtContexts, ∃ x,
      loader.configureOutputContext set io t isDynamic ctx = .ok x := by
    intro ctx _
    unfold IoLoader.configureOutputContext
    simp only
    split
    · exact ⟨_, rfl⟩
    · exact ⟨_, bind_eq_ok.mpr ⟨(), failIf_eq_ok.mpr (hloader.fullByteSize _ _ _), rfl⟩⟩
  obtain ⟨configured, hconfigured⟩ := exists_mapM_eq_ok hconfigure
  obtain ⟨slot, hbound⟩ : ∃ slot : BindingSlot, slot =
      { info :=
          { (s.slot set io).info with
            format := format
            isDynamicShapeOutput := isDynamic
            byteSize := if isDynamic then (s.slot set io).info.byteSize
              else toSizeT ((configured.map Prod.snd).foldl max 0)
            memoryType := if loader.zeroCopySupport then .cpuPinned else .gpu }
        allocated := true } := ⟨_, rfl⟩
  refine ⟨{ s with trtContexts := configured.map Prod.fst }.setSlot set io slot,
    bind_eq_ok.mpr ⟨(), failIf_eq_ok.mpr ?_, bind_eq_ok.mpr ⟨(), failIf_eq_ok.mpr ?_,
    bind_eq_ok.mpr ⟨(), failIf_eq_ok.mpr ?_, bind_eq_ok.mpr ⟨format, hformat, ?_⟩⟩⟩⟩, ?_⟩
  · rw [houtput]
    exact Bool.false_ne_true
  · rw [hslot]
    exact Bool.false_ne_true
  · rw [hdataType]
    exact not_or.mpr ⟨hvalid, not_not.mpr rfl⟩
  · simp only [hdims, ← hdynamic]
    refine bind_eq_ok.mpr ⟨(), failIf_eq_ok.mpr ?_, bind_eq_ok.mpr ⟨configured, hconfigured,
      bind_eq_ok.mpr ⟨(), allocateOutput_total hloader _ _ _,
      bind_eq_ok.mpr ⟨(), setOutputAddress_total hloader _ _ _, ?_⟩⟩⟩⟩
    · exact fun h => Bool.false_ne_true (hragged.symm.trans h.1)
    · rw [hbound]
      rfl
  · exact profiles_of_marked hctxs hconfigured fun ctx x => configureOutputContext_fst

/-! ### What a tensor that is bound has -/

theorem bindInput_rank {inputDatatype : String} {l : LoadState} (hne : s.trtContexts ≠ [])
    (h : bindInput BackendCommon.plain loader.toLoader set io t inputDatatype
      (generatedDims loader.config.maxBatchSize t.shape) false false s = .ok l) :
    t.shape.nbDims ≠ 0 := by
  obtain ⟨-, format, configured, -, hconfigured, -⟩ := bindInput_bound h
  obtain ⟨ctx, hctx⟩ := List.exists_mem_of_ne_nil _ hne
  obtain ⟨x, -, hx⟩ := Related.exists_right hconfigured hctx
  obtain ⟨⟨⟩, hcheck, -⟩ := bind_eq_ok.mp hx
  obtain ⟨maximum, hconf, -⟩ := configureContext_configured hx
  by_cases hbatch : loader.supportBatching = true
  · exact checkInputDims_generated.mp hcheck hbatch
  · have hfull := (configureInputDimensions_eq_ok_iff.mp hconf).1
    rw [fullConfigDim, if_neg Bool.false_ne_true, if_neg hbatch] at hfull
    refine (generatedFull_ne_nil_iff fun h => absurd h hbatch).mp ?_
    rw [generatedFull, fullConfigDim, if_neg Bool.false_ne_true, if_neg hbatch]
    exact hfull

theorem bindShapeInput_shape {dims : List ℤ} {l : LoadState} (hne : s.trtContexts ≠ [])
    (h : bindShapeInput BackendCommon.plain loader.toShapeLoader set io t t.dataType dims s = .ok l) :
    (t.dataType = .int32 ∨ t.dataType = .int64) ∧
      compareShapeDimsSupported loader.name t.name t.shape dims loader.supportBatching =
        none := by
  obtain ⟨_, hint, h⟩ := bind_eq_ok.mp h
  obtain ⟨-, -, h⟩ := bind_eq_ok.mp h
  obtain ⟨format, -, h⟩ := bind_eq_ok.mp h
  obtain ⟨configured, hconfigured, -⟩ := bind_eq_ok.mp h
  obtain ⟨ctx, hctx⟩ := List.exists_mem_of_ne_nil _ hne
  obtain ⟨x, -, hx⟩ := exists_mem_of_mapM hconfigured hctx
  constructor
  · by_contra hother
    exact failIf_eq_ok.mp hint (not_or.mp hother)
  · unfold configureShapeContext at hx
    simp only at hx
    split at hx
    · cases hx
    · assumption

theorem bindShapeOutput_shape {config : ConfigIo} {dataType : String} {dims : List ℤ} {l : LoadState}
    (hne : s.trtContexts ≠ []) (hmember : config.dataType = some dataType)
    (hused : config.usedDims = .ok dims)
    (h : loader.bindShapeOutput BackendCommon.plain set io t config s = .ok l) :
    dataType = "TYPE_INT64" ∧
      compareShapeDimsSupported loader.name t.name t.shape dims loader.supportBatching = none := by
  obtain ⟨-, -, h⟩ := bind_eq_ok.mp h
  obtain ⟨-, -, h⟩ := bind_eq_ok.mp h
  obtain ⟨dataType', hmember', h⟩ := bind_eq_ok.mp h
  obtain rfl := Option.some.inj (hmember.symm.trans (requireMember_eq_ok hmember'))
  obtain ⟨_, hint, h⟩ := bind_eq_ok.mp h
  obtain ⟨-, -, h⟩ := bind_eq_ok.mp h
  obtain ⟨format, -, h⟩ := bind_eq_ok.mp h
  obtain ⟨dims', hused', h⟩ := bind_eq_ok.mp h
  obtain rfl := Except.ok.inj (hused.symm.trans hused')
  obtain ⟨configured, hconfigured, -⟩ := bind_eq_ok.mp h
  obtain ⟨ctx, hctx⟩ := List.exists_mem_of_ne_nil _ hne
  obtain ⟨x, -, hx⟩ := exists_mem_of_mapM hconfigured hctx
  refine ⟨not_not.mp (failIf_eq_ok.mp hint), ?_⟩
  unfold IoLoader.configureShapeOutputContext at hx
  simp only at hx
  split at hx
  · cases hx
  · assumption

theorem bindOutput_rank {outputDatatype : String} {l : LoadState}
    (hragged : (s.slot set io).info.isBufferRagged = false)
    (h : loader.bindOutput set io t outputDatatype
      (generatedDims loader.config.maxBatchSize t.shape) s = .ok l) :
    loader.supportBatching = true → t.shape.nbDims ≠ 0 := by
  obtain ⟨-, -, h⟩ := bind_eq_ok.mp h
  obtain ⟨-, -, h⟩ := bind_eq_ok.mp h
  obtain ⟨-, -, h⟩ := bind_eq_ok.mp h
  obtain ⟨format, -, h⟩ := bind_eq_ok.mp h
  rw [hragged] at h
  split at h
  · cases h
  · rename_i hcompare
    exact compareDims_generated.mp hcompare

end Bind

end TensorrtBackend

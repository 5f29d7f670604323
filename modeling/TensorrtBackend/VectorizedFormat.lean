import TensorrtBackend.InputFit

/-!
# Sizes of inputs in a vectorized format

TensorRT stores a vectorized dimension in blocks of `components_per_element_`, the last one padded.
The load takes the padded size for the buffer and `Run` for the one size the representative request
should have, both by the expression `d += c - d % c`, which pads a whole number of blocks by one
block more.  The size `Run` expects is that of the batch, the one it compares it with that of a
single request.

* `vectorizedSize_exact_iff`: when the padded sizes are those of whole blocks.
* `sizeCheck_batch_iff`: when requests that pass the size check alone pass it together.
-/

namespace TensorrtBackend

open EarlyReturn PayloadM

/-- `byte_size` of a profile with the given maximum dims, in `InitializeExecuteInputBinding`. -/
def profileByteSize (lib : BackendCommon) (dataType : DataType) (format : TensorFormat)
    (maximumDims : List ℤ) : ℤ := lib.byteSize dataType (format.bufferShape maximumDims)

/-- `total_byte_size` of an input in a vectorized format, in `Run`. -/
def requiredByteSize (lib : BackendCommon) (dataType : DataType) (format : TensorFormat)
    (batchnShape : List ℤ) : ℤ := lib.byteSize dataType (format.padShape batchnShape)

/-- The bytes of the shape with the vectorized dimension in whole blocks, as few as possible. -/
def blockByteSize (dataType : DataType) (format : TensorFormat) (shape : List ℤ) : ℤ :=
  dataType.byteSize *
    (shape.modify format.vectorizedDim.toNat (Box.roundUp format.componentsPerElement)).prod

/-- The load allocates that many bytes for each profile. -/
theorem configureContext_profileByteSize {lib : BackendCommon} {loader : Loader} {set io : ℕ}
    {ctx ctx' : TensorRTContext} {t : BoundTensor} {inputDims : List ℤ} {isControl isRagged : Bool}
    {batchInput : Option BatchInput} {format : TensorFormat} {byteSize : ℤ}
    (hctx : ctx.MaxDimsAreInts)
    (h : configureContext lib loader set io t inputDims isControl isRagged batchInput format ctx =
      .ok (ctx', byteSize)) :
    byteSize = profileByteSize lib t.dataType format (dimsToDimVec (ctx'.maxDims io)) :=
  (configureContext_eq_ok hctx h).2.2

/-! ### Blocks -/

section Blocks

variable {lib : BackendCommon} {dataType : DataType} {format : TensorFormat} {shape : List ℤ}

theorem padShape_prod (hdim : format.vectorizedDim.toNat < shape.length) :
    (format.padShape shape).prod =
      (shape.getD format.vectorizedDim.toNat 0 + (format.componentsPerElement -
        (shape.getD format.vectorizedDim.toNat 0).tmod format.componentsPerElement)) *
        (shape.eraseIdx format.vectorizedDim.toNat).prod :=
  Box.prod_modify hdim _ 0

theorem padShape_nonneg (hcomponents : 1 ≤ format.componentsPerElement)
    (hnonneg : ∀ d ∈ shape, 0 ≤ d) : ∀ d ∈ format.padShape shape, 0 ≤ d := by
  have hpad : ∀ d : ℤ, 0 ≤ d → d ≤ d + (format.componentsPerElement -
      d.tmod format.componentsPerElement) := fun d _ => Box.le_pad (by omega)
  exact (Box.below_modify hpad hnonneg format.vectorizedDim.toNat).bound_nonneg

/-- The padded size has whole blocks, as few as possible, unless the dimension is a whole number of
blocks already. -/
theorem requiredByteSize_eq_iff (hlib : lib.byteSize = BackendCommon.plain.byteSize)
    (hsize : dataType.byteSize ≠ 0) (hnonneg : ∀ d ∈ shape, 0 ≤ d)
    (hdim : format.vectorizedDim.toNat < shape.length)
    (hcomponents : 1 ≤ format.componentsPerElement) :
    requiredByteSize lib dataType format shape = blockByteSize dataType format shape ↔
      ¬ format.componentsPerElement ∣ shape.getD format.vectorizedDim.toNat 0 ∨
        (shape.eraseIdx format.vectorizedDim.toNat).prod = 0 := by
  have hentry : 0 ≤ shape.getD format.vectorizedDim.toNat 0 := hnonneg _ (mem_of_getD hdim)
  have hbytes : (dataType.byteSize : ℤ) ≠ 0 := by exact_mod_cast hsize
  rw [requiredByteSize, hlib, plain_byteSize_of_nonneg (padShape_nonneg hcomponents hnonneg),
    if_neg hsize, blockByteSize, padShape_prod hdim, Box.prod_modify hdim _ 0,
    mul_right_inj' hbytes, mul_eq_mul_right_iff, Box.pad_eq_roundUp_iff (by omega) hentry]

/-- **When both sizes are those of whole blocks**: for a vectorized dimension that is a whole number
of blocks only if there is nothing to store. -/
theorem vectorizedSize_exact_iff (hlib : lib.byteSize = BackendCommon.plain.byteSize)
    (hsize : dataType.byteSize ≠ 0) (hlinear : format.isLinearFormat = false)
    (hnonneg : ∀ d ∈ shape, 0 ≤ d) (hdim : format.vectorizedDim.toNat < shape.length)
    (hcomponents : 1 ≤ format.componentsPerElement) :
    (profileByteSize lib dataType format shape = blockByteSize dataType format shape ∧
        requiredByteSize lib dataType format shape = blockByteSize dataType format shape) ↔
      ¬ format.componentsPerElement ∣ shape.getD format.vectorizedDim.toNat 0 ∨
        (shape.eraseIdx format.vectorizedDim.toNat).prod = 0 := by
  have hsame : profileByteSize lib dataType format shape =
      requiredByteSize lib dataType format shape := by
    simp [profileByteSize, requiredByteSize, TensorFormat.bufferShape, hlinear]
  rw [hsame, and_self]
  exact requiredByteSize_eq_iff hlib hsize hnonneg hdim hcomponents

end Blocks

/-- The theorem for two rows of ten columns in blocks of four. -/
theorem vectorizedSize_exact_iff_ten :
    (profileByteSize BackendCommon.plain .fp32 vectorizedFormat [2, 10] =
          blockByteSize .fp32 vectorizedFormat [2, 10] ∧
        requiredByteSize BackendCommon.plain .fp32 vectorizedFormat [2, 10] =
          blockByteSize .fp32 vectorizedFormat [2, 10]) ↔
      ¬ vectorizedFormat.componentsPerElement ∣ [2, 10].getD vectorizedFormat.vectorizedDim.toNat 0 ∨
        ([2, 10].eraseIdx vectorizedFormat.vectorizedDim.toNat).prod = (0 : ℤ) :=
  vectorizedSize_exact_iff rfl (by decide) rfl (by decide) (by decide) (by decide)

/-- **The slip**: two rows of eight columns are two whole blocks a row, and taken for three. -/
theorem vectorizedSize_inexact :
    profileByteSize BackendCommon.plain .fp32 vectorizedFormat [2, 8] = 96 ∧
      requiredByteSize BackendCommon.plain .fp32 vectorizedFormat [2, 8] = 96 ∧
      blockByteSize .fp32 vectorizedFormat [2, 8] = 64 ∧
      ¬ (profileByteSize BackendCommon.plain .fp32 vectorizedFormat [2, 8] =
            blockByteSize .fp32 vectorizedFormat [2, 8] ∧
          requiredByteSize BackendCommon.plain .fp32 vectorizedFormat [2, 8] =
            blockByteSize .fp32 vectorizedFormat [2, 8]) := by
  decide

/-! ### The size check of a batch -/

/-- The size of the request's data is not the expected one, which only matters for a vectorized
format. -/
def SizeMismatch (lib : BackendCommon) (inst : Instance) (set io total : ℕ)
    (input : InputProperties) : Prop :=
  (inst.bindingInfo set io).format.isLinearFormat = false ∧
    input.byteSize ≠ toSizeT (requiredByteSize lib input.datatype (inst.bindingInfo set io).format
      (batchnShape inst.supportBatching total input.shape))

instance (lib : BackendCommon) (inst : Instance) (set io total : ℕ) (input : InputProperties) :
    Decidable (SizeMismatch lib inst set io total input) := inferInstanceAs (Decidable (_ ∧ _))

/-- It is what `Run` fails the batch for. -/
theorem runRegularInput_eq (lib : BackendCommon) (inst : Instance) (indices : SetIndices)
    (calls : RunCalls) (requests : List Request) (citr : TensorRTContext) (total io : ℕ)
    (name : String) :
    runRegularInput lib inst indices calls requests citr total io name = (do
      let input ← requestInput calls (requests.headD default) name
      let shape := batchnShape inst.supportBatching total input.shape
      let size := lib.byteSize input.datatype
        ((ioBindingInfo inst indices io).format.bufferShape shape)
      setBinding inst calls citr io name shape
      failAllIfError (← call calls.toCalls)
      onlyIf (SizeMismatch lib inst indices.nextBufferBindingSet io total input)
        (failAllAndReturn ⟨.invalidArg, "input byte size mismatch for input '" ++ name ++
          "' for model '" ++ inst.name ++ "'. Expected " ++ toString size ++ ", got " ++
          toString input.byteSize⟩)
      let _ ← collect calls.toCalls
      pure size) := by
  have hcheck : ∀ input : InputProperties, ((ioBindingInfo inst indices io).format.isLinearFormat =
        false ∧ input.byteSize ≠ toSizeT (lib.byteSize input.datatype
          ((ioBindingInfo inst indices io).format.bufferShape
            (batchnShape inst.supportBatching total input.shape)))) ↔
      SizeMismatch lib inst indices.nextBufferBindingSet io total input := by
    intro input
    refine and_congr_right fun hlinear => ?_
    rw [TensorFormat.bufferShape, if_neg (ne_true_of_eq_false hlinear)]
    rfl
  simp only [runRegularInput, onlyIf, hcheck]

/-- The size check lets the requests pass as one batch: the first of them stands for all. -/
def PassesSizeCheck (lib : BackendCommon) (inst : Instance) (set io : ℕ) (name : String)
    (requests : List Request) : Prop :=
  ∃ input, (requests.headD default).input? name = some input ∧
    ¬ SizeMismatch lib inst set io (toSizeT (requests.map batchDim).sum) input

/-- The bytes of one item of the batch, padded. -/
def itemByteSize (dataType : DataType) (format : TensorFormat) (dims : List ℤ) : ℤ :=
  dataType.byteSize * (dims.modify (format.vectorizedDim.toNat - 1) fun d =>
    d + (format.componentsPerElement - d.tmod format.componentsPerElement)).prod

/-- Two sizes are one `size_t` when they differ by a multiple of its range. -/
theorem toSizeT_eq_iff {x y : ℤ} : toSizeT x = toSizeT y ↔ (2 ^ 64 : ℤ) ∣ x - y := by
  rw [toSizeT, toSizeT]
  omega

/-- Batch sizes may wrap; modulo the range their difference is what was added. -/
theorem dvd_toSizeT_add_sub (x y : ℤ) :
    (2 ^ 64 : ℤ) ∣ ((toSizeT (x + y) : ℤ) - toSizeT x) - y := by
  rw [toSizeT, toSizeT]
  omega

section SizeCheck

variable {lib : BackendCommon} {inst : Instance} {set io : ℕ} {name : String} {dims : List ℤ}
  {dataType : DataType} {format : TensorFormat}

/-- With the vectorized dimension behind it, the batch size is a factor of the padded size. -/
theorem requiredByteSize_batch (hlib : lib.byteSize = BackendCommon.plain.byteSize)
    (hsize : dataType.byteSize ≠ 0) (hdim : 1 ≤ format.vectorizedDim)
    (hcomponents : 1 ≤ format.componentsPerElement) (hdims : ∀ d ∈ dims, 0 ≤ d) (total : ℕ) :
    requiredByteSize lib dataType format ((total : ℤ) :: dims) =
      total * itemByteSize dataType format dims := by
  have hnonneg : ∀ d ∈ (total : ℤ) :: dims, 0 ≤ d :=
    List.forall_mem_cons.mpr ⟨Int.natCast_nonneg total, hdims⟩
  have hpos : format.vectorizedDim.toNat = format.vectorizedDim.toNat - 1 + 1 := by omega
  rw [requiredByteSize, hlib, plain_byteSize_of_nonneg (padShape_nonneg hcomponents hnonneg),
    if_neg hsize, TensorFormat.padShape, hpos, List.modify_succ_cons, List.prod_cons, itemByteSize,
    mul_left_comm]

/-- A type without a size has none for any batch. -/
theorem requiredByteSize_of_unsized (hlib : lib.byteSize = BackendCommon.plain.byteSize)
    (hsize : dataType.byteSize = 0) (shape : List ℤ) :
    requiredByteSize lib dataType format shape = -1 := by
  rw [requiredByteSize, hlib]
  simp [BackendCommon.plain, hsize]

/-- Two batches are expected to have one size when their difference has none. -/
theorem requiredByteSize_eq_iff_dvd (hlib : lib.byteSize = BackendCommon.plain.byteSize)
    (hdim : 1 ≤ format.vectorizedDim) (hcomponents : 1 ≤ format.componentsPerElement)
    (hdims : ∀ d ∈ dims, 0 ≤ d) (total total' : ℕ) :
    toSizeT (requiredByteSize lib dataType format ((total : ℤ) :: dims)) =
        toSizeT (requiredByteSize lib dataType format ((total' : ℤ) :: dims)) ↔
      (2 ^ 64 : ℤ) ∣ ((total : ℤ) - total') * itemByteSize dataType format dims := by
  by_cases hsize : dataType.byteSize = 0
  · rw [requiredByteSize_of_unsized hlib hsize, requiredByteSize_of_unsized hlib hsize]
    simp [itemByteSize, hsize]
  · rw [requiredByteSize_batch hlib hsize hdim hcomponents hdims,
      requiredByteSize_batch hlib hsize hdim hcomponents hdims, toSizeT_eq_iff, ← Int.sub_mul]

/-- The check compares the size of the first request with that of the whole batch. -/
theorem passesSizeCheck_iff {request : Request} {others : List Request} {input : InputProperties}
    (hbatching : inst.supportBatching = true)
    (hlinear : (inst.bindingInfo set io).format.isLinearFormat = false)
    (hinput : request.input? name = some input) (hshape : input.shape = batchDim request :: dims) :
    PassesSizeCheck lib inst set io name (request :: others) ↔
      input.byteSize = toSizeT (requiredByteSize lib input.datatype
        (inst.bindingInfo set io).format
          ((toSizeT (batchDim request + (others.map batchDim).sum) : ℤ) :: dims)) := by
  have hbatchn : batchnShape inst.supportBatching
      (toSizeT (batchDim request + (others.map batchDim).sum)) input.shape =
        (toSizeT (batchDim request + (others.map batchDim).sum) : ℤ) :: dims := by
    rw [batchnShape, hbatching, hshape]
    rfl
  have hmatch : ¬ SizeMismatch lib inst set io
      (toSizeT (((request :: others).map batchDim).sum)) input ↔
        input.byteSize = toSizeT (requiredByteSize lib input.datatype
          (inst.bindingInfo set io).format
            ((toSizeT (batchDim request + (others.map batchDim).sum) : ℤ) :: dims)) := by
    rw [SizeMismatch, List.map_cons, List.sum_cons, hbatchn]
    simp [hlinear]
  rw [← hmatch, PassesSizeCheck]
  show (∃ first, request.input? name = some first ∧ _) ↔ _
  rw [hinput]
  simp

/-- **When requests that pass alone pass together.**  The batch is expected to have the size of the
whole batch and compared with the size of its first request: it passes exactly when what the other
requests add has no bytes, up to the range of a `size_t`. -/
theorem sizeCheck_batch_iff (hlib : lib.byteSize = BackendCommon.plain.byteSize)
    (hbatching : inst.supportBatching = true)
    (hlinear : (inst.bindingInfo set io).format.isLinearFormat = false)
    (hdim : 1 ≤ (inst.bindingInfo set io).format.vectorizedDim)
    (hcomponents : 1 ≤ (inst.bindingInfo set io).format.componentsPerElement)
    (hdims : ∀ d ∈ dims, 0 ≤ d) {request : Request} {others : List Request}
    (hinputs : ∀ r ∈ request :: others, ∃ input, r.input? name = some input ∧
      input.datatype = dataType ∧ input.shape = batchDim r :: dims)
    (halone : ∀ r ∈ request :: others, PassesSizeCheck lib inst set io name [r]) :
    PassesSizeCheck lib inst set io name (request :: others) ↔
      (2 ^ 64 : ℤ) ∣ (others.map batchDim).sum *
        itemByteSize dataType (inst.bindingInfo set io).format dims := by
  obtain ⟨input, hinput, rfl, hshape⟩ := hinputs request List.mem_cons_self
  have hown := (passesSizeCheck_iff hbatching hlinear hinput hshape).mp
    (halone request List.mem_cons_self)
  rw [List.map_nil, List.sum_nil, Int.add_zero] at hown
  rw [passesSizeCheck_iff hbatching hlinear hinput hshape, hown, eq_comm,
    requiredByteSize_eq_iff_dvd hlib hdim hcomponents hdims]
  apply Int.dvd_iff_dvd_of_dvd_sub
  rw [← Int.sub_mul]
  exact Dvd.dvd.mul_right (dvd_toSizeT_add_sub _ _) _

end SizeCheck

/-! ### Requests of one vectorized row -/

/-- A request of one row of ten columns in blocks of four. -/
def rowRequest : Request where
  inputs := [{ name := "in", shape := [1, 10], byteSize := 48 }]

theorem rowRequest_alone :
    PassesSizeCheck BackendCommon.plain vectorizedInstance 0 0 "in" [rowRequest] :=
  ⟨_, rfl, by decide⟩

/-- A request of no rows. -/
def noRowRequest : Request where
  inputs := [{ name := "in", shape := [0, 10], byteSize := 0 }]

theorem noRowRequest_alone :
    PassesSizeCheck BackendCommon.plain vectorizedInstance 0 0 "in" [noRowRequest] :=
  ⟨_, rfl, by decide⟩

/-- The theorem for a row and another request: a second row adds 48 bytes, a request of no rows adds
nothing and passes. -/
theorem sizeCheck_batch_iff_pair :
    (PassesSizeCheck BackendCommon.plain vectorizedInstance 0 0 "in" [rowRequest, rowRequest] ↔
      (2 ^ 64 : ℤ) ∣ 48) ∧
    PassesSizeCheck BackendCommon.plain vectorizedInstance 0 0 "in" [rowRequest, noRowRequest] := by
  have hpair : ∀ other, other = rowRequest ∨ other = noRowRequest →
      (PassesSizeCheck BackendCommon.plain vectorizedInstance 0 0 "in" [rowRequest, other] ↔
        (2 ^ 64 : ℤ) ∣ ([other].map batchDim).sum *
          itemByteSize .fp32 (vectorizedInstance.bindingInfo 0 0).format [10]) := by
    intro other hother
    have hmem : ∀ r ∈ [rowRequest, other], r = rowRequest ∨ r = noRowRequest := by
      intro r hr
      rcases List.mem_cons.mp hr with rfl | hr
      · exact Or.inl rfl
      · exact List.mem_singleton.mp hr ▸ hother
    refine sizeCheck_batch_iff rfl rfl rfl (by decide) (by decide) (by decide) ?_ ?_
    · intro r hr
      rcases hmem r hr with rfl | rfl
      · exact ⟨_, rfl, rfl, rfl⟩
      · exact ⟨_, rfl, rfl, rfl⟩
    · intro r hr
      rcases hmem r hr with rfl | rfl
      · exact rowRequest_alone
      · exact noRowRequest_alone
  exact ⟨hpair rowRequest (Or.inl rfl), (hpair noRowRequest (Or.inr rfl)).mpr ⟨0, by decide⟩⟩

/-- **The slip**: two requests of a row pass alone and are refused together. -/
theorem sizeCheck_refuses_pair :
    (∀ r ∈ [rowRequest, rowRequest],
        PassesSizeCheck BackendCommon.plain vectorizedInstance 0 0 "in" [r]) ∧
      ¬ PassesSizeCheck BackendCommon.plain vectorizedInstance 0 0 "in" [rowRequest, rowRequest] := by
  constructor
  · intro r hr
    have hr : r = rowRequest := by simpa using hr
    rw [hr]
    exact rowRequest_alone
  · intro hpass
    obtain ⟨input, hinput, hpass⟩ := hpass
    cases hinput
    exact hpass (by decide)

end TensorrtBackend

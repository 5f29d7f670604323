import TensorrtBackend.ShapeBuffer
import TensorrtBackend.ShapeOutput

/-!
# Feeding a shape output back

With batching `Run` answers a request of `b` items with a shape output of shape `[b, n]` that holds
the `n` values once for each item.  `GetRequestShapeValues` takes such a tensor for `n` values,
which it expects once, alone or behind a batch size.

* `getRequestShapeValues_of_accepted`: what a request leaves among inputs that are accepted.
* `shapeOutput_accepted_iff`: when a response is accepted as an input.
-/

namespace TensorrtBackend

open ShapeOutput

/-! ### A response as an input -/

/-- A response of INT64 values as the input of a request. -/
def responseInput (inputName : String) (shape : List ℤ) (buffer : List ℤ)
    (memoryType : MemoryType) : InputProperties where
  name := inputName
  datatype := .int64
  shape := shape
  byteSize := buffer.length * DataType.int64.byteSize
  buffer := some (buffer.flatMap (valueBytes .int64))
  dataByteSize := buffer.length * DataType.int64.byteSize
  dataMemoryType := memoryType

/-- The shape tensor of INT64 values. -/
def shapeTensorOf (values : List ℤ) : ShapeTensor where
  size := values.length * DataType.int64.byteSize
  nbShapeValues := values.length
  datatype := .int64
  data := values.flatMap (valueBytes .int64)

section Feedback

variable (lib : BackendCommon) (inst : Instance) (totalBatchSize : ℕ) (inputName : String)

/-- None of the inputs has the name, and the shape tensors among them are accepted. -/
def OthersAccepted (others : List InputProperties) : Prop :=
  ∀ input ∈ others, input.name ≠ inputName ∧ (inst.isShapeInferenceIo input.name = true →
    ∃ value, requestShapeValue lib inst totalBatchSize input = .ok value)

/-- The buffer that `Run` answers the request with is accepted as an input, between the inputs
`before` and `after`, as the total batch size followed by the engine's values. -/
def AcceptedAsInput (source : Instance) (content : List ℤ) (dims : Dims) (request : Request)
    (memoryType : MemoryType) (before after : List InputProperties) : Prop :=
  ∃ buffer, shapeOutputBuffer lib source content dims request = some buffer ∧
    ∃ out, getRequestShapeValues lib inst totalBatchSize
        (before ++ responseInput inputName (ShapeOutput.batchnShape source.supportBatching dims
          request) buffer memoryType :: after) (fun _ => none) = .ok out ∧
      out (inst.ioIndex inputName) = some (shapeTensorOf ((totalBatchSize : ℤ) :: content.tail))

end Feedback

/-! ### One input -/

section Input

variable {lib : BackendCommon} {inst : Instance} {totalBatchSize : ℕ} {inputName : String}
  {memoryType : MemoryType} {b : ℕ} {v : List ℤ}

/-- `b` rows of `n` values have the bytes of one row, or of one row and a batch size, only when
there is one row, or two of one value. -/
theorem rows_size_iff {b n width : ℕ} (hb : 0 < b) (hn : 0 < n) (hwidth : 0 < width) :
    b * n * width = n * width ∨ b * n * width = (n + 1) * width ↔ b = 1 ∨ b = 2 ∧ n = 1 := by
  rw [Nat.mul_left_inj hwidth.ne', Nat.mul_left_inj hwidth.ne']
  constructor
  · rintro (h | h)
    · exact Or.inl (Nat.eq_of_mul_eq_mul_right hn (h.trans (Nat.one_mul n).symm))
    · -- Behind the first row there is one value.
      obtain ⟨c, rfl⟩ : ∃ c, b = c + 1 := ⟨b - 1, by omega⟩
      rw [Nat.succ_mul] at h
      have hone : c * n = 1 := by omega
      exact Or.inr ⟨congrArg (· + 1) (Nat.eq_one_of_mul_eq_one_right hone),
        Nat.eq_one_of_mul_eq_one_left hone⟩
  · rintro (rfl | ⟨rfl, rfl⟩)
    · exact Or.inl (Nat.one_mul n)
    · exact Or.inr rfl

/-- An input is accepted when it is one buffer on the CPU and its values can be set. -/
theorem requestShapeValue_eq_ok_iff {input : InputProperties} {value : ShapeTensor} :
    requestShapeValue lib inst totalBatchSize input = .ok value ↔
      input.bufferCount = 1 ∧ input.buffer.isSome ∧ input.dataMemoryType ≠ .gpu ∧
        ∃ elementCnt, itemElementCount lib inst.supportBatching input.shape = .ok elementCnt ∧
          ({} : ShapeTensor).setDataFromBuffer input.buffer input.dataByteSize input.datatype
            (toSizeT elementCnt) input.name inst.supportBatching totalBatchSize = (none, value) := by
  simp only [requestShapeValue]
  split
  · rename_i hcount
    simp [hcount]
  · rename_i hcount
    rw [not_not] at hcount
    split
    · rename_i hcpu
      simp only [reduceCtorEq, false_iff, not_and]
      intro _ hbuffer hmemory
      exact absurd hcpu (by simp [hmemory, Option.isSome_iff_ne_none.mp hbuffer])
    · rename_i hcpu
      rw [not_or, Option.isNone_iff_eq_none, ← ne_eq, ← Option.isSome_iff_ne_none] at hcpu
      simp only [hcount, hcpu, ne_eq, not_false_eq_true, true_and]
      cases hitem : itemElementCount lib inst.supportBatching input.shape with
      | error kind => simp
      | ok elementCnt =>
          simp only [Except.ok.injEq, exists_eq_left']
          split
          · rename_i hset
            rw [hset]
            simp
          · rename_i hset
            rw [hset]
            simp

/-- `SetDataFromBuffer` on `b` rows, of which it takes one. -/
theorem setDataFromBuffer_rows {value : ShapeTensor} (hb : 0 < b) (hv : 0 < v.length)
    (hwrap : (v.length + 1) * DataType.int64.byteSize < 2 ^ 64) :
    ({} : ShapeTensor).setDataFromBuffer
        (some ((List.replicate b v).flatten.flatMap (valueBytes .int64)))
        ((List.replicate b v).flatten.length * DataType.int64.byteSize) .int64 v.length inputName
        true totalBatchSize = (none, value) ↔
      (b = 1 ∨ b = 2 ∧ v.length = 1) ∧ value = shapeTensorOf ((totalBatchSize : ℤ) :: v) := by
  have hwidth : DataType.int64.byteSize = ShapeTensorDataType.int64.byteSize := rfl
  have hstored : ShapeTensor.storedSize .int64 v.length true =
      (v.length + 1) * DataType.int64.byteSize := by
    rw [storedSize_eq true rfl hwrap, if_pos rfl]
  have hcount : ShapeTensor.storedCount v.length true = v.length + 1 := storedCount_eq (by
    simp only [DataType.byteSize] at hwrap
    omega)
  have hle : DataType.int64.byteSize ≤ (v.length + 1) * DataType.int64.byteSize :=
    Nat.le_mul_of_pos_left _ v.length.succ_pos
  have hsub : (v.length + 1) * DataType.int64.byteSize - DataType.int64.byteSize =
      v.length * DataType.int64.byteSize := by
    rw [Nat.succ_mul, Nat.add_sub_cancel]
  have hrows : (List.replicate b v).flatten.length = b * v.length := by
    rw [List.length_flatten, List.map_replicate, List.sum_replicate_nat]
  -- One row is copied, the first.
  have hcopy : memcpyBytes ((List.replicate b v).flatten.flatMap (valueBytes .int64))
      (v.length * DataType.int64.byteSize) = v.flatMap (valueBytes .int64) := by
    obtain ⟨c, rfl⟩ : ∃ c, b = c + 1 := ⟨b - 1, by omega⟩
    rw [memcpyBytes_eq_take, hwidth, Blocks.take_flatMap (valueBytes_length .int64),
      List.replicate_succ, List.flatten_cons, List.take_left' rfl]
    rw [Blocks.length_flatMap (valueBytes_length .int64), hrows, hwidth]
    exact Nat.mul_le_mul_right _ (Nat.le_mul_of_pos_left _ c.succ_pos)
  have hvalid := validateDataByteSize_eq_none_iff
    { size := (v.length + 1) * DataType.int64.byteSize } (b * v.length * DataType.int64.byteSize)
    inputName hle hwrap
  simp only [hsub, rows_size_iff hb hv (show 0 < DataType.int64.byteSize by decide)] at hvalid
  simp only [setDataFromBuffer_eq_none_iff, hrows, hstored, hcount, hsub, hcopy, hvalid, if_true]
  constructor
  · intro h
    obtain ⟨dt, hdt, hsize, -, hout⟩ := h
    obtain rfl := Option.some.inj hdt
    exact ⟨hsize, hout⟩
  · intro h
    exact ⟨.int64, rfl, h.1, fun _ => hle, h.2⟩

/-- The rows of a response as a shape tensor: accepted for their size alone, and then stored as the
total batch size followed by one row. -/
theorem requestShapeValue_rows {value : ShapeTensor}
    (hlib : ∀ dims : List ℤ, (∀ d ∈ dims, 0 ≤ d) → lib.elementCount dims = dims.prod)
    (hbatching : inst.supportBatching = true) (hmemory : memoryType ≠ .gpu) (hb : 0 < b)
    (hv : 0 < v.length) (hwrap : (v.length + 1) * DataType.int64.byteSize < 2 ^ 64) :
    requestShapeValue lib inst totalBatchSize (responseInput inputName [(b : ℤ), v.length]
        (List.replicate b v).flatten memoryType) = .ok value ↔
      (b = 1 ∨ b = 2 ∧ v.length = 1) ∧ value = shapeTensorOf ((totalBatchSize : ℤ) :: v) := by
  have hcount : (lib.elementCount [(b : ℤ), v.length]).tdiv b = v.length := by
    rw [hlib, List.prod_cons, List.prod_singleton, Int.mul_tdiv_cancel_left _ (by omega)]
    intro d hd
    simp only [List.mem_cons, List.not_mem_nil, or_false] at hd
    omega
  have hlength : v.length < 2 ^ 64 := by
    simp only [DataType.byteSize] at hwrap
    omega
  have hitem : itemElementCount lib inst.supportBatching (responseInput inputName
      [(b : ℤ), v.length] (List.replicate b v).flatten memoryType).shape = .ok (v.length : ℤ) := by
    rw [hbatching]
    show divide (lib.elementCount [(b : ℤ), v.length]) b = .ok (v.length : ℤ)
    rw [divide, if_neg (by omega), hcount]
  rw [requestShapeValue_eq_ok_iff, hitem, hbatching]
  simp only [Except.ok.injEq, exists_eq_left', toSizeT_natCast hlength]
  constructor
  · intro h
    exact (setDataFromBuffer_rows hb hv hwrap).mp h.2.2.2
  · intro h
    exact ⟨rfl, rfl, hmemory, (setDataFromBuffer_rows hb hv hwrap).mpr h⟩

end Input

/-! ### A request -/

section Request

variable {lib : BackendCommon} {inst : Instance} {totalBatchSize : ℕ} {inputName : String}
  {inputs before after : List InputProperties} {values out : ShapeValueMap}

/-- A shape tensor is a tensor of the engine. -/
theorem exists_tensor_of_isShapeInferenceIo {name : String}
    (h : inst.isShapeInferenceIo name = true) :
    ∃ t, inst.tensors[inst.ioIndex name]? = some t ∧ t.name = name := by
  obtain ⟨t, ht, hname⟩ := List.any_eq_true.mp h
  obtain ⟨rfl, -⟩ : t.name = name ∧ _ := by simpa using hname
  obtain ⟨io, hio⟩ := List.getElem?_of_mem ht
  exact ⟨t, by rw [inst.ioIndex_of_getElem? hio]; exact hio, rfl⟩

/-- Shape tensors of two names have two indices. -/
theorem ioIndex_ne {name name' : String} (h : inst.isShapeInferenceIo name = true)
    (h' : inst.isShapeInferenceIo name' = true) (hne : name ≠ name') :
    inst.ioIndex name ≠ inst.ioIndex name' := by
  intro heq
  obtain ⟨t, ht, rfl⟩ := exists_tensor_of_isShapeInferenceIo h
  obtain ⟨t', ht', rfl⟩ := exists_tensor_of_isShapeInferenceIo h'
  rw [heq, ht'] at ht
  exact hne (congrArg EngineTensor.name (Option.some.inj ht).symm)

/-- The inputs are gone through one after the other. -/
theorem getRequestShapeValues_append (before after : List InputProperties)
    (values : ShapeValueMap) :
    getRequestShapeValues lib inst totalBatchSize (before ++ after) values =
      getRequestShapeValues lib inst totalBatchSize before values >>=
        getRequestShapeValues lib inst totalBatchSize after := by
  induction before generalizing values with
  | nil => rfl
  | cons input before ih =>
      rw [List.cons_append, getRequestShapeValues, getRequestShapeValues]
      split
      · split
        · rfl
        · exact ih _
      · exact ih _

/-- Inputs of other names are accepted and leave the entry of the shape tensor. -/
theorem getRequestShapeValues_of_others {others : List InputProperties}
    (hshape : inst.isShapeInferenceIo inputName = true)
    (h : OthersAccepted lib inst totalBatchSize inputName others) (values : ShapeValueMap) :
    ∃ out, getRequestShapeValues lib inst totalBatchSize others values = .ok out ∧
      out (inst.ioIndex inputName) = values (inst.ioIndex inputName) := by
  induction others generalizing values with
  | nil => exact ⟨values, rfl, rfl⟩
  | cons input others ih =>
      obtain ⟨⟨hname, haccepted⟩, hothers⟩ := List.forall_mem_cons.mp h
      rw [getRequestShapeValues]
      by_cases hinput : inst.isShapeInferenceIo input.name = true
      · obtain ⟨value, hvalue⟩ := haccepted hinput
        obtain ⟨out, hout, hio⟩ := ih hothers
          (Function.update values (inst.ioIndex input.name) (some value))
        rw [if_pos hinput, hvalue]
        refine ⟨out, hout, ?_⟩
        rw [hio, Function.update_of_ne (ioIndex_ne hshape hinput (Ne.symm hname))]
      · rw [if_neg hinput]
        exact ih hothers values

/-- Among other inputs that are accepted, a shape tensor is accepted when it is by itself, and its
values are those of the request. -/
theorem getRequestShapeValues_of_accepted {input : InputProperties} {value : ShapeTensor}
    (hshape : inst.isShapeInferenceIo input.name = true)
    (hbefore : OthersAccepted lib inst totalBatchSize input.name before)
    (hafter : OthersAccepted lib inst totalBatchSize input.name after) :
    (∃ out, getRequestShapeValues lib inst totalBatchSize (before ++ input :: after)
        (fun _ => none) = .ok out ∧ out (inst.ioIndex input.name) = some value) ↔
      requestShapeValue lib inst totalBatchSize input = .ok value := by
  obtain ⟨mid, hmid, -⟩ := getRequestShapeValues_of_others hshape hbefore fun _ => none
  rw [getRequestShapeValues_append, hmid]
  show (∃ out, getRequestShapeValues lib inst totalBatchSize (input :: after) mid = .ok out ∧ _) ↔ _
  rw [getRequestShapeValues, if_pos hshape]
  cases hvalue : requestShapeValue lib inst totalBatchSize input with
  | error err => simp
  | ok stored =>
      obtain ⟨out, hout, hio⟩ := getRequestShapeValues_of_others hshape hafter
        (Function.update mid (inst.ioIndex input.name) (some stored))
      rw [Function.update_self] at hio
      simp [hout, hio]

end Request

/-! ### A response among the inputs -/

/-- **When a response is accepted as an input**: for a request of one item, whose single row is what
is expected, and for two items of one value, whose second row takes the place of a batch size. -/
theorem shapeOutput_accepted_iff {lib : BackendCommon} {source inst : Instance} {content : List ℤ}
    {dims : Dims} {name inputName : String} {requests : List Request} {request : Request}
    {memoryType : MemoryType} {totalBatchSize : ℕ} {before after : List InputProperties}
    (hready : Ready lib source content dims name requests)
    (hsource : source.supportBatching = true) (hinst : inst.supportBatching = true)
    (hrequest : request ∈ requests) (hasked : name ∈ request.requestedOutputs)
    (hvalues : 2 ≤ content.length) (hsize : content.length * DataType.int64.byteSize < 2 ^ 64)
    (hshape : inst.isShapeInferenceIo inputName = true) (hmemory : memoryType ≠ .gpu)
    (hbefore : OthersAccepted lib inst totalBatchSize inputName before)
    (hafter : OthersAccepted lib inst totalBatchSize inputName after) :
    AcceptedAsInput lib inst totalBatchSize inputName source content dims request memoryType before
        after ↔
      batchDim request = 1 ∨ batchDim request = 2 ∧ content.length = 2 := by
  have hpos := hready.batch_pos hsource request hrequest
  obtain ⟨b, hb⟩ : ∃ b : ℕ, batchDim request = b := ⟨(batchDim request).toNat, by omega⟩
  have htail : content.tail.length + 1 = content.length := by
    rw [List.length_tail]
    omega
  have hrows : ShapeOutput.batchnShape source.supportBatching dims request =
      [(b : ℤ), content.tail.length] := by
    rw [ShapeOutput.batchnShape, hsource, if_pos rfl, hb, hready.values.2, ← htail]
    simp
  have hrow : requestShapeValue lib inst totalBatchSize (responseInput inputName
      [(b : ℤ), content.tail.length] (List.replicate b content.tail).flatten memoryType) =
        .ok (shapeTensorOf ((totalBatchSize : ℤ) :: content.tail)) ↔
      (b = 1 ∨ b = 2 ∧ content.tail.length = 1) ∧ _ :=
    requestShapeValue_rows hready.element_count hinst hmemory (by omega) (by omega)
      (by rw [htail]; exact hsize)
  simp only [AcceptedAsInput, shapeOutputBuffer_batching hready hsource hrequest hasked,
    Option.some.injEq, exists_eq_left', hrows, hb, Int.toNat_natCast]
  refine (getRequestShapeValues_of_accepted hshape hbefore hafter).trans ?_
  rw [hrow]
  simp only [and_true]
  omega

/-! ### Two models in an ensemble -/

/-- A batching model that takes a shape tensor of INT64 values. -/
def shapeFedInstance : Instance where
  name := "fed"
  maxBatchSize := 8
  maxBatchSize_int := matrixBatchSize_lt
  tensors := [{ name := "values", isInput := true, isShapeInferenceIo := true, dataType := .int64 }]
  trtContexts := [{}]
  ioBindingInfos := [[{}]]
  contexts_ne := List.cons_ne_nil _ _
  contexts_sorted := by simp
  names_nodup := by simp
  max_int := by
    intro c _ io t ht _ hs
    rw [List.mem_singleton.mp (List.mem_of_getElem? ht)] at hs
    exact Bool.noConfusion hs
  shape_rank := by
    intro c hc io t _ _ _
    rw [List.mem_singleton.mp hc]
    exact Nat.zero_le 1
  shape_not_ragged := by
    intro set io t _ _ _
    match set, io with
    | 0, 0 => rfl
    | 0, io + 1 => rfl
    | set + 1, io => rfl

/-- The theorem for the request of one row, whose values are fed to a batch of four. -/
theorem shapeOutput_accepted_iff_row :
    AcceptedAsInput BackendCommon.plain shapeFedInstance 4 "values" (matrixInstance 8 1) [3, 5, 7]
        threeDims { inputs := [{ name := "in", shape := [1, 4] }], requestedOutputs := ["shape"] }
        .cpu [] [] ↔
      batchDim { inputs := [{ name := "in", shape := [1, 4] }], requestedOutputs := ["shape"] } = 1 ∨
        batchDim { inputs := [{ name := "in", shape := [1, 4] }],
                   requestedOutputs := ["shape"] } = 2 ∧ [(3 : ℤ), 5, 7].length = 2 := by
  have hsize : [(3 : ℤ), 5, 7].length * DataType.int64.byteSize < 2 ^ 64 := by decide
  refine shapeOutput_accepted_iff rows_ready rfl rfl (List.mem_cons_of_mem _ List.mem_cons_self)
    List.mem_cons_self (by decide) hsize rfl (by decide) ?_ ?_
  · exact fun input hinput => absurd hinput List.not_mem_nil
  · exact fun input hinput => absurd hinput List.not_mem_nil

/-- **The slip**: two rows of the values 5, 7 are refused for their size. -/
theorem shapeOutput_refused :
    Ready BackendCommon.plain (matrixInstance 8 1) [3, 5, 7] threeDims "shape" rowRequests ∧
      ¬ AcceptedAsInput BackendCommon.plain shapeFedInstance 4 "values" (matrixInstance 8 1)
        [3, 5, 7] threeDims
        { inputs := [{ name := "in", shape := [2, 4] }], requestedOutputs := ["shape"] } .cpu [] [] := by
  refine ⟨rows_ready, ?_⟩
  rintro ⟨buffer, hbuffer, out, hout, -⟩
  obtain rfl : [5, 7, 5, 7] = buffer := Option.some.inj hbuffer
  have hrefused : (getRequestShapeValues BackendCommon.plain shapeFedInstance 4
      [responseInput "values" [2, 2] [5, 7, 5, 7] .cpu] fun _ => none).toOption = none := by rfl
  have haccepted : (getRequestShapeValues BackendCommon.plain shapeFedInstance 4
      [responseInput "values" [2, 2] [5, 7, 5, 7] .cpu] fun _ => none) = .ok out := hout
  rw [haccepted] at hrefused
  cases hrefused

end TensorrtBackend

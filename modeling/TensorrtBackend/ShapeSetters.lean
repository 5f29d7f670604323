import TensorrtBackend.Lib.Transition
import TensorrtBackend.ShapeBuffer

/-!
# A shape tensor over its calls

Both setters write the number of values and the size before they know that they will write the data,
and return from between.  `Consistent` is what the readers of the tensor rely on;
`calls_consistent_iff` says which sequences of calls keep it.
-/

namespace TensorrtBackend

/-! ### The calls -/

/-- A call of a setter, with its arguments. -/
inductive ShapeTensorCall
  | setDataFromBuffer (dataBuffer : Option Bytes) (dataByteSize : ℕ) (datatype : DataType)
      (nbShapeValues : ℕ) (inputName : String) (supportBatching : Bool) (totalBatchSize : ℕ)
  | setDataFromShapeValues (shapeValues : List ℤ) (datatype : DataType) (nbShapeValues : ℕ)

/-- The tensor as the call leaves it, whether it succeeds or not. -/
def ShapeTensor.call (t : ShapeTensor) : ShapeTensorCall → ShapeTensor
  | .setDataFromBuffer dataBuffer dataByteSize datatype nb inputName supportBatching total =>
      (t.setDataFromBuffer dataBuffer dataByteSize datatype nb inputName supportBatching total).2
  | .setDataFromShapeValues shapeValues datatype nb =>
      (t.setDataFromShapeValues shapeValues datatype nb).2

/-- The values the call is to store, the batch size included. -/
def ShapeTensorCall.count : ShapeTensorCall → ℕ
  | .setDataFromBuffer _ _ _ nb _ supportBatching _ => nb + if supportBatching then 1 else 0
  | .setDataFromShapeValues _ _ nb => nb

def ShapeTensorCall.datatype : ShapeTensorCall → DataType
  | .setDataFromBuffer _ _ datatype _ _ _ _ => datatype
  | .setDataFromShapeValues _ datatype _ => datatype

/-- The bytes these values take. -/
def ShapeTensorCall.byteSize (c : ShapeTensorCall) : ℕ := c.count * c.datatype.byteSize

/-- The sizes of the call do not wrap around. -/
def ShapeTensorCall.NoWrap (c : ShapeTensorCall) : Prop := c.byteSize < 2 ^ 64

/-! ### Consistency -/

/-- `size_` is that of the values, and `data_` holds as much. -/
structure ShapeTensor.Consistent (t : ShapeTensor) : Prop where
  size_eq : t.size = t.nbShapeValues * t.datatype.byteSize
  covered : t.size ≤ t.data.length ∨ t.size = 0

/-- What keeps a tensor consistent: the call returns before it writes a size or gets to write the
data, or the data that is already there are as many. -/
def ShapeTensor.Keeps (t : ShapeTensor) (c : ShapeTensorCall) : Prop :=
  match c with
  | .setDataFromBuffer dataBuffer dataByteSize datatype _ _ _ _ =>
      dataBuffer = none ∨ shapeTensorDataType datatype = none ∨
        dataByteSize = c.byteSize ∨ dataByteSize + datatype.byteSize = c.byteSize ∨
        c.byteSize ≤ t.data.length
  | .setDataFromShapeValues _ datatype _ =>
      shapeTensorDataType datatype ≠ none ∨ c.count = 0 ∨
        datatype.byteSize = t.datatype.byteSize ∧ c.byteSize ≤ t.data.length

theorem ShapeTensor.consistent_fresh : (default : ShapeTensor).Consistent := ⟨rfl, Or.inr rfl⟩

section Step

variable {t : ShapeTensor} {buffer : Bytes} {dataByteSize : ℕ} {datatype : DataType}
  {dt : ShapeTensorDataType} {nbShapeValues : ℕ} {inputName : String} {supportBatching : Bool}
  {totalBatchSize : ℕ}

/-- Where the data type is supported the sizes are written; the data are new when the size check
passes. -/
theorem setDataFromBuffer_left (t : ShapeTensor) (buffer : Bytes) (dataByteSize nbShapeValues : ℕ)
    (inputName : String) (supportBatching : Bool) (totalBatchSize : ℕ)
    (hdt : shapeTensorDataType datatype = some dt) :
    ∃ data, (t.setDataFromBuffer (some buffer) dataByteSize datatype nbShapeValues inputName
          supportBatching totalBatchSize).2 =
        { size := ShapeTensor.storedSize datatype nbShapeValues supportBatching
          nbShapeValues := ShapeTensor.storedCount nbShapeValues supportBatching
          datatype := dt
          data := data } ∧
      if (ShapeTensor.validateDataByteSize
          { size := ShapeTensor.storedSize datatype nbShapeValues supportBatching } dataByteSize
          inputName datatype.byteSize) = none then
        data.length = ShapeTensor.storedSize datatype nbShapeValues supportBatching
      else data = t.data := by
  have hvalues : (valueBytes dt totalBatchSize).length = datatype.byteSize := by
    rw [valueBytes_length, shapeTensorDataType_byteSize hdt]
  unfold ShapeTensor.setDataFromBuffer
  simp only [hdt]
  split
  · rename_i err hvalid
    refine ⟨t.data, rfl, ?_⟩
    rw [if_neg]
    exact fun hnone => nomatch hvalid.symm.trans hnone
  · rename_i hvalid
    have hnone : ShapeTensor.validateDataByteSize
        { size := ShapeTensor.storedSize datatype nbShapeValues supportBatching } dataByteSize
        inputName datatype.byteSize = none := hvalid
    rw [hnone]
    cases supportBatching with
    | false => exact ⟨_, rfl, memcpyBytes_length _ _⟩
    | true =>
        simp only [Bool.not_true, Bool.false_eq_true, if_false, if_true]
        split
        · rename_i hroom
          refine ⟨_, rfl, ?_⟩
          rw [List.length_take, hvalues]
          exact min_eq_left (le_of_lt hroom)
        · rename_i hroom
          refine ⟨_, rfl, ?_⟩
          rw [List.length_append, hvalues, memcpyBytes_length]
          exact Nat.add_sub_cancel' (not_lt.mp hroom)

/-- Without wrap-around the stored count is the count. -/
theorem storedCount_eq_count (hdt : shapeTensorDataType datatype = some dt)
    (hwrap : (nbShapeValues + if supportBatching then 1 else 0) * datatype.byteSize < 2 ^ 64) :
    ShapeTensor.storedCount nbShapeValues supportBatching =
      nbShapeValues + if supportBatching then 1 else 0 := by
  cases supportBatching with
  | false => rfl
  | true =>
      have hpos : 0 < datatype.byteSize := by
        rw [shapeTensorDataType_byteSize hdt]
        exact dt.byteSize_pos
      exact storedCount_eq ((Nat.le_mul_of_pos_right _ hpos).trans_lt hwrap)

/-- Sizes that belong together are consistent with the data that cover them. -/
theorem consistent_iff_covered {count : ℕ} {data : Bytes} :
    ShapeTensor.Consistent
        { size := count * dt.byteSize, nbShapeValues := count, datatype := dt, data := data } ↔
      count * dt.byteSize ≤ data.length := by
  constructor
  · intro h
    rcases h.covered with hle | hzero
    · exact hle
    · exact hzero.le.trans (Nat.zero_le _)
  · exact fun h => ⟨rfl, Or.inl h⟩

/-- `SetDataFromBuffer` with data of a supported type leaves a consistent tensor exactly when it
writes the data, or those already there suffice. -/
theorem setDataFromBuffer_some_iff (hdt : shapeTensorDataType datatype = some dt)
    (hwrap : (ShapeTensorCall.setDataFromBuffer (some buffer) dataByteSize datatype nbShapeValues
      inputName supportBatching totalBatchSize).NoWrap) :
    (t.call (.setDataFromBuffer (some buffer) dataByteSize datatype nbShapeValues inputName
        supportBatching totalBatchSize)).Consistent ↔
      t.Keeps (.setDataFromBuffer (some buffer) dataByteSize datatype nbShapeValues inputName
        supportBatching totalBatchSize) := by
  have hwidth := shapeTensorDataType_byteSize hdt
  have hsize := storedSize_eq supportBatching hdt hwrap
  have hcount := storedCount_eq_count hdt hwrap
  have hpos : 0 < dt.byteSize := dt.byteSize_pos
  obtain ⟨data, hleft, hdata⟩ := setDataFromBuffer_left t buffer dataByteSize nbShapeValues inputName
    supportBatching totalBatchSize hdt
  rw [hsize, hcount] at hleft
  rw [hsize] at hdata
  simp only [ShapeTensor.Keeps, ShapeTensorCall.byteSize, ShapeTensorCall.count,
    ShapeTensorCall.datatype, ShapeTensorCall.NoWrap, reduceCtorEq, false_or, hdt] at hwrap ⊢
  rw [ShapeTensor.call, hleft]
  generalize (nbShapeValues + if supportBatching then 1 else 0) = count at *
  rw [hwidth] at hdata hwrap ⊢
  rw [consistent_iff_covered]
  rcases Nat.eq_zero_or_pos count with rfl | hone
  · simp
  · -- The size check is exact from one value on.
    have haccepted := validateDataByteSize_eq_none_iff { size := count * dt.byteSize } dataByteSize
      inputName (Nat.le_mul_of_pos_left dt.byteSize hone) hwrap
    have hle : dt.byteSize ≤ count * dt.byteSize := Nat.le_mul_of_pos_left dt.byteSize hone
    split at hdata
    · rename_i hvalid
      have hfits := haccepted.mp hvalid
      simp only at hfits
      rw [hdata]
      refine iff_of_true le_rfl ?_
      omega
    · rename_i hvalid
      have hfits := mt haccepted.mpr hvalid
      simp only at hfits
      rw [hdata]
      omega

/-- **One call of `SetDataFromBuffer`.** -/
theorem setDataFromBuffer_consistent_iff (dataBuffer : Option Bytes) (ht : t.Consistent)
    (hwrap : (ShapeTensorCall.setDataFromBuffer dataBuffer dataByteSize datatype nbShapeValues
      inputName supportBatching totalBatchSize).NoWrap) :
    (t.call (.setDataFromBuffer dataBuffer dataByteSize datatype nbShapeValues inputName
        supportBatching totalBatchSize)).Consistent ↔
      t.Keeps (.setDataFromBuffer dataBuffer dataByteSize datatype nbShapeValues inputName
        supportBatching totalBatchSize) := by
  cases dataBuffer with
  | none => exact iff_of_true ht (Or.inl rfl)
  | some buffer =>
      cases hdt : shapeTensorDataType datatype with
      | none =>
          refine iff_of_true ?_ (Or.inr (Or.inl hdt))
          rw [ShapeTensor.call, ShapeTensor.setDataFromBuffer]
          simp only [hdt]
          exact ht
      | some dt => exact setDataFromBuffer_some_iff hdt hwrap

/-- **One call of `SetDataFromShapeValues`.** -/
theorem setDataFromShapeValues_consistent_iff (shapeValues : List ℤ)
    (hwrap : (ShapeTensorCall.setDataFromShapeValues shapeValues datatype nbShapeValues).NoWrap) :
    (t.call (.setDataFromShapeValues shapeValues datatype nbShapeValues)).Consistent ↔
      t.Keeps (.setDataFromShapeValues shapeValues datatype nbShapeValues) := by
  have hsize : toSizeT (nbShapeValues * datatype.byteSize) = nbShapeValues * datatype.byteSize := by
    exact_mod_cast toSizeT_natCast hwrap
  simp only [ShapeTensor.call, ShapeTensor.setDataFromShapeValues, ShapeTensor.Keeps,
    ShapeTensorCall.byteSize, ShapeTensorCall.count, ShapeTensorCall.datatype, hsize]
  cases hdt : shapeTensorDataType datatype with
  | some dt =>
      rw [shapeTensorDataType_byteSize hdt]
      refine iff_of_true ?_ (Or.inl (Option.some_ne_none dt))
      simp only
      rw [consistent_iff_covered, Blocks.length_flatMap (valueBytes_length dt), List.length_map,
        List.length_range]
  | none =>
      -- The old data type stays, next to the new sizes.
      have hpos : 0 < t.datatype.byteSize := t.datatype.byteSize_pos
      simp only [ne_eq, not_true_eq_false, false_or]
      rcases Nat.eq_zero_or_pos nbShapeValues with rfl | hone
      · exact iff_of_true ⟨by simp, Or.inr (by simp)⟩ (Or.inl rfl)
      · constructor
        · intro h
          have hwidth : datatype.byteSize = t.datatype.byteSize :=
            Nat.eq_of_mul_eq_mul_left hone h.size_eq
          refine Or.inr ⟨hwidth, h.covered.resolve_right ?_⟩
          have hne := Nat.mul_pos hone hpos
          show nbShapeValues * datatype.byteSize ≠ 0
          rw [hwidth]
          omega
        · intro h
          obtain ⟨hwidth, hle⟩ := h.resolve_left (by omega)
          exact ⟨congrArg (nbShapeValues * ·) hwidth, Or.inl hle⟩

end Step

theorem ShapeTensor.call_consistent_iff {t : ShapeTensor} {c : ShapeTensorCall} (ht : t.Consistent)
    (hwrap : c.NoWrap) : (t.call c).Consistent ↔ t.Keeps c := by
  cases c with
  | setDataFromBuffer dataBuffer dataByteSize datatype nb inputName supportBatching total =>
      exact setDataFromBuffer_consistent_iff dataBuffer ht hwrap
  | setDataFromShapeValues shapeValues datatype nb =>
      exact setDataFromShapeValues_consistent_iff shapeValues hwrap

/-- **Consistency over the calls.** Without wrap-around, a fresh tensor is consistent after each of
a sequence of calls exactly when each of them keeps the tensor it is made on. -/
theorem calls_consistent_iff {calls : List ShapeTensorCall} (hwrap : ∀ c ∈ calls, c.NoWrap) :
    (∀ done, done <+: calls → (done.foldl ShapeTensor.call default).Consistent) ↔
      ∀ done c, done ++ [c] <+: calls → (done.foldl ShapeTensor.call default).Keeps c :=
  foldl_invariant_iff ShapeTensor.consistent_fresh fun _ c hc ht =>
    ShapeTensor.call_consistent_iff ht (hwrap c hc)

/-- The profile's two values, and then a request with one value for a batch of five. -/
def acceptedCalls : List ShapeTensorCall :=
  [.setDataFromShapeValues [2, 3] .int32 2,
    .setDataFromBuffer (some [7, 0, 0, 0]) 4 .int32 1 "x" true 5]

theorem calls_consistent_accepted : (∀ c ∈ acceptedCalls, c.NoWrap) ∧
    ∀ done, done <+: acceptedCalls → (done.foldl ShapeTensor.call default).Consistent := by
  have hwrap : ∀ c ∈ acceptedCalls, c.NoWrap := by
    intro c hc
    rcases List.mem_pair.mp hc with rfl | rfl
    · show 2 * 4 < 2 ^ 64
      omega
    · show (1 + 1) * 4 < 2 ^ 64
      omega
  refine ⟨hwrap, (calls_consistent_iff hwrap).mpr fun done c hdone => ?_⟩
  have hc : c ∈ acceptedCalls :=
    hdone.subset (List.mem_append_right done (List.mem_singleton.mpr rfl))
  rcases List.mem_pair.mp hc with rfl | rfl
  · exact Or.inl (by decide)
  · exact Or.inr (Or.inr (Or.inr (Or.inl rfl)))

/-- **The slip**: a request whose buffer has the wrong size is refused, and the tensor claims twelve
bytes and holds none. -/
theorem calls_inconsistent :
    let refused : ShapeTensorCall := .setDataFromBuffer (some [7, 0, 0, 0]) 4 .int32 3 "x" false 5
    refused.NoWrap ∧
      (ShapeTensor.setDataFromBuffer default (some [7, 0, 0, 0]) 4 .int32 3 "x" false 5).1 ≠ none ∧
      ((default : ShapeTensor).call refused).size = 12 ∧
      ((default : ShapeTensor).call refused).data = [] ∧
      ¬ ((default : ShapeTensor).call refused).Consistent := by
  have hcall : (default : ShapeTensor).call
      (.setDataFromBuffer (some [7, 0, 0, 0]) 4 .int32 3 "x" false 5) =
        { size := 12, nbShapeValues := 3, datatype := .int32, data := [] } := by decide
  refine ⟨?_, by decide, by rw [hcall], by rw [hcall], fun h => ?_⟩
  · show 3 * 4 < 2 ^ 64
    omega
  · rw [hcall] at h
    exact h.covered.elim (by decide) (by decide)

end TensorrtBackend

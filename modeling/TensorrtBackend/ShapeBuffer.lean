import Mathlib.Data.List.GetD
import TensorrtBackend.Lib.Blocks
import TensorrtBackend.ShapeTensor

/-!
# The buffer of a shape tensor

`SetDataFromBuffer` allocates `size_` bytes and fills them from the request's buffer, behind the
total batch size when the model supports batching.  `dataWrites` lists what it writes in order, so
that the bounds of its copies can be stated; `setDataFromBuffer_data` says that these writes are
what leaves the data of the tensor.

* `setDataFromBuffer_inBounds_iff`: when the copies stay inside both buffers.
* `encodings_agree_iff`: when the two accepted encodings of a batched shape input mean the same.
-/

namespace TensorrtBackend

/-! ### What is written -/

/-- A write into the memory of `data_`. -/
inductive DataWrite
  /-- The store of the total batch size at the front. -/
  | batchValue (bytes : Bytes)
  /-- `memcpy(data_ + dst, data_buffer, count)`. -/
  | copy (dst count : ℕ)
  deriving DecidableEq

/-- The write reads at most `dataByteSize` bytes of `data_buffer` and stays inside the `size` bytes
of `data_`. -/
def DataWrite.InBounds (dataByteSize size : ℕ) : DataWrite → Prop
  | .batchValue bytes => bytes.length ≤ size
  | .copy dst count => count ≤ dataByteSize ∧ dst + count ≤ size

/-- The effect of a write on the memory of `data_`. -/
def DataWrite.apply (buffer data : Bytes) : DataWrite → Bytes
  | .batchValue bytes => Blocks.overwrite data 0 bytes
  | .copy dst count => Blocks.overwrite data dst (memcpyBytes buffer count)

namespace ShapeTensor

/-- `nb_shape_values_`, with the batch size accounted for. -/
def storedCount (nbShapeValues : ℕ) (supportBatching : Bool) : ℕ :=
  if supportBatching then toSizeT (nbShapeValues + 1) else nbShapeValues

/-- `size_`. -/
def storedSize (datatype : DataType) (nbShapeValues : ℕ) (supportBatching : Bool) : ℕ :=
  toSizeT (storedCount nbShapeValues supportBatching * datatype.byteSize)

/-- The writes of `SetDataFromBuffer`, in order. -/
def dataWrites (dataBuffer : Option Bytes) (dataByteSize : ℕ) (datatype : DataType)
    (nbShapeValues : ℕ) (inputName : String) (supportBatching : Bool) (totalBatchSize : ℕ) :
    List DataWrite :=
  let size := storedSize datatype nbShapeValues supportBatching
  let datatypeSize := datatype.byteSize
  if dataBuffer = none then []
  else
    match shapeTensorDataType datatype with
    | none => []
    | some dt =>
      if (ShapeTensor.validateDataByteSize { size := size } dataByteSize inputName
          datatypeSize).isSome then []
      else if !supportBatching then [.copy 0 size]
      else if size < datatypeSize then [.batchValue (valueBytes dt totalBatchSize)]
      else [.batchValue (valueBytes dt totalBatchSize), .copy datatypeSize (size - datatypeSize)]

end ShapeTensor

/-! ### Bytes and values -/

theorem leBytes_length (width n : ℕ) : (leBytes width n).length = width := by
  induction width generalizing n with
  | zero => rfl
  | succ width ih => rw [leBytes, List.length_cons, ih]

theorem leValue_leBytes (width n : ℕ) : leValue (leBytes width n) = n % 256 ^ width := by
  induction width generalizing n with
  | zero => simp [leBytes, leValue, Nat.mod_one]
  | succ width ih =>
      have hbyte : n % 256 % 2 ^ 8 = n % 256 := Nat.mod_mod n 256
      rw [leBytes, leValue, ih, UInt8.toNat_ofNat', hbyte, Nat.pow_succ', Nat.mod_mul]

@[simp] theorem valueBytes_length (dt : ShapeTensorDataType) (v : ℤ) :
    (valueBytes dt v).length = dt.byteSize := leBytes_length _ _

@[simp] theorem memcpyBytes_length (src : Bytes) (count : ℕ) :
    (memcpyBytes src count).length = count := by
  rw [memcpyBytes, List.length_map, List.length_range]

/-- A copy inside its source takes the front of it. -/
theorem memcpyBytes_eq_take {src : Bytes} {count : ℕ} (h : count ≤ src.length) :
    memcpyBytes src count = src.take count := by
  apply List.ext_getElem
  · rw [memcpyBytes_length, List.length_take, min_eq_left h]
  · intro i hi hi'
    rw [memcpyBytes_length] at hi
    simp only [memcpyBytes, List.getElem_map, List.getElem_range, List.getElem_take]
    exact List.getD_eq_getElem src 0 (hi.trans_le h)

theorem shapeTensorDataType_byteSize {datatype : DataType} {dt : ShapeTensorDataType}
    (h : shapeTensorDataType datatype = some dt) : datatype.byteSize = dt.byteSize := by
  cases datatype <;> cases h <;> rfl

theorem ShapeTensorDataType.byteSize_pos (dt : ShapeTensorDataType) : 0 < dt.byteSize := by
  cases dt <;> decide

/-- A value of the type. -/
def ShapeTensorDataType.Holds (dt : ShapeTensorDataType) (v : ℤ) : Prop :=
  v.bmod (256 ^ dt.byteSize) = v

instance (dt : ShapeTensorDataType) (v : ℤ) : Decidable (dt.Holds v) :=
  inferInstanceAs (Decidable (_ = _))

theorem ShapeTensorDataType.holds_iff (dt : ShapeTensorDataType) (v : ℤ) :
    dt.Holds v ↔ -2 ^ (8 * dt.byteSize - 1) ≤ v ∧ v < 2 ^ (8 * dt.byteSize - 1) := by
  cases dt with
  | int32 =>
      show v.bmod (256 ^ 4) = v ↔ -2 ^ 31 ≤ v ∧ v < 2 ^ 31
      exact toInt32_eq_self_iff
  | int64 =>
      show v.bmod (256 ^ 8) = v ↔ -2 ^ 63 ≤ v ∧ v < 2 ^ 63
      constructor
      · intro h
        have hle := Int.le_bmod (x := v) (m := 256 ^ 8) (by decide)
        have hlt := Int.bmod_lt (x := v) (m := 256 ^ 8) (by decide)
        rw [h] at hle hlt
        omega
      · intro h
        exact Int.bmod_eq_of_le (by omega) (by omega)

/-- Reading an array of values gives each back as its type represents it. -/
theorem readValue_flatMap {dt : ShapeTensorDataType} {vs : List ℤ} {i : ℕ} (hi : i < vs.length) :
    readValue dt (vs.flatMap (valueBytes dt)) i = vs[i].bmod (256 ^ dt.byteSize) := by
  have hpos : (0 : ℤ) < 256 ^ dt.byteSize := pow_pos (by decide) _
  have hnat : ((vs[i] % 256 ^ dt.byteSize).toNat : ℤ) = vs[i] % 256 ^ dt.byteSize :=
    Int.toNat_of_nonneg (Int.emod_nonneg _ hpos.ne')
  simp only [readValue]
  rw [Blocks.block_flatMap (valueBytes_length dt) hi, valueBytes, leValue_leBytes, Int.natCast_mod,
    hnat]
  push_cast
  rw [Int.emod_emod, ← Int.emod_bmod vs[i]]
  push_cast
  rfl

/-! ### The accepted sizes -/

theorem toSizeT_natCast {n : ℕ} (h : n < 2 ^ 64) : toSizeT n = n := by
  rw [toSizeT]
  omega

section Bounds

variable {t : ShapeTensor} {buffer : Bytes} {dataByteSize : ℕ} {datatype : DataType}
  {dt : ShapeTensorDataType} {nbShapeValues : ℕ} {inputName : String} {supportBatching : Bool}
  {totalBatchSize : ℕ}

/-- The size check accepts the size of the tensor with and without its first value. -/
theorem validateDataByteSize_eq_none_iff (t : ShapeTensor) (dataByteSize : ℕ) (inputName : String)
    {datatypeSize : ℕ} (hle : datatypeSize ≤ t.size)
    (hlt : t.size < 2 ^ 64) :
    t.validateDataByteSize dataByteSize inputName datatypeSize = none ↔
      dataByteSize = t.size - datatypeSize ∨ dataByteSize = t.size := by
  have hsub : toSizeT (t.size - datatypeSize) = t.size - datatypeSize := by
    rw [← Nat.cast_sub hle]
    exact toSizeT_natCast (by omega)
  rw [ShapeTensor.validateDataByteSize, hsub, check_eq_none_iff, and_iff_left rfl]
  omega

/-- Without overflow the stored size is that of the values and the batch size. -/
theorem storedSize_eq (supportBatching : Bool) (hdt : shapeTensorDataType datatype = some dt)
    (hwrap : (nbShapeValues + if supportBatching then 1 else 0) * datatype.byteSize < 2 ^ 64) :
    ShapeTensor.storedSize datatype nbShapeValues supportBatching =
      (nbShapeValues + if supportBatching then 1 else 0) * datatype.byteSize := by
  have hpos : 0 < datatype.byteSize := by
    rw [shapeTensorDataType_byteSize hdt]
    exact dt.byteSize_pos
  cases supportBatching with
  | false =>
      simp only [Bool.false_eq_true, if_false, Nat.add_zero] at hwrap
      simp only [ShapeTensor.storedSize, ShapeTensor.storedCount, Bool.false_eq_true, if_false,
        Nat.add_zero]
      exact_mod_cast toSizeT_natCast hwrap
  | true =>
      rw [if_pos rfl] at hwrap
      have hcount : nbShapeValues + 1 < 2 ^ 64 := (Nat.le_mul_of_pos_right _ hpos).trans_lt hwrap
      have hnb : toSizeT (nbShapeValues + 1) = nbShapeValues + 1 := by
        exact_mod_cast toSizeT_natCast hcount
      simp only [ShapeTensor.storedSize, ShapeTensor.storedCount, if_true, hnb]
      exact_mod_cast toSizeT_natCast hwrap

/-- The batch size is counted without overflow. -/
theorem storedCount_eq (h : nbShapeValues + 1 < 2 ^ 64) :
    ShapeTensor.storedCount nbShapeValues true = nbShapeValues + 1 := by
  rw [ShapeTensor.storedCount, if_pos rfl]
  exact_mod_cast toSizeT_natCast h

/-- The copies of `SetDataFromBuffer` stay inside both buffers. -/
def WritesInBounds (dataBuffer : Option Bytes) (dataByteSize : ℕ) (datatype : DataType)
    (nbShapeValues : ℕ) (inputName : String) (supportBatching : Bool) (totalBatchSize : ℕ) : Prop :=
  ∀ write ∈ ShapeTensor.dataWrites dataBuffer dataByteSize datatype nbShapeValues inputName
      supportBatching totalBatchSize,
    write.InBounds dataByteSize (ShapeTensor.storedSize datatype nbShapeValues supportBatching)

/-- With batching the copy is one value shorter than the tensor, which both sizes cover. -/
theorem writesInBounds_batching (hdt : shapeTensorDataType datatype = some dt)
    (hwrap : (nbShapeValues + 1) * datatype.byteSize < 2 ^ 64) :
    WritesInBounds (some buffer) dataByteSize datatype nbShapeValues inputName true
      totalBatchSize := by
  have hsize := storedSize_eq true hdt hwrap
  rw [if_pos rfl] at hsize
  have hle : datatype.byteSize ≤ (nbShapeValues + 1) * datatype.byteSize :=
    Nat.le_mul_of_pos_left _ nbShapeValues.succ_pos
  rw [WritesInBounds, hsize]
  intro write hwrite
  simp only [ShapeTensor.dataWrites, hsize, reduceCtorEq, if_false, hdt, Bool.not_true,
    Bool.false_eq_true, if_neg hle.not_gt] at hwrite
  split at hwrite
  · cases hwrite
  · rename_i hvalid
    have haccepted := (validateDataByteSize_eq_none_iff
      { size := (nbShapeValues + 1) * datatype.byteSize } dataByteSize inputName hle hwrap).mp
        (Option.not_isSome_iff_eq_none.mp hvalid)
    simp only [List.mem_cons, List.not_mem_nil, or_false] at hwrite haccepted
    rcases hwrite with rfl | rfl
    · show (valueBytes dt totalBatchSize).length ≤ _
      rw [valueBytes_length, ← shapeTensorDataType_byteSize hdt]
      exact hle
    · exact ⟨by omega, by omega⟩

/-- Without batching the whole tensor is copied, which only the larger size covers. -/
theorem writesInBounds_unbatched_iff (hdt : shapeTensorDataType datatype = some dt)
    (hwrap : nbShapeValues * datatype.byteSize < 2 ^ 64) :
    WritesInBounds (some buffer) dataByteSize datatype nbShapeValues inputName false
        totalBatchSize ↔
      nbShapeValues = 0 ∨ dataByteSize ≠ (nbShapeValues - 1) * datatype.byteSize := by
  have hsize := storedSize_eq false hdt hwrap
  simp only [Bool.false_eq_true, if_false, Nat.add_zero] at hsize
  have hpos : 0 < datatype.byteSize := by
    rw [shapeTensorDataType_byteSize hdt]
    exact dt.byteSize_pos
  rw [WritesInBounds, hsize]
  simp only [ShapeTensor.dataWrites, hsize, reduceCtorEq, if_false, hdt, Bool.not_false, if_true]
  rcases Nat.eq_zero_or_pos nbShapeValues with rfl | hnb
  · simp only [true_or, iff_true]
    intro write hwrite
    split at hwrite
    · cases hwrite
    · cases List.mem_singleton.mp hwrite
      exact ⟨by omega, by omega⟩
  · obtain ⟨n, rfl⟩ : ∃ n, nbShapeValues = n + 1 := ⟨nbShapeValues - 1, by omega⟩
    have hsub : (n + 1) * datatype.byteSize - datatype.byteSize = n * datatype.byteSize := by
      rw [Nat.succ_mul, Nat.add_sub_cancel]
    have hle : datatype.byteSize ≤ (n + 1) * datatype.byteSize :=
      Nat.le_mul_of_pos_left _ n.succ_pos
    have haccepted := validateDataByteSize_eq_none_iff { size := (n + 1) * datatype.byteSize }
      dataByteSize inputName hle hwrap
    simp only [hsub] at haccepted
    simp only [Nat.add_sub_cancel, Nat.succ_ne_zero, false_or]
    constructor
    · rintro h rfl
      have hnone := haccepted.mpr (Or.inl rfl)
      have hcopy := h (.copy 0 ((n + 1) * datatype.byteSize)) (by rw [hnone]; simp)
      have hread : (n + 1) * datatype.byteSize ≤ n * datatype.byteSize := hcopy.1
      omega
    · intro hne write hwrite
      split at hwrite
      · cases hwrite
      · rename_i hvalid
        cases List.mem_singleton.mp hwrite
        have := haccepted.mp (Option.not_isSome_iff_eq_none.mp hvalid)
        exact ⟨by omega, by omega⟩

/-- **When the copies are in bounds.** -/
theorem setDataFromBuffer_inBounds_iff {dataBuffer : Option Bytes}
    (hdt : shapeTensorDataType datatype = some dt)
    (hwrap : (nbShapeValues + if supportBatching then 1 else 0) * datatype.byteSize < 2 ^ 64) :
    WritesInBounds dataBuffer dataByteSize datatype nbShapeValues inputName supportBatching
        totalBatchSize ↔
      dataBuffer = none ∨ supportBatching = true ∨ nbShapeValues = 0 ∨
        dataByteSize ≠ (nbShapeValues - 1) * datatype.byteSize := by
  cases dataBuffer with
  | none => simp [WritesInBounds, ShapeTensor.dataWrites]
  | some buffer =>
      cases supportBatching with
      | true => simp [writesInBounds_batching hdt hwrap]
      | false =>
          have hwrap : nbShapeValues * datatype.byteSize < 2 ^ 64 := by simpa using hwrap
          simp [writesInBounds_unbatched_iff hdt hwrap]

end Bounds

/-- The theorem for two unbatched values of which all eight bytes are sent. -/
theorem setDataFromBuffer_inBounds_iff_pair :
    WritesInBounds (some [1, 0, 0, 0, 2, 0, 0, 0]) 8 .int32 2 "shape" false 1 ↔
      some [1, 0, 0, 0, 2, 0, 0, 0] = (none : Option Bytes) ∨ false = true ∨ 2 = 0 ∨
        8 ≠ (2 - 1) * DataType.int32.byteSize :=
  setDataFromBuffer_inBounds_iff rfl (by decide)

/-- **The slip**: a buffer of one value passes for two unbatched ones and is read past its end. -/
theorem setDataFromBuffer_overread :
    2 * DataType.int32.byteSize < 2 ^ 64 ∧
      ¬ WritesInBounds (some [1, 0, 0, 0]) 4 .int32 2 "shape" false 1 := by
  refine ⟨by decide, fun h => ?_⟩
  have hcopy := h (.copy 0 8) (by decide)
  exact absurd hcopy.1 (by decide)

/-! ### What is stored -/

section Stored

variable {t : ShapeTensor} {dataByteSize : ℕ} {datatype : DataType} {dt : ShapeTensorDataType}
  {nbShapeValues : ℕ} {inputName : String} {totalBatchSize : ℕ}

/-- What `SetDataFromBuffer` leaves when it copies: the size check passes, and with batching there
is room for the batch size. -/
theorem setDataFromBuffer_eq_none_iff {buffer : Bytes} {supportBatching : Bool} {out : ShapeTensor} :
    t.setDataFromBuffer (some buffer) dataByteSize datatype nbShapeValues inputName supportBatching
        totalBatchSize = (none, out) ↔
      ∃ dt, shapeTensorDataType datatype = some dt ∧
        ShapeTensor.validateDataByteSize
          { size := ShapeTensor.storedSize datatype nbShapeValues supportBatching } dataByteSize
          inputName datatype.byteSize = none ∧
        (supportBatching = true →
          datatype.byteSize ≤ ShapeTensor.storedSize datatype nbShapeValues supportBatching) ∧
        out =
          { size := ShapeTensor.storedSize datatype nbShapeValues supportBatching
            nbShapeValues := ShapeTensor.storedCount nbShapeValues supportBatching
            datatype := dt
            data := if supportBatching then
                valueBytes dt totalBatchSize ++ memcpyBytes buffer
                  (ShapeTensor.storedSize datatype nbShapeValues supportBatching -
                    datatype.byteSize)
              else memcpyBytes buffer
                (ShapeTensor.storedSize datatype nbShapeValues supportBatching) } := by
  simp only [ShapeTensor.setDataFromBuffer]
  cases hdt : shapeTensorDataType datatype with
  | none => simp [errorNew]
  | some dt =>
      simp only [Option.some.injEq, exists_eq_left']
      split
      · rename_i err hvalid
        have herr : ShapeTensor.validateDataByteSize
            { size := ShapeTensor.storedSize datatype nbShapeValues supportBatching } dataByteSize
            inputName datatype.byteSize = some err := hvalid
        simp [herr]
      · rename_i hvalid
        have hnone : ShapeTensor.validateDataByteSize
            { size := ShapeTensor.storedSize datatype nbShapeValues supportBatching } dataByteSize
            inputName datatype.byteSize = none := hvalid
        cases supportBatching with
        | false =>
            simp only [hnone, Bool.not_false, if_true, Prod.mk.injEq, true_and,
              Bool.false_eq_true, false_implies, if_false]
            exact eq_comm
        | true =>
            simp only [hnone, Bool.not_true, Bool.false_eq_true, if_false, true_and, true_implies,
              if_true]
            split
            · rename_i hlt
              have hlt' : ShapeTensor.storedSize datatype nbShapeValues true < datatype.byteSize :=
                hlt
              simp [errorNew, hlt'.not_ge]
            · rename_i hge
              have hle : datatype.byteSize ≤ ShapeTensor.storedSize datatype nbShapeValues true :=
                not_lt.mp hge
              simp only [hle, true_and, Prod.mk.injEq]
              exact eq_comm

/-- **The writes account for the data**: a tensor that was set holds what they leave in its zeroed
allocation. -/
theorem setDataFromBuffer_data {dataBuffer : Option Bytes} {supportBatching : Bool}
    {out : ShapeTensor}
    (h : t.setDataFromBuffer dataBuffer dataByteSize datatype nbShapeValues inputName
      supportBatching totalBatchSize = (none, out)) :
    out.data = (ShapeTensor.dataWrites dataBuffer dataByteSize datatype nbShapeValues inputName
      supportBatching totalBatchSize).foldl (DataWrite.apply (dataBuffer.getD []))
        (List.replicate out.size 0) := by
  cases dataBuffer with
  | none => cases h
  | some buffer =>
      obtain ⟨dt, hdt, hvalid, hroom, rfl⟩ := setDataFromBuffer_eq_none_iff.mp h
      simp only [ShapeTensor.dataWrites, reduceCtorEq, if_false, hdt, hvalid, Option.isSome_none,
        Bool.false_eq_true, Option.getD_some]
      cases supportBatching with
      | false => simp [DataWrite.apply, Blocks.overwrite]
      | true =>
          have hle := hroom rfl
          rw [shapeTensorDataType_byteSize hdt] at hle
          simp only [shapeTensorDataType_byteSize hdt, Bool.not_true, Bool.false_eq_true, if_false,
            if_true, if_neg hle.not_gt, List.foldl_cons, List.foldl_nil, DataWrite.apply,
            Blocks.overwrite, List.take_zero, List.nil_append, Nat.zero_add, valueBytes_length, memcpyBytes_length]
          rw [List.take_left' (valueBytes_length _ _), List.drop_append]
          simp [hle]

/-- The stored values. -/
def ShapeTensor.values (t : ShapeTensor) : List ℤ :=
  (List.range t.nbShapeValues).map (readValue t.datatype t.data)

@[simp] theorem ShapeTensor.values_length (t : ShapeTensor) : t.values.length = t.nbShapeValues := by
  rw [ShapeTensor.values, List.length_map, List.length_range]

/-- A tensor that holds an array of values of its type stores these values. -/
theorem ShapeTensor.values_of_data {vs : List ℤ}
    (hdata : t.data = vs.flatMap (valueBytes t.datatype)) (hnb : t.nbShapeValues = vs.length) :
    t.values = vs.map fun v => v.bmod (256 ^ t.datatype.byteSize) := by
  apply List.ext_getElem
  · rw [values_length, hnb, List.length_map]
  · intro i hi hi'
    rw [List.length_map] at hi'
    simp only [ShapeTensor.values, List.getElem_map, List.getElem_range]
    rw [hdata, readValue_flatMap hi']

/-! ### Two encodings of a batched shape input -/

/-- A list is one place behind itself under `w` exactly when all its entries are `w`. -/
theorem take_cons_eq_self_iff {w : ℤ} {v : List ℤ} :
    (w :: v).take v.length = v ↔ ∀ x ∈ v, x = w := by
  induction v generalizing w with
  | nil => simp
  | cons a v ih =>
      rw [List.length_cons, List.take_succ_cons, List.cons.injEq, ih, List.forall_mem_cons]
      constructor
      · rintro ⟨rfl, h⟩
        exact ⟨rfl, h⟩
      · rintro ⟨rfl, h⟩
        exact ⟨rfl, h⟩

/-- `SetDataFromBuffer` on an array of the values `vs` of which it is told to take `n`. -/
theorem setDataFromBuffer_values (t : ShapeTensor) (inputName : String) (totalBatchSize : ℕ)
    {vs : List ℤ} {n : ℕ} (hn : n ≤ vs.length)
    (hvs : ∀ x ∈ vs, dt.Holds x) (hdt : shapeTensorDataType datatype = some dt)
    (hwrap : (n + 1) * datatype.byteSize < 2 ^ 64)
    (hsize : dataByteSize = n * datatype.byteSize ∨ dataByteSize = (n + 1) * datatype.byteSize) :
    ∃ out, t.setDataFromBuffer (some (vs.flatMap (valueBytes dt))) dataByteSize datatype n inputName
        true totalBatchSize = (none, out) ∧
      out.values = (totalBatchSize : ℤ).bmod (256 ^ dt.byteSize) :: vs.take n := by
  have hbs := shapeTensorDataType_byteSize hdt
  have hpos := dt.byteSize_pos
  have hle : datatype.byteSize ≤ (n + 1) * datatype.byteSize :=
    Nat.le_mul_of_pos_left _ n.succ_pos
  have hsub : (n + 1) * datatype.byteSize - datatype.byteSize = n * datatype.byteSize := by
    rw [Nat.succ_mul, Nat.add_sub_cancel]
  have hstored : ShapeTensor.storedSize datatype n true = (n + 1) * datatype.byteSize := by
    rw [storedSize_eq true hdt hwrap, if_pos rfl]
  have hcount : ShapeTensor.storedCount n true = n + 1 :=
    storedCount_eq ((Nat.le_mul_of_pos_right _ (hbs ▸ hpos)).trans_lt hwrap)
  have hvalid : ShapeTensor.validateDataByteSize
      { size := ShapeTensor.storedSize datatype n true } dataByteSize inputName
      datatype.byteSize = none := by
    rw [hstored]
    apply (validateDataByteSize_eq_none_iff _ dataByteSize inputName hle hwrap).mpr
    exact hsize.imp_left fun h => h.trans hsub.symm
  refine ⟨_, setDataFromBuffer_eq_none_iff.mpr ⟨dt, hdt, hvalid, fun _ => hstored ▸ hle, rfl⟩, ?_⟩
  -- The data is the array of the total batch size and the values taken.
  have hcopy : memcpyBytes (vs.flatMap (valueBytes dt)) (n * dt.byteSize) =
      (vs.take n).flatMap (valueBytes dt) := by
    rw [memcpyBytes_eq_take, Blocks.take_flatMap (valueBytes_length dt)]
    rw [Blocks.length_flatMap (valueBytes_length dt)]
    exact Nat.mul_le_mul_right _ hn
  have hread : ∀ x ∈ vs.take n, x.bmod (256 ^ dt.byteSize) = x :=
    fun x hx => hvs x (List.mem_of_mem_take hx)
  have hlength : n + 1 = ((totalBatchSize : ℤ) :: vs.take n).length := by
    rw [List.length_cons, List.length_take, min_eq_left hn]
  refine (ShapeTensor.values_of_data ?_ (hcount.trans hlength)).trans ?_
  · simp only [hstored, hsub, if_true, List.flatMap_cons]
    rw [hbs, hcopy]
  · rw [List.map_cons, List.map_congr_left hread, List.map_id']

end Stored

/-- The `n` values `v` sent alone and behind a leading batch value `w` are both accepted and are
both stored as the total batch size followed by `v`. -/
def EncodingsAgree (t : ShapeTensor) (datatype : DataType) (dt : ShapeTensorDataType)
    (inputName : String) (w : ℤ) (v : List ℤ) (totalBatchSize : ℕ) : Prop :=
  ∃ plain included,
    t.setDataFromBuffer (some (v.flatMap (valueBytes dt))) (v.length * datatype.byteSize) datatype
      v.length inputName true totalBatchSize = (none, plain) ∧
    t.setDataFromBuffer (some ((w :: v).flatMap (valueBytes dt)))
      ((v.length + 1) * datatype.byteSize) datatype v.length inputName true totalBatchSize =
      (none, included) ∧
    plain.values = (totalBatchSize : ℤ) :: v ∧ included.values = (totalBatchSize : ℤ) :: v

/-- **When the two encodings mean the same**: the copy starts at the front of the buffer in either
case, so that the included batch value takes the place of the first shape value. -/
theorem encodings_agree_iff {t : ShapeTensor} {datatype : DataType} {dt : ShapeTensorDataType}
    {inputName : String} {w : ℤ} {v : List ℤ} {totalBatchSize : ℕ}
    (hdt : shapeTensorDataType datatype = some dt) (hw : dt.Holds w) (hv : ∀ x ∈ v, dt.Holds x)
    (hwrap : (v.length + 1) * datatype.byteSize < 2 ^ 64) :
    EncodingsAgree t datatype dt inputName w v totalBatchSize ↔
      dt.Holds totalBatchSize ∧ ∀ x ∈ v, x = w := by
  have hlen : v.length ≤ (w :: v).length := v.length.le_succ
  obtain ⟨plain, hplain, hplainValues⟩ := setDataFromBuffer_values t inputName totalBatchSize
    le_rfl hv hdt hwrap (Or.inl rfl)
  obtain ⟨included, hincluded, hincludedValues⟩ := setDataFromBuffer_values t inputName
    totalBatchSize hlen (List.forall_mem_cons.mpr ⟨hw, hv⟩) hdt hwrap (Or.inr rfl)
  rw [List.take_length] at hplainValues
  constructor
  · rintro ⟨p, i, hp, hi, hpv, hiv⟩
    rw [hplain] at hp
    rw [hincluded] at hi
    cases hp
    cases hi
    rw [hplainValues] at hpv
    rw [hincludedValues] at hiv
    exact ⟨(List.cons.inj hpv).1, take_cons_eq_self_iff.mp (List.cons.inj hiv).2⟩
  · rintro ⟨hT, hall⟩
    refine ⟨plain, included, hplain, hincluded, ?_, ?_⟩
    · rw [hplainValues, show (totalBatchSize : ℤ).bmod _ = _ from hT]
    · rw [hincludedValues, show (totalBatchSize : ℤ).bmod _ = _ from hT,
        take_cons_eq_self_iff.mpr hall]

/-- The theorem for two values equal to the leading batch value. -/
theorem encodings_agree_iff_pair :
    EncodingsAgree {} .int32 .int32 "shape" 2 [2, 2] 2 ↔
      ShapeTensorDataType.int32.Holds 2 ∧ ∀ x ∈ [2, 2], x = (2 : ℤ) :=
  encodings_agree_iff rfl (by decide) (by decide) (by decide)

/-- **The slip**: the value 5 behind the batch value 2 is stored as a second 2. -/
theorem encodings_disagree :
    ¬ EncodingsAgree {} .int32 .int32 "shape" 2 [5] 2 := by
  rintro ⟨plain, included, -, hincluded, -, hvalues⟩
  have hout : included = (ShapeTensor.setDataFromBuffer {} (some ([2, 5].flatMap
      (valueBytes .int32))) 8 .int32 1 "shape" true 2).2 := (congrArg Prod.snd hincluded).symm
  have hstored : included.values = [2, 2] := by
    rw [hout]
    decide
  rw [hstored] at hvalues
  exact absurd hvalues (by decide)

end TensorrtBackend

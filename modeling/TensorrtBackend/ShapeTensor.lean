import Mathlib.Algebra.Order.Group.Int
import Mathlib.Algebra.Order.Group.Abs
import TensorrtBackend.Basic

/-!
# Shape tensors

The values of a shape-tensor input travel as raw bytes: `data_` is a byte buffer of `size_` bytes
read back as `int32_t` or `int64_t`.  `SetDataFromBuffer` prepends the total batch size when the
model supports batching; `ValidateShapeValues` compares a request's values with a profile's minimum
and maximum values entry by entry.
-/

namespace TensorrtBackend

/-- `ShapeTensorDataType`. -/
inductive ShapeTensorDataType
  | int32 | int64
  deriving DecidableEq, Repr

def ShapeTensorDataType.byteSize : ShapeTensorDataType → ℕ
  | .int32 => 4
  | .int64 => 8

/-- `ShapeTensor::GetDataTypeString`. -/
def ShapeTensorDataType.string : ShapeTensorDataType → String
  | .int32 => "INT32"
  | .int64 => "INT64"

/-- Bytes of memory. -/
abbrev Bytes := List UInt8

/-- The little-endian value of a byte sequence. -/
def leValue : Bytes → ℕ
  | [] => 0
  | b :: bs => b.toNat + 256 * leValue bs

/-- The low `width` bytes of a number, little-endian. -/
def leBytes : ℕ → ℕ → Bytes
  | 0, _ => []
  | width + 1, n => UInt8.ofNat (n % 256) :: leBytes width (n / 256)

/-- The element at `idx` of memory read as an array of the given type. -/
def readValue (datatype : ShapeTensorDataType) (data : Bytes) (idx : ℕ) : ℤ :=
  let width := datatype.byteSize
  (leValue ((data.drop (idx * width)).take width) : ℤ).bmod (256 ^ width)

/-- The bytes of one value of the given type. -/
def valueBytes (datatype : ShapeTensorDataType) (value : ℤ) : Bytes :=
  leBytes datatype.byteSize (value % 256 ^ datatype.byteSize).toNat

/-- `memcpy` of `count` bytes; what lies past the end of the source is unspecified and read as 0. -/
def memcpyBytes (src : Bytes) (count : ℕ) : Bytes :=
  (List.range count).map fun i => src.getD i 0

/-- `ShapeTensor`; `data` is empty while `data_` is null. -/
structure ShapeTensor where
  size : ℕ := 0
  nbShapeValues : ℕ := 0
  datatype : ShapeTensorDataType := .int32
  data : Bytes := []
  deriving DecidableEq

instance : Inhabited ShapeTensor := ⟨{}⟩

/-- `ShapeTensor::ValidateDataByteSize`. -/
def ShapeTensor.validateDataByteSize (t : ShapeTensor) (expectedByteSize : ℕ)
    (inputName : String) (datatypeSize : ℕ) : Option Error :=
  if expectedByteSize ≠ toSizeT (t.size - datatypeSize) ∧ expectedByteSize ≠ t.size then
    errorNew .invalidArg ("shape tensor for input '" ++ inputName ++
      "' expected byte size is " ++ toString expectedByteSize ++ " [ or " ++ toString t.size ++
      " if input includes batch shape value] , got " ++ toString expectedByteSize)
  else none

/-- The member type `SetDataFromBuffer` derives from the request's data type. -/
def shapeTensorDataType : DataType → Option ShapeTensorDataType
  | .int32 => some .int32
  | .int64 => some .int64
  | _ => none

/-- `ShapeTensor::SetDataFromBuffer`: the error, if any, and the tensor as it is left. -/
def ShapeTensor.setDataFromBuffer (t : ShapeTensor) (dataBuffer : Option Bytes)
    (dataByteSize : ℕ) (datatype : DataType) (nbShapeValues : ℕ) (inputName : String)
    (supportBatching : Bool) (totalBatchSize : ℕ) : Option Error × ShapeTensor :=
  match dataBuffer with
  | none => (errorNew .invalidArg "Null data pointer received for Shape tensor", t)
  | some buffer =>
    match shapeTensorDataType datatype with
    | none => (errorNew .invalidArg "Unsupported data type received for Shape tensor", t)
    | some dt =>
      let nb := if supportBatching then toSizeT (nbShapeValues + 1) else nbShapeValues
      let datatypeSize := datatype.byteSize
      let t := { t with datatype := dt, nbShapeValues := nb, size := toSizeT (nb * datatypeSize) }
      match t.validateDataByteSize dataByteSize inputName datatypeSize with
      | some err => (some err, t)
      | none =>
        if !supportBatching then
          (none, { t with data := memcpyBytes buffer t.size })
        -- The allocation and the store of the batch size precede this check.
        else if t.size < datatypeSize then
          (errorNew .invalidArg
            "Unexpected integer underflow while calculating shape tensor size.",
            { t with data := (valueBytes dt totalBatchSize).take t.size })
        else
          let values := memcpyBytes buffer (t.size - datatypeSize)
          (none, { t with data := valueBytes dt totalBatchSize ++ values })

/-- `ShapeTensor::SetDataFromShapeValues`: the profile's `int32_t` values, widened if need be. -/
def ShapeTensor.setDataFromShapeValues (t : ShapeTensor) (shapeValues : List ℤ)
    (datatype : DataType) (nbShapeValues : ℕ) : Option Error × ShapeTensor :=
  let size := toSizeT (nbShapeValues * datatype.byteSize)
  let t := { t with nbShapeValues := nbShapeValues, size := size }
  match shapeTensorDataType datatype with
  | none => (errorNew .invalidArg "Unsupported data type received for Shape tensor", t)
  | some dt =>
    let values := (List.range nbShapeValues).map fun i => shapeValues.getD i 0
    (none, { t with datatype := dt, data := values.flatMap (valueBytes dt) })

/-- `ShapeTensor::GetDistance`. -/
def ShapeTensor.getDistance (t other : ShapeTensor) (totalBatchSize : ℤ) : ℤ :=
  (List.range' 1 (other.nbShapeValues - 1)).foldl
    (fun distance idx => distance +
      |readValue t.datatype other.data idx - readValue t.datatype t.data (idx - 1)|)
    |readValue t.datatype other.data 0 - totalBatchSize|

/-- A distance accumulated in a loop is a sum. -/
theorem foldl_add_eq_sum {α : Type*} (f : α → ℤ) (l : List α) (a : ℤ) :
    l.foldl (fun distance x => distance + f x) a = a + (l.map f).sum := by
  induction l generalizing a with
  | nil => simp
  | cons x xs ih => rw [List.foldl_cons, ih, List.map_cons, List.sum_cons, add_assoc]

/-- `CheckShapeTensorInRange<T>`, with `T` the type named by `datatype`. -/
def checkShapeTensorInRange (datatype : ShapeTensorDataType)
    (requestShapeValues minShapeValues maxShapeValues : ShapeTensor) (nbShapeValues : ℕ) :
    Option Error :=
  (List.range nbShapeValues).findSome? fun i =>
    let request := readValue datatype requestShapeValues.data i
    let min := readValue datatype minShapeValues.data i
    let max := readValue datatype maxShapeValues.data i
    if request < min ∨ request > max then
      errorNew .invalidArg ("The shape value at index " ++ toString i ++
        " is expected to be in range from " ++ toString min ++ " to " ++ toString max ++
        ", Got: " ++ toString request)
    else none

/-- `ValidateShapeValues`. -/
def validateShapeValues (requestShapeValues minShapeValues maxShapeValues : ShapeTensor)
    (nbShapeValues : ℕ) : Option Error :=
  if requestShapeValues.nbShapeValues ≠ nbShapeValues then
    errorNew .invalidArg ("mismatch between the number of shape values. Expecting " ++
      toString nbShapeValues ++ ". Got " ++ toString requestShapeValues.nbShapeValues)
  else if requestShapeValues.datatype ≠ minShapeValues.datatype ∨
      requestShapeValues.datatype ≠ maxShapeValues.datatype then
    errorNew .invalidArg ("mismatch between the datatypes of shape values. Expecting " ++
      minShapeValues.datatype.string ++ ". Got " ++ requestShapeValues.datatype.string)
  else
    checkShapeTensorInRange requestShapeValues.datatype requestShapeValues minShapeValues
      maxShapeValues nbShapeValues

/-- `ValidateBatchSize`. -/
def validateBatchSize (totalBatchSize : ℕ) (minShapeValues maxShapeValues : ShapeTensor) : Bool :=
  let size : ℤ := match minShapeValues.datatype with
    | .int32 => toInt32 totalBatchSize
    | .int64 => (totalBatchSize : ℤ).bmod (2 ^ 64)
  readValue minShapeValues.datatype minShapeValues.data 0 ≤ size ∧
    size ≤ readValue minShapeValues.datatype maxShapeValues.data 0

end TensorrtBackend

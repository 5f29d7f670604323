import Mathlib.Algebra.Order.Ring.Int
import Mathlib.Data.List.Basic
import Mathlib.Data.String.Basic

/-!
# Errors, data types and integer conversions

The scalar vocabulary the backend shares with the Triton C API: `TRITONSERVER_Error`, of which
`nullptr` means success and is modelled by `none`, the tensor data types with their byte sizes, the
narrowing conversions the code performs on `int64_t` and `size_t` values, and the ways the process
can die.
-/

namespace TensorrtBackend

/-- `TRITONSERVER_Error_Code`. -/
inductive ErrorCode
  | unknown | internal | notFound | invalidArg | unavailable | unsupported | alreadyExists
  deriving DecidableEq, Repr

/-- `TRITONSERVER_Error`; a `TRITONSERVER_Error*` is an `Option Error`, with `none` for `nullptr`.
-/
structure Error where
  code : ErrorCode
  message : String
  deriving DecidableEq, Repr

/-- `TRITONSERVER_ErrorNew`. -/
def errorNew (code : ErrorCode) (message : String) : Option Error := some ⟨code, message⟩

/-- A check that returns an error of its own, and the checks behind it. -/
theorem check_eq_none_iff {fails : Prop} [Decidable fails] {code : ErrorCode} {message : String}
    {rest : Option Error} :
    (if fails then errorNew code message else rest) = none ↔ ¬ fails ∧ rest = none := by
  split
  · rename_i h
    simp [errorNew, h]
  · rename_i h
    simp [h]

/-- A check of a value against its range. -/
theorem rangeCheck_eq_none_iff {min value max : ℤ} {code : ErrorCode} {message : String} :
    (if value < min ∨ value > max then errorNew code message else none) = none ↔
      min ≤ value ∧ value ≤ max := by
  rw [check_eq_none_iff, and_iff_left rfl]
  omega

/-- `TRITONSERVER_DataType`. -/
inductive DataType
  | invalid | bool | uint8 | uint16 | uint32 | uint64 | int8 | int16 | int32 | int64
  | fp16 | fp32 | fp64 | bytes | bf16
  deriving DecidableEq, Repr

/-- `TRITONSERVER_DataTypeByteSize`; variable-size and invalid types have size 0. -/
def DataType.byteSize : DataType → ℕ
  | .bool | .uint8 | .int8 => 1
  | .uint16 | .int16 | .fp16 | .bf16 => 2
  | .uint32 | .int32 | .fp32 => 4
  | .uint64 | .int64 | .fp64 => 8
  | .invalid | .bytes => 0

/-- `TRITONSERVER_DataTypeString`. -/
def DataType.string : DataType → String
  | .invalid => "<invalid>" | .bool => "BOOL" | .uint8 => "UINT8" | .uint16 => "UINT16"
  | .uint32 => "UINT32" | .uint64 => "UINT64" | .int8 => "INT8" | .int16 => "INT16"
  | .int32 => "INT32" | .int64 => "INT64" | .fp16 => "FP16" | .fp32 => "FP32" | .fp64 => "FP64"
  | .bytes => "BYTES" | .bf16 => "BF16"

/-- `LLONG_MAX`. -/
def llongMax : ℤ := 2 ^ 63 - 1

/-- `WILDCARD_DIM`. -/
def wildcardDim : ℤ := -1

/-- The value of `(int)x`: the 32-bit two's complement residue. -/
def toInt32 (x : ℤ) : ℤ := x.bmod (2 ^ 32)

/-- The value of a `size_t` expression: reduction modulo `2 ^ 64`. -/
def toSizeT (x : ℤ) : ℕ := (x % 2 ^ 64).toNat

theorem toInt32_bounds (x : ℤ) : -2 ^ 31 ≤ toInt32 x ∧ toInt32 x < 2 ^ 31 := by
  have hle := Int.le_bmod (x := x) (m := 2 ^ 32) (by decide)
  have hlt := Int.bmod_lt (x := x) (m := 2 ^ 32) (by decide)
  rw [toInt32]
  omega

theorem toInt32_eq_self_iff {x : ℤ} : toInt32 x = x ↔ -2 ^ 31 ≤ x ∧ x < 2 ^ 31 := by
  constructor
  · intro h
    rw [← h]
    exact toInt32_bounds x
  · intro h
    exact Int.bmod_eq_of_le (by omega) (by omega)

theorem toInt32_eq_self {x : ℤ} (h₁ : -2 ^ 31 ≤ x) (h₂ : x < 2 ^ 31) : toInt32 x = x :=
  toInt32_eq_self_iff.mpr ⟨h₁, h₂⟩

/-! ### Undefined behaviour -/

/-- How the process dies. -/
inductive Crash
  /-- The use of a null `responder_`. -/
  | nullResponder
  /-- A read through a pointer that no call has set, or behind the end of an array. -/
  | invalidRead
  /-- An integer division by zero. -/
  | zeroDivisor
  /-- An exception that nothing catches. -/
  | uncaught
  deriving DecidableEq, Repr

/-- How a call can end other than by success: with an error, by `std::out_of_range`, which nothing
catches, or not at all, the process being dead. -/
inductive Failure
  | returned (err : Error)
  | outOfRange
  | crashed (crash : Crash)
  deriving DecidableEq

/-- `shape[0]`. -/
def firstDim : List ℤ → Except Crash ℤ
  | [] => .error .invalidRead
  | dim :: _ => .ok dim

/-- A division of two `int64_t`. -/
def divide (n d : ℤ) : Except Crash ℤ := if d = 0 then .error .zeroDivisor else .ok (n.tdiv d)

/-- A division of a `size_t` by an `int64_t`, which is converted. -/
def divideSizeT (n : ℕ) (d : ℤ) : Except Crash ℕ :=
  if d = 0 then .error .zeroDivisor else .ok (n / toSizeT d)

/-- A step at which the process can die, in a function that can also fail. -/
def orCrash {α : Type} : Except Crash α → Except Failure α
  | .ok a => .ok a
  | .error crash => .error (.crashed crash)

theorem orCrash_firstDim_eq_ok {dims : List ℤ} {dim : ℤ} :
    orCrash (firstDim dims) = .ok dim ↔ dims ≠ [] ∧ dims.headD 0 = dim := by
  cases dims with
  | nil => simp [firstDim, orCrash]
  | cons d dims => simp [firstDim, orCrash]

/-- `backend::ShapeToString`: the dimensions in brackets, separated by commas. -/
def shapeToString (dims : List ℤ) : String :=
  "[" ++ ",".intercalate (dims.map toString) ++ "]"

end TensorrtBackend

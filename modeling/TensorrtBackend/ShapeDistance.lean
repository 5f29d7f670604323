import TensorrtBackend.ShapeBuffer

/-!
# The distance of shape values

`GetDistance` compares the values of a request with the optimal values of a profile, position 0
with the total batch size and position `idx` behind it with the request's entry `idx - 1`.  The
request's tensor already holds the batch size at its front, or holds none, so that its values are
taken one place late.

* `getDistance_eq`: what is computed.
* `getDistance_exact_iff`: when it is the Manhattan distance of the stored values.
-/

namespace TensorrtBackend

/-- The Manhattan distance of two lists of values. -/
def valueDistance (a b : List ℤ) : ℤ := (List.zipWith (fun x y => |x - y|) a b).sum

/-- The entries of the other tensor that `GetDistance` reads. -/
def distanceReads (other : ShapeTensor) : List ℕ := 0 :: List.range' 1 (other.nbShapeValues - 1)

/-- The reads stay inside the other tensor and the result is the Manhattan distance of the stored
values. -/
def DistanceExact (request opt : ShapeTensor) (totalBatchSize : ℤ) : Prop :=
  (∀ idx ∈ distanceReads opt, idx < opt.nbShapeValues) ∧
    request.getDistance opt totalBatchSize = valueDistance opt.values request.values

theorem distanceReads_inBounds_iff {other : ShapeTensor} :
    (∀ idx ∈ distanceReads other, idx < other.nbShapeValues) ↔ 0 < other.nbShapeValues := by
  rw [distanceReads, List.forall_mem_cons, and_iff_left_of_imp]
  intro hpos idx hidx
  have := List.mem_range'_1.mp hidx
  omega

/-- **What `GetDistance` computes**: the distance to the request's values moved one place back
behind the total batch size. -/
theorem getDistance_eq {request opt : ShapeTensor} {totalBatchSize : ℤ}
    (htype : opt.datatype = request.datatype) (hnb : opt.nbShapeValues = request.nbShapeValues)
    (hpos : 0 < opt.nbShapeValues) :
    request.getDistance opt totalBatchSize =
      valueDistance opt.values (totalBatchSize :: request.values.dropLast) := by
  obtain ⟨n, hn⟩ : ∃ n, opt.nbShapeValues = n + 1 := ⟨opt.nbShapeValues - 1, by omega⟩
  have hopt : opt.values = readValue request.datatype opt.data 0 ::
      (List.range n).map fun i => readValue request.datatype opt.data (i + 1) := by
    rw [ShapeTensor.values, hn, htype, List.range_succ_eq_map, List.map_cons, List.map_map]
    rfl
  have hrequest : request.values.dropLast =
      (List.range n).map fun i => readValue request.datatype request.data i := by
    rw [ShapeTensor.values, ← hnb, hn, List.range_succ, List.map_append, List.map_singleton,
      List.dropLast_concat]
  have hrange : List.range' 1 (opt.nbShapeValues - 1) = (List.range n).map fun i => i + 1 := by
    rw [hn, Nat.add_sub_cancel, List.range'_eq_map_range]
    exact List.map_congr_left fun i _ => Nat.add_comm 1 i
  rw [ShapeTensor.getDistance, foldl_add_eq_sum, hrange, hopt, hrequest, valueDistance,
    List.zipWith_cons_cons, List.sum_cons, List.zipWith_map, List.zipWith_self, List.map_map]
  rfl

section Built

variable {t u request opt : ShapeTensor} {dataBuffer : Option Bytes} {dataByteSize : ℕ}
  {datatype : DataType} {nbShapeValues : ℕ} {inputName : String} {supportBatching : Bool}
  {totalBatchSize : ℕ} {shapeValues : List ℤ}

/-- The data type and the count of a tensor built from a buffer. -/
theorem setDataFromBuffer_datatype
    (h : t.setDataFromBuffer dataBuffer dataByteSize datatype nbShapeValues inputName
      supportBatching totalBatchSize = (none, request)) :
    shapeTensorDataType datatype = some request.datatype := by
  cases dataBuffer with
  | none => cases h
  | some buffer =>
      obtain ⟨dt, hdt, -, -, rfl⟩ := setDataFromBuffer_eq_none_iff.mp h
      exact hdt

/-- The data type and the count of a tensor built from a profile's values. -/
theorem setDataFromShapeValues_datatype
    (h : u.setDataFromShapeValues shapeValues datatype nbShapeValues = (none, opt)) :
    shapeTensorDataType datatype = some opt.datatype ∧ opt.nbShapeValues = nbShapeValues := by
  simp only [ShapeTensor.setDataFromShapeValues] at h
  cases hdt : shapeTensorDataType datatype with
  | none => rw [hdt] at h; cases h
  | some dt =>
      simp only [hdt, Prod.mk.injEq, true_and] at h
      subst h
      exact ⟨rfl, rfl⟩

/-- **When the distance is the Manhattan distance**: there is a value, and moving the request's
values one place back behind the total batch size does not change their distance. -/
theorem getDistance_exact_iff
    (hrequest : t.setDataFromBuffer dataBuffer dataByteSize datatype nbShapeValues inputName
      supportBatching totalBatchSize = (none, request))
    (hopt : u.setDataFromShapeValues shapeValues datatype request.nbShapeValues = (none, opt)) :
    DistanceExact request opt totalBatchSize ↔
      0 < request.nbShapeValues ∧
        valueDistance opt.values ((totalBatchSize : ℤ) :: request.values.dropLast) =
          valueDistance opt.values request.values := by
  obtain ⟨htype, hnb⟩ := setDataFromShapeValues_datatype hopt
  have hsame : opt.datatype = request.datatype :=
    Option.some.inj (htype.symm.trans (setDataFromBuffer_datatype hrequest))
  rw [DistanceExact, distanceReads_inBounds_iff, hnb]
  refine and_congr_right fun hpos => ?_
  rw [getDistance_eq hsame hnb (hnb ▸ hpos)]

end Built

/-- The request tensor of one shape value, sent with a total batch size of two. -/
def pairRequest (value : ℤ) : ShapeTensor where
  size := 8
  nbShapeValues := 2
  datatype := .int32
  data := valueBytes .int32 2 ++ memcpyBytes (valueBytes .int32 value) 4

/-- The optimal values of a profile: a batch of two and one value. -/
def pairOpt (value : ℤ) : ShapeTensor where
  size := 8
  nbShapeValues := 2
  datatype := .int32
  data := [2, value].flatMap (valueBytes .int32)

theorem pairRequest_built (value : ℤ) :
    ShapeTensor.setDataFromBuffer {} (some (valueBytes .int32 value)) 4 .int32 1 "shape" true 2 =
      (none, pairRequest value) := rfl

theorem pairOpt_built (value : ℤ) :
    ShapeTensor.setDataFromShapeValues {} [2, value] .int32 (pairRequest value).nbShapeValues =
      (none, pairOpt value) := rfl

/-- The theorem for a value equal to the total batch size. -/
theorem getDistance_exact_iff_pair :
    DistanceExact (pairRequest 2) (pairOpt 2) (2 : ℕ) ↔
      0 < (pairRequest 2).nbShapeValues ∧
        valueDistance (pairOpt 2).values (((2 : ℕ) : ℤ) :: (pairRequest 2).values.dropLast) =
          valueDistance (pairOpt 2).values (pairRequest 2).values :=
  getDistance_exact_iff (pairRequest_built 2) (pairOpt_built 2)

/-- **The slip**: a request of exactly the optimal values is at distance 3. -/
theorem getDistance_inexact :
    ShapeTensor.setDataFromBuffer {} (some (valueBytes .int32 5)) 4 .int32 1 "shape" true 2 =
        (none, pairRequest 5) ∧
      ShapeTensor.setDataFromShapeValues {} [2, 5] .int32 (pairRequest 5).nbShapeValues =
        (none, pairOpt 5) ∧
      ¬ DistanceExact (pairRequest 5) (pairOpt 5) (2 : ℕ) := by
  refine ⟨pairRequest_built 5, pairOpt_built 5, fun h => ?_⟩
  have hdistance : (pairRequest 5).getDistance (pairOpt 5) (2 : ℕ) = 3 := by decide
  have hmanhattan : valueDistance (pairOpt 5).values (pairRequest 5).values = 0 := by decide
  have hequal := h.2
  rw [hdistance, hmanhattan] at hequal
  exact absurd hequal (by decide)

end TensorrtBackend

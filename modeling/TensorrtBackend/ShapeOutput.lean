import Mathlib.Algebra.Order.BigOperators.Group.List
import Mathlib.Data.List.GetD
import TensorrtBackend.Lib.Blocks
import TensorrtBackend.CopyErrors
import TensorrtBackend.RunFaults

/-!
# Shape-tensor outputs

`Run` answers a request that asked for a one-dimensional shape-tensor output with a buffer that
`SetOutputShapeTensorBuffer` fills: `batch_size` copies of `tensor_element_count / batch_size`
values of the engine.  With batching the batch size is the request's and the first value of the
engine is skipped; without batching `batch_size` is the first entry of the shape, which is the
number of values.  Sizes are counted in values of eight bytes, and every call is taken to succeed.

* `setOutputShapeTensorBuffer_eq`: what one buffer is filled with.
* `shapeOutputs_carry_iff`: when the buffers carry the engine's values.
-/

namespace TensorrtBackend.ShapeOutput

/-- `SetOutputShapeTensorBuffer`: the filled buffer.  `none` is undefined behaviour: the division by
a zero batch size, and the `int` counter of the copy loop running over. -/
def setOutputShapeTensorBuffer (supportBatching : Bool) (content : List ℤ)
    (tensorElementCount : ℕ) (batchSize : ℤ) : Option (List ℤ) :=
  let buffer := List.replicate tensorElementCount 0
  match divideSizeT tensorElementCount batchSize with
  | .error _ => none
  | .ok nbShapeValues =>
    let contentOffset := if supportBatching then 1 else 0
    let source := (List.range nbShapeValues).map fun j => content.getD (contentOffset + j) 0
    if 2 ^ 31 ≤ batchSize then none
    else
      some ((List.range batchSize.toNat).foldl
        (fun s _ => (Blocks.overwrite s.1 s.2 source, s.2 + source.length)) (buffer, 0)).1

/-- `batchn_shape` for one response, of an output of dims `dims`. -/
def batchnShape (supportBatching : Bool) (dims : Dims) (request : Request) : List ℤ :=
  if supportBatching then [batchDim request, dims.dim 0 - 1] else [dims.dim 0]

/-- The part of `Run` that fills the buffer of one response. -/
def shapeOutputBuffer (lib : BackendCommon) (inst : Instance) (content : List ℤ) (dims : Dims)
    (request : Request) : Option (List ℤ) :=
  let shape := batchnShape inst.supportBatching dims request
  setOutputShapeTensorBuffer inst.supportBatching content (toSizeT (lib.elementCount shape))
    (shape.headD 0)

/-- The buffer of every request that asked for the output holds the engine's values: behind the
batch size once for each item of the request, or all of them. -/
def CarriesValues (lib : BackendCommon) (inst : Instance) (content : List ℤ) (dims : Dims)
    (name : String) (requests : List Request) : Prop :=
  ∀ request ∈ requests, name ∈ request.requestedOutputs →
    shapeOutputBuffer lib inst content dims request =
      some (if inst.supportBatching then
        (List.replicate (batchDim request).toNat content.tail).flatten else content)

/-- What holds when `Run` comes to the output: `GetElementCount` is the product, the dims are those
of the engine's values, and with batching every request has an item, the first value is the total
batch size, which the check on it let pass, and the buffers have a size. -/
structure Ready (lib : BackendCommon) (inst : Instance) (content : List ℤ) (dims : Dims)
    (name : String) (requests : List Request) : Prop where
  element_count : ∀ dims : List ℤ, (∀ d ∈ dims, 0 ≤ d) → lib.elementCount dims = dims.prod
  values : dims.nbDims = 1 ∧ dims.dim 0 = content.length
  batch_pos : inst.supportBatching = true → ∀ request ∈ requests, 1 ≤ batchDim request
  first_value : inst.supportBatching = true → content.head? = some (requests.map batchDim).sum
  accepted : inst.supportBatching = true →
    (requests.map batchDim).sum = 1 ∨ (requests.map batchDim).sum ≤ inst.maxBatchSize
  has_size : inst.supportBatching = true → ∀ request ∈ requests,
    name ∈ request.requestedOutputs → batchDim request * (content.length - 1) * 8 < 2 ^ 64

/-! ### One buffer -/

/-- The buffer is filled with copies of the values behind the offset, as many as the batch size. -/
theorem setOutputShapeTensorBuffer_eq (supportBatching : Bool) (content : List ℤ) (n : ℕ) {b : ℕ}
    (hb : 0 < b) (hint : b < 2 ^ 31) :
    setOutputShapeTensorBuffer supportBatching content (b * n) b =
      some (List.replicate b ((List.range n).map fun j =>
        content.getD ((if supportBatching then 1 else 0) + j) 0)).flatten := by
  have hwrap : toSizeT (b : ℤ) = b := by
    rw [toSizeT]
    omega
  have hzero : ¬ (b : ℤ) = 0 := by omega
  have hlarge : ¬ 2 ^ 31 ≤ (b : ℤ) := by omega
  simp only [setOutputShapeTensorBuffer, divideSizeT, if_neg hzero, if_neg hlarge, hwrap,
    Nat.mul_div_cancel_left n hb, Int.toNat_natCast]
  rw [Blocks.foldl_overwrite, List.length_map, List.length_range, List.drop_eq_nil_of_le
    (List.length_replicate.le), List.append_nil]

/-- It is undefined for no rows and for more than an `int` counts. -/
theorem setOutputShapeTensorBuffer_eq_none {supportBatching : Bool} {content : List ℤ}
    {tensorElementCount : ℕ} {batchSize : ℤ} (h : batchSize = 0 ∨ 2 ^ 31 ≤ batchSize) :
    setOutputShapeTensorBuffer supportBatching content tensorElementCount batchSize = none := by
  unfold setOutputShapeTensorBuffer divideSizeT
  by_cases hzero : batchSize = 0
  · simp only [if_pos hzero]
  · simp only [if_neg hzero, if_pos (h.resolve_left hzero)]

/-- Reading on from a position gives the rest of a list. -/
theorem map_getD_eq_drop (content : List ℤ) (k : ℕ) :
    ((List.range (content.length - k)).map fun j => content.getD (k + j) 0) = content.drop k := by
  apply List.ext_getElem
  · rw [List.length_map, List.length_range, List.length_drop]
  · intro i hi _
    rw [List.length_map, List.length_range] at hi
    simp only [List.getElem_map, List.getElem_range, List.getElem_drop]
    exact List.getD_eq_getElem content 0 (by omega)

/-! ### The buffers and `Run` -/

section Run

open EarlyReturn PayloadM

variable {lib : BackendCommon} {inst : Instance} {calls : RunCalls} {required : List (List String)}
  {name : String} {dims : Dims} {idx : ℕ} {request : Request} {s : PayloadState}

/-- `batchn_shape` is what `Run` makes of the batch size it reads. -/
theorem batchnShape_eq (inst : Instance) (dims : Dims) (request : Request) :
    batchnShape inst.supportBatching dims request =
        outputShape inst dims (outputRows inst dims request) ∧
      (batchnShape inst.supportBatching dims request).headD 0 = outputRows inst dims request := by
  unfold batchnShape outputShape outputRows
  cases inst.supportBatching with
  | false => exact ⟨rfl, rfl⟩
  | true => exact ⟨rfl, rfl⟩

/-- The two embeddings of `SetOutputShapeTensorBuffer`, when every call succeeds: where the buffer
is defined `Run` makes one copy for each row and goes on, and where it is not the process dies. -/
theorem setOutputShapeTensorBuffer_run (supportBatching : Bool) (content : List ℤ)
    {tensorElementCount : ℕ} {batchSize : ℤ} (hcalls : ∀ k, calls.outcome k = none)
    (hint : batchSize < 2 ^ 31) :
    TensorrtBackend.setOutputShapeTensorBuffer calls idx tensorElementCount batchSize s =
      match setOutputShapeTensorBuffer supportBatching content tensorElementCount batchSize with
      | some _ => (some (), { s with calls := s.calls + 1 + batchSize.toNat })
      | none => (none, { s with calls := s.calls + 1, crash := some .zeroDivisor }) := by
  by_cases hrows : batchSize = 0
  · rw [setOutputShapeTensorBuffer_eq_none (Or.inl hrows), TensorrtBackend.setOutputShapeTensorBuffer,
      bind_of_fall (call_eq _ s), hcalls]
    show (unlessCrash (divideSizeT tensorElementCount batchSize) >>= _) _ = _
    rw [divideSizeT, if_pos hrows]
    rfl
  · have hnone : (copyOutcomes calls batchSize s).getLastD none = none := by
      have hall : ∀ outcome ∈ copyOutcomes calls batchSize s, outcome = none := by
        intro outcome h
        rw [copyOutcomes, hcalls] at h
        obtain ⟨i, -, rfl⟩ := List.mem_map.mp h
        exact hcalls _
      rw [List.getLastD_eq_getLast?]
      cases hlast : (copyOutcomes calls batchSize s).getLast? with
      | none => rfl
      | some outcome => exact hall outcome (List.mem_of_getLast? hlast)
    have hfilled : (setOutputShapeTensorBuffer supportBatching content tensorElementCount
        batchSize).isSome := by
      simp only [setOutputShapeTensorBuffer, divideSizeT, if_neg hrows, if_neg (not_le.mpr hint)]
      rfl
    obtain ⟨buffer, hbuffer⟩ := Option.isSome_iff_exists.mp hfilled
    rw [hbuffer, setOutputShapeTensorBuffer_state (hcalls s.calls) hrows, hnone]
    rfl

/-- **`Run` fills the buffer** of a response its request asked the output of, when every call
succeeds: it goes on with one copy made for each row, or the process dies because there is none. -/
theorem shapeOutputResponse_buffer (content : List ℤ) (hcalls : ∀ k, calls.outcome k = none)
    (hdimension : inst.supportBatching = true → firstShape request ≠ [])
    (hlive : (s.slots.getD idx default).response = some true) (hasked : name ∈ required.getD idx [])
    (hint : outputRows inst dims request < 2 ^ 31) :
    shapeOutputResponse lib inst calls required name dims idx request s =
      match shapeOutputBuffer lib inst content dims request with
      | some _ => (some (), { s with
          calls := s.calls + responseCalls inst + 3 + (outputRows inst dims request).toNat })
      | none => (none, { s with
          calls := s.calls + responseCalls inst + 3, crash := some .zeroDivisor }) := by
  obtain ⟨hshape, hhead⟩ := batchnShape_eq inst dims request
  have hsize : outputBatchSize inst calls dims idx request s =
      (some (outputRows inst dims request), { s with calls := s.calls + responseCalls inst }) := by
    rcases outputBatchSize_cases inst calls dims idx s hdimension with ⟨-, hfails, -⟩ | ⟨-, heq⟩
    · rcases hfails with hf | hf
      · exact absurd (hcalls _) hf
      · exact absurd (hcalls _) hf
    · exact heq
  have hanswer : shapeOutputResponse lib inst calls required name dims idx request s =
      TensorrtBackend.setOutputShapeTensorBuffer calls idx
        (toSizeT (lib.elementCount (outputShape inst dims (outputRows inst dims request))))
        (outputRows inst dims request) { s with calls := s.calls + responseCalls inst + 2 } := by
    rw [shapeOutputResponse, bind_of_fall hsize, respondIfError_call, hcalls]
    show (onlyIf (((s.slots.getD idx default).response == some true) = true ∧
      name ∈ required.getD idx []) _) { s with calls := s.calls + responseCalls inst + 1 } = _
    rw [onlyIf, if_pos ⟨beq_iff_eq.mpr hlive, hasked⟩, respondIfError_call, hcalls]
    rfl
  rw [hanswer, setOutputShapeTensorBuffer_run inst.supportBatching content hcalls hint,
    shapeOutputBuffer, hshape, ← hshape, hhead]

end Run

section Outputs

variable {lib : BackendCommon} {inst : Instance} {content : List ℤ} {dims : Dims} {name : String}
  {requests : List Request}

/-- With batching the buffer of a request holds the values behind the first, once for each item. -/
theorem shapeOutputBuffer_batching (h : Ready lib inst content dims name requests)
    (hbatch : inst.supportBatching = true) {request : Request} (hmem : request ∈ requests)
    (hasked : name ∈ request.requestedOutputs) :
    shapeOutputBuffer lib inst content dims request =
      some (List.replicate (batchDim request).toNat content.tail).flatten := by
  obtain ⟨-, hdim⟩ := h.values
  have hpos := h.batch_pos hbatch request hmem
  have hcontent : content ≠ [] := by
    rintro rfl
    cases h.first_value hbatch
  have hlen : 0 < content.length := List.length_pos_of_ne_nil hcontent
  -- No request is larger than the batch, and the batch size is an `int`.
  have hle : batchDim request ≤ (requests.map batchDim).sum := by
    apply List.single_le_sum
    · intro d hd
      obtain ⟨r, hr, rfl⟩ := List.mem_map.mp hd
      have := h.batch_pos hbatch r hr
      omega
    · exact List.mem_map_of_mem hmem
  have hint : batchDim request < 2 ^ 31 := by
    have := h.accepted hbatch
    have := inst.maxBatchSize_int
    omega
  obtain ⟨b, hb⟩ : ∃ b : ℕ, batchDim request = b := ⟨(batchDim request).toNat, by omega⟩
  have hsize := h.has_size hbatch request hmem hasked
  have hcount : lib.elementCount [batchDim request, dims.dim 0 - 1] =
      ((b * (content.length - 1) : ℕ) : ℤ) := by
    rw [h.element_count, List.prod_cons, List.prod_singleton, hdim, hb]
    · push_cast [Nat.cast_sub hlen]
      rfl
    · intro d hd
      simp only [List.mem_cons, List.not_mem_nil, or_false] at hd
      omega
  have hwrap : toSizeT ((b * (content.length - 1) : ℕ) : ℤ) = b * (content.length - 1) := by
    rw [hb, ← Nat.cast_pred hlen] at hsize
    rw [toSizeT]
    omega
  have hfilled := setOutputShapeTensorBuffer_eq true content (content.length - 1)
    (show 0 < b by omega) (show b < 2 ^ 31 by omega)
  rw [if_pos rfl, map_getD_eq_drop] at hfilled
  simp only [shapeOutputBuffer, batchnShape, hbatch, if_true, List.headD_cons, hcount, hwrap]
  rw [hb, hfilled, Int.toNat_natCast, List.drop_one]

/-- Without batching every entry of the buffer is the first value; an empty output or one of more
values than an `int` counts has no defined buffer. -/
theorem shapeOutputBuffer_unbatched (h : Ready lib inst content dims name requests)
    (hbatch : inst.supportBatching = false) (request : Request) :
    shapeOutputBuffer lib inst content dims request =
      if 0 < content.length ∧ content.length < 2 ^ 31 then
        some (List.replicate content.length (content.headD 0)) else none := by
  obtain ⟨-, hdim⟩ := h.values
  have hcount : lib.elementCount [(content.length : ℤ)] = content.length := by
    rw [h.element_count, List.prod_singleton]
    intro d hd
    rw [List.mem_singleton.mp hd]
    exact Int.natCast_nonneg _
  simp only [shapeOutputBuffer, batchnShape, hbatch, Bool.false_eq_true, if_false, List.headD_cons,
    hdim, hcount]
  by_cases hn : 0 < content.length ∧ content.length < 2 ^ 31
  · have hwrap : toSizeT (content.length : ℤ) = content.length * 1 := by
      rw [toSizeT]
      omega
    have hhead : ((List.range 1).map fun j => content.getD (0 + j) 0) = [content.headD 0] := by
      cases content <;> rfl
    rw [if_pos hn, hwrap, setOutputShapeTensorBuffer_eq false content 1 hn.1 hn.2]
    simp only [Bool.false_eq_true, if_false, hhead, List.flatten_replicate_singleton]
  · rw [if_neg hn]
    exact setOutputShapeTensorBuffer_eq_none (by omega)

/-- **When the buffers carry the engine's values**: always with batching; otherwise only when nobody
asked, or when the values, between one and `INT_MAX` of them, are all the same. -/
theorem shapeOutputs_carry_iff (h : Ready lib inst content dims name requests) :
    CarriesValues lib inst content dims name requests ↔
      inst.supportBatching = true ∨
        (∀ request ∈ requests, name ∉ request.requestedOutputs) ∨
        0 < content.length ∧ content.length < 2 ^ 31 ∧ ∀ v ∈ content, v = content.headD 0 := by
  cases hbatch : inst.supportBatching with
  | true =>
      simp only [true_or, iff_true]
      intro request hmem hasked
      rw [shapeOutputBuffer_batching h hbatch hmem hasked, if_pos hbatch]
  | false =>
      simp only [Bool.false_eq_true, false_or]
      have hbuffer := shapeOutputBuffer_unbatched h hbatch
      constructor
      · intro hcarries
        by_cases hasked : ∀ request ∈ requests, name ∉ request.requestedOutputs
        · exact Or.inl hasked
        · simp only [not_forall, not_not, exists_prop] at hasked
          obtain ⟨request, hmem, hname⟩ := hasked
          have hvalues := hcarries request hmem hname
          rw [hbuffer, hbatch] at hvalues
          split at hvalues
          · rename_i hn
            have hsame := Option.some.inj hvalues
            exact Or.inr ⟨hn.1, hn.2, (List.eq_replicate_iff.mp hsame.symm).2⟩
          · cases hvalues
      · rintro (hnone | ⟨hpos, hint, hall⟩) request hmem hname
        · exact absurd hname (hnone request hmem)
        · rw [hbuffer, if_pos ⟨hpos, hint⟩, hbatch]
          exact congrArg some (List.eq_replicate_iff.mpr ⟨rfl, hall⟩).symm

end Outputs

/-! ### A model of one matrix input -/

/-- Two requests of two and one rows that ask for the output. -/
def rowRequests : List Request :=
  [{ inputs := [{ name := "in", shape := [2, 4] }], requestedOutputs := ["shape"] },
   { inputs := [{ name := "in", shape := [1, 4] }], requestedOutputs := ["shape"] }]

/-- The dims of an output of three values. -/
def threeDims : Dims := vectorDims 3

theorem plain_elementCount {dims : List ℤ} (h : ∀ d ∈ dims, 0 ≤ d) :
    BackendCommon.plain.elementCount dims = dims.prod := by
  have hwild : wildcardDim ∉ dims := fun hmem => absurd (h _ hmem) (by decide)
  show (if wildcardDim ∈ dims then (-1 : ℤ) else dims.prod) = dims.prod
  rw [if_neg hwild]

theorem rows_ready :
    Ready BackendCommon.plain (matrixInstance 8 1) [3, 5, 7] threeDims "shape" rowRequests where
  element_count _ h := plain_elementCount h
  values := ⟨rfl, rfl⟩
  batch_pos _ := by decide
  first_value _ := rfl
  accepted _ := by decide
  has_size _ := by decide

theorem rows_ready_unbatched :
    Ready BackendCommon.plain (matrixInstance 0 1) [3, 5, 7] threeDims "shape" rowRequests where
  element_count _ h := plain_elementCount h
  values := ⟨rfl, rfl⟩
  batch_pos h := absurd h (by decide)
  first_value h := absurd h (by decide)
  accepted h := absurd h (by decide)
  has_size h := absurd h (by decide)

/-- The theorem for these requests of a model with batching. -/
theorem shapeOutputs_carry_iff_rows :
    CarriesValues BackendCommon.plain (matrixInstance 8 1) [3, 5, 7] threeDims "shape" rowRequests ↔
      (matrixInstance 8 1).supportBatching = true ∨
        (∀ request ∈ rowRequests, "shape" ∉ request.requestedOutputs) ∨
        0 < [3, 5, 7].length ∧ [3, 5, 7].length < 2 ^ 31 ∧
          ∀ v ∈ [3, 5, 7], v = [3, 5, 7].headD (0 : ℤ) :=
  shapeOutputs_carry_iff rows_ready

/-- **The slip**: without batching the values 3, 5, 7 are answered as 3, 3, 3. -/
theorem shapeOutputs_repeat_first :
    Ready BackendCommon.plain (matrixInstance 0 1) [3, 5, 7] threeDims "shape" rowRequests ∧
      ¬ CarriesValues BackendCommon.plain (matrixInstance 0 1) [3, 5, 7] threeDims "shape"
        rowRequests := by
  refine ⟨rows_ready_unbatched, fun h => ?_⟩
  have hfirst := h _ List.mem_cons_self (by decide)
  have hfilled : shapeOutputBuffer BackendCommon.plain (matrixInstance 0 1) [3, 5, 7] threeDims
      { inputs := [{ name := "in", shape := [2, 4] }], requestedOutputs := ["shape"] } =
        some [3, 3, 3] := by rfl
  rw [hfilled] at hfirst
  exact absurd hfirst (by decide)


end TensorrtBackend.ShapeOutput

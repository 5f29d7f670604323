import TensorrtBackend.RunPhases

/-!
# What an execution reads of its batch

Before the responses exist `Run` adds up the first dimensions of the requests and reads the shape
inputs of the first one.  It does not look at what the calls for the shapes return, and it divides
the element count of a shape input by its first dimension.  Up to here an execution passes, fails
all requests or ends the process; what decides are the calls and the shapes.

* `sumFrom_batching`, `sumFrom_counting`: the loop over the requests.
* `shapeValues_cases`: the loop over the inputs.
-/

namespace TensorrtBackend

open EarlyReturn PayloadM

/-! ### The batch -/

/-- Both calls for the request succeed, from call `k` on, and there is a dimension to read. -/
structure BatchSizeRead (calls : Calls) (k : ℕ) (request : Request) : Prop where
  inputs : request.inputs ≠ []
  found : calls.outcome k = none
  properties : calls.outcome (k + 1) = none
  dimension : firstShape request ≠ []

/-- The first input of the request is found, and its shape is read although there is none. -/
structure BatchDimUnread (calls : Calls) (k : ℕ) (request : Request) : Prop where
  inputs : request.inputs ≠ []
  found : calls.outcome k = none
  missing : calls.outcome (k + 1) ≠ none ∨ firstShape request = []

/-- The batch sizes of the requests are read, from call `k` on. -/
def BatchSizesRead (calls : Calls) : ℕ → List Request → Prop
  | _, [] => True
  | k, request :: requests => BatchSizeRead calls k request ∧ BatchSizesRead calls (k + 2) requests

/-- Those of the first requests are, and the next one is read although it is not there. -/
def BatchSizesUnread (calls : Calls) : ℕ → List Request → Prop
  | _, [] => False
  | k, request :: requests =>
      BatchDimUnread calls k request ∨
        BatchSizeRead calls k request ∧ BatchSizesUnread calls (k + 2) requests

theorem BatchSizesRead.dimension {calls : Calls} {k : ℕ} {requests : List Request}
    (h : BatchSizesRead calls k requests) : ∀ request ∈ requests, firstShape request ≠ [] := by
  induction requests generalizing k with
  | nil => exact fun request hmem => absurd hmem List.not_mem_nil
  | cons request requests ih =>
      intro r hr
      rcases List.mem_cons.mp hr with rfl | hr
      · exact h.1.dimension
      · exact ih h.2 r hr

theorem BatchSizesRead.not_unread {calls : Calls} {k : ℕ} {requests : List Request}
    (h : BatchSizesRead calls k requests) : ¬ BatchSizesUnread calls k requests := by
  induction requests generalizing k with
  | nil => exact fun hunread => hunread
  | cons request requests ih =>
      intro hunread
      rcases hunread with hunread | hunread
      · rcases hunread.missing with hm | hm
        · exact hm h.1.properties
        · exact h.1.dimension hm
      · exact ih h.2 hunread.2

theorem firstDim_firstShape {request : Request} (h : firstShape request ≠ []) :
    firstDim (firstShape request) = .ok (batchDim request) := by
  rw [batchDim]
  cases hshape : firstShape request with
  | nil => exact absurd hshape h
  | cons dim dims => rfl

theorem toSizeT_add_right (x y : ℤ) : toSizeT (toSizeT x + y) = toSizeT (x + y) := by
  unfold toSizeT
  omega

section Batch

variable {inst : Instance} {calls : RunCalls} {requests : List Request} {n k : ℕ} {s : PayloadState}

theorem UntouchedAt.withCalls (h : UntouchedAt n k s) (total made : ℕ) :
    UntouchedAt n k { s with totalBatchSize := total, calls := made } :=
  ⟨h.slots, h.responder, h.releases, h.alive⟩

/-- What is behind the first call for a request whose first input is found. -/
theorem addRequestBatch_of_found (request : Request) (hinputs : request.inputs ≠ [])
    (hfound : calls.outcome s.calls = none) : addRequestBatch calls request s =
      addFirstDim calls request { s with calls := s.calls + 1 } := by
  have hfirst : requestFirstInput calls request s =
      (some (if (calls.outcome s.calls).isNone = true ∧ request.inputs = [] then
        errorNew .invalidArg "out of bounds index 0: request has 0 inputs"
        else calls.outcome s.calls), { s with calls := s.calls + 1 }) := rfl
  rw [hfound, if_neg fun hc => hinputs hc.2] at hfirst
  rw [addRequestBatch, bind_of_fall hfirst]

/-- One request of a model that supports batching: its batch size is added, the process dies reading
it, or every request is failed. -/
theorem addRequestBatch_cases (h : UntouchedAt n k s) (request : Request) :
    (BatchSizeRead calls.toCalls s.calls request ∧ addRequestBatch calls request s =
        (some (), { s with
          totalBatchSize := toSizeT (s.totalBatchSize + batchDim request), calls := s.calls + 2 })) ∨
      (BatchDimUnread calls.toCalls s.calls request ∧
        ∃ t, addRequestBatch calls request s = (none, t) ∧ t.crash = some .invalidRead) ∨
      (¬ BatchSizeRead calls.toCalls s.calls request ∧
        ¬ BatchDimUnread calls.toCalls s.calls request ∧
        ∃ t, addRequestBatch calls request s = (none, t) ∧ ClosedAt n k t) := by
  have hrefused : ∀ err, requestFirstInput calls request s =
      (some (some err), { s with calls := s.calls + 1 }) →
      ∃ t, addRequestBatch calls request s = (none, t) ∧ ClosedAt n k t := by
    intro err hfirst
    rw [addRequestBatch, bind_of_fall hfirst]
    exact respondAllAndReturn_closes err (h.withCalls s.totalBatchSize _)
  by_cases hinputs : request.inputs = []
  · refine Or.inr (Or.inr ⟨fun hr => hr.inputs hinputs, fun hu => hu.inputs hinputs, ?_⟩)
    cases hfound : calls.outcome s.calls with
    | some err =>
        refine hrefused err ?_
        show (some (if (calls.outcome s.calls).isNone = true ∧ request.inputs = [] then _ else _), _) = _
        rw [hfound, if_neg fun hc => Bool.noConfusion hc.1]
    | none =>
        refine hrefused ⟨.invalidArg, "out of bounds index 0: request has 0 inputs"⟩ ?_
        show (some (if (calls.outcome s.calls).isNone = true ∧ request.inputs = [] then _ else _), _) = _
        rw [hfound, if_pos ⟨rfl, hinputs⟩]
        rfl
  · cases hfound : calls.outcome s.calls with
    | some err =>
        have hfailed : calls.outcome s.calls ≠ none := by
          rw [hfound]
          exact Option.some_ne_none err
        refine Or.inr (Or.inr ⟨fun hr => hfailed hr.found, fun hu => hfailed hu.found, ?_⟩)
        refine hrefused err ?_
        show (some (if (calls.outcome s.calls).isNone = true ∧ request.inputs = [] then _ else _), _) = _
        rw [hfound, if_neg fun hc => Bool.noConfusion hc.1]
    | none =>
        rw [addRequestBatch_of_found request hinputs hfound]
        cases hproperties : calls.outcome (s.calls + 1) with
        | some err =>
            have hcall : call calls.toCalls { s with calls := s.calls + 1 } =
                (some (some err), { s with calls := s.calls + 1 + 1 }) :=
              Prod.ext (congrArg some hproperties) rfl
            refine Or.inr (Or.inl ⟨⟨hinputs, hfound, Or.inl ?_⟩, ?_⟩)
            · rw [hproperties]
              exact Option.some_ne_none err
            · rw [addFirstDim, bind_of_fall hcall]
              exact ⟨_, rfl, rfl⟩
        | none =>
            have hcall : call calls.toCalls { s with calls := s.calls + 1 } =
                (some none, { s with calls := s.calls + 1 + 1 }) :=
              Prod.ext (congrArg some hproperties) rfl
            rw [addFirstDim, bind_of_fall hcall]
            by_cases hshape : firstShape request = []
            · refine Or.inr (Or.inl ⟨⟨hinputs, hfound, Or.inr hshape⟩, ?_⟩)
              simp only [hshape, firstDim]
              exact ⟨_, rfl, rfl⟩
            · refine Or.inl ⟨⟨hinputs, hfound, hproperties, hshape⟩, ?_⟩
              simp only [firstDim_firstShape hshape]
              rfl

/-- An untouched request is there. -/
theorem addBatchSize_eq (inst : Instance) (calls : RunCalls) (h : UntouchedAt n k s) (i : ℕ)
    (request : Request) : addBatchSize inst calls i request s =
      (if 0 < inst.maxBatchSize then addRequestBatch calls request
        else modify fun s => { s with totalBatchSize := toSizeT (s.totalBatchSize + 1) }) s := by
  have hpresent : (s.slots.getD i default).request = true := by
    rw [h.slots, List.getD_eq_getElem?_getD, List.getElem?_replicate]
    split <;> rfl
  show (if !(s.slots.getD i default).request then _ else if 0 < inst.maxBatchSize then _ else _ :
    PayloadM Unit) s = _
  rw [hpresent, if_neg (by decide)]

/-- The loop over the remaining requests. -/
def sumFrom (inst : Instance) (calls : RunCalls) (requests : List Request) (i : ℕ) :
    PayloadM Unit :=
  forEach (fun x => addBatchSize inst calls x.2 x.1) (requests.zipIdx i)

theorem sumFrom_cons (request : Request) (requests : List Request) (i : ℕ) :
    sumFrom inst calls (request :: requests) i =
      (addBatchSize inst calls i request >>= fun _ => sumFrom inst calls requests (i + 1)) := rfl

/-- The loop for a model that supports batching: the batch sizes are summed, the process dies
reading one, or every request is failed. -/
theorem sumFrom_batching (calls : RunCalls) (requests : List Request) (hmax : 0 < inst.maxBatchSize)
    (h : UntouchedAt n k s) {x : ℤ} (hx : s.totalBatchSize = toSizeT x) (i : ℕ) :
    (BatchSizesRead calls.toCalls s.calls requests ∧
        sumFrom inst calls requests i s = (some (), { s with
          totalBatchSize := toSizeT (x + (requests.map batchDim).sum)
          calls := s.calls + 2 * requests.length })) ∨
      (BatchSizesUnread calls.toCalls s.calls requests ∧
        ∃ t, sumFrom inst calls requests i s = (none, t) ∧ t.crash = some .invalidRead) ∨
      (¬ BatchSizesRead calls.toCalls s.calls requests ∧
        ¬ BatchSizesUnread calls.toCalls s.calls requests ∧
        ∃ t, sumFrom inst calls requests i s = (none, t) ∧ ClosedAt n k t) := by
  induction requests generalizing s x i with
  | nil =>
      refine Or.inl ⟨trivial, ?_⟩
      rw [List.map_nil, List.sum_nil, add_zero, ← hx]
      rfl
  | cons request requests ih =>
      have hstep := addBatchSize_eq inst calls h i request
      rw [if_pos hmax] at hstep
      rw [sumFrom_cons]
      rcases addRequestBatch_cases h request with ⟨hr, heq⟩ | ⟨hu, t, heq, ht⟩ | ⟨hr, hu, t, heq, ht⟩
      · rw [bind_of_fall (hstep.trans heq)]
        have hx' : toSizeT (s.totalBatchSize + batchDim request) = toSizeT (x + batchDim request) := by
          rw [hx, toSizeT_add_right]
        have hfound : ¬ BatchDimUnread calls.toCalls s.calls request := by
          intro hu
          rcases hu.missing with hm | hm
          · exact hm hr.properties
          · exact hr.dimension hm
        rcases ih (h.withCalls (toSizeT (s.totalBatchSize + batchDim request)) (s.calls + 2)) hx'
            (i + 1) with ⟨hrest, heq⟩ | ⟨hrest, hdies⟩ | ⟨hrest, hrest', hfails⟩
        · refine Or.inl ⟨⟨hr, hrest⟩, heq.trans ?_⟩
          rw [List.map_cons, List.sum_cons, ← add_assoc, List.length_cons, Nat.mul_succ,
            Nat.add_right_comm, Nat.add_assoc]
        · exact Or.inr (Or.inl ⟨Or.inr ⟨hr, hrest⟩, hdies⟩)
        · refine Or.inr (Or.inr ⟨fun hc => hrest hc.2, fun hc => ?_, hfails⟩)
          rcases hc with hc | hc
          · exact hfound hc
          · exact hrest' hc.2
      · rw [bind_of_ret (hstep.trans heq)]
        exact Or.inr (Or.inl ⟨Or.inl hu, t, rfl, ht⟩)
      · rw [bind_of_ret (hstep.trans heq)]
        refine Or.inr (Or.inr ⟨fun hc => hr hc.1, fun hc => ?_, t, rfl, ht⟩)
        rcases hc with hc | hc
        · exact hu hc
        · exact hr hc.1

/-- The loop for a model that does not: the requests are counted. -/
theorem sumFrom_counting (calls : RunCalls) (requests : List Request)
    (hmax : ¬ 0 < inst.maxBatchSize) (h : UntouchedAt n k s) {x : ℤ}
    (hx : s.totalBatchSize = toSizeT x) (i : ℕ) :
    sumFrom inst calls requests i s =
      (some (), { s with totalBatchSize := toSizeT (x + requests.length) }) := by
  induction requests generalizing s x i with
  | nil =>
      show (some (), s) = (some (), { s with totalBatchSize := toSizeT (x + 0) })
      rw [add_zero, ← hx]
  | cons request requests ih =>
      have hstep := addBatchSize_eq inst calls h i request
      rw [if_neg hmax] at hstep
      have heq : addBatchSize inst calls i request s =
          (some (), { s with totalBatchSize := toSizeT (s.totalBatchSize + 1) }) := hstep
      have hx' : toSizeT (s.totalBatchSize + 1) = toSizeT (x + 1) := by rw [hx, toSizeT_add_right]
      have hcount : x + ((request :: requests).length : ℤ) = x + 1 + requests.length := by
        rw [List.length_cons]
        omega
      rw [sumFrom_cons, bind_of_fall heq, hcount]
      exact ih (h.withCalls (toSizeT (s.totalBatchSize + 1)) s.calls) hx' (i + 1)

end Batch

/-! ### The shape values -/

/-- The number of calls `GetRequestShapeValues` makes for an input it accepts. -/
def valueCalls (inst : Instance) (input : InputProperties) : ℕ :=
  if inst.isShapeInferenceIo input.name then 4 else 2

section Values

variable (lib : BackendCommon) (inst : Instance) (calls : RunCalls) (total k : ℕ)
  (input : InputProperties)

/-- The input is accepted by `GetRequestShapeValues`, from call `k` on. -/
structure ValueAccepted : Prop where
  found : calls.outcome k = none
  properties : calls.outcome (k + 1) = none
  value : inst.isShapeInferenceIo input.name = true →
    calls.outcome (k + 2) = none ∧ calls.outcome (k + 3) = none ∧
      ∃ value, requestShapeValue lib inst total input = .ok value

/-- The inputs are accepted one after the other. -/
def ValuesAccepted : ℕ → List InputProperties → Prop
  | _, [] => True
  | k, input :: inputs =>
      ValueAccepted lib inst calls total k input ∧
        ValuesAccepted (k + valueCalls inst input) inputs

/-- `GetRequestShapeValues` comes to the division for the input: it is a shape tensor in one buffer
on the CPU, and the calls for it succeed. -/
structure ComesToDivision : Prop where
  found : calls.outcome k = none
  properties : calls.outcome (k + 1) = none
  shape : inst.isShapeInferenceIo input.name = true
  contiguous : input.bufferCount = 1
  buffer : calls.outcome (k + 2) = none
  cpu : ¬ (input.buffer.isNone ∨ input.dataMemoryType = .gpu)
  elementCount : calls.outcome (k + 3) = none
  batching : inst.supportBatching = true

/-- How `GetRequestShapeValues` ends the process at the input. -/
inductive ValueFault : Crash → Prop
  /-- The input is not found. -/
  | notFound : calls.outcome k ≠ none → ValueFault .invalidRead
  /-- It has no first dimension. -/
  | noDimension : ComesToDivision inst calls k input → input.shape = [] → ValueFault .invalidRead
  /-- Its first dimension is zero. -/
  | zeroDimension : ComesToDivision inst calls k input → input.shape.head? = some 0 →
      ValueFault .zeroDivisor

/-- `GetRequestShapeValues` ends the process at one of the inputs, those before it being accepted.
-/
def ValuesFault (kind : Crash) : ℕ → List InputProperties → Prop
  | _, [] => False
  | k, input :: inputs =>
      ValueFault inst calls k input kind ∨
        ValueAccepted lib inst calls total k input ∧
          ValuesFault kind (k + valueCalls inst input) inputs

end Values

section Values

variable {lib : BackendCommon} {inst : Instance} {calls : RunCalls} {total n k : ℕ}
  {s : PayloadState}

theorem itemElementCount_eq_error_iff {shape : List ℤ} {kind : Crash} :
    itemElementCount lib inst.supportBatching shape = .error kind ↔
      inst.supportBatching = true ∧ (shape = [] ∧ kind = .invalidRead ∨
        shape.head? = some 0 ∧ kind = .zeroDivisor) := by
  unfold itemElementCount
  cases inst.supportBatching with
  | false => simp
  | true =>
      cases shape with
      | nil =>
          show (Except.error Crash.invalidRead : Except Crash ℤ) = .error kind ↔ _
          cases kind <;> simp
      | cons dim dims =>
          show divide _ dim = .error kind ↔ _
          by_cases hdim : dim = 0
          · cases kind <;> simp [divide, hdim]
          · simp [divide, hdim]

/-- A call that fails is responded to every request. -/
theorem callOrRespondAll_fails (h : UntouchedAt n k s) (hfails : calls.outcome s.calls ≠ none) :
    ∃ t, callOrRespondAll calls.toCalls s = (none, t) ∧ ClosedAt n k t := by
  obtain ⟨err, herr⟩ := Option.ne_none_iff_exists'.mp hfails
  have hcall : call calls.toCalls s = (some (some err), { s with calls := s.calls + 1 }) :=
    Prod.ext (congrArg some herr) rfl
  rw [callOrRespondAll, bind_of_fall hcall]
  exact respondAllAndReturn_closes err (h.withCalls s.totalBatchSize (s.calls + 1))

/-- One that succeeds is counted. -/
theorem callOrRespondAll_succeeds (hsucceeds : calls.outcome s.calls = none) :
    callOrRespondAll calls.toCalls s = (some (), { s with calls := s.calls + 1 }) := by
  have hcall : call calls.toCalls s = (some none, { s with calls := s.calls + 1 }) :=
    Prod.ext (congrArg some hsucceeds) rfl
  rw [callOrRespondAll, bind_of_fall hcall]
  rfl

/-- A shape tensor that is not one buffer on the CPU is refused. -/
theorem requestShapeValue_of_not_contiguous {input : InputProperties}
    (h : input.bufferCount = 1 → input.buffer.isNone ∨ input.dataMemoryType = .gpu) :
    ∃ err, requestShapeValue lib inst total input = .error (.returned err) := by
  unfold requestShapeValue
  by_cases hcount : input.bufferCount = 1
  · rw [if_neg (not_not.mpr hcount), if_pos (h hcount)]
    exact ⟨_, rfl⟩
  · rw [if_pos hcount]
    exact ⟨_, rfl⟩

/-- One that is gives its values, is refused for them, or ends the process in the division. -/
theorem requestShapeValue_of_contiguous (lib : BackendCommon) (inst : Instance) (total : ℕ)
    {input : InputProperties} (hcount : input.bufferCount = 1)
    (hcpu : ¬ (input.buffer.isNone ∨ input.dataMemoryType = .gpu)) :
    (∃ value, requestShapeValue lib inst total input = .ok value) ∨
      (∃ err, requestShapeValue lib inst total input = .error (.returned err)) ∨
      ∃ kind, requestShapeValue lib inst total input = .error (.crashed kind) ∧
        itemElementCount lib inst.supportBatching input.shape = .error kind := by
  unfold requestShapeValue
  rw [if_neg (not_not.mpr hcount), if_neg hcpu]
  cases hitem : itemElementCount lib inst.supportBatching input.shape with
  | error kind => exact Or.inr (Or.inr ⟨kind, rfl, rfl⟩)
  | ok elementCnt =>
      cases hset : ({} : ShapeTensor).setDataFromBuffer input.buffer input.dataByteSize input.datatype
          (toSizeT elementCnt) input.name inst.supportBatching total with
      | mk err values =>
          cases err with
          | some err => exact Or.inr (Or.inl ⟨err, by simp only [hset]⟩)
          | none => exact Or.inl ⟨values, by simp only [hset]⟩

/-- The process dies in the division only by a shape without a first dimension, or by a zero. -/
theorem ComesToDivision.fault_iff {input : InputProperties} {k : ℕ}
    (h : ComesToDivision inst calls k input) {kind : Crash} :
    ValueFault inst calls k input kind ↔
      itemElementCount lib inst.supportBatching input.shape = .error kind := by
  rw [itemElementCount_eq_error_iff]
  constructor
  · intro hfault
    cases hfault with
    | notFound hnot => exact absurd h.found hnot
    | noDimension _ hshape => exact ⟨h.batching, Or.inl ⟨hshape, rfl⟩⟩
    | zeroDimension _ hshape => exact ⟨h.batching, Or.inr ⟨hshape, rfl⟩⟩
  · intro hdim
    rcases hdim.2 with ⟨hshape, rfl⟩ | ⟨hshape, rfl⟩
    · exact .noDimension h hshape
    · exact .zeroDimension h hshape

/-- An input that is found and ends the process gives no values. -/
theorem ValueFault.requestShapeValue {input : InputProperties} {k : ℕ} {kind : Crash}
    (hfault : ValueFault inst calls k input kind) (hfound : calls.outcome k = none) :
    requestShapeValue lib inst total input = .error (.crashed kind) := by
  have hdiv : ComesToDivision inst calls k input := by
    cases hfault with
    | notFound hnot => exact absurd hfound hnot
    | noDimension h _ => exact h
    | zeroDimension h _ => exact h
  have hitem : itemElementCount lib inst.supportBatching input.shape = .error kind :=
    hdiv.fault_iff.mp hfault
  rw [TensorrtBackend.requestShapeValue, if_neg (not_not.mpr hdiv.contiguous), if_neg hdiv.cpu, hitem]

/-- An accepted input does not end the process. -/
theorem ValueAccepted.not_fault {input : InputProperties} {k : ℕ}
    (h : ValueAccepted lib inst calls total k input) (kind : Crash) :
    ¬ ValueFault inst calls k input kind := by
  intro hfault
  have hshape : inst.isShapeInferenceIo input.name = true := by
    cases hfault with
    | notFound hnot => exact absurd h.found hnot
    | noDimension hdiv _ => exact hdiv.shape
    | zeroDimension hdiv _ => exact hdiv.shape
  obtain ⟨-, -, value, hvalue⟩ := h.value hshape
  rw [hfault.requestShapeValue h.found] at hvalue
  cases hvalue

/-- An input ends the process in one way. -/
theorem ValueFault.unique {input : InputProperties} {k : ℕ} {kind kind' : Crash}
    (h : ValueFault inst calls k input kind) (h' : ValueFault inst calls k input kind') :
    kind = kind' := by
  cases h with
  | notFound hnot =>
      cases h' with
      | notFound _ => rfl
      | noDimension _ _ => rfl
      | zeroDimension hdiv _ => exact absurd hdiv.found hnot
  | noDimension hdiv hshape =>
      cases h' with
      | notFound _ => rfl
      | noDimension _ _ => rfl
      | zeroDimension _ hzero =>
          rw [hshape] at hzero
          cases hzero
  | zeroDimension hdiv hzero =>
      cases h' with
      | notFound hnot => exact absurd hdiv.found hnot
      | noDimension _ hshape =>
          rw [hshape] at hzero
          cases hzero
      | zeroDimension _ _ => rfl

/-- An input that is found is no fault where it does not come to the division. -/
theorem not_valueFault {input : InputProperties} {k : ℕ} (hfound : calls.outcome k = none)
    (hdiv : ¬ ComesToDivision inst calls k input) (kind : Crash) :
    ¬ ValueFault inst calls k input kind := by
  intro hfault
  cases hfault with
  | notFound hnot => exact hnot hfound
  | noDimension h _ => exact hdiv h
  | zeroDimension h _ => exact hdiv h

/-- The buffer of a shape tensor: there is one on the CPU, there is not, or every request is
failed. -/
theorem shapeBuffer_cases (calls : RunCalls) (h : UntouchedAt n k s) (input : InputProperties) :
    (input.bufferCount = 1 ∧ calls.outcome s.calls = none ∧
        ¬ (input.buffer.isNone ∨ input.dataMemoryType = .gpu) ∧
        calls.outcome (s.calls + 1) = none ∧
        shapeBuffer calls input s = (some (), { s with calls := s.calls + 2 })) ∨
      ((input.bufferCount = 1 → input.buffer.isNone ∨ input.dataMemoryType = .gpu) ∧
        ∃ made, shapeBuffer calls input s = (some (), { s with calls := made })) ∨
      ((calls.outcome s.calls ≠ none ∨ calls.outcome (s.calls + 1) ≠ none) ∧
        ∃ t, shapeBuffer calls input s = (none, t) ∧ ClosedAt n k t) := by
  unfold shapeBuffer
  by_cases hcount : input.bufferCount = 1
  · rw [onlyIf, if_pos hcount]
    by_cases hbuffer : calls.outcome s.calls = none
    · rw [bind_of_fall (callOrRespondAll_succeeds hbuffer)]
      by_cases hcpu : input.buffer.isNone ∨ input.dataMemoryType = .gpu
      · rw [onlyIf, if_neg (not_not.mpr hcpu)]
        exact Or.inr (Or.inl ⟨fun _ => hcpu, s.calls + 1, rfl⟩)
      · rw [onlyIf, if_pos hcpu]
        by_cases hcnt : calls.outcome (s.calls + 1) = none
        · exact Or.inl ⟨hcount, hbuffer, hcpu, hcnt, callOrRespondAll_succeeds hcnt⟩
        · refine Or.inr (Or.inr ⟨Or.inr hcnt, ?_⟩)
          exact callOrRespondAll_fails (h.withCalls s.totalBatchSize (s.calls + 1)) hcnt
    · obtain ⟨t, ht, hclosed⟩ := callOrRespondAll_fails h hbuffer
      exact Or.inr (Or.inr ⟨Or.inl hbuffer, t, bind_of_ret ht, hclosed⟩)
  · rw [onlyIf, if_neg hcount]
    exact Or.inr (Or.inl ⟨fun hc => absurd hc hcount, s.calls, rfl⟩)

/-- The values of a shape tensor, behind the calls for its buffer. -/
def storeValue (lib : BackendCommon) (inst : Instance) (total : ℕ) (values : ShapeValueMap)
    (input : InputProperties) : PayloadM ShapeValueMap := do
  let value ← respondAllUnless (requestShapeValue lib inst total input)
  pure (Function.update values (inst.ioIndex input.name) (some value))

theorem storeValue_of_ok {values : ShapeValueMap} {input : InputProperties} {value : ShapeTensor}
    (hvalue : requestShapeValue lib inst total input = .ok value) (s : PayloadState) :
    storeValue lib inst total values input s =
      (some (Function.update values (inst.ioIndex input.name) (some value)), s) := by
  rw [storeValue, hvalue]
  rfl

theorem storeValue_of_returned {values : ShapeValueMap} {input : InputProperties} {err : Error}
    (hvalue : requestShapeValue lib inst total input = .error (.returned err))
    (h : UntouchedAt n k s) :
    ∃ t, storeValue lib inst total values input s = (none, t) ∧ ClosedAt n k t := by
  rw [storeValue, hvalue]
  obtain ⟨t, ht, hclosed⟩ := respondAllAndReturn_closes (α := ShapeTensor) err h
  exact ⟨t, bind_of_ret ht, hclosed⟩

theorem storeValue_of_crashed {values : ShapeValueMap} {input : InputProperties} {kind : Crash}
    (hvalue : requestShapeValue lib inst total input = .error (.crashed kind)) (s : PayloadState) :
    storeValue lib inst total values input s = (none, { s with crash := some kind }) := by
  rw [storeValue, hvalue]
  rfl

/-- A shape tensor for which the first two calls have succeeded: it is accepted, the process dies in
the division, or every request is failed. -/
theorem shapeTensor_cases (h : UntouchedAt n k s) (values : ShapeValueMap) {input : InputProperties}
    {first : ℕ} (hcalls : s.calls = first + 2) (hfound : calls.outcome first = none)
    (hproperties : calls.outcome (first + 1) = none)
    (hshape : inst.isShapeInferenceIo input.name = true) :
    (ValueAccepted lib inst calls total first input ∧ ∃ values',
        (do shapeBuffer calls input; storeValue lib inst total values input) s =
          (some values', { s with calls := s.calls + 2 })) ∨
      (∃ kind, ValueFault inst calls first input kind ∧ ∃ t,
        (do shapeBuffer calls input; storeValue lib inst total values input) s = (none, t) ∧
          t.crash = some kind) ∨
      (¬ ValueAccepted lib inst calls total first input ∧
        (∀ kind, ¬ ValueFault inst calls first input kind) ∧ ∃ t,
        (do shapeBuffer calls input; storeValue lib inst total values input) s = (none, t) ∧
          ClosedAt n k t) := by
  rcases shapeBuffer_cases calls h input with
    ⟨hcount, hbuffer, hcpu, hcnt, heq⟩ | ⟨hnot, made, heq⟩ | ⟨hfails, t, heq, hclosed⟩
  · rw [bind_of_fall heq]
    rw [hcalls] at hbuffer hcnt
    rcases requestShapeValue_of_contiguous lib inst total hcount hcpu with
      ⟨value, hvalue⟩ | ⟨err, hvalue⟩ | ⟨kind, hvalue, hitem⟩
    · refine Or.inl ⟨⟨hfound, hproperties, fun _ => ⟨hbuffer, hcnt, value, hvalue⟩⟩, ?_⟩
      exact ⟨_, storeValue_of_ok hvalue _⟩
    · refine Or.inr (Or.inr ⟨fun hacc => ?_, fun kind hfault => ?_,
        storeValue_of_returned hvalue (h.withCalls s.totalBatchSize _)⟩)
      · obtain ⟨-, -, value, hok⟩ := hacc.value hshape
        rw [hvalue] at hok
        cases hok
      · have hcrashed : requestShapeValue lib inst total input = .error (.crashed kind) :=
          hfault.requestShapeValue hfound
        rw [hvalue] at hcrashed
        cases hcrashed
    · refine Or.inr (Or.inl ⟨kind, ?_, ?_⟩)
      · have hbatch := (itemElementCount_eq_error_iff.mp hitem).1
        exact (ComesToDivision.fault_iff ⟨hfound, hproperties, hshape, hcount, hbuffer, hcpu, hcnt,
          hbatch⟩).mpr hitem
      · exact ⟨_, storeValue_of_crashed hvalue _, rfl⟩
  · have hrefused : ∃ err, requestShapeValue lib inst total input = .error (.returned err) :=
      requestShapeValue_of_not_contiguous hnot
    obtain ⟨err, hvalue⟩ := hrefused
    rw [bind_of_fall heq]
    refine Or.inr (Or.inr ⟨fun hacc => ?_, not_valueFault hfound fun hdiv => ?_,
      storeValue_of_returned hvalue (h.withCalls s.totalBatchSize _)⟩)
    · obtain ⟨-, -, value, hok⟩ := hacc.value hshape
      rw [hvalue] at hok
      cases hok
    · exact hdiv.cpu (hnot hdiv.contiguous)
  · rw [bind_of_ret heq]
    rw [hcalls] at hfails
    refine Or.inr (Or.inr ⟨fun hacc => ?_, not_valueFault hfound fun hdiv => ?_, t, rfl, hclosed⟩)
    · obtain ⟨hbuffer, hcnt, -⟩ := hacc.value hshape
      rcases hfails with hf | hf
      · exact hf hbuffer
      · exact hf hcnt
    · rcases hfails with hf | hf
      · exact hf hdiv.buffer
      · exact hf hdiv.elementCount

/-- **One input**: it is accepted, the process dies at it, or every request is failed. -/
theorem shapeValue_cases (lib : BackendCommon) (inst : Instance) (calls : RunCalls) (total : ℕ)
    (h : UntouchedAt n k s) (values : ShapeValueMap) (input : InputProperties) :
    (ValueAccepted lib inst calls total s.calls input ∧ ∃ values',
        shapeValue lib inst calls total values input s =
          (some values', { s with calls := s.calls + valueCalls inst input })) ∨
      (∃ kind, ValueFault inst calls s.calls input kind ∧
        ∃ t, shapeValue lib inst calls total values input s = (none, t) ∧ t.crash = some kind) ∨
      (¬ ValueAccepted lib inst calls total s.calls input ∧
        (∀ kind, ¬ ValueFault inst calls s.calls input kind) ∧
        ∃ t, shapeValue lib inst calls total values input s = (none, t) ∧ ClosedAt n k t) := by
  by_cases hfound : calls.outcome s.calls = none
  · have hcall : uncheckedInput calls s = (some (), { s with calls := s.calls + 1 }) := by
      have hcall : call calls.toCalls s = (some none, { s with calls := s.calls + 1 }) :=
        Prod.ext (congrArg some hfound) rfl
      rw [uncheckedInput, bind_of_fall hcall]
      rfl
    rw [shapeValue, bind_of_fall hcall]
    by_cases hproperties : calls.outcome (s.calls + 1) = none
    · rw [bind_of_fall (callOrRespondAll_succeeds hproperties)]
      by_cases hshape : inst.isShapeInferenceIo input.name = true
      · rw [if_pos hshape, valueCalls, if_pos hshape]
        exact shapeTensor_cases (h.withCalls s.totalBatchSize (s.calls + 1 + 1)) values rfl hfound
          hproperties hshape
      · rw [if_neg hshape, valueCalls, if_neg hshape]
        exact Or.inl ⟨⟨hfound, hproperties, fun hs => absurd hs hshape⟩, values, rfl⟩
    · obtain ⟨t, ht, hclosed⟩ := callOrRespondAll_fails (h.withCalls s.totalBatchSize (s.calls + 1))
        hproperties
      refine Or.inr (Or.inr ⟨fun hacc => hproperties hacc.properties,
        not_valueFault hfound fun hdiv => hproperties hdiv.properties, t, bind_of_ret ht, hclosed⟩)
  · obtain ⟨err, herr⟩ := Option.ne_none_iff_exists'.mp hfound
    have hcall : call calls.toCalls s = (some (some err), { s with calls := s.calls + 1 }) :=
      Prod.ext (congrArg some herr) rfl
    have hdies : uncheckedInput calls s =
        (none, { s with calls := s.calls + 1, crash := some .invalidRead }) := by
      rw [uncheckedInput, bind_of_fall hcall]
      rfl
    refine Or.inr (Or.inl ⟨.invalidRead, .notFound hfound, ?_⟩)
    exact ⟨_, bind_of_ret hdies, rfl⟩

theorem ValuesAccepted.not_fault {inputs : List InputProperties} {k : ℕ}
    (h : ValuesAccepted lib inst calls total k inputs) (kind : Crash) :
    ¬ ValuesFault lib inst calls total kind k inputs := by
  induction inputs generalizing k with
  | nil => exact fun hfault => hfault
  | cons input inputs ih =>
      intro hfault
      rcases hfault with hfault | hfault
      · exact h.1.not_fault kind hfault
      · exact ih h.2 hfault.2

theorem ValuesFault.unique {inputs : List InputProperties} {k : ℕ} {kind kind' : Crash}
    (h : ValuesFault lib inst calls total kind k inputs)
    (h' : ValuesFault lib inst calls total kind' k inputs) : kind = kind' := by
  induction inputs generalizing k with
  | nil => exact absurd h id
  | cons input inputs ih =>
      rcases h with h | h
      · rcases h' with h' | h'
        · exact h.unique h'
        · exact absurd h (h'.1.not_fault kind)
      · rcases h' with h' | h'
        · exact absurd h' (h.1.not_fault kind')
        · exact ih h.2 h'.2

/-- **The loop of `GetRequestShapeValues`.** -/
theorem shapeValues_cases (lib : BackendCommon) (inst : Instance) (calls : RunCalls) (total : ℕ)
    (h : UntouchedAt n k s) (values : ShapeValueMap) (inputs : List InputProperties) :
    (ValuesAccepted lib inst calls total s.calls inputs ∧ ∃ values',
        foldEach (shapeValue lib inst calls total) values inputs s =
          (some values', { s with calls := s.calls + (inputs.map (valueCalls inst)).sum })) ∨
      (∃ kind, ValuesFault lib inst calls total kind s.calls inputs ∧
        ∃ t, foldEach (shapeValue lib inst calls total) values inputs s = (none, t) ∧
          t.crash = some kind) ∨
      (¬ ValuesAccepted lib inst calls total s.calls inputs ∧
        (∀ kind, ¬ ValuesFault lib inst calls total kind s.calls inputs) ∧
        ∃ t, foldEach (shapeValue lib inst calls total) values inputs s = (none, t) ∧
          ClosedAt n k t) := by
  induction inputs generalizing s values with
  | nil => exact Or.inl ⟨trivial, values, rfl⟩
  | cons input inputs ih =>
      have hunfold : foldEach (shapeValue lib inst calls total) values (input :: inputs) =
          (shapeValue lib inst calls total values input >>= fun values =>
            foldEach (shapeValue lib inst calls total) values inputs) := rfl
      rw [hunfold]
      rcases shapeValue_cases lib inst calls total h values input with
        ⟨hacc, values', heq⟩ | ⟨kind, hfault, t, heq, ht⟩ | ⟨hacc, hfault, t, heq, ht⟩
      · have hhead := hacc.not_fault
        rw [bind_of_fall heq]
        rcases ih (h.withCalls s.totalBatchSize (s.calls + valueCalls inst input)) values' with
          ⟨hrest, values'', heq⟩ | ⟨kind, hrest, hdies⟩ | ⟨hrest, hrest', hfails⟩
        · refine Or.inl ⟨⟨hacc, hrest⟩, values'', heq.trans ?_⟩
          rw [List.map_cons, List.sum_cons, ← Nat.add_assoc]
        · exact Or.inr (Or.inl ⟨kind, Or.inr ⟨hacc, hrest⟩, hdies⟩)
        · refine Or.inr (Or.inr ⟨fun hc => hrest hc.2, fun kind hc => ?_, hfails⟩)
          rcases hc with hc | hc
          · exact hhead kind hc
          · exact hrest' kind hc.2
      · rw [bind_of_ret heq]
        exact Or.inr (Or.inl ⟨kind, Or.inl hfault, t, rfl, ht⟩)
      · rw [bind_of_ret heq]
        refine Or.inr (Or.inr ⟨fun hc => hacc hc.1, fun kind hc => ?_, t, rfl, ht⟩)
        rcases hc with hc | hc
        · exact hfault kind hc
        · exact hacc hc.1

end Values

end TensorrtBackend

import TensorrtBackend.RunResponses

/-!
# Where an execution ends the process

`Run` reads the shape of an input although the call for it may have failed, and it divides: by the
first dimension of a shape input of the first request, by the total batch size, and by the batch
size of a request that asked for the output of a shape tensor.  Only the total is checked.

* `run_crash_iff`: where an execution ends the process.
-/

namespace TensorrtBackend

open EarlyReturn PayloadM

/-! ### The whole execution -/

section Run

variable (lib : BackendCommon) (inst : Instance) (indices : SetIndices) (calls : RunCalls)
  (requests : List Request)

/-- `Run` up to the responses: the total batch size and the shape values. -/
def acceptBatch : PayloadM (ℕ × ShapeValueMap) := do
  sumBatchSizes inst calls requests
  let total ← gets PayloadState.totalBatchSize
  checkBatchSize inst total
  let values ← shapeValues lib inst calls requests total
  pure (total, values)

/-- `Run` from the responses to the launch and the names of the requested outputs. -/
def executeBatch (total : ℕ) (values : ShapeValueMap) : PayloadM (List (List String)) := do
  let citr := (getMostOptimizedProfile lib inst indices.nextBufferBindingSet calls.evaluate total
    requests values).2
  createResponses calls.toCalls
  modify fun s => { s with inputDims := [(total : ℤ)] }
  runInputs lib inst indices calls requests citr values total
  let graph ← selectGraph inst indices calls citr
  launch inst calls graph
  let required ← requiredOutputs calls requests
  modify fun s => { s with responder := true }
  pure required

/-- `Run` up to the loop over the outputs. -/
def runUntilOutputs : PayloadM (List (List String)) := do
  let batch ← acceptBatch lib inst calls requests
  executeBatch lib inst indices calls requests batch.1 batch.2

theorem run_eq : run lib inst indices calls requests = (do
    let required ← runUntilOutputs lib inst indices calls requests
    forEach (fun x => runOutput lib inst indices calls requests required x.2 x.1)
      inst.tensors.zipIdx) := by
  simp only [run, runBatch, runCommitted, runOutputs, runUntilOutputs, acceptBatch, executeBatch,
    bind_assoc]
  rfl

/-- `payload_->total_batch_size_`, once the requests are gone through. -/
def totalBatchSize : ℕ :=
  toSizeT (if 0 < inst.maxBatchSize then (requests.map batchDim).sum else requests.length)

/-- The number of calls made for it. -/
def batchCalls : ℕ := if 0 < inst.maxBatchSize then 2 * requests.length else 0

/-- The batch sizes are read. -/
def BatchRead : Prop := 0 < inst.maxBatchSize → BatchSizesRead calls.toCalls 0 requests

/-- The batch passes the checks on its size. -/
structure BatchPasses : Prop where
  read : BatchRead inst calls requests
  total_ne : totalBatchSize inst requests ≠ 0
  total_le : totalBatchSize inst requests = 1 ∨ totalBatchSize inst requests ≤ inst.maxBatchSize

/-- `Run` comes to a response of a shape tensor's output, in the state `s`: the output is an INT64
tensor with dimensions, its first value is the total batch size, and nothing has ended the execution
before. -/
structure ComesToResponse (io : ℕ) (tensor : EngineTensor) (idx : ℕ) (request : Request)
    (required : List (List String)) (s : PayloadState) : Prop where
  tensorAt : inst.tensors[io]? = some tensor
  requestAt : requests[idx]? = some request
  output : tensor.isInput = false
  shape : tensor.isShapeInferenceIo = true
  dims : (calls.outputDims io).nbDims ≠ 0
  dataType : tensor.dataType = .int64
  firstValue : inst.supportBatching = true →
    totalBatchSize inst requests = toSizeT (calls.firstShapeValue io)
  reached : ∃ t u,
    runUntilOutputs lib inst indices calls requests (newPayload requests.length) =
      (some required, t) ∧
    forEach (fun x => runOutput lib inst indices calls requests required x.2 x.1)
      (inst.tensors.zipIdx.take io) t = (some (), u) ∧
    forEach (fun x => shapeOutputResponse lib inst calls required tensor.name
      (calls.outputDims io) x.2 x.1) (requests.zipIdx.take idx) u = (some (), s)

/-- `GetRequestShapeValues` ends the process. -/
def ShapeInputFault (kind : Crash) : Prop :=
  calls.outcome (batchCalls inst requests) = none ∧
    ValuesFault lib inst calls (totalBatchSize inst requests) kind (batchCalls inst requests + 1)
      (batchInputs requests)

/-- How `Run` ends the process before the responses. -/
inductive AcceptFault : Crash → Prop
  /-- The batch size of a request is read where there is none. -/
  | batchSize : 0 < inst.maxBatchSize → BatchSizesUnread calls.toCalls 0 requests →
      AcceptFault .invalidRead
  /-- `GetRequestShapeValues` ends it. -/
  | shapeInput {kind : Crash} : BatchPasses inst calls requests →
      ShapeInputFault lib inst calls requests kind → AcceptFault kind

/-- How an execution of `Run` ends the process. -/
inductive RunFault : Crash → Prop
  | accept {kind : Crash} : AcceptFault lib inst calls requests kind → RunFault kind
  /-- A response of a shape tensor's output ends it. -/
  | shapeOutput {kind : Crash} {io : ℕ} {tensor : EngineTensor} {idx : ℕ} {request : Request}
      {required : List (List String)} {s : PayloadState} :
      ComesToResponse lib inst indices calls requests io tensor idx request required s →
      ResponseFault inst calls required tensor.name (calls.outputDims io) idx request s kind →
      RunFault kind

/-- The batch sizes are read, and they add up to nothing. -/
structure NoRows : Prop where
  read : BatchRead inst calls requests
  total : totalBatchSize inst requests = 0

end Run

section Run

variable {lib : BackendCommon} {inst : Instance} {indices : SetIndices} {calls : RunCalls}
  {requests : List Request} {kind : Crash}

theorem newPayload_untouched (n : ℕ) : UntouchedAt n 0 (newPayload n) := ⟨rfl, rfl, rfl, rfl⟩

/-- The payload once the batch sizes are read. -/
def countedPayload (inst : Instance) (requests : List Request) : PayloadState :=
  { newPayload requests.length with
    totalBatchSize := totalBatchSize inst requests, calls := batchCalls inst requests }

theorem countedPayload_untouched (inst : Instance) (requests : List Request) :
    UntouchedAt requests.length 0 (countedPayload inst requests) := ⟨rfl, rfl, rfl, rfl⟩

/-- The loop over the batch sizes. -/
theorem sumBatchSizes_cases (inst : Instance) (calls : RunCalls) (requests : List Request) :
    (BatchRead inst calls requests ∧ sumBatchSizes inst calls requests (newPayload requests.length) =
        (some (), countedPayload inst requests)) ∨
      (0 < inst.maxBatchSize ∧ BatchSizesUnread calls.toCalls 0 requests ∧
        ∃ t, sumBatchSizes inst calls requests (newPayload requests.length) = (none, t) ∧
          t.crash = some .invalidRead) ∨
      (¬ BatchRead inst calls requests ∧ ¬ BatchSizesUnread calls.toCalls 0 requests ∧
        ∃ t, sumBatchSizes inst calls requests (newPayload requests.length) = (none, t) ∧
          ClosedAt requests.length 0 t) := by
  have hstart := newPayload_untouched requests.length
  by_cases hmax : 0 < inst.maxBatchSize
  · rcases sumFrom_batching calls requests hmax hstart (x := 0) rfl 0 with
      ⟨hread, heq⟩ | ⟨hunread, hdies⟩ | ⟨hread, hunread, hfails⟩
    · refine Or.inl ⟨fun _ => hread, Eq.trans heq ?_⟩
      rw [countedPayload, totalBatchSize, if_pos hmax, batchCalls, if_pos hmax, zero_add]
      show (some (), ({ newPayload requests.length with
        totalBatchSize := _, calls := 0 + 2 * requests.length } : PayloadState)) = _
      rw [Nat.zero_add]
    · exact Or.inr (Or.inl ⟨hmax, hunread, hdies⟩)
    · exact Or.inr (Or.inr ⟨fun h => hread (h hmax), hunread, hfails⟩)
  · refine Or.inl ⟨fun h => absurd h hmax,
      (sumFrom_counting calls requests hmax hstart (x := 0) rfl 0).trans ?_⟩
    rw [countedPayload, totalBatchSize, if_neg hmax, batchCalls, if_neg hmax, zero_add]
    rfl

/-- The checks on the total batch size. -/
theorem checkBatchSize_cases (inst : Instance) {n k : ℕ} {s : PayloadState} (h : UntouchedAt n k s)
    (total : ℕ) :
    (total ≠ 0 ∧ (total = 1 ∨ total ≤ inst.maxBatchSize) ∧
        checkBatchSize inst total s = (some (), s)) ∨
      (total = 0 ∧ checkBatchSize inst total s = (none, s)) ∨
      (total ≠ 0 ∧ ¬ (total = 1 ∨ total ≤ inst.maxBatchSize) ∧
        ∃ t, checkBatchSize inst total s = (none, t) ∧ ClosedAt n k t) := by
  unfold checkBatchSize
  by_cases hzero : total = 0
  · rw [if_pos hzero]
    exact Or.inr (Or.inl ⟨hzero, rfl⟩)
  · rw [if_neg hzero, onlyIf]
    by_cases hlarge : total ≠ 1 ∧ inst.maxBatchSize < total
    · rw [if_pos hlarge]
      exact Or.inr (Or.inr ⟨hzero, by omega, respondAllAndReturn_closes _ h⟩)
    · rw [if_neg hlarge]
      exact Or.inl ⟨hzero, by omega, rfl⟩

/-- `GetRequestShapeValues` behind the checks. -/
theorem shapeValues_counted_cases (lib : BackendCommon) (inst : Instance) (calls : RunCalls)
    (requests : List Request) :
    ((∀ kind, ¬ ShapeInputFault lib inst calls requests kind) ∧ ∃ values made,
        shapeValues lib inst calls requests (totalBatchSize inst requests)
          (countedPayload inst requests) =
            (some values, { countedPayload inst requests with calls := made })) ∨
      (∃ kind, ShapeInputFault lib inst calls requests kind ∧
        ∃ t, shapeValues lib inst calls requests (totalBatchSize inst requests)
          (countedPayload inst requests) = (none, t) ∧ t.crash = some kind) ∨
      ((∀ kind, ¬ ShapeInputFault lib inst calls requests kind) ∧
        ∃ t, shapeValues lib inst calls requests (totalBatchSize inst requests)
          (countedPayload inst requests) = (none, t) ∧ ClosedAt requests.length 0 t) := by
  have hstart := countedPayload_untouched inst requests
  unfold shapeValues ShapeInputFault
  by_cases hcount : calls.outcome (batchCalls inst requests) = none
  · have hcall : callOrRespondAll calls.toCalls (countedPayload inst requests) =
        (some (), { countedPayload inst requests with calls := batchCalls inst requests + 1 }) :=
      callOrRespondAll_succeeds hcount
    rw [bind_of_fall hcall]
    rcases shapeValues_cases lib inst calls (totalBatchSize inst requests)
      (hstart.withCalls (totalBatchSize inst requests) (batchCalls inst requests + 1))
      (fun _ => none) (batchInputs requests) with
      ⟨hacc, values, heq⟩ | ⟨kind, hfault, hdies⟩ | ⟨-, hfault, hfails⟩
    · exact Or.inl ⟨fun kind h => hacc.not_fault kind h.2, values, _, heq⟩
    · exact Or.inr (Or.inl ⟨kind, ⟨hcount, hfault⟩, hdies⟩)
    · exact Or.inr (Or.inr ⟨fun kind h => hfault kind h.2, hfails⟩)
  · obtain ⟨t, ht, hclosed⟩ := callOrRespondAll_fails hstart hcount
    exact Or.inr (Or.inr ⟨fun kind h => hcount h.1, t, bind_of_ret ht, hclosed⟩)

/-- **The part before the responses**: it falls through, the process dies, every request is failed,
or nothing is done to them. -/
theorem acceptBatch_cases (lib : BackendCommon) (inst : Instance) (calls : RunCalls)
    (requests : List Request) :
    (BatchPasses inst calls requests ∧ (∀ kind, ¬ AcceptFault lib inst calls requests kind) ∧
        ∃ values made, acceptBatch lib inst calls requests (newPayload requests.length) =
          (some (totalBatchSize inst requests, values),
            { countedPayload inst requests with calls := made })) ∨
      (∃ kind, AcceptFault lib inst calls requests kind ∧ (∀ kind', 
          AcceptFault lib inst calls requests kind' → kind' = kind) ∧
        ∃ t, acceptBatch lib inst calls requests (newPayload requests.length) = (none, t) ∧
          t.crash = some kind) ∨
      ((∀ kind, ¬ AcceptFault lib inst calls requests kind) ∧
        ∃ t, acceptBatch lib inst calls requests (newPayload requests.length) = (none, t) ∧
          ClosedAt requests.length 0 t) ∨
      (NoRows inst calls requests ∧ (∀ kind, ¬ AcceptFault lib inst calls requests kind) ∧
        acceptBatch lib inst calls requests (newPayload requests.length) =
          (none, countedPayload inst requests)) := by
  have hstart := countedPayload_untouched inst requests
  rcases sumBatchSizes_cases inst calls requests with
    ⟨hread, heq⟩ | ⟨hmax, hunread, t, heq, ht⟩ | ⟨hread, hunread, t, heq, hclosed⟩
  · have htotal : gets PayloadState.totalBatchSize (countedPayload inst requests) =
        (some (totalBatchSize inst requests), countedPayload inst requests) := rfl
    have hnone : ∀ kind, AcceptFault lib inst calls requests kind →
        BatchPasses inst calls requests ∧ ShapeInputFault lib inst calls requests kind := by
      intro kind hfault
      cases hfault with
      | batchSize hmax hunread => exact absurd hunread (hread hmax).not_unread
      | shapeInput hpasses hfault => exact ⟨hpasses, hfault⟩
    rw [acceptBatch, bind_of_fall heq, bind_of_fall htotal]
    rcases checkBatchSize_cases inst hstart (totalBatchSize inst requests) with
      ⟨hne, hle, hcheck⟩ | ⟨hzero, hcheck⟩ | ⟨hne, hlarge, t, hcheck, hclosed⟩
    · rw [bind_of_fall hcheck]
      rcases shapeValues_counted_cases lib inst calls requests with
        ⟨hfault, values, made, hvalues⟩ | ⟨kind, hfault, t, hvalues, ht⟩ | ⟨hfault, t, hvalues, hclosed⟩
      · rw [bind_of_fall hvalues]
        exact Or.inl ⟨⟨hread, hne, hle⟩, fun kind h => hfault kind (hnone kind h).2, values, made, rfl⟩
      · rw [bind_of_ret hvalues]
        refine Or.inr (Or.inl ⟨kind, .shapeInput ⟨hread, hne, hle⟩ hfault, fun kind' h => ?_, t, rfl,
          ht⟩)
        exact (hnone kind' h).2.2.unique hfault.2
      · rw [bind_of_ret hvalues]
        exact Or.inr (Or.inr (Or.inl ⟨fun kind h => hfault kind (hnone kind h).2, t, rfl, hclosed⟩))
    · rw [bind_of_ret hcheck]
      exact Or.inr (Or.inr (Or.inr ⟨⟨hread, hzero⟩,
        fun kind h => (hnone kind h).1.total_ne hzero, rfl⟩))
    · rw [bind_of_ret hcheck]
      exact Or.inr (Or.inr (Or.inl ⟨fun kind h => hlarge (hnone kind h).1.total_le, t, rfl, hclosed⟩))
  · rw [acceptBatch, bind_of_ret heq]
    refine Or.inr (Or.inl ⟨.invalidRead, .batchSize hmax hunread, fun kind' h => ?_, t, rfl, ht⟩)
    cases h with
    | batchSize _ _ => rfl
    | shapeInput hpasses _ => exact absurd hunread (hpasses.read hmax).not_unread
  · rw [acceptBatch, bind_of_ret heq]
    refine Or.inr (Or.inr (Or.inl ⟨fun kind h => ?_, t, rfl, hclosed⟩))
    cases h with
    | batchSize _ h => exact hunread h
    | shapeInput hpasses _ => exact hread hpasses.read

theorem executeBatch_keeps {K : {α : Type} → PayloadM α → Prop} (hK : BodyRule K)
    (hcreate : K (createResponses calls.toCalls))
    (hresponder : K (modify fun s => { s with responder := true })) (total : ℕ)
    (values : ShapeValueMap) : K (executeBatch lib inst indices calls requests total values) := by
  refine hK.bind hcreate fun _ => ?_
  refine hK.bind (hK.setInputDims fun _ => [(total : ℤ)]) fun _ => ?_
  refine hK.bind (runInputs_keeps hK _ values total) fun _ => ?_
  refine hK.bind (selectGraph_keeps hK _) fun graph => ?_
  refine hK.bind (launch_keeps hK graph) fun _ => ?_
  refine hK.bind (requiredOutputs_keeps hK) fun required => ?_
  exact hK.bind hresponder fun _ => hK.pure required

/-- Once the responses are asked for, nothing ends the process before the outputs. -/
theorem executeBatch_keepsAlive (lib : BackendCommon) (inst : Instance) (indices : SetIndices)
    (calls : RunCalls) (requests : List Request) (total : ℕ) (values : ShapeValueMap) :
    KeepsAlive (executeBatch lib inst indices calls requests total values) :=
  executeBatch_keeps keepsAlive_bodyRule (fun _ => rfl) (fun _ => rfl) total values

theorem executeBatch_keepsTotal (lib : BackendCommon) (inst : Instance) (indices : SetIndices)
    (calls : RunCalls) (requests : List Request) (total : ℕ) (values : ShapeValueMap) :
    KeepsTotal (executeBatch lib inst indices calls requests total values) :=
  executeBatch_keeps keepsTotal_bodyRule (fun _ => rfl) (fun _ => rfl) total values

theorem BatchPasses.dimension (h : BatchPasses inst calls requests)
    (hbatch : inst.supportBatching = true) : ∀ request ∈ requests, firstShape request ≠ [] :=
  (h.read (of_decide_eq_true hbatch)).dimension

/-- What holds when the outputs are reached. -/
theorem runUntilOutputs_falls {required : List (List String)} {t : PayloadState}
    (hrun : runUntilOutputs lib inst indices calls requests (newPayload requests.length) =
      (some required, t)) :
    BatchPasses inst calls requests ∧ (∀ kind, ¬ AcceptFault lib inst calls requests kind) ∧
      AliveWith (totalBatchSize inst requests) t := by
  rcases acceptBatch_cases lib inst calls requests with
    ⟨hpasses, hfault, values, made, heq⟩ | ⟨_, _, _, u, heq, _⟩ | ⟨_, u, heq, _⟩ | ⟨_, _, heq⟩
  · rw [runUntilOutputs, bind_of_fall heq] at hrun
    have halive := executeBatch_keepsAlive lib inst indices calls requests
      (totalBatchSize inst requests) values { countedPayload inst requests with calls := made }
    have htotal := executeBatch_keepsTotal lib inst indices calls requests
      (totalBatchSize inst requests) values { countedPayload inst requests with calls := made }
    rw [hrun] at halive htotal
    exact ⟨hpasses, hfault, halive, htotal⟩
  · rw [runUntilOutputs, bind_of_ret heq] at hrun
    cases hrun
  · rw [runUntilOutputs, bind_of_ret heq] at hrun
    cases hrun
  · rw [runUntilOutputs, bind_of_ret heq] at hrun
    cases hrun

theorem runOutputs_keepsTotal (lib : BackendCommon) (inst : Instance) (indices : SetIndices)
    (calls : RunCalls) (requests : List Request) (required : List (List String))
    (l : List (EngineTensor × ℕ)) :
    KeepsTotal (forEach (fun x => runOutput lib inst indices calls requests required x.2 x.1) l) :=
  keepsTotal_crashRule.forEach (fun x => runOutput_keeps keepsTotal_crashRule required x.2 x.1) l

theorem runOutputs_fallsAlive (required : List (List String)) (l : List (EngineTensor × ℕ)) :
    FallsAlive (forEach (fun x => runOutput lib inst indices calls requests required x.2 x.1) l) :=
  fallsAlive_crashRule.forEach (fun x => runOutput_keeps fallsAlive_crashRule required x.2 x.1) l

/-- **The outputs**: the process dies at a response the execution comes to. -/
theorem outputs_crash_iff {required : List (List String)} {t : PayloadState}
    (hrun : runUntilOutputs lib inst indices calls requests (newPayload requests.length) =
      (some required, t)) :
    Crashes kind (forEach
        (fun x => runOutput lib inst indices calls requests required x.2 x.1) inst.tensors.zipIdx) t ↔
      ∃ io tensor idx request s,
        ComesToResponse lib inst indices calls requests io tensor idx request required s ∧
        ResponseFault inst calls required tensor.name (calls.outputDims io) idx request s kind := by
  obtain ⟨hpasses, -, halive, htotal⟩ := runUntilOutputs_falls hrun
  -- What holds where the loop comes to an output.
  have hreached : ∀ io u, forEach (fun x => runOutput lib inst indices calls requests required x.2 x.1)
      (inst.tensors.zipIdx.take io) t = (some (), u) →
      u.crash = none ∧ u.totalBatchSize = totalBatchSize inst requests := by
    intro io u hpre
    have hkept := runOutputs_keepsTotal lib inst indices calls requests required
      (inst.tensors.zipIdx.take io) t
    rw [hpre] at hkept
    exact ⟨runOutputs_fallsAlive required _ t () u halive hpre, hkept.trans htotal⟩
  rw [crashes_forEach_zipIdx]
  constructor
  · intro h
    obtain ⟨io, tensor, u, htensor, hpre, hcrash⟩ := h
    obtain ⟨hu, hutotal⟩ := hreached io u hpre
    obtain ⟨hin, hshape, hdims, hcrash⟩ :=
      (runOutput_crashes_iff hu (hutotal.trans_ne hpasses.total_ne)).mp hcrash
    obtain ⟨htype, hfirst, idx, request, s, hrequest, hresponses, hfault⟩ :=
      (runShapeOutput_crashes_iff hu hpasses.dimension).mp hcrash
    rw [hutotal] at hfirst
    exact ⟨io, tensor, idx, request, s, ⟨htensor, hrequest, hin, hshape, hdims, htype, hfirst,
      t, u, hrun, hpre, hresponses⟩, hfault⟩
  · intro h
    obtain ⟨io, tensor, idx, request, s, hcomes, hfault⟩ := h
    obtain ⟨t', u, hrun', hpre, hresponses⟩ := hcomes.reached
    rw [hrun] at hrun'
    cases hrun'
    obtain ⟨hu, hutotal⟩ := hreached io u hpre
    refine ⟨io, tensor, u, hcomes.tensorAt, hpre, ?_⟩
    refine (runOutput_crashes_iff hu (hutotal.trans_ne hpasses.total_ne)).mpr
      ⟨hcomes.output, hcomes.shape, hcomes.dims, ?_⟩
    refine (runShapeOutput_crashes_iff hu hpasses.dimension).mpr
      ⟨hcomes.dataType, ?_, idx, request, s, hcomes.requestAt, hresponses, hfault⟩
    rw [hutotal]
    exact hcomes.firstValue

/-- The process dies before the outputs where the batch is not accepted. -/
theorem runUntilOutputs_crashes_iff : Crashes kind (runUntilOutputs lib inst indices calls requests)
    (newPayload requests.length) ↔ AcceptFault lib inst calls requests kind := by
  rcases acceptBatch_cases lib inst calls requests with
    ⟨-, hfault, values, made, heq⟩ | ⟨kind', hfault, hunique, u, heq, hu⟩ | ⟨hfault, u, heq, hclosed⟩ |
    ⟨-, hfault, heq⟩
  · have halive := executeBatch_keepsAlive lib inst indices calls requests
      (totalBatchSize inst requests) values
    rw [runUntilOutputs, Crashes, returnsIn_bind_of_fall heq]
    exact iff_of_false
      (KeepsAlive.not_crashes halive (s := { countedPayload inst requests with calls := made }) rfl kind)
      (hfault kind)
  · have hrun : runUntilOutputs lib inst indices calls requests (newPayload requests.length) =
        (none, u) := bind_of_ret heq
    constructor
    · intro h
      obtain ⟨t, ht, hkind⟩ := h
      rw [hrun] at ht
      cases ht
      rw [hu] at hkind
      cases hkind
      exact hfault
    · intro h
      rw [hunique kind h]
      exact ⟨u, hrun, hu⟩
  · refine iff_of_false (fun h => ?_) (hfault kind)
    obtain ⟨t, ht, hkind⟩ := h
    rw [runUntilOutputs, bind_of_ret heq] at ht
    cases ht
    rw [hclosed.alive] at hkind
    cases hkind
  · refine iff_of_false (fun h => ?_) (hfault kind)
    obtain ⟨t, ht, hkind⟩ := h
    rw [runUntilOutputs, bind_of_ret heq] at ht
    cases ht
    cases hkind

/-- **Where an execution ends the process.** -/
theorem run_crashes_iff : Crashes kind (run lib inst indices calls requests)
    (newPayload requests.length) ↔ RunFault lib inst indices calls requests kind := by
  rw [run_eq, Crashes, returnsIn_bind]
  constructor
  · intro h
    rcases h with h | ⟨required, t, hrun, h⟩
    · exact .accept (runUntilOutputs_crashes_iff.mp h)
    · obtain ⟨io, tensor, idx, request, s, hcomes, hfault⟩ := (outputs_crash_iff hrun).mp h
      exact .shapeOutput hcomes hfault
  · intro h
    cases h with
    | accept h => exact Or.inl (runUntilOutputs_crashes_iff.mpr h)
    | shapeOutput hcomes hfault =>
        obtain ⟨t, -, hrun, -⟩ := hcomes.reached
        exact Or.inr ⟨_, t, hrun, (outputs_crash_iff hrun).mpr ⟨_, _, _, _, _, hcomes, hfault⟩⟩

theorem run_fallsAlive {u : Unit} {t : PayloadState}
    (hrun : run lib inst indices calls requests (newPayload requests.length) = (some u, t)) :
    t.crash = none := by
  rw [run_eq] at hrun
  cases hfirst : runUntilOutputs lib inst indices calls requests (newPayload requests.length) with
  | mk r s =>
      cases r with
      | none =>
          rw [bind_of_ret hfirst] at hrun
          cases hrun
      | some required =>
          rw [bind_of_fall hfirst] at hrun
          exact runOutputs_fallsAlive required _ s u t (runUntilOutputs_falls hfirst).2.2.1 hrun

/-- How the process is left by an execution. -/
theorem run_crash_iff : (run lib inst indices calls requests (newPayload requests.length)).2.crash =
    some kind ↔ RunFault lib inst indices calls requests kind := by
  rw [← run_crashes_iff]
  constructor
  · intro h
    cases hrun : run lib inst indices calls requests (newPayload requests.length) with
    | mk r t =>
        rw [hrun] at h
        cases r with
        | none => exact ⟨t, hrun, h⟩
        | some u => exact absurd ((run_fallsAlive hrun).symm.trans h) (by simp)
  · intro h
    obtain ⟨t, hrun, ht⟩ := h
    rw [hrun]
    exact ht

end Run

end TensorrtBackend

import TensorrtBackend.RunFaults
import TensorrtBackend.Lib.Related

/-!
# The divisors of an execution

Three places of the request path divide: `GetRequestShapeValues` by the first dimension of a shape
input of the first request, the output loop of `Run` by the total batch size, and
`SetOutputShapeTensorBuffer` by the batch size of the request it answers.  `Run` checks the total
only.

* `run_noZeroDivisor`: when an execution divides by zero.
* `run_noZeroDivisor_of_rows`: requests that no execution divides by zero for.
-/

namespace TensorrtBackend

open EarlyReturn PayloadM

/-- The requests pass the checks of `Run` on the batch sizes: each has an input and no negative
batch size, and the total is neither zero nor above the maximum. -/
structure PassesBatchChecks (inst : Instance) (requests : List Request) : Prop where
  inputs : ∀ request ∈ requests, request.inputs ≠ []
  nonneg : ∀ request ∈ requests, 0 ≤ batchDim request
  total_pos : 0 < (requests.map batchDim).sum
  total_le : (requests.map batchDim).sum ≤ inst.maxBatchSize

section Divisors

variable (lib : BackendCommon) (inst : Instance) (indices : SetIndices) (calls : RunCalls)
  (requests : List Request)

/-- `GetRequestShapeValues` divides by zero: the calls for the batch sizes succeed, the inputs of
the first request are accepted up to a shape tensor in one buffer on the CPU, and the first
dimension of this one is 0. -/
structure ZeroShapeInput : Prop where
  read : BatchSizesRead calls.toCalls 0 requests
  count : calls.outcome (2 * requests.length) = none
  divides : ∃ before input after, batchInputs requests = before ++ input :: after ∧
    ValuesAccepted lib inst calls (totalBatchSize inst requests) (2 * requests.length + 1) before ∧
    ComesToDivision inst calls
      (2 * requests.length + 1 + (before.map (valueCalls inst)).sum) input ∧
    input.shape.head? = some 0

/-- `SetOutputShapeTensorBuffer` divides by zero: `Run` comes to a live response of the output of a
shape tensor that its request asked for, the calls up to the buffer succeed, and the request has
batch size 0. -/
def ZeroShapeOutput : Prop :=
  ∃ io tensor idx request required s,
    ComesToResponse lib inst indices calls requests io tensor idx request required s ∧
    (s.slots.getD idx default).response = some true ∧ tensor.name ∈ required.getD idx [] ∧
    (∀ j ∈ [0, 1, 2, 4], calls.outcome (s.calls + j) = none) ∧ batchDim request = 0

end Divisors

section Run

variable {lib : BackendCommon} {inst : Instance} {indices : SetIndices} {calls : RunCalls}
  {requests : List Request}

/-- The model batches. -/
theorem PassesBatchChecks.max_pos (h : PassesBatchChecks inst requests) : 0 < inst.maxBatchSize := by
  have hpos := h.total_pos
  have hle := h.total_le
  omega

/-- The total is not changed by the conversion to `size_t`. -/
theorem PassesBatchChecks.passes (h : PassesBatchChecks inst requests)
    (hread : BatchSizesRead calls.toCalls 0 requests) : BatchPasses inst calls requests := by
  have hpos := h.total_pos
  have hle := h.total_le
  have hint := inst.maxBatchSize_int
  have htotal : totalBatchSize inst requests = toSizeT (requests.map batchDim).sum := by
    rw [totalBatchSize, if_pos h.max_pos]
  refine ⟨fun _ => hread, ?_, ?_⟩
  · rw [htotal, toSizeT]
    omega
  · rw [htotal, toSizeT]
    omega

/-- The input at which `GetRequestShapeValues` ends the process. -/
theorem valuesFault_iff {total k : ℕ} {kind : Crash} (inputs : List InputProperties) :
    ValuesFault lib inst calls total kind k inputs ↔
      ∃ before input after, inputs = before ++ input :: after ∧
        ValuesAccepted lib inst calls total k before ∧
        ValueFault inst calls (k + (before.map (valueCalls inst)).sum) input kind := by
  induction inputs generalizing k with
  | nil =>
      refine iff_of_false id fun h => ?_
      obtain ⟨before, input, after, h, -⟩ := h
      exact absurd h.symm (List.append_ne_nil_of_right_ne_nil _ (List.cons_ne_nil _ _))
  | cons x inputs ih =>
      constructor
      · intro h
        rcases h with h | ⟨hacc, h⟩
        · exact ⟨[], x, inputs, rfl, trivial, h⟩
        · obtain ⟨before, input, after, hsplit, hbefore, hfault⟩ := ih.mp h
          refine ⟨x :: before, input, after, by rw [hsplit, List.cons_append], ⟨hacc, hbefore⟩, ?_⟩
          rwa [List.map_cons, List.sum_cons, ← Nat.add_assoc]
      · intro h
        obtain ⟨before, input, after, hsplit, hbefore, hfault⟩ := h
        cases before with
        | nil =>
            obtain ⟨rfl, -⟩ := List.cons.inj hsplit
            exact Or.inl hfault
        | cons y before =>
            obtain ⟨rfl, hinputs⟩ := List.cons.inj hsplit
            rw [List.map_cons, List.sum_cons, ← Nat.add_assoc] at hfault
            exact Or.inr ⟨hbefore.1, ih.mpr ⟨before, input, after, hinputs, hbefore.2, hfault⟩⟩

theorem zeroShapeInput_iff (h : PassesBatchChecks inst requests) :
    AcceptFault lib inst calls requests .zeroDivisor ↔ ZeroShapeInput lib inst calls requests := by
  have hcalls : batchCalls inst requests = 2 * requests.length := if_pos h.max_pos
  constructor
  · intro hfault
    cases hfault with
    | shapeInput hpasses hfault =>
        obtain ⟨hcount, hvalues⟩ := hfault
        obtain ⟨before, input, after, hsplit, hbefore, hinput⟩ := (valuesFault_iff _).mp hvalues
        rw [hcalls] at hcount hbefore hinput
        cases hinput with
        | zeroDimension hdiv hzero =>
            exact ⟨hpasses.read h.max_pos, hcount, before, input, after, hsplit, hbefore, hdiv, hzero⟩
  · intro hzero
    obtain ⟨before, input, after, hsplit, hbefore, hdiv, hdim⟩ := hzero.divides
    refine .shapeInput (h.passes hzero.read) ⟨?_, (valuesFault_iff _).mpr
      ⟨before, input, after, hsplit, ?_, .zeroDimension ?_ hdim⟩⟩
    · rw [hcalls]
      exact hzero.count
    · rw [hcalls]
      exact hbefore
    · rw [hcalls]
      exact hdiv

/-- A response with no rows to divide by. -/
theorem responseFault_iff (hbatch : inst.supportBatching = true) {required : List (List String)}
    {name : String} {dims : Dims} {idx : ℕ} {request : Request} {s : PayloadState} :
    ResponseFault inst calls required name dims idx request s .zeroDivisor ↔
      (s.slots.getD idx default).response = some true ∧ name ∈ required.getD idx [] ∧
        (∀ j ∈ [0, 1, 2, 4], calls.outcome (s.calls + j) = none) ∧ batchDim request = 0 := by
  have hmade : responseCalls inst = 2 := if_pos hbatch
  have hrows : outputRows inst dims request = batchDim request := if_pos hbatch
  simp only [List.forall_mem_cons, List.not_mem_nil, false_implies, implies_true, and_true,
    Nat.add_zero]
  constructor
  · intro hfault
    cases hfault with
    | noRows hread hlive hname hcnt hbuffer hzero =>
        rw [hmade] at hcnt hbuffer
        exact ⟨hlive, hname, ⟨(hread hbatch).1, (hread hbatch).2, hcnt, hbuffer⟩, hrows ▸ hzero⟩
  · intro h
    obtain ⟨hlive, hname, ⟨hfound, hproperties, hcnt, hbuffer⟩, hzero⟩ := h
    refine .noRows (fun _ => ⟨hfound, hproperties⟩) hlive hname ?_ ?_ (hrows.trans hzero)
    · rw [hmade]
      exact hcnt
    · rw [hmade]
      exact hbuffer

/-- A body from which nothing is known. -/
theorem triple_true {α : Type} (m : PayloadM α) :
    Triple (fun _ => True) m (fun _ _ => True) fun _ => True := by
  intro s _
  cases m s with
  | mk r t => cases r <;> trivial

/-- The names kept for a response are among those its request asked for. -/
def AmongRequested (requests : List Request) (required : List (List String)) : Prop :=
  List.Forall₂ (fun request names => ∀ name ∈ names, name ∈ request.requestedOutputs) requests
    required

theorem requestOutputs_triple (idx : ℕ) (request : Request) :
    Triple (fun _ => True) (requestOutputs calls idx request)
      (fun names _ => ∀ name ∈ names, name ∈ request.requestedOutputs) fun _ => True := by
  have hnone : Triple (fun _ => True) (pure [] : PayloadM (List String))
      (fun names _ => ∀ name ∈ names, name ∈ request.requestedOutputs) fun _ => True :=
    Triple.pure fun s _ name h => absurd h List.not_mem_nil
  refine Triple.bind (triple_true _) fun live => Triple.ite (fun _ => ?_) fun _ => hnone
  refine Triple.bind (triple_true _) fun err => Triple.bind (triple_true _) fun _ => ?_
  refine Triple.bind (triple_true _) fun live => Triple.ite (fun _ => ?_) fun _ => hnone
  -- The invariant of the loop: the names kept are among those gone through.
  have hloop : Triple (fun _ => ∀ name ∈ ([] : List String), name ∈ ([] : List String))
      (foldEach (fun names name => do
        respondIfError idx (← call calls.toCalls)
        if ← responseLive idx then pure (names ++ [name]) else pure names) [] request.requestedOutputs)
      (fun names _ => ∀ name ∈ names, name ∈ [] ++ request.requestedOutputs) fun _ => True := by
    refine Triple.foldEach (I := fun done names _ => ∀ name ∈ names, name ∈ done)
      fun pre name post names _ s hs => ?_
    have hbody : Triple (fun _ => True) (do
        respondIfError idx (← call calls.toCalls)
        if ← responseLive idx then pure (names ++ [name]) else pure names)
        (fun kept _ => ∀ n ∈ kept, n ∈ pre ++ [name]) fun _ => True := by
      refine Triple.bind (triple_true _) fun err => Triple.bind (triple_true _) fun _ => ?_
      refine Triple.bind (triple_true _) fun live => ?_
      refine Triple.ite (fun _ => Triple.pure fun _ _ n hn => ?_)
        fun _ => Triple.pure fun _ _ n hn => List.mem_append_left _ (hs n hn)
      rcases List.mem_append.mp hn with hn | hn
      · exact List.mem_append_left _ (hs n hn)
      · exact List.mem_append_right _ hn
    exact hbody s trivial
  exact hloop.conseq (fun _ _ name h => h) (fun names _ h => h) fun _ h => h

theorem requiredOutputs_triple :
    Triple (fun _ => True) (requiredOutputs calls requests)
      (fun required _ => AmongRequested requests required) fun _ => True := by
  have hloop : Triple (fun _ => AmongRequested (([] : List (Request × ℕ)).map Prod.fst) [])
      (requiredOutputs calls requests)
      (fun required _ => AmongRequested (([] ++ requests.zipIdx).map Prod.fst) required)
      fun _ => True := by
    refine Triple.foldEach (I := fun done required _ => AmongRequested (done.map Prod.fst) required)
      fun pre x post required _ s hs => ?_
    have hbody : Triple (fun _ => True) (do
        let names ← requestOutputs calls x.2 x.1
        pure (required ++ [names]))
        (fun kept _ => AmongRequested ((pre ++ [x]).map Prod.fst) kept) fun _ => True := by
      refine Triple.bind (requestOutputs_triple x.2 x.1) fun names => Triple.pure fun t ht => ?_
      rw [List.map_append, List.map_singleton]
      exact List.rel_append hs (List.Forall₂.cons ht List.Forall₂.nil)
    exact hbody s trivial
  refine hloop.conseq (fun _ _ => List.Forall₂.nil) (fun required _ h => ?_) fun _ h => h
  rw [List.nil_append, List.zipIdx_map_fst] at h
  exact h

/-- The names behind the launch. -/
theorem runUntilOutputs_required {s t : PayloadState} {required : List (List String)}
    (hrun : runUntilOutputs lib inst indices calls requests s = (some required, t)) :
    AmongRequested requests required := by
  have hnames : Triple (fun _ => True) (runUntilOutputs lib inst indices calls requests)
      (fun required _ => AmongRequested requests required) fun _ => True := by
    refine Triple.bind (triple_true _) fun batch => ?_
    refine Triple.bind (triple_true _) fun _ => Triple.bind (triple_true _) fun _ => ?_
    refine Triple.bind (triple_true _) fun _ => Triple.bind (triple_true _) fun graph => ?_
    refine Triple.bind (triple_true _) fun _ => Triple.bind requiredOutputs_triple fun required => ?_
    refine Triple.bind (Q := fun _ _ => AmongRequested requests required) (Triple.modify fun _ h => h)
      fun _ => Triple.pure fun _ h => h
  exact hnames.of_fall trivial hrun

theorem AmongRequested.mem {required : List (List String)} (h : AmongRequested requests required)
    {request : Request} {idx : ℕ} (hidx : requests[idx]? = some request) {name : String}
    (hname : name ∈ required.getD idx []) : name ∈ request.requestedOutputs := by
  obtain ⟨hlt, hget⟩ := List.getElem?_eq_some_iff.mp hidx
  obtain ⟨-, hall⟩ := (Related.iff_getD default []).mp h
  have hmem := hall idx hlt name hname
  rwa [List.getD_eq_getElem requests default hlt, hget] at hmem

/-- No shape tensor of the first request has a first dimension of 0, and no request of batch size 0
asks for the output of a shape tensor. -/
structure RowsWhereAsked (inst : Instance) (requests : List Request) : Prop where
  inputs : ∀ input ∈ batchInputs requests, inst.isShapeInferenceIo input.name = true →
    input.shape.head? ≠ some 0
  outputs : ∀ t ∈ inst.tensors, t.isInput = false → t.isShapeInferenceIo = true →
    ∀ request ∈ requests, t.name ∈ request.requestedOutputs → batchDim request ≠ 0

/-- **Requests with rows** where it matters make no execution divide by zero. -/
theorem run_noZeroDivisor_of_rows (h : PassesBatchChecks inst requests)
    (hrows : RowsWhereAsked inst requests) :
    (run lib inst indices calls requests (newPayload requests.length)).2.crash ≠
      some .zeroDivisor := by
  have hbatch : inst.supportBatching = true := decide_eq_true h.max_pos
  rw [ne_eq, run_crash_iff]
  intro hfault
  cases hfault with
  | accept hfault =>
      obtain ⟨before, input, after, hsplit, -, hdiv, hzero⟩ :=
        ((zeroShapeInput_iff h).mp hfault).divides
      refine hrows.inputs input ?_ hdiv.shape hzero
      rw [hsplit]
      exact List.mem_append_right _ List.mem_cons_self
  | shapeOutput hcomes hfault =>
      obtain ⟨-, hname, -, hzero⟩ := (responseFault_iff hbatch).mp hfault
      obtain ⟨t, -, hrun, -⟩ := hcomes.reached
      have hasked := (runUntilOutputs_required hrun).mem hcomes.requestAt hname
      exact hrows.outputs _ (List.mem_of_getElem? hcomes.tensorAt) hcomes.output hcomes.shape _
        (List.mem_of_getElem? hcomes.requestAt) hasked hzero

end Run

/-! ### A request without rows -/

/-- The matrix model with an output for the shape. -/
def shapeOutputInstance : Instance :=
  { matrixInstance 8 1 matrixBatchSize_lt with
    tensors := [{ name := "in", isInput := true },
      { name := "shape", isInput := false, isShapeInferenceIo := true, dataType := .int64 }]
    names_nodup := by decide
    shape_rank := by
      intro c _ io t ht hin hs
      match io, ht with
      | 0, ht =>
          cases ht
          exact Bool.noConfusion hs
      | 1, ht =>
          cases ht
          exact Bool.noConfusion hin
    shape_not_ragged := by
      intro set io t ht hin hs
      match io, ht with
      | 0, ht =>
          cases ht
          exact Bool.noConfusion hs
      | 1, ht =>
          cases ht
          exact Bool.noConfusion hin
    max_int := by
      intro c hc io t _ _ _ i _
      rcases List.mem_cons.mp hc with rfl | hc
      · exact matrixProfile_maxDims_lt 0 4 4 io i
      · rw [List.mem_singleton.mp hc]
        exact matrixProfile_maxDims_lt 1 4 10 io i }

/-- The requests ask for the shape. -/
def asksForShape (requests : List Request) : List Request :=
  requests.map fun request => { request with requestedOutputs := ["shape"] }

/-- A request of no rows that asks for the shape, and one of two rows. -/
def noRowRequests : List Request :=
  asksForShape (matrixRequests 0 4) ++ matrixRequests 2 4

/-- The engine gives the total batch size and two more values. -/
def shapeOutputCalls : RunCalls where
  outputDims _ := vectorDims 3
  firstShapeValue _ := 2

theorem noRowRequests_pass : PassesBatchChecks shapeOutputInstance noRowRequests where
  inputs := by decide
  nonneg := by decide
  total_pos := by decide
  total_le := by decide

/-- Requests of two rows and of one that ask for the shape. -/
def shapeOutputRequests : List Request :=
  asksForShape (matrixRequests 2 4) ++ asksForShape (matrixRequests 1 4)

/-- The engine gives their total batch size. -/
def threeRowCalls : RunCalls where
  outputDims _ := vectorDims 3
  firstShapeValue _ := 3

end TensorrtBackend

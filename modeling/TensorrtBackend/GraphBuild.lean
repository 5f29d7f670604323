import TensorrtBackend.GraphKey
import TensorrtBackend.Lib.EarlyReturn

/-!
# The indices while a graph is built

`BuildCudaGraph` drives `next_buffer_binding_set_` and `next_set_` as hidden arguments of `Enqueue`:
the warm-up loop writes the first, the capture loop both, and what was in them on entry is written
back behind the loops.  `buildGraph` is that body with its writes in the order of the source;
`buildGraph_eq` says that it computes what `buildCudaGraph` does, and `buildGraph_restores_iff` when
the indices are those of the entry again.
-/

namespace TensorrtBackend

open EarlyReturn

/-- The members of the instance and of the context that the body writes, and the flag it returns. -/
structure BuildState where
  indices : SetIndices
  cudaGraphExecs : List CudaGraphMap
  captured : Bool := false

/-- `instance_->next_buffer_binding_set_ = s`. -/
def BuildState.setBuffer (st : BuildState) (s : ℕ) : BuildState :=
  { st with indices := { st.indices with nextBufferBindingSet := s } }

/-- `captured = captured && ok`: the flag never becomes true again. -/
def BuildState.andCaptured (st : BuildState) (ok : Bool) : BuildState :=
  { st with captured := st.captured && ok }

section Build

variable (numCopyStreams : ℕ) (calls : BuildCalls) (key : List ℤ) (graph : CudaGraph)

/-- One iteration of the warm-up loop. -/
def warmUp (s : ℕ) : EarlyReturn BuildState Unit := do
  modify fun st => st.setBuffer s
  let buffer ← gets fun st => st.indices.nextBufferBindingSet
  if !calls.warmUpEnqueue buffer then ret else pure ()

/-- The executable is instantiated and stored, and the captured graph destroyed. -/
def storeGraph (setIdx : ℕ) : EarlyReturn BuildState Unit := do
  let indices ← gets BuildState.indices
  if !calls.instantiate indices.nextSet then modify fun st => st.andCaptured false
  else
    modify fun st => { st with
      cudaGraphExecs := st.cudaGraphExecs.modify setIdx fun graphs => graphs.insert key
        { graph with cudaGraphExec := some ⟨indices.nextBufferBindingSet, indices.nextSet⟩ } }
  modify fun st => st.andCaptured (calls.destroy indices.nextSet)

/-- One iteration of the capture loop. -/
def captureSet (setIdx : ℕ) : EarlyReturn BuildState Unit := do
  modify fun st => st.setBuffer (setIdx % numCopyStreams)
  modify fun st => { st with indices := { st.indices with nextSet := setIdx } }
  let event ← gets fun st => st.indices.nextSet
  if !calls.beginCapture event then modify fun st => st.andCaptured false
  else
    modify fun st => st.andCaptured (calls.enqueue event)
    modify fun st => st.andCaptured (calls.endCapture event)
    let captured ← gets BuildState.captured
    if captured then storeGraph calls key graph setIdx else pure ()

end Build

/-- `BuildCudaGraph` for one context. -/
def buildGraph (inst : Instance) (calls : BuildCalls) (trtContext : TensorRTContext)
    (graphSpec : GraphSpec) : EarlyReturn BuildState Unit := do
  if inst.tensors.any EngineTensor.isShapeInferenceIo then ret
  else
    match setCudaGraphShape inst calls.setInputShape trtContext graphSpec with
    | .error _ => ret
    | .ok (key, graph) => do
      let entry ← gets BuildState.indices
      forEach (warmUp calls) (List.range inst.numCopyStreams)
      modify fun st => { st with captured := true }
      forEach (captureSet inst.numCopyStreams calls key graph) (List.range eventSetCount)
      modify fun st => { st with indices := entry }

/-- The state in which the body starts. -/
def BuildState.enter (trtContext : TensorRTContext) (indices : SetIndices) : BuildState where
  indices := indices
  cudaGraphExecs := trtContext.cudaGraphExecs

/-! ### The loops -/

section Loops

variable {numCopyStreams : ℕ} {calls : BuildCalls} {key : List ℤ} {graph : CudaGraph}

@[simp] theorem BuildState.setBuffer_setBuffer (st : BuildState) (s s' : ℕ) :
    (st.setBuffer s).setBuffer s' = st.setBuffer s' := rfl

theorem warmUp_of_ok {s : ℕ} (h : calls.warmUpEnqueue s = true) (st : BuildState) :
    warmUp calls s st = (some (), st.setBuffer s) := by
  show (if !calls.warmUpEnqueue s then ret else pure () : EarlyReturn BuildState Unit)
    (st.setBuffer s) = _
  rw [h]
  rfl

theorem warmUp_of_fail {s : ℕ} (h : calls.warmUpEnqueue s = false) (st : BuildState) :
    warmUp calls s st = (none, st.setBuffer s) := by
  show (if !calls.warmUpEnqueue s then ret else pure () : EarlyReturn BuildState Unit)
    (st.setBuffer s) = _
  rw [h]
  rfl

/-- The warm-up loop stops at the first buffer set it fails for, with the index at that set. -/
theorem warmUps_eq (calls : BuildCalls) (l : List ℕ) (st : BuildState) :
    forEach (warmUp calls) l st = match l.find? fun s => !calls.warmUpEnqueue s with
      | some s => (none, st.setBuffer s)
      | none => (some (), st.setBuffer (l.getLast?.getD st.indices.nextBufferBindingSet)) := by
  induction l generalizing st with
  | nil => rfl
  | cons s l ih =>
      cases hs : calls.warmUpEnqueue s with
      | false =>
          rw [List.find?_cons_of_pos (by simp [hs])]
          exact bind_of_ret (warmUp_of_fail hs st)
      | true =>
          have hstep : forEach (warmUp calls) (s :: l) st =
              forEach (warmUp calls) l (st.setBuffer s) := bind_of_fall (warmUp_of_ok hs st)
          rw [hstep, ih, List.find?_cons_of_neg (by simp [hs])]
          cases l.find? fun s => !calls.warmUpEnqueue s with
          | some s' => rfl
          | none =>
              cases l with
              | nil => rfl
              | cons s' l => simp [List.getLast?_cons]

/-- One capture does to the flag and the graphs what `captureEventSet` does, and leaves the indices
at its own sets. -/
theorem captureSet_eq (setIdx : ℕ) (st : BuildState) :
    captureSet numCopyStreams calls key graph setIdx st =
      (some (),
        { indices := ⟨setIdx, setIdx % numCopyStreams⟩
          cudaGraphExecs := (captureEventSet numCopyStreams calls key graph
            (st.captured, st.cudaGraphExecs) setIdx).2
          captured := (captureEventSet numCopyStreams calls key graph
            (st.captured, st.cudaGraphExecs) setIdx).1 }) := by
  obtain ⟨indices, graphs, captured⟩ := st
  cases hbegin : calls.beginCapture setIdx <;> cases captured <;>
    cases henqueue : calls.enqueue setIdx <;> cases hend : calls.endCapture setIdx <;>
    cases hinst : calls.instantiate setIdx <;> cases hdestroy : calls.destroy setIdx <;>
    simp [captureSet, captureEventSet, storeGraph, BuildState.setBuffer, BuildState.andCaptured,
      EarlyReturn.modify, EarlyReturn.gets, bind, andThen, pure, fall, *]

/-- The capture loop. -/
theorem captureSets_eq (numCopyStreams : ℕ) (calls : BuildCalls) (key : List ℤ)
    (graph : CudaGraph) (l : List ℕ) (st : BuildState) :
    ∃ indices, forEach (captureSet numCopyStreams calls key graph) l st =
      (some (),
        { indices := indices
          cudaGraphExecs := (l.foldl (captureEventSet numCopyStreams calls key graph)
            (st.captured, st.cudaGraphExecs)).2
          captured := (l.foldl (captureEventSet numCopyStreams calls key graph)
            (st.captured, st.cudaGraphExecs)).1 }) := by
  induction l generalizing st with
  | nil => exact ⟨st.indices, rfl⟩
  | cons setIdx l ih =>
      obtain ⟨indices, hrest⟩ := ih _
      exact ⟨indices, (bind_of_fall (captureSet_eq setIdx st)).trans hrest⟩

end Loops

/-! ### The whole body -/

section Body

variable {inst : Instance} {calls : BuildCalls} {trtContext : TensorRTContext}
  {graphSpec : GraphSpec} {indices : SetIndices}

/-- What is left behind when `BuildCudaGraph` returns. -/
def builtState (inst : Instance) (calls : BuildCalls) (trtContext : TensorRTContext)
    (graphSpec : GraphSpec) (indices : SetIndices) : BuildState :=
  (buildGraph inst calls trtContext graphSpec (.enter trtContext indices)).2

/-- The body behind the first checks. -/
theorem builtState_of_shape {key : List ℤ} {graph : CudaGraph}
    (htensors : inst.tensors.any EngineTensor.isShapeInferenceIo = false)
    (hshape : setCudaGraphShape inst calls.setInputShape trtContext graphSpec = .ok (key, graph)) :
    builtState inst calls trtContext graphSpec indices =
      match (List.range inst.numCopyStreams).find? fun s => !calls.warmUpEnqueue s with
      | some s => (BuildState.enter trtContext indices).setBuffer s
      | none =>
        { indices := indices
          cudaGraphExecs := (captureEventSets inst.numCopyStreams calls key graph
            trtContext.cudaGraphExecs).2
          captured := (captureEventSets inst.numCopyStreams calls key graph
            trtContext.cudaGraphExecs).1 } := by
  have hwarm := warmUps_eq calls (List.range inst.numCopyStreams) (.enter trtContext indices)
  have hentry : (gets BuildState.indices : EarlyReturn BuildState SetIndices)
      (.enter trtContext indices) = (some indices, .enter trtContext indices) := rfl
  simp only [builtState, buildGraph, htensors, hshape, Bool.false_eq_true, if_false]
  rw [bind_of_fall hentry]
  cases hfind : (List.range inst.numCopyStreams).find? fun s => !calls.warmUpEnqueue s with
  | some s =>
      rw [hfind] at hwarm
      rw [bind_of_ret hwarm]
  | none =>
      rw [hfind] at hwarm
      rw [bind_of_fall hwarm]
      obtain ⟨last, hcapture⟩ := captureSets_eq inst.numCopyStreams calls key graph
        (List.range eventSetCount) { (BuildState.enter trtContext indices).setBuffer
          ((List.range inst.numCopyStreams).getLast?.getD indices.nextBufferBindingSet) with
            captured := true }
      exact congrArg Prod.snd ((bind_of_fall rfl).trans (bind_of_fall hcapture))

theorem builtState_of_shapeTensor
    (htensors : inst.tensors.any EngineTensor.isShapeInferenceIo = true) :
    builtState inst calls trtContext graphSpec indices = .enter trtContext indices := by
  simp only [builtState, buildGraph, htensors, if_true]
  rfl

theorem builtState_of_error {err : Error}
    (htensors : inst.tensors.any EngineTensor.isShapeInferenceIo = false)
    (hshape : setCudaGraphShape inst calls.setInputShape trtContext graphSpec = .error err) :
    builtState inst calls trtContext graphSpec indices = .enter trtContext indices := by
  simp only [builtState, buildGraph, htensors, hshape, Bool.false_eq_true, if_false]
  rfl

/-- **The body** computes what `buildCudaGraph` says. -/
theorem buildGraph_eq :
    (builtState inst calls trtContext graphSpec indices).captured =
        (buildCudaGraph inst calls trtContext graphSpec indices).1 ∧
      (builtState inst calls trtContext graphSpec indices).cudaGraphExecs =
        (buildCudaGraph inst calls trtContext graphSpec indices).2.1.cudaGraphExecs ∧
      (builtState inst calls trtContext graphSpec indices).indices =
        (buildCudaGraph inst calls trtContext graphSpec indices).2.2 := by
  cases htensors : inst.tensors.any EngineTensor.isShapeInferenceIo with
  | true =>
      rw [builtState_of_shapeTensor htensors, buildCudaGraph, if_pos htensors]
      exact ⟨rfl, rfl, rfl⟩
  | false =>
      cases hshape : setCudaGraphShape inst calls.setInputShape trtContext graphSpec with
      | error err =>
          rw [builtState_of_error htensors hshape]
          simp [buildCudaGraph, htensors, hshape, BuildState.enter]
      | ok built =>
          obtain ⟨key, graph⟩ := built
          rw [builtState_of_shape htensors hshape]
          simp only [buildCudaGraph, htensors, hshape, Bool.false_eq_true, if_false]
          cases (List.range inst.numCopyStreams).find? fun s => !calls.warmUpEnqueue s with
          | some s => exact ⟨rfl, rfl, rfl⟩
          | none => exact ⟨rfl, rfl, rfl⟩

/-- Either no warm-up of the graph fails, or the first that does is for the buffer set that was
current on entry. -/
def WarmUpKeepsSet (inst : Instance) (calls : BuildCalls) (trtContext : TensorRTContext)
    (graphSpec : GraphSpec) (indices : SetIndices) : Prop :=
  inst.tensors.any EngineTensor.isShapeInferenceIo = false →
    (∃ shape, setCudaGraphShape inst calls.setInputShape trtContext graphSpec = .ok shape) →
      ∀ s < inst.numCopyStreams, calls.warmUpEnqueue s = false →
        (∀ s' < s, calls.warmUpEnqueue s' = true) → s = indices.nextBufferBindingSet

/-- The first failure of a warm-up. -/
theorem find?_range_eq_some {n s : ℕ} {ok : ℕ → Bool} :
    (List.range n).find? (fun s => !ok s) = some s ↔
      s < n ∧ ok s = false ∧ ∀ s' < s, ok s' = true := by
  rw [List.find?_range_eq_some]
  simp
  tauto

/-- **When the indices are restored.** -/
theorem buildGraph_restores_iff :
    (builtState inst calls trtContext graphSpec indices).indices = indices ↔
      WarmUpKeepsSet inst calls trtContext graphSpec indices := by
  cases htensors : inst.tensors.any EngineTensor.isShapeInferenceIo with
  | true =>
      rw [builtState_of_shapeTensor htensors]
      exact iff_of_true rfl fun hfalse => absurd (htensors.symm.trans hfalse) (by decide)
  | false =>
      cases hshape : setCudaGraphShape inst calls.setInputShape trtContext graphSpec with
      | error err =>
          rw [builtState_of_error htensors hshape]
          refine iff_of_true rfl fun _ hok => ?_
          obtain ⟨shape, hok⟩ := hok
          cases hshape.symm.trans hok
      | ok shape =>
          rw [builtState_of_shape htensors hshape]
          cases hfind : (List.range inst.numCopyStreams).find? fun s => !calls.warmUpEnqueue s with
          | none =>
              refine iff_of_true rfl fun _ _ s hs hfail _ => ?_
              have hok := List.find?_eq_none.mp hfind s (List.mem_range.mpr hs)
              simp [hfail] at hok
          | some s =>
              obtain ⟨hs, hfail, hfirst⟩ := find?_range_eq_some.mp hfind
              constructor
              · intro hrestored _ _ s' hs' hfail' hfirst'
                have hsame : s' = s := Option.some.inj
                  ((find?_range_eq_some.mpr ⟨hs', hfail', hfirst'⟩).symm.trans hfind)
                rw [hsame]
                exact congrArg SetIndices.nextBufferBindingSet hrestored
              · intro hkeeps
                have hset := hkeeps htensors ⟨shape, hshape⟩ s hs hfail hfirst
                show { indices with nextBufferBindingSet := s } = indices
                rw [hset]

/-- **The slip**: when the warm-up with the second set of buffers fails, the instance goes on with
that set. -/
theorem buildGraph_leaves_buffer :
    (builtState (matrixInstance 8 2) { warmUpEnqueue := fun s => s == 0 } (matrixProfile 0 4 4)
        (defaultSpec 4) {}).indices = { nextSet := 0, nextBufferBindingSet := 1 } ∧
      (builtState (matrixInstance 8 2) { warmUpEnqueue := fun s => s == 0 } (matrixProfile 0 4 4)
        (defaultSpec 4) {}).indices ≠ {} := by
  have hleft : (builtState (matrixInstance 8 2) { warmUpEnqueue := fun s => s == 0 }
      (matrixProfile 0 4 4) (defaultSpec 4) {}).indices =
        { nextSet := 0, nextBufferBindingSet := 1 } := rfl
  rw [hleft]
  decide

end Body

end TensorrtBackend

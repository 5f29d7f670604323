import TensorrtBackend.GraphKey
import TensorrtBackend.InputFit

/-!
# The input loop of an execution

`Run` sets the inputs of the selected context one by one, with all the calls this takes, and
`runChecks` keeps to what it checks: the shape values and `SetBindingDimensions`.

* `runInputs_checks`: the loop falls through only where the checks pass, and leaves their key in
  `input_dims`.
* `runRaggedInput_totalByteSize`, `runRegularInput_totalByteSize`: the bytes it copies.
-/

namespace TensorrtBackend

open EarlyReturn PayloadM

/-- The shapes `SetBindingDimensions` is given for batch inputs. -/
def RunCalls.batchShapes (calls : RunCalls) (batchInput : BatchInput) : Option (List ℤ) :=
  some (calls.batchInputShape batchInput)

/-- `input_dims` is as given. -/
def DimsAre (key : List ℤ) (s : PayloadState) : Prop := s.inputDims = key

/-- A body that leaves `input_dims` alone. -/
def KeepsDims {α : Type} (m : PayloadM α) : Prop :=
  ∀ key, Triple (DimsAre key) m (fun _ => DimsAre key) fun _ => True

namespace KeepsDims

variable {α β : Type} {m : PayloadM α} {f : α → PayloadM β}

theorem pure (a : α) : KeepsDims (Pure.pure a : PayloadM α) := fun _ => Triple.pure fun _ h => h

theorem bind (hm : KeepsDims m) (hf : ∀ a, KeepsDims (f a)) : KeepsDims (m >>= f) :=
  fun key => Triple.bind (hm key) fun a => hf a key

theorem call (calls : Calls) : KeepsDims (PayloadM.call calls) := fun _ _ h => h

theorem collect (calls : Calls) : KeepsDims (PayloadM.collect calls) := fun _ _ h => h

theorem failAllIfError (err : Option Error) : KeepsDims (PayloadM.failAllIfError err) := by
  cases err with
  | none => exact pure ()
  | some err => exact fun _ _ _ => trivial

theorem onlyIf {c : Prop} [Decidable c] {m : PayloadM Unit} (h : KeepsDims m) :
    KeepsDims (PayloadM.onlyIf c m) :=
  fun key => Triple.ite (fun _ => h key) fun _ => Triple.pure fun _ hs => hs

end KeepsDims

section Inputs

variable {lib : BackendCommon} {inst : Instance} {indices : SetIndices} {calls : RunCalls}
  {requests : List Request} {citr : TensorRTContext} {values : ShapeValueMap} {key : List ℤ}

/-- A condition that fails every request where it holds. -/
theorem triple_failAll {α : Type} {Q : α → PayloadState → Prop} (err : Error) :
    Triple (DimsAre key) (failAllAndReturn err : PayloadM α) Q fun _ => True :=
  fun _ _ => trivial

theorem requestInput_triple (request : Request) (name : String) :
    Triple (DimsAre key) (requestInput calls request name)
      (fun input s => request.input? name = some input ∧ DimsAre key s) fun _ => True := by
  refine Triple.bind (KeepsDims.call _ key) fun err => ?_
  refine Triple.bind (KeepsDims.failAllIfError err key) fun _ => ?_
  cases hinput : request.input? name with
  | none => exact triple_failAll _
  | some input =>
      refine Triple.bind (KeepsDims.call _ key) fun err => ?_
      refine Triple.bind (KeepsDims.failAllIfError err key) fun _ => ?_
      exact Triple.pure fun s hs => ⟨rfl, hs⟩

theorem addRaggedInput_triple (name : String) (ragged : Option DataType × ℤ) (request : Request) :
    Triple (DimsAre key) (addRaggedInput lib calls name ragged request)
      (fun ragged' s => (∃ input, request.input? name = some input ∧
        ragged' = (ragged.1.or (some input.datatype), ragged.2 + lib.elementCount input.shape)) ∧
          DimsAre key s) fun _ => True := by
  refine Triple.bind (requestInput_triple request name) fun input => ?_
  intro s hs
  obtain ⟨hinput, hs⟩ := hs
  have hrest : Triple (DimsAre key) (do
      failAllIfError (← call calls.toCalls)
      pure (ragged.1.or (some input.datatype), ragged.2 + lib.elementCount input.shape) :
        PayloadM (Option DataType × ℤ))
      (fun ragged' s => (∃ input, request.input? name = some input ∧
        ragged' = (ragged.1.or (some input.datatype), ragged.2 + lib.elementCount input.shape)) ∧
          DimsAre key s) fun _ => True := by
    refine Triple.bind (KeepsDims.call _ key) fun err => ?_
    refine Triple.bind (KeepsDims.failAllIfError err key) fun _ => ?_
    exact Triple.pure fun s hs => ⟨⟨input, hinput, rfl⟩, hs⟩
  exact hrest s hs

/-- The element counts of a ragged input add up to its shape, and the data type is that of the first
request. -/
theorem addRaggedInputs_triple (name : String) (requests : List Request)
    (ragged : Option DataType × ℤ) :
    Triple (DimsAre key) (foldEach (addRaggedInput lib calls name) ragged requests)
      (fun ragged' s => (∃ r, raggedShape lib name requests = some r ∧ ragged'.2 = ragged.2 + r ∧
        ragged'.1 = ragged.1.or ((requests.head?.bind fun request => request.input? name).map
          InputProperties.datatype)) ∧ DimsAre key s) fun _ => True := by
  induction requests generalizing ragged with
  | nil =>
      exact Triple.pure fun s hs => ⟨⟨0, rfl, (Int.add_zero _).symm, (Option.or_none).symm⟩, hs⟩
  | cons request requests ih =>
      refine Triple.bind (addRaggedInput_triple name ragged request) fun ragged' => ?_
      intro s hs
      obtain ⟨⟨input, hinput, rfl⟩, hs⟩ := hs
      refine (ih _).post (fun total t ht => ?_) s hs
      obtain ⟨⟨r, hr, hsum, hdata⟩, ht⟩ := ht
      refine ⟨⟨lib.elementCount input.shape + r, ?_, ?_, ?_⟩, ht⟩
      · simp only [raggedShape, hinput, hr]
      · rw [hsum, Int.add_assoc]
      · rw [hdata, List.head?_cons, Option.bind_some, hinput, Option.map_some, Option.or_assoc,
          Option.some_or]

theorem setBinding_triple (io : ℕ) (name : String) (shape : List ℤ) :
    Triple (DimsAre key) (setBinding inst calls citr io name shape)
      (fun _ s => (setBindingDimensions inst calls.setInputShape name shape citr io []).1 = none ∧
        DimsAre (key ++ shape) s) fun _ => True := by
  intro s hs
  have hrun : setBinding inst calls citr io name shape s =
      failAllIfError (setBindingDimensions inst calls.setInputShape name shape citr io s.inputDims).1
        { s with inputDims := (setBindingDimensions inst calls.setInputShape name shape citr io
          s.inputDims).2 } := rfl
  have hkey : s.inputDims = key := hs
  rw [hrun, hkey, setBindingDimensions_fst, setBindingDimensions_key]
  cases hverdict : (setBindingDimensions inst calls.setInputShape name shape citr io []).1 with
  | none => exact ⟨rfl, rfl⟩
  | some err => trivial

theorem fillBatchInput_keepsDims (io : ℕ) (batchInput : BatchInput) :
    KeepsDims (fillBatchInput inst indices calls io batchInput) := by
  refine KeepsDims.bind (KeepsDims.call _) fun err => ?_
  refine KeepsDims.bind (KeepsDims.failAllIfError err) fun _ => ?_
  refine KeepsDims.bind (KeepsDims.collect _) fun err => ?_
  refine KeepsDims.bind (KeepsDims.failAllIfError err) fun _ => KeepsDims.onlyIf ?_
  exact KeepsDims.bind (KeepsDims.call _) fun err => KeepsDims.failAllIfError err

/-- What an execution input is given passes, and its shape is appended to `input_dims`. -/
theorem setBinding_passes {α : Type} {io : ℕ} {tensor : EngineTensor} {total : ℕ} {shape : List ℤ}
    {m : PayloadM α} (hin : tensor.isInput = true) (hexec : tensor.isShapeInferenceIo = false)
    (hshape : runtimeShape lib inst indices.nextBufferBindingSet calls.batchShapes total requests io
      tensor.name = some shape) (hm : KeepsDims m) :
    Triple (DimsAre key) (do
        setBinding inst calls citr io tensor.name shape
        m)
      (fun _ s => (tensor.isInput = true → InputPasses lib inst indices.nextBufferBindingSet
          calls.batchShapes calls.setInputShape total requests citr values io tensor) ∧
        DimsAre (key ++ bindingShape lib inst indices.nextBufferBindingSet calls.batchShapes total
          requests io tensor) s) fun _ => True := by
  refine Triple.bind (setBinding_triple io tensor.name shape) fun _ => ?_
  intro s hs
  obtain ⟨hverdict, hs⟩ := hs
  refine (hm (key ++ shape)).post (fun _ t ht => ⟨fun _ => ?_, ?_⟩) s hs
  · rw [InputPasses, if_neg (by simp [hexec])]
    exact ⟨shape, hshape, hverdict⟩
  · simp only [bindingShape, hin, hexec, hshape, Bool.not_false, Bool.and_self, if_true,
      Option.getD_some]
    exact ht

/-- **One input**: the loop body makes the check of `runChecks` and appends what it appends. -/
theorem runInput_triple (total io : ℕ) (tensor : EngineTensor) :
    Triple (DimsAre key) (runInput lib inst indices calls requests citr values total io tensor)
      (fun _ s => (tensor.isInput = true → InputPasses lib inst indices.nextBufferBindingSet
          calls.batchShapes calls.setInputShape total requests citr values io tensor) ∧
        DimsAre (key ++ bindingShape lib inst indices.nextBufferBindingSet calls.batchShapes total
          requests io tensor) s) fun _ => True := by
  rw [runInput]
  refine Triple.ite (fun hout => ?_) fun hin => ?_
  · rw [Bool.not_eq_true'] at hout
    refine Triple.pure fun s hs => ⟨fun hin => absurd hin (by simp [hout]), ?_⟩
    simp only [bindingShape, hout, Bool.false_and, Bool.false_eq_true, if_false, List.append_nil]
    exact hs
  rw [Bool.not_eq_true', Bool.not_eq_false] at hin
  refine Triple.ite (fun hshapeIo => ?_) fun hexec => ?_
  · have hnone : bindingShape lib inst indices.nextBufferBindingSet calls.batchShapes total requests
        io tensor = [] := by
      simp only [bindingShape, hshapeIo, Bool.not_true, Bool.and_false, Bool.false_eq_true, if_false]
    rw [hnone, List.append_nil]
    cases hvalue : values io with
    | none =>
        simp only [runShapeInput, hvalue]
        exact triple_failAll _
    | some value =>
        simp only [runShapeInput, hvalue]
        cases hvalid : validateShapeValues value (citr.minShapes io) (citr.maxShapes io)
            citr.nbShapeValues with
        | some err => exact triple_failAll _
        | none =>
            refine Triple.pure fun s hs => ⟨fun _ => ?_, hs⟩
            rw [InputPasses, if_pos hshapeIo]
            exact ⟨value, hvalue, hvalid⟩
  rw [Bool.not_eq_true] at hexec
  cases hbatch : (ioBindingInfo inst indices io).batchInput with
  | some batchInput =>
      have hshape : runtimeShape lib inst indices.nextBufferBindingSet calls.batchShapes total
          requests io tensor.name = some (calls.batchInputShape batchInput) := by
        rw [ioBindingInfo] at hbatch
        rw [runtimeShape, hbatch]
        rfl
      refine Triple.bind (KeepsDims.call _ key) fun err => ?_
      refine Triple.bind (KeepsDims.failAllIfError err key) fun _ => ?_
      exact setBinding_passes hin hexec hshape (fillBatchInput_keepsDims io batchInput)
  | none =>
    refine Triple.ite (fun hragged => ?_) fun hregular => ?_
    · refine Triple.bind ?_ fun _ => Triple.pure fun _ h => h
      refine Triple.bind (addRaggedInputs_triple tensor.name requests (none, 0)) fun ragged => ?_
      intro s hs
      obtain ⟨⟨r, hr, hsum, -⟩, hs⟩ := hs
      rw [ioBindingInfo] at hbatch hragged
      have hshape : runtimeShape lib inst indices.nextBufferBindingSet calls.batchShapes total
          requests io tensor.name = some [ragged.2] := by
        simp only [runtimeShape, hbatch, hragged, if_true, hr, Option.map_some, hsum, Int.zero_add]
      refine setBinding_passes hin hexec hshape ?_ s hs
      refine KeepsDims.bind (KeepsDims.call _) fun err => ?_
      refine KeepsDims.bind (KeepsDims.failAllIfError err) fun _ => ?_
      exact KeepsDims.bind (KeepsDims.collect _) fun _ => KeepsDims.pure _
    · refine Triple.bind ?_ fun _ => Triple.pure fun _ h => h
      refine Triple.bind (requestInput_triple (requests.headD default) tensor.name) fun input => ?_
      intro s hs
      obtain ⟨hinput, hs⟩ := hs
      rw [ioBindingInfo] at hbatch hregular
      have hshape : runtimeShape lib inst indices.nextBufferBindingSet calls.batchShapes total
          requests io tensor.name = some (batchnShape inst.supportBatching total input.shape) := by
        simp only [runtimeShape, hbatch, hregular, hinput, Bool.false_eq_true, if_false,
          Option.map_some]
      refine setBinding_passes hin hexec hshape ?_ s hs
      refine KeepsDims.bind (KeepsDims.call _) fun err => ?_
      refine KeepsDims.bind (KeepsDims.failAllIfError err) fun _ => ?_
      refine KeepsDims.bind (KeepsDims.onlyIf fun _ _ _ => trivial) fun _ => ?_
      exact KeepsDims.bind (KeepsDims.collect _) fun _ => KeepsDims.pure _

/-! ### The bytes that are copied -/

theorem runRaggedInput_triple (io : ℕ) (name : String) :
    Triple (DimsAre key) (runRaggedInput lib inst calls requests citr io name)
      (fun size _ => ∃ r, raggedShape lib name requests = some r ∧
        size = lib.byteSize (((requests.head?.bind fun request => request.input? name).map
          InputProperties.datatype).getD .invalid) [r]) fun _ => True := by
  refine Triple.bind (addRaggedInputs_triple name requests (none, 0)) fun ragged => ?_
  intro s hs
  obtain ⟨⟨r, hr, hsum, hdata⟩, hs⟩ := hs
  have hrest : Triple (DimsAre key) (do
      setBinding inst calls citr io name [ragged.2]
      failAllIfError (← call calls.toCalls)
      let _ ← collect calls.toCalls
      pure (lib.byteSize (ragged.1.getD .invalid) [ragged.2]) : PayloadM ℤ)
      (fun size _ => size = lib.byteSize (ragged.1.getD .invalid) [ragged.2]) fun _ => True := by
    refine Triple.bind ((setBinding_triple io name _).post fun _ _ h => h.2) fun _ => ?_
    refine Triple.bind (KeepsDims.call _ _) fun err => ?_
    refine Triple.bind (KeepsDims.failAllIfError err _) fun _ => ?_
    exact Triple.bind (KeepsDims.collect _ _) fun _ => Triple.pure fun _ _ => rfl
  refine hrest.post (fun size _ hsize => ⟨r, hr, ?_⟩) s hs
  rw [hsize, hsum, hdata, Int.zero_add, Option.none_or]

theorem runRegularInput_triple (total io : ℕ) (name : String) :
    Triple (DimsAre key) (runRegularInput lib inst indices calls requests citr total io name)
      (fun size _ => ∃ input, (requests.headD default).input? name = some input ∧
        size = lib.byteSize input.datatype ((ioBindingInfo inst indices io).format.bufferShape
          (batchnShape inst.supportBatching total input.shape))) fun _ => True := by
  refine Triple.bind (requestInput_triple (requests.headD default) name) fun input => ?_
  intro s hs
  obtain ⟨hinput, hs⟩ := hs
  have hrest : Triple (DimsAre key) (do
      let shape := batchnShape inst.supportBatching total input.shape
      let format := (ioBindingInfo inst indices io).format
      setBinding inst calls citr io name shape
      failAllIfError (← call calls.toCalls)
      let totalByteSize := lib.byteSize input.datatype (format.bufferShape shape)
      onlyIf (format.isLinearFormat = false ∧ input.byteSize ≠ toSizeT totalByteSize)
        (failAllAndReturn ⟨.invalidArg, "input byte size mismatch for input '" ++ name ++
          "' for model '" ++ inst.name ++ "'. Expected " ++ toString totalByteSize ++ ", got " ++
          toString input.byteSize⟩)
      let _ ← collect calls.toCalls
      pure totalByteSize : PayloadM ℤ)
      (fun size _ => size = lib.byteSize input.datatype
        ((ioBindingInfo inst indices io).format.bufferShape
          (batchnShape inst.supportBatching total input.shape))) fun _ => True := by
    refine Triple.bind ((setBinding_triple io name _).post fun _ _ h => h.2) fun _ => ?_
    refine Triple.bind (KeepsDims.call _ _) fun err => ?_
    refine Triple.bind (KeepsDims.failAllIfError err _) fun _ => ?_
    refine Triple.bind (KeepsDims.onlyIf (fun _ _ _ => trivial) _) fun _ => ?_
    exact Triple.bind (KeepsDims.collect _ _) fun _ => Triple.pure fun _ _ => rfl
  exact hrest.post (fun size _ hsize => ⟨input, hinput, hsize⟩) s hs

section Copy

variable {total io : ℕ} {name : String} {s t : PayloadState} {size : ℤ}

/-- **The bytes of a ragged input** an execution copies. -/
theorem runRaggedInput_totalByteSize (hne : requests ≠ [])
    (hbatch : (ioBindingInfo inst indices io).batchInput = none)
    (hragged : (ioBindingInfo inst indices io).isBufferRagged = true)
    (hrun : runRaggedInput lib inst calls requests citr io name s = (some size, t)) :
    totalByteSize lib inst indices.nextBufferBindingSet total requests io name = some size := by
  obtain ⟨r, hr, rfl⟩ := (runRaggedInput_triple io name).of_fall rfl hrun
  rw [ioBindingInfo] at hbatch hragged
  obtain ⟨input, hinput⟩ := Option.isSome_iff_exists.mp (input?_isSome_of_raggedShape hne hr)
  have hhead : (requests.head?.bind fun request => request.input? name) = some input := by
    obtain ⟨request, rest, rfl⟩ := List.exists_cons_of_ne_nil hne
    exact hinput
  simp only [totalByteSize, runtimeShape, hinput, hbatch, hragged, hr, hhead, if_true,
    Option.map_some, Option.getD_some, Option.bind_eq_bind, Option.bind_some, Option.pure_def]

/-- **The bytes of any other input.** -/
theorem runRegularInput_totalByteSize
    (hbatch : (ioBindingInfo inst indices io).batchInput = none)
    (hregular : (ioBindingInfo inst indices io).isBufferRagged = false)
    (hrun : runRegularInput lib inst indices calls requests citr total io name s = (some size, t)) :
    totalByteSize lib inst indices.nextBufferBindingSet total requests io name = some size := by
  obtain ⟨input, hinput, rfl⟩ := (runRegularInput_triple total io name).of_fall rfl hrun
  rw [ioBindingInfo] at hbatch hregular ⊢
  simp only [totalByteSize, runtimeShape, hinput, hbatch, hregular, Bool.false_eq_true, if_false,
    Option.map_some, Option.bind_eq_bind, Option.bind_some, Option.pure_def]

end Copy

/-- **The input loop** of `Run` falls through only where `runChecks` does, and with its key. -/
theorem runInputs_checks (total : ℕ) :
    Triple (DimsAre [(total : ℤ)]) (runInputs lib inst indices calls requests citr values total)
      (fun _ s => PassesRunChecks lib inst indices.nextBufferBindingSet calls.batchShapes
          calls.setInputShape total requests citr values ∧
        s.inputDims = runKey lib inst indices.nextBufferBindingSet calls.batchShapes
          calls.setInputShape total requests citr values) fun _ => True := by
  have hloop : ∀ (tensors : List EngineTensor) (io : ℕ) (key : List ℤ), Triple (DimsAre key)
      (forEach (fun x => runInput lib inst indices calls requests citr values total x.2 x.1)
        (tensors.zipIdx io))
      (fun _ s => (runChecks lib inst indices.nextBufferBindingSet calls.batchShapes
          calls.setInputShape total requests citr values io tensors key).1 = none ∧
        DimsAre (runChecks lib inst indices.nextBufferBindingSet calls.batchShapes
          calls.setInputShape total requests citr values io tensors key).2 s) fun _ => True := by
    intro tensors
    induction tensors with
    | nil => exact fun io key => Triple.pure fun s hs => ⟨rfl, hs⟩
    | cons tensor tensors ih =>
        intro io key
        rw [List.zipIdx_cons]
        refine Triple.bind (runInput_triple total io tensor) fun _ => ?_
        intro s hs
        obtain ⟨hpass, hs⟩ := hs
        rw [runChecks_cons_of_passes hpass]
        exact ih (io + 1) _ s hs
  refine Triple.bind (hloop inst.tensors 0 _) fun _ => ?_
  refine Triple.bind (Q := fun _ s => _ ∧ DimsAre _ s) ?_ fun _ => Triple.pure fun s hs => hs
  exact fun s hs => hs

end Inputs

end TensorrtBackend

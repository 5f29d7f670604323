import TensorrtBackend.InputLoad
import TensorrtBackend.ShapeBuffer

/-!
# Initializing the shape inputs

`InitializeShapeInputBinding` stores the values a shape input may take in each profile, and how many
there are.  The values are kept for every binding, but their number only once for a context, so that
each shape input overwrites that of the one before.

* `initializeShapeInputs_loaded`: what a run over the shape inputs leaves in a context.
* `shapeInputs_validate_iff`: when every shape input accepts the values in its range.
-/

namespace TensorrtBackend

open Checked

/-! ### What is loaded -/

/-- `nvinfer1::OptProfileSelector`. -/
inductive OptProfileSelector
  | min | opt | max
  deriving DecidableEq

/-- The outcomes of the outside calls made for the shape inputs of one buffer set, by profile index
and binding. -/
structure ShapeLoadCalls where
  setInputTensorAddress : ℤ → ℕ → Bool := fun _ _ => true
  /-- The bytes TensorRT reports for a tensor that is not linear. -/
  vectorizedByteSize : ℤ → ℕ → ℤ := fun _ _ => 0

/-- A loader for an engine with shape tensors.  The values of a shape tensor in a profile are
`int32_t`, and no minimum is above the maximum; tensor names are unique in an engine, and a context
has an entry for every tensor. -/
structure ShapeLoader extends Loader where
  /-- `engine_->getProfileTensorValues`, by profile index and binding. -/
  profileTensorValues : OptProfileSelector → ℤ → ℕ → List ℤ
  /-- `engine_->getTensorLocation(name) == kHOST`. -/
  isHost : ℕ → Bool := fun _ => true
  shapeCalls : ℕ → ShapeLoadCalls := fun _ => {}
  values_int : ∀ selector profileIdx io, ∀ v ∈ profileTensorValues selector profileIdx io,
    toInt32 v = v
  values_ordered : ∀ profileIdx io i, (profileTensorValues .min profileIdx io).getD i 0 ≤
    (profileTensorValues .max profileIdx io).getD i 0
  names_nodup : (tensors.map fun t => t.name).Nodup
  shapes_length : ∀ ctx ∈ trtContexts, ctx.shapes.length = tensors.length

/-- One call of `InitializeShapeInputBinding` with the buffer set it is made for. -/
structure ShapeInputCall where
  set : ℕ
  inputName : String
  inputDatatype : DataType
  modelConfigDims : List ℤ

/-- A shape tensor that is an input. -/
def EngineTensor.isShapeInput (t : EngineTensor) : Bool := t.isInput && t.isShapeInferenceIo

/-! ### One shape input -/

/-- `nb_shape_values_` as one shape input sets it: 1 for a tensor without dims, else its first
maximum dim. -/
def shapeCount (maxDims : Dims) : ℕ := if maxDims.nbDims = 0 then 1 else toSizeT (maxDims.dim 0)

/-- `ShapeTensor()` with the values of a profile set. -/
def profileShapeTensor (shapeValues : List ℤ) (datatype : DataType) (nbShapeValues : ℕ) :
    ShapeTensor :=
  (({} : ShapeTensor).setDataFromShapeValues shapeValues datatype nbShapeValues).2

section Binding

variable (lib : BackendCommon) (loader : ShapeLoader) (set : ℕ)

/-- The shape values of a binding in one profile. -/
def profileShapes (profileIdx : ℤ) (io : ℕ) (datatype : DataType) (nbShapeValues : ℕ) :
    ProfileShapes where
  minShapes :=
    profileShapeTensor (loader.profileTensorValues .min profileIdx io) datatype nbShapeValues
  maxShapes :=
    profileShapeTensor (loader.profileTensorValues .max profileIdx io) datatype nbShapeValues
  optShapes :=
    profileShapeTensor (loader.profileTensorValues .opt profileIdx io) datatype nbShapeValues

/-- The stores of `InitializeShapeInputBinding` into the context. -/
def TensorRTContext.setShapes (ctx : TensorRTContext) (io : ℕ) (nbShapeValues : ℕ)
    (shapes : ProfileShapes) : TensorRTContext :=
  { ctx with nbShapeValues := nbShapeValues, shapes := ctx.shapes.set io shapes }

/-- The bytes of a shape input on the host; on the device it needs no buffer. -/
def shapeByteSize (io : ℕ) (t : BoundTensor) (format : TensorFormat) (ctx : TensorRTContext) :
    Result ℤ :=
  if loader.isHost io = false then .ok 0
  else if format.isLinearFormat then
    match (loader.calls set).byteSizeError ctx.profileIdx io with
    | some err => .error (.returned err)
    | none => .ok (lib.byteSize t.dataType (dimsToDimVec (ctx.maxDims io)))
  else .ok ((loader.shapeCalls set).vectorizedByteSize ctx.profileIdx io)

/-- One iteration of the loop over the contexts, from the shape of the engine on. -/
def configureShapeContext (io : ℕ) (t : BoundTensor) (inputDatatype : DataType)
    (modelConfigDims : List ℤ) (format : TensorFormat) (ctx : TensorRTContext) :
    Result (TensorRTContext × ℤ) := do
  let ctx := ctx.markDynamic io t.shape
  match compareShapeDimsSupported loader.name t.name t.shape modelConfigDims
    loader.supportBatching with
  | some err => .error (.returned err)
  | none =>
      failIf ((loader.calls set).setInputShape ctx.profileIdx io (ctx.maxDims io) = false)
        (.returned ⟨.internal, "trt failed to set binding dimension to " ++
          dimsDebugString (ctx.maxDims io) ++ " for input '" ++ t.name ++ "' for " ++ loader.name⟩)
      let nbShapeValues := shapeCount (ctx.maxDims io)
      let ctx := ctx.setShapes io nbShapeValues
        (profileShapes loader ctx.profileIdx io inputDatatype nbShapeValues)
      failIf ((loader.shapeCalls set).setInputTensorAddress ctx.profileIdx io = false)
        (.returned ⟨.internal, "trt failed to set the input shape binding for '" ++ t.name ++
          "' for " ++ loader.name⟩)
      let byteSize ← shapeByteSize lib loader set io t format ctx
      pure (ctx, byteSize)

/-- The allocation of the buffer; without bytes there is none. -/
def allocateShapeInput (io : ℕ) (inputName : String) (maxByteSize : ℤ) (slot : BindingSlot) :
    Result BindingSlot :=
  if maxByteSize = 0 then .ok slot
  else do
    failIfCuda ((loader.calls set).cudaMalloc io)
      ("unable to allocate memory for input '" ++ inputName ++ "' for " ++ loader.name ++ ": ")
    pure
      { info := { slot.info with byteSize := toSizeT maxByteSize, memoryType := .cpuPinned }
        allocated := true }

/-- `InitializeShapeInputBinding` for a shape input, behind its first checks.  Up to the format the
loop over the contexts does not look at the context. -/
def bindShapeInput (io : ℕ) (t : BoundTensor) (inputDatatype : DataType) (modelConfigDims : List ℤ)
    (s : LoadState) : Result LoadState := do
  let slot := s.slot set io
  failIf (inputDatatype ≠ .int32 ∧ inputDatatype ≠ .int64) (.returned ⟨.invalidArg,
    "unexpected datatype TYPE_" ++ inputDatatype.string ++
      " in model configuration for shape input '" ++ t.name ++
      "', expecting TYPE_INT32 or TYPE_INT64 for " ++ loader.name⟩)
  failIf (t.dataType = .invalid ∨ t.dataType ≠ inputDatatype) (.returned ⟨.invalidArg,
    "unexpected datatype TYPE_" ++ t.dataType.string ++ " in engine for shape input '" ++ t.name ++
      "', expecting TYPE_" ++ inputDatatype.string ++ " for " ++ loader.name⟩)
  let format ← setFormat loader.toLoader t slot.info.format
  let configured ← s.trtContexts.mapM
    (configureShapeContext lib loader set io t inputDatatype modelConfigDims format)
  let slot ← allocateShapeInput loader set io t.name ((configured.map Prod.snd).foldl max 0)
    { slot with info := { slot.info with format := format } }
  pure ({ s with trtContexts := configured.map Prod.fst }.setSlot set io slot)

/-- `InitializeShapeInputBinding`. -/
def initializeShapeInputBinding (inputName : String) (inputDatatype : DataType)
    (modelConfigDims : List ℤ) (s : LoadState) : Result LoadState :=
  match loader.ioIndex? inputName with
  | none => .error (.returned ⟨.notFound, "input '" ++ inputName ++ "' not found for " ++
      loader.name⟩)
  | some (t, io) =>
    if (s.slot set io).allocated then .error (alreadyAppeared loader.toLoader inputName)
    else if t.isInput = false then .error (notAnInput loader.toLoader inputName)
    else if t.isShapeInferenceIo = false then .ok s
    else bindShapeInput lib loader set io t inputDatatype modelConfigDims s

end Binding

/-- A run of `InitializeShapeInputBinding` over the given calls. -/
def initializeShapeInputs (lib : BackendCommon) (loader : ShapeLoader)
    (calls : List ShapeInputCall) : Result LoadState :=
  calls.foldlM (fun s call => initializeShapeInputBinding lib loader call.set call.inputName
    call.inputDatatype call.modelConfigDims s) loader.start

/-! ### The values of a profile -/

section Values

variable {datatype : DataType} {dt : ShapeTensorDataType} {shapeValues : List ℤ}

/-- The two data types of a shape input. -/
theorem shapeTensorDataType_of_int (h : ¬ (datatype ≠ .int32 ∧ datatype ≠ .int64)) :
    ∃ dt, shapeTensorDataType datatype = some dt := by
  rw [← not_or, not_not] at h
  rcases h with rfl | rfl
  · exact ⟨.int32, rfl⟩
  · exact ⟨.int64, rfl⟩

/-- An `int` is a value of either type. -/
theorem ShapeTensorDataType.holds_of_int (dt : ShapeTensorDataType) {v : ℤ} (h : toInt32 v = v) :
    dt.Holds v := by
  obtain ⟨hlow, hhigh⟩ := toInt32_eq_self_iff.mp h
  cases dt with
  | int32 => exact h
  | int64 =>
      rw [holds_iff]
      simp only [ShapeTensorDataType.byteSize]
      omega

theorem getD_int (h : ∀ v ∈ shapeValues, toInt32 v = v) (i : ℕ) :
    toInt32 (shapeValues.getD i 0) = shapeValues.getD i 0 := by
  by_cases hi : i < shapeValues.length
  · rw [List.getD_eq_getElem shapeValues 0 hi]
    exact h _ (List.getElem_mem hi)
  · rw [List.getD_eq_default shapeValues 0 (not_lt.mp hi)]
    rfl

/-- The values of a profile are stored as they are. -/
theorem profileShapeTensor_spec (nbShapeValues : ℕ) (hdt : shapeTensorDataType datatype = some dt)
    (hint : ∀ v ∈ shapeValues, toInt32 v = v) :
    (profileShapeTensor shapeValues datatype nbShapeValues).nbShapeValues = nbShapeValues ∧
      (profileShapeTensor shapeValues datatype nbShapeValues).datatype = dt ∧
      ∀ i < nbShapeValues,
        readValue dt (profileShapeTensor shapeValues datatype nbShapeValues).data i =
          shapeValues.getD i 0 := by
  simp only [profileShapeTensor, ShapeTensor.setDataFromShapeValues, hdt, true_and]
  intro i hi
  have hlength : i < ((List.range nbShapeValues).map fun i => shapeValues.getD i 0).length := by
    simp [hi]
  rw [readValue_flatMap hlength, List.getElem_map, List.getElem_range]
  exact dt.holds_of_int (getD_int hint i)

/-- What `ValidateShapeValues` accepts. -/
theorem validateShapeValues_eq_none_iff {request min max : ShapeTensor} {nbShapeValues : ℕ} :
    validateShapeValues request min max nbShapeValues = none ↔
      request.nbShapeValues = nbShapeValues ∧ request.datatype = min.datatype ∧
        request.datatype = max.datatype ∧ ∀ i < nbShapeValues,
          readValue request.datatype min.data i ≤ readValue request.datatype request.data i ∧
            readValue request.datatype request.data i ≤ readValue request.datatype max.data i := by
  rw [validateShapeValues, check_eq_none_iff, check_eq_none_iff, not_not, not_or, not_not, not_not,
    and_assoc]
  simp only [checkShapeTensorInRange, List.findSome?_eq_none_iff, List.mem_range,
    rangeCheck_eq_none_iff]

end Values

/-! ### One context -/

/-- The binding of the shape input a call is about. -/
def shapeInputIndex? (loader : ShapeLoader) (call : ShapeInputCall) : Option ℕ :=
  (loader.ioIndex? call.inputName).bind fun x => if x.1.isShapeInput then some x.2 else none

/-- What the calls leave in the context that was `ctx₀`, with the bindings of the shape inputs they
were about, the last one first: each has its values, and the number is that of the last one. -/
structure ShapesLoaded (loader : ShapeLoader) (bound : List ℕ) (ctx₀ ctx : TensorRTContext) :
    Prop where
  profileIdx : ctx.profileIdx = ctx₀.profileIdx
  maxDims : ∀ io, ctx.maxDims io = ctx₀.maxDims io
  shapes_length : ctx.shapes.length = loader.tensors.length
  datatype : ∀ io ∈ bound, ∀ t, loader.tensors[io]? = some t →
    ∃ dt, shapeTensorDataType t.dataType = some dt
  shapes : ∀ io ∈ bound, ∀ t, loader.tensors[io]? = some t → ctx.shapes.getD io default =
    profileShapes loader ctx₀.profileIdx io t.dataType (shapeCount (ctx₀.maxDims io))
  nbShapeValues : ∀ io, bound.head? = some io → ctx.nbShapeValues = shapeCount (ctx₀.maxDims io)

section Context

variable {lib : BackendCommon} {loader : ShapeLoader} {set io : ℕ} {t : BoundTensor}
  {bound : List ℕ} {ctx₀ ctx ctx' : TensorRTContext}

/-- What a successful call does to a context. -/
theorem configureShapeContext_eq_ok {inputDatatype : DataType} {modelConfigDims : List ℤ}
    {format : TensorFormat} {byteSize : ℤ}
    (h : configureShapeContext lib loader set io t inputDatatype modelConfigDims format ctx =
      .ok (ctx', byteSize)) :
    ctx' = (ctx.markDynamic io t.shape).setShapes io (shapeCount (ctx.maxDims io))
      (profileShapes loader ctx.profileIdx io inputDatatype (shapeCount (ctx.maxDims io))) := by
  unfold configureShapeContext at h
  simp only at h
  split at h
  · cases h
  · obtain ⟨-, -, h⟩ := bind_eq_ok.mp h
    obtain ⟨-, -, h⟩ := bind_eq_ok.mp h
    obtain ⟨size, -, h⟩ := bind_eq_ok.mp h
    obtain ⟨rfl, rfl⟩ := Prod.mk.inj (pure_eq_ok.mp h)
    rw [markDynamic_maxDims, markDynamic_profileIdx]

/-- The mark of a dynamic binding is none of the data of the shape inputs. -/
theorem ShapesLoaded.markDynamic (h : ShapesLoaded loader bound ctx₀ ctx) (io : ℕ)
    (engineDims : Dims) : ShapesLoaded loader bound ctx₀ (ctx.markDynamic io engineDims) := by
  unfold TensorRTContext.markDynamic
  split
  · exact ⟨h.profileIdx, h.maxDims, h.shapes_length, h.datatype, h.shapes, h.nbShapeValues⟩
  · exact h

/-- The values of one more shape input are stored, and their number replaces the one that was
there. -/
theorem ShapesLoaded.setShapes (h : ShapesLoaded loader bound ctx₀ ctx)
    (ht : loader.tensors[io]? = some t) (hdt : ∃ dt, shapeTensorDataType t.dataType = some dt) :
    ShapesLoaded loader (io :: bound) ctx₀
      (ctx.setShapes io (shapeCount (ctx₀.maxDims io))
        (profileShapes loader ctx₀.profileIdx io t.dataType (shapeCount (ctx₀.maxDims io)))) := by
  have hlt : io < ctx.shapes.length := by
    rw [h.shapes_length]
    exact (List.getElem?_eq_some_iff.mp ht).1
  constructor
  · exact h.profileIdx
  · exact h.maxDims
  · show (ctx.shapes.set io _).length = _
    rw [List.length_set, h.shapes_length]
  · intro io' hio' t' ht'
    rcases List.mem_cons.mp hio' with rfl | hold
    · rw [ht] at ht'
      exact Option.some.inj ht' ▸ hdt
    · exact h.datatype io' hold t' ht'
  · intro io' hio' t' ht'
    show (ctx.shapes.set io _).getD io' default = _
    rw [List.getD_eq_getElem?_getD]
    by_cases hio : io = io'
    · subst hio
      rw [ht] at ht'
      obtain rfl := Option.some.inj ht'
      rw [List.getElem?_set_self hlt, Option.getD_some]
    · rw [List.getElem?_set_ne hio, ← List.getD_eq_getElem?_getD]
      exact h.shapes io' ((List.mem_cons.mp hio').resolve_left (Ne.symm hio)) t' ht'
  · intro io' hio'
    obtain rfl := Option.some.inj hio'
    rfl

/-- **The step lemma**: a call adds its binding to those that are loaded. -/
theorem configureShapeContext_loaded {modelConfigDims : List ℤ} {format : TensorFormat} {byteSize : ℤ}
    (ht : loader.tensors[io]? = some t) (hdt : ∃ dt, shapeTensorDataType t.dataType = some dt)
    (hctx : ShapesLoaded loader bound ctx₀ ctx)
    (h : configureShapeContext lib loader set io t t.dataType modelConfigDims format ctx =
      .ok (ctx', byteSize)) : ShapesLoaded loader (io :: bound) ctx₀ ctx' := by
  rw [configureShapeContext_eq_ok h, hctx.maxDims, hctx.profileIdx]
  exact (hctx.markDynamic io t.shape).setShapes ht hdt

end Context

/-! ### A run -/

section Run

variable {lib : BackendCommon} {loader : ShapeLoader} {set io : ℕ} {t : BoundTensor}
  {s s' : LoadState} {bound : List ℕ}

/-- The contexts hold what the calls about the bindings `bound` leave in them. -/
def ContextsLoaded (loader : ShapeLoader) (bound : List ℕ) (s : LoadState) : Prop :=
  List.Forall₂ (ShapesLoaded loader bound) loader.trtContexts s.trtContexts

/-- A shape input is initialized in every context. -/
theorem bindShapeInput_loaded {inputDatatype : DataType} {modelConfigDims : List ℤ}
    (ht : loader.tensors[io]? = some t) (hs : ContextsLoaded loader bound s)
    (h : bindShapeInput lib loader set io t inputDatatype modelConfigDims s = .ok s') :
    ContextsLoaded loader (io :: bound) s' := by
  obtain ⟨_, hshape, h⟩ := bind_eq_ok.mp h
  obtain ⟨_, hmatch, h⟩ := bind_eq_ok.mp h
  obtain ⟨format, -, h⟩ := bind_eq_ok.mp h
  obtain ⟨configured, hconfigured, h⟩ := bind_eq_ok.mp h
  obtain ⟨slot, -, h⟩ := bind_eq_ok.mp h
  obtain rfl := pure_eq_ok.mp h
  obtain ⟨-, htype⟩ := not_or.mp (failIf_eq_ok.mp hmatch)
  rw [← not_not.mp htype] at hconfigured hshape
  show List.Forall₂ _ loader.trtContexts (configured.map Prod.fst)
  rw [List.forall₂_map_right_iff]
  refine Related.comp hs (mapM_eq_ok.mp hconfigured) fun ctx₀ ctx x hctx hx => ?_
  exact configureShapeContext_loaded ht (shapeTensorDataType_of_int (failIf_eq_ok.mp hshape)) hctx hx

/-- One call: a shape input becomes the last one initialized. -/
theorem initializeShapeInputBinding_loaded {call : ShapeInputCall} {calls : List ShapeInputCall}
    (hs : ContextsLoaded loader (calls.filterMap (shapeInputIndex? loader)) s)
    (h : initializeShapeInputBinding lib loader call.set call.inputName call.inputDatatype
      call.modelConfigDims s = .ok s') :
    ContextsLoaded loader ((call :: calls).filterMap (shapeInputIndex? loader)) s' := by
  unfold initializeShapeInputBinding at h
  split at h
  · cases h
  · rename_i t io hindex
    split at h
    · cases h
    · split at h
      · cases h
      · rename_i hin
        rw [Bool.not_eq_false] at hin
        split at h
        · rename_i hshape
          have hnone : shapeInputIndex? loader call = none := by
            simp [shapeInputIndex?, hindex, EngineTensor.isShapeInput, hshape]
          rw [List.filterMap_cons_none hnone, ← Except.ok.inj h]
          exact hs
        · rename_i hshape
          rw [Bool.not_eq_false] at hshape
          have hsome : shapeInputIndex? loader call = some io := by
            simp [shapeInputIndex?, hindex, EngineTensor.isShapeInput, hin, hshape]
          rw [List.filterMap_cons_some hsome]
          exact bindShapeInput_loaded (getElem?_of_ioIndex? hindex) hs h

/-- Before the first call nothing is required of the contexts. -/
theorem start_loaded (loader : ShapeLoader) : ContextsLoaded loader [] loader.start := by
  refine List.forall₂_same.mpr fun ctx hctx => ?_
  constructor
  · rfl
  · exact fun io => rfl
  · exact loader.shapes_length ctx hctx
  · exact fun io hio => absurd hio List.not_mem_nil
  · exact fun io hio => absurd hio List.not_mem_nil
  · intro io hio
    cases hio

/-- **The run lemma.** -/
theorem initializeShapeInputs_loaded {calls : List ShapeInputCall}
    (h : initializeShapeInputs lib loader calls = .ok s) :
    ContextsLoaded loader (calls.reverse.filterMap (shapeInputIndex? loader)) s := by
  exact foldlM_invariant_done
    (P := fun done s => ContextsLoaded loader (done.filterMap (shapeInputIndex? loader)) s)
    (fun done s call s' hs hstep => initializeShapeInputBinding_loaded hs hstep) h
    (start_loaded loader)

end Run

/-! ### Values in range -/

section Validate

variable (loader : ShapeLoader)

/-- The tensor at `io` is a shape input. -/
def ShapeInputAt (io : ℕ) (t : BoundTensor) : Prop :=
  loader.tensors[io]? = some t ∧ t.isShapeInput = true

/-- The calls go through every shape input of the engine. -/
def CoversShapeInputs (calls : List ShapeInputCall) : Prop :=
  ∀ io t, ShapeInputAt loader io t → ∃ call ∈ calls, call.inputName = t.name

/-- A request has as many values as the input has in the profile, of its data type and each between
the minimum and the maximum of the profile. -/
structure ValuesInRange (ctx : TensorRTContext) (io : ℕ) (t : BoundTensor) (request : ShapeTensor) :
    Prop where
  count : request.nbShapeValues = shapeCount (ctx.maxDims io)
  datatype : shapeTensorDataType t.dataType = some request.datatype
  range : ∀ i < shapeCount (ctx.maxDims io),
    (loader.profileTensorValues .min ctx.profileIdx io).getD i 0 ≤
        readValue request.datatype request.data i ∧
      readValue request.datatype request.data i ≤
        (loader.profileTensorValues .max ctx.profileIdx io).getD i 0

/-- `ValidateShapeValues`, as `Run` and `EvaluateTensorRTContext` call it, accepts the values in
range of every shape input. -/
def ContextAccepts (ctx : TensorRTContext) : Prop :=
  ∀ io t, ShapeInputAt loader io t → ∀ request, ValuesInRange loader ctx io t request →
    validateShapeValues request (ctx.minShapes io) (ctx.maxShapes io) ctx.nbShapeValues = none

/-- All shape inputs have one number of values in the profile. -/
def OneShapeCount (ctx : TensorRTContext) : Prop :=
  ∀ io t io' t', ShapeInputAt loader io t → ShapeInputAt loader io' t' →
    shapeCount (ctx.maxDims io) = shapeCount (ctx.maxDims io')

variable {loader}

theorem ioIndex?_of_getElem? {io : ℕ} {t : BoundTensor} (h : loader.tensors[io]? = some t) :
    loader.ioIndex? t.name = some (t, io) := by
  obtain ⟨hlt, ht⟩ := List.getElem?_eq_some_iff.mp h
  refine List.find?_eq_some_iff_getElem.mpr ⟨beq_self_eq_true t.name, io, ?_, ?_, fun j hj => ?_⟩
  · rw [List.length_zipIdx]
    exact hlt
  · rw [List.getElem_zipIdx, ht, Nat.zero_add]
  · have hjlt : j < loader.tensors.length := hj.trans hlt
    have hname : loader.tensors[j].name ≠ t.name := by
      intro heq
      have hnames : (loader.tensors.map fun t => t.name)[j]? =
          (loader.tensors.map fun t => t.name)[io]? := by
        rw [List.getElem?_map, List.getElem?_map, h, List.getElem?_eq_getElem hjlt]
        exact congrArg some heq
      exact hj.ne ((List.getElem?_inj (by rw [List.length_map]; exact hjlt)
        loader.names_nodup).mp hnames)
    simpa using hname

/-- The shape inputs gone through are those of the engine. -/
theorem mem_bound_iff {calls : List ShapeInputCall} (hcover : CoversShapeInputs loader calls)
    {io : ℕ} :
    io ∈ calls.reverse.filterMap (shapeInputIndex? loader) ↔ ∃ t, ShapeInputAt loader io t := by
  simp only [List.mem_filterMap, List.mem_reverse]
  constructor
  · rintro ⟨call, -, hcall⟩
    obtain ⟨⟨t, io'⟩, hindex, hio⟩ := Option.bind_eq_some_iff.mp hcall
    simp only [Option.ite_none_right_eq_some, Option.some.injEq] at hio
    obtain ⟨hshape, rfl⟩ := hio
    exact ⟨t, getElem?_of_ioIndex? hindex, hshape⟩
  · rintro ⟨t, ht, hshape⟩
    obtain ⟨call, hcall, hname⟩ := hcover io t ⟨ht, hshape⟩
    refine ⟨call, hcall, ?_⟩
    simp [shapeInputIndex?, hname, ioIndex?_of_getElem? ht, hshape]

section Loaded

variable {bound : List ℕ} {ctx₀ ctx : TensorRTContext} {io : ℕ} {t : BoundTensor}

/-- Values in range of a shape input are accepted when their number is the one stored last. -/
theorem validateShapeValues_loaded_iff (hctx : ShapesLoaded loader bound ctx₀ ctx) (hio : io ∈ bound)
    (ht : loader.tensors[io]? = some t) {request : ShapeTensor}
    (hrequest : ValuesInRange loader ctx io t request) :
    validateShapeValues request (ctx.minShapes io) (ctx.maxShapes io) ctx.nbShapeValues = none ↔
      shapeCount (ctx₀.maxDims io) = ctx.nbShapeValues := by
  obtain ⟨hcount, hdt, hrange⟩ := hrequest
  have hmin : ctx.minShapes io = profileShapeTensor (loader.profileTensorValues .min ctx₀.profileIdx
      io) t.dataType (shapeCount (ctx₀.maxDims io)) := by
    rw [TensorRTContext.minShapes, hctx.shapes io hio t ht]
    rfl
  have hmax : ctx.maxShapes io = profileShapeTensor (loader.profileTensorValues .max ctx₀.profileIdx
      io) t.dataType (shapeCount (ctx₀.maxDims io)) := by
    rw [TensorRTContext.maxShapes, hctx.shapes io hio t ht]
    rfl
  rw [hctx.maxDims] at hcount hrange
  rw [hctx.profileIdx] at hrange
  obtain ⟨-, hminType, hminRead⟩ := profileShapeTensor_spec (shapeCount (ctx₀.maxDims io))
    hdt (loader.values_int .min ctx₀.profileIdx io)
  obtain ⟨-, hmaxType, hmaxRead⟩ := profileShapeTensor_spec (shapeCount (ctx₀.maxDims io))
    hdt (loader.values_int .max ctx₀.profileIdx io)
  rw [validateShapeValues_eq_none_iff, hcount, hmin, hmax]
  constructor
  · intro h
    exact h.1
  · intro h
    refine ⟨h, hminType.symm, hmaxType.symm, fun i hi => ?_⟩
    rw [← h] at hi
    rw [hminRead i hi, hmaxRead i hi]
    exact hrange i hi

/-- The maximum values are in range. -/
theorem exists_valuesInRange (ctx : TensorRTContext) (io : ℕ)
    (hdt : ∃ dt, shapeTensorDataType t.dataType = some dt) :
    ∃ request, ValuesInRange loader ctx io t request := by
  obtain ⟨dt, hdt⟩ := hdt
  obtain ⟨hcount, htype, hread⟩ := profileShapeTensor_spec (shapeCount (ctx.maxDims io)) hdt
    (loader.values_int .max ctx.profileIdx io)
  refine ⟨profileShapeTensor (loader.profileTensorValues .max ctx.profileIdx io) t.dataType
    (shapeCount (ctx.maxDims io)), hcount, by rw [htype]; exact hdt, fun i hi => ?_⟩
  rw [htype, hread i hi]
  exact ⟨loader.values_ordered ctx.profileIdx io i, le_refl _⟩

/-- One context accepts the values in range exactly when its shape inputs agree in number. -/
theorem contextAccepts_iff (hctx : ShapesLoaded loader bound ctx₀ ctx)
    (hbound : ∀ io, io ∈ bound ↔ ∃ t, ShapeInputAt loader io t) :
    OneShapeCount loader ctx₀ ↔ ContextAccepts loader ctx := by
  constructor
  · intro hone io t ht request hrequest
    have hio := (hbound io).mpr ⟨t, ht⟩
    rw [validateShapeValues_loaded_iff hctx hio ht.1 hrequest]
    obtain ⟨last, rest, hlast⟩ := List.exists_cons_of_ne_nil (List.ne_nil_of_mem hio)
    obtain ⟨tLast, htLast⟩ := (hbound last).mp (hlast ▸ List.mem_cons_self)
    rw [hctx.nbShapeValues last (by rw [hlast]; rfl)]
    exact hone io t last tLast ht htLast
  · intro haccepts
    have hcount : ∀ io t, ShapeInputAt loader io t →
        shapeCount (ctx₀.maxDims io) = ctx.nbShapeValues := by
      intro io t ht
      have hio := (hbound io).mpr ⟨t, ht⟩
      obtain ⟨request, hrequest⟩ : ∃ request, ValuesInRange loader ctx io t request :=
        exists_valuesInRange ctx io (hctx.datatype io hio t ht.1)
      exact (validateShapeValues_loaded_iff hctx hio ht.1 hrequest).mp
        (haccepts io t ht request hrequest)
    intro io t io' t' ht ht'
    rw [hcount io t ht, hcount io' t' ht']

end Loaded

/-- **When the values in range are accepted**: the number of values is stored once for a context, so
that in each profile all shape inputs must have the same number of them. -/
theorem shapeInputs_validate_iff {lib : BackendCommon} {calls : List ShapeInputCall} {s : LoadState}
    (hcover : CoversShapeInputs loader calls) (h : initializeShapeInputs lib loader calls = .ok s) :
    (∀ ctx ∈ s.trtContexts, ContextAccepts loader ctx) ↔
      ∀ ctx ∈ loader.trtContexts, OneShapeCount loader ctx := by
  have hloaded := initializeShapeInputs_loaded h
  refine (Related.forall_iff hloaded fun ctx₀ ctx hctx => ?_).symm
  exact contextAccepts_iff hctx fun io => mem_bound_iff hcover

end Validate

/-! ### Two shape inputs -/

/-- The dims of `n` values. -/
def valueDims (n : ℕ) : Dims := vectorDims n

theorem valueDims_nonneg (n i : ℕ) : 0 ≤ (valueDims n).dim i := by
  refine Dims.forall_dim (le_refl 0) (fun x hx => ?_) i
  rcases List.mem_append.mp hx with hx | hx
  · rw [List.mem_singleton.mp hx]
    exact Int.natCast_nonneg n
  · rw [List.eq_of_mem_replicate hx]

/-- The profile dims of `n` values. -/
def valueProfile (n : ℕ) : ProfileDims where
  minDims := valueDims n
  maxDims := valueDims n
  optDims := valueDims n
  min_rank := rfl
  opt_rank := rfl
  min_nonneg := valueDims_nonneg n

/-- The value every shape input has in a profile. -/
def selectedValue : OptProfileSelector → ℤ
  | .min => 1
  | .opt => 4
  | .max => 8

/-- The number of values of the two shape inputs. -/
def pairCount (n io : ℕ) : ℕ := if io = 0 then 2 else n

/-- The context of two shape inputs of two and `n` values. -/
def shapePairContext (n : ℕ) : TensorRTContext where
  dims := [valueProfile 2, valueProfile n]
  shapes := [default, default]
  isDynamicPerBinding := [false, false]

/-- A loader for a model with these two inputs. -/
def shapePairLoader (n : ℕ) : ShapeLoader where
  name := "pair"
  config := {}
  tensors := [{ name := "first", isInput := true, isShapeInferenceIo := true, dataType := .int64,
                shape := valueDims 2, components_pos := linear_components_pos },
              { name := "second", isInput := true, isShapeInferenceIo := true, dataType := .int64,
                shape := valueDims n, components_pos := linear_components_pos }]
  trtContexts := [shapePairContext n]
  configDataType := fun _ => .int64
  contexts_ne := List.cons_ne_nil _ _
  profileTensorValues := fun selector _ io =>
    List.replicate (pairCount n io) (selectedValue selector)
  values_int := by
    intro selector _ io v hv
    rw [List.eq_of_mem_replicate hv]
    cases selector <;> rfl
  values_ordered := by
    intro _ io i
    simp only [List.getD_eq_getElem?_getD, List.getElem?_replicate]
    split <;> decide
  names_nodup := by simp
  shapes_length := by
    intro ctx hctx
    rw [List.mem_singleton.mp hctx]
    rfl

/-- One call for each of them. -/
def shapePairCalls (n : ℕ) : List ShapeInputCall :=
  [{ set := 0, inputName := "first", inputDatatype := .int64, modelConfigDims := [2] },
   { set := 0, inputName := "second", inputDatatype := .int64, modelConfigDims := [(n : ℤ)] }]

theorem shapePairCalls_cover (n : ℕ) : CoversShapeInputs (shapePairLoader n) (shapePairCalls n) := by
  intro io t ht
  match io with
  | 0 =>
      obtain rfl := Option.some.inj ht.1
      exact ⟨_, List.mem_cons_self, rfl⟩
  | 1 =>
      obtain rfl := Option.some.inj ht.1
      exact ⟨_, List.mem_cons_of_mem _ List.mem_cons_self, rfl⟩
  | io + 2 => cases ht.1

/-- The context after the load. -/
def shapePairLoaded (n : ℕ) : TensorRTContext :=
  ((shapePairContext n).setShapes 0 2 (profileShapes (shapePairLoader n) 0 0 .int64 2)).setShapes 1 n
    (profileShapes (shapePairLoader n) 0 1 .int64 n)

/-- The instance after the load, with a buffer of eight bytes for each value. -/
def shapePairState (n : ℕ) : LoadState where
  trtContexts := [shapePairLoaded n]
  ioBindingInfos :=
    [[{ info := { byteSize := 16, memoryType := .cpuPinned }, allocated := true },
      { info := { byteSize := 8 * n, memoryType := .cpuPinned }, allocated := true }]]

theorem shapePair_loads : initializeShapeInputs BackendCommon.plain (shapePairLoader 2)
    (shapePairCalls 2) = .ok (shapePairState 2) := by rfl

/-- The theorem for two inputs of two values. -/
theorem shapeInputs_validate_iff_pair :
    (∀ ctx ∈ (shapePairState 2).trtContexts, ContextAccepts (shapePairLoader 2) ctx) ↔
      ∀ ctx ∈ (shapePairLoader 2).trtContexts, OneShapeCount (shapePairLoader 2) ctx :=
  shapeInputs_validate_iff (shapePairCalls_cover 2) shapePair_loads

/-- The values of a request for an input of `n` values. -/
def fours (n : ℕ) : ShapeTensor := profileShapeTensor (List.replicate n 4) .int64 n

/-- **The slip**: behind an input of three values, the two values of the first input are refused for
their number. -/
theorem shapeInputs_refuse_first :
    CoversShapeInputs (shapePairLoader 3) (shapePairCalls 3) ∧
      initializeShapeInputs BackendCommon.plain (shapePairLoader 3) (shapePairCalls 3) =
        .ok (shapePairState 3) ∧
      ¬ ∀ ctx ∈ (shapePairState 3).trtContexts, ContextAccepts (shapePairLoader 3) ctx := by
  refine ⟨shapePairCalls_cover 3, by rfl, fun h => ?_⟩
  have hrange : ∀ i < 2, (1 : ℤ) ≤ readValue .int64 (fours 2).data i ∧
      readValue .int64 (fours 2).data i ≤ 8 := by decide
  have hrequest : ValuesInRange (shapePairLoader 3) (shapePairLoaded 3) 0
      ((shapePairLoader 3).tensors.head (List.cons_ne_nil _ _)) (fours 2) := by
    refine ⟨by decide, rfl, fun i hi => ?_⟩
    match i, hi with
    | 0, _ => exact hrange 0 (by decide)
    | 1, _ => exact hrange 1 (by decide)
  have haccepted := h (shapePairLoaded 3) List.mem_cons_self 0 _ ⟨rfl, rfl⟩ (fours 2) hrequest
  obtain ⟨hcount, -⟩ := validateShapeValues_eq_none_iff.mp haccepted
  exact absurd hcount (by decide)

end TensorrtBackend

import TensorrtBackend.CompletedTwice
import TensorrtBackend.IoSound

/-!
# Validating a completed configuration

The model completes its configuration from the plan, and every instance validates the completed
configuration against an engine deserialized from the same file.

* `validateIo_eq_ok_iff`: what `ValidateIO` accepts.
* `completed_validates_iff`: of a completed configuration it only depends on the names, the number of
  inputs and the data types.
-/

namespace TensorrtBackend

open Checked

/-! ### One file, read twice -/

/-- `ConvertTrtTypeToDataType`. -/
def convertTrtTypeToDataType : TrtDataType → DataType
  | .float => .fp32
  | .half => .fp16
  | .int8 => .int8
  | .uint8 => .uint8
  | .bf16 => .bf16
  | .int32 => .int32
  | .int64 => .int64
  | .bool => .bool
  | _ => .invalid

/-- `ModelConfigDataTypeToTritonServerDataType`. -/
def modelConfigDataTypeToTritonServerDataType : String → DataType
  | "TYPE_BOOL" => .bool
  | "TYPE_UINT8" => .uint8
  | "TYPE_UINT16" => .uint16
  | "TYPE_UINT32" => .uint32
  | "TYPE_UINT64" => .uint64
  | "TYPE_INT8" => .int8
  | "TYPE_INT16" => .int16
  | "TYPE_INT32" => .int32
  | "TYPE_INT64" => .int64
  | "TYPE_FP16" => .fp16
  | "TYPE_FP32" => .fp32
  | "TYPE_FP64" => .fp64
  | "TYPE_STRING" => .bytes
  | "TYPE_BF16" => .bf16
  | _ => .invalid

/-- A tensor as the model and as an instance read it. -/
structure SameTensor (p : PlanTensor) (t : BoundTensor) : Prop where
  name : t.name = p.name
  isInput : t.isInput = p.isInput
  isShapeInferenceIo : t.isShapeInferenceIo = p.isShapeInferenceIo
  isLinearFormat : t.format.isLinearFormat = p.isLinearFormat
  shape : t.shape = p.shape
  dataType : t.dataType = convertTrtTypeToDataType p.dataType

/-- The engine is the one of the plan, and `ModelConfigDataTypeToTritonServerDataType` knows the
data types that completing writes. -/
structure IoLoader.EngineOf (loader : IoLoader) (plan : Plan) : Prop where
  tensors : List.Forall₂ SameTensor plan.tensors loader.tensors
  dataTypes : ∀ dataType, loader.configDataType (convertTrtTypeToConfigDataType dataType) =
    convertTrtTypeToDataType dataType

section Engine

variable {plan : Plan} {loader : IoLoader} {isInput : Bool} {name : String} {io : ConfigIo}

theorem IoLoader.EngineOf.tensor_of_mem (h : loader.EngineOf plan) {p : PlanTensor}
    (hp : p ∈ plan.tensors) : SameTensor p (loader.tensor p.name) := by
  obtain ⟨t, ht, hsame⟩ := Related.exists_right h.tensors hp
  rw [← hsame.name, TensorrtBackend.tensor_of_mem ht]
  exact hsame

/-- The names an instance allows are those of the plan. -/
theorem IoLoader.EngineOf.allowedIos (h : loader.EngineOf plan) (isInput : Bool) :
    loader.allowedIos isInput = (plan.ios isInput).map PlanTensor.name := by
  have hnames : ∀ {ps : List PlanTensor} {ts : List BoundTensor}, List.Forall₂ SameTensor ps ts →
      (ts.filter fun t => t.isInput == isInput).map (fun t => t.name) =
        (ps.filter fun p => p.isInput == isInput).map PlanTensor.name := by
    intro ps ts hsame
    induction hsame with
    | nil => rfl
    | @cons p t _ _ hpt _ ih =>
        rw [List.filter_cons, List.filter_cons, hpt.isInput]
        cases p.isInput == isInput with
        | false => exact ih
        | true =>
            rw [if_pos rfl, if_pos rfl, List.map_cons, List.map_cons, hpt.name, ih]
  exact hnames h.tensors

/-! ### What is validated -/

/-- The members of an entry say of its tensor what the engine says. -/
structure IoLoader.Validates (loader : IoLoader) (io : ConfigIo) : Prop where
  dataType : ∃ dataType, io.dataType = some dataType ∧
    convertDataTypeToTrtType (loader.configDataType dataType) ≠ none
  isShapeTensor : io.isShapeTensor = some (loader.tensor io.name).isShapeInferenceIo
  isNonLinearFormatIo :
    io.isNonLinearFormatIo = some !(loader.tensor io.name).format.isLinearFormat

theorem requireMember_eq_ok_iff {α : Type} {member : String} {value : Option α} {a : α} :
    requireMember member value = .ok a ↔ value = some a := by
  constructor
  · exact requireMember_eq_ok
  · rintro rfl
    rfl

/-- A flag of an entry must be the one that was detected, before the check goes on. -/
theorem checkFlag_bind_eq_ok {flag detected : Bool} {missing wrong : Failure}
    {rest : Unit → Result Unit} :
    (if detected then failIf (flag = false) missing >>= rest
      else failIf (flag = true) wrong >>= rest) = .ok () ↔ flag = detected ∧ rest () = .ok () := by
  cases detected with
  | false =>
      rw [if_neg Bool.false_ne_true, bind_eq_ok, ← Bool.not_eq_true]
      exact ⟨fun ⟨_, hflag, h⟩ => ⟨failIf_eq_ok.mp hflag, h⟩,
        fun ⟨hflag, h⟩ => ⟨(), failIf_eq_ok.mpr hflag, h⟩⟩
  | true =>
      rw [if_pos rfl, bind_eq_ok, ← Bool.not_eq_false]
      exact ⟨fun ⟨_, hflag, h⟩ => ⟨failIf_eq_ok.mp hflag, h⟩,
        fun ⟨hflag, h⟩ => ⟨(), failIf_eq_ok.mpr hflag, h⟩⟩

/-- The same for a flag that is set for what was not detected, where the check ends. -/
theorem checkFlag_not_eq_ok {flag detected : Bool} {missing wrong : Failure} :
    (if detected then failIf (flag = true) wrong else failIf (flag = false) missing) = .ok () ↔
      flag = !detected := by
  cases detected with
  | false =>
      rw [if_neg Bool.false_ne_true, failIf_eq_ok, Bool.not_eq_false]
      rfl
  | true =>
      rw [if_pos rfl, failIf_eq_ok, Bool.not_eq_true]
      rfl

theorem validateIoEntry_eq_ok_iff :
    loader.validateIoEntry isInput io = .ok () ↔ loader.Validates io := by
  unfold IoLoader.validateIoEntry
  constructor
  · intro h
    obtain ⟨dataType, hdataType, h⟩ := bind_eq_ok.mp h
    obtain ⟨_, hconvert, h⟩ := bind_eq_ok.mp h
    obtain ⟨isShapeTensor, hshape, h⟩ := bind_eq_ok.mp h
    obtain ⟨hshape', h⟩ := checkFlag_bind_eq_ok.mp h
    obtain ⟨isNonLinearFormatIo, hformat, hformat'⟩ := bind_eq_ok.mp h
    constructor
    · exact ⟨dataType, requireMember_eq_ok hdataType, failIf_eq_ok.mp hconvert⟩
    · rw [requireMember_eq_ok hshape, hshape']
    · rw [requireMember_eq_ok hformat, checkFlag_not_eq_ok.mp hformat']
  · intro h
    obtain ⟨dataType, hdataType, hconvert⟩ := h.dataType
    refine bind_eq_ok.mpr ⟨dataType, requireMember_eq_ok_iff.mpr hdataType, ?_⟩
    refine bind_eq_ok.mpr ⟨(), failIf_eq_ok.mpr hconvert, ?_⟩
    refine bind_eq_ok.mpr ⟨_, requireMember_eq_ok_iff.mpr h.isShapeTensor, ?_⟩
    refine checkFlag_bind_eq_ok.mpr ⟨rfl, ?_⟩
    refine bind_eq_ok.mpr ⟨_, requireMember_eq_ok_iff.mpr h.isNonLinearFormatIo, ?_⟩
    exact checkFlag_not_eq_ok.mpr rfl

theorem ModelConfig.ioEntries_eq_ok_iff {config : ModelConfig} {ios : List ConfigIo} :
    config.ioEntries isInput = .ok ios ↔
      (if isInput then config.input else config.output) = some ios := by
  unfold ModelConfig.ioEntries
  cases (if isInput then config.input else config.output) with
  | none => exact iff_of_false (fun h => Except.noConfusion rfl rfl (heq_of_eq h)) (by simp)
  | some entries => rw [Except.ok.injEq, Option.some.injEq]

/-- **What `ValidateIO` accepts**, of a configuration with both lists of entries. -/
theorem validateIo_eq_ok_iff {inputs outputs : List ConfigIo}
    (hinput : loader.config.input = some inputs) (houtput : loader.config.output = some outputs) :
    loader.validateIo = .ok () ↔ inputs.length ≤ (loader.allowedIos true).length ∧
      ∀ isInput, ∀ io ∈ loader.config.ios isInput,
        io.name ∈ loader.allowedIos isInput ∧ loader.Validates io := by
  have hinputs : loader.config.ioEntries true = .ok inputs :=
    ModelConfig.ioEntries_eq_ok_iff.mpr hinput
  have houtputs : loader.config.ioEntries false = .ok outputs :=
    ModelConfig.ioEntries_eq_ok_iff.mpr houtput
  have hallowed : ∀ (type : String) (ios : List ConfigIo) (allowed : List String),
      (ios.forM fun io => checkAllowedModelIo type io.name allowed) = .ok () ↔
        ∀ io ∈ ios, io.name ∈ allowed := by
    intro type ios allowed
    rw [forM_eq_ok]
    exact forall₂_congr fun io _ => failIf_eq_ok.trans not_not
  have hvalidates : ∀ (isInput : Bool) (ios : List ConfigIo),
      ios.forM (loader.validateIoEntry isInput) = .ok () ↔ ∀ io ∈ ios, loader.Validates io := by
    intro isInput ios
    rw [forM_eq_ok]
    exact forall₂_congr fun io _ => validateIoEntry_eq_ok_iff
  rw [Bool.forall_bool, ← ModelConfig.ioEntries_eq_ok hinputs,
    ← ModelConfig.ioEntries_eq_ok houtputs]
  unfold IoLoader.validateIo
  rw [hinputs, houtputs]
  constructor
  · intro h
    obtain ⟨_, hinputs, h⟩ := bind_eq_ok.mp h
    obtain rfl := Except.ok.inj hinputs
    obtain ⟨_, hcount, h⟩ := bind_eq_ok.mp h
    obtain ⟨⟨⟩, hin, h⟩ := bind_eq_ok.mp h
    obtain ⟨_, houtputs, h⟩ := bind_eq_ok.mp h
    obtain rfl := Except.ok.inj houtputs
    obtain ⟨⟨⟩, hout, h⟩ := bind_eq_ok.mp h
    obtain ⟨⟨⟩, hin', hout'⟩ := bind_eq_ok.mp h
    refine ⟨not_lt.mp (failIf_eq_ok.mp hcount), fun io hio => ?_, fun io hio => ?_⟩
    · exact ⟨(hallowed _ _ _).mp hout io hio, (hvalidates _ _).mp hout' io hio⟩
    · exact ⟨(hallowed _ _ _).mp hin io hio, (hvalidates _ _).mp hin' io hio⟩
  · intro ⟨hcount, hout, hin⟩
    refine bind_eq_ok.mpr ⟨inputs, rfl, ?_⟩
    refine bind_eq_ok.mpr ⟨(), failIf_eq_ok.mpr (not_lt.mpr hcount), ?_⟩
    refine bind_eq_ok.mpr ⟨⟨⟩, (hallowed _ _ _).mpr fun io hio => (hin io hio).1, ?_⟩
    refine bind_eq_ok.mpr ⟨outputs, rfl, ?_⟩
    refine bind_eq_ok.mpr ⟨⟨⟩, (hallowed _ _ _).mpr fun io hio => (hout io hio).1, ?_⟩
    refine bind_eq_ok.mpr ⟨⟨⟩, (hvalidates _ _).mpr fun io hio => (hin io hio).2, ?_⟩
    exact (hvalidates _ _).mpr fun io hio => (hout io hio).2

/-! ### What completing makes of the members -/

theorem fixFlag_eq_ok {flag flag' : Option Bool} {detected : Bool} {message : String}
    (h : fixFlag flag detected message = .ok flag') : flag' = some detected := by
  cases flag with
  | none =>
      cases h
      rfl
  | some val =>
      cases val <;> cases detected <;> cases h <;> rfl

theorem fixDataType_isSome {dataType : Option String} {ref : String} :
    ∃ fixed, fixDataType dataType (some ref) = some fixed := by
  cases dataType with
  | none => exact ⟨ref, rfl⟩
  | some dt =>
      by_cases hunset : dt = "" ∨ dt = "TYPE_INVALID"
      · exact ⟨ref, if_pos hunset⟩
      · exact ⟨dt, if_neg hunset⟩

/-- The flags of a completed entry are those of its tensor, and it has a data type. -/
theorem fixEntry_flags (hplain : plan.Plain) {maxBatchSize : ℕ} {io' : ConfigIo} {p : PlanTensor}
    (hp : p ∈ plan.ios isInput) (hname : io'.name = p.name)
    (h : fixEntry plan (getRefIo plan isInput maxBatchSize) io = .ok io') :
    io'.isShapeTensor = some p.isShapeInferenceIo ∧
      io'.isNonLinearFormatIo = some !p.isLinearFormat ∧
      ∃ dataType, io'.dataType = some dataType := by
  have hname' : io.name = p.name := (name_fixEntry h).1.symm.trans hname
  have href : (getRefIo plan isInput maxBatchSize).find? (fun ref => p.name == ref.name) =
      some (refIo maxBatchSize p) := find?_getRefIo_of_mem hplain hp
  rcases fixEntry_eq_ok.mp h with ⟨hnone, -⟩ | ⟨ref, hfound, hshape, hformat, hio⟩
  · rw [hname', href] at hnone
    cases hnone
  · rw [hname', href] at hfound
    obtain rfl := Option.some.inj hfound
    have htensor : plan.tensor? io.name = some p := by
      rw [hname']
      exact Plan.tensor?_of_mem (Plan.mem_ios.mp hp).1
    refine ⟨?_, ?_, ?_⟩
    · rw [fixFlag_eq_ok hshape, Plan.isShapeInferenceIo, htensor]
      rfl
    · rw [fixFlag_eq_ok hformat, Plan.isNonLinearFormatIo, htensor]
      rfl
    · rw [hio]
      exact fixDataType_isSome

/-- A completed entry of a tensor of the plan is valid if its data type is supported. -/
theorem validates_iff (hplain : plan.Plain) (hengine : loader.EngineOf plan) {maxBatchSize : ℕ}
    {ios ios' : List ConfigIo}
    (hfix : fixIo plan (getRefIo plan isInput maxBatchSize) ios = .ok ios') (hio : io ∈ ios')
    (hname : io.name ∈ (plan.ios isInput).map PlanTensor.name) :
    loader.Validates io ↔ ∀ dataType, io.dataType = some dataType →
      convertDataTypeToTrtType (loader.configDataType dataType) ≠ none := by
  obtain ⟨p, hp, hname⟩ := List.mem_map.mp hname
  rw [fixIo_eq hplain] at hfix
  obtain ⟨io₀, -, hentry⟩ := exists_of_mem_mapM hfix hio
  obtain ⟨hshape, hformat, dataType, hdataType⟩ := fixEntry_flags hplain hp hname.symm hentry
  have hsame := hengine.tensor_of_mem (Plan.mem_ios.mp hp).1
  rw [hname] at hsame
  constructor
  · intro h
    obtain ⟨dataType', hdataType', hconvert⟩ := h.dataType
    intro dt hdt
    rwa [Option.some.inj (hdt.symm.trans hdataType')]
  · intro hconvert
    constructor
    · exact ⟨dataType, hdataType, hconvert dataType hdataType⟩
    · rw [hshape, hsame.isShapeInferenceIo]
    · rw [hformat, hsame.isLinearFormat]

/-- **Validating a completed configuration.** Whatever an entry said of shape tensors and of formats
before, an instance accepts the completed configuration if and only if it has no more inputs than
the engine, every entry names a tensor of its direction, and the data types are supported. -/
theorem completed_validates_iff {modelPath : String} {config config' : ModelConfig}
    (hplain : plan.Plain) (hengine : loader.EngineOf plan)
    (h : autoCompleteConfigHelper modelPath (some plan) config = .ok config')
    (hconfig : loader.config.toModelConfig = config') :
    loader.validateIo = .ok () ↔ (config'.ios true).length ≤ (plan.ios true).length ∧
      ∀ isInput, ∀ io ∈ config'.ios isInput, io.name ∈ (plan.ios isInput).map PlanTensor.name ∧
        ∀ dataType, io.dataType = some dataType →
          convertDataTypeToTrtType (loader.configDataType dataType) ≠ none := by
  obtain ⟨hints, supported, m, inputs, outputs, -, -, -, -, hinputs, houtputs, rfl⟩ :=
    autoCompleteConfigHelper_eq_ok.mp h
  have hfix : ∀ isInput, fixIo plan (getRefIo plan isInput (completedBatchSize config m))
      (config.ios isInput) = .ok ((completedConfig config m inputs outputs).ios isInput) := by
    intro isInput
    cases isInput
    · exact houtputs
    · exact hinputs
  have hinput : loader.config.input = some inputs := by
    rw [hconfig]
    rfl
  have houtput : loader.config.output = some outputs := by
    rw [hconfig]
    rfl
  rw [validateIo_eq_ok_iff hinput houtput, hengine.allowedIos true, List.length_map, hconfig]
  refine and_congr Iff.rfl (forall_congr' fun isInput => forall₂_congr fun io hio => ?_)
  rw [hengine.allowedIos isInput]
  exact and_congr_right fun hname => validates_iff hplain hengine (hfix isInput) hio hname

end Engine

/-! ### A model of two profiles -/

/-- Up to eight rows. -/
def rowProfile : ProfileDims where
  minDims := rowDims 1
  maxDims := rowDims 8
  optDims := rowDims 8
  min_rank := rfl
  opt_rank := rfl
  min_nonneg := fun i => Dims.forall_dim (by decide) (by decide) i

theorem no_values_int (selector : OptProfileSelector) (profileIdx : ℤ) (io : ℕ) :
    ∀ v ∈ (fun _ _ _ => [] : OptProfileSelector → ℤ → ℕ → List ℤ) selector profileIdx io,
      toInt32 v = v := fun _ hv => absurd hv List.not_mem_nil

theorem no_values_ordered (profileIdx : ℤ) (io i : ℕ) :
    ((fun _ _ _ => [] : OptProfileSelector → ℤ → ℕ → List ℤ) .min profileIdx io).getD i 0 ≤
      ((fun _ _ _ => [] : OptProfileSelector → ℤ → ℕ → List ℤ) .max profileIdx io).getD i 0 := le_refl _

/-- A tensor of the model. -/
def rowTensor (name : String) (isInput : Bool) : BoundTensor where
  name := name
  isInput := isInput
  shape := rowDims (-1)
  components_pos := linear_components_pos

theorem rowTensors_nodup : ([rowTensor "x" true, rowTensor "y" false].map fun t => t.name).Nodup := by
  decide

/-- The context of the second profile. -/
def rowContext : TensorRTContext where
  profileName := "1"
  profileIdx := 1
  dims := [rowProfile, rowProfile]
  shapes := [default, default]
  isDynamicPerBinding := [true, false]

theorem rowContexts_ne : [rowContext] ≠ [] := List.cons_ne_nil _ _

theorem rowContexts_shapes : ∀ ctx ∈ [rowContext],
    ctx.shapes.length = [rowTensor "x" true, rowTensor "y" false].length := by
  intro ctx hctx
  rw [List.mem_singleton.mp hctx]
  rfl

/-- An instance of the second group, for the configuration. -/
def rowLoader (config : ModelConfig) : IoLoader where
  name := "rows"
  config := { toModelConfig := config }
  tensors := [rowTensor "x" true, rowTensor "y" false]
  trtContexts := [rowContext]
  configDataType := modelConfigDataTypeToTritonServerDataType
  contexts_ne := rowContexts_ne
  profileTensorValues := fun _ _ _ => []
  values_int := no_values_int
  values_ordered := no_values_ordered
  names_nodup := rowTensors_nodup
  shapes_length := rowContexts_shapes
  outputCalls := fun _ => { tensorShape := fun _ _ => rowDims 8, fullByteSize := fun _ _ => 96 }

theorem rowLoader_engineOf (config : ModelConfig) : (rowLoader config).EngineOf twoProfilePlan where
  tensors := List.Forall₂.cons ⟨rfl, rfl, rfl, rfl, rfl, rfl⟩
    (List.Forall₂.cons ⟨rfl, rfl, rfl, rfl, rfl, rfl⟩ List.Forall₂.nil)
  dataTypes := fun dataType => by cases dataType <;> rfl

theorem twoProfilePlan_plain : twoProfilePlan.Plain where
  no_space := by decide
  rank := by decide

/-- The input is written with a data type and its dims; the output is left to auto-completion. -/
def writtenRowConfig (dataType : String) : ModelConfig where
  input := some [{ name := "x", dataType := some dataType, dims := some [3] }]
  output := some []
  instanceGroups := [["0"], ["1"]]

/-- The theorem for two data types, of which the engine supports the first. -/
theorem completed_validates_iff_rows :
    (∃ config', autoCompleteConfigHelper "" (some twoProfilePlan) (writtenRowConfig "TYPE_FP32") =
        .ok config' ∧ (rowLoader config').validateIo = .ok ()) ∧
      ∃ config', autoCompleteConfigHelper "" (some twoProfilePlan) (writtenRowConfig "TYPE_STRING") =
        .ok config' ∧ (rowLoader config').validateIo ≠ .ok () := by
  have hengine : ∀ config, (rowLoader config).EngineOf twoProfilePlan := rowLoader_engineOf
  constructor
  · obtain ⟨config', h, hlength, hentries⟩ : ∃ config', autoCompleteConfigHelper ""
        (some twoProfilePlan) (writtenRowConfig "TYPE_FP32") = .ok config' ∧
          (config'.ios true).length ≤ (twoProfilePlan.ios true).length ∧
            ∀ isInput, ∀ io ∈ config'.ios isInput,
              io.name ∈ (twoProfilePlan.ios isInput).map PlanTensor.name ∧
                io.dataType = some "TYPE_FP32" := by
      refine ⟨_, rfl, ?_, ?_⟩
      · decide
      · decide
    refine ⟨config', h, (completed_validates_iff twoProfilePlan_plain (hengine config') h rfl).mpr
      ⟨hlength, fun isInput io hio => ⟨(hentries isInput io hio).1, fun dataType hdataType => ?_⟩⟩⟩
    obtain rfl := Option.some.inj ((hentries isInput io hio).2.symm.trans hdataType)
    exact Option.some_ne_none TrtDataType.float
  · obtain ⟨config', h, io, hio, hdataType⟩ : ∃ config', autoCompleteConfigHelper ""
        (some twoProfilePlan) (writtenRowConfig "TYPE_STRING") = .ok config' ∧
          ∃ io ∈ config'.ios true, io.dataType = some "TYPE_STRING" := by
      refine ⟨_, rfl, ?_⟩
      decide
    refine ⟨config', h, fun hvalid => ?_⟩
    have hentries := ((completed_validates_iff twoProfilePlan_plain (hengine config') h rfl).mp
      hvalid).2
    exact (hentries true io hio).2 _ hdataType rfl

end TensorrtBackend

import TensorrtBackend.Dims
import TensorrtBackend.Lib.Checked

/-!
# Completing a model configuration from the plan

`AutoCompleteConfigHelper` reads hints for or against batching from the dims the configuration
gives, bounds the batch size by the optimization profiles the instance groups list, sets
`max_batch_size` and fills in what the entries of `input` and `output` leave out.  An entry is a
JSON object whose members may be absent; an empty list of entries is replaced by one generated from
the tensors of the plan.
-/

namespace TensorrtBackend

open Checked

/-! ### The plan -/

/-- `nvinfer1::DataType`. -/
inductive TrtDataType
  | float | half | int8 | int32 | bool | uint8 | fp8 | bf16 | int64 | int4
  deriving DecidableEq

/-- `ConvertTrtTypeToConfigDataType`. -/
def convertTrtTypeToConfigDataType : TrtDataType → String
  | .float => "TYPE_FP32"
  | .half => "TYPE_FP16"
  | .int8 => "TYPE_INT8"
  | .uint8 => "TYPE_UINT8"
  | .bf16 => "TYPE_BF16"
  | .int32 => "TYPE_INT32"
  | .int64 => "TYPE_INT64"
  | .bool => "TYPE_BOOL"
  | _ => "TYPE_INVALID"

/-- What a deserialized plan reports about one IO tensor.  The maximum shape and the first of the
maximum shape values are those of a profile; the latter only matters for a shape tensor. -/
structure PlanTensor where
  name : String
  isInput : Bool
  isShapeInferenceIo : Bool := false
  dataType : TrtDataType := .float
  isLinearFormat : Bool := true
  shape : Dims
  maxShape : ℤ → Dims := fun _ => shape
  firstMaxShapeValue : ℤ → ℤ := fun _ => 0

/-- `nvinfer1::ICudaEngine`, whose IO tensors are addressed by name. -/
structure Plan where
  tensors : List PlanTensor
  nbOptimizationProfiles : ℤ := 1
  names_nodup : (tensors.map PlanTensor.name).Nodup

/-- The tensor of the given name. -/
def Plan.tensor? (plan : Plan) (name : String) : Option PlanTensor :=
  plan.tensors.find? fun t => t.name == name

/-- `isShapeInferenceIO`; an unknown name is not a shape tensor. -/
def Plan.isShapeInferenceIo (plan : Plan) (name : String) : Bool :=
  (plan.tensor? name).any PlanTensor.isShapeInferenceIo

/-- `getTensorFormat` is not `kLINEAR`; the format of an unknown name is. -/
def Plan.isNonLinearFormatIo (plan : Plan) (name : String) : Bool :=
  (plan.tensor? name).any fun t => !t.isLinearFormat

/-- The inputs, or the outputs, in binding order. -/
def Plan.ios (plan : Plan) (isInput : Bool) : List PlanTensor :=
  plan.tensors.filter fun t => t.isInput == isInput

theorem Plan.mem_ios {plan : Plan} {isInput : Bool} {t : PlanTensor} :
    t ∈ plan.ios isInput ↔ t ∈ plan.tensors ∧ t.isInput = isInput := by
  rw [Plan.ios, List.mem_filter, beq_iff_eq]

/-! ### The configuration -/

/-- An entry of `input` or `output`.  `reshape` stands for its member `shape`. -/
structure ConfigIo where
  name : String
  dataType : Option String := none
  dims : Option (List ℤ) := none
  reshape : Option (List ℤ) := none
  allowRaggedBatch : Option Bool := none
  isShapeTensor : Option Bool := none
  isNonLinearFormatIo : Option Bool := none
  deriving DecidableEq

/-- The members of the model configuration that completing it reads or writes; of each instance
group its profile names.  Triton rejects a negative `max_batch_size` before it loads the backend. -/
structure ModelConfig where
  name : String := ""
  maxBatchSize : ℕ := 0
  input : Option (List ConfigIo) := none
  output : Option (List ConfigIo) := none
  batchInputCount : ℕ := 0
  instanceGroups : List (List String) := []
  sequenceBatching : Bool := false
  dynamicBatching : Bool := false
  deriving DecidableEq

/-- The entries of `input`, or of `output`. -/
def ModelConfig.ios (config : ModelConfig) (isInput : Bool) : List ConfigIo :=
  (if isInput then config.input else config.output).getD []

/-- A value, or the failure the call ends with. -/
abbrev Result := Except Failure

/-- `MemberAs..` of a member that is absent. -/
def missingMember (member : String) : Failure :=
  .returned ⟨.internal, "attempt to access non-existing object member '" ++ member ++ "'"⟩

/-! ### Profiles -/

/-- The exceptions of `std::stoi`. -/
inductive StoiException
  | invalidArgument
  | outOfRange
  deriving DecidableEq

/-- `isspace`. -/
def isSpace (c : Char) : Bool := c = ' ' || (9 ≤ c.toNat && c.toNat ≤ 13)

/-- The number of the leading decimal digits. -/
def leadingDigits (cs : List Char) : Option ℕ :=
  let digits := cs.takeWhile Char.isDigit
  if digits = [] then none else some (digits.foldl (fun n c => 10 * n + (c.toNat - 48)) 0)

/-- `std::stoi`: white space, a sign, and as many digits as there are. -/
def stoi (s : String) : Except StoiException ℤ :=
  let value := match s.toList.dropWhile isSpace with
    | '-' :: cs => (leadingDigits cs).map fun n => -(n : ℤ)
    | '+' :: cs => (leadingDigits cs).map fun n => (n : ℤ)
    | cs => (leadingDigits cs).map fun n => (n : ℤ)
  match value with
  | none => .error .invalidArgument
  | some x => if toInt32 x = x then .ok x else .error .outOfRange

/-- `GetProfileIndex`. -/
def getProfileIndex (profileName : String) : Result ℤ :=
  if profileName = "" then .error (.returned ⟨.invalidArg, "profile name must not be empty"⟩)
  else
    match stoi profileName with
    | .ok idx => .ok idx
    | .error .invalidArgument =>
        .error (.returned ⟨.invalidArg, "unable to parse '" ++ profileName ++ "': " ++ "stoi"⟩)
    | .error .outOfRange => .error .outOfRange

/-- `profile_name_index` of `InitOptimizationProfiles`: the profiles an instance creates contexts
for, which are those of its group. -/
def profileNameIndex (profileNames : List String) : Result (List (String × ℤ)) :=
  if profileNames = [] then .ok [("default", 0)]
  else profileNames.mapM fun name => do
    let idx ← getProfileIndex name
    pure (name, idx)

/-- One profile name of `GetProfileIndices`; the set is a list without an order. -/
def addProfileIndex (modelName : String) (numProfiles : ℤ) (profileIndices : List ℤ)
    (profile : String) : Result (List ℤ) := do
  let profileIdx ← getProfileIndex profile
  failIf (profileIdx < 0 ∨ numProfiles ≤ profileIdx) (.returned ⟨.internal,
    "unable to autofill for '" ++ modelName ++
      "', configuration specified invalid profile " ++ profile ++
      " . Number of profiles supported by TensorRT engine: " ++ toString numProfiles⟩)
  pure (profileIndices.insert profileIdx)

/-- `GetProfileIndices`. -/
def getProfileIndices (config : ModelConfig) (numProfiles : ℤ) : Result (List ℤ) := do
  let profileIndices ← config.instanceGroups.foldlM
    (fun indices profiles => profiles.foldlM (addProfileIndex config.name numProfiles) indices) []
  pure (if profileIndices = [] then [0] else profileIndices)

/-- `INT_MAX`. -/
def intMax : ℤ := 2 ^ 31 - 1

/-- The largest batch an input takes in a profile: `max_shape.d[0]`, or the first maximum shape
value. -/
def PlanTensor.maxBatch (t : PlanTensor) (profileIndex : ℤ) : ℤ :=
  if t.isShapeInferenceIo then t.firstMaxShapeValue profileIndex
  else (t.maxShape profileIndex).dim 0

/-- `GetProfileMaxBatchSize`. -/
def getProfileMaxBatchSize (plan : Plan) (profileIndex : ℤ) : ℤ :=
  plan.tensors.foldl (fun maxBatchSize t =>
    if t.isInput then
      if t.maxBatch profileIndex < maxBatchSize then t.maxBatch profileIndex else maxBatchSize
    else maxBatchSize) intMax

/-- One profile of `GetMaxSupportedBatchSize`; `running_max` starts at 0 and only grows. -/
def runningMaxBatchSize (plan : Plan) (runningMax : ℕ) (profileIndex : ℤ) : ℕ :=
  if (runningMax : ℤ) < getProfileMaxBatchSize plan profileIndex then
    (getProfileMaxBatchSize plan profileIndex).toNat
  else runningMax

/-- `GetMaxSupportedBatchSize`. -/
def getMaxSupportedBatchSize (plan : Plan) (config : ModelConfig) : Result ℕ := do
  let profileIndices ← getProfileIndices config plan.nbOptimizationProfiles
  pure (profileIndices.foldl (runningMaxBatchSize plan) 0)

/-! ### Hints for batching -/

/-- The dims an entry is used with. -/
def ConfigIo.usedDims (io : ConfigIo) : Result (List ℤ) :=
  match io.reshape with
  | some shape => .ok shape
  | none =>
    match io.dims with
    | some dims => .ok dims
    | none => .error (missingMember "dims")

/-- `should_batch`: the dims leave the batch dimension out. -/
def PlanTensor.shouldBatch (t : PlanTensor) (dims : List ℤ) : Bool :=
  if t.isShapeInferenceIo then decide (t.shape.dim 0 = dims.headD 0 + 1)
  else decide (t.shape.nbDims = dims.length + 1)

/-- One iteration of `ExtractBatchHintFromIOConfig`. -/
def extractBatchHint (modelName tensorName : String) (dims : List ℤ) (configBatchHint : Bool)
    (t : PlanTensor) : Result Bool :=
  if tensorName = t.name then do
    let shouldBatch := t.shouldBatch dims
    failIf ((configBatchHint || shouldBatch) && !shouldBatch) (.returned ⟨.internal,
      "unable to autofill for '" ++ modelName ++ "', model tensor configurations are " ++
        "contradicting each other in terms of whether batching is supported"⟩)
    pure (configBatchHint || shouldBatch)
  else pure configBatchHint

/-- `ExtractBatchHintFromIOConfig`. -/
def extractBatchHintFromIoConfig (plan : Plan) (modelName tensorName : String) (dims : List ℤ)
    (configBatchHint : Bool) : Result Bool :=
  plan.tensors.foldlM (extractBatchHint modelName tensorName dims) configBatchHint

/-- `CheckAllowedModelInput` and `CheckAllowedModelOutput`. -/
def checkAllowedModelIo (ioType name : String) (allowed : List String) : Result Unit :=
  failIf (name ∉ allowed) (.returned ⟨.invalidArg, "unexpected inference " ++ ioType ++ " '" ++
    name ++ "', allowed " ++ ioType ++ "s are: " ++
      ", ".intercalate (allowed.mergeSort fun a b => decide (a ≤ b))⟩)

/-- What the loop over the entries has found. -/
structure BatchHints where
  configBatchHint : Bool := false
  tensorsWithConfigShapeCnt : ℕ := 0
  ioAllowRaggedBatch : Bool := false
  deriving DecidableEq

/-- The name of the member with the entries. -/
def ioType (isInput : Bool) : String := if isInput then "input" else "output"

/-- One iteration of the loop over the entries; behind an entry that allows a ragged batch there are
none. -/
def readBatchHint (plan : Plan) (modelName : String) (isInput : Bool) (hints : BatchHints)
    (io : ConfigIo) : Result BatchHints :=
  if hints.ioAllowRaggedBatch then pure hints
  else if io.allowRaggedBatch = some true then
    pure { hints with configBatchHint := true, ioAllowRaggedBatch := true }
  else do
    let dims ← io.usedDims
    checkAllowedModelIo (ioType isInput) io.name ((plan.ios isInput).map PlanTensor.name)
    if dims = [] then pure hints
    else do
      let hint ← extractBatchHintFromIoConfig plan modelName io.name dims hints.configBatchHint
      pure { hints with
        configBatchHint := hint
        tensorsWithConfigShapeCnt := hints.tensorsWithConfigShapeCnt + 1 }

/-- `input_cnt` or `output_cnt` is not 0. -/
def ModelConfig.hasIo (config : ModelConfig) : Bool :=
  config.ios true ≠ [] || config.batchInputCount ≠ 0 || config.ios false ≠ []

/-- `MemberAsArray` of the entries, which must be there. -/
def ModelConfig.ioEntries (config : ModelConfig) (isInput : Bool) : Result (List ConfigIo) :=
  match if isInput then config.input else config.output with
  | some ios => .ok ios
  | none => .error (missingMember (ioType isInput))

/-- The loop over `input` and then `output`. -/
def readBatchHints (plan : Plan) (config : ModelConfig) : Result BatchHints :=
  if config.hasIo then do
    let inputs ← config.ioEntries true
    let hints ← inputs.foldlM (readBatchHint plan config.name true) {}
    let outputs ← config.ioEntries false
    outputs.foldlM (readBatchHint plan config.name false) hints
  else pure {}

/-- The batch size the hints leave of what the plan supports. -/
def hintedBatchSize (config : ModelConfig) (hints : BatchHints) (maxBatchSize : ℕ) : Result ℕ :=
  if hints.configBatchHint ∧ maxBatchSize = 0 then
    .error (.returned ⟨.internal, "autofill failed for model '" ++ config.name ++
      "': model tensor shape configuration hints for dynamic batching " ++
      "but the underlying engine doesn't support batching."⟩)
  else if hints.tensorsWithConfigShapeCnt ≠ 0 ∧ hints.configBatchHint = false then .ok 0
  else .ok maxBatchSize

/-- `max_batch_size` is set, or checked when it is given. -/
def fixMaxBatchSize (config : ModelConfig) (maxBatchSize : ℕ) : Result ModelConfig :=
  if config.maxBatchSize = 0 then .ok { config with maxBatchSize := maxBatchSize }
  else if maxBatchSize < config.maxBatchSize then
    .error (.returned ⟨.internal, "autofill failed for model '" ++ config.name ++
      "': configuration specified max-batch " ++ toString config.maxBatchSize ++
      " but TensorRT engine only supports max-batch " ++ toString maxBatchSize⟩)
  else .ok config

/-- The dynamic batcher is turned on when there is no scheduler. -/
def turnOnDynamicBatching (config : ModelConfig) (maxBatchSize : ℕ) : ModelConfig :=
  if 1 < maxBatchSize ∧ config.sequenceBatching = false ∧ config.dynamicBatching = false then
    { config with dynamicBatching := true }
  else config

/-! ### Filling in the entries -/

/-- `InitIODims`: `dims`, and `reshape` when it is needed because `dims` must not be empty. -/
def initIoDims (maxBatchSize : ℕ) (dims : Dims) (isShapeTensor : Bool) :
    List ℤ × Option (List ℤ) :=
  if isShapeTensor then
    if dims.nbDims = 0 then ([], none)
    else if maxBatchSize = 0 then ([dims.dim 0], none)
    else ([dims.dim 0 - 1], none)
  else
    let configDims := (dimsToDimVec dims).drop (if maxBatchSize = 0 then 0 else 1)
    if configDims = [] then ([1], some []) else (configDims, none)

/-- `tensor_name.substr(0, tensor_name.find(" "))`. -/
def nameUpToSpace (name : String) : String := String.ofList (name.toList.takeWhile (· ≠ ' '))

/-- The entry `GetRefIO` makes of a tensor. -/
def refIo (maxBatchSize : ℕ) (t : PlanTensor) : ConfigIo where
  name := nameUpToSpace t.name
  dataType := some (convertTrtTypeToConfigDataType t.dataType)
  dims := some (initIoDims maxBatchSize t.shape t.isShapeInferenceIo).1
  reshape := (initIoDims maxBatchSize t.shape t.isShapeInferenceIo).2
  isShapeTensor := some t.isShapeInferenceIo
  isNonLinearFormatIo := some !t.isLinearFormat

/-- An execution tensor is used with its dims, without the first one when the model batches. -/
theorem refIo_usedDims {maxBatchSize : ℕ} {t : PlanTensor} (ht : t.isShapeInferenceIo = false) :
    (refIo maxBatchSize t).usedDims =
      .ok ((dimsToDimVec t.shape).drop (if maxBatchSize = 0 then 0 else 1)) := by
  simp only [ConfigIo.usedDims, refIo, initIoDims, ht, Bool.false_eq_true, if_false]
  by_cases hdims : (dimsToDimVec t.shape).drop (if maxBatchSize = 0 then 0 else 1) = []
  · rw [if_pos hdims, hdims]
  · rw [if_neg hdims]

/-- A shape tensor is used with one dim, unless it is a scalar. -/
theorem refIo_usedDims_shape {maxBatchSize : ℕ} {t : PlanTensor} (ht : t.isShapeInferenceIo = true) :
    (refIo maxBatchSize t).usedDims = .ok (if t.shape.nbDims = 0 then []
      else [t.shape.dim 0 - if maxBatchSize = 0 then 0 else 1]) := by
  simp only [ConfigIo.usedDims, refIo, initIoDims, ht, if_true]
  by_cases hrank : t.shape.nbDims = 0
  · simp only [hrank, if_true]
  · by_cases hbatch : maxBatchSize = 0
    · simp only [hrank, hbatch, if_true, if_false, Int.sub_zero]
    · simp only [hrank, hbatch, if_false]

/-- `GetRefIO`. -/
def getRefIo (plan : Plan) (isInput : Bool) (maxBatchSize : ℕ) : List ConfigIo :=
  (plan.ios isInput).map (refIo maxBatchSize)

/-- A flag of an entry is set when it is absent or missed, and must not be set without cause. -/
def fixFlag (flag : Option Bool) (detected : Bool) (message : String) : Result (Option Bool) :=
  match flag with
  | none => .ok (some detected)
  | some val =>
    if val && !detected then .error (.returned ⟨.invalidArg, message⟩)
    else if !val && detected then .ok (some detected)
    else .ok (some val)

/-- `data_type` of an entry, taken from the reference when it is not set. -/
def fixDataType (dataType ref : Option String) : Option String :=
  match dataType with
  | none => ref
  | some dt => if dt = "" ∨ dt = "TYPE_INVALID" then ref else some dt

/-- One iteration of `FixIO`.  Of two members `reshape` the first is the one that is found. -/
def fixEntry (plan : Plan) (referenceIos : List ConfigIo) (io : ConfigIo) : Result ConfigIo :=
  match referenceIos.find? fun ref => io.name == ref.name with
  | none => pure io
  | some ref => do
    let fill := io.dims.getD [] = []
    let isShapeTensor ← fixFlag io.isShapeTensor (plan.isShapeInferenceIo io.name)
      ("'" ++ io.name ++ "' is incorrectly specified as a shape tensor.")
    let isNonLinearFormatIo ← fixFlag io.isNonLinearFormatIo (plan.isNonLinearFormatIo io.name)
      ("'" ++ io.name ++ "' uses a linear IO format, but 'is_non_linear_format_io' " ++
        "is incorrectly set to true in the model configuration.")
    pure { io with
      dataType := fixDataType io.dataType ref.dataType
      dims := if fill then ref.dims else io.dims
      reshape := if fill then io.reshape.or ref.reshape else io.reshape
      isShapeTensor := isShapeTensor
      isNonLinearFormatIo := isNonLinearFormatIo }

/-- `FixIO`. -/
def fixIo (plan : Plan) (referenceIos mutableIos : List ConfigIo) : Result (List ConfigIo) :=
  if mutableIos = [] then .ok referenceIos else mutableIos.mapM (fixEntry plan referenceIos)

/-- `AutoCompleteConfigHelper`; there is no plan when `LoadPlan` fails. -/
def autoCompleteConfigHelper (modelPath : String) (plan? : Option Plan) (config : ModelConfig) :
    Result ModelConfig :=
  match plan? with
  | none => .error (.returned ⟨.internal,
      "unable to load plan file to auto complete config: " ++ modelPath⟩)
  | some plan => do
    let hints ← readBatchHints plan config
    let supported ← getMaxSupportedBatchSize plan config
    let maxBatchSize ← hintedBatchSize config hints supported
    let config ← fixMaxBatchSize config maxBatchSize
    let config := turnOnDynamicBatching config maxBatchSize
    let inputs ← fixIo plan (getRefIo plan true config.maxBatchSize) (config.ios true)
    let outputs ← fixIo plan (getRefIo plan false config.maxBatchSize) (config.ios false)
    pure { config with input := some inputs, output := some outputs }

/-! ### A successful completion -/

/-- `MaxBatchSize()` of the completed configuration. -/
def completedBatchSize (config : ModelConfig) (maxBatchSize : ℕ) : ℕ :=
  if config.maxBatchSize = 0 then maxBatchSize else config.maxBatchSize

/-- The configuration with its batch size and its entries. -/
def completedConfig (config : ModelConfig) (maxBatchSize : ℕ) (inputs outputs : List ConfigIo) :
    ModelConfig :=
  { turnOnDynamicBatching
      { config with maxBatchSize := completedBatchSize config maxBatchSize } maxBatchSize with
    input := some inputs, output := some outputs }

theorem ModelConfig.ioEntries_eq_ok {config : ModelConfig} {isInput : Bool} {ios : List ConfigIo}
    (h : config.ioEntries isInput = .ok ios) : ios = config.ios isInput := by
  unfold ModelConfig.ioEntries at h
  unfold ModelConfig.ios
  split at h
  · rename_i heq
    rw [heq]
    exact (Except.ok.inj h).symm
  · cases h

/-- The loop has gone through the entries, of which there may be none. -/
theorem readBatchHints_of_ok {plan : Plan} {config : ModelConfig} {hints : BatchHints}
    (h : readBatchHints plan config = .ok hints) :
    ∃ mid, (config.ios true).foldlM (readBatchHint plan config.name true) {} = .ok mid ∧
      (config.ios false).foldlM (readBatchHint plan config.name false) mid = .ok hints := by
  unfold readBatchHints at h
  split at h
  · obtain ⟨inputs, hinputs, h⟩ := bind_eq_ok.mp h
    obtain ⟨mid, hmid, h⟩ := bind_eq_ok.mp h
    obtain ⟨outputs, houtputs, h⟩ := bind_eq_ok.mp h
    rw [ModelConfig.ioEntries_eq_ok hinputs] at hmid
    rw [ModelConfig.ioEntries_eq_ok houtputs] at h
    exact ⟨mid, hmid, h⟩
  · rename_i hnone
    simp only [ModelConfig.hasIo, Bool.or_eq_true, decide_eq_true_eq, not_or, ne_eq,
      not_not] at hnone
    rw [hnone.1.1, hnone.2, ← pure_eq_ok.mp h]
    exact ⟨{}, rfl, rfl⟩

theorem hintedBatchSize_eq_ok {config : ModelConfig} {hints : BatchHints} {supported m : ℕ} :
    hintedBatchSize config hints supported = .ok m ↔
      ¬ (hints.configBatchHint = true ∧ supported = 0) ∧
        m = if hints.tensorsWithConfigShapeCnt ≠ 0 ∧ hints.configBatchHint = false then 0
          else supported := by
  unfold hintedBatchSize
  split
  · rename_i hc
    exact ⟨nofun, fun h => absurd hc h.1⟩
  · rename_i hc
    rw [and_iff_right hc, eq_comm (a := m)]
    split <;> exact ⟨Except.ok.inj, congrArg _⟩

theorem fixMaxBatchSize_eq_ok {config config' : ModelConfig} {m : ℕ} :
    fixMaxBatchSize config m = .ok config' ↔ config.maxBatchSize ≤ m ∧
      config' = { config with maxBatchSize := completedBatchSize config m } := by
  unfold fixMaxBatchSize completedBatchSize
  split
  · rename_i hzero
    rw [Except.ok.injEq, hzero, and_iff_right (Nat.zero_le m)]
    exact eq_comm
  · split
    · rename_i hlt
      exact ⟨nofun, fun h => absurd hlt (not_lt.mpr h.1)⟩
    · rename_i hle
      rw [Except.ok.injEq, and_iff_right (not_lt.mp hle)]
      exact eq_comm

theorem turnOnDynamicBatching_maxBatchSize (config : ModelConfig) (m : ℕ) :
    (turnOnDynamicBatching config m).maxBatchSize = config.maxBatchSize := by
  unfold turnOnDynamicBatching
  split <;> rfl

theorem turnOnDynamicBatching_ios (config : ModelConfig) (m : ℕ) (isInput : Bool) :
    (turnOnDynamicBatching config m).ios isInput = config.ios isInput := by
  unfold turnOnDynamicBatching
  split <;> rfl

theorem completedConfig_maxBatchSize (config : ModelConfig) (m : ℕ) (inputs outputs : List ConfigIo) :
    (completedConfig config m inputs outputs).maxBatchSize = completedBatchSize config m :=
  turnOnDynamicBatching_maxBatchSize _ _

/-- **What a successful completion is made of.** -/
theorem autoCompleteConfigHelper_eq_ok {modelPath : String} {plan : Plan}
    {config config' : ModelConfig} :
    autoCompleteConfigHelper modelPath (some plan) config = .ok config' ↔
      ∃ hints supported m inputs outputs, readBatchHints plan config = .ok hints ∧
        getMaxSupportedBatchSize plan config = .ok supported ∧
        hintedBatchSize config hints supported = .ok m ∧ config.maxBatchSize ≤ m ∧
        fixIo plan (getRefIo plan true (completedBatchSize config m)) (config.ios true) =
          .ok inputs ∧
        fixIo plan (getRefIo plan false (completedBatchSize config m)) (config.ios false) =
          .ok outputs ∧
        config' = completedConfig config m inputs outputs := by
  constructor
  · intro h
    obtain ⟨hints, hhints, h⟩ := bind_eq_ok.mp h
    obtain ⟨supported, hsupported, h⟩ := bind_eq_ok.mp h
    obtain ⟨m, hm, h⟩ := bind_eq_ok.mp h
    obtain ⟨mid, hmid, h⟩ := bind_eq_ok.mp h
    obtain ⟨hle, rfl⟩ := fixMaxBatchSize_eq_ok.mp hmid
    obtain ⟨inputs, hinputs, h⟩ := bind_eq_ok.mp h
    obtain ⟨outputs, houtputs, h⟩ := bind_eq_ok.mp h
    rw [turnOnDynamicBatching_maxBatchSize, turnOnDynamicBatching_ios] at hinputs houtputs
    exact ⟨hints, supported, m, inputs, outputs, hhints, hsupported, hm, hle, hinputs, houtputs,
      (pure_eq_ok.mp h).symm⟩
  · rintro ⟨hints, supported, m, inputs, outputs, hhints, hsupported, hm, hle, hinputs, houtputs, rfl⟩
    refine bind_eq_ok.mpr ⟨hints, hhints, bind_eq_ok.mpr ⟨supported, hsupported,
      bind_eq_ok.mpr ⟨m, hm, bind_eq_ok.mpr ⟨_, fixMaxBatchSize_eq_ok.mpr ⟨hle, rfl⟩, ?_⟩⟩⟩⟩
    refine bind_eq_ok.mpr ⟨inputs, ?_, bind_eq_ok.mpr ⟨outputs, ?_, rfl⟩⟩
    · rw [turnOnDynamicBatching_maxBatchSize, turnOnDynamicBatching_ios]
      exact hinputs
    · rw [turnOnDynamicBatching_maxBatchSize, turnOnDynamicBatching_ios]
      exact houtputs

end TensorrtBackend

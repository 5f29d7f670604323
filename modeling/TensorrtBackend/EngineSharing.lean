import TensorrtBackend.Dims

/-!
# Sharing engines between instances

`ModelState::CreateEngine` keeps one runtime and at most one engine for each pair of a GPU and a DLA
core.  An engine is kept for the next instance only while sharing is enabled; the first engine with
a dynamic dimension disables sharing for good.  A failed call may leave an entry with a runtime and
no engine.

* `createEngine_cases`: what one call can do.
* `engines_shared_safely`: what any sequence of calls returns and hands out.
-/

namespace TensorrtBackend

/-- A GPU and a DLA core, `-1` for none. -/
abbrev DevicePair := ℤ × ℤ

/-- A deserialized engine: which one it is, and the shapes of its IO tensors. -/
structure PlanEngine where
  id : ℕ
  tensorShapes : List Dims
  deriving DecidableEq

/-- Some IO tensor has a wildcard dimension. -/
def PlanEngine.isDynamic (engine : PlanEngine) : Bool := engine.tensorShapes.any containsWildcard

/-- The entry of `device_engines_` for one pair. -/
structure DeviceEngine where
  runtime : Bool := false
  engine : Option PlanEngine := none

/-- What the outside calls of one `LoadPlan` give. -/
structure PlanCalls where
  /-- `createInferRuntime` yields a runtime. -/
  createInferRuntime : Bool := true
  nbDlaCores : ℤ := 0
  readTextFile : Option Error := none
  /-- `deserializeCudaEngine`: the shapes of a new engine, or null. -/
  deserializeCudaEngine : Option (List Dims)
  lastErrorMsg : String := ""

/-- `LoadPlan` into the runtime and the engine of an entry; a new engine is number `fresh`. -/
def loadPlan (calls : PlanCalls) (dlaCoreId : ℤ) (fresh : ℕ) (entry : DeviceEngine) :
    Option Error × DeviceEngine :=
  if !entry.runtime && !calls.createInferRuntime then
    (errorNew .internal ("unable to create TensorRT runtime: " ++ calls.lastErrorMsg), entry)
  else
    let entry := { entry with runtime := true }
    if dlaCoreId ≠ -1 ∧ calls.nbDlaCores ≤ dlaCoreId then
      (errorNew .invalidArg ("unable to create TensorRT runtime with DLA Core ID: " ++
        toString dlaCoreId ++ ", available number of DLA cores: " ++ toString calls.nbDlaCores),
        entry)
    else
      match calls.readTextFile with
      | some err => (some err, entry)
      | none =>
        match calls.deserializeCudaEngine with
        | none =>
            (errorNew .internal ("unable to create TensorRT engine: " ++ calls.lastErrorMsg),
              { entry with engine := none })
        | some shapes => (none, { entry with engine := some ⟨fresh, shapes⟩ })

/-- The arguments of one `CreateEngine` call and what its outside calls give; the plan path decides
what `LoadPlan` reads. -/
structure CreateCall where
  gpuDevice : ℤ
  dlaCoreId : ℤ := -1
  /-- `cudaSetDevice`: the error string, if it fails. -/
  setDevice : Option String := none
  plan : PlanCalls

def CreateCall.device (call : CreateCall) : DevicePair := (call.gpuDevice, call.dlaCoreId)

/-- What a call returns, null for success, and what `*engine` holds behind it; it is null before. -/
structure CreateResult where
  device : DevicePair
  status : Option Error
  engine : Option PlanEngine

/-- `device_engines_`, `engine_sharing_` and the number of engines deserialized. -/
structure EngineState where
  deviceEngines : DevicePair → Option DeviceEngine := fun _ => none
  engineSharing : Bool := true
  loads : ℕ := 0

/-- The entry of a pair, which is emplaced if it is missing. -/
def EngineState.entry (s : EngineState) (device : DevicePair) : DeviceEngine :=
  (s.deviceEngines device).getD {}

/-- The entry of a pair is set. -/
def EngineState.setEntry (s : EngineState) (device : DevicePair) (entry : DeviceEngine) :
    EngineState :=
  { s with deviceEngines := Function.update s.deviceEngines device (some entry) }

/-- The part of `CreateEngine` behind a successful `LoadPlan`: a dynamic engine disables sharing,
and without sharing the entry keeps its runtime only. -/
def EngineState.keepLoaded (s : EngineState) (device : DevicePair) (entry : DeviceEngine) :
    EngineState :=
  let sharing := s.engineSharing && !entry.engine.any PlanEngine.isDynamic
  let s := { s with engineSharing := sharing }
  s.setEntry device (if sharing then entry else { entry with engine := none })

/-- The part of `CreateEngine` behind `cudaSetDevice`. -/
def EngineState.loadEngine (s : EngineState) (call : CreateCall) : CreateResult × EngineState :=
  match loadPlan call.plan call.dlaCoreId s.loads (s.entry call.device) with
  | (some err, entry) => (⟨call.device, some err, none⟩, s.setEntry call.device entry)
  | (none, entry) =>
      (⟨call.device, none, entry.engine⟩, { s with loads := s.loads + 1 }.keepLoaded call.device entry)

/-- `ModelState::CreateEngine` of the model `name`. -/
def createEngine (name : String) (s : EngineState) (call : CreateCall) : CreateResult × EngineState :=
  let s := s.setEntry call.device (s.entry call.device)
  match (s.entry call.device).engine with
  | some engine => (⟨call.device, none, some engine⟩, s)
  | none =>
    match call.setDevice with
    | some message =>
        (⟨call.device, errorNew .internal ("unable to set device for " ++ name ++ ": " ++ message),
          none⟩, s)
    | none => s.loadEngine call

/-- One more call behind those with the results `r.1`. -/
def createNext (name : String) (r : List CreateResult × EngineState) (call : CreateCall) :
    List CreateResult × EngineState :=
  (r.1 ++ [(createEngine name r.2 call).1], (createEngine name r.2 call).2)

/-- A sequence of `CreateEngine` calls on one model: the result of each, and the state behind them.
-/
def createEngines (name : String) (calls : List CreateCall) : List CreateResult × EngineState :=
  calls.foldl (createNext name) ([], {})

/-! ### One call -/

@[simp] theorem EngineState.setEntry_entry_self (s : EngineState) (device : DevicePair)
    (entry : DeviceEngine) : (s.setEntry device entry).entry device = entry := by
  simp [EngineState.setEntry, EngineState.entry]

theorem EngineState.setEntry_entry_of_ne (s : EngineState) {device p : DevicePair}
    (entry : DeviceEngine) (h : p ≠ device) : (s.setEntry device entry).entry p = s.entry p := by
  simp [EngineState.setEntry, EngineState.entry, h]

/-- Setting an entry with the same engine keeps every engine that is kept. -/
theorem EngineState.setEntry_engine (s : EngineState) (device : DevicePair) {entry : DeviceEngine}
    (h : entry.engine = (s.entry device).engine) (p : DevicePair) :
    ((s.setEntry device entry).entry p).engine = (s.entry p).engine := by
  by_cases hp : p = device
  · rw [hp, setEntry_entry_self, h]
  · rw [setEntry_entry_of_ne s entry hp]

/-- `LoadPlan` fails without an engine or leaves a new one. -/
theorem loadPlan_cases (calls : PlanCalls) (dlaCoreId : ℤ) (fresh : ℕ) {entry : DeviceEngine}
    (h : entry.engine = none) :
    (∃ err entry', loadPlan calls dlaCoreId fresh entry = (some err, entry') ∧
        entry'.engine = none) ∨
      ∃ shapes entry', loadPlan calls dlaCoreId fresh entry = (none, entry') ∧
        entry'.engine = some ⟨fresh, shapes⟩ := by
  unfold loadPlan
  split
  · exact Or.inl ⟨_, _, rfl, h⟩
  · split
    · exact Or.inl ⟨_, _, rfl, h⟩
    · cases calls.readTextFile with
      | some err => exact Or.inl ⟨_, _, rfl, h⟩
      | none =>
          cases calls.deserializeCudaEngine with
          | none => exact Or.inl ⟨_, _, rfl, rfl⟩
          | some shapes => exact Or.inr ⟨shapes, _, rfl, rfl⟩

/-- What one call returns and does to the engines that are kept. -/
inductive CreateOutcome (s : EngineState) (device : DevicePair) (r : CreateResult) (t : EngineState) :
    Prop
  /-- The call fails, hands out nothing, and no engine changes. -/
  | failed (err : Error) (result : r = ⟨device, some err, none⟩) (loads : t.loads = s.loads)
      (kept : ∀ p, (t.entry p).engine = (s.entry p).engine)
  /-- The engine of the pair is handed out again. -/
  | shared (e : PlanEngine) (cached : (s.entry device).engine = some e)
      (result : r = ⟨device, none, some e⟩) (loads : t.loads = s.loads)
      (kept : ∀ p, (t.entry p).engine = (s.entry p).engine)
  /-- A new engine is handed out; it is kept only if it is not dynamic. -/
  | loaded (shapes : List Dims) (result : r = ⟨device, none, some ⟨s.loads, shapes⟩⟩)
      (loads : t.loads = s.loads + 1)
      (others : ∀ p, p ≠ device → (t.entry p).engine = (s.entry p).engine)
      (own : ∀ e, (t.entry device).engine = some e → e = ⟨s.loads, shapes⟩ ∧ e.isDynamic = false)

theorem loadEngine_cases {s : EngineState} {call : CreateCall}
    (h : (s.entry call.device).engine = none) :
    CreateOutcome s call.device (s.loadEngine call).1 (s.loadEngine call).2 := by
  unfold EngineState.loadEngine
  rcases loadPlan_cases call.plan call.dlaCoreId s.loads h with
    ⟨err, entry', hload, hnone⟩ | ⟨shapes, entry', hload, hsome⟩
  · rw [hload]
    exact .failed err rfl rfl (s.setEntry_engine _ (hnone.trans h.symm))
  · rw [hload]
    refine .loaded shapes ?_ rfl (fun p hp => ?_) fun e he => ?_
    · rw [← hsome]
    · exact congrArg DeviceEngine.engine (EngineState.setEntry_entry_of_ne _ _ hp)
    · simp only [EngineState.keepLoaded, EngineState.setEntry_entry_self] at he
      split at he
      · rename_i hsharing
        rw [hsome] at he hsharing
        cases he
        simp only [Bool.and_eq_true, Bool.not_eq_true', Option.any_some] at hsharing
        exact ⟨rfl, hsharing.2⟩
      · cases he

/-- Emplacing a missing entry changes no outcome. -/
theorem CreateOutcome.of_emplaced {s t : EngineState} {device : DevicePair} {r : CreateResult}
    (h : CreateOutcome (s.setEntry device (s.entry device)) device r t) :
    CreateOutcome s device r t := by
  have hsame := s.setEntry_engine device rfl
  cases h with
  | failed err result loads kept => exact .failed err result loads fun p => (kept p).trans (hsame p)
  | shared e cached result loads kept =>
      exact .shared e ((hsame device).symm.trans cached) result loads
        fun p => (kept p).trans (hsame p)
  | loaded shapes result loads others own =>
      exact .loaded shapes result loads (fun p hp => (others p hp).trans (hsame p)) own

/-- **One call** fails, hands out the engine kept for its pair, or loads one. -/
theorem createEngine_cases (name : String) (s : EngineState) (call : CreateCall) :
    CreateOutcome s call.device (createEngine name s call).1 (createEngine name s call).2 := by
  apply CreateOutcome.of_emplaced
  unfold createEngine
  cases hcached : ((s.setEntry call.device (s.entry call.device)).entry call.device).engine with
  | some e =>
      simp only [hcached]
      exact .shared e hcached rfl rfl fun _ => rfl
  | none =>
      simp only [hcached]
      cases call.setDevice with
      | some message => exact .failed _ rfl rfl fun _ => rfl
      | none => exact loadEngine_cases hcached

/-! ### Any sequence of calls -/

/-- Two calls hand out one engine. -/
def SameEngine (a b : CreateResult) : Prop :=
  ∃ e e', a.engine = some e ∧ b.engine = some e' ∧ e.id = e'.id

/-- Every call has a result; it is a success exactly when an engine is handed out; no engine with a
dynamic dimension is handed out twice, and none to two pairs. -/
structure SafelyShared (calls : List CreateCall) (results : List CreateResult) : Prop where
  each_call : results.map CreateResult.device = calls.map CreateCall.device
  handed_out : ∀ r ∈ results, r.status = none ↔ r.engine ≠ none
  dynamic_once : results.Pairwise fun a b => (∃ e, a.engine = some e ∧ e.isDynamic = true) →
    ¬ SameEngine a b
  one_device : results.Pairwise fun a b => a.device ≠ b.device → ¬ SameEngine a b

/-- An engine kept for a pair: it is static, was handed out to the pair, and only to it. -/
structure KeptFor (results : List CreateResult) (p : DevicePair) (e : PlanEngine) : Prop where
  static : e.isDynamic = false
  used : (⟨p, none, some e⟩ : CreateResult) ∈ results
  own : ∀ r ∈ results, ∀ e', r.engine = some e' → e'.id = e.id →
    r.device = p ∧ e'.isDynamic = false

/-- The invariant of the state behind calls with these results: engines are handed out by the
successful calls and numbered below the count of loads, two handouts of one number are of a static
engine to one pair, and so are the handouts of a kept engine. -/
structure EngineState.Ok (results : List CreateResult) (s : EngineState) : Prop where
  handed : ∀ r ∈ results, r.status = none ↔ r.engine ≠ none
  numbered : ∀ r ∈ results, ∀ e, r.engine = some e → e.id < s.loads
  shared : results.Pairwise fun a b => ∀ e e', a.engine = some e → b.engine = some e' →
    e.id = e'.id → a.device = b.device ∧ e.isDynamic = false
  kept : ∀ p e, (s.entry p).engine = some e → KeptFor results p e

theorem EngineState.ok_initial : EngineState.Ok [] {} where
  handed r hr := by cases hr
  numbered r hr := by cases hr
  shared := .nil
  kept p e he := by cases he

section Step

variable {results : List CreateResult} {s t : EngineState} {device : DevicePair} {r : CreateResult}

/-- A call that hands out nothing leaves what is known of the kept engines. -/
theorem KeptFor.failed {p : DevicePair} {e : PlanEngine} (h : KeptFor results p e)
    (hnone : r.engine = none) : KeptFor (results ++ [r]) p e := by
  refine ⟨h.static, List.mem_append_left _ h.used, fun q hq e' he' hsame => ?_⟩
  rcases List.mem_append.mp hq with hold | hnew
  · exact h.own q hold e' he' hsame
  · rw [List.mem_singleton.mp hnew, hnone] at he'
    cases he'

/-- The results of the calls before and of one more. -/
theorem forall_mem_concat {P : CreateResult → Prop} (hold : ∀ q ∈ results, P q) (hnew : P r) :
    ∀ q ∈ results ++ [r], P q := by
  intro q hq
  rcases List.mem_append.mp hq with hq | hq
  · exact hold q hq
  · rw [List.mem_singleton.mp hq]
    exact hnew

theorem EngineState.Ok.failed {err : Error} (hs : s.Ok results)
    (result : r = ⟨device, some err, none⟩) (loads : t.loads = s.loads)
    (kept : ∀ p, (t.entry p).engine = (s.entry p).engine) : t.Ok (results ++ [r]) := by
  subst result
  refine ⟨?_, ?_, ?_, fun p e he => ?_⟩
  · exact forall_mem_concat hs.handed (by simp)
  · rw [loads]
    exact forall_mem_concat hs.numbered (by simp)
  · rw [List.pairwise_append]
    refine ⟨hs.shared, List.pairwise_singleton _ _, fun a _ b hb e e' _ he' => ?_⟩
    rw [List.mem_singleton.mp hb] at he'
    cases he'
  · exact (hs.kept p e ((kept p).symm.trans he)).failed rfl

/-- Handing out the engine kept for the pair. -/
theorem EngineState.Ok.share {e : PlanEngine} (hs : s.Ok results)
    (cached : (s.entry device).engine = some e) (result : r = ⟨device, none, some e⟩)
    (loads : t.loads = s.loads) (kept : ∀ p, (t.entry p).engine = (s.entry p).engine) :
    t.Ok (results ++ [r]) := by
  subst result
  have hk := hs.kept device e cached
  have hid := hs.numbered _ hk.used e rfl
  refine ⟨?_, ?_, ?_, fun p e₀ he₀ => ?_⟩
  · exact forall_mem_concat hs.handed (by simp)
  · rw [loads]
    refine forall_mem_concat hs.numbered fun e' he' => ?_
    cases he'
    exact hid
  · rw [List.pairwise_append]
    refine ⟨hs.shared, List.pairwise_singleton _ _, fun a ha b hb e₁ e₂ he₁ he₂ hsame => ?_⟩
    rw [List.mem_singleton.mp hb] at he₂ ⊢
    cases he₂
    exact hk.own a ha e₁ he₁ hsame
  · have hk₀ := hs.kept p e₀ ((kept p).symm.trans he₀)
    refine ⟨hk₀.static, List.mem_append_left _ hk₀.used, forall_mem_concat hk₀.own ?_⟩
    -- The engine kept for `device` was handed out before, so the other entry knows its pair.
    intro e' he' hsame
    cases he'
    exact hk₀.own _ hk.used e rfl hsame

/-- Handing out a new engine. -/
theorem EngineState.Ok.load {shapes : List Dims} (hs : s.Ok results)
    (result : r = ⟨device, none, some ⟨s.loads, shapes⟩⟩) (loads : t.loads = s.loads + 1)
    (others : ∀ p, p ≠ device → (t.entry p).engine = (s.entry p).engine)
    (own : ∀ e, (t.entry device).engine = some e → e = ⟨s.loads, shapes⟩ ∧ e.isDynamic = false) :
    t.Ok (results ++ [r]) := by
  subst result
  -- No engine handed out before has the new number.
  have hfresh : ∀ q ∈ results, ∀ e, q.engine = some e → e.id ≠ s.loads :=
    fun q hq e he => (hs.numbered q hq e he).ne
  refine ⟨?_, ?_, ?_, fun p e he => ?_⟩
  · exact forall_mem_concat hs.handed (by simp)
  · rw [loads]
    refine forall_mem_concat (fun q hq e he => Nat.lt_succ_of_lt (hs.numbered q hq e he)) ?_
    intro e he
    cases he
    exact Nat.lt_succ_self _
  · rw [List.pairwise_append]
    refine ⟨hs.shared, List.pairwise_singleton _ _, fun a ha b hb e₁ e₂ he₁ he₂ hsame => ?_⟩
    rw [List.mem_singleton.mp hb] at he₂
    cases he₂
    exact absurd hsame (hfresh a ha e₁ he₁)
  · by_cases hp : p = device
    · subst hp
      obtain ⟨rfl, hstatic⟩ := own e he
      refine ⟨hstatic, List.mem_append_right _ (List.mem_singleton_self _), ?_⟩
      refine forall_mem_concat (fun q hq e' he' hsame => absurd hsame (hfresh q hq e' he')) ?_
      intro e' he' _
      cases he'
      exact ⟨rfl, hstatic⟩
    · have hk := hs.kept p e ((others p hp).symm.trans he)
      refine ⟨hk.static, List.mem_append_left _ hk.used, forall_mem_concat hk.own ?_⟩
      intro e' he' hsame
      cases he'
      exact absurd hsame.symm (hfresh _ hk.used e rfl)

/-- **What one call keeps.** -/
theorem createEngine_ok (name : String) (hs : s.Ok results) (call : CreateCall) :
    (createEngine name s call).2.Ok (results ++ [(createEngine name s call).1]) := by
  cases createEngine_cases name s call with
  | failed err result loads kept => exact hs.failed result loads kept
  | shared e cached result loads kept => exact hs.share cached result loads kept
  | loaded shapes result loads others own => exact hs.load result loads others own

theorem createEngine_device (name : String) (s : EngineState) (call : CreateCall) :
    (createEngine name s call).1.device = call.device := by
  cases createEngine_cases name s call with
  | failed err result loads kept => rw [result]
  | shared e cached result loads kept => rw [result]
  | loaded shapes result loads others own => rw [result]

end Step

/-- What any sequence of calls keeps. -/
theorem createEngines_ok (name : String) (calls : List CreateCall) :
    (createEngines name calls).2.Ok (createEngines name calls).1 ∧
      (createEngines name calls).1.map CreateResult.device = calls.map CreateCall.device := by
  have hrun : ∀ r : List CreateResult × EngineState, r.2.Ok r.1 →
      (calls.foldl (createNext name) r).2.Ok (calls.foldl (createNext name) r).1 ∧
        (calls.foldl (createNext name) r).1.map CreateResult.device =
          r.1.map CreateResult.device ++ calls.map CreateCall.device := by
    induction calls with
    | nil => exact fun r hr => ⟨hr, (List.append_nil _).symm⟩
    | cons call calls ih =>
        intro r hr
        obtain ⟨hok, hdevices⟩ := ih (createNext name r call) (createEngine_ok name hr call)
        refine ⟨hok, hdevices.trans ?_⟩
        simp [createNext, createEngine_device]
  obtain ⟨hok, hdevices⟩ := hrun ([], {}) EngineState.ok_initial
  exact ⟨hok, hdevices⟩

/-- **What any sequence of calls hands out**: a call succeeds exactly when it hands out an engine,
no engine with a wildcard dimension is handed out twice, and none to two pairs of a GPU and a DLA
core. -/
theorem engines_shared_safely (name : String) (calls : List CreateCall) :
    SafelyShared calls (createEngines name calls).1 := by
  obtain ⟨hok, hdevices⟩ := createEngines_ok name calls
  refine ⟨hdevices, hok.handed, ?_, ?_⟩
  · refine hok.shared.imp fun hab => ?_
    rintro ⟨e, he, hdynamic⟩ ⟨e₁, e₂, he₁, he₂, hsame⟩
    rw [he] at he₁
    cases he₁
    rw [(hab e e₂ he he₂ hsame).2] at hdynamic
    cases hdynamic
  · refine hok.shared.imp fun hab hne => ?_
    rintro ⟨e₁, e₂, he₁, he₂, hsame⟩
    exact hne (hab e₁ e₂ he₁ he₂ hsame).1

def anyLengthDims : Dims := Dims.ofList [-1] (by decide)

/-- A static engine on one GPU, a failed load and a dynamic engine on another, and both pairs again.
-/
def mixedCalls : List CreateCall :=
  [{ gpuDevice := 0, plan := { deserializeCudaEngine := some [] } },
    { gpuDevice := 1, plan := { deserializeCudaEngine := none } },
    { gpuDevice := 1, plan := { deserializeCudaEngine := some [anyLengthDims] } },
    { gpuDevice := 0, plan := { deserializeCudaEngine := none } },
    { gpuDevice := 1, plan := { deserializeCudaEngine := some [anyLengthDims] } }]

/-- The theorem for these calls: the static engine is shared, the dynamic one loaded again. -/
theorem engines_shared_safely_mixed : SafelyShared mixedCalls (createEngines "m" mixedCalls).1 ∧
    (createEngines "m" mixedCalls).1.map (fun r => (r.status.isNone, r.engine.map PlanEngine.id)) =
      [(true, some 0), (false, none), (true, some 1), (true, some 0), (true, some 2)] :=
  ⟨engines_shared_safely "m" mixedCalls, by decide⟩

end TensorrtBackend

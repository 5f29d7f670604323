import TensorrtBackend.CompletedLoad
import TensorrtBackend.SupportedBatch

/-!
# The execution contexts of an instance

`InitOptimizationProfiles` creates one context for each index that the profile names of the instance
stand for, under the first of the names, and stores the dims of the profile for every input.  The
map `trt_contexts_` is ordered by the index.

* `contexts_of_profiles`: when there are contexts, and which.
* `completed_instances_load_iff`: the instances of every group of a completed configuration get their
  contexts, and load when the tensors can be bound.
-/

namespace TensorrtBackend

open Checked

/-- What `InitOptimizationProfiles` reads of the engine and how its calls turn out, by profile.
`profileShape` is `engine_->getProfileShape` for the three selectors. -/
structure ProfileLoader where
  name : String
  tensors : List BoundTensor
  nbOptimizationProfiles : ℤ
  profileShape : ℤ → ℕ → ProfileDims
  createExecutionContext : ℤ → Bool := fun _ => true
  setOptimizationProfileAsync : ℤ → Bool := fun _ => true
  lastErrorMsg : String := ""

namespace ProfileLoader

variable (loader : ProfileLoader)

/-- A context behind the loop over the IO tensors, which calls `GetProfileDimensions` for the
inputs. -/
def contextOf (profileName : String) (profileIdx : ℤ) : TensorRTContext where
  profileName := profileName
  profileIdx := profileIdx
  dims := loader.tensors.zipIdx.map fun x =>
    if x.1.isInput then loader.profileShape profileIdx x.2 else default
  shapes := List.replicate loader.tensors.length default
  isDynamicPerBinding := List.replicate loader.tensors.length false

/-- An index that is not in the map yet: the context is created, and the profile set unless it is
the first, which a context has from the start. -/
def createContext (profileName : String) (profileIdx : ℤ) : Result TensorRTContext := do
  failIf (loader.createExecutionContext profileIdx = false) (.returned ⟨.internal,
    "unable to create TensorRT context: " ++ loader.lastErrorMsg⟩)
  failIf (profileIdx ≠ 0 ∧ loader.setOptimizationProfileAsync profileIdx = false)
    (.returned ⟨.invalidArg, "Can not set the specified optimization profile " ++ profileName ++ "[" ++
      toString profileIdx ++ "] for " ++ loader.name ++
      ". Expected optimization profile index range 0-" ++
      toString (loader.nbOptimizationProfiles - 1)⟩)
  pure (loader.contextOf profileName profileIdx)

/-- One entry of `profile_name_index`; an index that is there keeps its context. -/
def emplaceProfile (contexts : SortedMap ℤ TensorRTContext) (nameIndex : String × ℤ) :
    Result (SortedMap ℤ TensorRTContext) :=
  if contexts.entries.any fun x => x.1 == nameIndex.2 then .ok contexts
  else do
    let context ← loader.createContext nameIndex.1 nameIndex.2
    pure (contexts.insert nameIndex.2 context)

/-- `InitOptimizationProfiles`: `trt_contexts_`. -/
def initOptimizationProfiles (profileNames : List String) : Result (SortedMap ℤ TensorRTContext) := do
  let table ← profileNameIndex profileNames
  table.foldlM loader.emplaceProfile SortedMap.empty

/-- The engine gives a context for the profile. -/
def Takes (profileIdx : ℤ) : Prop :=
  loader.createExecutionContext profileIdx = true ∧
    (profileIdx ≠ 0 → loader.setOptimizationProfileAsync profileIdx = true)

variable {loader}

theorem createContext_eq_ok {profileName : String} {profileIdx : ℤ} {context : TensorRTContext} :
    loader.createContext profileName profileIdx = .ok context ↔
      loader.Takes profileIdx ∧ context = loader.contextOf profileName profileIdx := by
  unfold createContext
  rw [bind_eq_ok]
  constructor
  · rintro ⟨⟨⟩, hcreate, h⟩
    obtain ⟨⟨⟩, hset, h⟩ := bind_eq_ok.mp h
    have hcreate := failIf_eq_ok.mp hcreate
    have hset := failIf_eq_ok.mp hset
    refine ⟨⟨Bool.eq_true_of_not_eq_false hcreate, fun hne => ?_⟩, (pure_eq_ok.mp h).symm⟩
    exact Bool.eq_true_of_not_eq_false fun hfalse => hset ⟨hne, hfalse⟩
  · rintro ⟨⟨hcreate, hset⟩, rfl⟩
    refine ⟨(), failIf_eq_ok.mpr (by simp [hcreate]), bind_eq_ok.mpr ⟨(), failIf_eq_ok.mpr ?_, rfl⟩⟩
    exact fun h => absurd (hset h.1) (by simp [h.2])

/-- The contexts are those of the entries: every index has one, under the first name for it. -/
structure ContextsOf (loader : ProfileLoader) (table : List (String × ℤ))
    (contexts : SortedMap ℤ TensorRTContext) : Prop where
  mapped : ∀ entry ∈ table, ∃ x ∈ contexts.entries, x.1 = entry.2
  first : ∀ x ∈ contexts.entries, ∃ profileName,
    table.find? (fun entry => entry.2 == x.1) = some (profileName, x.1) ∧
      loader.Takes x.1 ∧ x.2 = loader.contextOf profileName x.1

/-- **The step lemma**: one entry more. -/
theorem emplaceProfile_of_ok {table : List (String × ℤ)}
    {contexts contexts' : SortedMap ℤ TensorRTContext} {entry : String × ℤ} (h : ContextsOf loader table contexts)
    (hstep : loader.emplaceProfile contexts entry = .ok contexts') :
    ContextsOf loader (table ++ [entry]) contexts' := by
  have hold : ∀ x ∈ contexts.entries, ∃ profileName,
      (table ++ [entry]).find? (fun e => e.2 == x.1) = some (profileName, x.1) ∧
        loader.Takes x.1 ∧ x.2 = loader.contextOf profileName x.1 := by
    intro x hx
    obtain ⟨profileName, hfind, hcontext⟩ := h.first x hx
    exact ⟨profileName, by rw [List.find?_append, hfind, Option.some_or], hcontext⟩
  rw [emplaceProfile] at hstep
  split at hstep
  · rename_i hthere
    obtain rfl := Except.ok.inj hstep
    refine ⟨fun e he => ?_, hold⟩
    rcases List.mem_append.mp he with he | he
    · exact h.mapped e he
    · obtain ⟨x, hx, heq⟩ := List.any_eq_true.mp hthere
      rw [List.mem_singleton.mp he]
      exact ⟨x, hx, beq_iff_eq.mp heq⟩
  · rename_i hnew
    obtain ⟨context, hcreate, hstep⟩ := bind_eq_ok.mp hstep
    obtain rfl := pure_eq_ok.mp hstep
    obtain ⟨htakes, rfl⟩ := createContext_eq_ok.mp hcreate
    constructor
    · intro e he
      rcases List.mem_append.mp he with he | he
      · obtain ⟨x, hx, heq⟩ := h.mapped e he
        exact ⟨x, SortedMap.mem_insertEntry_of_mem hx, heq⟩
      · rw [List.mem_singleton.mp he]
        exact SortedMap.exists_key_insertEntry _ _ _
    · intro x hx
      rcases SortedMap.mem_insertEntry hx with rfl | hx
      · -- No entry before has the index, or its context would be there.
        refine ⟨entry.1, ?_, htakes, rfl⟩
        have hnone : table.find? (fun e => e.2 == entry.2) = none := by
          rw [List.find?_eq_none]
          intro e he heq
          obtain ⟨x, hx, hkey⟩ := h.mapped e he
          refine hnew (List.any_eq_true.mpr ⟨x, hx, ?_⟩)
          rw [hkey]
          exact heq
        rw [List.find?_append, hnone, Option.none_or]
        exact List.find?_cons_of_pos (by simp)
      · exact hold x hx

/-- The loop over the entries. -/
theorem emplaceProfiles_of_ok {table : List (String × ℤ)} {contexts : SortedMap ℤ TensorRTContext}
    (h : table.foldlM loader.emplaceProfile SortedMap.empty = .ok contexts) :
    ContextsOf loader table contexts := by
  have hdone : ContextsOf loader table.reverse.reverse contexts :=
    foldlM_invariant_done (P := fun done contexts => ContextsOf loader done.reverse contexts)
      (fun done contexts entry contexts' hdone hstep => by
        rw [List.reverse_cons]
        exact emplaceProfile_of_ok hdone hstep)
      h ⟨fun e he => absurd he List.not_mem_nil, fun x hx => absurd hx List.not_mem_nil⟩
  rwa [List.reverse_reverse] at hdone

theorem emplaceProfiles_total {table : List (String × ℤ)} (h : ∀ entry ∈ table, loader.Takes entry.2)
    (contexts : SortedMap ℤ TensorRTContext) :
    ∃ contexts', table.foldlM loader.emplaceProfile contexts = .ok contexts' := by
  induction table generalizing contexts with
  | nil => exact ⟨contexts, rfl⟩
  | cons entry table ih =>
      obtain ⟨hentry, htable⟩ := List.forall_mem_cons.mp h
      have hstep : ∃ mid, loader.emplaceProfile contexts entry = .ok mid := by
        rw [emplaceProfile]
        split
        · exact ⟨contexts, rfl⟩
        · exact ⟨_, bind_eq_ok.mpr ⟨_, createContext_eq_ok.mpr ⟨hentry, rfl⟩, rfl⟩⟩
      obtain ⟨mid, hmid⟩ := hstep
      obtain ⟨contexts', hrest⟩ := ih htable mid
      exact ⟨contexts', foldlM_cons_eq_ok.mpr ⟨mid, hmid, hrest⟩⟩

/-- There is an entry, the default one if there is no name. -/
theorem profileNameIndex_ne_nil {profileNames : List String} {table : List (String × ℤ)}
    (h : profileNameIndex profileNames = .ok table) : table ≠ [] := by
  unfold profileNameIndex at h
  by_cases hnames : profileNames = []
  · rw [if_pos hnames] at h
    rw [← Except.ok.inj h]
    exact List.cons_ne_nil _ _
  · rw [if_neg hnames] at h
    have hlength := (mapM_eq_ok.mp h).length_eq
    rintro rfl
    exact hnames (List.length_eq_zero_iff.mp hlength)

/-- The engine is the one of the plan: it gives a context for each of its profiles, whose dims are
dims of the tensors. -/
structure EngineOf (loader : ProfileLoader) (plan : Plan) : Prop where
  nbOptimizationProfiles : loader.nbOptimizationProfiles = plan.nbOptimizationProfiles
  nb_pos : 0 < loader.nbOptimizationProfiles
  takes : ∀ idx, 0 ≤ idx → idx < loader.nbOptimizationProfiles → loader.Takes idx
  ints : ∀ idx, 0 ≤ idx → idx < loader.nbOptimizationProfiles → ∀ io,
    ∀ x ∈ dimsToDimVec (loader.profileShape idx io).maxDims, 0 ≤ x ∧ toInt32 x = x
  rank : ∀ idx, 0 ≤ idx → idx < loader.nbOptimizationProfiles → ∀ io t,
    loader.tensors[io]? = some t → t.isInput = true →
      (loader.profileShape idx io).maxDims.nbDims = t.shape.nbDims
  known : ∀ idx, 0 ≤ idx → idx < loader.nbOptimizationProfiles → ∀ io t,
    loader.tensors[io]? = some t → t.isInput = true → ∀ i < t.shape.nbDims, t.shape.dim i ≠ -1 →
      (loader.profileShape idx io).minDims.dim i ≤ t.shape.dim i ∧
        t.shape.dim i ≤ (loader.profileShape idx io).maxDims.dim i

/-- The dims of an input are those of the profile. -/
theorem contextOf_dims {profileName : String} {idx : ℤ} {io : ℕ} {t : BoundTensor}
    (ht : loader.tensors[io]? = some t) (hinput : t.isInput = true) :
    (loader.contextOf profileName idx).dims.getD io default = loader.profileShape idx io := by
  rw [contextOf, List.getD_eq_getElem?_getD, List.getElem?_map, List.getElem?_zipIdx, ht]
  show (if t.isInput then loader.profileShape idx (0 + io) else default) = _
  rw [if_pos hinput, Nat.zero_add]

/-- There are no others. -/
theorem contextOf_dims_of_not_input {profileName : String} {idx : ℤ} {io : ℕ}
    (h : ∀ t, loader.tensors[io]? = some t → t.isInput = false) :
    (loader.contextOf profileName idx).dims.getD io default = default := by
  rw [contextOf, List.getD_eq_getElem?_getD, List.getElem?_map, List.getElem?_zipIdx]
  cases ht : loader.tensors[io]? with
  | none => rfl
  | some t =>
      show (if t.isInput then loader.profileShape idx (0 + io) else default) = _
      rw [h t ht, if_neg Bool.false_ne_true]

/-- A context for one of the profiles is what the load expects. -/
theorem EngineOf.profileOf {plan : Plan} {ioLoader : IoLoader} {profileName : String} {idx : ℤ}
    (h : loader.EngineOf plan) (htensors : ioLoader.tensors = loader.tensors) (hlow : 0 ≤ idx)
    (hhigh : idx < loader.nbOptimizationProfiles) :
    ProfileOf ioLoader (loader.contextOf profileName idx) where
  ints := by
    intro io
    rw [TensorRTContext.maxDims]
    cases ht : loader.tensors[io]? with
    | none =>
        rw [contextOf_dims_of_not_input fun t ht' => by rw [ht] at ht'; cases ht']
        exact fun x hx => absurd hx List.not_mem_nil
    | some t =>
        cases hinput : t.isInput with
        | true =>
            rw [contextOf_dims ht hinput]
            exact h.ints idx hlow hhigh io
        | false =>
            rw [contextOf_dims_of_not_input fun t' ht' => by
              rw [ht] at ht'; exact Option.some.inj ht' ▸ hinput]
            exact fun x hx => absurd hx List.not_mem_nil
  rank := by
    intro io t ht hinput
    rw [htensors] at ht
    rw [TensorRTContext.maxDims, contextOf_dims ht hinput]
    exact h.rank idx hlow hhigh io t ht hinput
  known := by
    intro io t ht hinput i hi _ hne
    rw [htensors] at ht
    rw [TensorRTContext.maxDims, TensorRTContext.minDims, contextOf_dims ht hinput]
    exact h.known idx hlow hhigh io t ht hinput i hi hne

/-- What completing a configuration has checked of the profiles: every name is read, and is the
number of a profile of the plan. -/
theorem profiles_of_completed {modelPath : String} {plan : Plan} {config config' : ModelConfig}
    (h : autoCompleteConfigHelper modelPath (some plan) config = .ok config') :
    ∀ group ∈ config.instanceGroups, ∀ name ∈ group, ∃ idx, getProfileIndex name = .ok idx ∧
      0 ≤ idx ∧ idx < plan.nbOptimizationProfiles := by
  obtain ⟨hints, supported, m, inputs, outputs, -, hsupported, -, -, -, -, -⟩ :=
    autoCompleteConfigHelper_eq_ok.mp h
  obtain ⟨indices, hindices, -⟩ := bind_eq_ok.mp hsupported
  obtain ⟨listed, hlisted, -⟩ := bind_eq_ok.mp hindices
  intro group hgroup name hname
  obtain ⟨before, behind, hgroup⟩ := exists_step_of_foldlM hlisted hgroup
  obtain ⟨before, behind, hstep⟩ := exists_step_of_foldlM hgroup hname
  obtain ⟨idx, hidx, hstep⟩ := bind_eq_ok.mp hstep
  obtain ⟨⟨⟩, hrange, -⟩ := bind_eq_ok.mp hstep
  obtain ⟨hlow, hhigh⟩ := not_or.mp (failIf_eq_ok.mp hrange)
  exact ⟨idx, hidx, not_lt.mp hlow, not_le.mp hhigh⟩

/-- The entries of a group are in range. -/
theorem profileNameIndex_of_completed {n : ℤ} {group : List String} (hpos : 0 < n)
    (h : ∀ name ∈ group, ∃ idx, getProfileIndex name = .ok idx ∧ 0 ≤ idx ∧ idx < n) :
    ∃ table, profileNameIndex group = .ok table ∧ ∀ entry ∈ table, 0 ≤ entry.2 ∧ entry.2 < n := by
  unfold profileNameIndex
  by_cases hgroup : group = []
  · rw [if_pos hgroup]
    refine ⟨_, rfl, fun entry hentry => ?_⟩
    rw [List.mem_singleton.mp hentry]
    exact ⟨le_rfl, hpos⟩
  · rw [if_neg hgroup]
    have hpairs : ∀ name ∈ group, ∃ entry : String × ℤ, (do
        let idx ← getProfileIndex name
        pure (name, idx) : Result (String × ℤ)) = .ok entry := by
      intro name hname
      obtain ⟨idx, hidx, -⟩ := h name hname
      exact ⟨(name, idx), bind_eq_ok.mpr ⟨idx, hidx, rfl⟩⟩
    obtain ⟨table, htable⟩ := exists_mapM_eq_ok hpairs
    refine ⟨table, htable, fun entry hentry => ?_⟩
    obtain ⟨name, hname, hstep⟩ := exists_of_mem_mapM htable hentry
    obtain ⟨idx, hidx, hstep⟩ := bind_eq_ok.mp hstep
    obtain ⟨idx', hidx', hrange⟩ := h name hname
    rw [← pure_eq_ok.mp hstep, Except.ok.inj (hidx.symm.trans hidx')]
    exact hrange

theorem rowDims_rank (r r' : ℤ) : (rowDims r).nbDims = (rowDims r').nbDims := rfl

/-- Up to four rows. -/
def fourRowProfile : ProfileDims where
  minDims := rowDims 1
  maxDims := rowDims 4
  optDims := rowDims 4
  min_rank := rowDims_rank 1 4
  opt_rank := rowDims_rank 4 4
  min_nonneg := rowProfile.min_nonneg

/-- The engine of the model of two profiles. -/
def rowEngine : ProfileLoader where
  name := "rows"
  tensors := [rowTensor "x" true, rowTensor "y" false]
  nbOptimizationProfiles := 2
  profileShape := fun idx _ => if idx = 0 then fourRowProfile else rowProfile

theorem rowEngine_profileShape (idx : ℤ) (io : ℕ) :
    rowEngine.profileShape idx io = fourRowProfile ∨ rowEngine.profileShape idx io = rowProfile := by
  show (if idx = 0 then fourRowProfile else rowProfile) = _ ∨ _
  by_cases hidx : idx = 0
  · exact Or.inl (if_pos hidx)
  · exact Or.inr (if_neg hidx)

theorem rowEngine_of : rowEngine.EngineOf twoProfilePlan where
  nbOptimizationProfiles := rfl
  nb_pos := by decide
  takes := fun _ _ _ => ⟨rfl, fun _ => rfl⟩
  ints := by
    intro idx _ _ io
    rcases rowEngine_profileShape idx io with h | h
    · rw [h]
      decide
    · rw [h]
      exact rowProfile_ints
  rank := by
    intro idx _ _ io t ht _
    have hshape : t.shape.nbDims = 2 := by
      rcases rowTensors_mem (List.mem_of_getElem? ht) with rfl | rfl
      · rfl
      · rfl
    rw [hshape]
    rcases rowEngine_profileShape idx io with h | h
    · rw [h]
      rfl
    · rw [h]
      rfl
  known := by
    intro idx _ _ io t ht _ i hi hknown
    have hshape : t.shape = rowDims (-1) := by
      rcases rowTensors_mem (List.mem_of_getElem? ht) with rfl | rfl
      · rfl
      · rfl
    rw [hshape] at hi hknown ⊢
    have hi' : i < 2 := hi
    have hne : i ≠ 0 := fun h => hknown (h ▸ rfl)
    obtain rfl : i = 1 := by omega
    rcases rowEngine_profileShape idx io with h | h
    · rw [h]
      decide
    · rw [h]
      decide

theorem rowEngine_contexts_ne : [rowEngine.contextOf "1" 1] ≠ [] := List.cons_ne_nil _ _

theorem rowEngine_contexts_shapes : ∀ ctx ∈ [rowEngine.contextOf "1" 1],
    ctx.shapes.length = [rowTensor "x" true, rowTensor "y" false].length := by
  intro ctx hctx
  rw [List.mem_singleton.mp hctx]
  rfl

/-- The instance on the context it gets. -/
def rowInstance (config : ModelConfig) : IoLoader :=
  { rowLoader config with
    trtContexts := [rowEngine.contextOf "1" 1]
    contexts_ne := rowEngine_contexts_ne
    shapes_length := rowEngine_contexts_shapes }

end ProfileLoader

end TensorrtBackend

import TensorrtBackend.AutoComplete

/-!
# The batch size auto-completion finds

`GetMaxSupportedBatchSize` takes the largest of the batch sizes that the profiles of all instance
groups support, while an instance creates contexts for the profiles of its own group only.  A group
without a list gets profile 0, which is asked only when no group has a list.

* `mem_getProfileIndices`: which profiles are asked.
* `autoCompleted_servable_iff`: which instance groups serve the batch size that is set.
-/

namespace TensorrtBackend

open Checked

/-! ### The profiles asked -/

theorem addProfileIndex_eq_ok {modelName : String} {numProfiles : ℤ} {indices indices' : List ℤ}
    {profile : String}
    (h : addProfileIndex modelName numProfiles indices profile = .ok indices') :
    ∃ idx, getProfileIndex profile = .ok idx ∧ indices' = indices.insert idx := by
  obtain ⟨idx, hidx, h⟩ := bind_eq_ok.mp h
  obtain ⟨-, -, h⟩ := bind_eq_ok.mp h
  exact ⟨idx, hidx, (pure_eq_ok.mp h).symm⟩

/-- The profiles of one group are added to the set. -/
theorem mem_addProfileIndices {modelName : String} {numProfiles : ℤ} {profiles : List String}
    {indices indices' : List ℤ}
    (h : profiles.foldlM (addProfileIndex modelName numProfiles) indices = .ok indices') :
    (∀ name ∈ profiles, ∃ p, getProfileIndex name = .ok p) ∧
      ∀ p, p ∈ indices' ↔ p ∈ indices ∨ ∃ name ∈ profiles, getProfileIndex name = .ok p := by
  induction profiles generalizing indices with
  | nil =>
      rw [List.foldlM_nil, pure_eq_ok] at h
      simp [h]
  | cons name profiles ih =>
      obtain ⟨mid, hmid, h⟩ := foldlM_cons_eq_ok.mp h
      obtain ⟨idx, hidx, rfl⟩ := addProfileIndex_eq_ok hmid
      obtain ⟨hparse, hmem⟩ := ih h
      refine ⟨List.forall_mem_cons.mpr ⟨⟨idx, hidx⟩, hparse⟩, fun p => ?_⟩
      have hp : p = idx ↔ getProfileIndex name = .ok p := by
        rw [hidx, Except.ok.injEq]
        exact eq_comm
      rw [hmem, List.mem_insert_iff, List.exists_mem_cons_iff, hp, or_left_comm, or_assoc]

/-- The profiles of all groups. -/
theorem mem_groupProfileIndices {modelName : String} {numProfiles : ℤ}
    {groups : List (List String)} {indices indices' : List ℤ}
    (h : groups.foldlM (fun indices profiles =>
      profiles.foldlM (addProfileIndex modelName numProfiles) indices) indices = .ok indices') :
    (∀ group ∈ groups, ∀ name ∈ group, ∃ p, getProfileIndex name = .ok p) ∧
      ∀ p, p ∈ indices' ↔
        p ∈ indices ∨ ∃ group ∈ groups, ∃ name ∈ group, getProfileIndex name = .ok p := by
  induction groups generalizing indices with
  | nil =>
      rw [List.foldlM_nil, pure_eq_ok] at h
      simp [h]
  | cons group groups ih =>
      obtain ⟨mid, hmid, h⟩ := foldlM_cons_eq_ok.mp h
      obtain ⟨hparse, hmem⟩ := mem_addProfileIndices hmid
      obtain ⟨hparses, hmems⟩ := ih h
      refine ⟨List.forall_mem_cons.mpr ⟨hparse, hparses⟩, fun p => ?_⟩
      rw [hmems, hmem, List.exists_mem_cons_iff, or_assoc]

/-- **The profiles asked**: those some group lists, and profile 0 when no group lists any. -/
theorem mem_getProfileIndices {config : ModelConfig} {numProfiles : ℤ} {indices : List ℤ}
    (h : getProfileIndices config numProfiles = .ok indices) :
    (∀ group ∈ config.instanceGroups, ∀ name ∈ group, ∃ p, getProfileIndex name = .ok p) ∧
      ∀ p, p ∈ indices ↔
        (∃ group ∈ config.instanceGroups, ∃ name ∈ group, getProfileIndex name = .ok p) ∨
          (∀ group ∈ config.instanceGroups, group = []) ∧ p = 0 := by
  obtain ⟨listed, hlisted, h⟩ := bind_eq_ok.mp h
  obtain ⟨hparse, hmem⟩ := mem_groupProfileIndices hlisted
  refine ⟨hparse, fun p => ?_⟩
  have hlist : ∀ p, p ∈ listed ↔
      ∃ group ∈ config.instanceGroups, ∃ name ∈ group, getProfileIndex name = .ok p :=
    fun p => (hmem p).trans (or_iff_right List.not_mem_nil)
  rw [← pure_eq_ok.mp h, ← hlist]
  by_cases hempty : listed = []
  · have hgroups : ∀ group ∈ config.instanceGroups, group = [] := by
      intro group hgroup
      by_contra hne
      obtain ⟨name, hname⟩ := List.exists_mem_of_ne_nil group hne
      obtain ⟨q, hq⟩ := hparse group hgroup name hname
      have hin := (hlist q).mpr ⟨group, hgroup, name, hname, hq⟩
      rw [hempty] at hin
      exact List.not_mem_nil hin
    rw [if_pos hempty, hempty, List.mem_singleton]
    exact ⟨fun h => Or.inr ⟨hgroups, h⟩, fun h => h.elim (fun h => absurd h List.not_mem_nil) And.right⟩
  · have hgroups : ¬ ∀ group ∈ config.instanceGroups, group = [] := by
      intro hnone
      obtain ⟨q, hq⟩ := List.exists_mem_of_ne_nil listed hempty
      obtain ⟨group, hgroup, name, hname, -⟩ := (hlist q).mp hq
      rw [hnone group hgroup] at hname
      exact List.not_mem_nil hname
    rw [if_neg hempty]
    exact ⟨Or.inl, fun h => h.resolve_right fun hc => hgroups hc.1⟩

/-- The contexts of an instance, by profile: those its group lists, and profile 0 for no list. -/
theorem profileNameIndex_eq_ok {group : List String}
    (hparse : ∀ name ∈ group, ∃ q, getProfileIndex name = .ok q) :
    ∃ profiles, profileNameIndex group = .ok profiles ∧ ∀ p, p ∈ profiles.map Prod.snd ↔
      (∃ name ∈ group, getProfileIndex name = .ok p) ∨ group = [] ∧ p = 0 := by
  unfold profileNameIndex
  by_cases hgroup : group = []
  · subst hgroup
    refine ⟨[("default", 0)], if_pos rfl, fun p => ?_⟩
    simp
  · rw [if_neg hgroup]
    have hpair : ∀ name ∈ group, ∃ x : String × ℤ,
        (do
          let idx ← getProfileIndex name
          pure (name, idx) : Result (String × ℤ)) = .ok x := by
      intro name hmem
      obtain ⟨q, hq⟩ := hparse name hmem
      exact ⟨(name, q), bind_eq_ok.mpr ⟨q, hq, rfl⟩⟩
    obtain ⟨profiles, hprofiles⟩ := exists_mapM_eq_ok hpair
    refine ⟨profiles, hprofiles, fun p => ?_⟩
    rw [or_iff_left fun h => hgroup h.1, List.mem_map]
    constructor
    · rintro ⟨x, hx, rfl⟩
      obtain ⟨name, hname, hx⟩ := exists_of_mem_mapM hprofiles hx
      obtain ⟨q, hq, h⟩ := bind_eq_ok.mp hx
      exact ⟨name, hname, by rw [hq, ← pure_eq_ok.mp h]⟩
    · rintro ⟨name, hname, hp⟩
      obtain ⟨x, hx, hmem⟩ := exists_mem_of_mapM hprofiles hname
      obtain ⟨q, hq, h⟩ := bind_eq_ok.mp hmem
      refine ⟨x, hx, ?_⟩
      rw [← pure_eq_ok.mp h]
      exact Except.ok.inj (hq.symm.trans hp)

/-! ### The largest batch -/

theorem le_foldl_maxBatch {tensors : List PlanTensor} {p v acc : ℤ} :
    v ≤ tensors.foldl (fun maxBatchSize t =>
        if t.isInput then
          if t.maxBatch p < maxBatchSize then t.maxBatch p else maxBatchSize
        else maxBatchSize) acc ↔
      v ≤ acc ∧ ∀ t ∈ tensors, t.isInput = true → v ≤ t.maxBatch p := by
  induction tensors generalizing acc with
  | nil => simp
  | cons t tensors ih =>
      rw [List.foldl_cons, ih, List.forall_mem_cons, ← and_assoc]
      refine and_congr_left fun _ => ?_
      by_cases ht : t.isInput = true
      · rw [if_pos ht]
        split <;> simp only [ht, forall_const] <;> omega
      · rw [if_neg ht]
        exact (and_iff_left fun h => absurd h ht).symm

/-- What a profile supports is what every input takes, and an `int`. -/
theorem le_getProfileMaxBatchSize (plan : Plan) (p v : ℤ) :
    v ≤ getProfileMaxBatchSize plan p ↔ v ≤ intMax ∧ ∀ t ∈ plan.ios true, v ≤ t.maxBatch p := by
  rw [getProfileMaxBatchSize, le_foldl_maxBatch]
  simp only [Plan.mem_ios, and_imp]

/-- The running maximum is attained, and it bounds every profile. -/
theorem runningMax_spec (plan : Plan) (indices : List ℤ) (m : ℕ) :
    ∃ best, indices.foldl (runningMaxBatchSize plan) m = best ∧
      m ≤ best ∧ (∀ p ∈ indices, getProfileMaxBatchSize plan p ≤ best) ∧
        (best = m ∨ ∃ p ∈ indices, getProfileMaxBatchSize plan p = best) := by
  induction indices generalizing m with
  | nil => exact ⟨m, rfl, le_rfl, fun p hp => absurd hp List.not_mem_nil, Or.inl rfl⟩
  | cons p indices ih =>
      rw [List.foldl_cons, runningMaxBatchSize]
      split
      · rename_i hlt
        obtain ⟨best, heq, hle, hbound, hattained⟩ := ih (getProfileMaxBatchSize plan p).toNat
        refine ⟨best, heq, by omega, List.forall_mem_cons.mpr ⟨by omega, hbound⟩, ?_⟩
        rcases hattained with hbest | ⟨q, hq, hbest⟩
        · exact Or.inr ⟨p, List.mem_cons_self, by omega⟩
        · exact Or.inr ⟨q, List.mem_cons_of_mem _ hq, hbest⟩
      · rename_i hge
        obtain ⟨best, heq, hle, hbound, hattained⟩ := ih m
        refine ⟨best, heq, hle, List.forall_mem_cons.mpr ⟨by omega, hbound⟩, ?_⟩
        rcases hattained with hbest | ⟨q, hq, hbest⟩
        · exact Or.inl hbest
        · exact Or.inr ⟨q, List.mem_cons_of_mem _ hq, hbest⟩

/-- The batch size that is found is that of one of the profiles asked, if it is not 0, and none of
them supports more. -/
theorem getMaxSupportedBatchSize_spec {plan : Plan} {config : ModelConfig} {m : ℕ}
    (h : getMaxSupportedBatchSize plan config = .ok m) :
    ∃ indices, getProfileIndices config plan.nbOptimizationProfiles = .ok indices ∧
      (∀ p ∈ indices, getProfileMaxBatchSize plan p ≤ m) ∧
        (m = 0 ∨ ∃ p ∈ indices, getProfileMaxBatchSize plan p = m) := by
  obtain ⟨indices, hindices, h⟩ := bind_eq_ok.mp h
  obtain ⟨best, hbest, -, hbound, hattained⟩ := runningMax_spec plan indices 0
  rw [pure_eq_ok, hbest] at h
  rw [← h]
  exact ⟨indices, hindices, hbound, hattained⟩

/-! ### What an instance group serves -/

/-- Some profile the instances of the group create a context for takes `m` on every input. -/
def GroupServes (plan : Plan) (m : ℕ) (group : List String) : Prop :=
  ∃ profiles, profileNameIndex group = .ok profiles ∧
    ∃ x ∈ profiles, ∀ t ∈ plan.ios true, (m : ℤ) ≤ t.maxBatch x.2

/-- The profiles some group lists, and profile 0 when no group lists any. -/
def AskedProfile (groups : List (List String)) (p : ℤ) : Prop :=
  (∃ group ∈ groups, ∃ name ∈ group, getProfileIndex name = .ok p) ∨
    (∀ group ∈ groups, group = []) ∧ p = 0

/-- Some profile of the group supports the largest batch of all the profiles asked. -/
def HasLargestBatch (plan : Plan) (groups : List (List String)) (group : List String) : Prop :=
  ∃ profiles, profileNameIndex group = .ok profiles ∧
    ∃ x ∈ profiles, ∀ p, AskedProfile groups p →
      getProfileMaxBatchSize plan p ≤ getProfileMaxBatchSize plan x.2

/-- A group serves what is supported exactly when one of its profiles supports the most. -/
theorem groupServes_iff {plan : Plan} {config : ModelConfig} {m : ℕ} (hm : 0 < m)
    (h : getMaxSupportedBatchSize plan config = .ok m) (group : List String) :
    GroupServes plan m group ↔ HasLargestBatch plan config.instanceGroups group := by
  obtain ⟨indices, hindices, hbound, hattained⟩ := getMaxSupportedBatchSize_spec h
  have hmem := (mem_getProfileIndices hindices).2
  obtain ⟨best, hbest, hmax⟩ := hattained.resolve_left hm.ne'
  have hint : (m : ℤ) ≤ intMax := ((le_getProfileMaxBatchSize plan best m).mp hmax.ge).1
  have hserves : ∀ p, (∀ t ∈ plan.ios true, (m : ℤ) ≤ t.maxBatch p) ↔
      (m : ℤ) ≤ getProfileMaxBatchSize plan p := by
    intro p
    rw [le_getProfileMaxBatchSize, and_iff_right hint]
  have hlargest : ∀ p, (m : ℤ) ≤ getProfileMaxBatchSize plan p ↔ ∀ q,
      AskedProfile config.instanceGroups q →
        getProfileMaxBatchSize plan q ≤ getProfileMaxBatchSize plan p := by
    intro p
    constructor
    · exact fun hle q hq => (hbound q ((hmem q).mpr hq)).trans hle
    · intro hall
      rw [← hmax]
      exact hall best ((hmem best).mp hbest)
  simp only [GroupServes, HasLargestBatch, hserves, hlargest]

/-- **Which groups serve the batch size that is set.** When auto-completion sets `max_batch_size`,
every instance group serves it exactly when each group has a profile, listed or the default one,
that supports the largest batch of all the profiles asked. -/
theorem autoCompleted_servable_iff {modelPath : String} {plan : Plan} {config config' : ModelConfig}
    (hunset : config.maxBatchSize = 0)
    (h : autoCompleteConfigHelper modelPath (some plan) config = .ok config')
    (hset : 0 < config'.maxBatchSize) :
    (∀ group ∈ config.instanceGroups, GroupServes plan config'.maxBatchSize group) ↔
      ∀ group ∈ config.instanceGroups, HasLargestBatch plan config.instanceGroups group := by
  obtain ⟨hints, supported, m, inputs, outputs, -, hsupported, hm, -, -, -, rfl⟩ :=
    autoCompleteConfigHelper_eq_ok.mp h
  have hmax : (completedConfig config m inputs outputs).maxBatchSize = m := by
    rw [completedConfig_maxBatchSize, completedBatchSize, if_pos hunset]
  rw [hmax] at hset ⊢
  have hm := (hintedBatchSize_eq_ok.mp hm).2
  split at hm
  · exact absurd hm hset.ne'
  · rw [hm] at hset ⊢
    exact forall₂_congr fun group _ => groupServes_iff hset hsupported group

theorem two_le_maxDimsCount (a b : ℤ) : [a, b].length ≤ maxDimsCount := Nat.le_of_ble_eq_true rfl

/-- Rows of three elements. -/
def rowDims (rows : ℤ) : Dims := Dims.ofList [rows, 3] (two_le_maxDimsCount rows 3)

/-- A plan with a matrix input whose first profile takes batches of 4 and whose second takes batches
of 8. -/
def twoProfilePlan : Plan where
  tensors :=
    [{ name := "x", isInput := true, shape := rowDims (-1),
       maxShape := fun p => rowDims (if p = 0 then 4 else 8) },
     { name := "y", isInput := false, shape := rowDims (-1) }]
  nbOptimizationProfiles := 2
  names_nodup := by decide

/-- An instance group for each of the profiles. -/
def twoGroupConfig : ModelConfig := { instanceGroups := [["0"], ["1"]] }

theorem twoGroupConfig_completed :
    ∃ config', autoCompleteConfigHelper "" (some twoProfilePlan) twoGroupConfig = .ok config' ∧
      config'.maxBatchSize = 8 := ⟨_, rfl, rfl⟩

/-- A group with both profiles and one with the larger one. -/
def sharedGroupConfig : ModelConfig := { instanceGroups := [["0", "1"], ["1"]] }

theorem sharedGroupConfig_asked {p : ℤ} (hp : AskedProfile sharedGroupConfig.instanceGroups p) :
    p = 0 ∨ p = 1 := by
  rcases hp with ⟨group, hgroup, name, hname, hp⟩ | ⟨hempty, -⟩
  · have hnames : name = "0" ∨ name = "1" := by
      simp only [sharedGroupConfig, List.mem_cons, List.not_mem_nil, or_false] at hgroup
      rcases hgroup with rfl | rfl
      · simpa using hname
      · exact Or.inr (by simpa using hname)
    rcases hnames with rfl | rfl
    · exact Or.inl (Except.ok.inj hp).symm
    · exact Or.inr (Except.ok.inj hp).symm
  · exact absurd (hempty ["1"] (by decide)) (by decide)

/-- The theorem for these groups, both of which have the larger profile. -/
theorem autoCompleted_servable_shared :
    ∃ config', autoCompleteConfigHelper "" (some twoProfilePlan) sharedGroupConfig = .ok config' ∧
      config'.maxBatchSize = 8 ∧
      ∀ group ∈ sharedGroupConfig.instanceGroups,
        GroupServes twoProfilePlan config'.maxBatchSize group := by
  obtain ⟨config', h, hset⟩ : ∃ config', autoCompleteConfigHelper "" (some twoProfilePlan)
      sharedGroupConfig = .ok config' ∧ config'.maxBatchSize = 8 := ⟨_, rfl, rfl⟩
  refine ⟨config', h, hset, (autoCompleted_servable_iff rfl h (by rw [hset]; decide)).mpr ?_⟩
  have hlargest : ∀ p, AskedProfile sharedGroupConfig.instanceGroups p →
      getProfileMaxBatchSize twoProfilePlan p ≤ getProfileMaxBatchSize twoProfilePlan 1 := by
    intro p hp
    rcases sharedGroupConfig_asked hp with rfl | rfl
    · decide
    · exact le_rfl
  intro group hgroup
  simp only [sharedGroupConfig, List.mem_cons, List.not_mem_nil, or_false] at hgroup
  rcases hgroup with rfl | rfl
  · exact ⟨[("0", 0), ("1", 1)], rfl, ("1", 1), by decide, hlargest⟩
  · exact ⟨[("1", 1)], rfl, ("1", 1), by decide, hlargest⟩

/-- The instances of the first group have no profile for the batch size that is set. -/
theorem autoCompleted_unservable_group :
    ¬ ∀ (plan : Plan) (config config' : ModelConfig),
      autoCompleteConfigHelper "" (some plan) config = .ok config' → config.maxBatchSize = 0 →
        0 < config'.maxBatchSize →
          ∀ group ∈ config.instanceGroups, GroupServes plan config'.maxBatchSize group := by
  intro hall
  obtain ⟨config', h, hset⟩ := twoGroupConfig_completed
  obtain ⟨profiles, hprofiles, x, hx, hserves⟩ :=
    hall twoProfilePlan twoGroupConfig config' h rfl (by rw [hset]; decide) ["0"] (by decide)
  rw [show profileNameIndex ["0"] = .ok [("0", 0)] from rfl, Except.ok.injEq] at hprofiles
  rw [← hprofiles, List.mem_singleton] at hx
  have hle := hserves _ (List.mem_singleton.mpr rfl)
  rw [hset, hx] at hle
  exact absurd hle (by decide)

end TensorrtBackend

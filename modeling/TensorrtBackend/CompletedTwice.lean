import Mathlib.Data.List.Find
import Mathlib.Data.List.TakeWhile
import TensorrtBackend.HintLoop
import TensorrtBackend.SupportedBatch

/-!
# Completing a completed configuration

What `FixIO` fills in it does not fill in again, but the dims it fills in are hints the next time.
With batching they hint for it, and the loop does not accept a hint against batching behind them,
while it did accept one in front of a hint for batching.

* `fixEntry_again`: filling in is idempotent.
* `hint_fixEntry`: what a filled-in entry hints.
* `completed_twice_iff`: when completing again changes nothing.
-/

namespace TensorrtBackend

open Checked

/-- The names of the plan have no spaces, and only shape tensors are scalars. -/
structure Plan.Plain (plan : Plan) : Prop where
  no_space : ∀ t ∈ plan.tensors, ' ' ∉ t.name.toList
  rank : ∀ t ∈ plan.tensors, t.isShapeInferenceIo = false → 1 ≤ t.shape.nbDims

/-! ### Filling in -/

theorem nameUpToSpace_eq_self {name : String} (h : ' ' ∉ name.toList) : nameUpToSpace name = name := by
  have htake : name.toList.takeWhile (· ≠ ' ') = name.toList := by
    rw [List.takeWhile_eq_self_iff]
    intro c hc
    exact decide_eq_true fun hspace => h (hspace ▸ hc)
  rw [nameUpToSpace, htake, String.ofList_toList]

/-- The reference entry of a name is made of the tensor of that name. -/
theorem find?_getRefIo {plan : Plan} (hplain : plan.Plain) {isInput : Bool} {maxBatchSize : ℕ}
    (name : String) :
    (getRefIo plan isInput maxBatchSize).find? (fun ref => name == ref.name) =
      ((plan.ios isInput).find? fun t => t.name == name).map (refIo maxBatchSize) := by
  rw [getRefIo, List.find?_map]
  congr 1
  refine List.find?_congr fun t ht => ?_
  show (name == nameUpToSpace t.name) = (t.name == name)
  rw [nameUpToSpace_eq_self (hplain.no_space t (Plan.mem_ios.mp ht).1), Bool.beq_comm]

theorem fixFlag_again {flag flag' : Option Bool} {detected : Bool} {message : String}
    (h : fixFlag flag detected message = .ok flag') : fixFlag flag' detected message = .ok flag' := by
  cases flag with
  | none =>
      cases h
      cases detected <;> rfl
  | some val =>
      cases val <;> cases detected <;> cases h <;> rfl

theorem fixDataType_again (dataType ref : Option String) :
    fixDataType (fixDataType dataType ref) ref = fixDataType dataType ref := by
  have href : fixDataType ref ref = ref := by
    cases ref with
    | none => rfl
    | some dt => exact ite_self _
  cases dataType with
  | none => exact href
  | some dt =>
      by_cases hunset : dt = "" ∨ dt = "TYPE_INVALID"
      · rw [show fixDataType (some dt) ref = ref from if_pos hunset, href]
      · rw [show fixDataType (some dt) ref = some dt from if_neg hunset]
        exact if_neg hunset

/-- The entry with what the reference entry has for it. -/
def ConfigIo.filled (io ref : ConfigIo) (isShapeTensor isNonLinearFormatIo : Option Bool) : ConfigIo :=
  { io with
    dataType := fixDataType io.dataType ref.dataType
    dims := if io.dims.getD [] = [] then ref.dims else io.dims
    reshape := if io.dims.getD [] = [] then io.reshape.or ref.reshape else io.reshape
    isShapeTensor := isShapeTensor
    isNonLinearFormatIo := isNonLinearFormatIo }

/-- The entry is left alone when there is no reference entry, and filled in otherwise. -/
theorem fixEntry_eq_ok {plan : Plan} {refs : List ConfigIo} {io io' : ConfigIo} :
    fixEntry plan refs io = .ok io' ↔
      refs.find? (fun ref => io.name == ref.name) = none ∧ io' = io ∨
      ∃ ref, refs.find? (fun ref => io.name == ref.name) = some ref ∧
        fixFlag io.isShapeTensor (plan.isShapeInferenceIo io.name)
            ("'" ++ io.name ++ "' is incorrectly specified as a shape tensor.") =
          .ok io'.isShapeTensor ∧
        fixFlag io.isNonLinearFormatIo (plan.isNonLinearFormatIo io.name)
            ("'" ++ io.name ++ "' uses a linear IO format, but 'is_non_linear_format_io' " ++
              "is incorrectly set to true in the model configuration.") =
          .ok io'.isNonLinearFormatIo ∧
        io' = io.filled ref io'.isShapeTensor io'.isNonLinearFormatIo := by
  unfold fixEntry
  cases hfind : refs.find? fun ref => io.name == ref.name with
  | none =>
      constructor
      · intro h
        exact Or.inl ⟨rfl, (pure_eq_ok.mp h).symm⟩
      · rintro (⟨-, rfl⟩ | ⟨ref, href, -⟩)
        · rfl
        · cases href
  | some ref =>
      constructor
      · intro h
        obtain ⟨isShapeTensor, hshape, h⟩ := bind_eq_ok.mp h
        obtain ⟨isNonLinearFormatIo, hformat, h⟩ := bind_eq_ok.mp h
        rw [← pure_eq_ok.mp h]
        exact Or.inr ⟨ref, rfl, hshape, hformat, rfl⟩
      · rintro (⟨hnone, -⟩ | ⟨_, href, hshape, hformat, hio⟩)
        · cases hnone
        · cases href
          refine bind_eq_ok.mpr ⟨_, hshape, bind_eq_ok.mpr ⟨_, hformat, ?_⟩⟩
          exact congrArg Except.ok hio.symm

theorem ConfigIo.filled_again {io ref : ConfigIo} {s n : Option Bool} :
    (io.filled ref s n).filled ref s n = io.filled ref s n := by
  have hdims : (io.filled ref s n).dims = if io.dims.getD [] = [] then ref.dims else io.dims := rfl
  have hreshape : (io.filled ref s n).reshape =
      if io.dims.getD [] = [] then io.reshape.or ref.reshape else io.reshape := rfl
  have hdims' : (if (io.filled ref s n).dims.getD [] = [] then ref.dims
      else (io.filled ref s n).dims) = (io.filled ref s n).dims := by
    rw [hdims]
    by_cases hempty : io.dims.getD [] = []
    · rw [if_pos hempty, ite_self]
    · rw [if_neg hempty, if_neg hempty]
  have hreshape' : (if (io.filled ref s n).dims.getD [] = [] then
        (io.filled ref s n).reshape.or ref.reshape
      else (io.filled ref s n).reshape) = (io.filled ref s n).reshape := by
    rw [hdims, hreshape]
    by_cases hempty : io.dims.getD [] = []
    · rw [if_pos hempty, if_pos hempty, Option.or_assoc, Option.or_self, ite_self]
    · rw [if_neg hempty, if_neg hempty, if_neg hempty]
  rw [ConfigIo.filled, hdims', hreshape', show (io.filled ref s n).dataType =
    fixDataType io.dataType ref.dataType from rfl, fixDataType_again]
  rfl

/-- **Filling in is idempotent.** -/
theorem fixEntry_again {plan : Plan} {refs : List ConfigIo} {io io' : ConfigIo}
    (h : fixEntry plan refs io = .ok io') : fixEntry plan refs io' = .ok io' := by
  rcases fixEntry_eq_ok.mp h with ⟨-, rfl⟩ | ⟨ref, href, hshape, hformat, hio⟩
  · exact h
  · have hname : io'.name = io.name := by
      rw [hio]
      rfl
    refine fixEntry_eq_ok.mpr (Or.inr ⟨ref, ?_, ?_, ?_, ?_⟩)
    · rw [hname, href]
    · rw [hname]
      exact fixFlag_again hshape
    · rw [hname]
      exact fixFlag_again hformat
    · rw [hio]
      exact ConfigIo.filled_again.symm

/-! ### Lists of entries -/

theorem find?_getRefIo_of_mem {plan : Plan} (hplain : plan.Plain) {isInput : Bool}
    {maxBatchSize : ℕ} {t : PlanTensor} (ht : t ∈ plan.ios isInput) :
    (getRefIo plan isInput maxBatchSize).find? (fun ref => t.name == ref.name) =
      some (refIo maxBatchSize t) := by
  have hnodup : ((plan.ios isInput).map PlanTensor.name).Nodup :=
    plan.names_nodup.sublist (List.filter_sublist.map PlanTensor.name)
  rw [find?_getRefIo hplain, find?_name_of_mem hnodup ht]
  rfl

/-- An entry without members becomes the generated one. -/
theorem fixEntry_empty {plan : Plan} (hplain : plan.Plain) {isInput : Bool} {maxBatchSize : ℕ}
    {t : PlanTensor} (ht : t ∈ plan.ios isInput) :
    fixEntry plan (getRefIo plan isInput maxBatchSize) { name := t.name, dims := some [] } =
      .ok (refIo maxBatchSize t) := by
  have hmem := (Plan.mem_ios.mp ht).1
  have htensor := Plan.tensor?_of_mem hmem
  have hname : (refIo maxBatchSize t).name = t.name :=
    nameUpToSpace_eq_self (hplain.no_space t hmem)
  refine fixEntry_eq_ok.mpr (Or.inr ⟨_, find?_getRefIo_of_mem hplain ht, ?_, ?_, ?_⟩)
  · rw [Plan.isShapeInferenceIo, htensor]
    rfl
  · rw [Plan.isNonLinearFormatIo, htensor]
    rfl
  · rw [ConfigIo.mk.injEq]
    exact ⟨hname, rfl, rfl, rfl, rfl, rfl, rfl⟩

/-- `FixIO` fills in the entries, made up ones included. -/
theorem fixIo_eq {plan : Plan} (hplain : plan.Plain) {isInput : Bool} {maxBatchSize : ℕ}
    {ios : List ConfigIo} :
    fixIo plan (getRefIo plan isInput maxBatchSize) ios =
      (fillIos plan isInput ios).mapM (fixEntry plan (getRefIo plan isInput maxBatchSize)) := by
  unfold fixIo fillIos
  split
  · refine (mapM_eq_ok.mpr ?_).symm
    rw [getRefIo, List.forall₂_map_left_iff, List.forall₂_map_right_iff, List.forall₂_same]
    exact fun t ht => fixEntry_empty hplain ht
  · rfl

theorem fillIos_of_fixIo {plan : Plan} (hplain : plan.Plain) {isInput : Bool} {maxBatchSize : ℕ}
    {ios ios' : List ConfigIo}
    (h : fixIo plan (getRefIo plan isInput maxBatchSize) ios = .ok ios') :
    fillIos plan isInput ios' = ios' := by
  rw [fixIo_eq hplain, mapM_eq_ok] at h
  by_cases hnil : ios' = []
  · rw [hnil, List.forall₂_nil_right_iff] at h
    rw [hnil]
    unfold fillIos at h ⊢
    split at h
    · rw [if_pos rfl, h]
    · rename_i hne
      exact absurd h hne
  · exact if_neg hnil

theorem fixIo_again {plan : Plan} (hplain : plan.Plain) {isInput : Bool} {maxBatchSize : ℕ}
    {ios ios' : List ConfigIo}
    (h : fixIo plan (getRefIo plan isInput maxBatchSize) ios = .ok ios') :
    fixIo plan (getRefIo plan isInput maxBatchSize) ios' = .ok ios' := by
  rw [fixIo_eq hplain, fillIos_of_fixIo hplain h, mapM_eq_ok, List.forall₂_same]
  rw [fixIo_eq hplain] at h
  intro io' hio'
  obtain ⟨io, -, hfix⟩ := exists_of_mem_mapM h hio'
  exact fixEntry_again hfix

/-! ### What the user wrote -/

/-- What was written is still there. -/
structure ConfigIo.Preserved (io io' : ConfigIo) : Prop where
  name : io'.name = io.name
  dims : io.dims.getD [] ≠ [] → io'.dims = io.dims
  dataType : ∀ dt, io.dataType = some dt → dt ≠ "" → dt ≠ "TYPE_INVALID" → io'.dataType = some dt

theorem preserved_fixEntry {plan : Plan} {refs : List ConfigIo} {io io' : ConfigIo}
    (h : fixEntry plan refs io = .ok io') : io.Preserved io' := by
  rcases fixEntry_eq_ok.mp h with ⟨-, rfl⟩ | ⟨ref, -, -, -, hio⟩
  · exact ⟨rfl, fun _ => rfl, fun dt hdt _ _ => hdt⟩
  · rw [hio]
    refine ⟨rfl, fun hdims => if_neg hdims, fun dt hdt hempty hinvalid => ?_⟩
    show fixDataType io.dataType ref.dataType = some dt
    rw [hdt]
    exact if_neg (not_or.mpr ⟨hempty, hinvalid⟩)

/-- Every entry is still there, in the same order and with what was written. -/
def IosPreserved (config config' : ModelConfig) : Prop :=
  ∀ isInput, config.ios isInput ≠ [] →
    List.Forall₂ ConfigIo.Preserved (config.ios isInput) (config'.ios isInput)

theorem forall₂_preserved {plan : Plan} {refs ios ios' : List ConfigIo} (hne : ios ≠ [])
    (h : fixIo plan refs ios = .ok ios') : List.Forall₂ ConfigIo.Preserved ios ios' := by
  rw [fixIo, if_neg hne, mapM_eq_ok] at h
  exact h.imp fun io io' => preserved_fixEntry

/-! ### Hints the second time -/

/-- The dims the entry is used with are filled in. -/
def ConfigIo.NeedsDims (io : ConfigIo) : Prop := io.reshape = none ∧ io.dims.getD [] = []

/-- The dims that are filled in become a hint when the model batches: without the batch dimension
there are some left. -/
def ConfigIo.FilledIn (plan : Plan) (io : ConfigIo) : Prop :=
  io.NeedsDims ∧ ∃ t, plan.tensor? io.name = some t ∧
    (if t.isShapeInferenceIo then 1 else 2) ≤ t.shape.nbDims

theorem usedDims_of_not_needsDims {plan : Plan} {refs : List ConfigIo} {io io' : ConfigIo}
    (h : fixEntry plan refs io = .ok io') (hneeds : ¬ io.NeedsDims) : io'.usedDims = io.usedDims := by
  rcases fixEntry_eq_ok.mp h with ⟨-, rfl⟩ | ⟨ref, -, -, -, hio⟩
  · rfl
  · rw [hio]
    show (ConfigIo.filled io ref _ _).usedDims = _
    unfold ConfigIo.usedDims ConfigIo.filled
    cases hreshape : io.reshape with
    | some shape => by_cases hdims : io.dims.getD [] = [] <;> simp [hdims]
    | none =>
        have hdims : io.dims.getD [] ≠ [] := fun hdims => hneeds ⟨hreshape, hdims⟩
        simp only [hdims, if_false]

theorem usedDims_of_needsDims {plan : Plan} {refs : List ConfigIo} {ref io io' : ConfigIo}
    (h : fixEntry plan refs io = .ok io')
    (href : refs.find? (fun ref => io.name == ref.name) = some ref) (hneeds : io.NeedsDims) :
    io'.usedDims = ref.usedDims := by
  rcases fixEntry_eq_ok.mp h with ⟨hnone, -⟩ | ⟨_, href', -, -, hio⟩
  · rw [hnone] at href
    cases href
  · cases href.symm.trans href'
    rw [hio]
    show (ConfigIo.filled io ref _ _).usedDims = _
    simp [ConfigIo.usedDims, ConfigIo.filled, hneeds.1, hneeds.2]

/-- What generated dims hint. -/
theorem refIo_hint (maxBatchSize : ℕ) (t : PlanTensor) :
    ∃ dims, (refIo maxBatchSize t).usedDims = .ok dims ∧
      (maxBatchSize ≠ 0 → (if dims = [] then none else some (t.shouldBatch dims)) =
        if (if t.isShapeInferenceIo then 1 else 2) ≤ t.shape.nbDims then some true else none) ∧
      (maxBatchSize = 0 → dims = [] ∨ t.shouldBatch dims = false) := by
  cases ht : t.isShapeInferenceIo with
  | false =>
      refine ⟨_, refIo_usedDims ht, fun hbatch => ?_, fun hbatch => ?_⟩
      · have hlen : ((dimsToDimVec t.shape).drop 1).length = t.shape.nbDims - 1 := by
          rw [List.length_drop, dimsToDimVec_length]
        rw [if_neg hbatch, PlanTensor.shouldBatch, ht, if_neg Bool.false_ne_true,
          if_neg Bool.false_ne_true, hlen]
        by_cases hrank : 2 ≤ t.shape.nbDims
        · have hne : (dimsToDimVec t.shape).drop 1 ≠ [] := by
            intro hnil
            rw [hnil] at hlen
            simp at hlen
            omega
          rw [if_neg hne, if_pos hrank, decide_eq_true (by omega)]
        · have hnil : (dimsToDimVec t.shape).drop 1 = [] :=
            List.length_eq_zero_iff.mp (by omega)
          rw [if_pos hnil, if_neg hrank]
      · rw [if_pos hbatch, List.drop_zero, PlanTensor.shouldBatch, ht, if_neg Bool.false_ne_true,
          dimsToDimVec_length]
        exact Or.inr (decide_eq_false (by omega))
  | true =>
      refine ⟨_, refIo_usedDims_shape ht, fun hbatch => ?_, fun hbatch => ?_⟩
      · by_cases hrank : t.shape.nbDims = 0
        · simp [hrank]
        · rw [if_neg hrank, if_neg hbatch, if_neg (List.cons_ne_nil _ _), PlanTensor.shouldBatch, ht,
            if_pos rfl, if_pos rfl, if_pos (Nat.one_le_iff_ne_zero.mpr hrank)]
          exact congrArg some (decide_eq_true (by simp))
      · rw [PlanTensor.shouldBatch, ht, if_pos rfl]
        by_cases hrank : t.shape.nbDims = 0
        · exact Or.inl (if_pos hrank)
        · rw [if_neg hrank, if_pos hbatch]
          exact Or.inr (decide_eq_false (by simp))

section Hints

variable {plan : Plan} {isInput : Bool} {maxBatchSize : ℕ} {io io' : ConfigIo}

theorem name_fixEntry {refs : List ConfigIo} (h : fixEntry plan refs io = .ok io') :
    io'.name = io.name ∧ io'.allowRaggedBatch = io.allowRaggedBatch := by
  rcases fixEntry_eq_ok.mp h with ⟨-, rfl⟩ | ⟨ref, -, -, -, hio⟩
  · exact ⟨rfl, rfl⟩
  · rw [hio]
    exact ⟨rfl, rfl⟩

/-- The entry of a tensor takes its dims from the tensor. -/
theorem usedDims_fixEntry (hplain : plan.Plain) {t : PlanTensor} (ht : t ∈ plan.ios isInput)
    (hname : io.name = t.name)
    (h : fixEntry plan (getRefIo plan isInput maxBatchSize) io = .ok io') (hneeds : io.NeedsDims) :
    io'.usedDims = (refIo maxBatchSize t).usedDims :=
  usedDims_of_needsDims h (hname ▸ find?_getRefIo_of_mem hplain ht) hneeds

theorem wellRead_fixEntry (hplain : plan.Plain) (hread : io.WellRead plan isInput)
    (h : fixEntry plan (getRefIo plan isInput maxBatchSize) io = .ok io') :
    io'.WellRead plan isInput := by
  refine ⟨?_, (name_fixEntry h).1 ▸ hread.2⟩
  by_cases hneeds : io.NeedsDims
  · obtain ⟨t, ht, hname⟩ := List.mem_map.mp hread.2
    obtain ⟨dims, hdims, -⟩ := refIo_hint maxBatchSize t
    exact ⟨dims, (usedDims_fixEntry hplain ht hname.symm h hneeds).trans hdims⟩
  · rw [usedDims_of_not_needsDims h hneeds]
    exact hread.1

/-- An entry whose dims are given hints the same again. -/
theorem hint_of_not_needsDims (h : fixEntry plan (getRefIo plan isInput maxBatchSize) io = .ok io')
    (hneeds : ¬ io.NeedsDims) : io'.hint plan = io.hint plan := by
  rw [ConfigIo.hint, ConfigIo.hint, usedDims_of_not_needsDims h hneeds, (name_fixEntry h).1]

/-- An entry whose dims are not given does not hint. -/
theorem hint_of_needsDims (hneeds : io.NeedsDims) : io.hint plan = none := by
  obtain ⟨hreshape, hdims⟩ := hneeds
  unfold ConfigIo.hint ConfigIo.usedDims
  rw [hreshape]
  cases hio : io.dims with
  | none => rfl
  | some dims =>
      rw [hio, Option.getD_some] at hdims
      rw [hdims]
      cases plan.tensor? io.name <;> rfl

/-- **With batching** what is filled in hints for batching. -/
theorem hint_fixEntry (hplain : plan.Plain) (hread : io.WellRead plan isInput)
    (h : fixEntry plan (getRefIo plan isInput maxBatchSize) io = .ok io') (hbatch : maxBatchSize ≠ 0) :
    (io'.hint plan = some true ↔ io.hint plan = some true ∨ io.FilledIn plan) ∧
      (io'.hint plan = some false ↔ io.hint plan = some false) := by
  by_cases hneeds : io.NeedsDims
  · obtain ⟨t, ht, hname⟩ := List.mem_map.mp hread.2
    have htensor : plan.tensor? io.name = some t :=
      hname ▸ Plan.tensor?_of_mem (Plan.mem_ios.mp ht).1
    obtain ⟨dims, hdims, hbatching, -⟩ := refIo_hint maxBatchSize t
    have hused : io'.usedDims = .ok dims :=
      (usedDims_fixEntry hplain ht hname.symm h hneeds).trans hdims
    have htensor' : plan.tensor? io'.name = some t := (name_fixEntry h).1 ▸ htensor
    rw [ConfigIo.hint_eq hused htensor', hbatching hbatch, hint_of_needsDims hneeds]
    have hfilled : io.FilledIn plan ↔
        (if t.isShapeInferenceIo then 1 else 2) ≤ t.shape.nbDims := by
      simp [ConfigIo.FilledIn, hneeds, htensor]
    rw [hfilled]
    by_cases hrank : (if t.isShapeInferenceIo then 1 else 2) ≤ t.shape.nbDims
    · rw [if_pos hrank]
      exact ⟨iff_of_true rfl (Or.inr hrank), iff_of_false nofun nofun⟩
    · rw [if_neg hrank]
      exact ⟨iff_of_false nofun (not_or.mpr ⟨nofun, hrank⟩), Iff.rfl⟩
  · have hfilled : ¬ io.FilledIn plan := fun hf => hneeds hf.1
    rw [hint_of_not_needsDims h hneeds, or_iff_left hfilled]
    exact ⟨Iff.rfl, Iff.rfl⟩

/-- **Without batching** what is filled in does not hint for it. -/
theorem hint_fixEntry_unbatched (hplain : plan.Plain) (hread : io.WellRead plan isInput)
    (h : fixEntry plan (getRefIo plan isInput 0) io = .ok io') (hio : io.hint plan ≠ some true) :
    io'.hint plan ≠ some true ∧ (io'.hint plan = none → io.hint plan = none) := by
  by_cases hneeds : io.NeedsDims
  · obtain ⟨t, ht, hname⟩ := List.mem_map.mp hread.2
    obtain ⟨dims, hdims, -, hnot⟩ := refIo_hint 0 t
    have hused : io'.usedDims = .ok dims :=
      (usedDims_fixEntry hplain ht hname.symm h hneeds).trans hdims
    have htensor : plan.tensor? io'.name = some t :=
      (name_fixEntry h).1 ▸ hname ▸ Plan.tensor?_of_mem (Plan.mem_ios.mp ht).1
    rw [ConfigIo.hint_eq hused htensor, hint_of_needsDims hneeds]
    refine ⟨?_, fun _ => rfl⟩
    split
    · nofun
    · rename_i hne
      rw [(hnot rfl).resolve_left hne]
      nofun
  · rw [hint_of_not_needsDims h hneeds]
    exact ⟨hio, id⟩

end Hints

/-! ### The loop the second time -/

/-- What completing makes of the entries in order. -/
def CompletedEntries (plan : Plan) (maxBatchSize : ℕ) :
    List (Bool × ConfigIo) → List (Bool × ConfigIo) → Prop :=
  List.Forall₂ fun e e' =>
    e'.1 = e.1 ∧ fixEntry plan (getRefIo plan e.1 maxBatchSize) e.2 = .ok e'.2

/-- The loop gets as far as the first time. -/
theorem CompletedEntries.readEntries {plan : Plan} {maxBatchSize : ℕ}
    {entries entries' : List (Bool × ConfigIo)}
    (h : CompletedEntries plan maxBatchSize entries entries') :
    CompletedEntries plan maxBatchSize (readEntries entries) (readEntries entries') ∧
      anyRagged entries' = anyRagged entries := by
  induction h with
  | nil => exact ⟨List.Forall₂.nil, rfl⟩
  | @cons e e' entries entries' hfix _ ih =>
      have hragged := (name_fixEntry hfix.2).2
      by_cases hio : e.2.allowRaggedBatch = some true
      · obtain ⟨hread, hany⟩ := readEntries_cons_of_ragged entries hio
        obtain ⟨hread', hany'⟩ := readEntries_cons_of_ragged entries' (hragged.trans hio)
        rw [hread, hread', hany, hany']
        exact ⟨List.Forall₂.nil, rfl⟩
      · obtain ⟨hread, hany⟩ := readEntries_cons_of_ne entries hio
        obtain ⟨hread', hany'⟩ := readEntries_cons_of_ne entries' (hragged ▸ hio)
        rw [hread, hread', hany, hany']
        exact ⟨List.Forall₂.cons hfix ih.1, ih.2⟩

theorem wellRead_completed {plan : Plan} (hplain : plan.Plain) {maxBatchSize : ℕ}
    {entries entries' : List (Bool × ConfigIo)} (h : CompletedEntries plan maxBatchSize entries entries')
    (hread : ∀ e ∈ entries, e.2.WellRead plan e.1) : ∀ e ∈ entries', e.2.WellRead plan e.1 := by
  intro e' he'
  obtain ⟨e, he, hfix⟩ := Related.exists_left h he'
  rw [hfix.1]
  exact wellRead_fixEntry hplain (hread e he) hfix.2

/-- The hints with batching: those of before, and for batching what is filled in. -/
theorem hints_completed {plan : Plan} (hplain : plan.Plain) {maxBatchSize : ℕ} (hbatch : maxBatchSize ≠ 0)
    {entries entries' : List (Bool × ConfigIo)} (h : CompletedEntries plan maxBatchSize entries entries')
    (hread : ∀ e ∈ entries, e.2.WellRead plan e.1) :
    List.Forall₂ (fun e e' => (e'.2.hint plan = some true ↔
        e.2.hint plan = some true ∨ e.2.FilledIn plan) ∧
      (e'.2.hint plan = some false ↔ e.2.hint plan = some false)) entries entries' :=
  Related.imp_mem h fun e he _ hfix => hint_fixEntry hplain (hread e he) hfix.2 hbatch

/-- The hints without batching: none for it. -/
theorem hints_completed_unbatched {plan : Plan} (hplain : plan.Plain)
    {entries entries' : List (Bool × ConfigIo)} (h : CompletedEntries plan 0 entries entries')
    (hread : ∀ e ∈ entries, e.2.WellRead plan e.1) (hhints : ∀ e ∈ entries, e.2.hint plan ≠ some true) :
    List.Forall₂ (fun e e' => e'.2.hint plan ≠ some true ∧
      (e'.2.hint plan = none → e.2.hint plan = none)) entries entries' :=
  Related.imp_mem h fun e he _ hfix =>
    hint_fixEntry_unbatched hplain (hread e he) hfix.2 (hhints e he)

/-- No entry that is filled in comes before one that hints against batching. -/
def FilledInLast (plan : Plan) (entries : List (Bool × ConfigIo)) : Prop :=
  (readEntries entries).Pairwise fun a b => a.2.FilledIn plan → b.2.hint plan ≠ some false

/-- Nothing hints at batching. -/
def NoBatchHint (plan : Plan) (entries : List (Bool × ConfigIo)) : Prop :=
  anyRagged entries = false ∧ ∀ e ∈ readEntries entries, e.2.hint plan ≠ some true

theorem readAll_configBatchHint {plan : Plan} {entries : List (Bool × ConfigIo)} :
    (({} : BatchHints).readAll plan entries).configBatchHint = false ↔ NoBatchHint plan entries := by
  simp only [BatchHints.readAll, NoBatchHint, Bool.false_or, Bool.or_eq_false_iff,
    decide_eq_false_iff_not, List.mem_map, not_exists, not_and, ne_eq]

theorem readAll_count {plan : Plan} {entries : List (Bool × ConfigIo)} :
    (({} : BatchHints).readAll plan entries).tensorsWithConfigShapeCnt = 0 ↔
      ∀ e ∈ readEntries entries, e.2.hint plan = none := by
  simp only [BatchHints.readAll, Nat.zero_add, List.countP_eq_zero, List.mem_map,
    forall_exists_index, and_imp, forall_apply_eq_imp_iff₂, Option.not_isSome_iff_eq_none]

/-- A model that is left without batching has no hint for it. -/
theorem noBatchHint_of_unbatched {plan : Plan} {config : ModelConfig}
    {entries : List (Bool × ConfigIo)} {supported : ℕ}
    (hm : hintedBatchSize config (({} : BatchHints).readAll plan entries) supported = .ok 0) :
    NoBatchHint plan entries := by
  obtain ⟨hsupported, hm⟩ := hintedBatchSize_eq_ok.mp hm
  refine readAll_configBatchHint.mp ?_
  by_contra hhint
  rw [Bool.not_eq_false] at hhint
  rw [if_neg fun hc => Bool.noConfusion (hhint.symm.trans hc.2)] at hm
  exact hsupported ⟨hhint, hm.symm⟩

/-- A model that batches without a hint for it has no hint against it either. -/
theorem hints_none_of_batching {plan : Plan} {config : ModelConfig}
    {entries : List (Bool × ConfigIo)} {supported m : ℕ} (hzero : m ≠ 0)
    (hm : hintedBatchSize config (({} : BatchHints).readAll plan entries) supported = .ok m)
    (hno : NoBatchHint plan entries) : ∀ e ∈ readEntries entries, e.2.hint plan = none := by
  refine readAll_count.mp ?_
  by_contra hcount
  have hm := (hintedBatchSize_eq_ok.mp hm).2
  rw [if_pos ⟨hcount, readAll_configBatchHint.mpr hno⟩] at hm
  exact hzero hm

/-- Without batching there is no hint for it the second time. -/
theorem noBatchHint_completed {plan : Plan} (hplain : plan.Plain)
    {entries entries' : List (Bool × ConfigIo)} (h : CompletedEntries plan 0 entries entries')
    (hread : ∀ e ∈ readEntries entries, e.2.WellRead plan e.1) (hno : NoBatchHint plan entries) :
    NoBatchHint plan entries' := by
  obtain ⟨hentries, hragged⟩ := h.readEntries
  have hhints := hints_completed_unbatched hplain hentries hread hno.2
  refine ⟨hragged.trans hno.1, fun e' he' => ?_⟩
  obtain ⟨e, -, hhint⟩ := Related.exists_left hhints he'
  exact hhint.1

/-- **The batch size is the same the second time.** -/
theorem hintedBatchSize_again {plan : Plan} (hplain : plan.Plain) {config config' : ModelConfig}
    {entries entries' : List (Bool × ConfigIo)} {supported m maxBatchSize : ℕ}
    (hmax : maxBatchSize = 0 ↔ m = 0) (h : CompletedEntries plan maxBatchSize entries entries')
    (hread : ∀ e ∈ readEntries entries, e.2.WellRead plan e.1)
    (hm : hintedBatchSize config (({} : BatchHints).readAll plan entries) supported = .ok m) :
    hintedBatchSize config' (({} : BatchHints).readAll plan entries') supported = .ok m := by
  obtain ⟨hentries, hragged⟩ := h.readEntries
  obtain ⟨hsupported, hbatch⟩ := hintedBatchSize_eq_ok.mp hm
  refine hintedBatchSize_eq_ok.mpr ?_
  by_cases hzero : m = 0
  · -- Without batching no entry has hinted for it, and none does now.
    rw [hmax.mpr hzero] at h hentries
    rw [hzero] at hm hbatch ⊢
    have hno := noBatchHint_of_unbatched hm
    have hhints := hints_completed_unbatched hplain hentries hread hno.2
    have hnone' := readAll_configBatchHint.mpr (noBatchHint_completed hplain h hread hno)
    refine ⟨fun hc => Bool.noConfusion (hnone'.symm.trans hc.1), ?_⟩
    by_cases hcount : (({} : BatchHints).readAll plan entries').tensorsWithConfigShapeCnt = 0
    · have hcount₁ : (({} : BatchHints).readAll plan entries).tensorsWithConfigShapeCnt = 0 :=
        readAll_count.mpr (Related.forall_left hhints (fun _ _ hab => hab.2) (readAll_count.mp hcount))
      rw [if_neg fun hc => hc.1 hcount₁] at hbatch
      rw [if_neg fun hc => hc.1 hcount]
      exact hbatch
    · rw [if_pos ⟨hcount, hnone'⟩]
  · -- With batching what is counted now hints for batching, unless it hinted against it before.
    have hhints := hints_completed hplain (mt hmax.mp hzero) hentries hread
    have hsup : m = supported := by
      split at hbatch
      · exact absurd hbatch hzero
      · exact hbatch
    refine ⟨fun hc => hzero (hsup.trans hc.2), ?_⟩
    rw [if_neg, hsup]
    rintro ⟨hcount, hnone'⟩
    have hno' := readAll_configBatchHint.mp hnone'
    have hno : NoBatchHint plan entries :=
      ⟨hragged.symm.trans hno'.1,
        Related.forall_left hhints (fun _ _ hab hb ha => hb (hab.1.mpr (Or.inl ha))) hno'.2⟩
    have hagainst : ∀ e' ∈ readEntries entries', e'.2.hint plan ≠ some false := by
      refine Related.forall_left hhints.flip (fun e' e hab he hf => ?_)
        (hints_none_of_batching hzero hm hno)
      cases he.symm.trans (hab.2.mp hf)
    refine hcount (readAll_count.mpr fun e' he' => ?_)
    have hfalse := hagainst e' he'
    have htrue := hno'.2 e' he'
    cases hhint : e'.2.hint plan with
    | none => rfl
    | some b =>
        cases b
        · exact absurd hhint hfalse
        · exact absurd hhint htrue

/-! ### Completing twice -/

/-- Completing again changes nothing as long as nothing hints at batching, or no entry that is
filled in comes before one that hints against it. -/
def ModelConfig.CompletesStably (config : ModelConfig) (plan : Plan) : Prop :=
  NoBatchHint plan (config.entries plan) ∨ FilledInLast plan (config.entries plan)

theorem completedBatchSize_again (config : ModelConfig) (m : ℕ) (inputs outputs : List ConfigIo) :
    completedBatchSize (completedConfig config m inputs outputs) m = completedBatchSize config m := by
  rw [completedBatchSize, completedConfig_maxBatchSize, completedBatchSize]
  split <;> simp_all

theorem completedConfig_again (config : ModelConfig) (m : ℕ) (inputs outputs : List ConfigIo) :
    completedConfig (completedConfig config m inputs outputs) m inputs outputs =
      completedConfig config m inputs outputs := by
  rw [completedConfig.eq_def (completedConfig config m inputs outputs), completedBatchSize_again,
    completedConfig, turnOnDynamicBatching, turnOnDynamicBatching]
  by_cases hon : 1 < m ∧ config.sequenceBatching = false ∧ config.dynamicBatching = false
  · simp [hon]
  · simp only [hon, if_false]

theorem completedConfig_ios (config : ModelConfig) (m : ℕ) (inputs outputs : List ConfigIo)
    (isInput : Bool) :
    (completedConfig config m inputs outputs).ios isInput = if isInput then inputs else outputs := by
  cases isInput <;> rfl

theorem getMaxSupportedBatchSize_completed (plan : Plan) (config : ModelConfig) (m : ℕ)
    (inputs outputs : List ConfigIo) :
    getMaxSupportedBatchSize plan (completedConfig config m inputs outputs) =
      getMaxSupportedBatchSize plan config := by
  have hname : (completedConfig config m inputs outputs).name = config.name := by
    unfold completedConfig turnOnDynamicBatching
    split <;> rfl
  have hgroups : (completedConfig config m inputs outputs).instanceGroups = config.instanceGroups := by
    unfold completedConfig turnOnDynamicBatching
    split <;> rfl
  rw [getMaxSupportedBatchSize, getMaxSupportedBatchSize, getProfileIndices, getProfileIndices,
    hname, hgroups]

/-- The completed entries, in order. -/
theorem completedEntries_entries {plan : Plan} (hplain : plan.Plain) {config config' : ModelConfig}
    {maxBatchSize : ℕ}
    (h : ∀ isInput, fixIo plan (getRefIo plan isInput maxBatchSize) (config.ios isInput) =
      .ok (config'.ios isInput)) :
    CompletedEntries plan maxBatchSize (config.entries plan) (config'.entries plan) := by
  have hlist : ∀ isInput, CompletedEntries plan maxBatchSize
      ((fillIos plan isInput (config.ios isInput)).map (isInput, ·))
      ((fillIos plan isInput (config'.ios isInput)).map (isInput, ·)) := by
    intro isInput
    have hfix := h isInput
    have hfill := fillIos_of_fixIo hplain hfix
    rw [fixIo_eq hplain, mapM_eq_ok] at hfix
    rw [hfill, CompletedEntries, List.forall₂_map_left_iff, List.forall₂_map_right_iff]
    exact hfix.imp fun io io' hio => ⟨rfl, hio⟩
  exact List.rel_append (hlist true) (hlist false)

/-- With batching, hints stay consistent as long as what is filled in comes last. -/
theorem consistent_completed {plan : Plan} (hplain : plan.Plain) {maxBatchSize : ℕ}
    (hbatch : maxBatchSize ≠ 0) {entries entries' : List (Bool × ConfigIo)}
    (h : CompletedEntries plan maxBatchSize entries entries')
    (hread : ∀ e ∈ readEntries entries, e.2.WellRead plan e.1)
    (hcons : Consistent false ((readEntries entries).map fun e => e.2.hint plan)) :
    Consistent false ((readEntries entries').map fun e => e.2.hint plan) ↔
      FilledInLast plan entries := by
  have hhints := hints_completed hplain hbatch h.readEntries.1 hread
  have hpair := hcons.2
  rw [List.pairwise_map] at hpair
  have hiff : (readEntries entries).Pairwise (fun a b => (a.2.hint plan = some true ∨
      a.2.FilledIn plan) → b.2.hint plan ≠ some false) ↔
      (readEntries entries').Pairwise fun a b => a.2.hint plan = some true →
        b.2.hint plan ≠ some false :=
    Related.pairwise_iff hhints fun a a' b b' hab hab' => by rw [hab.1, ne_eq, ne_eq, hab'.2]
  rw [Consistent, List.pairwise_map, ← hiff, FilledInLast]
  constructor
  · rintro ⟨-, hall⟩
    exact hall.imp fun hab hfilled => hab (Or.inr hfilled)
  · intro hlast
    refine ⟨fun hfalse => absurd hfalse Bool.false_ne_true,
      (List.pairwise_and_iff.mpr ⟨hpair, hlast⟩).imp fun hab hor => ?_⟩
    exact hor.elim hab.1 hab.2

/-- Without a hint for batching all hints are consistent, the second time as well. -/
theorem consistent_of_noBatchHint {plan : Plan} {entries : List (Bool × ConfigIo)}
    (h : NoBatchHint plan entries) :
    Consistent false ((readEntries entries).map fun e => e.2.hint plan) := by
  refine ⟨fun hfalse => absurd hfalse Bool.false_ne_true,
    List.pairwise_map.mpr (List.Pairwise.imp_of_mem (fun ha _ _ htrue => ?_)
      (List.pairwise_of_forall fun _ _ => trivial))⟩
  exact absurd htrue (h.2 _ ha)

theorem completedBatchSize_eq_zero_iff {config : ModelConfig} {m : ℕ} (hle : config.maxBatchSize ≤ m) :
    completedBatchSize config m = 0 ↔ m = 0 := by
  unfold completedBatchSize
  split <;> omega

/-- **The second time**: a completed configuration is completed to itself exactly when the hints
that are read then are consistent. -/
theorem completed_again_iff {modelPath : String} {plan : Plan} (hplain : plan.Plain)
    {config : ModelConfig} {supported m : ℕ} {inputs outputs : List ConfigIo}
    (hread : ∀ e ∈ readEntries (config.entries plan), e.2.WellRead plan e.1)
    (hsupported : getMaxSupportedBatchSize plan config = .ok supported)
    (hm : hintedBatchSize config (({} : BatchHints).readAll plan (config.entries plan)) supported =
      .ok m)
    (hle : config.maxBatchSize ≤ m)
    (hfix : ∀ isInput, fixIo plan (getRefIo plan isInput (completedBatchSize config m))
      (config.ios isInput) = .ok ((completedConfig config m inputs outputs).ios isInput)) :
    autoCompleteConfigHelper modelPath (some plan) (completedConfig config m inputs outputs) =
        .ok (completedConfig config m inputs outputs) ↔
      Consistent false ((readEntries ((completedConfig config m inputs outputs).entries plan)).map
        fun e => e.2.hint plan) := by
  have hentries := completedEntries_entries hplain hfix
  constructor
  · intro h
    obtain ⟨hints, _, _, _, _, hhints, -⟩ := autoCompleteConfigHelper_eq_ok.mp h
    rw [readBatchHints_eq rfl rfl] at hhints
    exact ((foldlM_readEntry rfl).mp hhints).2.1
  · intro hcons
    have hread' := wellRead_completed hplain hentries.readEntries.1 hread
    have hagain : ∀ isInput, fixIo plan (getRefIo plan isInput (completedBatchSize config m))
        ((completedConfig config m inputs outputs).ios isInput) =
          .ok (if isInput then inputs else outputs) := by
      intro isInput
      rw [fixIo_again hplain (hfix isInput), completedConfig_ios]
    refine autoCompleteConfigHelper_eq_ok.mpr ⟨_, supported, m, inputs, outputs, ?_, ?_,
      hintedBatchSize_again hplain (completedBatchSize_eq_zero_iff hle) hentries hread hm, ?_, ?_, ?_,
      (completedConfig_again config m inputs outputs).symm⟩
    · rw [readBatchHints_eq rfl rfl]
      exact (foldlM_readEntry rfl).mpr ⟨hread', hcons, rfl⟩
    · rw [getMaxSupportedBatchSize_completed, hsupported]
    · rw [completedConfig_maxBatchSize, completedBatchSize]
      split
      · exact Nat.le_refl m
      · exact hle
    · rw [completedBatchSize_again]
      exact hagain true
    · rw [completedBatchSize_again]
      exact hagain false

/-- **When auto-completion is stable.**  A completed configuration keeps what was written, and
completing it again succeeds and changes nothing if and only if no entry hints at batching, or no
entry whose dims were filled in precedes one whose dims hint against batching. -/
theorem completed_twice_iff {modelPath : String} {plan : Plan} (hplain : plan.Plain)
    {config config' : ModelConfig}
    (h : autoCompleteConfigHelper modelPath (some plan) config = .ok config') :
    (autoCompleteConfigHelper modelPath (some plan) config' = .ok config' ∧
      IosPreserved config config') ↔ config.CompletesStably plan := by
  obtain ⟨hints, supported, m, inputs, outputs, hhints, hsupported, hm, hle, hinputs, houtputs, rfl⟩ :=
    autoCompleteConfigHelper_eq_ok.mp h
  obtain ⟨hread, hcons, rfl⟩ := (foldlM_readEntry rfl).mp (foldlM_entries_of_ok hhints)
  have hfix : ∀ isInput, fixIo plan (getRefIo plan isInput (completedBatchSize config m))
      (config.ios isInput) = .ok ((completedConfig config m inputs outputs).ios isInput) := by
    intro isInput
    rw [completedConfig_ios]
    cases isInput
    · exact houtputs
    · exact hinputs
  have hentries := completedEntries_entries hplain hfix
  have hmax := completedBatchSize_eq_zero_iff hle
  have hpreserved : IosPreserved config (completedConfig config m inputs outputs) :=
    fun isInput hne => forall₂_preserved hne (hfix isInput)
  rw [and_iff_left hpreserved, completed_again_iff hplain hread hsupported hm hle hfix,
    ModelConfig.CompletesStably]
  by_cases hzero : m = 0
  · rw [hmax.mpr hzero] at hentries
    have hno := noBatchHint_of_unbatched (hzero ▸ hm)
    have hno' := noBatchHint_completed hplain hentries hread hno
    exact iff_of_true (consistent_of_noBatchHint hno') (Or.inl hno)
  · rw [consistent_completed hplain (mt hmax.mp hzero) hentries hread hcons]
    refine ⟨Or.inr, fun hstable => hstable.elim (fun hno => ?_) id⟩
    have hnone := hints_none_of_batching hzero hm hno
    refine List.Pairwise.imp_of_mem (fun _ hb _ _ hfalse => ?_)
      (List.pairwise_of_forall fun _ _ => trivial)
    cases (hnone _ hb).symm.trans hfalse

/-- A plan of a matrix input and two matrix outputs. -/
def twoOutputPlan : Plan where
  tensors :=
    [{ name := "x", isInput := true, shape := rowDims (-1), maxShape := fun _ => rowDims 8 },
     { name := "y", isInput := false, shape := rowDims (-1) },
     { name := "z", isInput := false, shape := rowDims (-1) }]
  names_nodup := by decide

/-- The dims of the input and of the second output hint at batching; those of the first output are
left to auto-completion. -/
def writtenConfig : ModelConfig where
  input := some [{ name := "x", dataType := some "TYPE_FP32", dims := some [3] }]
  output := some [{ name := "y", dims := some [] }, { name := "z", dims := some [3] }]

/-- The theorem for these entries, none of which hints against batching. -/
theorem completed_twice_iff_written :
    ∃ config', autoCompleteConfigHelper "" (some twoOutputPlan) writtenConfig = .ok config' ∧
      config'.maxBatchSize = 8 ∧
      autoCompleteConfigHelper "" (some twoOutputPlan) config' = .ok config' ∧
        IosPreserved writtenConfig config' := by
  have hplain : twoOutputPlan.Plain := ⟨by decide, by decide⟩
  obtain ⟨config', h, hmax⟩ : ∃ config', autoCompleteConfigHelper "" (some twoOutputPlan)
      writtenConfig = .ok config' ∧ config'.maxBatchSize = 8 := ⟨_, rfl, rfl⟩
  have hnone : ∀ e ∈ readEntries (writtenConfig.entries twoOutputPlan),
      e.2.hint twoOutputPlan ≠ some false := by decide
  refine ⟨config', h, hmax, (completed_twice_iff hplain h).mpr (Or.inr ?_)⟩
  refine List.Pairwise.imp_of_mem (fun _ hb _ _ => hnone _ hb)
    (List.pairwise_of_forall fun _ _ => trivial)

/-- The dims of the first output hint against batching, those of the second for it; the input is
left to auto-completion. -/
def contradictingConfig : ModelConfig where
  input := some []
  output := some [{ name := "y", dims := some [-1, 3] }, { name := "z", dims := some [3] }]

/-- Auto-completion accepts the contradiction once, and rejects what it has made of it. -/
theorem completed_twice_fails :
    ¬ ∀ (plan : Plan) (config config' : ModelConfig), plan.Plain →
      ((config.ios true ++ config.ios false).map ConfigIo.name).Nodup →
        autoCompleteConfigHelper "" (some plan) config = .ok config' →
          autoCompleteConfigHelper "" (some plan) config' = .ok config' ∧
            IosPreserved config config' := by
  intro hall
  have hplain : twoOutputPlan.Plain := ⟨by decide, by decide⟩
  have hcompleted : ∃ config', autoCompleteConfigHelper "" (some twoOutputPlan) contradictingConfig =
      .ok config' ∧ autoCompleteConfigHelper "" (some twoOutputPlan) config' ≠ .ok config' :=
    ⟨_, rfl, nofun⟩
  obtain ⟨config', h, hne⟩ := hcompleted
  exact hne (hall twoOutputPlan contradictingConfig config' hplain (by decide) h).1

end TensorrtBackend

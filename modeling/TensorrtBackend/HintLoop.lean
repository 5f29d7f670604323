import Mathlib.Data.List.Nodup
import TensorrtBackend.AutoComplete

/-!
# The loop that reads the batch hints

The loop goes through `input` and then `output`, up to the first entry that allows a ragged batch.
An entry whose dims are given hints for batching or against it; a hint against batching behind one
for it is an error, in the other order it is not.

* `ModelConfig.entries`: the entries in the order in which they are read.
* `foldlM_readEntry`: when the loop succeeds and what it finds.
-/

namespace TensorrtBackend

open Checked

/-! ### Tensors by name -/

theorem find?_name_of_mem {tensors : List PlanTensor} (hnodup : (tensors.map PlanTensor.name).Nodup)
    {t : PlanTensor} (ht : t ∈ tensors) : tensors.find? (fun u => u.name == t.name) = some t := by
  induction tensors with
  | nil => exact absurd ht List.not_mem_nil
  | cons u tensors ih =>
      rw [List.map_cons, List.nodup_cons] at hnodup
      rcases List.mem_cons.mp ht with rfl | ht
      · exact List.find?_cons_of_pos (beq_self_eq_true _)
      · have hne : u.name ≠ t.name := fun h => hnodup.1 (h ▸ List.mem_map_of_mem ht)
        rw [List.find?_cons_of_neg (by simpa using hne)]
        exact ih hnodup.2 ht

theorem Plan.tensor?_of_mem {plan : Plan} {t : PlanTensor} (ht : t ∈ plan.tensors) :
    plan.tensor? t.name = some t := find?_name_of_mem plan.names_nodup ht

theorem Plan.mem_of_tensor? {plan : Plan} {name : String} {t : PlanTensor}
    (h : plan.tensor? name = some t) : t ∈ plan.tensors ∧ t.name = name := by
  have hname := List.find?_some h
  exact ⟨List.mem_of_find?_eq_some h, beq_iff_eq.mp hname⟩

/-! ### One entry -/

/-- Whether the dims of the entry hint for batching; an entry without dims does not hint. -/
def ConfigIo.hint (plan : Plan) (io : ConfigIo) : Option Bool :=
  match io.usedDims, plan.tensor? io.name with
  | .ok dims, some t => if dims = [] then none else some (t.shouldBatch dims)
  | _, _ => none

theorem ConfigIo.hint_eq {plan : Plan} {io : ConfigIo} {dims : List ℤ} {t : PlanTensor}
    (hdims : io.usedDims = .ok dims) (ht : plan.tensor? io.name = some t) :
    io.hint plan = if dims = [] then none else some (t.shouldBatch dims) := by
  rw [ConfigIo.hint, hdims, ht]

/-- The loop accepts the entry for what it is, whatever it hints. -/
def ConfigIo.WellRead (plan : Plan) (isInput : Bool) (io : ConfigIo) : Prop :=
  (∃ dims, io.usedDims = .ok dims) ∧ io.name ∈ (plan.ios isInput).map PlanTensor.name

theorem ConfigIo.WellRead.tensor {plan : Plan} {isInput : Bool} {io : ConfigIo}
    (h : io.WellRead plan isInput) : ∃ t ∈ plan.ios isInput, plan.tensor? io.name = some t := by
  obtain ⟨t, ht, hname⟩ := List.mem_map.mp h.2
  exact ⟨t, ht, hname ▸ Plan.tensor?_of_mem (Plan.mem_ios.mp ht).1⟩

/-- Tensors of other names do not change the hint. -/
theorem extractBatchHint_skip {modelName name : String} {dims : List ℤ} {tensors : List PlanTensor}
    (h : ∀ t ∈ tensors, name ≠ t.name) (hint : Bool) :
    tensors.foldlM (extractBatchHint modelName name dims) hint = .ok hint := by
  induction tensors with
  | nil => rfl
  | cons t tensors ih =>
      rw [List.forall_mem_cons] at h
      rw [List.foldlM_cons, extractBatchHint, if_neg h.1]
      exact ih h.2

/-- The one tensor of the name decides. -/
theorem extractBatchHint_eq_ok {plan : Plan} {modelName name : String} {dims : List ℤ}
    {t : PlanTensor} (ht : plan.tensor? name = some t) {hint hint' : Bool} :
    extractBatchHintFromIoConfig plan modelName name dims hint = .ok hint' ↔
      ¬ (hint = true ∧ t.shouldBatch dims = false) ∧ hint' = (hint || t.shouldBatch dims) := by
  obtain ⟨hmem, rfl⟩ := Plan.mem_of_tensor? ht
  obtain ⟨before, after, hsplit⟩ := List.append_of_mem hmem
  have hnodup := plan.names_nodup
  rw [hsplit, List.map_append, List.map_cons, List.nodup_middle, List.nodup_cons, ← List.map_append]
    at hnodup
  have hother : ∀ u ∈ before ++ after, t.name ≠ u.name := fun u hu hname =>
    hnodup.1 (hname ▸ List.mem_map_of_mem hu)
  rw [List.forall_mem_append] at hother
  have hfold : extractBatchHintFromIoConfig plan modelName t.name dims hint =
      extractBatchHint modelName t.name dims hint t := by
    rw [extractBatchHintFromIoConfig, hsplit, List.foldlM_append,
      extractBatchHint_skip hother.1]
    show (extractBatchHint modelName t.name dims hint t >>= fun hint =>
      after.foldlM (extractBatchHint modelName t.name dims) hint) = _
    cases extractBatchHint modelName t.name dims hint t with
    | error err => rfl
    | ok hint' => exact extractBatchHint_skip hother.2 hint'
  rw [hfold, extractBatchHint, if_pos rfl]
  cases hint <;> cases t.shouldBatch dims <;> simp [failIf, bind, Except.bind, pure, Except.pure, eq_comm]

/-- What reading a hint adds to what the loop has found. -/
def BatchHints.add (hints : BatchHints) (hint : Option Bool) : BatchHints :=
  { hints with
    configBatchHint := hints.configBatchHint || decide (hint = some true)
    tensorsWithConfigShapeCnt := hints.tensorsWithConfigShapeCnt + if hint.isSome then 1 else 0 }

theorem BatchHints.add_none (hints : BatchHints) : hints.add none = hints := by
  simp [BatchHints.add]

theorem BatchHints.add_some (hints : BatchHints) (b : Bool) :
    hints.add (some b) = { hints with
      configBatchHint := hints.configBatchHint || b
      tensorsWithConfigShapeCnt := hints.tensorsWithConfigShapeCnt + 1 } := by
  simp [BatchHints.add]

/-- **One entry.**  The loop goes on when the entry is well read and does not hint against batching
behind a hint for it. -/
theorem readBatchHint_eq_ok {plan : Plan} {modelName : String} {isInput : Bool}
    {hints hints' : BatchHints} {io : ConfigIo} (hloop : hints.ioAllowRaggedBatch = false)
    (hio : io.allowRaggedBatch ≠ some true) :
    readBatchHint plan modelName isInput hints io = .ok hints' ↔ io.WellRead plan isInput ∧
      ¬ (hints.configBatchHint = true ∧ io.hint plan = some false) ∧
        hints' = hints.add (io.hint plan) := by
  have hstep : readBatchHint plan modelName isInput hints io = (do
      let dims ← io.usedDims
      checkAllowedModelIo (ioType isInput) io.name ((plan.ios isInput).map PlanTensor.name)
      if dims = [] then pure hints
      else do
        let hint ← extractBatchHintFromIoConfig plan modelName io.name dims hints.configBatchHint
        pure { hints with
          configBatchHint := hint
          tensorsWithConfigShapeCnt := hints.tensorsWithConfigShapeCnt + 1 }) := by
    rw [readBatchHint, hloop, if_neg Bool.false_ne_true, if_neg hio]
  constructor
  · intro h
    rw [hstep] at h
    obtain ⟨dims, hdims, h⟩ := bind_eq_ok.mp h
    obtain ⟨_, hallowed, h⟩ := bind_eq_ok.mp h
    have hread : io.WellRead plan isInput := ⟨⟨dims, hdims⟩, not_not.mp (failIf_eq_ok.mp hallowed)⟩
    obtain ⟨t, -, ht⟩ := hread.tensor
    refine ⟨hread, ?_⟩
    rw [ConfigIo.hint_eq hdims ht]
    split at h
    · rename_i hnil
      rw [if_pos hnil, ← pure_eq_ok.mp h]
      refine ⟨?_, (BatchHints.add_none hints).symm⟩
      rintro ⟨-, hfalse⟩
      cases hfalse
    · rename_i hne
      obtain ⟨hint, hhint, h⟩ := bind_eq_ok.mp h
      obtain ⟨hcons, rfl⟩ := (extractBatchHint_eq_ok ht).mp hhint
      rw [if_neg hne, ← pure_eq_ok.mp h, Option.some.injEq]
      exact ⟨hcons, (BatchHints.add_some hints _).symm⟩
  · rintro ⟨hread, hcons, rfl⟩
    obtain ⟨dims, hdims⟩ := hread.1
    obtain ⟨t, -, ht⟩ := hread.tensor
    rw [ConfigIo.hint_eq hdims ht] at hcons ⊢
    rw [hstep]
    refine bind_eq_ok.mpr ⟨dims, hdims, bind_eq_ok.mpr
      ⟨(), failIf_eq_ok.mpr (not_not.mpr hread.2), ?_⟩⟩
    split
    · exact congrArg Except.ok (BatchHints.add_none hints).symm
    · rename_i hne
      rw [if_neg hne, Option.some.injEq] at hcons
      exact bind_eq_ok.mpr ⟨_, (extractBatchHint_eq_ok ht).mpr ⟨hcons, rfl⟩,
        congrArg Except.ok (BatchHints.add_some hints _).symm⟩

/-! ### The entries in order -/

/-- The entries in the order in which they are read, with an entry without members for each tensor
in place of an empty list. -/
def fillIos (plan : Plan) (isInput : Bool) (ios : List ConfigIo) : List ConfigIo :=
  if ios = [] then (plan.ios isInput).map fun t => { name := t.name, dims := some [] } else ios

/-- `input` and then `output`, each entry with the list it is of. -/
def ModelConfig.entries (config : ModelConfig) (plan : Plan) : List (Bool × ConfigIo) :=
  (fillIos plan true (config.ios true)).map (true, ·) ++
    (fillIos plan false (config.ios false)).map (false, ·)

/-- The entries the loop gets to. -/
def readEntries (entries : List (Bool × ConfigIo)) : List (Bool × ConfigIo) :=
  entries.takeWhile fun e => e.2.allowRaggedBatch ≠ some true

/-- Some entry allows a ragged batch. -/
def anyRagged (entries : List (Bool × ConfigIo)) : Bool :=
  entries.any fun e => e.2.allowRaggedBatch = some true

/-- One iteration, whichever list the entry is of. -/
def readEntry (plan : Plan) (modelName : String) (hints : BatchHints) (e : Bool × ConfigIo) :
    Result BatchHints :=
  readBatchHint plan modelName e.1 hints e.2

/-- No hint against batching follows one for it. -/
def Consistent (configBatchHint : Bool) (hints : List (Option Bool)) : Prop :=
  (configBatchHint = true → some false ∉ hints) ∧
    hints.Pairwise fun a b => a = some true → b ≠ some false

@[simp] theorem consistent_nil (configBatchHint : Bool) : Consistent configBatchHint [] :=
  ⟨fun _ => List.not_mem_nil, List.Pairwise.nil⟩

theorem consistent_cons {configBatchHint : Bool} {hint : Option Bool} {hints : List (Option Bool)} :
    Consistent configBatchHint (hint :: hints) ↔
      ¬ (configBatchHint = true ∧ hint = some false) ∧
        Consistent (configBatchHint || decide (hint = some true)) hints := by
  have hmem : (∀ b ∈ hints, hint = some true → b ≠ some false) ↔
      (hint = some true → some false ∉ hints) := by
    constructor
    · intro h hhint hfalse
      exact h _ hfalse hhint rfl
    · rintro h b hb hhint rfl
      exact h hhint hb
  rw [Consistent, Consistent, List.pairwise_cons, hmem, List.mem_cons, Bool.or_eq_true,
    decide_eq_true_iff, eq_comm (a := some false)]
  tauto

/-- What the loop has found behind the entries. -/
def BatchHints.readAll (hints : BatchHints) (plan : Plan) (entries : List (Bool × ConfigIo)) :
    BatchHints where
  configBatchHint := hints.configBatchHint || anyRagged entries ||
    decide (some true ∈ (readEntries entries).map fun e => e.2.hint plan)
  tensorsWithConfigShapeCnt := hints.tensorsWithConfigShapeCnt +
    ((readEntries entries).map fun e => e.2.hint plan).countP Option.isSome
  ioAllowRaggedBatch := anyRagged entries

theorem readEntries_cons_of_ragged {e : Bool × ConfigIo} (entries : List (Bool × ConfigIo))
    (h : e.2.allowRaggedBatch = some true) :
    readEntries (e :: entries) = [] ∧ anyRagged (e :: entries) = true := by
  simp [readEntries, anyRagged, h]

theorem readEntries_cons_of_ne {e : Bool × ConfigIo} (entries : List (Bool × ConfigIo))
    (h : e.2.allowRaggedBatch ≠ some true) :
    readEntries (e :: entries) = e :: readEntries entries ∧
      anyRagged (e :: entries) = anyRagged entries := by
  simp [readEntries, anyRagged, h]

/-- Reading one entry more. -/
theorem BatchHints.readAll_cons {plan : Plan} {hints : BatchHints} {e : Bool × ConfigIo}
    {entries : List (Bool × ConfigIo)} (h : e.2.allowRaggedBatch ≠ some true) :
    hints.readAll plan (e :: entries) = (hints.add (e.2.hint plan)).readAll plan entries := by
  obtain ⟨hread, hany⟩ := readEntries_cons_of_ne entries h
  simp only [BatchHints.readAll, BatchHints.add, hread, hany, List.map_cons, List.mem_cons,
    List.countP_cons, BatchHints.mk.injEq, and_true]
  constructor
  · rw [Bool.decide_or, decide_eq_decide.mpr (eq_comm (a := some true))]
    cases hints.configBatchHint <;> cases anyRagged entries <;>
      cases decide (e.2.hint plan = some true) <;> rfl
  · omega

theorem foldlM_readEntry_ragged {plan : Plan} {modelName : String} {hints : BatchHints}
    (h : hints.ioAllowRaggedBatch = true) (entries : List (Bool × ConfigIo)) :
    entries.foldlM (readEntry plan modelName) hints = .ok hints := by
  induction entries with
  | nil => rfl
  | cons e entries ih =>
      rw [List.foldlM_cons, readEntry, readBatchHint, if_pos h]
      exact ih

theorem foldlM_readEntry_cons_ragged {plan : Plan} {modelName : String} {hints : BatchHints}
    {e : Bool × ConfigIo} (hloop : hints.ioAllowRaggedBatch = false)
    (h : e.2.allowRaggedBatch = some true) (entries : List (Bool × ConfigIo)) :
    (e :: entries).foldlM (readEntry plan modelName) hints =
      .ok { hints with configBatchHint := true, ioAllowRaggedBatch := true } := by
  rw [List.foldlM_cons, readEntry, readBatchHint, hloop, if_neg Bool.false_ne_true, if_pos h]
  exact foldlM_readEntry_ragged rfl entries

/-- **The loop.**  It succeeds when the entries up to the first ragged one are well read and their
hints are consistent. -/
theorem foldlM_readEntry {plan : Plan} {modelName : String} {entries : List (Bool × ConfigIo)}
    {hints hints' : BatchHints} (hloop : hints.ioAllowRaggedBatch = false) :
    entries.foldlM (readEntry plan modelName) hints = .ok hints' ↔
      (∀ e ∈ readEntries entries, e.2.WellRead plan e.1) ∧
        Consistent hints.configBatchHint ((readEntries entries).map fun e => e.2.hint plan) ∧
        hints' = hints.readAll plan entries := by
  induction entries generalizing hints with
  | nil =>
      have hall : hints.readAll plan [] = hints := by
        cases hints
        cases hloop
        simp [BatchHints.readAll, readEntries, anyRagged]
      rw [hall, List.foldlM_nil, pure_eq_ok]
      simp [readEntries, eq_comm]
  | cons e entries ih =>
      by_cases hragged : e.2.allowRaggedBatch = some true
      · -- The loop takes the entry for a hint and ends.
        obtain ⟨hread, hany⟩ := readEntries_cons_of_ragged entries hragged
        have hall : hints.readAll plan (e :: entries) =
            { hints with configBatchHint := true, ioAllowRaggedBatch := true } := by
          simp [BatchHints.readAll, hread, hany]
        rw [foldlM_readEntry_cons_ragged hloop hragged, hall, hread, Except.ok.injEq]
        simp [eq_comm]
      · have hread := (readEntries_cons_of_ne entries hragged).1
        have hadd : (hints.add (e.2.hint plan)).ioAllowRaggedBatch = false := hloop
        rw [foldlM_cons_eq_ok, hread, List.forall_mem_cons, List.map_cons, consistent_cons,
          BatchHints.readAll_cons hragged]
        constructor
        · rintro ⟨mid, hmid, h⟩
          obtain ⟨hwell, hcons, rfl⟩ := (readBatchHint_eq_ok hloop hragged).mp hmid
          obtain ⟨hwells, hconss, h⟩ := (ih hadd).mp h
          exact ⟨⟨hwell, hwells⟩, ⟨hcons, hconss⟩, h⟩
        · rintro ⟨⟨hwell, hwells⟩, ⟨hcons, hconss⟩, h⟩
          exact ⟨_, (readBatchHint_eq_ok hloop hragged).mpr ⟨hwell, hcons, rfl⟩,
            (ih hadd).mpr ⟨hwells, hconss, h⟩⟩

/-! ### The loop over a configuration -/

/-- The entries made up for the tensors are well read and hint at nothing. -/
theorem foldlM_emptyEntries {plan : Plan} {modelName : String} {isInput : Bool} (hints : BatchHints)
    {tensors : List PlanTensor} (h : ∀ t ∈ tensors, t ∈ plan.ios isInput) :
    (tensors.map fun t => ({ name := t.name, dims := some [] } : ConfigIo)).foldlM
      (readBatchHint plan modelName isInput) hints = .ok hints := by
  induction tensors with
  | nil => rfl
  | cons t tensors ih =>
      rw [List.forall_mem_cons] at h
      refine foldlM_cons_eq_ok.mpr ⟨hints, ?_, ih h.2⟩
      have hallowed : checkAllowedModelIo (ioType isInput) t.name
          ((plan.ios isInput).map PlanTensor.name) = .ok () :=
        failIf_eq_ok.mpr (not_not.mpr (List.mem_map_of_mem h.1))
      unfold readBatchHint
      split
      · rfl
      · rw [if_neg nofun]
        exact bind_eq_ok.mpr ⟨[], rfl, bind_eq_ok.mpr ⟨(), hallowed, rfl⟩⟩

theorem foldlM_fillIos {plan : Plan} {modelName : String} {isInput : Bool} {ios : List ConfigIo}
    (hints : BatchHints) :
    ((fillIos plan isInput ios).map (isInput, ·)).foldlM (readEntry plan modelName) hints =
      ios.foldlM (readBatchHint plan modelName isInput) hints := by
  have hread : ((fillIos plan isInput ios).map (isInput, ·)).foldlM (readEntry plan modelName) hints =
      (fillIos plan isInput ios).foldlM (readBatchHint plan modelName isInput) hints := by
    rw [List.foldlM_map]
    rfl
  rw [hread, fillIos]
  split
  · rename_i hnil
    rw [hnil]
    exact foldlM_emptyEntries hints fun t ht => ht
  · rfl

/-- The loop over the two lists is one over the entries in order. -/
theorem foldlM_entries {plan : Plan} {config : ModelConfig} (hints : BatchHints) :
    (config.entries plan).foldlM (readEntry plan config.name) hints = (do
      let mid ← (config.ios true).foldlM (readBatchHint plan config.name true) hints
      (config.ios false).foldlM (readBatchHint plan config.name false) mid) := by
  rw [ModelConfig.entries, List.foldlM_append, foldlM_fillIos]
  exact bind_congr fun mid => foldlM_fillIos mid

theorem foldlM_entries_of_ok {plan : Plan} {config : ModelConfig} {hints : BatchHints}
    (h : readBatchHints plan config = .ok hints) :
    (config.entries plan).foldlM (readEntry plan config.name) {} = .ok hints := by
  rw [foldlM_entries]
  exact bind_eq_ok.mpr (readBatchHints_of_ok h)

/-- Where both lists are there the loop runs over the entries in order. -/
theorem readBatchHints_eq {plan : Plan} {config : ModelConfig} {inputs outputs : List ConfigIo}
    (hinput : config.input = some inputs) (houtput : config.output = some outputs) :
    readBatchHints plan config = (config.entries plan).foldlM (readEntry plan config.name) {} := by
  have hin : config.ioEntries true = .ok (config.ios true) := by
    simp [ModelConfig.ioEntries, ModelConfig.ios, hinput]
  have hout : config.ioEntries false = .ok (config.ios false) := by
    simp [ModelConfig.ioEntries, ModelConfig.ios, houtput]
  rw [foldlM_entries, readBatchHints, hin, hout]
  split
  · rfl
  · rename_i hnone
    simp only [ModelConfig.hasIo, Bool.or_eq_true, decide_eq_true_eq, not_or, ne_eq,
      not_not] at hnone
    rw [hnone.1.1, hnone.2]
    rfl

end TensorrtBackend

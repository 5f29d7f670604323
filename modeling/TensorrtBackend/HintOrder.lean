import Mathlib.Data.List.Perm.Basic
import TensorrtBackend.HintLoop

/-!
# The order of the entries

All the hint loop takes from an entry is one of five signals, and it goes through the signals of the
inputs and then of the outputs.  A hint against batching is refused only behind one for it, and an
entry that allows a ragged batch hides those behind it, so that the outcome can depend on the order.

* `hintOutcome_eq_scan`: the loop is a scan of the signals.
* `hintOrderFree_iff`: when the order of the entries does not matter.
-/

namespace TensorrtBackend

open Checked

/-! ### Signals -/

/-- What the hint loop takes from an entry. -/
inductive Signal
  /-- It allows a ragged batch. -/
  | ragged
  /-- It has no dims, or its name is not one of the engine's inputs or outputs. -/
  | unreadable
  | silent
  | forBatching
  | againstBatching
  deriving DecidableEq

/-- The hint that the signals leave, starting from the given one; `none` is an error. -/
def scan : Bool → List Signal → Option Bool
  | hint, [] => some hint
  | _, .ragged :: _ => some true
  | _, .unreadable :: _ => none
  | hint, .silent :: signals => scan hint signals
  | _, .forBatching :: signals => scan true signals
  | hint, .againstBatching :: signals => if hint then none else scan hint signals

section Scan

variable {hint result : Bool} {signals : List Signal}

/-- Behind a ragged entry nothing is read. -/
theorem scan_append_of_ragged {rest : List Signal} (h : .ragged ∈ signals) :
    scan hint (signals ++ rest) = scan hint signals := by
  induction signals generalizing hint with
  | nil => exact absurd h List.not_mem_nil
  | cons signal signals ih =>
      cases signal with
      | ragged => rfl
      | unreadable => rfl
      | silent => exact ih ((List.mem_cons.mp h).resolve_left (by simp))
      | forBatching => exact ih ((List.mem_cons.mp h).resolve_left (by simp))
      | againstBatching =>
          simp only [List.cons_append, scan]
          split
          · rfl
          · exact ih ((List.mem_cons.mp h).resolve_left (by simp))

/-- Without one the scan goes on with the hint it has found. -/
theorem scan_append {rest : List Signal} (h : .ragged ∉ signals) :
    scan hint (signals ++ rest) = (scan hint signals).bind fun hint => scan hint rest := by
  induction signals generalizing hint with
  | nil => rfl
  | cons signal signals ih =>
      obtain ⟨hne, hrest⟩ := not_or.mp (mt List.mem_cons.mpr h)
      cases signal with
      | ragged => exact absurd rfl hne
      | unreadable => rfl
      | silent => exact ih hrest
      | forBatching => exact ih hrest
      | againstBatching =>
          simp only [List.cons_append, scan]
          split
          · rfl
          · exact ih hrest

/-- The hint of a scan that succeeds does not depend on the order. -/
theorem scan_eq_some (h : scan hint signals = some result) :
    result = (hint || decide (.ragged ∈ signals) || decide (.forBatching ∈ signals)) := by
  induction signals generalizing hint with
  | nil =>
      obtain rfl := Option.some.inj h
      simp
  | cons signal signals ih =>
      cases signal with
      | ragged =>
          obtain rfl := Option.some.inj h
          simp
      | unreadable => cases h
      | silent => simp [ih h]
      | forBatching => simp [ih h]
      | againstBatching =>
          rw [scan] at h
          split at h
          · cases h
          · simp [ih h]

/-- A scan that succeeds without a ragged entry has read every entry. -/
theorem readable_of_scan (h : scan hint signals = some result) (hragged : .ragged ∉ signals) :
    .unreadable ∉ signals ∧ (hint = true → .againstBatching ∉ signals) := by
  induction signals generalizing hint with
  | nil => simp
  | cons signal signals ih =>
      obtain ⟨hne, hrest⟩ := not_or.mp (mt List.mem_cons.mpr hragged)
      cases signal with
      | ragged => exact absurd rfl hne
      | unreadable => cases h
      | silent => simpa using ih h hrest
      | forBatching =>
          obtain ⟨hread, hagainst⟩ := ih h hrest
          simp [hread, hagainst]
      | againstBatching =>
          rw [scan] at h
          split at h
          · cases h
          · rename_i hfalse
            simp [hfalse, (ih h hrest).1]

/-- What a scan is refused for. -/
theorem refused_of_scan (h : scan hint signals = none) :
    .unreadable ∈ signals ∨
      .againstBatching ∈ signals ∧ (hint = true ∨ .forBatching ∈ signals) := by
  induction signals generalizing hint with
  | nil => cases h
  | cons signal signals ih =>
      cases signal with
      | ragged => cases h
      | unreadable => simp
      | silent => simpa using ih h
      | forBatching =>
          rcases ih h with hread | ⟨hagainst, -⟩
          · simp [hread]
          · simp [hagainst]
      | againstBatching =>
          rw [scan] at h
          split at h
          · rename_i htrue
            simp [htrue]
          · rcases ih h with hread | ⟨-, hfor⟩
            · simp [hread]
            · exact Or.inr ⟨by simp, hfor.imp_right (List.mem_cons_of_mem _)⟩

/-- Hints against batching in front of those for it pass. -/
theorem scan_isSome (hread : .unreadable ∉ signals) (hhint : hint = true → .againstBatching ∉ signals)
    (horder : signals.Pairwise fun a b => a = .forBatching → b ≠ .againstBatching) :
    ∃ result, scan hint signals = some result := by
  induction signals generalizing hint with
  | nil => exact ⟨hint, rfl⟩
  | cons signal signals ih =>
      obtain ⟨hfirst, horders⟩ := List.pairwise_cons.mp horder
      obtain ⟨hne, hreads⟩ := not_or.mp (mt List.mem_cons.mpr hread)
      have hrest : hint = true → .againstBatching ∉ signals := fun htrue hmem =>
        hhint htrue (List.mem_cons_of_mem _ hmem)
      cases signal with
      | ragged => exact ⟨true, rfl⟩
      | unreadable => exact absurd rfl hne
      | silent => exact ih hreads hrest horders
      | forBatching =>
          exact ih hreads (fun _ hmem => hfirst _ hmem rfl rfl) horders
      | againstBatching =>
          cases hint with
          | true => exact absurd List.mem_cons_self (hhint rfl)
          | false => exact ih hreads hrest horders

end Scan

/-! ### Two lists in any order -/

/-- Some order of the inputs and of the outputs is read without an error. -/
def CanSucceed (inputs outputs : List Signal) : Prop :=
  .ragged ∈ inputs ∨ .unreadable ∉ inputs ∧ (.ragged ∈ outputs ∨ .unreadable ∉ outputs ∧
    ¬ (.forBatching ∈ inputs ∧ .againstBatching ∈ outputs))

/-- Some order of the inputs and of the outputs is refused. -/
def CanFail (inputs outputs : List Signal) : Prop :=
  .unreadable ∈ inputs ∨ .forBatching ∈ inputs ∧ .againstBatching ∈ inputs ∨
    .ragged ∉ inputs ∧ (.unreadable ∈ outputs ∨ .againstBatching ∈ outputs ∧
      (.forBatching ∈ inputs ∨ .forBatching ∈ outputs))

/-- The outcome does not depend on the order of either list. -/
def OrderFree (inputs outputs : List Signal) : Prop :=
  ∀ inputs₁ inputs₂ outputs₁ outputs₂, inputs₁.Perm inputs → inputs₂.Perm inputs →
    outputs₁.Perm outputs → outputs₂.Perm outputs →
      scan false (inputs₁ ++ outputs₁) = scan false (inputs₂ ++ outputs₂)

section Orders

variable {hint : Bool} {signals inputs outputs : List Signal}

/-- A signal of the list can come first. -/
theorem exists_perm_cons {signal : Signal} (h : signal ∈ signals) :
    ∃ rest, (signal :: rest).Perm signals :=
  ⟨signals.erase signal, (List.perm_cons_erase h).symm⟩

/-- Two signals can come first. -/
theorem exists_perm_cons_cons {signal signal' : Signal} (h : signal ∈ signals)
    (h' : signal' ∈ signals) (hne : signal' ≠ signal) :
    ∃ rest, (signal :: signal' :: rest).Perm signals := by
  obtain ⟨rest, hrest⟩ := exists_perm_cons h
  have hmem : signal' ∈ rest := (List.mem_cons.mp (hrest.mem_iff.mpr h')).resolve_left hne
  obtain ⟨rest', hrest'⟩ := exists_perm_cons hmem
  exact ⟨rest', (hrest'.cons signal).trans hrest⟩

/-- A list without unreadable entries is read in the order with the hints for batching at the end.
-/
theorem exists_perm_isSome (hread : .unreadable ∉ signals)
    (hhint : hint = true → .againstBatching ∉ signals) :
    ∃ signals', signals'.Perm signals ∧ ∃ result, scan hint signals' = some result := by
  have hperm : (signals.filter (fun s => !(s == .forBatching)) ++
      signals.filter (· == .forBatching)).Perm signals := by
    refine List.perm_append_comm.trans ?_
    exact List.filter_append_perm (· == .forBatching) signals
  refine ⟨_, hperm, scan_isSome (mt hperm.mem_iff.mp hread)
    (fun htrue => mt hperm.mem_iff.mp (hhint htrue)) ?_⟩
  have hall : ∀ a ∈ signals.filter (fun s => !(s == .forBatching)), a ≠ .forBatching := by
    intro a ha
    simpa using (List.mem_filter.mp ha).2
  refine List.pairwise_append.mpr ⟨?_, ?_, fun a ha b _ hfor => absurd hfor (hall a ha)⟩
  · exact List.pairwise_of_forall_mem_list fun a ha _ _ hfor => absurd hfor (hall a ha)
  · refine List.pairwise_of_forall_mem_list fun a _ b hb _ hagainst => ?_
    have hfor := (List.mem_filter.mp hb).2
    rw [hagainst] at hfor
    cases hfor

/-- Inputs that are readable and not ragged are read in some order, behind which the outputs are
read with the hint of the inputs. -/
theorem exists_inputs_read (hread : .unreadable ∉ inputs) (hragged : .ragged ∉ inputs) :
    ∃ inputs', inputs'.Perm inputs ∧ ∀ outputs',
      scan false (inputs' ++ outputs') = scan (decide (.forBatching ∈ inputs)) outputs' := by
  have hhint : false = true → .againstBatching ∉ inputs := fun h => absurd h Bool.false_ne_true
  obtain ⟨inputs', hperm, found, hfound⟩ := exists_perm_isSome hread hhint
  have hragged' : .ragged ∉ inputs' := mt hperm.mem_iff.mp hragged
  refine ⟨inputs', hperm, fun outputs' => ?_⟩
  rw [scan_append hragged', hfound, Option.bind_some, scan_eq_some hfound]
  simp [hragged', hperm.mem_iff]

theorem canSucceed_iff : CanSucceed inputs outputs ↔ ∃ inputs' outputs',
    inputs'.Perm inputs ∧ outputs'.Perm outputs ∧
      ∃ result, scan false (inputs' ++ outputs') = some result := by
  constructor
  · intro h
    by_cases hragged : .ragged ∈ inputs
    · obtain ⟨rest, hrest⟩ := exists_perm_cons hragged
      exact ⟨_, outputs, hrest, List.Perm.refl _, true, rfl⟩
    obtain ⟨hread, h⟩ := h.resolve_left hragged
    obtain ⟨inputs', hinputs, hscan⟩ := exists_inputs_read hread hragged
    rcases h with hout | ⟨hout, hagree⟩
    · obtain ⟨rest, hrest⟩ := exists_perm_cons hout
      exact ⟨inputs', _, hinputs, hrest, true, hscan _⟩
    · obtain ⟨outputs', houtputs, result, hresult⟩ := exists_perm_isSome hout
        fun hfor hagainst => hagree ⟨of_decide_eq_true hfor, hagainst⟩
      exact ⟨inputs', outputs', hinputs, houtputs, result, (hscan _).trans hresult⟩
  · rintro ⟨inputs', outputs', hinputs, houtputs, result, h⟩
    rw [CanSucceed, ← hinputs.mem_iff, ← hinputs.mem_iff, ← hinputs.mem_iff, ← houtputs.mem_iff,
      ← houtputs.mem_iff, ← houtputs.mem_iff]
    by_cases hragged : .ragged ∈ inputs'
    · exact Or.inl hragged
    · rw [scan_append hragged] at h
      obtain ⟨found, hfound, h⟩ := Option.bind_eq_some_iff.mp h
      refine Or.inr ⟨(readable_of_scan hfound hragged).1, ?_⟩
      by_cases hout : .ragged ∈ outputs'
      · exact Or.inl hout
      · obtain ⟨hread, hagainst⟩ := readable_of_scan h hout
        refine Or.inr ⟨hread, fun hboth => hagainst ?_ hboth.2⟩
        rw [scan_eq_some hfound]
        simp [hboth.1]

theorem canFail_iff : CanFail inputs outputs ↔ ∃ inputs' outputs',
    inputs'.Perm inputs ∧ outputs'.Perm outputs ∧ scan false (inputs' ++ outputs') = none := by
  constructor
  · intro h
    by_cases hread : .unreadable ∈ inputs
    · obtain ⟨rest, hrest⟩ := exists_perm_cons hread
      exact ⟨_, outputs, hrest, List.Perm.refl _, rfl⟩
    by_cases hboth : .forBatching ∈ inputs ∧ .againstBatching ∈ inputs
    · obtain ⟨rest, hrest⟩ := exists_perm_cons_cons hboth.1 hboth.2 (by decide)
      exact ⟨_, outputs, hrest, List.Perm.refl _, rfl⟩
    -- The inputs are read in any order, and an output is refused.
    obtain ⟨hragged, h⟩ := (h.resolve_left hread).resolve_left hboth
    obtain ⟨inputs', hinputs, hscan⟩ := exists_inputs_read hread hragged
    rcases h with hout | ⟨hagainst, hfor | hfor⟩
    · obtain ⟨rest, hrest⟩ := exists_perm_cons hout
      exact ⟨inputs', _, hinputs, hrest, hscan _⟩
    · obtain ⟨rest, hrest⟩ := exists_perm_cons hagainst
      refine ⟨inputs', _, hinputs, hrest, (hscan _).trans ?_⟩
      rw [decide_eq_true hfor]
      rfl
    · obtain ⟨rest, hrest⟩ := exists_perm_cons_cons hfor hagainst (by decide)
      exact ⟨inputs', _, hinputs, hrest, hscan _⟩
  · rintro ⟨inputs', outputs', hinputs, houtputs, h⟩
    rw [CanFail, ← hinputs.mem_iff, ← hinputs.mem_iff, ← hinputs.mem_iff, ← hinputs.mem_iff,
      ← houtputs.mem_iff, ← houtputs.mem_iff, ← houtputs.mem_iff]
    have hfirst : scan false inputs' = none → .unreadable ∈ inputs' ∨
        .forBatching ∈ inputs' ∧ .againstBatching ∈ inputs' := by
      intro hnone
      refine (refused_of_scan hnone).imp_right fun ⟨hagainst, hfor⟩ => ⟨?_, hagainst⟩
      exact hfor.resolve_left Bool.false_ne_true
    by_cases hragged : .ragged ∈ inputs'
    · rw [scan_append_of_ragged hragged] at h
      rcases hfirst h with hread | hboth
      · exact Or.inl hread
      · exact Or.inr (Or.inl hboth)
    · rw [scan_append hragged] at h
      cases hfound : scan false inputs' with
      | none =>
          rcases hfirst hfound with hread | hboth
          · exact Or.inl hread
          · exact Or.inr (Or.inl hboth)
      | some found =>
          rw [hfound, Option.bind_some] at h
          refine Or.inr (Or.inr ⟨hragged, (refused_of_scan h).imp_right ?_⟩)
          rintro ⟨hagainst, hfor⟩
          refine ⟨hagainst, hfor.imp_left fun htrue => ?_⟩
          rw [scan_eq_some hfound] at htrue
          simpa [hragged] using htrue

/-- **When the order does not matter**: every order is read, or every order is refused. -/
theorem orderFree_iff :
    OrderFree inputs outputs ↔ ¬ (CanSucceed inputs outputs ∧ CanFail inputs outputs) := by
  constructor
  · intro h hboth
    obtain ⟨hsucceed, hfail⟩ := hboth
    obtain ⟨inputs₁, outputs₁, hinputs₁, houtputs₁, result, hsome⟩ := canSucceed_iff.mp hsucceed
    obtain ⟨inputs₂, outputs₂, hinputs₂, houtputs₂, hnone⟩ := canFail_iff.mp hfail
    have hsame := h inputs₁ inputs₂ outputs₁ outputs₂ hinputs₁ hinputs₂ houtputs₁ houtputs₂
    rw [hsome, hnone] at hsame
    cases hsame
  · intro h inputs₁ inputs₂ outputs₁ outputs₂ hinputs₁ hinputs₂ houtputs₁ houtputs₂
    cases h₁ : scan false (inputs₁ ++ outputs₁) with
    | none =>
        have hfail := canFail_iff.mpr ⟨inputs₁, outputs₁, hinputs₁, houtputs₁, h₁⟩
        cases h₂ : scan false (inputs₂ ++ outputs₂) with
        | none => rfl
        | some result =>
            exact absurd ⟨canSucceed_iff.mpr ⟨inputs₂, outputs₂, hinputs₂, houtputs₂, result, h₂⟩,
              hfail⟩ h
    | some result =>
        have hsucceed := canSucceed_iff.mpr ⟨inputs₁, outputs₁, hinputs₁, houtputs₁, result, h₁⟩
        cases h₂ : scan false (inputs₂ ++ outputs₂) with
        | none =>
            exact absurd ⟨hsucceed, canFail_iff.mpr ⟨inputs₂, outputs₂, hinputs₂, houtputs₂, h₂⟩⟩ h
        | some result' =>
            -- Both hints are those of the entries, in whatever order.
            have hperm : (inputs₁ ++ outputs₁).Perm (inputs₂ ++ outputs₂) :=
              (hinputs₁.trans hinputs₂.symm).append (houtputs₁.trans houtputs₂.symm)
            rw [scan_eq_some h₁, scan_eq_some h₂]
            simp only [hperm.mem_iff]

end Orders

/-! ### The loop -/

/-- What the loop takes from an entry. -/
def ConfigIo.signal (plan : Plan) (isInput : Bool) (io : ConfigIo) : Signal :=
  if io.allowRaggedBatch = some true then .ragged
  else
    match io.usedDims with
    | .error _ => .unreadable
    | .ok _ =>
      if io.name ∈ (plan.ios isInput).map PlanTensor.name then
        match io.hint plan with
        | none => .silent
        | some true => .forBatching
        | some false => .againstBatching
      else .unreadable

/-- `config_batch_hint` of what a run has found; `none` is an error. -/
def hintOf (r : Result BatchHints) : Option Bool := r.toOption.map BatchHints.configBatchHint

/-- `config_batch_hint` behind the loop. -/
def hintOutcome (plan : Plan) (config : ModelConfig) : Option Bool :=
  hintOf (readBatchHints plan config)

/-- The configuration has the given entries, in some order. -/
def ModelConfig.HasEntries (config : ModelConfig) (inputs outputs : List ConfigIo) : Prop :=
  ∃ inputs' outputs', config.input = some inputs' ∧ config.output = some outputs' ∧
    inputs'.Perm inputs ∧ outputs'.Perm outputs

/-- The loop ends the same way for every two configurations that differ in the order of their
entries. -/
def HintOrderFree (plan : Plan) (inputs outputs : List ConfigIo) : Prop :=
  ∀ config config' : ModelConfig, config.HasEntries inputs outputs →
    config'.HasEntries inputs outputs → hintOutcome plan config = hintOutcome plan config'

section Loop

variable {plan : Plan} {modelName : String} {isInput : Bool} {hints : BatchHints} {io : ConfigIo}

theorem signal_of_wellRead (hio : io.allowRaggedBatch ≠ some true) (h : io.WellRead plan isInput) :
    io.signal plan isInput = match io.hint plan with
      | none => .silent
      | some true => .forBatching
      | some false => .againstBatching := by
  obtain ⟨⟨dims, hdims⟩, hname⟩ := h
  rw [ConfigIo.signal, if_neg hio, hdims]
  exact if_pos hname

theorem signal_of_not_wellRead (hio : io.allowRaggedBatch ≠ some true)
    (h : ¬ io.WellRead plan isInput) : io.signal plan isInput = .unreadable := by
  rw [ConfigIo.signal, if_neg hio]
  cases hdims : io.usedDims with
  | error err => rfl
  | ok dims =>
      have hname : io.name ∉ (plan.ios isInput).map PlanTensor.name :=
        fun hname => h ⟨⟨dims, hdims⟩, hname⟩
      exact if_neg hname

theorem hintOf_eq_none {r : Result BatchHints} (h : ∀ hints, r ≠ .ok hints) : hintOf r = none := by
  cases r with
  | error err => rfl
  | ok hints => exact absurd rfl (h hints)

theorem hintOf_cons_of_ok {e : Bool × ConfigIo} {entries : List (Bool × ConfigIo)} {mid : BatchHints}
    (h : readEntry plan modelName hints e = .ok mid) :
    hintOf ((e :: entries).foldlM (readEntry plan modelName) hints) =
      hintOf (entries.foldlM (readEntry plan modelName) mid) := by
  rw [List.foldlM_cons, h]
  rfl

theorem hintOf_cons_of_not_ok {e : Bool × ConfigIo} {entries : List (Bool × ConfigIo)}
    (h : ∀ mid, readEntry plan modelName hints e ≠ .ok mid) :
    hintOf ((e :: entries).foldlM (readEntry plan modelName) hints) = none := by
  refine hintOf_eq_none fun hints' hok => ?_
  obtain ⟨mid, hmid, -⟩ := foldlM_cons_eq_ok.mp hok
  exact h mid hmid

/-- The loop is a scan of the signals. -/
theorem hintOf_foldlM {entries : List (Bool × ConfigIo)} (hloop : hints.ioAllowRaggedBatch = false) :
    hintOf (entries.foldlM (readEntry plan modelName) hints) =
      scan hints.configBatchHint (entries.map fun e => e.2.signal plan e.1) := by
  induction entries generalizing hints with
  | nil => rfl
  | cons e entries ih =>
      by_cases hragged : e.2.allowRaggedBatch = some true
      · rw [foldlM_readEntry_cons_ragged hloop hragged, List.map_cons, ConfigIo.signal, if_pos hragged]
        rfl
      have hstep : ∀ mid, readEntry plan modelName hints e = .ok mid ↔ e.2.WellRead plan e.1 ∧
          ¬ (hints.configBatchHint = true ∧ e.2.hint plan = some false) ∧
            mid = hints.add (e.2.hint plan) := fun _ => readBatchHint_eq_ok hloop hragged
      by_cases hwell : e.2.WellRead plan e.1
      · rw [List.map_cons, signal_of_wellRead hragged hwell]
        by_cases hcons : hints.configBatchHint = true ∧ e.2.hint plan = some false
        · obtain ⟨htrue, hfalse⟩ := hcons
          rw [hintOf_cons_of_not_ok fun mid hmid => ((hstep mid).mp hmid).2.1 ⟨htrue, hfalse⟩, hfalse,
            htrue]
          rfl
        · rw [hintOf_cons_of_ok ((hstep _).mpr ⟨hwell, hcons, rfl⟩)]
          have hadd : (hints.add (e.2.hint plan)).ioAllowRaggedBatch = false := hloop
          rw [ih hadd]
          cases hhint : e.2.hint plan with
          | none => rw [BatchHints.add_none, scan]
          | some batching =>
              cases batching with
              | true => simp [BatchHints.add_some, scan]
              | false =>
                  have hfalse : hints.configBatchHint = false :=
                    Bool.eq_false_of_not_eq_true fun htrue => hcons ⟨htrue, hhint⟩
                  simp [BatchHints.add_some, scan, hfalse]
      · rw [List.map_cons, signal_of_not_wellRead hragged hwell,
          hintOf_cons_of_not_ok fun mid hmid => hwell ((hstep mid).mp hmid).1]
        rfl

/-- The loop over a configuration. -/
theorem hintOutcome_eq_scan {config : ModelConfig} {inputs outputs : List ConfigIo}
    (hinput : config.input = some inputs) (houtput : config.output = some outputs) :
    hintOutcome plan config =
      scan false (inputs.map (ConfigIo.signal plan true) ++
        outputs.map (ConfigIo.signal plan false)) := by
  have hios : config.ios true = inputs ∧ config.ios false = outputs := by
    simp [ModelConfig.ios, hinput, houtput]
  have hloop : readBatchHints plan config =
      (inputs.map (true, ·) ++ outputs.map (false, ·)).foldlM (readEntry plan config.name) {} := by
    rw [readBatchHints_eq hinput houtput, foldlM_entries, hios.1, hios.2, List.foldlM_append,
      List.foldlM_map]
    refine bind_congr fun mid => ?_
    rw [List.foldlM_map]
    rfl
  rw [hintOutcome, hloop, hintOf_foldlM rfl, List.map_append, List.map_map, List.map_map]
  rfl

end Loop

/-- An order of the signals is that of an order of the entries. -/
theorem exists_entries_of_perm {plan : Plan} {isInput : Bool} {ios : List ConfigIo}
    {signals : List Signal} (h : signals.Perm (ios.map (ConfigIo.signal plan isInput))) :
    ∃ ios' : List ConfigIo, ios'.Perm ios ∧ signals = ios'.map (ConfigIo.signal plan isInput) := by
  have hcomp := congrFun (congrFun (List.eq_map_comp_perm (ConfigIo.signal plan isInput)) signals) ios
  obtain ⟨ios', hsignals, hperm⟩ := hcomp.mpr h
  exact ⟨ios', hperm, hsignals⟩

/-- The order of the entries matters as the order of their signals does. -/
theorem hintOrderFree_signals {plan : Plan} {inputs outputs : List ConfigIo} :
    HintOrderFree plan inputs outputs ↔ OrderFree (inputs.map (ConfigIo.signal plan true))
      (outputs.map (ConfigIo.signal plan false)) := by
  constructor
  · intro h inputs₁ inputs₂ outputs₁ outputs₂ hinputs₁ hinputs₂ houtputs₁ houtputs₂
    obtain ⟨ios₁, hios₁, rfl⟩ := exists_entries_of_perm hinputs₁
    obtain ⟨ios₂, hios₂, rfl⟩ := exists_entries_of_perm hinputs₂
    obtain ⟨outs₁, houts₁, rfl⟩ := exists_entries_of_perm houtputs₁
    obtain ⟨outs₂, houts₂, rfl⟩ := exists_entries_of_perm houtputs₂
    have hsame := h { input := some ios₁, output := some outs₁ }
      { input := some ios₂, output := some outs₂ } ⟨ios₁, outs₁, rfl, rfl, hios₁, houts₁⟩
      ⟨ios₂, outs₂, rfl, rfl, hios₂, houts₂⟩
    rwa [hintOutcome_eq_scan rfl rfl, hintOutcome_eq_scan rfl rfl] at hsame
  · intro h config config' hconfig hconfig'
    obtain ⟨ios₁, outs₁, hin₁, hout₁, hios₁, houts₁⟩ := hconfig
    obtain ⟨ios₂, outs₂, hin₂, hout₂, hios₂, houts₂⟩ := hconfig'
    rw [hintOutcome_eq_scan hin₁ hout₁, hintOutcome_eq_scan hin₂ hout₂]
    exact h _ _ _ _ (hios₁.map _) (hios₂.map _) (houts₁.map _) (houts₂.map _)

/-- **When the order of the entries does not matter**: never both may some order be read and some
order be refused. -/
theorem hintOrderFree_iff (plan : Plan) (inputs outputs : List ConfigIo) :
    HintOrderFree plan inputs outputs ↔
      ¬ (CanSucceed (inputs.map (ConfigIo.signal plan true))
            (outputs.map (ConfigIo.signal plan false)) ∧
          CanFail (inputs.map (ConfigIo.signal plan true))
            (outputs.map (ConfigIo.signal plan false))) :=
  hintOrderFree_signals.trans orderFree_iff

/-! ### Two contradicting inputs -/

/-- Any number of rows of four. -/
def anyRowsDims : Dims := Dims.ofList [-1, 4] (by decide)

/-- A plan with two such inputs. -/
def twoInputPlan : Plan where
  tensors := [{ name := "first", isInput := true, shape := anyRowsDims },
              { name := "second", isInput := true, shape := anyRowsDims }]
  names_nodup := by decide

/-- The dims of the input leave the batch dimension out. -/
def batchedEntry : ConfigIo := { name := "first", dims := some [4] }

/-- The dims of the input are those of the engine. -/
def fullEntry : ConfigIo := { name := "second", dims := some [-1, 4] }

/-- **The slip**: the contradiction is noticed in one order and not in the other. -/
theorem hint_depends_on_order :
    hintOutcome twoInputPlan { input := some [batchedEntry, fullEntry], output := some [] } = none ∧
      hintOutcome twoInputPlan { input := some [fullEntry, batchedEntry], output := some [] } =
        some true ∧
      ¬ HintOrderFree twoInputPlan [batchedEntry, fullEntry] [] := by
  have hfirst : hintOutcome twoInputPlan
      { input := some [batchedEntry, fullEntry], output := some [] } = none := by rfl
  have hsecond : hintOutcome twoInputPlan
      { input := some [fullEntry, batchedEntry], output := some [] } = some true := by rfl
  refine ⟨hfirst, hsecond, fun h => ?_⟩
  have hsame := h { input := some [batchedEntry, fullEntry], output := some [] }
    { input := some [fullEntry, batchedEntry], output := some [] }
    ⟨_, _, rfl, rfl, List.Perm.refl _, List.Perm.refl _⟩
    ⟨_, _, rfl, rfl, List.Perm.swap _ _ _, List.Perm.refl _⟩
  rw [hfirst, hsecond] at hsame
  cases hsame

end TensorrtBackend

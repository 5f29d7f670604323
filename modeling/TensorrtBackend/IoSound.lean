import TensorrtBackend.IoLoad

/-!
# What the load leaves for every tensor

A load that succeeds gives every tensor its buffer and its name, and no tensor two buffers.  That
the entries which may not reuse a buffer have been given one of their own, and that the states name
an input and an output, depends on the places of the early returns: for a shape tensor
`InitializeExecuteInputBinding` returns before it has looked at the direction and at the buffer, and
for a state whose tensor has a buffer `InitializeExecuteOutputBinding` returns before it has looked
at the direction.

* `ioBindings_sound_iff`: what a load leaves is sound exactly when no entry takes such a return that
  hides a fault.
-/

namespace TensorrtBackend

open Checked

/-! ### What a load should leave -/

/-- The name of the tensor of an entry that may not reuse a buffer. -/
def IoLoader.ownName? (loader : IoLoader) : ConfigEntry → Option String
  | .input i => (loader.config.ios true)[i]?.map fun io => io.name
  | .control i => loader.config.sequenceControls[i]?.map fun control => control.1
  | .batchInput i target => loader.config.batchInput[i]?.bind fun b => b.targetNames[target]?
  | .output i => (loader.config.ios false)[i]?.map fun io => io.name
  | .state _ => none

/-- Every tensor has a buffer or allocator and its own name, no buffer was given twice, only the
entries of states reuse one, and the states name an input and an output. -/
structure IoLoader.Sound (loader : IoLoader) (s : IoState) : Prop where
  slots : ∀ set < loader.numCopyStreams, ∀ io t, loader.tensors[io]? = some t →
    (s.slot set io).allocated = true ∧ s.names set io = t.name
  once : (s.allocations.map fun a => (a.set, a.io)).Nodup
  own : ∀ entry name, loader.ownName? entry = some name → ∀ set < loader.numCopyStreams,
    ∃ t io, loader.ioIndex? name = some (t, io) ∧ ⟨set, io, entry⟩ ∈ s.allocations
  stateInputs : ∀ state ∈ loader.config.sequenceStates,
    ∃ t ∈ loader.tensors, t.name = state.inputName ∧ t.isInput = true
  stateOutputs : ∀ state ∈ loader.config.sequenceStates,
    ∃ t ∈ loader.tensors, t.name = state.outputName ∧ t.isInput = false

/-- No early return hides a fault: controls and batch inputs name no shape tensor, the input of a
state is no shape output, and the output of a state is no input of the engine. -/
structure IoLoader.EarlyReturnsHarmless (loader : IoLoader) : Prop where
  controls : ∀ control ∈ loader.config.sequenceControls,
    (loader.tensor control.1).isShapeInferenceIo = false
  batchInputs : ∀ b ∈ loader.config.batchInput, ∀ name ∈ b.targetNames,
    (loader.tensor name).isShapeInferenceIo = false
  stateInputs : ∀ state ∈ loader.config.sequenceStates,
    (loader.tensor state.inputName).isShapeInferenceIo = true →
      (loader.tensor state.inputName).isInput = true
  stateOutputs : ∀ state ∈ loader.config.sequenceStates,
    (loader.tensor state.outputName).isInput = false

section Sound

variable {lib : BackendCommon} {loader : IoLoader} {s : IoState} {set io : ℕ} {t : BoundTensor}
  {name : String} {entry : ConfigEntry}

theorem numCopyStreams_pos (loader : Loader) : 0 < loader.numCopyStreams := by
  unfold Loader.numCopyStreams
  split <;> decide

/-- A tensor of the engine is found under its name. -/
theorem tensor_of_mem (ht : t ∈ loader.tensors) : loader.tensor t.name = t := by
  obtain ⟨io, hio⟩ := List.mem_iff_getElem?.mp ht
  exact tensor_of_ioIndex? (ioIndex?_of_getElem? hio)

/-! ### The visits of a configuration -/

theorem mem_allInputVisits (hset : set < loader.numCopyStreams) {visit : IoVisit}
    (h : visit ∈ loader.inputVisits set) :
    visit ∈ loader.allInputVisits ++ loader.allOutputVisits :=
  List.mem_append_left _ (List.mem_flatMap.mpr ⟨set, List.mem_range.mpr hset, h⟩)

theorem mem_allOutputVisits (hset : set < loader.numCopyStreams) {visit : IoVisit}
    (h : visit ∈ loader.outputVisits set) :
    visit ∈ loader.allInputVisits ++ loader.allOutputVisits :=
  List.mem_append_right _ (List.mem_flatMap.mpr ⟨set, List.mem_range.mpr hset, h⟩)

/-- An entry of `input` is visited for its shape. -/
theorem shapeInput_mem {i : ℕ} (hname : loader.ownName? (.input i) = some name) :
    ⟨set, name, .shapeInput i⟩ ∈ loader.inputVisits set := by
  obtain ⟨io, hio, rfl⟩ := Option.map_eq_some_iff.mp hname
  apply List.mem_append_left
  exact List.mem_map.mpr ⟨(io, i), List.mem_zipIdx_iff_getElem?.mpr hio, rfl⟩

/-- Every entry for an input is visited for execution. -/
theorem executeInput_mem (hname : loader.ownName? entry = some name)
    (hentry : ∀ i, entry ≠ .output i) :
    ⟨set, name, .executeInput entry⟩ ∈ loader.inputVisits set := by
  cases entry with
  | input i =>
      obtain ⟨io, hio, rfl⟩ := Option.map_eq_some_iff.mp hname
      apply List.mem_append_right
      apply List.mem_append_left
      exact List.mem_map.mpr ⟨(io, i), List.mem_zipIdx_iff_getElem?.mpr hio, rfl⟩
  | control i =>
      obtain ⟨control, hcontrol, rfl⟩ := Option.map_eq_some_iff.mp hname
      apply List.mem_append_right
      apply List.mem_append_right
      apply List.mem_append_left
      exact List.mem_map.mpr ⟨(control, i), List.mem_zipIdx_iff_getElem?.mpr hcontrol, rfl⟩
  | batchInput i target =>
      obtain ⟨b, hb, htarget⟩ := Option.bind_eq_some_iff.mp hname
      apply List.mem_append_right
      apply List.mem_append_right
      apply List.mem_append_right
      apply List.mem_append_left
      refine List.mem_flatMap.mpr ⟨(b, i), List.mem_zipIdx_iff_getElem?.mpr hb, ?_⟩
      exact List.mem_map.mpr ⟨(name, target), List.mem_zipIdx_iff_getElem?.mpr htarget, rfl⟩
  | output i => exact absurd rfl (hentry i)
  | state i => exact nomatch hname

/-- Every entry of `output` is visited in one of the two passes. -/
theorem output_mem {i : ℕ} (hname : loader.ownName? (.output i) = some name) :
    ⟨set, name, .output i⟩ ∈ loader.outputVisits set := by
  obtain ⟨io, hio, rfl⟩ := Option.map_eq_some_iff.mp hname
  have hmem : (io, i) ∈ (loader.config.ios false).zipIdx := List.mem_zipIdx_iff_getElem?.mpr hio
  apply List.mem_append_right
  by_cases hshape : io.isShapeTensor = some true
  · apply List.mem_append_left
    refine List.mem_flatMap.mpr ⟨(io, i), hmem, ?_⟩
    rw [if_pos hshape]
    exact List.mem_singleton.mpr rfl
  · apply List.mem_append_right
    apply List.mem_append_left
    refine List.mem_flatMap.mpr ⟨(io, i), hmem, ?_⟩
    rw [if_neg hshape]
    exact List.mem_singleton.mpr rfl

theorem stateInput_mem {i : ℕ} {state : ConfigState}
    (hstate : loader.config.sequenceStates[i]? = some state) :
    ⟨set, state.inputName, .stateInput i⟩ ∈ loader.inputVisits set := by
  apply List.mem_append_right
  apply List.mem_append_right
  apply List.mem_append_right
  apply List.mem_append_right
  exact List.mem_map.mpr ⟨(state, i), List.mem_zipIdx_iff_getElem?.mpr hstate, rfl⟩

theorem stateOutput_mem {i : ℕ} {state : ConfigState}
    (hstate : loader.config.sequenceStates[i]? = some state) :
    ⟨set, state.outputName, .stateOutput i⟩ ∈ loader.outputVisits set := by
  apply List.mem_append_right
  apply List.mem_append_right
  apply List.mem_append_right
  exact List.mem_map.mpr ⟨(state, i), List.mem_zipIdx_iff_getElem?.mpr hstate, rfl⟩

theorem allInputVisits_ofInput : ∀ x ∈ loader.allInputVisits, x.action.OfInput := by
  intro x hx
  obtain ⟨set, -, hx⟩ := List.mem_flatMap.mp hx
  simp only [IoLoader.inputVisits, List.mem_append, List.mem_map, List.mem_flatMap] at hx
  obtain ⟨y, -, rfl⟩ | ⟨y, -, rfl⟩ | ⟨y, -, rfl⟩ | ⟨y, -, z, -, rfl⟩ | ⟨y, -, rfl⟩ := hx
  all_goals trivial

theorem allOutputVisits_not_ofInput : ∀ x ∈ loader.allOutputVisits, ¬ x.action.OfInput := by
  intro x hx hinput
  obtain ⟨set, -, hx⟩ := List.mem_flatMap.mp hx
  simp only [IoLoader.outputVisits, List.mem_append, List.mem_map, List.mem_flatMap] at hx
  obtain ⟨b, -, name, -, rfl⟩ | ⟨y, -, hy⟩ | ⟨y, -, hy⟩ | ⟨y, -, rfl⟩ := hx
  · exact hinput
  · split at hy
    · rw [List.mem_singleton.mp hy] at hinput
      exact hinput
    · exact absurd hy List.not_mem_nil
  · split at hy
    · exact absurd hy List.not_mem_nil
    · rw [List.mem_singleton.mp hy] at hinput
      exact hinput
  · exact hinput

/-! ### Soundness -/

/-- What is known of a load that succeeds. -/
structure Loaded (lib : BackendCommon) (loader : IoLoader) (s : IoState) : Prop where
  allocated : ∀ set < loader.numCopyStreams, ∀ io t, loader.tensors[io]? = some t →
    ∃ a ∈ s.allocations, a.set = set ∧ a.io = io
  slots : ∀ set < loader.numCopyStreams, ∀ io t, loader.tensors[io]? = some t →
    (s.slot set io).allocated = true
  claimed : s.view.Claimed loader (loader.needsBuffer lib)
  visited : ∀ visit ∈ loader.allInputVisits ++ loader.allOutputVisits,
    visit.Visited loader (loader.needsBuffer lib) s.view

theorem loaded_of_ok (hvalid : loader.validateIo = .ok ())
    (hbatch : loader.BatchOutputsAreOutputs) (h : loader.initIoBindingBuffers lib = .ok s) :
    Loaded lib loader s := by
  obtain ⟨hs, hrun, hslots⟩ := load_refines hvalid hbatch h
  obtain ⟨hclaimed, hvisited⟩ := run_visited allInputVisits_ofInput allOutputVisits_not_ofInput hrun
  refine ⟨fun set hset io t ht => ?_, hslots, hclaimed, hvisited⟩
  have htaken : s.view.taken set io = true := by
    rw [← hs.allocated]
    exact hslots set hset io t ht
  exact IoView.taken_iff.mp htaken

/-- An execution entry has a buffer of its own, unless it names a shape tensor. -/
theorem Loaded.execute (h : Loaded lib loader s) (hname : loader.ownName? entry = some name)
    (hentry : ∀ i, entry ≠ .output i) (hset : set < loader.numCopyStreams) :
    ∃ t io, loader.ioIndex? name = some (t, io) ∧
      (t.isShapeInferenceIo = false → ⟨set, io, entry⟩ ∈ s.allocations) :=
  h.visited _ (mem_allInputVisits hset (executeInput_mem hname hentry))

/-- An entry of `input` has a buffer of its own: one for a shape tensor that has a buffer has been
given it. -/
theorem Loaded.ownInput {i : ℕ} (h : Loaded lib loader s)
    (hname : loader.ownName? (.input i) = some name) (hset : set < loader.numCopyStreams) :
    ∃ t io, loader.ioIndex? name = some (t, io) ∧ ⟨set, io, .input i⟩ ∈ s.allocations := by
  obtain ⟨t, io, hindex, hexecute⟩ := h.execute hname (fun _ => nofun) hset
  refine ⟨t, io, hindex, ?_⟩
  cases hshape : t.isShapeInferenceIo with
  | false => exact hexecute hshape
  | true =>
      obtain ⟨t', io', hindex', hinput, hclaim⟩ :=
        h.visited _ (mem_allInputVisits hset (shapeInput_mem hname))
      obtain ⟨rfl, rfl⟩ := Prod.mk.inj (Option.some.inj (hindex.symm.trans hindex'))
      have ht := getElem?_of_ioIndex? hindex
      obtain ⟨a, ha, rfl, rfl⟩ := h.allocated set hset io t ht
      obtain ⟨t', ht', action, hmay⟩ := h.claimed.allowed a ha
      obtain rfl := Option.some.inj (ht.symm.trans ht')
      exact hclaim hshape (hmay.has_bytes hinput hshape)

/-- The entries for which a tensor has a buffer of its own. -/
theorem Loaded.own (h : Loaded lib loader s) (hok : loader.EarlyReturnsHarmless)
    (hname : loader.ownName? entry = some name) (hset : set < loader.numCopyStreams) :
    ∃ t io, loader.ioIndex? name = some (t, io) ∧ ⟨set, io, entry⟩ ∈ s.allocations := by
  cases entry with
  | input i => exact h.ownInput hname hset
  | control i =>
      obtain ⟨t, io, hindex, hexecute⟩ := h.execute hname (fun _ => nofun) hset
      obtain ⟨control, hcontrol, rfl⟩ := Option.map_eq_some_iff.mp hname
      refine ⟨t, io, hindex, hexecute ?_⟩
      rw [← tensor_of_ioIndex? hindex]
      exact hok.controls control (List.mem_of_getElem? hcontrol)
  | batchInput i target =>
      obtain ⟨t, io, hindex, hexecute⟩ := h.execute hname (fun _ => nofun) hset
      obtain ⟨b, hb, htarget⟩ := Option.bind_eq_some_iff.mp hname
      refine ⟨t, io, hindex, hexecute ?_⟩
      rw [← tensor_of_ioIndex? hindex]
      exact hok.batchInputs b (List.mem_of_getElem? hb) name (List.mem_of_getElem? htarget)
  | output i => exact h.visited _ (mem_allOutputVisits hset (output_mem hname))
  | state i => exact nomatch hname

/-- A tensor that a control or a batch input has a buffer of its own for is no shape tensor. -/
theorem Loaded.not_shape (h : Loaded lib loader s) (hentry : entry.OnlyExecuteInput)
    (hindex : loader.ioIndex? name = some (t, io)) (ha : ⟨set, io, entry⟩ ∈ s.allocations) :
    (loader.tensor name).isShapeInferenceIo = false := by
  obtain ⟨t', ht', action, hmay⟩ := h.claimed.allowed _ ha
  obtain rfl := Option.some.inj ((getElem?_of_ioIndex? hindex).symm.trans ht')
  rw [tensor_of_ioIndex? hindex]
  exact hmay.not_shape hentry

/-- **What a load that succeeds leaves is sound exactly when no early return hides a fault.** -/
theorem ioBindings_sound_iff (lib : BackendCommon) (loader : IoLoader) (s : IoState)
    (hvalid : loader.validateIo = .ok ()) (hbatch : loader.BatchOutputsAreOutputs)
    (hload : loader.initIoBindingBuffers lib = .ok s) :
    loader.Sound s ↔ loader.EarlyReturnsHarmless := by
  have h := loaded_of_ok hvalid hbatch hload
  have hfirst := numCopyStreams_pos loader.toLoader
  constructor
  · intro hsound
    constructor
    · intro control hcontrol
      obtain ⟨i, hi⟩ := List.mem_iff_getElem?.mp hcontrol
      obtain ⟨t, io, hindex, ha⟩ := hsound.own (.control i) control.1
        (Option.map_eq_some_iff.mpr ⟨control, hi, rfl⟩) 0 hfirst
      have hentry : (ConfigEntry.control i).OnlyExecuteInput := trivial
      exact h.not_shape hentry hindex ha
    · intro b hb name hname
      obtain ⟨i, hi⟩ := List.mem_iff_getElem?.mp hb
      obtain ⟨target, htarget⟩ := List.mem_iff_getElem?.mp hname
      obtain ⟨t, io, hindex, ha⟩ := hsound.own (.batchInput i target) name
        (Option.bind_eq_some_iff.mpr ⟨b, hi, htarget⟩) 0 hfirst
      have hentry : (ConfigEntry.batchInput i target).OnlyExecuteInput := trivial
      exact h.not_shape hentry hindex ha
    · intro state hstate _
      obtain ⟨t, ht, hname, hinput⟩ := hsound.stateInputs state hstate
      rw [← hname, tensor_of_mem ht, hinput]
    · intro state hstate
      obtain ⟨t, ht, hname, houtput⟩ := hsound.stateOutputs state hstate
      rw [← hname, tensor_of_mem ht, houtput]
  · intro hok
    constructor
    · intro set hset io t ht
      obtain ⟨a, ha, rfl, rfl⟩ := h.allocated set hset io t ht
      exact ⟨h.slots a.set hset a.io t ht, h.claimed.named a ha t ht⟩
    · exact h.claimed.once
    · intro entry name hname set hset
      exact h.own hok hname hset
    · intro state hstate
      obtain ⟨i, hi⟩ := List.mem_iff_getElem?.mp hstate
      obtain ⟨t, io, hindex, hvisit⟩ :=
        h.visited _ (mem_allInputVisits hfirst (stateInput_mem hi))
      have hmem := List.mem_of_getElem? (getElem?_of_ioIndex? hindex)
      refine ⟨t, hmem, name_of_ioIndex? hindex, ?_⟩
      rcases hvisit with hinput | hshape
      · exact hinput
      · have hinput := hok.stateInputs state hstate
        rw [tensor_of_ioIndex? hindex] at hinput
        exact hinput hshape
    · intro state hstate
      obtain ⟨i, hi⟩ := List.mem_iff_getElem?.mp hstate
      obtain ⟨t, io, hindex, -⟩ :=
        h.visited _ (mem_allOutputVisits hfirst (stateOutput_mem hi))
      have hmem := List.mem_of_getElem? (getElem?_of_ioIndex? hindex)
      refine ⟨t, hmem, name_of_ioIndex? hindex, ?_⟩
      rw [← tensor_of_ioIndex? hindex]
      exact hok.stateOutputs state hstate

end Sound

/-! ### A model with a state -/

/-- An entry for two values. -/
def pairEntry (name : String) : ConfigIo where
  name := name
  dataType := some "TYPE_FP32"
  dims := some [2]
  isShapeTensor := some false
  isNonLinearFormatIo := some false

/-- A tensor of two values. -/
def pairTensor (name : String) (isInput : Bool) : BoundTensor where
  name := name
  isInput := isInput
  shape := valueDims 2
  components_pos := linear_components_pos

/-- A loader for a model with a state, whose output is configured to have the given name. -/
def statefulLoader (outputName : String) : IoLoader where
  name := "stateful"
  config := {
    input := some [pairEntry "x"]
    output := some [pairEntry "y"]
    sequenceStates :=
      [{ inputName := "past", outputName := outputName, dataType := "TYPE_FP32", dims := [2] }] }
  tensors := [pairTensor "x" true, pairTensor "past" true, pairTensor "y" false]
  trtContexts := [{
    dims := [valueProfile 2, valueProfile 2, valueProfile 2]
    shapes := [default, default, default]
    isDynamicPerBinding := [false, false, false] }]
  configDataType := fun _ => .fp32
  contexts_ne := List.cons_ne_nil _ _
  profileTensorValues := fun _ _ _ => []
  values_int := fun _ _ _ _ hv => absurd hv List.not_mem_nil
  values_ordered := fun _ _ _ => le_refl _
  names_nodup := by decide
  shapes_length := by
    intro ctx hctx
    rw [List.mem_singleton.mp hctx]
    rfl
  outputCalls := fun _ => { tensorShape := fun _ _ => valueDims 2, fullByteSize := fun _ _ => 8 }

theorem statefulLoader_batchOutput (outputName : String) :
    (statefulLoader outputName).BatchOutputsAreOutputs :=
  fun _ hb => absurd hb List.not_mem_nil

/-- The theorem for the state that names the output. -/
theorem ioBindings_sound_iff_stateful : ∃ s,
    (statefulLoader "y").initIoBindingBuffers BackendCommon.plain = .ok s ∧
      ((statefulLoader "y").Sound s ↔ (statefulLoader "y").EarlyReturnsHarmless) := by
  have hok : ((statefulLoader "y").initIoBindingBuffers BackendCommon.plain).isOk = true := by rfl
  obtain ⟨s, hs⟩ := exists_eq_ok_of_isOk hok
  exact ⟨s, hs, ioBindings_sound_iff BackendCommon.plain _ s rfl (statefulLoader_batchOutput "y") hs⟩

/-- **The slip**: a state whose output is configured to be its input. -/
theorem ioBindings_unsound : ∃ s, (statefulLoader "past").validateIo = .ok () ∧
    (statefulLoader "past").BatchOutputsAreOutputs ∧
    (statefulLoader "past").initIoBindingBuffers BackendCommon.plain = .ok s ∧
    ¬ (statefulLoader "past").Sound s := by
  have hok : ((statefulLoader "past").initIoBindingBuffers BackendCommon.plain).isOk = true := by rfl
  obtain ⟨s, hs⟩ := exists_eq_ok_of_isOk hok
  refine ⟨s, rfl, statefulLoader_batchOutput "past", hs, fun h => ?_⟩
  obtain ⟨t, ht, hname, houtput⟩ := h.stateOutputs _ List.mem_cons_self
  have hnone : ∀ t ∈ (statefulLoader "past").tensors, t.name = "past" → t.isInput ≠ false := by
    decide
  exact hnone t ht hname houtput

end TensorrtBackend

import TensorrtBackend.ConfigureTwice
import TensorrtBackend.IoClaims
import TensorrtBackend.Lib.Refinement

/-!
# The load refines the claims

Each initialiser of `InitIOBindingBuffers` is a visit of the machine of claims: on names the engine
knows the map of the indices does not change, a slot has a buffer exactly when its tensor is
claimed, and the maximum dims of shape tensors, on which the bytes of a shape input depend, are not
touched.

* `load_refines`: a load that succeeds is a run of the visits of the configuration.
-/

namespace TensorrtBackend

open Box Checked

/-! ### What the binding functions do to the table -/

/-- The profile and the maximum dims of the shape tensors are the same. -/
def KeepsShapes (loader : IoLoader) (ctx ctx' : TensorRTContext) : Prop :=
  ctx'.profileIdx = ctx.profileIdx ∧ ∀ io t, loader.tensors[io]? = some t →
    t.isShapeInferenceIo = true → ctx'.maxDims io = ctx.maxDims io

/-- A slot without a buffer is given one; the others stay. -/
structure Binds (loader : IoLoader) (set io : ℕ) (s l : LoadState) : Prop where
  free : (s.slot set io).allocated = false
  bound : ∃ slot, slot.allocated = true ∧ l.ioBindingInfos = (s.setSlot set io slot).ioBindingInfos
  contexts : List.Forall₂ (KeepsShapes loader) s.trtContexts l.trtContexts

section Binding

variable {lib : BackendCommon} {loader : IoLoader} {set io : ℕ} {t : BoundTensor} {s l : LoadState}

theorem keepsShapes_refl (ctx : TensorRTContext) : KeepsShapes loader ctx ctx :=
  ⟨rfl, fun _ _ _ _ => rfl⟩

theorem KeepsShapes.trans {ctx ctx' ctx'' : TensorRTContext} (h : KeepsShapes loader ctx ctx')
    (h' : KeepsShapes loader ctx' ctx'') : KeepsShapes loader ctx ctx'' :=
  ⟨h'.1.trans h.1, fun io t ht hshape => (h'.2 io t ht hshape).trans (h.2 io t ht hshape)⟩

theorem keepsShapes_markDynamic (ctx : TensorRTContext) (io : ℕ) (engineDims : Dims) :
    KeepsShapes loader ctx (ctx.markDynamic io engineDims) :=
  ⟨markDynamic_profileIdx ctx io engineDims, fun io' _ _ _ => markDynamic_maxDims ctx io engineDims io'⟩

/-- The contexts that a loop over the contexts returns. -/
theorem contexts_of_mapM {f : TensorRTContext → Result (TensorRTContext × ℤ)}
    {ctxs : List TensorRTContext} {configured : List (TensorRTContext × ℤ)}
    (h : ctxs.mapM f = .ok configured)
    (hstep : ∀ ctx x, f ctx = .ok x → KeepsShapes loader ctx x.1) :
    List.Forall₂ (KeepsShapes loader) ctxs (configured.map Prod.fst) := by
  rw [List.forall₂_map_right_iff]
  exact (mapM_eq_ok.mp h).imp hstep

/-- An execution input lowers its own maximum dims. -/
theorem bindInput_binds {inputDatatype : String} {inputDims : List ℤ} {isControl isRagged : Bool}
    (ht : loader.tensors[io]? = some t) (hshape : t.isShapeInferenceIo = false)
    (h : bindInput lib loader.toLoader set io t inputDatatype inputDims isControl isRagged s =
      .ok l) : Binds loader set io s l ∧ t.isInput = true := by
  obtain ⟨_, hfree, hrest⟩ := bind_eq_ok.mp h
  obtain ⟨_, hinput, -⟩ := bind_eq_ok.mp hrest
  obtain ⟨-, format, configured, -, hconfigured, rfl⟩ := bindInput_bound h
  refine ⟨⟨Bool.eq_false_of_not_eq_true (failIf_eq_ok.mp hfree), ⟨_, rfl, rfl⟩, ?_⟩,
    eq_true_of_ne_false (failIf_eq_ok.mp hinput)⟩
  refine contexts_of_mapM (mapM_eq_ok.mpr hconfigured) fun ctx x hx => ?_
  obtain ⟨maximum, hconf, -⟩ := configureContext_configured hx
  obtain ⟨-, -, -, hctx, -⟩ := configureInputDimensions_eq_ok_iff.mp hconf
  refine ⟨?_, fun io' t' ht' hshape' => ?_⟩
  · rw [hctx]
    exact markDynamic_profileIdx ctx io t.shape
  · have hne : io ≠ io' := by
      rintro rfl
      obtain rfl := Option.some.inj (ht.symm.trans ht')
      exact Bool.noConfusion (hshape.symm.trans hshape')
    exact (configureContext_frame hx io').2 hne

theorem configureShapeOutputContext_fst {dims : List ℤ} {isDynamic : Bool} {ctx : TensorRTContext}
    {x : TensorRTContext × ℤ}
    (h : loader.configureShapeOutputContext lib set io t dims isDynamic ctx = .ok x) :
    x.1 = ctx.markDynamic io t.shape := by
  unfold IoLoader.configureShapeOutputContext at h
  simp only at h
  split at h
  · cases h
  · split at h
    · rw [← Except.ok.inj h]
    · split at h
      · cases h
      · rw [← Except.ok.inj h]

/-- A shape output. -/
theorem bindShapeOutput_binds {config : ConfigIo}
    (h : loader.bindShapeOutput lib set io t config s = .ok l) :
    Binds loader set io s l ∧ t.isInput = false := by
  obtain ⟨_, hfree, h⟩ := bind_eq_ok.mp h
  obtain ⟨_, hinput, h⟩ := bind_eq_ok.mp h
  obtain ⟨ioDataType, -, h⟩ := bind_eq_ok.mp h
  obtain ⟨-, -, h⟩ := bind_eq_ok.mp h
  obtain ⟨-, -, h⟩ := bind_eq_ok.mp h
  obtain ⟨format, -, h⟩ := bind_eq_ok.mp h
  obtain ⟨dims, -, h⟩ := bind_eq_ok.mp h
  obtain ⟨configured, hconfigured, h⟩ := bind_eq_ok.mp h
  obtain ⟨-, -, h⟩ := bind_eq_ok.mp h
  obtain ⟨-, -, h⟩ := bind_eq_ok.mp h
  obtain rfl := pure_eq_ok.mp h
  refine ⟨⟨Bool.eq_false_of_not_eq_true (failIf_eq_ok.mp hfree), ⟨_, rfl, rfl⟩, ?_⟩,
    Bool.eq_false_of_not_eq_true (failIf_eq_ok.mp hinput)⟩
  refine contexts_of_mapM hconfigured fun ctx x hx => ?_
  rw [configureShapeOutputContext_fst hx]
  exact keepsShapes_markDynamic ctx io t.shape

theorem configureOutputContext_fst {isDynamic : Bool} {ctx : TensorRTContext}
    {x : TensorRTContext × ℤ}
    (h : loader.configureOutputContext set io t isDynamic ctx = .ok x) :
    x.1 = ctx.markDynamic io t.shape := by
  unfold IoLoader.configureOutputContext at h
  simp only at h
  split at h
  · rw [← pure_eq_ok.mp h]
  · obtain ⟨-, -, h⟩ := bind_eq_ok.mp h
    rw [← pure_eq_ok.mp h]

/-- Another output. -/
theorem bindOutput_binds {outputDatatype : String} {outputDims : List ℤ}
    (h : loader.bindOutput set io t outputDatatype outputDims s = .ok l) :
    Binds loader set io s l ∧ t.isInput = false := by
  obtain ⟨_, hinput, h⟩ := bind_eq_ok.mp h
  obtain ⟨_, hfree, h⟩ := bind_eq_ok.mp h
  obtain ⟨-, -, h⟩ := bind_eq_ok.mp h
  obtain ⟨format, -, h⟩ := bind_eq_ok.mp h
  split at h
  · exact nomatch h
  · obtain ⟨-, -, h⟩ := bind_eq_ok.mp h
    obtain ⟨configured, hconfigured, h⟩ := bind_eq_ok.mp h
    obtain ⟨-, -, h⟩ := bind_eq_ok.mp h
    obtain ⟨-, -, h⟩ := bind_eq_ok.mp h
    obtain rfl := pure_eq_ok.mp h
    refine ⟨⟨Bool.eq_false_of_not_eq_true (failIf_eq_ok.mp hfree), ⟨_, rfl, rfl⟩, ?_⟩,
      Bool.eq_false_of_not_eq_true (failIf_eq_ok.mp hinput)⟩
    refine contexts_of_mapM hconfigured fun ctx x hx => ?_
    rw [configureOutputContext_fst hx]
    exact keepsShapes_markDynamic ctx io t.shape

/-! ### The bytes of a shape input -/

/-- Some context needs bytes for the shape input. -/
def IoLoader.needsBuffer (lib : BackendCommon) (loader : IoLoader) (set io : ℕ) : Bool :=
  match loader.tensors[io]? with
  | none => false
  | some t => loader.trtContexts.any fun ctx =>
      match shapeByteSize lib loader.toShapeLoader set io t t.format ctx with
      | .ok byteSize => decide (0 < byteSize)
      | .error _ => false

/-- The bytes depend on the profile, the maximum dims and on whether the format is linear. -/
theorem shapeByteSize_congr {format format' : TensorFormat} {ctx ctx' : TensorRTContext}
    (hformat : format'.isLinearFormat = format.isLinearFormat)
    (hprofile : ctx'.profileIdx = ctx.profileIdx) (hmax : ctx'.maxDims io = ctx.maxDims io) :
    shapeByteSize lib loader.toShapeLoader set io t format' ctx' =
      shapeByteSize lib loader.toShapeLoader set io t format ctx := by
  simp only [shapeByteSize, hformat, hprofile, hmax]

theorem setFormat_isLinear {format format' : TensorFormat}
    (h : setFormat loader.toLoader t format = .ok format') :
    format'.isLinearFormat = t.format.isLinearFormat := by
  unfold setFormat at h
  split at h
  · rename_i hlinear
    rw [← Except.ok.inj h, hlinear]
  · rename_i hlinear
    split at h
    · exact nomatch h
    · rw [← Except.ok.inj h]
      exact (Bool.eq_false_of_not_eq_true hlinear).symm

/-- What the loop over the contexts finds for a shape input: the bytes each context needs. -/
theorem configureShapeContext_bytes {inputDatatype : DataType} {modelConfigDims : List ℤ}
    {format : TensorFormat} {ctx : TensorRTContext} {x : TensorRTContext × ℤ}
    (h : configureShapeContext lib loader.toShapeLoader set io t inputDatatype modelConfigDims format
      ctx = .ok x) :
    KeepsShapes loader ctx x.1 ∧
      shapeByteSize lib loader.toShapeLoader set io t format ctx = .ok x.2 := by
  obtain ⟨ctx', byteSize⟩ := x
  have hctx := configureShapeContext_eq_ok h
  have hkeeps : KeepsShapes loader ctx ctx' := by
    rw [hctx]
    exact keepsShapes_markDynamic ctx io t.shape
  refine ⟨hkeeps, ?_⟩
  unfold configureShapeContext at h
  simp only at h
  split at h
  · cases h
  · obtain ⟨-, -, h⟩ := bind_eq_ok.mp h
    obtain ⟨-, -, h⟩ := bind_eq_ok.mp h
    obtain ⟨size, hsize, h⟩ := bind_eq_ok.mp h
    obtain ⟨-, rfl⟩ := Prod.mk.inj (pure_eq_ok.mp h)
    rw [← hsize]
    refine (shapeByteSize_congr rfl ?_ ?_).symm
    · exact markDynamic_profileIdx ctx io t.shape
    · exact markDynamic_maxDims ctx io t.shape io

theorem foldl_max_pos_iff (l : List ℤ) : l.foldl max 0 ≠ 0 ↔ ∃ x ∈ l, 0 < x := by
  obtain ⟨hnonneg, hle⟩ := le_foldl_max l 0
  constructor
  · intro hne
    have hmem := (foldl_max_attained l 0).resolve_left hne
    exact ⟨_, hmem, lt_of_le_of_ne hnonneg hne.symm⟩
  · intro ⟨x, hx, hpos⟩
    have hx' := hle x hx
    omega

/-- A shape input is given a buffer exactly when some context needs bytes for it. -/
theorem bindShapeInput_binds {inputDatatype : DataType} {modelConfigDims : List ℤ}
    (ht : loader.tensors[io]? = some t) (hshape : t.isShapeInferenceIo = true)
    (hctxs : List.Forall₂ (KeepsShapes loader) loader.trtContexts s.trtContexts)
    (h : bindShapeInput lib loader.toShapeLoader set io t inputDatatype modelConfigDims s = .ok l) :
    ∃ slot, slot.allocated = (loader.needsBuffer lib set io || (s.slot set io).allocated) ∧
      l.ioBindingInfos = (s.setSlot set io slot).ioBindingInfos ∧
      List.Forall₂ (KeepsShapes loader) s.trtContexts l.trtContexts := by
  obtain ⟨-, -, h⟩ := bind_eq_ok.mp h
  obtain ⟨-, -, h⟩ := bind_eq_ok.mp h
  obtain ⟨format, hformat, h⟩ := bind_eq_ok.mp h
  obtain ⟨configured, hconfigured, h⟩ := bind_eq_ok.mp h
  obtain ⟨slot, hslot, h⟩ := bind_eq_ok.mp h
  obtain rfl := pure_eq_ok.mp h
  refine ⟨slot, ?_, rfl, contexts_of_mapM hconfigured fun ctx x hx =>
    (configureShapeContext_bytes hx).1⟩
  -- The bytes are those of the contexts the load started from.
  have hbytes : List.Forall₂ (fun ctx x => shapeByteSize lib loader.toShapeLoader set io t t.format
      ctx = .ok x.2) loader.trtContexts configured := by
    refine Related.comp hctxs (mapM_eq_ok.mp hconfigured) fun ctx₀ ctx x hctx hx => ?_
    rw [← (configureShapeContext_bytes hx).2]
    exact (shapeByteSize_congr (setFormat_isLinear hformat) hctx.1 (hctx.2 io t ht hshape)).symm
  have hneeds : loader.needsBuffer lib set io = true ↔
      ((configured.map Prod.snd).foldl max 0 ≠ 0) := by
    rw [foldl_max_pos_iff, IoLoader.needsBuffer, ht]
    simp only [List.any_eq_true]
    constructor
    · intro ⟨ctx, hctx, hpos⟩
      obtain ⟨x, hx, hsize⟩ := Related.exists_right hbytes hctx
      rw [hsize] at hpos
      exact ⟨x.2, List.mem_map_of_mem hx, of_decide_eq_true hpos⟩
    · intro ⟨b, hb, hpos⟩
      obtain ⟨x, hx, rfl⟩ := List.mem_map.mp hb
      obtain ⟨ctx, hctx, hsize⟩ := Related.exists_left hbytes hx
      refine ⟨ctx, hctx, ?_⟩
      rw [hsize]
      exact decide_eq_true hpos
  unfold allocateShapeInput at hslot
  split at hslot
  · rename_i hzero
    have hnone := Bool.eq_false_of_not_eq_true fun h => hneeds.mp h hzero
    rw [hnone, Bool.false_or, ← Except.ok.inj hslot]
  · rename_i hpos
    obtain ⟨-, -, hslot⟩ := bind_eq_ok.mp hslot
    rw [hneeds.mpr hpos, Bool.true_or, ← pure_eq_ok.mp hslot]

end Binding

/-! ### The load refines the claims -/

/-- The names and the claims of a state. -/
def IoState.view (s : IoState) : IoView := ⟨s.names, s.allocations⟩

/-- What holds throughout a load that succeeds. -/
structure Loading (loader : IoLoader) (s : IoState) : Prop where
  map : s.ioIndexMap = fun name => (loader.ioIndex? name).map Prod.snd
  slots : ∀ set < loader.numCopyStreams,
    (s.ioBindingInfos.getD set []).length = loader.tensors.length
  allocated : ∀ set io, (s.slot set io).allocated = s.view.taken set io
  contexts : List.Forall₂ (KeepsShapes loader) loader.trtContexts s.trtContexts

section Loading

variable {lib : BackendCommon} {loader : IoLoader} {set io : ℕ} {t : BoundTensor} {s s' : IoState}
  {l : LoadState} {name : String} {entry : ConfigEntry}

theorem loading_start : Loading loader loader.ioStart where
  map := rfl
  slots := fun _ hset => start_slots hset
  allocated := fun set io => by
    show (loader.toLoader.start.slot set io).allocated = false
    rw [start_slot]
    rfl
  contexts := List.forall₂_same.mpr fun ctx _ => keepsShapes_refl ctx

/-- Assigning a slot changes what is allocated in this place alone. -/
theorem slot_of_setSlot {slot : BindingSlot} (hio : io < (s.ioBindingInfos.getD set []).length)
    (hl : l.ioBindingInfos = (s.toLoadState.setSlot set io slot).ioBindingInfos) (set' io' : ℕ) :
    l.slot set' io' = if set' = set ∧ io' = io then slot else s.slot set' io' := by
  show (l.ioBindingInfos.getD set' []).getD io' default = _
  rw [hl]
  show (s.toLoadState.setSlot set io slot).slot set' io' = _
  by_cases hcell : set' = set ∧ io' = io
  · rw [if_pos hcell, hcell.1, hcell.2, slot_setSlot_self hio]
  · rw [if_neg hcell, slot_setSlot_other hcell]

theorem Loading.setName (hs : Loading loader s) (set io : ℕ) (name : String) :
    Loading loader (s.setName set io name) := ⟨hs.map, hs.slots, hs.allocated, hs.contexts⟩

theorem Loading.lt (hs : Loading loader s) (hset : set < loader.numCopyStreams)
    (ht : loader.tensors[io]? = some t) : io < (s.ioBindingInfos.getD set []).length := by
  rw [hs.slots set hset]
  exact (List.getElem?_eq_some_iff.mp ht).1

/-- The slots keep their number. -/
theorem Loading.slots_of (hs : Loading loader s) {slot : BindingSlot}
    (hl : l.ioBindingInfos = (s.toLoadState.setSlot set io slot).ioBindingInfos) :
    ∀ set' < loader.numCopyStreams, (l.ioBindingInfos.getD set' []).length = loader.tensors.length := by
  intro set' hset'
  rw [hl, setSlot_length, hs.slots set' hset']

/-- A slot that keeps its buffer, or keeps having none. -/
theorem Loading.write (hs : Loading loader s) (hset : set < loader.numCopyStreams)
    (ht : loader.tensors[io]? = some t) {slot : BindingSlot}
    (hslot : slot.allocated = (s.slot set io).allocated)
    (hl : l.ioBindingInfos = (s.toLoadState.setSlot set io slot).ioBindingInfos)
    (hctxs : List.Forall₂ (KeepsShapes loader) s.trtContexts l.trtContexts) :
    Loading loader { s with toLoadState := l } := by
  refine ⟨hs.map, hs.slots_of hl, fun set' io' => ?_, Related.comp hs.contexts hctxs fun _ _ _ =>
    KeepsShapes.trans⟩
  show (l.slot set' io').allocated = s.view.taken set' io'
  rw [slot_of_setSlot (hs.lt hset ht) hl, ← hs.allocated]
  split
  · rename_i hcell
    rw [hslot, hcell.1, hcell.2]
  · rfl

theorem Loading.setInfo (hs : Loading loader s) (hset : set < loader.numCopyStreams)
    (ht : loader.tensors[io]? = some t) (f : IOBindingInfo → IOBindingInfo) :
    Loading loader (s.setInfo set io f) := by
  have hslot : ({ s.slot set io with info := f (s.slot set io).info } : BindingSlot).allocated =
      (s.slot set io).allocated := rfl
  exact hs.write hset ht hslot rfl (List.forall₂_same.mpr fun ctx _ => keepsShapes_refl ctx)

/-- A slot that is given its buffer is claimed. -/
theorem Loading.bound (hs : Loading loader s) (hset : set < loader.numCopyStreams)
    (ht : loader.tensors[io]? = some t) {slot : BindingSlot} (hslot : slot.allocated = true)
    (hl : l.ioBindingInfos = (s.toLoadState.setSlot set io slot).ioBindingInfos)
    (hctxs : List.Forall₂ (KeepsShapes loader) s.trtContexts l.trtContexts) :
    Loading loader (s.bound l set io entry) := by
  refine ⟨hs.map, hs.slots_of hl, fun set' io' => ?_, Related.comp hs.contexts hctxs fun _ _ _ =>
    KeepsShapes.trans⟩
  show (l.slot set' io').allocated = (s.view.claim set io entry).taken set' io'
  rw [slot_of_setSlot (hs.lt hset ht) hl, IoView.taken_claim, ← hs.allocated]
  split
  · rename_i hcell
    rw [hslot, hcell.1, hcell.2, decide_eq_true ⟨rfl, rfl⟩, Bool.or_true]
  · rename_i hcell
    rw [decide_eq_false fun h => hcell ⟨h.1.symm, h.2.symm⟩, Bool.or_false]

theorem Loading.binds (hs : Loading loader s) (hset : set < loader.numCopyStreams)
    (ht : loader.tensors[io]? = some t) (h : Binds loader set io s.toLoadState l) :
    Loading loader (s.bound l set io entry) := by
  obtain ⟨slot, hslot, hl⟩ := h.bound
  exact hs.bound hset ht hslot hl h.contexts

/-! ### Names -/

/-- The index of a name is that of the tensor with this name. -/
theorem name_of_ioIndex? (h : loader.ioIndex? name = some (t, io)) : t.name = name := by
  have hfound := List.find?_some h
  exact beq_iff_eq.mp hfound

theorem tensor_of_ioIndex? (h : loader.ioIndex? name = some (t, io)) : loader.tensor name = t := by
  rw [IoLoader.tensor, h]
  rfl

theorem Loading.ioIndexMap (hs : Loading loader s) (name : String) :
    s.ioIndexMap name = (loader.ioIndex? name).map Prod.snd := by rw [hs.map]

theorem Loading.ioIndex (hs : Loading loader s) (h : loader.ioIndex? name = some (t, io)) :
    s.ioIndex name = (io, s) := by
  rw [IoState.ioIndex, hs.ioIndexMap, h]
  rfl

/-! ### Each initialiser -/

/-- An input that is no shape tensor, or the input of a state. -/
theorem initializeExecuteInputBinding_cases {inputDatatype : String} {inputDims : List ℤ}
    {isControl isRagged isState : Bool} (hs : Loading loader s)
    (hset : set < loader.numCopyStreams)
    (h : loader.initializeExecuteInputBinding lib set entry name inputDatatype inputDims isControl
      isRagged isState s = .ok s') :
    ∃ t io, loader.ioIndex? name = some (t, io) ∧ Loading loader s' ∧
      if (s.view.taken set io = true ∧ isState = true) ∨ t.isShapeInferenceIo = true then
        s'.view = s.view.setName set io t.name
      else s.view.taken set io = false ∧ t.isInput = true ∧
        s'.view = (s.view.setName set io t.name).claim set io entry := by
  unfold IoLoader.initializeExecuteInputBinding at h
  rw [hs.ioIndexMap] at h
  cases hindex : loader.ioIndex? name with
  | none =>
      rw [hindex] at h
      exact nomatch h
  | some x =>
      obtain ⟨t, io⟩ := x
      have ht := getElem?_of_ioIndex? hindex
      have hallocated : ((s.setName set io name).slot set io).allocated = s.view.taken set io :=
        hs.allocated set io
      rw [hindex] at h
      simp only [Option.map_some, tensor_of_ioIndex? hindex, hallocated] at h
      refine ⟨t, io, rfl, ?_⟩
      rw [name_of_ioIndex? hindex]
      by_cases hreuse : s.view.taken set io = true ∧ isState = true
      · rw [if_pos hreuse] at h
        rw [if_pos (Or.inl hreuse), ← Except.ok.inj h]
        exact ⟨hs.setName set io name, rfl⟩
      · rw [if_neg hreuse] at h
        by_cases hshape : t.isShapeInferenceIo = true
        · rw [if_pos hshape] at h
          rw [if_pos (Or.inr hshape), ← Except.ok.inj h]
          exact ⟨hs.setName set io name, rfl⟩
        · rw [if_neg hshape] at h
          rw [if_neg (not_or.mpr ⟨hreuse, hshape⟩)]
          obtain ⟨l, hl, h⟩ := bind_eq_ok.mp h
          obtain ⟨hbinds, hinput⟩ := bindInput_binds ht (Bool.eq_false_of_not_eq_true hshape) hl
          rw [← pure_eq_ok.mp h]
          exact ⟨(hs.setName set io name).binds hset ht hbinds, hallocated ▸ hbinds.free, hinput,
            rfl⟩

/-- A shape input without a buffer is given one when it needs bytes, and only then. -/
theorem Loading.bindsShape {inputDatatype : DataType} {modelConfigDims : List ℤ}
    (hs : Loading loader s) (hset : set < loader.numCopyStreams)
    (ht : loader.tensors[io]? = some t) (hshape : t.isShapeInferenceIo = true)
    (hfree : (s.slot set io).allocated = false)
    (h : bindShapeInput lib loader.toShapeLoader set io t inputDatatype modelConfigDims
      s.toLoadState = .ok l) :
    (l.slot set io).allocated = loader.needsBuffer lib set io ∧
      Loading loader (if (l.slot set io).allocated then s.bound l set io entry
        else { s with toLoadState := l }) := by
  obtain ⟨slot, hslot, hinfos, hctxs⟩ := bindShapeInput_binds ht hshape hs.contexts h
  rw [hfree, Bool.or_false] at hslot
  have hl : l.slot set io = slot := by
    rw [slot_of_setSlot (hs.lt hset ht) hinfos, if_pos ⟨rfl, rfl⟩]
  rw [hl, hslot]
  refine ⟨rfl, ?_⟩
  split
  · rename_i hneeds
    exact hs.bound hset ht (hslot.trans hneeds) hinfos hctxs
  · rename_i hneeds
    have hnone : slot.allocated = (s.slot set io).allocated := by
      rw [hslot, hfree]
      exact Bool.eq_false_of_not_eq_true hneeds
    exact hs.write hset ht hnone hinfos hctxs

/-- An entry of `input` in the pass for shape tensors. -/
theorem initializeShapeInputBinding_cases {inputDatatype : DataType} {dims : List ℤ}
    (hs : Loading loader s) (hset : set < loader.numCopyStreams)
    (h : loader.initializeShapeInputBinding lib set entry name inputDatatype dims s = .ok s') :
    ∃ t io, loader.ioIndex? name = some (t, io) ∧ Loading loader s' ∧
      s.view.taken set io = false ∧ t.isInput = true ∧
      s'.view = if (t.isShapeInferenceIo && loader.needsBuffer lib set io) = true then
          (s.view.setName set io t.name).claim set io entry
        else s.view.setName set io t.name := by
  unfold IoLoader.initializeShapeInputBinding at h
  rw [hs.ioIndexMap] at h
  cases hindex : loader.ioIndex? name with
  | none =>
      rw [hindex] at h
      exact nomatch h
  | some x =>
      obtain ⟨t, io⟩ := x
      have ht := getElem?_of_ioIndex? hindex
      have hallocated : ((s.setName set io name).slot set io).allocated = s.view.taken set io :=
        hs.allocated set io
      rw [hindex] at h
      simp only [Option.map_some, tensor_of_ioIndex? hindex, hallocated] at h
      refine ⟨t, io, rfl, ?_⟩
      rw [name_of_ioIndex? hindex]
      split at h
      · exact nomatch h
      · rename_i hfree
        have hfree := Bool.eq_false_of_not_eq_true hfree
        split at h
        · exact nomatch h
        · rename_i hinput
          have hinput := eq_true_of_ne_false hinput
          split at h
          · rename_i hshape
            rw [hshape, ← Except.ok.inj h]
            exact ⟨hs.setName set io name, hfree, hinput, rfl⟩
          · rename_i hshape
            have hshape := eq_true_of_ne_false hshape
            obtain ⟨l, hl, h⟩ := bind_eq_ok.mp h
            obtain ⟨hneeds, hloading⟩ := (hs.setName set io name).bindsShape hset ht hshape
              (hallocated.trans hfree) hl
            rw [← pure_eq_ok.mp h]
            refine ⟨hloading, hfree, hinput, ?_⟩
            rw [hneeds, hshape, Bool.true_and]
            split
            · rfl
            · rfl

/-- What the initialisers do is a visit. -/
abbrev RefinesVisits (lib : BackendCommon) (loader : IoLoader) (f : IoState → Result IoState)
    (visits : List IoVisit) : Prop :=
  Refines (ioClaims loader (loader.needsBuffer lib)) IoState.view (Loading loader) f visits

theorem executeInput_refines {inputDatatype : String} {inputDims : List ℤ}
    {isControl isRagged : Bool} (hset : set < loader.numCopyStreams) :
    RefinesVisits lib loader (fun s => loader.initializeExecuteInputBinding lib set entry name
      inputDatatype inputDims isControl isRagged false s) [⟨set, name, .executeInput entry⟩] := by
  refine Refines.act fun s s' hs h => ?_
  obtain ⟨t, io, hindex, hs', hview⟩ := initializeExecuteInputBinding_cases hs hset h
  refine ⟨hs', ?_⟩
  show ioVisit loader (loader.needsBuffer lib) s.view _ = _
  simp only [ioVisit, hindex]
  simp only [Bool.false_eq_true, and_false, false_or] at hview
  by_cases hshape : t.isShapeInferenceIo = true
  · rw [if_pos hshape] at hview ⊢
    rw [hview]
  · rw [if_neg hshape] at hview ⊢
    obtain ⟨hfree, hinput, hview⟩ := hview
    simp only [hfree, hinput, Bool.not_true, Bool.or_self, Bool.false_eq_true, if_false, hview]

theorem stateInput_refines {inputDatatype : String} {inputDims : List ℤ} {i : ℕ}
    (hset : set < loader.numCopyStreams) :
    RefinesVisits lib loader (fun s => loader.initializeExecuteInputBinding lib set (.state i) name
      inputDatatype inputDims false false true s) [⟨set, name, .stateInput i⟩] := by
  refine Refines.act fun s s' hs h => ?_
  obtain ⟨t, io, hindex, hs', hview⟩ := initializeExecuteInputBinding_cases hs hset h
  refine ⟨hs', ?_⟩
  show ioVisit loader (loader.needsBuffer lib) s.view _ = _
  simp only [ioVisit, hindex, Bool.or_eq_true]
  simp only [and_true] at hview
  by_cases hpass : s.view.taken set io = true ∨ t.isShapeInferenceIo = true
  · rw [if_pos hpass] at hview ⊢
    rw [hview]
  · rw [if_neg hpass] at hview ⊢
    obtain ⟨hfree, hinput, hview⟩ := hview
    rw [if_pos hinput, hview]

theorem shapeInput_refines {inputDatatype : DataType} {dims : List ℤ} {i : ℕ}
    (hset : set < loader.numCopyStreams) :
    RefinesVisits lib loader (fun s => loader.initializeShapeInputBinding lib set (.input i) name
      inputDatatype dims s) [⟨set, name, .shapeInput i⟩] := by
  refine Refines.act fun s s' hs h => ?_
  obtain ⟨t, io, hindex, hs', hfree, hinput, hview⟩ := initializeShapeInputBinding_cases hs hset h
  refine ⟨hs', ?_⟩
  show ioVisit loader (loader.needsBuffer lib) s.view _ = _
  simp only [ioVisit, hindex, hfree, hinput, Bool.not_true, Bool.or_self, Bool.false_eq_true,
    if_false]
  rw [hview]
  split
  · rfl
  · rfl

/-- Naming the tensor beforehand makes no difference to a visit. -/
theorem run_setName {needsBuffer : ℕ → ℕ → Bool} {v : IoView} (visit : IoVisit)
    (hindex : loader.ioIndex? visit.name = some (t, io)) :
    (ioClaims loader needsBuffer).run (v.setName visit.set io t.name) [visit] =
      (ioClaims loader needsBuffer).run v [visit] := by
  have hname : (v.setName visit.set io t.name).setName visit.set io t.name =
      v.setName visit.set io t.name := by
    unfold IoView.setName
    simp only [Function.update_self, Function.update_idem]
  have hvisit : (ioClaims loader needsBuffer).step (v.setName visit.set io t.name) visit =
      (ioClaims loader needsBuffer).step v visit := by
    show ioVisit loader needsBuffer _ visit = ioVisit loader needsBuffer v visit
    simp only [ioVisit, hindex, hname, IoView.taken_setName]
  rw [StepSystem.run_cons, StepSystem.run_cons, hvisit]

/-- An unknown name is no input, whatever the index it is given. -/
theorem executeInput_unknown {inputDatatype : String} {inputDims : List ℤ} {isControl isRagged : Bool}
    (hindex : loader.ioIndex? name = none) :
    loader.initializeExecuteInputBinding lib set entry name inputDatatype inputDims isControl isRagged
      false s ≠ .ok s' := by
  have htensor : loader.tensor name = IoLoader.unknownTensor name := by
    rw [IoLoader.tensor, hindex]
    rfl
  intro h
  unfold IoLoader.initializeExecuteInputBinding at h
  split at h
  · exact nomatch h
  · simp only [htensor, Bool.false_eq_true, and_false, if_false] at h
    obtain ⟨l, hl, -⟩ := bind_eq_ok.mp h
    obtain ⟨-, -, hl⟩ := bind_eq_ok.mp hl
    obtain ⟨_, hinput, -⟩ := bind_eq_ok.mp hl
    exact failIf_eq_ok.mp hinput rfl

/-- A target of a batch input. -/
theorem batchInput_refines {batchInput : ConfigBatchInput} {i : ℕ} {x : String × ℕ}
    (hset : set < loader.numCopyStreams) :
    RefinesVisits lib loader (fun s => loader.initializeBatchInputBinding lib set batchInput i s x)
      [⟨set, x.1, .executeInput (.batchInput i x.2)⟩] := by
  refine Refines.read fun dims _ => ?_
  have hexecute : RefinesVisits lib loader (fun s => loader.initializeExecuteInputBinding lib set
      (.batchInput i x.2) x.1 ("TYPE_" ++ batchInput.dataType.string) dims false false false s)
      [⟨set, x.1, .executeInput (.batchInput i x.2)⟩] := executeInput_refines hset
  cases hindex : loader.ioIndex? x.1 with
  | none =>
      exact ⟨fun s s' _ h => absurd h (executeInput_unknown hindex),
        fun s s' _ h => absurd h (executeInput_unknown hindex)⟩
  | some y =>
      obtain ⟨t, io⟩ := y
      have ht := getElem?_of_ioIndex? hindex
      constructor
      · intro s s' hs h
        simp only [hs.ioIndex hindex] at h
        exact hexecute.inv _ s' ((hs.setName set io x.1).setInfo hset ht _) h
      · intro s s' hs h
        simp only [hs.ioIndex hindex] at h
        have hrun := hexecute.run _ s' ((hs.setName set io x.1).setInfo hset ht _) h
        rw [← hrun, ← run_setName ⟨set, x.1, .executeInput (.batchInput i x.2)⟩ hindex,
          name_of_ioIndex? hindex]
        rfl

/-- A target of a batch output. -/
theorem batchOutput_refines {batchOutput : ConfigBatchOutput} (hset : set < loader.numCopyStreams)
    (hknown : (loader.ioIndex? name).isSome = true) :
    RefinesVisits lib loader (fun s => loader.initializeBatchOutputBinding set batchOutput s name)
      [⟨set, name, .batchOutput⟩] := by
  obtain ⟨⟨t, io⟩, hindex⟩ := Option.isSome_iff_exists.mp hknown
  have ht := getElem?_of_ioIndex? hindex
  refine Refines.act fun s s' hs h => ?_
  simp only [IoLoader.initializeBatchOutputBinding, hs.ioIndex hindex,
    tensor_of_ioIndex? hindex] at h
  obtain ⟨_, hshape, h⟩ := bind_eq_ok.mp h
  obtain ⟨-, -, h⟩ := bind_eq_ok.mp h
  rw [← pure_eq_ok.mp h]
  refine ⟨(hs.setName set io name).setInfo hset ht _, ?_⟩
  show ioVisit loader (loader.needsBuffer lib) s.view _ = _
  simp only [ioVisit, hindex, if_neg (failIf_eq_ok.mp hshape), name_of_ioIndex? hindex]
  rfl

/-- An entry of `output` that is a shape tensor. -/
theorem shapeOutput_refines {config : ConfigIo} {i : ℕ} (hset : set < loader.numCopyStreams)
    (hknown : (loader.ioIndex? config.name).isSome = true) :
    RefinesVisits lib loader (fun s => do
        let (io, s) := s.ioIndex config.name
        let s := s.setName set io config.name
        let l ← loader.bindShapeOutput lib set io (loader.tensor config.name) config s.toLoadState
        pure (s.bound l set io (.output i)))
      [⟨set, config.name, .output i⟩] := by
  obtain ⟨⟨t, io⟩, hindex⟩ := Option.isSome_iff_exists.mp hknown
  have ht := getElem?_of_ioIndex? hindex
  refine Refines.act fun s s' hs h => ?_
  simp only [hs.ioIndex hindex, tensor_of_ioIndex? hindex] at h
  obtain ⟨l, hl, h⟩ := bind_eq_ok.mp h
  obtain ⟨hbinds, hinput⟩ := bindShapeOutput_binds hl
  have hfree : s.view.taken set io = false := (hs.allocated set io).symm.trans hbinds.free
  rw [← pure_eq_ok.mp h]
  refine ⟨(hs.setName set io config.name).binds hset ht hbinds, ?_⟩
  show ioVisit loader (loader.needsBuffer lib) s.view _ = _
  simp only [ioVisit, hindex, hfree, hinput, Bool.or_self, Bool.false_eq_true, if_false,
    name_of_ioIndex? hindex]
  rfl

/-- Another output, or the output of a state. -/
theorem initializeExecuteOutputBinding_cases {outputDatatype : String} {outputDims : List ℤ}
    {isState : Bool} (hs : Loading loader s) (hset : set < loader.numCopyStreams)
    (h : loader.initializeExecuteOutputBinding set entry name outputDatatype outputDims isState s =
      .ok s') :
    ∃ t io, loader.ioIndex? name = some (t, io) ∧ Loading loader s' ∧
      if s.view.taken set io = true ∧ isState = true then s'.view = s.view.setName set io t.name
      else s.view.taken set io = false ∧ t.isInput = false ∧
        s'.view = (s.view.setName set io t.name).claim set io entry := by
  unfold IoLoader.initializeExecuteOutputBinding at h
  rw [hs.ioIndexMap] at h
  cases hindex : loader.ioIndex? name with
  | none =>
      rw [hindex] at h
      exact nomatch h
  | some x =>
      obtain ⟨t, io⟩ := x
      have ht := getElem?_of_ioIndex? hindex
      rw [hindex] at h
      simp only [Option.map_some, tensor_of_ioIndex? hindex] at h
      refine ⟨t, io, rfl, ?_⟩
      rw [name_of_ioIndex? hindex]
      have hnamed := (hs.setName set io name).setInfo hset ht fun info =>
        if isState then { info with isStateOutput := true }
        else { info with isRequestedOutputTensor := true }
      have hallocated := hnamed.allocated set io
      by_cases hreuse : s.view.taken set io = true ∧ isState = true
      · rw [if_pos hreuse]
        rw [if_pos ⟨hallocated.trans hreuse.1, hreuse.2⟩] at h
        rw [← Except.ok.inj h]
        exact ⟨hnamed, rfl⟩
      · rw [if_neg hreuse]
        rw [if_neg fun h => hreuse ⟨hallocated.symm.trans h.1, h.2⟩] at h
        obtain ⟨l, hl, h⟩ := bind_eq_ok.mp h
        obtain ⟨hbinds, hinput⟩ := bindOutput_binds hl
        rw [← pure_eq_ok.mp h]
        exact ⟨hnamed.binds hset ht hbinds, hallocated.symm.trans hbinds.free, hinput, rfl⟩

theorem executeOutput_refines {outputDatatype : String} {outputDims : List ℤ} {i : ℕ}
    (hset : set < loader.numCopyStreams) :
    RefinesVisits lib loader (fun s => loader.initializeExecuteOutputBinding set (.output i) name
      outputDatatype outputDims false s) [⟨set, name, .output i⟩] := by
  refine Refines.act fun s s' hs h => ?_
  obtain ⟨t, io, hindex, hs', hview⟩ := initializeExecuteOutputBinding_cases hs hset h
  refine ⟨hs', ?_⟩
  rw [if_neg fun h => Bool.noConfusion h.2] at hview
  obtain ⟨hfree, hinput, hview⟩ := hview
  show ioVisit loader (loader.needsBuffer lib) s.view _ = _
  simp only [ioVisit, hindex, hfree, hinput, Bool.or_self, Bool.false_eq_true, if_false, hview]

theorem stateOutput_refines {outputDatatype : String} {outputDims : List ℤ} {i : ℕ}
    (hset : set < loader.numCopyStreams) :
    RefinesVisits lib loader (fun s => loader.initializeExecuteOutputBinding set (.state i) name
      outputDatatype outputDims true s) [⟨set, name, .stateOutput i⟩] := by
  refine Refines.act fun s s' hs h => ?_
  obtain ⟨t, io, hindex, hs', hview⟩ := initializeExecuteOutputBinding_cases hs hset h
  refine ⟨hs', ?_⟩
  show ioVisit loader (loader.needsBuffer lib) s.view _ = _
  simp only [ioVisit, hindex]
  simp only [and_true] at hview
  by_cases htaken : s.view.taken set io = true
  · rw [if_pos htaken] at hview ⊢
    rw [hview]
  · rw [if_neg htaken] at hview ⊢
    obtain ⟨-, hinput, hview⟩ := hview
    rw [hinput, hview]
    rfl

/-! ### All of them -/

theorem requireMember_eq_ok {α : Type} {member : String} {value : Option α} {a : α}
    (h : requireMember member value = .ok a) : value = some a := by
  cases value with
  | none => exact nomatch h
  | some b => rw [Except.ok.inj h]

/-- The visits of the first loop for one buffer set. -/
def IoLoader.inputVisits (loader : IoLoader) (set : ℕ) : List IoVisit :=
  (loader.config.ios true).zipIdx.map (fun x => ⟨set, x.1.name, .shapeInput x.2⟩) ++
  ((loader.config.ios true).zipIdx.map (fun x => ⟨set, x.1.name, .executeInput (.input x.2)⟩) ++
  (loader.config.sequenceControls.zipIdx.map
    (fun x => ⟨set, x.1.1, .executeInput (.control x.2)⟩) ++
  (loader.config.batchInput.zipIdx.flatMap (fun x => x.1.targetNames.zipIdx.map
    fun y => ⟨set, y.1, .executeInput (.batchInput x.2 y.2)⟩) ++
  loader.config.sequenceStates.zipIdx.map (fun x => ⟨set, x.1.inputName, .stateInput x.2⟩))))

/-- The visits of the second loop for one buffer set.  Shape tensors come first. -/
def IoLoader.outputVisits (loader : IoLoader) (set : ℕ) : List IoVisit :=
  loader.batchOutput.flatMap (fun b => b.targetNames.map fun name => ⟨set, name, .batchOutput⟩) ++
  ((loader.config.ios false).zipIdx.flatMap (fun x =>
    if x.1.isShapeTensor = some true then [⟨set, x.1.name, .output x.2⟩] else []) ++
  ((loader.config.ios false).zipIdx.flatMap (fun x =>
    if x.1.isShapeTensor = some true then [] else [⟨set, x.1.name, .output x.2⟩]) ++
  loader.config.sequenceStates.zipIdx.map (fun x => ⟨set, x.1.outputName, .stateOutput x.2⟩)))

theorem batchInputs_refines (hset : set < loader.numCopyStreams) :
    RefinesVisits lib loader
      (fun s => loader.config.batchInput.zipIdx.foldlM (loader.initializeBatchInputBindings lib set) s)
      (loader.config.batchInput.zipIdx.flatMap fun x => x.1.targetNames.zipIdx.map
        fun y => ⟨set, y.1, .executeInput (.batchInput x.2 y.2)⟩) := by
  apply Refines.foldlM
  intro x _
  apply Refines.foldlM_map
  intro y _
  exact batchInput_refines hset

/-- The first loop for one buffer set. -/
theorem initInputBindings_refines (hset : set < loader.numCopyStreams) :
    RefinesVisits lib loader (loader.initInputBindings lib set (loader.config.ios true))
      (loader.inputVisits set) := by
  apply Refines.bind
  · apply Refines.foldlM_map
    intro x _
    exact Refines.read fun _ _ => Refines.read fun _ _ => shapeInput_refines hset
  apply Refines.bind
  · apply Refines.foldlM_map
    intro x _
    exact Refines.read fun _ _ => Refines.read fun _ _ => executeInput_refines hset
  apply Refines.bind
  · apply Refines.foldlM_map
    intro x _
    exact executeInput_refines hset
  apply Refines.bind
  · exact batchInputs_refines hset
  · apply Refines.foldlM_map
    intro x _
    exact stateInput_refines hset

/-- The entries of `output` that are shape tensors. -/
theorem shapeOutputs_refines (hset : set < loader.numCopyStreams)
    (hknown : ∀ io ∈ loader.config.ios false, (loader.ioIndex? io.name).isSome = true) :
    RefinesVisits lib loader (fun s => (loader.config.ios false).zipIdx.foldlM
        (loader.initializeConfigShapeOutputBinding lib set) s)
      ((loader.config.ios false).zipIdx.flatMap fun x =>
        if x.1.isShapeTensor = some true then [⟨set, x.1.name, .output x.2⟩] else []) := by
  apply Refines.foldlM
  intro x hx
  have hname := hknown x.1 (List.fst_mem_of_mem_zipIdx hx)
  apply Refines.read
  intro isShapeTensor hread
  rw [requireMember_eq_ok hread]
  cases isShapeTensor with
  | true => exact shapeOutput_refines hset hname
  | false => exact Refines.skip

/-- The entries of `output` that are not. -/
theorem executeOutputs_refines (hset : set < loader.numCopyStreams) :
    RefinesVisits lib loader (fun s => (loader.config.ios false).zipIdx.foldlM
        (loader.initializeConfigExecuteOutputBinding set) s)
      ((loader.config.ios false).zipIdx.flatMap fun x =>
        if x.1.isShapeTensor = some true then [] else [⟨set, x.1.name, .output x.2⟩]) := by
  apply Refines.foldlM
  intro x _
  apply Refines.read
  intro ioDatatype _
  apply Refines.read
  intro isShapeTensor hread
  rw [requireMember_eq_ok hread]
  apply Refines.read
  intro dims _
  cases isShapeTensor with
  | true => exact Refines.skip
  | false => exact executeOutput_refines hset

/-- The second loop for one buffer set. -/
theorem initOutputBindings_refines (hset : set < loader.numCopyStreams)
    (hknown : ∀ io ∈ loader.config.ios false, (loader.ioIndex? io.name).isSome = true)
    (hbatch : ∀ b ∈ loader.batchOutput, ∀ name ∈ b.targetNames,
      (loader.ioIndex? name).isSome = true) :
    RefinesVisits lib loader (loader.initOutputBindings lib set (loader.config.ios false))
      (loader.outputVisits set) := by
  apply Refines.bind
  · apply Refines.foldlM
    intro b hb
    apply Refines.foldlM_map
    intro name hname
    exact batchOutput_refines hset (hbatch b hb name hname)
  apply Refines.bind
  · exact shapeOutputs_refines hset hknown
  apply Refines.bind
  · exact executeOutputs_refines hset
  · apply Refines.foldlM_map
    intro x _
    exact stateOutput_refines hset

/-! ### The load -/

/-- The entries of `output` that `ValidateIO` lets pass are outputs of the engine. -/
theorem output_of_validateIo (h : loader.validateIo = .ok ()) :
    ∀ io ∈ loader.config.ios false, ∃ t i, loader.ioIndex? io.name = some (t, i) ∧
      t.isInput = false := by
  obtain ⟨_, -, h⟩ := bind_eq_ok.mp h
  obtain ⟨-, -, h⟩ := bind_eq_ok.mp h
  obtain ⟨-, -, h⟩ := bind_eq_ok.mp h
  obtain ⟨outputs, houtputs, h⟩ := bind_eq_ok.mp h
  obtain ⟨_, hallowed, -⟩ := bind_eq_ok.mp h
  rw [ModelConfig.ioEntries_eq_ok houtputs] at hallowed
  intro io hio
  have hmem : io.name ∈ loader.allowedIos false :=
    not_not.mp (failIf_eq_ok.mp (forM_eq_ok.mp hallowed io hio))
  obtain ⟨t, ht, hname⟩ := List.mem_map.mp hmem
  obtain ⟨ht, houtput⟩ := List.mem_filter.mp ht
  obtain ⟨i, hi⟩ := List.mem_iff_getElem?.mp ht
  exact ⟨t, i, hname ▸ ioIndex?_of_getElem? hi, beq_iff_eq.mp houtput⟩

/-- The targets of a batch output are names of entries of `output`. -/
def IoLoader.BatchOutputsAreOutputs (loader : IoLoader) : Prop :=
  ∀ b ∈ loader.batchOutput, ∀ name ∈ b.targetNames, ∃ io ∈ loader.config.ios false, io.name = name

/-- The visits of the first loop. -/
def IoLoader.allInputVisits (loader : IoLoader) : List IoVisit :=
  (List.range loader.numCopyStreams).flatMap loader.inputVisits

/-- The visits of the second loop. -/
def IoLoader.allOutputVisits (loader : IoLoader) : List IoVisit :=
  (List.range loader.numCopyStreams).flatMap loader.outputVisits

/-- **A load that succeeds is a run of the visits**, and leaves no tensor without its buffer. -/
theorem load_refines (hvalid : loader.validateIo = .ok ())
    (hbatch : loader.BatchOutputsAreOutputs) (h : loader.initIoBindingBuffers lib = .ok s) :
    Loading loader s ∧
      (ioClaims loader (loader.needsBuffer lib)).run ⟨fun _ _ => "", []⟩
        (loader.allInputVisits ++ loader.allOutputVisits) = some s.view ∧
      ∀ set < loader.numCopyStreams, ∀ io t, loader.tensors[io]? = some t →
        (s.slot set io).allocated = true := by
  have hknown : ∀ io ∈ loader.config.ios false, (loader.ioIndex? io.name).isSome = true := by
    intro io hio
    obtain ⟨t, i, hindex, -⟩ := output_of_validateIo hvalid io hio
    rw [hindex]
    rfl
  have htargets : ∀ b ∈ loader.batchOutput, ∀ name ∈ b.targetNames,
      (loader.ioIndex? name).isSome = true := by
    intro b hb name hname
    obtain ⟨io, hio, rfl⟩ := hbatch b hb name hname
    exact hknown io hio
  obtain ⟨inputs, hinputs, h⟩ := bind_eq_ok.mp h
  obtain ⟨outputs, houtputs, h⟩ := bind_eq_ok.mp h
  obtain ⟨s₁, hfirst, h⟩ := bind_eq_ok.mp h
  obtain ⟨s₂, hsecond, h⟩ := bind_eq_ok.mp h
  obtain ⟨⟨⟩, hcheck, h⟩ := bind_eq_ok.mp h
  obtain ⟨-, -, h⟩ := bind_eq_ok.mp h
  obtain rfl := pure_eq_ok.mp h
  rw [ModelConfig.ioEntries_eq_ok hinputs] at hfirst
  rw [ModelConfig.ioEntries_eq_ok houtputs] at hsecond
  have hin : RefinesVisits lib loader (fun s => (List.range loader.numCopyStreams).foldlM
      (fun s set => loader.initInputBindings lib set (loader.config.ios true) s) s)
      loader.allInputVisits := by
    apply Refines.foldlM
    intro set hset
    exact initInputBindings_refines (List.mem_range.mp hset)
  have hout : RefinesVisits lib loader (fun s => (List.range loader.numCopyStreams).foldlM
      (fun s set => loader.initOutputBindings lib set (loader.config.ios false) s) s)
      loader.allOutputVisits := by
    apply Refines.foldlM
    intro set hset
    exact initOutputBindings_refines (List.mem_range.mp hset) hknown htargets
  obtain ⟨hs₁, hrun₁⟩ := hin.result loading_start hfirst
  obtain ⟨hs₂, hrun₂⟩ := hout.result hs₁ hsecond
  refine ⟨hs₂, StepSystem.run_append_eq_some.mpr ⟨_, hrun₁, hrun₂⟩, fun set hset io t ht => ?_⟩
  have hset' := forM_eq_ok.mp hcheck set (List.mem_range.mpr hset)
  have hio := forM_eq_ok.mp hset' (t, io) (List.mem_zipIdx_iff_getElem?.mpr ht)
  exact eq_true_of_ne_false (failIf_eq_ok.mp hio)

end Loading

end TensorrtBackend

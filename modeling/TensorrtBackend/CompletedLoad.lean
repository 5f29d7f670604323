import TensorrtBackend.CompletedBind
import TensorrtBackend.Lib.Takes

/-!
# Loading a completed configuration

A configuration without entries is completed with one entry for every tensor of the plan.  The load
goes over these entries in two passes for the inputs and in two for the outputs, for each buffer
set. A pass succeeds exactly when the tensors it is for can be bound.

* `shapeEntry_takes`, `executeEntry_takes`, `shapeOutputEntry_takes`, `executeOutputEntry_takes`: one
  entry in the pass of each kind.
* `pass_takes`: a pass over the entries.
* `generated_loads_iff`: the whole load.
-/

namespace TensorrtBackend

open Checked

/-! ### One entry -/

/-- The cells that are taken have their buffers, and the others are as they were. -/
structure Ready (loader : IoLoader) (taken : Set (ℕ × ℕ)) (s : IoState) : Prop where
  loading : Loading loader s
  profiles : ∀ ctx ∈ s.trtContexts, ProfileOf loader ctx
  bound : ∀ set io, (set, io) ∈ taken → (s.slot set io).allocated = true
  free : ∀ set io, (set, io) ∉ taken → s.slot set io = default

/-- The cell of the tensor of the given name in one buffer set, if the tensor is of this kind. -/
def IoLoader.cellsOf (loader : IoLoader) (set : ℕ) (isShape : Bool) (name : String) : Set (ℕ × ℕ) :=
  {c | c.1 = set ∧ ∃ t, loader.tensors[c.2]? = some t ∧ t.name = name ∧
    t.isShapeInferenceIo = isShape}

section Entry

variable {plan : Plan} {loader : IoLoader} {taken : Set (ℕ × ℕ)} {s s' : IoState} {set io : ℕ}
  {t : BoundTensor} {isInput : Bool} {x : ConfigIo × ℕ}

theorem cellsOf_self {isShape : Bool} (ht : loader.tensors[io]? = some t)
    (hshape : t.isShapeInferenceIo = isShape) :
    loader.cellsOf set isShape t.name = {(set, io)} := by
  apply Set.ext
  rintro ⟨set', io'⟩
  constructor
  · rintro ⟨rfl, t', ht', hname, -⟩
    have hindex := ioIndex?_of_getElem? ht'
    rw [hname, ioIndex?_of_getElem? ht] at hindex
    exact Set.mem_singleton_iff.mpr (Prod.ext rfl (Prod.mk.inj (Option.some.inj hindex)).2.symm)
  · intro hcell
    obtain ⟨rfl, rfl⟩ := Prod.mk.inj (Set.mem_singleton_iff.mp hcell)
    exact ⟨rfl, t, ht, rfl, hshape⟩

theorem cellsOf_other {isShape : Bool} (ht : loader.tensors[io]? = some t)
    (hshape : t.isShapeInferenceIo ≠ isShape) : loader.cellsOf set isShape t.name = ∅ := by
  apply Set.eq_empty_of_forall_notMem
  rintro ⟨set', io'⟩ ⟨-, t', ht', hname, hshape'⟩
  have hindex := ioIndex?_of_getElem? ht'
  rw [hname, ioIndex?_of_getElem? ht] at hindex
  obtain ⟨rfl, -⟩ := Prod.mk.inj (Option.some.inj hindex)
  exact hshape hshape'

theorem Ready.setName (hs : Ready loader taken s) (set io : ℕ) (name : String) :
    Ready loader taken (s.setName set io name) :=
  ⟨hs.loading.setName set io name, hs.profiles, hs.bound, hs.free⟩

/-- One more cell is taken. -/
theorem Ready.take (hs : Ready loader taken s) (hloading : Loading loader s')
    (hprofiles : ∀ ctx ∈ s'.trtContexts, ProfileOf loader ctx)
    (hnew : (s'.slot set io).allocated = true)
    (hold : ∀ set' io', ¬ (set' = set ∧ io' = io) → s'.slot set' io' = s.slot set' io') :
    Ready loader (taken ∪ {(set, io)}) s' := by
  refine ⟨hloading, hprofiles, fun set' io' hcell => ?_, fun set' io' hcell => ?_⟩
  · by_cases hsame : set' = set ∧ io' = io
    · rw [hsame.1, hsame.2]
      exact hnew
    · rw [hold set' io' hsame]
      refine hs.bound set' io' (hcell.resolve_right fun heq => hsame ?_)
      exact Prod.mk.inj (Set.mem_singleton_iff.mp heq)
  · obtain ⟨hfree, hother⟩ := not_or.mp hcell
    have hne : ¬ (set' = set ∧ io' = io) := fun h =>
      hother (Set.mem_singleton_iff.mpr (Prod.ext h.1 h.2))
    rw [hold set' io' hne]
    exact hs.free set' io' hfree

/-- A free cell that a binding function has taken. -/
theorem Ready.binds {s₀ : IoState} {l : LoadState} {entry : ConfigEntry} (hs : Ready loader taken s)
    (hs₀ : Loading loader s₀) (hset : set < loader.numCopyStreams)
    (ht : loader.tensors[io]? = some t) (hbinds : Binds loader set io s₀.toLoadState l)
    (hprofiles : ∀ ctx ∈ l.trtContexts, ProfileOf loader ctx)
    (hold : ∀ set' io', ¬ (set' = set ∧ io' = io) → s₀.slot set' io' = s.slot set' io') :
    Ready loader (taken ∪ {(set, io)}) (s₀.bound l set io entry) := by
  obtain ⟨slot, hslot, hinfos⟩ := hbinds.bound
  have hcell := slot_of_setSlot (hs₀.lt hset ht) hinfos
  refine hs.take (hs₀.binds hset ht hbinds) hprofiles ?_ fun set' io' hne => ?_
  · show (l.slot set io).allocated = true
    rw [hcell, if_pos ⟨rfl, rfl⟩, hslot]
  · show l.slot set' io' = s.slot set' io'
    rw [hcell, if_neg hne, hold set' io' hne]

/-- An entry of the configuration and the tensor it was generated from. -/
structure IoLoader.EntryOf (loader : IoLoader) (io : ℕ) (t : BoundTensor) (entry : ConfigIo) :
    Prop where
  tensor : loader.tensors[io]? = some t
  name : entry.name = t.name
  isShapeTensor : entry.isShapeTensor = some t.isShapeInferenceIo
  isNonLinearFormatIo : entry.isNonLinearFormatIo = some !t.format.isLinearFormat
  dataType : ∃ trtType, t.dataType = convertTrtTypeToDataType trtType ∧
    entry.dataType = some (convertTrtTypeToConfigDataType trtType)
  executeDims : t.isShapeInferenceIo = false →
    entry.usedDims = .ok (generatedDims loader.config.maxBatchSize t.shape)
  shapeDims : t.isShapeInferenceIo = true →
    entry.usedDims = .ok (generatedShapeDims loader.config.maxBatchSize t.shape)
  allowRaggedBatch : entry.allowRaggedBatch.getD false = false

/-- The entries generated for the tensors of the plan. -/
theorem IoLoader.EngineOf.entryOf (hspace : ∀ p ∈ plan.tensors, ' ' ∉ p.name.toList)
    (hengine : loader.EngineOf plan)
    {entry : ConfigIo} (hentry : entry ∈ getRefIo plan isInput loader.config.maxBatchSize) :
    ∃ io t, loader.EntryOf io t entry ∧ t.isInput = isInput := by
  obtain ⟨p, hp, rfl⟩ := List.mem_map.mp hentry
  obtain ⟨hp, hinput⟩ := Plan.mem_ios.mp hp
  obtain ⟨t, ht, hsame⟩ := Related.exists_right hengine.tensors hp
  obtain ⟨io, hio⟩ := List.mem_iff_getElem?.mp ht
  refine ⟨io, t, ⟨hio, ?_, ?_, ?_, ⟨p.dataType, hsame.dataType, rfl⟩, fun hshape => ?_,
    fun hshape => ?_, rfl⟩, hsame.isInput.trans hinput⟩
  · rw [hsame.name]
    exact nameUpToSpace_eq_self (hspace p hp)
  · rw [hsame.isShapeInferenceIo]
    rfl
  · rw [hsame.isLinearFormat]
    rfl
  · rw [hsame.isShapeInferenceIo] at hshape
    rw [refIo_usedDims hshape, hsame.shape]
    rfl
  · rw [hsame.isShapeInferenceIo] at hshape
    rw [refIo_usedDims_shape hshape, hsame.shape]
    rfl

theorem IoLoader.EntryOf.index {entry : ConfigIo} (h : loader.EntryOf io t entry) :
    loader.ioIndex? entry.name = some (t, io) := by
  rw [h.name]
  exact ioIndex?_of_getElem? h.tensor

theorem IoLoader.EntryOf.usedDims {entry : ConfigIo} (h : loader.EntryOf io t entry) :
    ∃ dims, entry.usedDims = .ok dims := by
  cases hshape : t.isShapeInferenceIo with
  | false => exact ⟨_, h.executeDims hshape⟩
  | true => exact ⟨_, h.shapeDims hshape⟩

/-- The data type of the entry is known. -/
theorem IoLoader.EntryOf.known {entry : ConfigIo} (h : loader.EntryOf io t entry)
    (hengine : loader.EngineOf plan) : ∃ dataType, entry.dataType = some dataType ∧
      loader.configDataType dataType = t.dataType ∧
        (dataType = "TYPE_INT64" ↔ t.dataType = .int64) := by
  obtain ⟨trtType, htype, hmember⟩ := h.dataType
  refine ⟨_, hmember, (hengine.dataTypes trtType).trans htype.symm, ?_⟩
  rw [htype]
  cases trtType <;> decide

/-- The tensor of the given name can be bound, if it is of this kind. -/
def IoLoader.BindableAs (loader : IoLoader) (isShape : Bool) (name : String) : Prop :=
  ∀ io t, loader.tensors[io]? = some t → t.name = name → t.isShapeInferenceIo = isShape →
    loader.Bindable io t

theorem bindableAs_iff {isShape : Bool} {entry : ConfigIo} (h : loader.EntryOf io t entry)
    (hshape : t.isShapeInferenceIo = isShape) :
    loader.BindableAs isShape entry.name ↔ loader.Bindable io t := by
  constructor
  · intro hbind
    exact hbind io t h.tensor h.name.symm hshape
  · intro hbind io' t' ht' hname _
    have hindex := ioIndex?_of_getElem? ht'
    rw [hname, h.index] at hindex
    obtain ⟨rfl, rfl⟩ := Prod.mk.inj (Option.some.inj hindex)
    exact hbind

/-- A pass that is for the other kind of tensor. -/
theorem takes_other {isShape : Bool} {entry : ConfigIo} {f : IoState → Result IoState}
    (h : loader.EntryOf io t entry) (hshape : t.isShapeInferenceIo ≠ isShape)
    (hpass : ∀ s, Ready loader taken s → ∃ s', f s = .ok s' ∧ Ready loader taken s') :
    Takes (Ready loader) taken (loader.cellsOf set isShape entry.name)
      (loader.BindableAs isShape entry.name) f := by
  refine (Takes.pass hpass).congr ?_ (iff_of_true trivial ?_)
  · rw [h.name, cellsOf_other h.tensor hshape]
  · intro io' t' ht' hname hshape'
    have hindex := ioIndex?_of_getElem? ht'
    rw [hname, h.index] at hindex
    obtain ⟨rfl, rfl⟩ := Prod.mk.inj (Option.some.inj hindex)
    exact absurd hshape' hshape

/-- The pass that is for the tensor. -/
theorem takes_own {isShape : Bool} {entry : ConfigIo} {f : IoState → Result IoState}
    (h : loader.EntryOf io t entry) (hshape : t.isShapeInferenceIo = isShape)
    (hf : Takes (Ready loader) taken {(set, io)} (loader.Bindable io t) f) :
    Takes (Ready loader) taken (loader.cellsOf set isShape entry.name)
      (loader.BindableAs isShape entry.name) f := by
  refine hf.congr ?_ (bindableAs_iff h hshape).symm
  rw [h.name, cellsOf_self h.tensor hshape]

theorem Ready.contexts_ne (hs : Ready loader taken s) : s.trtContexts ≠ [] := by
  intro hnil
  have hcontexts := hs.loading.contexts
  rw [hnil, List.forall₂_nil_right_iff] at hcontexts
  exact loader.contexts_ne hcontexts

section Passes

variable (hengine : loader.EngineOf plan) (hloader : loader.CallsSucceed)
  (hdata : ∀ t ∈ loader.tensors, t.dataType ≠ .invalid)
  (hset : set < loader.numCopyStreams) (h : loader.EntryOf io t x.1)

include hengine hloader hdata hset h

/-- An entry of `input` in the pass for shape tensors. -/
theorem shapeEntry_takes (hinput : t.isInput = true)
    (hneeds : t.isShapeInferenceIo = true → ∀ set < loader.numCopyStreams,
      loader.needsBuffer BackendCommon.plain set io = true)
    (hfree : (set, io) ∉ taken) :
    Takes (Ready loader) taken (loader.cellsOf set true x.1.name) (loader.BindableAs true x.1.name)
      (fun s => loader.initializeConfigShapeInputBinding BackendCommon.plain set s x) := by
  obtain ⟨dataType, hmember, hknown, -⟩ := h.known hengine
  obtain ⟨dims, hused⟩ := h.usedDims
  have hslot : ∀ s, Ready loader taken s → s.slot set io = default := fun s hs =>
    hs.free set io hfree
  have hentry : ∀ s, Ready loader taken s →
      loader.initializeConfigShapeInputBinding BackendCommon.plain set s x =
        if t.isShapeInferenceIo = false then .ok (s.setName set io x.1.name)
        else
          bindShapeInput BackendCommon.plain loader.toShapeLoader set io t t.dataType dims
            (s.setName set io x.1.name).toLoadState >>= fun l =>
              pure (if (l.slot set io).allocated then
                (s.setName set io x.1.name).bound l set io (.input x.2)
              else { s.setName set io x.1.name with toLoadState := l }) := by
    intro s hs
    have hmap : s.ioIndexMap x.1.name = some io := by
      rw [hs.loading.ioIndexMap, h.index]
      rfl
    have hslot' : ((s.setName set io x.1.name).slot set io).allocated = false :=
      congrArg BindingSlot.allocated (hslot s hs)
    unfold IoLoader.initializeConfigShapeInputBinding IoLoader.initializeShapeInputBinding
    rw [hmember, hused, ← hknown]
    simp only [requireMember, hmap, tensor_of_ioIndex? h.index]
    show (if ((s.setName set io x.1.name).slot set io).allocated = true then _ else _) = _
    rw [hslot', if_neg Bool.false_ne_true, if_neg fun h => Bool.noConfusion (hinput.symm.trans h)]
  cases hshape : t.isShapeInferenceIo with
  | false =>
      refine takes_other h (fun h => Bool.noConfusion (hshape.symm.trans h)) fun s hs => ?_
      rw [hentry s hs, if_pos hshape]
      exact ⟨_, rfl, hs.setName set io x.1.name⟩
  | true =>
      have hne : ¬ t.isShapeInferenceIo = false := fun h => Bool.noConfusion (hshape.symm.trans h)
      obtain rfl := Except.ok.inj (hused.symm.trans (h.shapeDims hshape))
      refine takes_own h hshape (Takes.of_total (fun s s' hs hok => ?_) fun hbind s hs => ?_)
      · rw [hentry s hs, if_neg hne] at hok
        obtain ⟨l, hl, -⟩ := bind_eq_ok.mp hok
        obtain ⟨hint, hdims⟩ := bindShapeInput_shape hs.contexts_ne hl
        constructor
        · exact hdata t (List.mem_of_getElem? h.tensor)
        · exact fun h => absurd h hne
        · exact fun _ => compareShapeDims_generated.mp hdims
        · exact fun _ _ => ⟨hint, hneeds hshape⟩
        · exact fun _ h => Bool.noConfusion (hinput.symm.trans h)
      · obtain ⟨hint, -⟩ := hbind.shapeInput hshape hinput
        obtain ⟨l, hl, hprofiles⟩ := bindShapeInput_total hloader hs.profiles
          (List.mem_of_getElem? h.tensor) hint (compareShapeDims_generated.mpr (hbind.shape hshape))
        have hallocated' : ((s.setName set io x.1.name).slot set io).allocated = false :=
          congrArg BindingSlot.allocated (hslot s hs)
        obtain ⟨hallocated, hloading⟩ := (hs.loading.setName set io x.1.name).bindsShape hset
          h.tensor hshape hallocated' hl
        rw [hneeds hshape set hset] at hallocated
        rw [hallocated, if_pos rfl] at hloading
        obtain ⟨slot, -, hinfos, -⟩ := bindShapeInput_binds h.tensor hshape hs.loading.contexts hl
        refine ⟨(s.setName set io x.1.name).bound l set io (.input x.2), ?_, ?_⟩
        · rw [hentry s hs, if_neg hne]
          refine bind_eq_ok.mpr ⟨l, hl, ?_⟩
          rw [hallocated]
          rfl
        · refine hs.take hloading hprofiles hallocated fun set' io' hother => ?_
          show l.slot set' io' = s.slot set' io'
          rw [slot_of_setSlot (hs.loading.lt hset h.tensor) hinfos, if_neg hother]

/-- An entry of `input` in the pass for the others. -/
theorem executeEntry_takes (hinput : t.isInput = true)
    (hfree : ∀ c ∈ loader.cellsOf set false x.1.name, c ∉ taken) :
    Takes (Ready loader) taken (loader.cellsOf set false x.1.name)
      (loader.BindableAs false x.1.name)
      (fun s => loader.initializeConfigExecuteInputBinding BackendCommon.plain set s x) := by
  obtain ⟨dataType, hmember, hknown, -⟩ := h.known hengine
  obtain ⟨dims, hused⟩ := h.usedDims
  have hentry : ∀ s, Ready loader taken s →
      loader.initializeConfigExecuteInputBinding BackendCommon.plain set s x =
        if t.isShapeInferenceIo then .ok (s.setName set io x.1.name)
        else
          bindInput BackendCommon.plain loader.toLoader set io t dataType dims false false
            (s.setName set io x.1.name).toLoadState >>= fun l =>
              pure ((s.setName set io x.1.name).bound l set io (.input x.2)) := by
    intro s hs
    have hmap : s.ioIndexMap x.1.name = some io := by
      rw [hs.loading.ioIndexMap, h.index]
      rfl
    unfold IoLoader.initializeConfigExecuteInputBinding IoLoader.initializeExecuteInputBinding
    rw [hmember, hused, h.allowRaggedBatch]
    simp only [requireMember, hmap, tensor_of_ioIndex? h.index, Bool.false_eq_true, and_false,
      if_false]
    rfl
  cases hshape : t.isShapeInferenceIo with
  | true =>
      refine takes_other h (fun h => Bool.noConfusion (hshape.symm.trans h)) fun s hs => ?_
      rw [hentry s hs, if_pos hshape]
      exact ⟨_, rfl, hs.setName set io x.1.name⟩
  | false =>
      have hne : ¬ t.isShapeInferenceIo = true := fun h => Bool.noConfusion (hshape.symm.trans h)
      obtain rfl := Except.ok.inj (hused.symm.trans (h.executeDims hshape))
      rw [h.name, cellsOf_self h.tensor hshape] at hfree
      have hmem := List.mem_of_getElem? h.tensor
      refine takes_own h hshape (Takes.of_total (fun s s' hs hok => ?_) fun hbind s hs => ?_)
      · rw [hentry s hs, if_neg hne] at hok
        obtain ⟨l, hl, -⟩ := bind_eq_ok.mp hok
        constructor
        · exact hdata t hmem
        · exact fun _ _ => bindInput_rank hs.contexts_ne hl
        · exact fun h => absurd h hne
        · exact fun h => absurd h hne
        · exact fun h => absurd h hne
      · have hslot := hs.free set io (hfree _ (Set.mem_singleton _))
        obtain ⟨trtType, htype, -⟩ := h.dataType
        obtain ⟨l, hl, hprofiles⟩ := bindInput_total hloader hs.profiles h.tensor hinput
          (hbind.execution hshape (Or.inl hinput)) (byteSize_ne_zero htype (hdata t hmem)) hknown
          hslot
        refine ⟨(s.setName set io x.1.name).bound l set io (.input x.2), ?_, ?_⟩
        · rw [hentry s hs, if_neg hne]
          exact bind_eq_ok.mpr ⟨l, hl, rfl⟩
        · exact hs.binds (hs.loading.setName set io x.1.name) hset h.tensor
            (bindInput_binds h.tensor hshape hl).1 hprofiles fun set' io' _ => rfl

/-- An entry of `output` in the pass for shape tensors. -/
theorem shapeOutputEntry_takes (houtput : t.isInput = false)
    (hfree : ∀ c ∈ loader.cellsOf set true x.1.name, c ∉ taken) :
    Takes (Ready loader) taken (loader.cellsOf set true x.1.name) (loader.BindableAs true x.1.name)
      (fun s => loader.initializeConfigShapeOutputBinding BackendCommon.plain set s x) := by
  obtain ⟨dataType, hmember, hknown, hint64⟩ := h.known hengine
  obtain ⟨dims, hused⟩ := h.usedDims
  have hflag := h.isShapeTensor
  cases hshape : t.isShapeInferenceIo with
  | false =>
      rw [hshape] at hflag
      refine takes_other h (fun h => Bool.noConfusion (hshape.symm.trans h)) fun s hs => ⟨s, ?_, hs⟩
      exact bind_eq_ok.mpr ⟨false, requireMember_eq_ok_iff.mpr hflag, rfl⟩
  | true =>
      rw [hshape] at hflag
      obtain rfl := Except.ok.inj (hused.symm.trans (h.shapeDims hshape))
      rw [h.name, cellsOf_self h.tensor hshape] at hfree
      have hentry : ∀ s, Ready loader taken s → ∀ s',
          loader.initializeConfigShapeOutputBinding BackendCommon.plain set s x = .ok s' ↔
            ∃ l, loader.bindShapeOutput BackendCommon.plain set io t x.1
                (s.setName set io x.1.name).toLoadState = .ok l ∧
              (s.setName set io x.1.name).bound l set io (.output x.2) = s' := by
        intro s hs s'
        unfold IoLoader.initializeConfigShapeOutputBinding
        rw [hflag]
        simp only [requireMember, hs.loading.ioIndex h.index, tensor_of_ioIndex? h.index]
        constructor
        · intro hok
          obtain ⟨_, htrue, hok⟩ := bind_eq_ok.mp hok
          rw [← Except.ok.inj htrue, if_pos rfl] at hok
          obtain ⟨l, hl, hok⟩ := bind_eq_ok.mp hok
          exact ⟨l, hl, pure_eq_ok.mp hok⟩
        · intro ⟨l, hl, hbound⟩
          refine bind_eq_ok.mpr ⟨true, rfl, ?_⟩
          rw [if_pos rfl]
          exact bind_eq_ok.mpr ⟨l, hl, pure_eq_ok.mpr hbound⟩
      refine takes_own h hshape (Takes.of_total (fun s s' hs hok => ?_) fun hbind s hs => ?_)
      · obtain ⟨l, hl, -⟩ := (hentry s hs s').mp hok
        obtain ⟨htype, hdims⟩ := bindShapeOutput_shape hs.contexts_ne hmember hused hl
        constructor
        · exact hdata t (List.mem_of_getElem? h.tensor)
        · exact fun h => Bool.noConfusion (hshape.symm.trans h)
        · exact fun _ => compareShapeDims_generated.mp hdims
        · exact fun _ h => Bool.noConfusion (houtput.symm.trans h)
        · exact fun _ _ => hint64.mp htype
      · have hslot := hs.free set io (hfree _ (Set.mem_singleton _))
        have htype := hbind.shapeOutput hshape houtput
        obtain rfl := hint64.mpr htype
        obtain ⟨l, hl, hprofiles⟩ := bindShapeOutput_total hloader hs.profiles
          (List.mem_of_getElem? h.tensor) houtput hmember (hknown.trans htype) htype hused
          (compareShapeDims_generated.mpr (hbind.shape hshape)) (congrArg BindingSlot.allocated hslot)
        refine ⟨(s.setName set io x.1.name).bound l set io (.output x.2),
          (hentry s hs _).mpr ⟨l, hl, rfl⟩, ?_⟩
        exact hs.binds (hs.loading.setName set io x.1.name) hset h.tensor (bindShapeOutput_binds hl).1
          hprofiles fun set' io' _ => rfl

/-- An entry of `output` in the pass for the others. -/
theorem executeOutputEntry_takes (houtput : t.isInput = false)
    (hfree : ∀ c ∈ loader.cellsOf set false x.1.name, c ∉ taken) :
    Takes (Ready loader) taken (loader.cellsOf set false x.1.name)
      (loader.BindableAs false x.1.name)
      (fun s => loader.initializeConfigExecuteOutputBinding set s x) := by
  obtain ⟨dataType, hmember, hknown, -⟩ := h.known hengine
  obtain ⟨dims, hused⟩ := h.usedDims
  have hentry : ∀ s, loader.initializeConfigExecuteOutputBinding set s x =
      if t.isShapeInferenceIo then .ok s
      else loader.initializeExecuteOutputBinding set (.output x.2) x.1.name dataType dims false s := by
    intro s
    unfold IoLoader.initializeConfigExecuteOutputBinding
    rw [hmember, h.isShapeTensor, hused]
    rfl
  simp only [hentry]
  cases hshape : t.isShapeInferenceIo with
  | true =>
      exact takes_other h (fun h => Bool.noConfusion (hshape.symm.trans h)) fun s hs => ⟨s, rfl, hs⟩
  | false =>
      obtain rfl := Except.ok.inj (hused.symm.trans (h.executeDims hshape))
      rw [h.name, cellsOf_self h.tensor hshape] at hfree
      have hmem := List.mem_of_getElem? h.tensor
      -- The entry is marked as requested before anything is checked.
      have hbinding : ∀ s, Ready loader taken s → ∃ s₀ : IoState, Loading loader s₀ ∧
          s₀.trtContexts = s.trtContexts ∧ (s₀.slot set io).allocated = false ∧
          (s₀.slot set io).info.isBufferRagged = false ∧
          (∀ set' io', ¬ (set' = set ∧ io' = io) → s₀.slot set' io' = s.slot set' io') ∧
          loader.initializeExecuteOutputBinding set (.output x.2) x.1.name dataType
            (generatedDims loader.config.maxBatchSize t.shape) false s =
              loader.bindOutput set io t dataType
                (generatedDims loader.config.maxBatchSize t.shape) s₀.toLoadState >>= fun l =>
                  pure (s₀.bound l set io (.output x.2)) := by
        intro s hs
        have hlt : io < ((s.setName set io x.1.name).ioBindingInfos.getD set []).length :=
          hs.loading.lt hset h.tensor
        have hmap : s.ioIndexMap x.1.name = some io := by
          rw [hs.loading.ioIndexMap, h.index]
          rfl
        obtain ⟨s₀, hs₀⟩ : ∃ s₀, s₀ = (s.setName set io x.1.name).setInfo set io fun info =>
            { info with isRequestedOutputTensor := true } := ⟨_, rfl⟩
        have hslot₀ : s₀.slot set io =
            { s.slot set io with info :=
              { (s.slot set io).info with isRequestedOutputTensor := true } } := by
          rw [hs₀]
          exact slot_setSlot_self hlt
        rw [hs.free set io (hfree _ (Set.mem_singleton _))] at hslot₀
        refine ⟨s₀, ?_, ?_, ?_, ?_, fun set' io' hother => ?_, ?_⟩
        · rw [hs₀]
          exact (hs.loading.setName set io x.1.name).setInfo hset h.tensor _
        · rw [hs₀]
          rfl
        · rw [hslot₀]
          rfl
        · rw [hslot₀]
          rfl
        · rw [hs₀]
          exact slot_setSlot_other hother
        · unfold IoLoader.initializeExecuteOutputBinding
          simp only [hmap, tensor_of_ioIndex? h.index, Bool.false_eq_true, and_false, if_false,
            ← hs₀]
      refine takes_own h hshape (Takes.of_total (fun s s' hs hok => ?_) fun hbind s hs => ?_)
      · obtain ⟨s₀, -, -, -, hragged, -, hbinding⟩ := hbinding s hs
        rw [if_neg Bool.false_ne_true, hbinding] at hok
        obtain ⟨l, hl, -⟩ := bind_eq_ok.mp hok
        constructor
        · exact hdata t hmem
        · intro _ hread
          have hbatch := hread.resolve_left fun h => Bool.noConfusion (houtput.symm.trans h)
          exact bindOutput_rank hragged hl hbatch
        · exact fun h => Bool.noConfusion (hshape.symm.trans h)
        · exact fun h => Bool.noConfusion (hshape.symm.trans h)
        · exact fun h => Bool.noConfusion (hshape.symm.trans h)
      · obtain ⟨s₀, hloading, hcontexts, hfree₀, hragged, hold, hbinding⟩ := hbinding s hs
        have hprofiles₀ : ∀ ctx ∈ s₀.trtContexts, ProfileOf loader ctx := by
          rw [hcontexts]
          exact hs.profiles
        obtain ⟨l, hl, hprofiles⟩ := bindOutput_total hloader hprofiles₀ hmem houtput
          (fun hbatch => hbind.execution hshape (Or.inr hbatch)) (hdata t hmem) hknown hfree₀ hragged
        refine ⟨s₀.bound l set io (.output x.2), ?_, ?_⟩
        · rw [if_neg Bool.false_ne_true, hbinding]
          exact bind_eq_ok.mpr ⟨l, hl, rfl⟩
        · exact hs.binds hloading hset h.tensor (bindOutput_binds hl).1 hprofiles hold

end Passes

end Entry

/-! ### One pass -/

/-- The cells of the tensors of one direction in a buffer set. -/
def IoLoader.sideCells (loader : IoLoader) (isInput : Bool) (set : ℕ) : Set (ℕ × ℕ) :=
  {c | c.1 = set ∧ ∃ t, loader.tensors[c.2]? = some t ∧ t.isInput = isInput}

/-- Those of one kind of tensor. -/
def IoLoader.passCells (loader : IoLoader) (isInput isShape : Bool) (set : ℕ) : Set (ℕ × ℕ) :=
  {c | c.1 = set ∧ ∃ t, loader.tensors[c.2]? = some t ∧ t.isInput = isInput ∧
    t.isShapeInferenceIo = isShape}

/-- The tensors of one direction and kind can be bound. -/
def IoLoader.PassBindable (loader : IoLoader) (isInput isShape : Bool) : Prop :=
  ∀ io t, loader.tensors[io]? = some t → t.isInput = isInput → t.isShapeInferenceIo = isShape →
    loader.Bindable io t

section Pass

variable {plan : Plan} {loader : IoLoader} {taken : Set (ℕ × ℕ)} {set : ℕ} {isInput isShape : Bool}

theorem sideCells_eq : loader.passCells isInput true set ∪ loader.passCells isInput false set =
    loader.sideCells isInput set := by
  apply Set.ext
  intro c
  constructor
  · rintro (⟨hset, t, ht, hinput, -⟩ | ⟨hset, t, ht, hinput, -⟩)
    · exact ⟨hset, t, ht, hinput⟩
    · exact ⟨hset, t, ht, hinput⟩
  · rintro ⟨hset, t, ht, hinput⟩
    cases hshape : t.isShapeInferenceIo with
    | true => exact Or.inl ⟨hset, t, ht, hinput, hshape⟩
    | false => exact Or.inr ⟨hset, t, ht, hinput, hshape⟩

theorem passCells_apart {c : ℕ × ℕ} (hc : c ∈ loader.passCells isInput true set) :
    c ∉ loader.passCells isInput false set := by
  rintro ⟨-, t', ht', -, hshape'⟩
  obtain ⟨-, t, ht, -, hshape⟩ := hc
  obtain rfl := Option.some.inj (ht.symm.trans ht')
  exact Bool.noConfusion (hshape.symm.trans hshape')

theorem passBindable_iff : loader.PassBindable isInput true ∧ loader.PassBindable isInput false ↔
    ∀ io t, loader.tensors[io]? = some t → t.isInput = isInput → loader.Bindable io t := by
  constructor
  · intro ⟨htrue, hfalse⟩ io t ht hinput
    cases hshape : t.isShapeInferenceIo with
    | true => exact htrue io t ht hinput hshape
    | false => exact hfalse io t ht hinput hshape
  · intro h
    exact ⟨fun io t ht hinput _ => h io t ht hinput, fun io t ht hinput _ => h io t ht hinput⟩

/-! ### The generated entries -/

/-- The names of the generated entries. -/
theorem getRefIo_names (hspace : ∀ p ∈ plan.tensors, ' ' ∉ p.name.toList) (isInput : Bool)
    (maxBatchSize : ℕ) :
    ((getRefIo plan isInput maxBatchSize).map fun io => io.name) =
      (plan.ios isInput).map PlanTensor.name := by
  rw [getRefIo, List.map_map]
  refine List.map_congr_left fun p hp => ?_
  exact nameUpToSpace_eq_self (hspace p (Plan.mem_ios.mp hp).1)

/-- Each tensor has its entry. -/
theorem exists_entry (hspace : ∀ p ∈ plan.tensors, ' ' ∉ p.name.toList)
    (hengine : loader.EngineOf plan) (maxBatchSize : ℕ) {t : BoundTensor} (ht : t ∈ loader.tensors) (hinput : t.isInput = isInput) :
    ∃ x ∈ (getRefIo plan isInput maxBatchSize).zipIdx, x.1.name = t.name := by
  have hname : t.name ∈ loader.allowedIos isInput :=
    List.mem_map.mpr ⟨t, List.mem_filter.mpr ⟨ht, beq_iff_eq.mpr hinput⟩, rfl⟩
  rw [hengine.allowedIos, ← getRefIo_names hspace isInput maxBatchSize] at hname
  obtain ⟨io, hio, hname⟩ := List.mem_map.mp hname
  obtain ⟨i, hi⟩ := List.mem_iff_getElem?.mp hio
  exact ⟨(io, i), List.mem_zipIdx_iff_getElem?.mpr hi, hname⟩

/-- Two entries have no cell in common. -/
theorem getRefIo_cells (hspace : ∀ p ∈ plan.tensors, ' ' ∉ p.name.toList) (maxBatchSize : ℕ) :
    (getRefIo plan isInput maxBatchSize).zipIdx.Pairwise fun x y =>
      ∀ c ∈ loader.cellsOf set isShape y.1.name, c ∉ loader.cellsOf set isShape x.1.name := by
  have hnames : ((getRefIo plan isInput maxBatchSize).map fun io => io.name).Nodup := by
    rw [getRefIo_names hspace]
    exact plan.names_nodup.sublist (List.filter_sublist.map PlanTensor.name)
  have hnodup : ((getRefIo plan isInput maxBatchSize).zipIdx.map fun x => x.1.name).Nodup := by
    have hfst : ((getRefIo plan isInput maxBatchSize).zipIdx.map Prod.fst).map (fun io => io.name) =
        (getRefIo plan isInput maxBatchSize).zipIdx.map fun x => x.1.name := List.map_map
    rwa [← hfst, List.zipIdx_map_fst]
  rw [List.Nodup, List.pairwise_map] at hnodup
  refine hnodup.imp fun {x y} hne => ?_
  rintro c ⟨-, t, ht, hname, -⟩ ⟨-, t', ht', hname', -⟩
  rw [ht, Option.some.injEq] at ht'
  rw [← ht', hname] at hname'
  exact hne hname'.symm

/-- **The pass rule**: a pass whose entries take the cells of their tensors takes the cells of all
tensors of its kind.  While it runs it has taken no others. -/
theorem pass_takes (hspace : ∀ p ∈ plan.tensors, ' ' ∉ p.name.toList) (hengine : loader.EngineOf plan)
    {f : IoState → ConfigIo × ℕ → Result IoState}
    (hstep : ∀ x : ConfigIo × ℕ, ∀ io t, loader.EntryOf io t x.1 → t.isInput = isInput →
      ∀ taken', (∀ c ∈ taken', c ∈ taken ∨ c ∈ loader.passCells isInput isShape set) →
        (∀ c ∈ loader.cellsOf set isShape x.1.name, c ∉ taken') →
          Takes (Ready loader) taken' (loader.cellsOf set isShape x.1.name)
            (loader.BindableAs isShape x.1.name) (fun s => f s x))
    (hfree : ∀ c ∈ loader.passCells isInput isShape set, c ∉ taken) :
    Takes (Ready loader) taken (loader.passCells isInput isShape set)
      (loader.PassBindable isInput isShape)
      (fun s => (getRefIo plan isInput loader.config.maxBatchSize).zipIdx.foldlM f s) := by
  have hcells : ∀ c, (∃ x ∈ (getRefIo plan isInput loader.config.maxBatchSize).zipIdx,
      c ∈ loader.cellsOf set isShape x.1.name) ↔ c ∈ loader.passCells isInput isShape set := by
    rintro ⟨set', io⟩
    constructor
    · rintro ⟨x, hx, hset, t, ht, hname, hshape⟩
      obtain ⟨io', t', hentry, hinput⟩ := hengine.entryOf hspace (List.fst_mem_of_mem_zipIdx hx)
      have hindex := ioIndex?_of_getElem? ht
      rw [hname, hentry.index] at hindex
      obtain ⟨rfl, -⟩ := Prod.mk.inj (Option.some.inj hindex)
      exact ⟨hset, t', ht, hinput, hshape⟩
    · rintro ⟨hset, t, ht, hinput, hshape⟩
      obtain ⟨x, hx, hname⟩ := exists_entry hspace hengine loader.config.maxBatchSize
        (List.mem_of_getElem? ht) hinput
      exact ⟨x, hx, hset, t, ht, hname.symm, hshape⟩
  have hcan : (∀ x ∈ (getRefIo plan isInput loader.config.maxBatchSize).zipIdx,
      loader.BindableAs isShape x.1.name) ↔ loader.PassBindable isInput isShape := by
    constructor
    · intro hall io t ht hinput hshape
      obtain ⟨x, hx, hname⟩ := exists_entry hspace hengine loader.config.maxBatchSize
        (List.mem_of_getElem? ht) hinput
      exact hall x hx io t ht hname.symm hshape
    · intro hall x hx io t ht hname hshape
      obtain ⟨io', t', hentry, hinput⟩ := hengine.entryOf hspace (List.fst_mem_of_mem_zipIdx hx)
      have hindex := ioIndex?_of_getElem? ht
      rw [hname, hentry.index] at hindex
      obtain ⟨rfl, rfl⟩ := Prod.mk.inj (Option.some.inj hindex)
      exact hall io' t' ht hinput hshape
  refine (Takes.foldlM ?_ (getRefIo_cells hspace loader.config.maxBatchSize) ?_).congr
    (Set.ext hcells) hcan
  · intro x hx taken' htaken' hfree'
    obtain ⟨io, t, hentry, hinput⟩ := hengine.entryOf hspace (List.fst_mem_of_mem_zipIdx hx)
    exact hstep x io t hentry hinput taken' (fun c hc => (htaken' c hc).imp_right (hcells c).mp)
      hfree'
  · intro x hx c hc
    exact hfree c ((hcells c).mp ⟨x, hx, hc⟩)

end Pass

/-! ### The whole load -/

section Load

variable {plan : Plan} {loader : IoLoader} {taken : Set (ℕ × ℕ)} {set : ℕ}

/-- A loop over the buffer sets. -/
theorem sets_takes {isInput : Bool} {can : Prop} {f : IoState → ℕ → Result IoState}
    (hf : ∀ set < loader.numCopyStreams, ∀ taken',
      (∀ c ∈ loader.sideCells isInput set, c ∉ taken') →
        Takes (Ready loader) taken' (loader.sideCells isInput set) can (fun s => f s set))
    (hfree : ∀ set, ∀ c ∈ loader.sideCells isInput set, c ∉ taken) :
    Takes (Ready loader) taken
      {c | ∃ set ∈ List.range loader.numCopyStreams, c ∈ loader.sideCells isInput set} can
      (fun s => (List.range loader.numCopyStreams).foldlM f s) := by
  have hown : (List.range loader.numCopyStreams).Pairwise fun a b =>
      ∀ c ∈ loader.sideCells isInput b, c ∉ loader.sideCells isInput a :=
    List.nodup_range.imp fun {a b} hne c hb ha => hne (ha.1.symm.trans hb.1)
  refine (Takes.foldlM (fun set hset taken' _ => hf set (List.mem_range.mp hset) taken') hown
    fun set _ => hfree set).congr rfl ?_
  exact ⟨fun h => h 0 (List.mem_range.mpr (numCopyStreams_pos loader.toLoader)), fun h _ _ => h⟩

/-- Before the load no cell is taken. -/
theorem ready_start (hprofiles : ∀ ctx ∈ loader.trtContexts, ProfileOf loader ctx) :
    Ready loader ∅ loader.ioStart := by
  refine ⟨loading_start, hprofiles, fun _ _ h => absurd h (Set.notMem_empty _), ?_⟩
  intro set io _
  exact start_slot loader.toLoader set io

/-- Inputs and outputs have no cell in common. -/
theorem sideCells_apart {c : ℕ × ℕ} {set' : ℕ} (hc : c ∈ loader.sideCells true set) :
    c ∉ loader.sideCells false set' := by
  rintro ⟨-, t', ht', houtput⟩
  obtain ⟨-, t, ht, hinput⟩ := hc
  obtain rfl := Option.some.inj (ht.symm.trans ht')
  exact Bool.noConfusion (hinput.symm.trans houtput)

/-- When the cells of all tensors are taken, no tensor is left without its buffer. -/
theorem checkAllocated_total {s : IoState} (hs : Ready loader taken s)
    (htaken : ∀ set < loader.numCopyStreams, ∀ isInput, ∀ c ∈ loader.sideCells isInput set,
      c ∈ taken) : loader.checkAllocated s = .ok () := by
  refine forM_eq_ok.mpr fun set hset => forM_eq_ok.mpr fun x hx => failIf_eq_ok.mpr ?_
  have ht := List.mem_zipIdx_iff_getElem?.mp hx
  have hcell := htaken set (List.mem_range.mp hset) x.1.isInput (set, x.2) ⟨rfl, x.1, ht, rfl⟩
  rw [hs.bound set x.2 hcell]
  exact fun h => Bool.noConfusion h

variable (hspace : ∀ p ∈ plan.tensors, ' ' ∉ p.name.toList) (hengine : loader.EngineOf plan)
  (hloader : loader.CallsSucceed) (honly : loader.OnlyIos)
  (hdata : ∀ t ∈ loader.tensors, t.dataType ≠ .invalid)

include hspace hengine hloader honly hdata

/-- The first loop for one buffer set. -/
theorem inputs_takes (hset : set < loader.numCopyStreams)
    (hneeds : ∀ io t, loader.tensors[io]? = some t → t.isShapeInferenceIo = true →
      t.isInput = true → ∀ set < loader.numCopyStreams,
        loader.needsBuffer BackendCommon.plain set io = true)
    (hfree : ∀ c ∈ loader.sideCells true set, c ∉ taken) :
    Takes (Ready loader) taken (loader.sideCells true set)
      (∀ io t, loader.tensors[io]? = some t → t.isInput = true → loader.Bindable io t)
      (loader.initInputBindings BackendCommon.plain set
        (getRefIo plan true loader.config.maxBatchSize)) := by
  have hshapes : Takes (Ready loader) taken (loader.passCells true true set)
      (loader.PassBindable true true)
      (fun s => (getRefIo plan true loader.config.maxBatchSize).zipIdx.foldlM
        (loader.initializeConfigShapeInputBinding BackendCommon.plain set) s) := by
    refine pass_takes hspace hengine (fun x io t h hinput taken' htaken' hfree' => ?_) fun c hc =>
      hfree c (sideCells_eq ▸ Or.inl hc)
    refine shapeEntry_takes hengine hloader hdata hset h hinput
      (fun hshape => hneeds io t h.tensor hshape hinput) fun hmem => ?_
    rcases htaken' _ hmem with hold | ⟨-, t', ht', -, hshape⟩
    · exact hfree (set, io) ⟨rfl, t, h.tensor, hinput⟩ hold
    · exact hfree' (set, io) ⟨rfl, t', ht',
        (Option.some.inj (ht'.symm.trans h.tensor)) ▸ h.name.symm, hshape⟩ hmem
  have hothers : Takes (Ready loader) (taken ∪ loader.passCells true true set)
      (loader.passCells true false set) (loader.PassBindable true false)
      (fun s => (getRefIo plan true loader.config.maxBatchSize).zipIdx.foldlM
        (loader.initializeConfigExecuteInputBinding BackendCommon.plain set) s) := by
    refine pass_takes hspace hengine (fun x io t h hinput taken' _ hfree' =>
      executeEntry_takes hengine hloader hdata hset h hinput hfree') ?_
    intro c hc
    exact not_or.mpr ⟨hfree c (sideCells_eq ▸ Or.inr hc), fun hshape => passCells_apart hshape hc⟩
  have hloops : loader.initInputBindings BackendCommon.plain set
      (getRefIo plan true loader.config.maxBatchSize) = fun s =>
        (getRefIo plan true loader.config.maxBatchSize).zipIdx.foldlM
            (loader.initializeConfigShapeInputBinding BackendCommon.plain set) s >>=
          fun s => (getRefIo plan true loader.config.maxBatchSize).zipIdx.foldlM
            (loader.initializeConfigExecuteInputBinding BackendCommon.plain set) s := by
    funext s
    unfold IoLoader.initInputBindings
    simp only [honly.sequenceControls, honly.batchInput, honly.sequenceStates, List.zipIdx_nil,
      List.foldlM_nil, bind_pure]
  rw [hloops]
  exact (hshapes.bind hothers).congr sideCells_eq passBindable_iff

/-- The second loop for one buffer set. -/
theorem outputs_takes (hset : set < loader.numCopyStreams)
    (hfree : ∀ c ∈ loader.sideCells false set, c ∉ taken) :
    Takes (Ready loader) taken (loader.sideCells false set)
      (∀ io t, loader.tensors[io]? = some t → t.isInput = false → loader.Bindable io t)
      (loader.initOutputBindings BackendCommon.plain set
        (getRefIo plan false loader.config.maxBatchSize)) := by
  have hshapes : Takes (Ready loader) taken (loader.passCells false true set)
      (loader.PassBindable false true)
      (fun s => (getRefIo plan false loader.config.maxBatchSize).zipIdx.foldlM
        (loader.initializeConfigShapeOutputBinding BackendCommon.plain set) s) :=
    pass_takes hspace hengine (fun x io t h houtput taken' _ hfree' =>
      shapeOutputEntry_takes hengine hloader hdata hset h houtput hfree') fun c hc =>
      hfree c (sideCells_eq ▸ Or.inl hc)
  have hothers : Takes (Ready loader) (taken ∪ loader.passCells false true set)
      (loader.passCells false false set) (loader.PassBindable false false)
      (fun s => (getRefIo plan false loader.config.maxBatchSize).zipIdx.foldlM
        (loader.initializeConfigExecuteOutputBinding set) s) :=
    pass_takes hspace hengine (fun x io t h houtput taken' _ hfree' =>
      executeOutputEntry_takes hengine hloader hdata hset h houtput hfree') fun c hc =>
      not_or.mpr ⟨hfree c (sideCells_eq ▸ Or.inr hc), fun hshape => passCells_apart hshape hc⟩
  have hloops : loader.initOutputBindings BackendCommon.plain set
      (getRefIo plan false loader.config.maxBatchSize) = fun s =>
        (getRefIo plan false loader.config.maxBatchSize).zipIdx.foldlM
            (loader.initializeConfigShapeOutputBinding BackendCommon.plain set) s >>=
          fun s => (getRefIo plan false loader.config.maxBatchSize).zipIdx.foldlM
            (loader.initializeConfigExecuteOutputBinding set) s := by
    funext s
    unfold IoLoader.initOutputBindings
    simp only [honly.batchOutput, honly.sequenceStates, List.zipIdx_nil, List.foldlM_nil, pure_bind,
      bind_pure]
  rw [hloops]
  exact (hshapes.bind hothers).congr sideCells_eq passBindable_iff

/-- **The load of generated entries** succeeds if and only if every tensor can be bound, provided
that shape inputs need bytes. -/
theorem initIoBindingBuffers_ok_iff
    (hprofiles : ∀ ctx ∈ loader.trtContexts, ProfileOf loader ctx)
    (hinputs : loader.config.ioEntries true = .ok (getRefIo plan true loader.config.maxBatchSize))
    (houtputs : loader.config.ioEntries false = .ok (getRefIo plan false loader.config.maxBatchSize))
    (hneeds : ∀ io t, loader.tensors[io]? = some t → t.isShapeInferenceIo = true →
      t.isInput = true → ∀ set < loader.numCopyStreams,
        loader.needsBuffer BackendCommon.plain set io = true) :
    (∃ s, loader.initIoBindingBuffers BackendCommon.plain = .ok s) ↔
      ∀ io t, loader.tensors[io]? = some t → loader.Bindable io t := by
  have hfirst : Takes (Ready loader) ∅
      {c | ∃ set ∈ List.range loader.numCopyStreams, c ∈ loader.sideCells true set}
      (∀ io t, loader.tensors[io]? = some t → t.isInput = true → loader.Bindable io t)
      (fun s => (List.range loader.numCopyStreams).foldlM (fun s set => loader.initInputBindings
        BackendCommon.plain set (getRefIo plan true loader.config.maxBatchSize) s) s) :=
    sets_takes (fun set hset taken' hfree =>
      inputs_takes hspace hengine hloader honly hdata hset hneeds hfree) fun _ c _ =>
        Set.notMem_empty c
  have hsecond : Takes (Ready loader)
      (∅ ∪ {c | ∃ set ∈ List.range loader.numCopyStreams, c ∈ loader.sideCells true set})
      {c | ∃ set ∈ List.range loader.numCopyStreams, c ∈ loader.sideCells false set}
      (∀ io t, loader.tensors[io]? = some t → t.isInput = false → loader.Bindable io t)
      (fun s => (List.range loader.numCopyStreams).foldlM (fun s set => loader.initOutputBindings
        BackendCommon.plain set (getRefIo plan false loader.config.maxBatchSize) s) s) := by
    refine sets_takes (fun set hset taken' hfree =>
      outputs_takes hspace hengine hloader honly hdata hset hfree) fun set c hc => ?_
    rintro (hnone | ⟨set', -, hinput⟩)
    · exact Set.notMem_empty c hnone
    · exact sideCells_apart hinput hc
  have hboth := hfirst.bind hsecond
  have hstart : Ready loader ∅ loader.ioStart := ready_start hprofiles
  constructor
  · intro ⟨s, h⟩ io t ht
    obtain ⟨_, hin, h⟩ := bind_eq_ok.mp h
    obtain ⟨_, hout, h⟩ := bind_eq_ok.mp h
    obtain rfl := Except.ok.inj (hinputs.symm.trans hin)
    obtain rfl := Except.ok.inj (houtputs.symm.trans hout)
    obtain ⟨s₁, hs₁, h⟩ := bind_eq_ok.mp h
    obtain ⟨s₂, hs₂, -⟩ := bind_eq_ok.mp h
    obtain ⟨hcanIn, hcanOut⟩ :=
      (hboth.ok_iff loader.ioStart hstart).mp ⟨s₂, bind_eq_ok.mpr ⟨s₁, hs₁, hs₂⟩⟩
    cases hinput : t.isInput with
    | true => exact hcanIn io t ht hinput
    | false => exact hcanOut io t ht hinput
  · intro hbind
    obtain ⟨s, hs⟩ := (hboth.ok_iff loader.ioStart hstart).mpr
      ⟨fun io t ht _ => hbind io t ht, fun io t ht _ => hbind io t ht⟩
    have hready := hboth.takes loader.ioStart s hstart hs
    have hcheck : loader.checkAllocated s = .ok () := by
      refine checkAllocated_total hready fun set hset isInput c hc => ?_
      cases isInput with
      | true => exact Or.inr (Or.inl ⟨set, List.mem_range.mpr hset, hc⟩)
      | false => exact Or.inr (Or.inr ⟨set, List.mem_range.mpr hset, hc⟩)
    obtain ⟨s₁, hs₁, hs₂⟩ := bind_eq_ok.mp hs
    have hshapes : ¬ loader.inferShapes = false := by
      rw [hloader.inferShapes]
      exact fun h => Bool.noConfusion h
    exact ⟨s, bind_eq_ok.mpr ⟨_, hinputs, bind_eq_ok.mpr ⟨_, houtputs, bind_eq_ok.mpr ⟨s₁, hs₁,
      bind_eq_ok.mpr ⟨s, hs₂, bind_eq_ok.mpr ⟨(), hcheck, bind_eq_ok.mpr ⟨(),
        failIf_eq_ok.mpr hshapes, rfl⟩⟩⟩⟩⟩⟩⟩

omit hloader honly hdata in
/-- Generated entries are valid if the data types of their tensors are known. -/
theorem validateIo_generated_iff
    (hinput : loader.config.input = some (getRefIo plan true loader.config.maxBatchSize))
    (houtput : loader.config.output = some (getRefIo plan false loader.config.maxBatchSize)) :
    loader.validateIo = .ok () ↔ ∀ t ∈ loader.tensors, t.dataType ≠ .invalid := by
  have hios : ∀ isInput, loader.config.ios isInput =
      getRefIo plan isInput loader.config.maxBatchSize := by
    intro isInput
    cases isInput
    · exact congrArg (Option.getD · []) houtput
    · exact congrArg (Option.getD · []) hinput
  have hallowed : ∀ isInput, ∀ io ∈ getRefIo plan isInput loader.config.maxBatchSize,
      io.name ∈ loader.allowedIos isInput := by
    intro isInput io hio
    rw [hengine.allowedIos, ← getRefIo_names hspace isInput loader.config.maxBatchSize]
    exact List.mem_map_of_mem hio
  have hcount : (getRefIo plan true loader.config.maxBatchSize).length ≤
      (loader.allowedIos true).length := by
    rw [hengine.allowedIos, List.length_map, getRefIo, List.length_map]
  rw [validateIo_eq_ok_iff hinput houtput]
  constructor
  · rintro ⟨-, h⟩ t ht hinvalid
    obtain ⟨x, hx, hname⟩ := exists_entry hspace hengine loader.config.maxBatchSize ht rfl
    have hmem := List.fst_mem_of_mem_zipIdx hx
    obtain ⟨io, t', hentry, -⟩ := hengine.entryOf hspace hmem
    have ht' : t' = t := by
      rw [← tensor_of_ioIndex? hentry.index, hname, tensor_of_mem ht]
    obtain ⟨dataType, hmember, hknown, -⟩ := hentry.known hengine
    obtain ⟨dataType', hmember', hconvert⟩ := (h t.isInput x.1 (hios t.isInput ▸ hmem)).2.dataType
    obtain rfl := Option.some.inj (hmember.symm.trans hmember')
    rw [hknown, ht', hinvalid] at hconvert
    exact hconvert rfl
  · intro hdata
    refine ⟨hcount, fun isInput io hio => ?_⟩
    rw [hios] at hio
    obtain ⟨i, t, hentry, -⟩ := hengine.entryOf hspace hio
    obtain ⟨dataType, hmember, hknown, -⟩ := hentry.known hengine
    obtain ⟨trtType, htype, -⟩ := hentry.dataType
    have htensor := tensor_of_ioIndex? hentry.index
    refine ⟨hallowed isInput io hio, ⟨dataType, hmember, ?_⟩, ?_, ?_⟩
    · have hvalid := hdata t (List.mem_of_getElem? hentry.tensor)
      rw [hknown]
      rw [htype] at hvalid ⊢
      cases trtType <;> first | exact absurd rfl hvalid | decide
    · rw [hentry.isShapeTensor, htensor]
    · rw [hentry.isNonLinearFormatIo, htensor]

omit hspace hengine hloader hdata in
/-- After a load that succeeds every shape input has needed bytes. -/
theorem needsBuffer_of_ok {s : IoState} (hvalid : loader.validateIo = .ok ())
    (h : loader.initIoBindingBuffers BackendCommon.plain = .ok s) :
    ∀ io t, loader.tensors[io]? = some t → t.isShapeInferenceIo = true → t.isInput = true →
      ∀ set < loader.numCopyStreams, loader.needsBuffer BackendCommon.plain set io = true := by
  intro io t ht hshape hinput set hset
  have hbatch : loader.BatchOutputsAreOutputs := by
    intro b hb
    rw [honly.batchOutput] at hb
    exact absurd hb List.not_mem_nil
  have hloaded := loaded_of_ok hvalid hbatch h
  obtain ⟨a, ha, rfl, rfl⟩ := hloaded.allocated set hset io t ht
  obtain ⟨t', ht', action, hmay⟩ := hloaded.claimed.allowed a ha
  obtain rfl := Option.some.inj (ht.symm.trans ht')
  exact hmay.has_bytes hinput hshape

end Load

/-- The entries of a configuration that had none are those of the plan. -/
theorem completed_entries {modelPath : String} {plan : Plan} {loader : IoLoader}
    {config config' : ModelConfig} (hnone : ∀ isInput, config.ios isInput = [])
    (h : autoCompleteConfigHelper modelPath (some plan) config = .ok config')
    (hconfig : loader.config.toModelConfig = config') :
    loader.config.input = some (getRefIo plan true loader.config.maxBatchSize) ∧
      loader.config.output = some (getRefIo plan false loader.config.maxBatchSize) := by
  obtain ⟨hints, supported, m, inputs, outputs, -, -, -, -, hinputs, houtputs, rfl⟩ :=
    autoCompleteConfigHelper_eq_ok.mp h
  rw [hnone, fixIo, if_pos rfl, Except.ok.injEq] at hinputs houtputs
  have hmax : loader.config.maxBatchSize = completedBatchSize config m := by
    rw [hconfig, completedConfig_maxBatchSize]
  constructor
  · rw [hmax, hinputs, hconfig]
    rfl
  · rw [hmax, houtputs, hconfig]
    rfl

/-- With the entries of the plan, what decides is whether the tensors can be bound. -/
theorem loads_iff_bindable {plan : Plan} {loader : IoLoader}
    (hspace : ∀ p ∈ plan.tensors, ' ' ∉ p.name.toList) (hengine : loader.EngineOf plan)
    (hloader : loader.CallsSucceed) (hprofiles : ∀ ctx ∈ loader.trtContexts, ProfileOf loader ctx)
    (honly : loader.OnlyIos)
    (hinput : loader.config.input = some (getRefIo plan true loader.config.maxBatchSize))
    (houtput : loader.config.output = some (getRefIo plan false loader.config.maxBatchSize)) :
    (loader.validateIo = .ok () ∧
        ∃ s, loader.initIoBindingBuffers BackendCommon.plain = .ok s) ↔
      ∀ io t, loader.tensors[io]? = some t → loader.Bindable io t := by
  have hvalid := validateIo_generated_iff hspace hengine hinput houtput
  have hload := fun hdata => initIoBindingBuffers_ok_iff hspace hengine hloader honly hdata hprofiles
    (ModelConfig.ioEntries_eq_ok_iff.mpr hinput) (ModelConfig.ioEntries_eq_ok_iff.mpr houtput)
  constructor
  · rintro ⟨hok, s, hs⟩
    exact (hload (hvalid.mp hok) (needsBuffer_of_ok honly hok hs)).mp ⟨s, hs⟩
  · intro hbind
    have hdata : ∀ t ∈ loader.tensors, t.dataType ≠ .invalid := by
      intro t ht
      obtain ⟨io, hio⟩ := List.mem_iff_getElem?.mp ht
      exact (hbind io t hio).dataType
    exact ⟨hvalid.mpr hdata, (hload hdata fun io t ht hshape hinput =>
      ((hbind io t ht).shapeInput hshape hinput).2).mpr hbind⟩

theorem rowProfile_ints : ∀ x ∈ dimsToDimVec (rowDims 8), 0 ≤ x ∧ toInt32 x = x := by decide

/-- The profile is one of the engine's, when the model batches. -/
theorem rowLoader_profiles (config : ModelConfig) (hbatch : config.maxBatchSize ≠ 0) :
    ∀ ctx ∈ (rowLoader config).trtContexts, ProfileOf (rowLoader config) ctx := by
  intro ctx hctx
  obtain rfl := List.mem_singleton.mp hctx
  have hbatching : (rowLoader config).supportBatching = true := supportBatching_iff.mpr hbatch
  constructor
  · intro io
    rcases io with _ | _ | io
    · exact rowProfile_ints
    · exact rowProfile_ints
    · exact fun x hx => absurd hx List.not_mem_nil
  · intro io t ht _
    rcases io with _ | _ | io
    · cases ht
      rfl
    · cases ht
      rfl
    · cases ht
  · intro io t ht hinput i hi hother _
    have hne := hother hbatching
    rcases io with _ | _ | io
    · cases ht
      have hi' : i < 2 := hi
      obtain rfl : i = 1 := by omega
      decide
    · cases ht
      cases hinput
    · cases ht

theorem rowTensors_mem {t : BoundTensor} (ht : t ∈ [rowTensor "x" true, rowTensor "y" false]) :
    t = rowTensor "x" true ∨ t = rowTensor "y" false := by
  rcases List.mem_cons.mp ht with ht | ht
  · exact Or.inl ht
  · exact Or.inr (List.mem_singleton.mp ht)

theorem rowLoader_callsSucceed (config : ModelConfig) : (rowLoader config).CallsSucceed where
  vectorized := by
    intro t ht hformat
    rcases rowTensors_mem ht with rfl | rfl
    · cases hformat
    · cases hformat
  setInputShape := fun _ _ _ _ => rfl
  byteSize := fun _ _ _ => rfl
  cudaMalloc := fun _ _ => rfl
  cudaMemset := fun _ _ => rfl
  cudaHostGetDevicePointer := fun _ _ => rfl
  setTensorAddress := fun _ _ _ => rfl
  setInputTensorAddress := fun _ _ _ => rfl
  fullByteSize := fun _ _ _ => by
    show (96 : ℤ) ≠ -1
    decide
  inferShapes := rfl

/-- The tensors can be bound, whatever the configuration says. -/
theorem rowTensors_bindable {loader : IoLoader} {io : ℕ} {t : BoundTensor}
    (ht : t ∈ [rowTensor "x" true, rowTensor "y" false]) : loader.Bindable io t := by
  have hshape : t.isShapeInferenceIo = false := by
    rcases rowTensors_mem ht with rfl | rfl
    · rfl
    · rfl
  constructor
  · rcases rowTensors_mem ht with rfl | rfl
    · decide
    · decide
  · have hrank : t.shape.nbDims = 2 := by
      rcases rowTensors_mem ht with rfl | rfl
      · rfl
      · rfl
    omega
  · exact fun h => Bool.noConfusion (hshape.symm.trans h)
  · exact fun h => Bool.noConfusion (hshape.symm.trans h)
  · exact fun h => Bool.noConfusion (hshape.symm.trans h)

end TensorrtBackend

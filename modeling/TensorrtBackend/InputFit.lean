import TensorrtBackend.Agreement
import TensorrtBackend.InputLoad
import TensorrtBackend.Lib.Box

/-!
# Input copies fit their buffers

A buffer is allocated for the largest of the maximum dims the contexts have at that moment.  Later
buffer sets only lower these dims, so that a buffer keeps holding every shape within the maximum
dims of any context; an execution accepts no other shape.

* `initializeExecuteInputBinding_fits`: initializing a binding keeps the buffers large enough.
* `copies_fit_buffers`: what an execution copies into a buffer fits.
-/

namespace TensorrtBackend

open Box Checked

/-! ### Maximum dims -/

section MaxDims

variable {ctx : TensorRTContext} {io io' : ℕ} {dimVec : List ℤ}

theorem setMaxDims_dims : (ctx.setMaxDims io dimVec).dims = ctx.dims.modify io fun p =>
    p.setMaxDims ((dimVecToDims dimVec p.maxDims).getD p.maxDims) := rfl

theorem setMaxDims_maxDims_of_ne (hio : io ≠ io') :
    (ctx.setMaxDims io dimVec).maxDims io' = ctx.maxDims io' := by
  rw [TensorRTContext.maxDims, TensorRTContext.maxDims, setMaxDims_dims,
    List.getD_eq_getElem?_getD, List.getD_eq_getElem?_getD, List.getElem?_modify_ne _ _ hio]

theorem dimsToDimVec_of_dimVecToDims {dims out : Dims} (h : dimVecToDims dimVec dims = some out) :
    dimsToDimVec out = dimVec.map toInt32 := by
  unfold dimVecToDims at h
  split at h
  · cases h
    rw [dimsToDimVec, List.take_append_of_le_length (by rw [List.length_map]),
      List.take_of_length_le (by rw [List.length_map])]
  · cases h

/-- The dims of a profile are written when the rank agrees. -/
theorem setMaxDims_dimVec {p : ProfileDims} (hlen : dimVec.length = p.maxDims.nbDims) :
    dimsToDimVec (p.setMaxDims ((dimVecToDims dimVec p.maxDims).getD p.maxDims)).maxDims =
      dimVec.map toInt32 := by
  have hrank : dimVec.length ≤ maxDimsCount := hlen ▸ p.maxDims.nbDims_le
  obtain ⟨out, hout⟩ := Option.isSome_iff_exists.mp
    ((dimVecToDims_isSome dimVec p.maxDims).mpr hrank)
  rw [hout, Option.getD_some, ProfileDims.setMaxDims,
    dif_pos ((dimVecToDims_nbDims hout).trans hlen)]
  exact dimsToDimVec_of_dimVecToDims hout

/-- The maximum dims written, narrowed to `int`. -/
theorem setMaxDims_maxDims (hlen : dimVec.length = (ctx.maxDims io).nbDims) :
    dimsToDimVec ((ctx.setMaxDims io dimVec).maxDims io) = dimVec.map toInt32 := by
  rw [TensorRTContext.maxDims, List.getD_eq_getElem?_getD] at hlen ⊢
  rw [setMaxDims_dims, List.getElem?_modify_eq]
  cases hio : ctx.dims[io]? with
  | some p =>
      rw [hio, Option.getD_some] at hlen
      exact setMaxDims_dimVec hlen
  | none =>
      -- A binding without dims has rank 0, and nothing is written.
      rw [hio, Option.getD_none] at hlen
      rw [List.length_eq_zero_iff.mp hlen]
      rfl

end MaxDims

/-- What `MaximumDims` returns: the wildcards replaced by the maximum dims of the profile. -/
theorem maximumDims_eq_ok {maxDims : Dims} {dims maximum : List ℤ}
    (h : maximumDims maxDims dims = .ok maximum) :
    maximum.length = dims.length ∧ maxDims.nbDims = dims.length ∧
      ∀ i < dims.length, maximum.getD i 0 ≤ maxDims.dim i ∧
        (dims.getD i 0 = wildcardDim ∧ maximum.getD i 0 = maxDims.dim i ∨
          dims.getD i 0 ≠ wildcardDim ∧ maximum.getD i 0 = dims.getD i 0) := by
  unfold maximumDims at h
  split at h
  · cases h
  · rename_i hrank
    obtain ⟨hlen, hentry⟩ := List.forall₂_iff_get.mp (mapM_eq_ok.mp h)
    rw [List.length_range] at hlen
    refine ⟨hlen.symm, not_not.mp hrank, fun i hi => ?_⟩
    have hi' : i < maximum.length := hlen ▸ hi
    have he := hentry i (by rw [List.length_range]; exact hi) hi'
    rw [List.getD_eq_getElem maximum 0 hi']
    simp only [List.get_eq_getElem, List.getElem_range] at he
    split at he
    · rename_i hwild
      rw [← Except.ok.inj he]
      exact ⟨le_refl _, Or.inl ⟨hwild, rfl⟩⟩
    · rename_i hknown
      split at he
      · rename_i hle
        rw [← Except.ok.inj he]
        exact ⟨hle, Or.inr ⟨hknown, rfl⟩⟩
      · cases he

/-- No maximum dim of the context is negative or changed by `DimVecToDims`. -/
def TensorRTContext.MaxDimsAreInts (ctx : TensorRTContext) : Prop :=
  ∀ io, ∀ x ∈ dimsToDimVec (ctx.maxDims io), 0 ≤ x ∧ toInt32 x = x

section Configure

variable {lib : BackendCommon} {loader : Loader} {set io : ℕ} {ctx ctx' : TensorRTContext}

/-- A vector the profile accepts is maximized within the maximum dims. -/
theorem maximumDims_below {dims maximum : List ℤ} (hctx : ctx.MaxDimsAreInts)
    (hvalid : validateDimensionVec dims (ctx.minDims io) (ctx.maxDims io) false = none)
    (h : maximumDims (ctx.maxDims io) dims = .ok maximum) :
    Below maximum (dimsToDimVec (ctx.maxDims io)) := by
  obtain ⟨hlen, hrank, hentry⟩ := maximumDims_eq_ok h
  obtain ⟨-, hrange⟩ := validateDimensionVec_eq_none_iff.mp hvalid
  refine below_iff_getD.mpr ⟨by rw [dimsToDimVec_length, hlen, hrank], fun i hi => ?_⟩
  rw [hlen] at hi
  have hi' : i < (ctx.maxDims io).nbDims := hrank ▸ hi
  rw [dimsToDimVec_getD hi']
  obtain ⟨hle, ⟨-, hmax⟩ | ⟨hknown, hdim⟩⟩ := hentry i hi
  · have hmem : (ctx.maxDims io).dim i ∈ dimsToDimVec (ctx.maxDims io) := by
      rw [← dimsToDimVec_getD hi']
      exact mem_of_getD (by rw [dimsToDimVec_length]; exact hi')
    exact ⟨hmax ▸ (hctx io _ hmem).1, hle⟩
  · have hmin := ctx.minDims_nonneg io i
    have hr := (hrange i hi').resolve_left hknown
    exact ⟨by rw [hdim]; omega, hle⟩

/-- `ConfigureInputDimensions` lowers the maximum dims to those it returns. -/
theorem configureInputDimensions_eq_ok {tensorName : String} {full maximum : List ℤ}
    (hctx : ctx.MaxDimsAreInts)
    (hfull : loader.supportBatching = true → full.headD 0 = -1 ∨ 0 ≤ full.headD 0)
    (h : configureInputDimensions loader set ctx io tensorName full = .ok (ctx', maximum)) :
    Below maximum (dimsToDimVec (ctx.maxDims io)) ∧ ctx' = ctx.setMaxDims io maximum := by
  obtain ⟨batchDim, hfirst, h⟩ := bind_eq_ok.mp h
  obtain rfl := (orCrash_firstDim_eq_ok.mp hfirst).2
  simp only at h
  split at h
  · cases h
  · rename_i hvalid
    obtain ⟨pruned, hpruned, h⟩ := bind_eq_ok.mp h
    obtain ⟨-, -, h⟩ := bind_eq_ok.mp h
    have hbelow := maximumDims_below hctx hvalid hpruned
    obtain ⟨rfl, rfl⟩ := Prod.mk.inj (pure_eq_ok.mp h)
    refine ⟨?_, rfl⟩
    split
    · rename_i hbatch
      have hnonneg := (hfull hbatch.1).resolve_left hbatch.2
      exact hbelow.modify_left (fun x hx => ⟨le_min hx hnonneg, min_le_left _ _⟩) 0
    · exact hbelow

/-- Every binding of `ctx'` has maximum dims within those of `ctx`. -/
def LowersMaxDims (ctx' ctx : TensorRTContext) : Prop :=
  ∀ io, Below (dimsToDimVec (ctx'.maxDims io)) (dimsToDimVec (ctx.maxDims io))

/-- Writing lower maximum dims for one binding. -/
theorem setMaxDims_lowers {maximum : List ℤ} (hctx : ctx.MaxDimsAreInts)
    (h : Below maximum (dimsToDimVec (ctx.maxDims io))) :
    dimsToDimVec ((ctx.setMaxDims io maximum).maxDims io) = maximum ∧
      LowersMaxDims (ctx.setMaxDims io maximum) ctx := by
  have hint : ∀ x ∈ maximum, toInt32 x = x := by
    intro x hx
    obtain ⟨y, hy, hx0, hxy⟩ := h.exists_le hx
    have hlt := (toInt32_eq_self_iff.mp (hctx io y hy).2).2
    exact toInt32_eq_self (by omega) (by omega)
  have hwritten : dimsToDimVec ((ctx.setMaxDims io maximum).maxDims io) = maximum := by
    rw [setMaxDims_maxDims (by rw [h.length_eq, dimsToDimVec_length])]
    exact (List.map_congr_left hint).trans (List.map_id maximum)
  refine ⟨hwritten, fun io' => ?_⟩
  by_cases hio : io = io'
  · rw [← hio, hwritten]
    exact h
  · rw [setMaxDims_maxDims_of_ne hio]
    exact below_refl fun x hx => (hctx io' x hx).1

theorem LowersMaxDims.areInts (h : LowersMaxDims ctx' ctx) (hctx : ctx.MaxDimsAreInts) :
    ctx'.MaxDimsAreInts := by
  intro io x hx
  obtain ⟨y, hy, hx0, hxy⟩ := (h io).exists_le hx
  have hlt := (toInt32_eq_self_iff.mp (hctx io y hy).2).2
  exact ⟨hx0, toInt32_eq_self (by omega) (by omega)⟩

theorem fullConfigDim_headD {inputDims : List ℤ} {isRagged : Bool} {batchInput : Option BatchInput}
    (hbatch : loader.supportBatching = true) :
    (fullConfigDim loader inputDims isRagged batchInput).headD 0 = -1 ∨
      0 ≤ (fullConfigDim loader inputDims isRagged batchInput).headD 0 := by
  rw [fullConfigDim, if_pos hbatch]
  split
  · exact Or.inl rfl
  · split
    · exact Or.inl rfl
    · exact Or.inr (Int.natCast_nonneg _)

/-- **One context**: its maximum dims are lowered, and the bytes are those of the lowered dims. -/
theorem configureContext_eq_ok {t : BoundTensor} {inputDims : List ℤ} {isControl isRagged : Bool}
    {batchInput : Option BatchInput} {format : TensorFormat} {byteSize : ℤ}
    (hctx : ctx.MaxDimsAreInts)
    (h : configureContext lib loader set io t inputDims isControl isRagged batchInput format ctx =
      .ok (ctx', byteSize)) :
    LowersMaxDims ctx' ctx ∧ byteSize ≠ -1 ∧
      byteSize = lib.byteSize t.dataType (format.bufferShape (dimsToDimVec (ctx'.maxDims io))) := by
  obtain ⟨-, -, h⟩ := bind_eq_ok.mp h
  obtain ⟨⟨lowered, maximum⟩, hconf, h⟩ := bind_eq_ok.mp h
  have hmarked := markDynamic_maxDims ctx io t.shape
  have hctx' : (ctx.markDynamic io t.shape).MaxDimsAreInts := by
    intro io'
    rw [hmarked]
    exact hctx io'
  obtain ⟨hbelow, rfl⟩ := configureInputDimensions_eq_ok hctx' fullConfigDim_headD hconf
  obtain ⟨hwritten, hlower⟩ := setMaxDims_lowers hctx' hbelow
  simp only at h
  split at h
  · cases h
  · obtain ⟨_, hsize, h⟩ := bind_eq_ok.mp h
    obtain ⟨rfl, rfl⟩ := Prod.mk.inj (pure_eq_ok.mp h)
    refine ⟨fun io' => ?_, failIf_eq_ok.mp hsize, by rw [hwritten]⟩
    rw [← hmarked io']
    exact hlower io'

end Configure

/-! ### Sizes -/

section Size

variable {t : BoundTensor} {format : TensorFormat} {shape shape' : List ℤ}

/-- The number of components of a vectorized format is positive. -/
def TensorFormat.ComponentsPos (format : TensorFormat) : Prop :=
  format.isLinearFormat = false → 0 < format.componentsPerElement

theorem setFormat_componentsPos {loader : Loader} {format' : TensorFormat}
    (h : setFormat loader t format = .ok format') : format'.ComponentsPos := by
  intro hlinear
  unfold setFormat at h
  split at h
  · rw [← Except.ok.inj h] at hlinear
    exact Bool.noConfusion hlinear
  · split at h
    · cases h
    · rename_i hvectorized
      rw [← Except.ok.inj h]
      exact t.components_pos hvectorized

theorem bufferShape_mono (hformat : format.ComponentsPos) (h : Below shape shape') :
    Below (format.bufferShape shape) (format.bufferShape shape') := by
  unfold TensorFormat.bufferShape
  split
  · exact h
  · rename_i hlinear
    exact h.modify (pad_mono (hformat (Bool.eq_false_of_not_eq_true hlinear))) _

theorem below_bufferShape (hformat : format.ComponentsPos) (h : ∀ x ∈ shape, 0 ≤ x) :
    Below shape (format.bufferShape shape) := by
  unfold TensorFormat.bufferShape
  split
  · exact below_refl h
  · rename_i hlinear
    have hpos := hformat (Bool.eq_false_of_not_eq_true hlinear)
    exact below_modify (fun x _ => le_pad hpos) h _

theorem plain_byteSize_of_nonneg {dataType : DataType} (h : ∀ x ∈ shape, 0 ≤ x) :
    BackendCommon.plain.byteSize dataType shape =
      if dataType.byteSize = 0 then -1 else dataType.byteSize * shape.prod := by
  have hwild : wildcardDim ∉ shape := fun hmem => absurd (h _ hmem) (by decide)
  simp only [BackendCommon.plain, hwild, or_false]

/-- The exact size is monotone in the shape. -/
theorem plain_byteSize_mono {dataType : DataType} (h : Below shape shape') :
    BackendCommon.plain.byteSize dataType shape ≤ BackendCommon.plain.byteSize dataType shape' := by
  rw [plain_byteSize_of_nonneg h.nonneg, plain_byteSize_of_nonneg h.bound_nonneg]
  split
  · exact le_refl _
  · exact Int.mul_le_mul_of_nonneg_left h.prod_le (Int.natCast_nonneg _)

end Size

/-! ### Buffers that hold every shape -/

/-- A buffer with the given size and format holds every shape within the maximum dims, also when it
is not padded. -/
def Holds (dataType : DataType) (info : IOBindingInfo) (maxDims : Dims) : Prop :=
  ∀ shape, Below shape (dimsToDimVec maxDims) →
    0 ≤ BackendCommon.plain.byteSize dataType shape ∧
      BackendCommon.plain.byteSize dataType shape ≤
        BackendCommon.plain.byteSize dataType (info.format.bufferShape shape) ∧
      BackendCommon.plain.byteSize dataType (info.format.bufferShape shape) ≤ info.byteSize

theorem Holds.mono {dataType : DataType} {info : IOBindingInfo} {maxDims maxDims' : Dims}
    (h : Holds dataType info maxDims)
    (hle : Below (dimsToDimVec maxDims') (dimsToDimVec maxDims)) : Holds dataType info maxDims' :=
  fun shape hshape => h shape (hshape.trans hle)

theorem Holds.congr {dataType : DataType} {info info' : IOBindingInfo} {maxDims : Dims}
    (h : Holds dataType info maxDims) (hsize : info'.byteSize = info.byteSize)
    (hformat : info'.format = info.format) : Holds dataType info' maxDims := by
  unfold Holds at h ⊢
  rw [hsize, hformat]
  exact h

/-- A buffer as large as the maximum dims ask for holds every shape within them. -/
theorem holds_of_max {dataType : DataType} {info : IOBindingInfo} {maxDims : Dims}
    (hformat : info.format.ComponentsPos) (hdims : ∀ x ∈ dimsToDimVec maxDims, 0 ≤ x)
    (hsize : BackendCommon.plain.byteSize dataType
      (info.format.bufferShape (dimsToDimVec maxDims)) ≠ -1)
    (h : BackendCommon.plain.byteSize dataType (info.format.bufferShape (dimsToDimVec maxDims)) ≤
      info.byteSize) : Holds dataType info maxDims := by
  intro shape hshape
  have hpadded := (below_bufferShape hformat hdims).bound_nonneg
  have htype : dataType.byteSize ≠ 0 := fun hzero =>
    hsize (by rw [plain_byteSize_of_nonneg hpadded, if_pos hzero])
  refine ⟨?_, plain_byteSize_mono (below_bufferShape hformat hshape.nonneg),
    (plain_byteSize_mono (bufferShape_mono hformat hshape)).trans h⟩
  rw [plain_byteSize_of_nonneg hshape.nonneg, if_neg htype]
  exact mul_nonneg (Int.natCast_nonneg _) (List.prod_nonneg hshape.nonneg)

/-- **The invariant of the load**: the buffers allocated so far hold every shape within the maximum
dims the contexts have now. -/
structure BuffersFit (loader : Loader) (s : LoadState) : Prop where
  maxDims_int : ∀ ctx ∈ s.trtContexts, ctx.MaxDimsAreInts
  holds : ∀ (set io : ℕ) (t : BoundTensor), loader.tensors[io]? = some t →
    (s.slot set io).allocated = true → ∀ ctx ∈ s.trtContexts,
      Holds t.dataType (s.slot set io).info (ctx.maxDims io)

/-! ### Initializing a binding -/

section Load

variable {loader : Loader} {set io : ℕ} {s s' : LoadState} {slot : BindingSlot}

/-- Only the slot written changes. -/
theorem slot_setSlot (s : LoadState) (set io : ℕ) (slot : BindingSlot) (set' io' : ℕ) :
    (set' = set ∧ io' = io ∧ (s.setSlot set io slot).slot set' io' = slot) ∨
      (s.setSlot set io slot).slot set' io' = s.slot set' io' := by
  simp only [LoadState.slot, LoadState.setSlot, List.getD_eq_getElem?_getD]
  by_cases hset : set = set'
  · rw [← hset, List.getElem?_modify_eq]
    cases hinfos : s.ioBindingInfos[set]? with
    | none => exact Or.inr rfl
    | some infos =>
        show (set = set ∧ io' = io ∧ ((infos.set io slot)[io']?).getD default = slot) ∨
          ((infos.set io slot)[io']?).getD default = (infos[io']?).getD default
        rw [List.getElem?_set]
        by_cases hio : io = io'
        · by_cases hlt : io < infos.length
          · exact Or.inl ⟨rfl, hio.symm, by rw [if_pos hio, if_pos hlt, Option.getD_some]⟩
          · refine Or.inr ?_
            rw [if_pos hio, if_neg hlt, ← hio, List.getElem?_eq_none (not_lt.mp hlt)]
        · exact Or.inr (by rw [if_neg hio])
  · exact Or.inr (by rw [List.getElem?_modify_ne _ _ hset])

theorem allocateInput_eq_ok {inputName : String} {isRagged : Bool} {maxByteSize : ℤ}
    {info : IOBindingInfo}
    (h : allocateInput loader set io inputName isRagged maxByteSize info = .ok slot) :
    slot.info.byteSize = maxByteSize.toNat ∧ slot.info.format = info.format := by
  obtain ⟨-, -, h⟩ := bind_eq_ok.mp h
  obtain ⟨-, -, h⟩ := bind_eq_ok.mp h
  obtain ⟨-, -, h⟩ := bind_eq_ok.mp h
  obtain ⟨-, -, h⟩ := bind_eq_ok.mp h
  rw [← pure_eq_ok.mp h]
  exact ⟨rfl, rfl⟩

/-- **The step lemma**: a binding is given the room its maximum dims need in every context, and the
other bindings keep theirs. -/
theorem bindInput_fits {lib : BackendCommon} {t : BoundTensor} {inputDatatype : String}
    {inputDims : List ℤ} {isControl isRagged : Bool}
    (hlib : lib.byteSize = BackendCommon.plain.byteSize) (ht : loader.tensors[io]? = some t)
    (hfit : BuffersFit loader s)
    (h : bindInput lib loader set io t inputDatatype inputDims isControl isRagged s = .ok s') :
    BuffersFit loader s' := by
  obtain ⟨-, -, h⟩ := bind_eq_ok.mp h
  obtain ⟨-, -, h⟩ := bind_eq_ok.mp h
  obtain ⟨-, -, h⟩ := bind_eq_ok.mp h
  obtain ⟨format, hformat, h⟩ := bind_eq_ok.mp h
  obtain ⟨configured, hconfigured, h⟩ := bind_eq_ok.mp h
  obtain ⟨slot, hslot, h⟩ := bind_eq_ok.mp h
  obtain ⟨-, -, h⟩ := bind_eq_ok.mp h
  obtain rfl := pure_eq_ok.mp h
  obtain ⟨hsize, hslotFormat⟩ := allocateInput_eq_ok hslot
  replace hslotFormat : slot.info.format = format := hslotFormat
  -- Each context comes from one of the contexts before, with lower maximum dims.
  have hcontext : ∀ ctx' ∈ configured.map Prod.fst, ∃ ctx ∈ s.trtContexts, LowersMaxDims ctx' ctx ∧
      ∃ byteSize ∈ configured.map Prod.snd, byteSize ≠ -1 ∧ byteSize =
        lib.byteSize t.dataType (format.bufferShape (dimsToDimVec (ctx'.maxDims io))) := by
    intro ctx' hctx'
    obtain ⟨⟨ctx', byteSize⟩, hmem, rfl⟩ := List.mem_map.mp hctx'
    obtain ⟨ctx, hctx, hok⟩ := exists_of_mem_mapM hconfigured hmem
    obtain ⟨hlower, hsize⟩ := configureContext_eq_ok (hfit.maxDims_int ctx hctx) hok
    exact ⟨ctx, hctx, hlower, byteSize, List.mem_map_of_mem (f := Prod.snd) hmem, hsize⟩
  constructor
  · intro ctx' hctx'
    obtain ⟨ctx, hctx, hlower, -⟩ := hcontext ctx' hctx'
    exact hlower.areInts (hfit.maxDims_int ctx hctx)
  · intro set' io' t' ht' hallocated ctx' hctx'
    obtain ⟨ctx, hctx, hlower, byteSize, hmem, hne, rfl⟩ := hcontext ctx' hctx'
    rcases slot_setSlot { s with trtContexts := configured.map Prod.fst } set io slot set' io' with
      ⟨-, rfl, hnew⟩ | hold
    · rw [ht] at ht'
      obtain rfl := Option.some.inj ht'
      have hmax := (le_foldl_max (configured.map Prod.snd) 0).2 _ hmem
      rw [hnew]
      rw [← hslotFormat, hlib] at hne hmax
      refine holds_of_max (hslotFormat ▸ setFormat_componentsPos hformat)
        (fun x hx => (hlower.areInts (hfit.maxDims_int ctx hctx) io' x hx).1) hne ?_
      rw [hsize]
      exact hmax.trans (Int.self_le_toNat _)
    · rw [hold] at hallocated ⊢
      exact (hfit.holds set' io' t' ht' hallocated ctx hctx).mono (hlower io')

/-- Initializing a binding keeps the buffers large enough. -/
theorem initializeExecuteInputBinding_fits {lib : BackendCommon} {inputName inputDatatype : String}
    {inputDims : List ℤ} {isControl isRagged isState : Bool}
    (hlib : lib.byteSize = BackendCommon.plain.byteSize) (hfit : BuffersFit loader s)
    (h : initializeExecuteInputBinding lib loader set inputName inputDatatype inputDims isControl
      isRagged isState s = .ok s') : BuffersFit loader s' := by
  unfold initializeExecuteInputBinding at h
  split at h
  · cases h
  · rename_i t io hindex
    split at h
    · exact Except.ok.inj h ▸ hfit
    · split at h
      · exact Except.ok.inj h ▸ hfit
      · exact bindInput_fits hlib (getElem?_of_ioIndex? hindex) hfit h

/-- Marking a binding as a batch input changes neither its buffer nor its format. -/
theorem setBatchInput_fits {batchInput : BatchInput} (hfit : BuffersFit loader s) :
    BuffersFit loader (s.setBatchInput set io batchInput) := by
  refine ⟨hfit.maxDims_int, fun set' io' t ht hallocated ctx hctx => ?_⟩
  rcases slot_setSlot s set io
    { s.slot set io with info := { (s.slot set io).info with batchInput := some batchInput } }
    set' io' with ⟨rfl, rfl, hnew⟩ | hold
  · rw [LoadState.setBatchInput, hnew] at hallocated ⊢
    exact hfit.holds set' io' t ht hallocated ctx hctx
  · rw [LoadState.setBatchInput, hold] at hallocated ⊢
    exact hfit.holds set' io' t ht hallocated ctx hctx

/-- **The run lemma for one buffer set.** -/
theorem initInputBindings_fits {lib : BackendCommon}
    (hlib : lib.byteSize = BackendCommon.plain.byteSize) (hfit : BuffersFit loader s)
    (h : initInputBindings lib loader set s = .ok s') : BuffersFit loader s' := by
  obtain ⟨inputs, -, h⟩ := bind_eq_ok.mp h
  obtain ⟨s₁, h₁, h⟩ := bind_eq_ok.mp h
  obtain ⟨s₂, h₂, h⟩ := bind_eq_ok.mp h
  obtain ⟨s₃, h₃, h₄⟩ := bind_eq_ok.mp h
  have hfit₁ : BuffersFit loader s₁ := by
    refine foldlM_invariant (fun s entry s' _ hs hstep => ?_) h₁ hfit
    obtain ⟨dataType, -, hstep⟩ := bind_eq_ok.mp hstep
    obtain ⟨dims, -, hstep⟩ := bind_eq_ok.mp hstep
    exact initializeExecuteInputBinding_fits hlib hs hstep
  have hfit₂ : BuffersFit loader s₂ :=
    foldlM_invariant (fun s control s' _ hs hstep =>
      initializeExecuteInputBinding_fits hlib hs hstep) h₂ hfit₁
  have hfit₃ : BuffersFit loader s₃ := by
    refine foldlM_invariant (fun s batchInput s' _ hs hstep => ?_) h₃ hfit₂
    refine foldlM_invariant (fun s tensorName s' _ hs hstep => ?_) hstep hs
    obtain ⟨dims, -, hstep⟩ := bind_eq_ok.mp hstep
    split at hstep
    · cases hstep
    · exact initializeExecuteInputBinding_fits hlib (setBatchInput_fits hs) hstep
  exact foldlM_invariant (fun s state s' _ hs hstep =>
    initializeExecuteInputBinding_fits hlib hs hstep) h₄ hfit₃

/-- No buffer is allocated at the start. -/
theorem start_slot (loader : Loader) (set io : ℕ) : loader.start.slot set io = default := by
  simp only [LoadState.slot, Loader.start, List.getD_eq_getElem?_getD, List.getElem?_replicate]
  split
  · rw [Option.getD_some, List.getElem?_replicate]
    split <;> rfl
  · rfl

theorem start_fits (hctx : ∀ ctx ∈ loader.trtContexts, ctx.MaxDimsAreInts) :
    BuffersFit loader loader.start := by
  refine ⟨hctx, fun set io t _ hallocated => ?_⟩
  rw [start_slot] at hallocated
  exact Bool.noConfusion hallocated

/-- **The run lemma**: after a load that succeeds every buffer holds every shape within the maximum
dims of any context, and every execution input has a buffer in every set. -/
theorem initIoBindingBuffers_fits {lib : BackendCommon}
    (hlib : lib.byteSize = BackendCommon.plain.byteSize)
    (hctx : ∀ ctx ∈ loader.trtContexts, ctx.MaxDimsAreInts)
    (h : initIoBindingBuffers lib loader = .ok s) :
    BuffersFit loader s ∧ ∀ set < loader.numCopyStreams, ∀ io t, loader.tensors[io]? = some t →
      t.isExecutionInput = true → (s.slot set io).allocated = true := by
  obtain ⟨s', hloop, h⟩ := bind_eq_ok.mp h
  obtain ⟨⟨⟩, hcheck, h⟩ := bind_eq_ok.mp h
  obtain rfl := pure_eq_ok.mp h
  refine ⟨foldlM_invariant (fun s set s' _ hs hstep => initInputBindings_fits hlib hs hstep) hloop
    (start_fits hctx), fun set hset io t ht hexec => ?_⟩
  have hset' := forM_eq_ok.mp hcheck set (List.mem_range.mpr hset)
  have hio := forM_eq_ok.mp hset' (t, io) (List.mem_zipIdx_iff_getElem?.mpr ht)
  have hnot := failIf_eq_ok.mp hio
  by_contra hnone
  exact hnot ⟨hexec, Bool.eq_false_of_not_eq_true hnone⟩

end Load

/-! ### The copies of an execution -/

/-- The instance that a load gives: what the rest of `Create` adds changes neither the contexts'
dims nor the size and the format of an input buffer. -/
structure Loader.Loaded (loader : Loader) (s : LoadState) (inst : Instance) : Prop where
  tensors : inst.tensors = loader.tensors.map BoundTensor.toEngineTensor
  numCopyStreams : inst.numCopyStreams = loader.numCopyStreams
  dims : inst.trtContexts.map TensorRTContext.dims = s.trtContexts.map TensorRTContext.dims
  info : ∀ set < loader.numCopyStreams, ∀ (io : ℕ) (t : BoundTensor), loader.tensors[io]? = some t →
    t.isExecutionInput = true →
      (inst.bindingInfo set io).byteSize = (s.slot set io).info.byteSize ∧
        (inst.bindingInfo set io).format = (s.slot set io).info.format

/-- `total_byte_size` of the copy into an execution input that is no batch input.  The data type is
that of the first request; a ragged input is not padded. -/
def totalByteSize (lib : BackendCommon) (inst : Instance) (set totalBatchSize : ℕ)
    (requests : List Request) (io : ℕ) (name : String) : Option ℤ := do
  let input ← (requests.headD default).input? name
  let shape ← runtimeShape lib inst set (fun _ => none) totalBatchSize requests io name
  pure (lib.byteSize input.datatype
    (if (inst.bindingInfo set io).isBufferRagged then shape
      else (inst.bindingInfo set io).format.bufferShape shape))

section Run

variable {lib : BackendCommon} {inst : Instance} {set : ℕ}
  {batchInputShape : BatchInput → Option (List ℤ)} {setInputShape : ℕ → Dims → Bool}
  {totalBatchSize : ℕ} {requests : List Request} {citr : TensorRTContext}

/-- A shape a binding accepts, unchanged by `DimVecToDims`, is within the maximum dims. -/
theorem below_of_setBindingDimensions {name : String} {shape : List ℤ} {io : ℕ}
    (h : (setBindingDimensions inst setInputShape name shape citr io []).1 = none)
    (hint : ∀ x ∈ shape, toInt32 x = x) : Below shape (dimsToDimVec (citr.maxDims io)) := by
  obtain ⟨hlen, hrange⟩ := (setBindingDimensions_eq_none_iff fun _ _ => rfl).mp
    (setBindingDimensions_of_ok h)
  refine below_iff_getD.mpr ⟨by rw [dimsToDimVec_length, hlen], fun i hi => ?_⟩
  rw [dimsToDimVec_getD (hlen ▸ hi)]
  have hr := hrange i hi
  rw [hint _ (mem_of_getD hi)] at hr
  exact ⟨(citr.minDims_nonneg io i).trans hr.1, hr.2⟩

/-- The first request has every input a shape was found for. -/
theorem input?_isSome_of_runtimeShape {io : ℕ} {name : String} {shape : List ℤ}
    (hne : requests ≠ []) (hbatch : (inst.bindingInfo set io).batchInput = none)
    (h : runtimeShape lib inst set batchInputShape totalBatchSize requests io name = some shape) :
    ((requests.headD default).input? name).isSome := by
  simp only [runtimeShape, hbatch] at h
  split at h
  · obtain ⟨sum, hsum, -⟩ := Option.map_eq_some_iff.mp h
    exact input?_isSome_of_raggedShape hne hsum
  · obtain ⟨input, hinput, -⟩ := Option.map_eq_some_iff.mp h
    rw [hinput]
    rfl

/-- **One copy**: what an accepted binding is filled with fits a buffer that holds every shape. -/
theorem totalByteSize_le {io : ℕ} {t : EngineTensor} (hexec : t.isShapeInferenceIo = false)
    {requestShapeValues : ShapeValueMap}
    (hlib : lib.byteSize = BackendCommon.plain.byteSize) (hne : requests ≠ [])
    (hbatch : (inst.bindingInfo set io).batchInput = none)
    (hholds : Holds t.dataType (inst.bindingInfo set io) (citr.maxDims io))
    (hdatatype : ∀ input, (requests.headD default).input? t.name = some input →
      input.datatype = t.dataType)
    (hint : ∀ shape, runtimeShape lib inst set batchInputShape totalBatchSize requests io t.name =
      some shape → ∀ x ∈ shape, toInt32 x = x)
    (hpass : InputPasses lib inst set batchInputShape setInputShape totalBatchSize requests citr
      requestShapeValues io t) :
    ∃ size, totalByteSize lib inst set totalBatchSize requests io t.name = some size ∧
      0 ≤ size ∧ size ≤ (inst.bindingInfo set io).byteSize := by
  rw [InputPasses, if_neg (by simp [hexec])] at hpass
  obtain ⟨shape, hshape, hbind⟩ := hpass
  have hbelow := below_of_setBindingDimensions hbind (hint shape hshape)
  obtain ⟨input, hinput⟩ := Option.isSome_iff_exists.mp
    (input?_isSome_of_runtimeShape hne hbatch hshape)
  have hshape' : runtimeShape lib inst set (fun _ => none) totalBatchSize requests io t.name =
      some shape := by
    rw [← hshape]
    simp only [runtimeShape, hbatch]
  obtain ⟨hnonneg, hle, hpadded⟩ := hholds shape hbelow
  simp only [totalByteSize, hinput, hshape', Option.bind_eq_bind, Option.bind_some,
    Option.pure_def, Option.some.injEq, exists_eq_left']
  rw [hdatatype input hinput, hlib]
  split
  · exact ⟨hnonneg, hle.trans hpadded⟩
  · exact ⟨hnonneg.trans hle, hpadded⟩

/-- **Copies fit.** After a load that succeeds, whatever profile an execution selects, each input it
copies is no larger than the buffer that was allocated for it. -/
theorem copies_fit_buffers {loader : Loader} {s : LoadState} {requestShapeValues : ShapeValueMap}
    (hlib : lib.byteSize = BackendCommon.plain.byteSize)
    (hmax : ∀ ctx ∈ loader.trtContexts, ctx.MaxDimsAreInts)
    (hload : initIoBindingBuffers lib loader = .ok s) (hinst : loader.Loaded s inst)
    (hset : set < inst.numCopyStreams) (hcitr : citr ∈ inst.trtContexts) (hne : requests ≠ [])
    (hpass : PassesRunChecks lib inst set batchInputShape setInputShape totalBatchSize requests citr
      requestShapeValues)
    {io : ℕ} {t : EngineTensor} (ht : inst.tensors[io]? = some t)
    (hexec : t.isExecutionInput = true) (hbatch : (inst.bindingInfo set io).batchInput = none)
    (hdatatype : ∀ input, (requests.headD default).input? t.name = some input →
      input.datatype = t.dataType)
    (hint : ∀ shape, runtimeShape lib inst set batchInputShape totalBatchSize requests io t.name =
      some shape → ∀ x ∈ shape, toInt32 x = x) :
    ∃ size, totalByteSize lib inst set totalBatchSize requests io t.name = some size ∧
      0 ≤ size ∧ size ≤ (s.slot set io).info.byteSize := by
  obtain ⟨hfit, hallocated⟩ := initIoBindingBuffers_fits hlib hmax hload
  rw [hinst.numCopyStreams] at hset
  -- The tensor and the context are those of the load.
  rw [hinst.tensors, List.getElem?_map] at ht
  obtain ⟨bound, hbound, rfl⟩ := Option.map_eq_some_iff.mp ht
  have hdims : citr.dims ∈ s.trtContexts.map TensorRTContext.dims :=
    hinst.dims ▸ List.mem_map_of_mem hcitr
  obtain ⟨ctx, hctx, hctxDims⟩ := List.mem_map.mp hdims
  have hmaxDims : ctx.maxDims io = citr.maxDims io := by
    rw [TensorRTContext.maxDims, TensorRTContext.maxDims, hctxDims]
  obtain ⟨hsize, hformat⟩ := hinst.info set hset io bound hbound hexec
  have hholds := hfit.holds set io bound hbound (hallocated set hset io bound hbound hexec) ctx hctx
  rw [hmaxDims] at hholds
  obtain ⟨hin, hshape⟩ := Bool.and_eq_true_iff.mp hexec
  rw [Bool.not_eq_true'] at hshape
  have hbinding : inst.tensors[io]? = some bound.toEngineTensor := by
    rw [hinst.tensors, List.getElem?_map, hbound, Option.map_some]
  rw [← hsize]
  exact totalByteSize_le hshape hlib hne hbatch (hholds.congr hsize hformat) hdatatype hint
    (passesRunChecks_iff.mp hpass io _ hbinding hin)

end Run

/-! ### A vectorized matrix -/

/-- The components of four columns are stored together. -/
def vectorizedFormat : TensorFormat where
  isLinearFormat := false
  vectorizedDim := 1
  componentsPerElement := 4

theorem vectorizedFormat_pos : 0 < vectorizedFormat.componentsPerElement := by decide

/-- A loader for the matrix model with a vectorized input. -/
def matrixLoader : Loader where
  name := "matrix"
  config := {
    maxBatchSize := 8
    input := some [{ name := "in", dataType := some "TYPE_FP32", dims := some [-1] }] }
  tensors := [{ name := "in", isInput := true, shape := matrixDims (-1) (-1),
                format := vectorizedFormat, components_pos := fun _ => vectorizedFormat_pos }]
  trtContexts := [matrixProfile 0 4 4, matrixProfile 1 4 10]
  configDataType := fun s => if s = "TYPE_FP32" then .fp32 else .invalid
  contexts_ne := matrixProfiles_ne

/-- Room for eight rows of sixteen columns, padded to twenty. -/
def vectorizedInfo : IOBindingInfo where
  byteSize := 640
  format := vectorizedFormat

/-- The matrix model behind that load. -/
def vectorizedInstance : Instance :=
  { matrixInstance 8 1 matrixBatchSize_lt with
    ioBindingInfos := [[vectorizedInfo]]
    shape_not_ragged := by
      intro set io t _ _ _
      match set, io with
      | 0, 0 => rfl
      | 0, io + 1 => rfl
      | set + 1, io => rfl }

/-- The matrix model after the load, whose profiles are not lowered. -/
def matrixLoaded : LoadState where
  trtContexts := [matrixProfile 0 4 4, matrixProfile 1 4 10]
  ioBindingInfos := [[{ info := vectorizedInfo, allocated := true }]]

theorem matrixLoader_loads : initIoBindingBuffers BackendCommon.plain matrixLoader =
    .ok matrixLoaded := by rfl

theorem matrixProfile_maxDimsAreInts (idx rows columns : ℤ) :
    (matrixProfile idx rows columns).MaxDimsAreInts := by
  intro io x hx
  cases io with
  | zero =>
      have h : ∀ x ∈ dimsToDimVec (matrixDims 8 16), 0 ≤ x ∧ toInt32 x = x := by decide
      exact h x hx
  | succ io => exact absurd hx List.not_mem_nil

theorem matrixProfiles_maxDimsAreInts :
    ∀ ctx ∈ [matrixProfile 0 4 4, matrixProfile 1 4 10], ctx.MaxDimsAreInts := by
  intro ctx hctx
  rcases List.mem_cons.mp hctx with rfl | hctx
  · exact matrixProfile_maxDimsAreInts 0 4 4
  · rw [List.mem_singleton.mp hctx]
    exact matrixProfile_maxDimsAreInts 1 4 10

theorem matrixLoader_loaded : matrixLoader.Loaded matrixLoaded vectorizedInstance where
  tensors := rfl
  numCopyStreams := rfl
  dims := rfl
  info := by
    intro set hset io t ht _
    obtain rfl : set = 0 := Nat.lt_one_iff.mp hset
    cases io with
    | zero => exact ⟨rfl, rfl⟩
    | succ io => cases ht

/-- The theorem at a batch of two rows of ten columns. -/
theorem copies_fit_buffers_matrix :
    ∃ size, totalByteSize BackendCommon.plain vectorizedInstance 0 2 (matrixRequests 2 10) 0 "in" =
        some size ∧ 0 ≤ size ∧ size ≤ (matrixLoaded.slot 0 0).info.byteSize := by
  have hpass : PassesRunChecks BackendCommon.plain vectorizedInstance 0 (fun _ => none)
      (fun _ _ => true) 2 (matrixRequests 2 10) (matrixProfile 1 4 10) fun _ => none := by rfl
  have hmax : ∀ ctx ∈ matrixLoader.trtContexts, ctx.MaxDimsAreInts := matrixProfiles_maxDimsAreInts
  have hcitr : matrixProfile 1 4 10 ∈ vectorizedInstance.trtContexts :=
    List.mem_cons_of_mem _ List.mem_cons_self
  have hin : vectorizedInstance.tensors[0]? = some { name := "in", isInput := true } := rfl
  refine copies_fit_buffers rfl hmax matrixLoader_loads matrixLoader_loaded (by decide) hcitr
    (List.cons_ne_nil _ _) hpass hin rfl rfl ?_ ?_
  · intro input hinput
    cases hinput
    rfl
  · intro shape hshape
    cases hshape
    decide

end TensorrtBackend

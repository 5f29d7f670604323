import TensorrtBackend.InputFit
import TensorrtBackend.Lib.Repeat

/-!
# Configuring an input once more

`ConfigureInputDimensions` overwrites the limits it validates against, and the initialization of the
second buffer set calls it again on what the first one left.  The dims it writes are `loweredDims`,
and these are a fixed point: a wildcard stays at the maximum that was written for it, a fixed dim
equals its own new maximum, and the batch dimension, which is validated as a wildcard, is capped by
the same value again.

* `configureInputDimensions_eq_ok_iff`: when a call succeeds, and with what.
* `configureInputDimensions_again`: a second call changes nothing.
-/

namespace TensorrtBackend

open Checked

/-! ### The dims of one call -/

/-- The dims that are validated: the batch dimension is replaced by a wildcard. -/
def validatedDims (supportBatching : Bool) (fullConfigDims : List ℤ) : List ℤ :=
  if supportBatching then fullConfigDims.set 0 (-1) else fullConfigDims

/-- One entry of `MaximumDims`. -/
def prunedDim (dim max : ℤ) : ℤ := if dim = wildcardDim then max else dim

/-- `maximum_dims`. -/
def loweredDims (supportBatching : Bool) (fullConfigDims : List ℤ) (maxDims : Dims) : List ℤ :=
  let dims := validatedDims supportBatching fullConfigDims
  let maximum := (List.range dims.length).map fun i => prunedDim (dims.getD i 0) (maxDims.dim i)
  if supportBatching ∧ fullConfigDims.headD 0 ≠ -1 then
    maximum.modify 0 fun d => min d (fullConfigDims.headD 0) else maximum

section Once

variable {dims : List ℤ} {minDims maxDims : Dims}

/-- **`MaximumDims` cannot fail** on what `ValidateDimension` accepts. -/
theorem maximumDims_of_valid (h : validateDimensionVec dims minDims maxDims false = none) :
    maximumDims maxDims dims =
      .ok ((List.range dims.length).map fun i => prunedDim (dims.getD i 0) (maxDims.dim i)) := by
  obtain ⟨hlen, hrange⟩ := validateDimensionVec_eq_none_iff.mp h
  rw [maximumDims, if_neg (not_not.mpr hlen.symm), mapM_eq_ok, List.forall₂_map_right_iff,
    List.forall₂_same]
  intro i hi
  have hi' : i < maxDims.nbDims := hlen ▸ List.mem_range.mp hi
  unfold prunedDim
  by_cases hwild : dims.getD i 0 = wildcardDim
  · rw [if_pos hwild, if_pos hwild]
  · rw [if_neg hwild, if_neg hwild, if_pos ((hrange i hi').resolve_left hwild).2]

end Once

theorem markDynamic_minDims (ctx : TensorRTContext) (io : ℕ) (engineDims : Dims) (io' : ℕ) :
    (ctx.markDynamic io engineDims).minDims io' = ctx.minDims io' := by
  unfold TensorRTContext.markDynamic
  split
  · rfl
  · rfl

section Call

variable {loader : Loader} {set set' io : ℕ} {ctx ctx' : TensorRTContext} {tensorName : String}
  {full maximum : List ℤ}

/-- **When a call succeeds**: there are dims, they are valid and TensorRT accepts the lowered ones,
which are returned and written. -/
theorem configureInputDimensions_eq_ok_iff :
    configureInputDimensions loader set ctx io tensorName full = .ok (ctx', maximum) ↔
      full ≠ [] ∧
        validateDimensionVec (validatedDims loader.supportBatching full) (ctx.minDims io)
          (ctx.maxDims io) false = none ∧
        maximum = loweredDims loader.supportBatching full (ctx.maxDims io) ∧
        ctx' = ctx.setMaxDims io maximum ∧
        (loader.calls set).setInputShape ctx'.profileIdx io (ctx'.maxDims io) = true := by
  constructor
  · intro h
    obtain ⟨_, hfirst, h⟩ := bind_eq_ok.mp h
    obtain ⟨hfull, rfl⟩ := orCrash_firstDim_eq_ok.mp hfirst
    simp only at h
    split at h
    · cases h
    · rename_i hvalid
      obtain ⟨pruned, hpruned, h⟩ := bind_eq_ok.mp h
      obtain rfl := Except.ok.inj ((maximumDims_of_valid hvalid).symm.trans hpruned)
      obtain ⟨_, hset, h⟩ := bind_eq_ok.mp h
      obtain ⟨rfl, rfl⟩ := Prod.mk.inj (pure_eq_ok.mp h)
      exact ⟨hfull, hvalid, rfl, rfl, eq_true_of_ne_false (failIf_eq_ok.mp hset)⟩
  · rintro ⟨hfull, hvalid, rfl, rfl, hset⟩
    refine bind_eq_ok.mpr ⟨_, orCrash_firstDim_eq_ok.mpr ⟨hfull, rfl⟩, ?_⟩
    have hmaximum := maximumDims_of_valid hvalid
    rw [validatedDims] at hvalid hmaximum
    simp only [hvalid, hmaximum]
    exact bind_eq_ok.mpr ⟨_, rfl, bind_eq_ok.mpr
      ⟨(), failIf_eq_ok.mpr (ne_false_of_eq_true hset), rfl⟩⟩

end Call

/-! ### The dims of a second call -/

/-- `min` with a cap, narrowed and capped once more. -/
theorem min_toInt32_min {max : ℤ} (hmax : 0 ≤ max) (hint : toInt32 max = max) (cap : ℤ) :
    min (toInt32 (min max cap)) cap = min max cap := by
  rcases le_total max cap with hle | hle
  · rw [min_eq_left hle, hint, min_eq_left hle]
  · rw [min_eq_right hle]
    by_cases hcap : toInt32 cap = cap
    · rw [hcap, min_self]
    · -- A cap that is changed is below every `int`.
      apply min_eq_right
      have hmaxInt := toInt32_eq_self_iff.mp hint
      have hrange := mt toInt32_eq_self_iff.mpr hcap
      have hbounds := toInt32_bounds cap
      omega

section Again

variable {supportBatching : Bool} {full : List ℤ} {minDims maxDims : Dims}

theorem validatedDims_length : (validatedDims supportBatching full).length = full.length := by
  unfold validatedDims
  split
  · exact List.length_set
  · rfl

theorem validatedDims_getD {i : ℕ} (hother : supportBatching = true → i ≠ 0) :
    (validatedDims supportBatching full).getD i 0 = full.getD i 0 := by
  unfold validatedDims
  split
  · rename_i hbatch
    rw [List.getD_eq_getElem?_getD, List.getElem?_set_ne (Ne.symm (hother hbatch)),
      ← List.getD_eq_getElem?_getD]
  · rfl

/-- The batch dimension is validated as a wildcard. -/
theorem validatedDims_batch (hfull : full ≠ []) : (validatedDims true full).getD 0 0 = -1 := by
  cases full with
  | nil => exact absurd rfl hfull
  | cons batchDim dims => rfl

theorem loweredDims_length : (loweredDims supportBatching full maxDims).length = full.length := by
  unfold loweredDims
  simp only
  split
  · rw [List.length_modify, List.length_map, List.length_range, validatedDims_length]
  · rw [List.length_map, List.length_range, validatedDims_length]

/-- The batch dimension is capped by the given one. -/
theorem loweredDims_batch (hfull : full ≠ []) :
    (loweredDims true full maxDims).getD 0 0 =
      if full.headD 0 = -1 then maxDims.dim 0 else min (maxDims.dim 0) (full.headD 0) := by
  cases full with
  | nil => exact absurd rfl hfull
  | cons batchDim dims =>
      by_cases hbatch : batchDim = -1
      · simp [loweredDims, validatedDims, prunedDim, wildcardDim, hbatch, List.range_succ_eq_map]
      · simp [loweredDims, validatedDims, prunedDim, wildcardDim, hbatch, List.range_succ_eq_map]

/-- Any other entry is the one of the configuration, or the maximum for a wildcard. -/
theorem loweredDims_getD {i : ℕ} (hi : i < full.length) (hother : supportBatching = true → i ≠ 0) :
    (loweredDims supportBatching full maxDims).getD i 0 =
      prunedDim (full.getD i 0) (maxDims.dim i) := by
  have hentry : ((List.range (validatedDims supportBatching full).length).map fun i =>
      prunedDim ((validatedDims supportBatching full).getD i 0) (maxDims.dim i))[i]? =
        some (prunedDim (full.getD i 0) (maxDims.dim i)) := by
    rw [List.getElem?_map, validatedDims_length, List.getElem?_range hi, Option.map_some,
      validatedDims_getD hother]
  unfold loweredDims
  simp only
  split
  · rename_i hbatch
    rw [List.getD_eq_getElem?_getD, List.getElem?_modify_ne _ _ (Ne.symm (hother hbatch.1)), hentry]
    rfl
  · rw [List.getD_eq_getElem?_getD, hentry]
    rfl

/-- What one call leaves of the maximum dims. -/
structure Lowered (supportBatching : Bool) (full : List ℤ) (minDims maxDims lowered : Dims) :
    Prop where
  ints : ∀ x ∈ dimsToDimVec maxDims, 0 ≤ x ∧ toInt32 x = x
  min_nonneg : ∀ i, 0 ≤ minDims.dim i
  valid : validateDimensionVec (validatedDims supportBatching full) minDims maxDims false = none
  written : dimsToDimVec lowered = (loweredDims supportBatching full maxDims).map toInt32

variable {lowered : Dims}

theorem Lowered.length (h : Lowered supportBatching full minDims maxDims lowered) :
    full.length = maxDims.nbDims := by
  have hlen : (validatedDims supportBatching full).length = full.length := validatedDims_length
  rw [← hlen]
  exact (validateDimensionVec_eq_none_iff.mp h.valid).1

theorem Lowered.nbDims (h : Lowered supportBatching full minDims maxDims lowered) :
    lowered.nbDims = full.length := by
  rw [← dimsToDimVec_length, h.written, List.length_map, loweredDims_length]

theorem Lowered.int (h : Lowered supportBatching full minDims maxDims lowered) {i : ℕ}
    (hi : i < full.length) : 0 ≤ maxDims.dim i ∧ toInt32 (maxDims.dim i) = maxDims.dim i := by
  have hi' : i < maxDims.nbDims := h.length ▸ hi
  apply h.ints
  rw [← dimsToDimVec_getD hi']
  exact mem_of_getD (by rw [dimsToDimVec_length]; exact hi')

theorem Lowered.dim (h : Lowered supportBatching full minDims maxDims lowered) {i : ℕ}
    (hi : i < full.length) :
    lowered.dim i = toInt32 ((loweredDims supportBatching full maxDims).getD i 0) := by
  have hlen : i < (loweredDims supportBatching full maxDims).length := by
    rw [loweredDims_length]
    exact hi
  rw [← dimsToDimVec_getD (h.nbDims ▸ hi), h.written, List.getD_eq_getElem _ 0 (by simpa using hlen),
    List.getElem_map, List.getD_eq_getElem _ 0 hlen]

/-- A wildcard stays at the maximum, and a fixed dim becomes it. -/
theorem Lowered.dim_other (h : Lowered supportBatching full minDims maxDims lowered) {i : ℕ}
    (hi : i < full.length) (hother : supportBatching = true → i ≠ 0) :
    full.getD i 0 = -1 ∧ lowered.dim i = maxDims.dim i ∨
      minDims.dim i ≤ full.getD i 0 ∧ lowered.dim i = full.getD i 0 := by
  obtain ⟨hmax, hint⟩ := h.int hi
  have hmin := h.min_nonneg i
  have hrange := (validateDimensionVec_eq_none_iff.mp h.valid).2 i (h.length ▸ hi)
  rw [validatedDims_getD hother] at hrange
  rw [h.dim hi, loweredDims_getD hi hother, prunedDim]
  rcases hrange with hwild | ⟨hlow, hhigh⟩
  · have hpruned : full.getD i 0 = wildcardDim := hwild
    rw [if_pos hpruned]
    exact Or.inl ⟨hwild, hint⟩
  · have hne : full.getD i 0 ≠ wildcardDim := by
      rw [wildcardDim]
      omega
    rw [if_neg hne]
    have hmaxInt := toInt32_eq_self_iff.mp hint
    exact Or.inr ⟨hlow, toInt32_eq_self (by omega) (by omega)⟩

/-- The dims are valid for the limits that were lowered to them. -/
theorem Lowered.valid_again (h : Lowered supportBatching full minDims maxDims lowered) :
    validateDimensionVec (validatedDims supportBatching full) minDims lowered false = none := by
  refine validateDimensionVec_eq_none_iff.mpr ⟨by rw [validatedDims_length, h.nbDims], ?_⟩
  intro i hi
  rw [h.nbDims] at hi
  by_cases hbatch : supportBatching = true ∧ i = 0
  · obtain ⟨rfl, rfl⟩ := hbatch
    exact Or.inl (validatedDims_batch (List.ne_nil_of_length_pos hi))
  · have hother : supportBatching = true → i ≠ 0 := fun hb hi0 => hbatch ⟨hb, hi0⟩
    rw [validatedDims_getD hother]
    rcases h.dim_other hi hother with ⟨hwild, -⟩ | ⟨hlow, hdim⟩
    · exact Or.inl hwild
    · exact Or.inr ⟨hlow, hdim.ge⟩

/-- **The fixed point**: lowering once more gives the same dims. -/
theorem Lowered.loweredDims_again (h : Lowered supportBatching full minDims maxDims lowered) :
    loweredDims supportBatching full lowered = loweredDims supportBatching full maxDims := by
  apply List.ext_getElem
  · rw [loweredDims_length, loweredDims_length]
  · intro i hlt hlt'
    have hi : i < full.length := by
      rw [loweredDims_length] at hlt
      exact hlt
    rw [← List.getD_eq_getElem _ 0, ← List.getD_eq_getElem _ 0]
    by_cases hbatch : supportBatching = true ∧ i = 0
    · obtain ⟨rfl, rfl⟩ := hbatch
      have hfull : full ≠ [] := List.ne_nil_of_length_pos hi
      obtain ⟨hmax, hint⟩ := h.int hi
      rw [loweredDims_batch hfull, loweredDims_batch hfull, h.dim hi, loweredDims_batch hfull]
      split
      · exact hint
      · exact min_toInt32_min hmax hint _
    · have hother : supportBatching = true → i ≠ 0 := fun hb hi0 => hbatch ⟨hb, hi0⟩
      rw [loweredDims_getD hi hother, loweredDims_getD hi hother, prunedDim, prunedDim]
      rcases h.dim_other hi hother with ⟨-, hdim⟩ | ⟨hlow, -⟩
      · rw [hdim]
      · have hmin := h.min_nonneg i
        have hne : full.getD i 0 ≠ wildcardDim := by
          rw [wildcardDim]
          omega
        rw [if_neg hne, if_neg hne]

end Again

/-! ### Writing the dims -/

/-- Dims that were written are written once more. -/
theorem dimVecToDims_again {dimVec : List ℤ} {dims out : Dims}
    (h : dimVecToDims dimVec dims = some out) : dimVecToDims dimVec out = some out := by
  unfold dimVecToDims at h ⊢
  split at h
  · rename_i hlen
    cases h
    have hdrop : (dimVec.map toInt32 ++ dims.d.drop dimVec.length).drop dimVec.length =
        dims.d.drop dimVec.length := List.drop_left' (List.length_map _)
    simp only [dif_pos hlen, hdrop]
  · cases h

/-- The maximum dims of a profile behind a write. -/
def writtenDims (dimVec : List ℤ) (maxDims : Dims) : Dims :=
  let dims := (dimVecToDims dimVec maxDims).getD maxDims
  if dims.nbDims = maxDims.nbDims then dims else maxDims

theorem writtenDims_again (dimVec : List ℤ) (maxDims : Dims) :
    writtenDims dimVec (writtenDims dimVec maxDims) = writtenDims dimVec maxDims := by
  by_cases hrank : ((dimVecToDims dimVec maxDims).getD maxDims).nbDims = maxDims.nbDims
  · cases hout : dimVecToDims dimVec maxDims with
    | none => simp only [writtenDims, hout, Option.getD_none, ite_self]
    | some out =>
        have hwritten : writtenDims dimVec maxDims = out := by
          rw [writtenDims, if_pos hrank, hout, Option.getD_some]
        rw [hwritten, writtenDims, dimVecToDims_again hout, Option.getD_some, if_pos rfl]
  · have hsame : writtenDims dimVec maxDims = maxDims := if_neg hrank
    rw [hsame, hsame]

theorem profileDims_setMaxDims (p : ProfileDims) (dimVec : List ℤ) :
    let q := p.setMaxDims ((dimVecToDims dimVec p.maxDims).getD p.maxDims)
    q.minDims = p.minDims ∧ q.optDims = p.optDims ∧ q.maxDims = writtenDims dimVec p.maxDims := by
  simp only [ProfileDims.setMaxDims, writtenDims]
  split
  · exact ⟨rfl, rfl, rfl⟩
  · exact ⟨rfl, rfl, rfl⟩

theorem profileDims_ext {p q : ProfileDims} (hmin : p.minDims = q.minDims)
    (hopt : p.optDims = q.optDims) (hmax : p.maxDims = q.maxDims) : p = q := by
  cases p
  cases q
  cases hmin
  cases hopt
  cases hmax
  rfl

/-- Writing the same dims again changes nothing. -/
theorem setMaxDims_again (ctx : TensorRTContext) (io : ℕ) (dimVec : List ℤ) :
    (ctx.setMaxDims io dimVec).setMaxDims io dimVec = ctx.setMaxDims io dimVec := by
  unfold TensorRTContext.setMaxDims
  simp only [List.modify_modify_eq]
  congr 1
  congr 1
  funext p
  let q := p.setMaxDims ((dimVecToDims dimVec p.maxDims).getD p.maxDims)
  obtain ⟨-, -, hmax⟩ := profileDims_setMaxDims p dimVec
  obtain ⟨hmin, hopt, hmax'⟩ := profileDims_setMaxDims q dimVec
  exact profileDims_ext hmin hopt (hmax'.trans (by rw [hmax, writtenDims_again]))

theorem setMaxDims_minDims (ctx : TensorRTContext) (io : ℕ) (dimVec : List ℤ) (io' : ℕ) :
    (ctx.setMaxDims io dimVec).minDims io' = ctx.minDims io' := by
  simp only [TensorRTContext.minDims, setMaxDims_dims, List.getD_eq_getElem?_getD,
    List.getElem?_modify]
  cases ctx.dims[io']? with
  | none => rfl
  | some p =>
      show (if io = io' then _ else p).minDims = p.minDims
      split
      · exact (profileDims_setMaxDims p dimVec).1
      · rfl

theorem setMaxDims_maxDims_eq (ctx : TensorRTContext) (io : ℕ) (dimVec : List ℤ) :
    (ctx.setMaxDims io dimVec).maxDims io = writtenDims dimVec (ctx.maxDims io) := by
  simp only [TensorRTContext.maxDims, setMaxDims_dims, List.getD_eq_getElem?_getD,
    List.getElem?_modify_eq]
  cases ctx.dims[io]? with
  | some p => exact (profileDims_setMaxDims p dimVec).2.2
  | none =>
      -- A binding without dims has rank 0, and nothing is written.
      cases dimVec with
      | nil => rfl
      | cons d dimVec =>
          show (default : ProfileDims).maxDims = writtenDims (d :: dimVec) (default : ProfileDims).maxDims
          unfold writtenDims
          cases hout : dimVecToDims (d :: dimVec) (default : ProfileDims).maxDims with
          | none => simp only [Option.getD_none, ite_self]
          | some out =>
              have hrank : out.nbDims ≠ (default : ProfileDims).maxDims.nbDims := by
                rw [dimVecToDims_nbDims hout]
                exact Nat.succ_ne_zero _
              simp only [Option.getD_some, if_neg hrank]

/-! ### A second call -/

section Call

variable {loader : Loader} {set io : ℕ} {ctx ctx' : TensorRTContext} {tensorName : String}
  {full maximum : List ℤ}

theorem lowered_of_eq_ok (hints : ∀ x ∈ dimsToDimVec (ctx.maxDims io), 0 ≤ x ∧ toInt32 x = x)
    (h : configureInputDimensions loader set ctx io tensorName full = .ok (ctx', maximum)) :
    Lowered loader.supportBatching full (ctx.minDims io) (ctx.maxDims io) (ctx'.maxDims io) := by
  obtain ⟨-, hvalid, rfl, rfl, -⟩ := configureInputDimensions_eq_ok_iff.mp h
  refine ⟨hints, ctx.minDims_nonneg io, hvalid, setMaxDims_maxDims ?_⟩
  rw [loweredDims_length, ← (validateDimensionVec_eq_none_iff.mp hvalid).1, validatedDims_length]

/-- **The second call**: on the limits a call has left, the same dims are accepted and lowered to
the same dims, provided TensorRT accepts these again. -/
theorem configureInputDimensions_lowered
    (hints : ∀ x ∈ dimsToDimVec (ctx.maxDims io), 0 ≤ x ∧ toInt32 x = x)
    (h : configureInputDimensions loader set ctx io tensorName full = .ok (ctx', maximum))
    {set' : ℕ} {c : TensorRTContext} (hmin : c.minDims io = ctx'.minDims io)
    (hmax : c.maxDims io = ctx'.maxDims io)
    (hset : (loader.calls set').setInputShape c.profileIdx io (ctx'.maxDims io) = true) :
    configureInputDimensions loader set' c io tensorName full =
      .ok (c.setMaxDims io maximum, maximum) := by
  have hlowered := lowered_of_eq_ok hints h
  obtain ⟨hfull, -, hmaximum, hctx', -⟩ := configureInputDimensions_eq_ok_iff.mp h
  have hminDims : ctx'.minDims io = ctx.minDims io := by rw [hctx', setMaxDims_minDims]
  refine configureInputDimensions_eq_ok_iff.mpr ⟨hfull, ?_, ?_, rfl, ?_⟩
  · rw [hmin, hmax, hminDims]
    exact hlowered.valid_again
  · rw [hmax, hlowered.loweredDims_again]
    exact hmaximum
  · rw [setMaxDims_maxDims_eq, hmax, hctx', setMaxDims_maxDims_eq, writtenDims_again,
      ← setMaxDims_maxDims_eq, ← hctx']
    exact hset

end Call

/-! ### One input in both buffer sets -/

/-- The limits of every binding are the same. -/
def SameLimits (ctx ctx' : TensorRTContext) : Prop :=
  ∀ io, ctx'.minDims io = ctx.minDims io ∧ ctx'.maxDims io = ctx.maxDims io

section Context

variable {lib : BackendCommon} {loader : Loader} {set set' io : ℕ} {t : BoundTensor}
  {inputDims : List ℤ} {isControl isRagged : Bool} {batchInput : Option BatchInput}
  {format : TensorFormat} {ctx ctx' c c' : TensorRTContext} {byteSize byteSize' : ℤ}

theorem configureContext_configured
    (h : configureContext lib loader set io t inputDims isControl isRagged batchInput format ctx =
      .ok (ctx', byteSize)) :
    ∃ maximum, configureInputDimensions loader set (ctx.markDynamic io t.shape) io t.name
        (fullConfigDim loader inputDims isRagged batchInput) = .ok (ctx', maximum) ∧
      byteSize = lib.byteSize t.dataType (format.bufferShape maximum) := by
  obtain ⟨-, -, h⟩ := bind_eq_ok.mp h
  obtain ⟨⟨lowered, maximum⟩, hconf, h⟩ := bind_eq_ok.mp h
  simp only at h
  split at h
  · cases h
  · obtain ⟨_, -, h⟩ := bind_eq_ok.mp h
    obtain ⟨rfl, rfl⟩ := Prod.mk.inj (pure_eq_ok.mp h)
    exact ⟨maximum, hconf, rfl⟩

/-- Only the maximum dims of the binding change. -/
theorem configureContext_frame
    (h : configureContext lib loader set io t inputDims isControl isRagged batchInput format ctx =
      .ok (ctx', byteSize)) (io' : ℕ) :
    ctx'.minDims io' = ctx.minDims io' ∧ (io ≠ io' → ctx'.maxDims io' = ctx.maxDims io') := by
  obtain ⟨maximum, hconf, -⟩ := configureContext_configured h
  obtain ⟨-, -, -, rfl, -⟩ := configureInputDimensions_eq_ok_iff.mp hconf
  refine ⟨(setMaxDims_minDims _ io maximum io').trans (markDynamic_minDims ctx io t.shape io'), ?_⟩
  intro hne
  rw [setMaxDims_maxDims_of_ne hne, markDynamic_maxDims]

/-- **The same bytes, and nothing changes**: a context that has the limits the first buffer set left
is configured alike for another one. -/
theorem configureContext_again (hctx : ctx.MaxDimsAreInts)
    (h : configureContext lib loader set io t inputDims isControl isRagged batchInput format ctx =
      .ok (ctx', byteSize))
    (hmax : c.maxDims io = ctx'.maxDims io)
    (h' : configureContext lib loader set' io t inputDims isControl isRagged batchInput format c =
      .ok (c', byteSize')) : byteSize' = byteSize ∧ SameLimits c c' := by
  obtain ⟨maximum, hconf, rfl⟩ := configureContext_configured h
  obtain ⟨maximum', hconf', rfl⟩ := configureContext_configured h'
  have hints : ∀ x ∈ dimsToDimVec ((ctx.markDynamic io t.shape).maxDims io),
      0 ≤ x ∧ toInt32 x = x := by
    rw [markDynamic_maxDims]
    exact hctx io
  have hlowered := lowered_of_eq_ok hints hconf
  obtain ⟨-, -, hmaximum, hctx', -⟩ := configureInputDimensions_eq_ok_iff.mp hconf
  obtain ⟨-, -, hmaximum', hc', -⟩ := configureInputDimensions_eq_ok_iff.mp hconf'
  have hsame : maximum' = maximum := by
    rw [hmaximum', hmaximum, markDynamic_maxDims, hmax, hlowered.loweredDims_again]
  refine ⟨by rw [hsame], fun io' => ⟨(configureContext_frame h' io').1, ?_⟩⟩
  by_cases hio : io = io'
  · rw [← hio, hc', hsame, setMaxDims_maxDims_eq, markDynamic_maxDims, hmax, hctx',
      setMaxDims_maxDims_eq, writtenDims_again]
  · exact (configureContext_frame h' io').2 hio

end Context

/-! ### The passes over the inputs -/

section Slots

variable {s : LoadState} {set io : ℕ} {slot : BindingSlot}

theorem slot_setSlot_self (hio : io < (s.ioBindingInfos.getD set []).length) :
    (s.setSlot set io slot).slot set io = slot := by
  rw [LoadState.slot, LoadState.setSlot, List.getD_eq_getElem?_getD, List.getD_eq_getElem?_getD,
    List.getElem?_modify_eq]
  rw [List.getD_eq_getElem?_getD] at hio
  cases hinfos : s.ioBindingInfos[set]? with
  | none =>
      rw [hinfos] at hio
      exact absurd hio (Nat.not_lt_zero io)
  | some infos =>
      rw [hinfos, Option.getD_some] at hio
      show ((infos.set io slot)[io]?).getD default = slot
      rw [List.getElem?_set_self hio, Option.getD_some]

theorem slot_setSlot_other {set' io' : ℕ} (hne : ¬ (set' = set ∧ io' = io)) :
    (s.setSlot set io slot).slot set' io' = s.slot set' io' := by
  rcases slot_setSlot s set io slot set' io' with ⟨hset, hio, -⟩ | hold
  · exact absurd ⟨hset, hio⟩ hne
  · exact hold

theorem setSlot_length (set' : ℕ) :
    ((s.setSlot set io slot).ioBindingInfos.getD set' []).length =
      (s.ioBindingInfos.getD set' []).length := by
  simp only [LoadState.setSlot, List.getD_eq_getElem?_getD, List.getElem?_modify]
  cases s.ioBindingInfos[set']? with
  | none => rfl
  | some infos =>
      show (if set = set' then infos.set io slot else infos).length = infos.length
      split
      · exact List.length_set
      · rfl

end Slots

section Pass

variable {lib : BackendCommon} {loader : Loader} {set set' io : ℕ} {final s s' : LoadState}

/-- What holds throughout the pass over `set` that is made before the one over `set'`. -/
structure FirstPass (loader : Loader) (set set' : ℕ) (s : LoadState) : Prop where
  maxDims_int : ∀ ctx ∈ s.trtContexts, ctx.MaxDimsAreInts
  slots : (s.ioBindingInfos.getD set []).length = loader.tensors.length
  other_slots : (s.ioBindingInfos.getD set' []).length = loader.tensors.length
  fresh : ∀ io, s.slot set' io = default

/-- The limits of the bindings that have been allocated are those at the end of the pass. -/
def Settled (set : ℕ) (final s : LoadState) : Prop :=
  List.Forall₂ (fun ctx c => ∀ io, c.minDims io = ctx.minDims io ∧
    ((s.slot set io).allocated = true → c.maxDims io = ctx.maxDims io))
    s.trtContexts final.trtContexts

/-- The state of the second pass compared with that of the first: the slots agree, and the limits
and the slots of the first pass are those at its end. -/
structure SecondPass (loader : Loader) (set set' : ℕ) (final s s' : LoadState) : Prop where
  slot : ∀ io, s'.slot set' io = s.slot set io
  slots : (s'.ioBindingInfos.getD set' []).length = loader.tensors.length
  old : ∀ io, s'.slot set io = final.slot set io
  limits : List.Forall₂ SameLimits final.trtContexts s'.trtContexts

/-- A pass over `set` and then one over `set'`. -/
def PassTwice (loader : Loader) (set set' : ℕ) (final : LoadState)
    (f g : LoadState → Result LoadState) : Prop :=
  Repeats (FirstPass loader set set') (Settled set final) (SecondPass loader set set' final) f g

/-- The slot of an input that has been given its buffer. -/
def boundSlot (loader : Loader) (isRagged : Bool) (maxByteSize : ℤ) (info : IOBindingInfo) :
    BindingSlot where
  info :=
    { info with
      byteSize := maxByteSize.toNat
      isBufferRagged := isRagged
      memoryType := if loader.zeroCopySupport then .cpuPinned else .gpu }
  allocated := true

theorem allocateInput_eq_boundSlot {inputName : String} {isRagged : Bool} {maxByteSize : ℤ}
    {info : IOBindingInfo} {slot : BindingSlot}
    (h : allocateInput loader set io inputName isRagged maxByteSize info = .ok slot) :
    slot = boundSlot loader isRagged maxByteSize info := by
  obtain ⟨-, -, h⟩ := bind_eq_ok.mp h
  obtain ⟨-, -, h⟩ := bind_eq_ok.mp h
  obtain ⟨-, -, h⟩ := bind_eq_ok.mp h
  obtain ⟨-, -, h⟩ := bind_eq_ok.mp h
  exact (pure_eq_ok.mp h).symm

variable {t : BoundTensor} {inputDatatype : String} {inputDims : List ℤ} {isControl isRagged : Bool}

/-- Everything a binding that succeeds does. -/
theorem bindInput_bound
    (h : bindInput lib loader set io t inputDatatype inputDims isControl isRagged s = .ok s') :
    (s.slot set io).allocated = false ∧ ∃ format configured,
      setFormat loader t (s.slot set io).info.format = .ok format ∧
      List.Forall₂ (fun ctx x => configureContext lib loader set io t inputDims isControl isRagged
        (s.slot set io).info.batchInput format ctx = .ok x) s.trtContexts configured ∧
      s' = { s with trtContexts := configured.map Prod.fst }.setSlot set io
        (boundSlot loader isRagged ((configured.map Prod.snd).foldl max 0)
          { (s.slot set io).info with format := format }) := by
  obtain ⟨_, hallocated, h⟩ := bind_eq_ok.mp h
  obtain ⟨-, -, h⟩ := bind_eq_ok.mp h
  obtain ⟨-, -, h⟩ := bind_eq_ok.mp h
  obtain ⟨format, hformat, h⟩ := bind_eq_ok.mp h
  obtain ⟨configured, hconfigured, h⟩ := bind_eq_ok.mp h
  obtain ⟨slot, hslot, h⟩ := bind_eq_ok.mp h
  obtain ⟨-, -, h⟩ := bind_eq_ok.mp h
  refine ⟨Bool.eq_false_of_not_eq_true (failIf_eq_ok.mp hallocated), format, configured, hformat,
    mapM_eq_ok.mp hconfigured, ?_⟩
  rw [← pure_eq_ok.mp h, allocateInput_eq_boundSlot hslot]

theorem bindInput_firstPass (hset : set ≠ set') (hs : FirstPass loader set set' s)
    {t₁ : LoadState}
    (h : bindInput lib loader set io t inputDatatype inputDims isControl isRagged s = .ok t₁) :
    FirstPass loader set set' t₁ := by
  obtain ⟨-, format, configured, -, hconfigured, rfl⟩ := bindInput_bound h
  constructor
  · intro ctx' hctx'
    obtain ⟨x, hx, rfl⟩ := List.mem_map.mp hctx'
    obtain ⟨ctx, hctx, hok⟩ := Related.exists_left hconfigured hx
    exact (configureContext_eq_ok (hs.maxDims_int ctx hctx) hok).1.areInts (hs.maxDims_int ctx hctx)
  · rw [setSlot_length]
    exact hs.slots
  · rw [setSlot_length]
    exact hs.other_slots
  · intro io'
    rw [slot_setSlot_other fun heq => hset heq.1.symm]
    exact hs.fresh io'

theorem bindInput_settled {t₁ : LoadState}
    (h : bindInput lib loader set io t inputDatatype inputDims isControl isRagged s = .ok t₁)
    (hend : Settled set final t₁) : Settled set final s := by
  obtain ⟨hfree, format, configured, -, hconfigured, rfl⟩ := bindInput_bound h
  refine Related.comp hconfigured (List.forall₂_map_left_iff.mp hend) ?_
  intro ctx x c hok hc io'
  obtain ⟨hmin, hother⟩ := configureContext_frame hok io'
  refine ⟨(hc io').1.trans hmin, fun hallocated => ?_⟩
  have hne : io ≠ io' := by
    intro heq
    rw [← heq, hfree] at hallocated
    exact Bool.noConfusion hallocated
  rw [← hother hne]
  refine (hc io').2 ?_
  rw [slot_setSlot_other fun heq => hne heq.2.symm]
  exact hallocated

/-- **The step lemma**: the second pass gives the binding the slot of the first. -/
theorem bindInput_agree (hset : set ≠ set') (ht : loader.tensors[io]? = some t)
    (hs : FirstPass loader set set' s) {t₁ t₂ : LoadState}
    (h : bindInput lib loader set io t inputDatatype inputDims isControl isRagged s = .ok t₁)
    (hend : Settled set final t₁) (hagree : SecondPass loader set set' final s s')
    (h' : bindInput lib loader set' io t inputDatatype inputDims isControl isRagged s' = .ok t₂) :
    SecondPass loader set set' final t₁ t₂ := by
  obtain ⟨-, format, configured, hformat, hconfigured, rfl⟩ := bindInput_bound h
  obtain ⟨-, format', configured', hformat', hconfigured', rfl⟩ := bindInput_bound h'
  have hio : io < loader.tensors.length := (List.getElem?_eq_some_iff.mp ht).1
  rw [hagree.slot io] at hformat' hconfigured'
  rw [hformat] at hformat'
  obtain rfl := Except.ok.inj hformat'
  -- What the first pass gave each context is settled: the binding is allocated now.
  have hfirst : List.Forall₂ (fun x c => ∃ ctx, ctx.MaxDimsAreInts ∧
      configureContext lib loader set io t inputDims isControl isRagged
        (s.slot set io).info.batchInput format ctx = .ok x ∧ c.maxDims io = x.1.maxDims io)
      configured final.trtContexts := by
    refine Related.imp_mem (List.forall₂_map_left_iff.mp hend) fun x hx c hc => ?_
    obtain ⟨ctx, hctx, hok⟩ := Related.exists_left hconfigured hx
    refine ⟨ctx, hs.maxDims_int ctx hctx, hok, (hc io).2 ?_⟩
    rw [slot_setSlot_self (by rw [← hs.slots] at hio; exact hio)]
    rfl
  have hsecond : List.Forall₂ (fun c x' => ∃ c', SameLimits c c' ∧
      configureContext lib loader set' io t inputDims isControl isRagged
        (s.slot set io).info.batchInput format c' = .ok x') final.trtContexts configured' :=
    Related.comp hagree.limits hconfigured' fun c c' x' hc hok => ⟨c', hc, hok⟩
  have hbytes : configured'.map Prod.snd = configured.map Prod.snd := by
    rw [eq_comm, ← List.forall₂_eq_eq_eq, List.forall₂_map_left_iff, List.forall₂_map_right_iff]
    refine Related.comp hfirst hsecond fun x c x' hx hx' => ?_
    obtain ⟨ctx, hints, hok, hmax⟩ := hx
    obtain ⟨c', hsame, hok'⟩ := hx'
    exact (configureContext_again hints hok ((hsame io).2.trans hmax) hok').1.symm
  have hlimits : List.Forall₂ SameLimits final.trtContexts (configured'.map Prod.fst) := by
    rw [List.forall₂_map_right_iff]
    refine Related.imp_mem hsecond fun c hc x' hx' => ?_
    obtain ⟨x, -, ctx, hints, hok, hmax⟩ := Related.exists_left hfirst hc
    obtain ⟨c', hsame, hok'⟩ := hx'
    have hagain := (configureContext_again hints hok ((hsame io).2.trans hmax) hok').2
    intro io'
    exact ⟨(hagain io').1.trans (hsame io').1, (hagain io').2.trans (hsame io').2⟩
  refine ⟨fun io' => ?_, ?_, fun io' => ?_, hlimits⟩
  · by_cases hne : io' = io
    · rw [hne, slot_setSlot_self (by rw [← hagree.slots] at hio; exact hio),
        slot_setSlot_self (by rw [← hs.slots] at hio; exact hio), hbytes, hagree.slot io]
    · rw [slot_setSlot_other fun heq => hne heq.2, slot_setSlot_other fun heq => hne heq.2]
      exact hagree.slot io'
  · rw [setSlot_length]
    exact hagree.slots
  · rw [slot_setSlot_other fun heq => hset heq.1]
    exact hagree.old io'

theorem bindInput_twice (hset : set ≠ set') (ht : loader.tensors[io]? = some t) :
    PassTwice loader set set' final
      (bindInput lib loader set io t inputDatatype inputDims isControl isRagged)
      (bindInput lib loader set' io t inputDatatype inputDims isControl isRagged) where
  inv h hs := bindInput_firstPass hset hs h
  settled h _ hend := bindInput_settled h hend
  agree h hs hend hagree h' := bindInput_agree hset ht hs h hend hagree h'

theorem initializeExecuteInputBinding_twice (hset : set ≠ set') (inputName : String)
    (isState : Bool) :
    PassTwice loader set set' final
      (initializeExecuteInputBinding lib loader set inputName inputDatatype inputDims isControl
        isRagged isState)
      (initializeExecuteInputBinding lib loader set' inputName inputDatatype inputDims isControl
        isRagged isState) := by
  unfold initializeExecuteInputBinding
  cases hindex : loader.ioIndex? inputName with
  | none => exact Repeats.fail fun _ => ⟨_, rfl⟩
  | some found =>
      obtain ⟨t, io⟩ := found
      refine Repeats.ite (fun {s s'} hagree => by rw [hagree.slot io]) Repeats.skip ?_
      by_cases hshape : t.isShapeInferenceIo = true
      · simp only [if_pos hshape]
        exact Repeats.skip
      · simp only [if_neg hshape]
        exact bindInput_twice hset (getElem?_of_ioIndex? hindex)

/-- Marking a batch input in both sets. -/
theorem setBatchInput_twice (hset : set ≠ set') (hio : io < loader.tensors.length)
    (batchInput : BatchInput) :
    PassTwice loader set set' final (fun s => .ok (s.setBatchInput set io batchInput))
      (fun s => .ok (s.setBatchInput set' io batchInput)) where
  inv {s t} h hs := by
    obtain rfl := Except.ok.inj h
    refine ⟨hs.maxDims_int, (setSlot_length set).trans hs.slots,
      (setSlot_length set').trans hs.other_slots, fun io' => ?_⟩
    rw [LoadState.setBatchInput, slot_setSlot_other fun heq => hset heq.1.symm]
    exact hs.fresh io'
  settled {s t} h hs hend := by
    obtain rfl := Except.ok.inj h
    refine List.Forall₂.imp (fun ctx c hc io' => ⟨(hc io').1, fun hallocated => (hc io').2 ?_⟩) hend
    by_cases hne : io' = io
    · rw [LoadState.setBatchInput, hne, slot_setSlot_self (by rw [← hs.slots] at hio; exact hio)]
      rw [hne] at hallocated
      exact hallocated
    · rw [LoadState.setBatchInput, slot_setSlot_other fun heq => hne heq.2]
      exact hallocated
  agree {s t s' t'} h hs hend hagree h' := by
    obtain rfl := Except.ok.inj h
    obtain rfl := Except.ok.inj h'
    refine ⟨fun io' => ?_, (setSlot_length set').trans hagree.slots, fun io' => ?_, hagree.limits⟩
    · by_cases hne : io' = io
      · rw [LoadState.setBatchInput, LoadState.setBatchInput, hne,
          slot_setSlot_self (by rw [← hagree.slots] at hio; exact hio),
          slot_setSlot_self (by rw [← hs.slots] at hio; exact hio), hagree.slot io]
      · rw [LoadState.setBatchInput, LoadState.setBatchInput,
          slot_setSlot_other fun heq => hne heq.2, slot_setSlot_other fun heq => hne heq.2]
        exact hagree.slot io'
    · rw [LoadState.setBatchInput, slot_setSlot_other fun heq => hset heq.1]
      exact hagree.old io'

theorem initializeBatchInputBinding_twice (hset : set ≠ set') (batchInput : ConfigBatchInput)
    (tensorName : String) :
    PassTwice loader set set' final
      (fun s => initializeBatchInputBinding lib loader set batchInput s tensorName)
      (fun s => initializeBatchInputBinding lib loader set' batchInput s tensorName) := by
  unfold initializeBatchInputBinding
  refine Repeats.read _ fun dims => ?_
  cases hindex : loader.ioIndex? tensorName with
  | none => exact Repeats.fail fun _ => ⟨_, rfl⟩
  | some found =>
      obtain ⟨t, io⟩ := found
      have hio := (List.getElem?_eq_some_iff.mp (getElem?_of_ioIndex? hindex)).1
      exact (setBatchInput_twice hset hio batchInput.toBatchInput).bind
        (initializeExecuteInputBinding_twice hset tensorName false)

/-- **The run lemma**: the pass over the inputs, made for two buffer sets. -/
theorem initInputBindings_twice (hset : set ≠ set') :
    PassTwice loader set set' final (initInputBindings lib loader set)
      (initInputBindings lib loader set') := by
  refine Repeats.read _ fun inputs => ?_
  refine Repeats.bind (Repeats.foldlM fun entry _ => ?_) (Repeats.bind
    (Repeats.foldlM fun control _ => ?_) (Repeats.bind (Repeats.foldlM fun batchInput _ => ?_)
      (Repeats.foldlM fun state _ => ?_)))
  · exact Repeats.read _ fun dataType => Repeats.read _ fun dims =>
      initializeExecuteInputBinding_twice hset entry.name false
  · exact initializeExecuteInputBinding_twice hset control.1 false
  · exact Repeats.foldlM fun tensorName _ =>
      initializeBatchInputBinding_twice hset batchInput tensorName
  · exact initializeExecuteInputBinding_twice hset state.inputName true

theorem sameLimits_refl (ctxs : List TensorRTContext) : List.Forall₂ SameLimits ctxs ctxs :=
  List.forall₂_same.mpr fun _ _ _ => ⟨rfl, rfl⟩

theorem start_slots (hset : set < loader.numCopyStreams) :
    (loader.start.ioBindingInfos.getD set []).length = loader.tensors.length := by
  simp only [Loader.start, List.getD_eq_getElem?_getD, List.getElem?_replicate, if_pos hset,
    Option.getD_some, List.length_replicate]

/-- After a load that succeeds all buffer sets have the same slots. -/
theorem initIoBindingBuffers_slots (hctx : ∀ ctx ∈ loader.trtContexts, ctx.MaxDimsAreInts)
    (h : initIoBindingBuffers lib loader = .ok s) (hset : set < loader.numCopyStreams) (io : ℕ) :
    s.slot set io = s.slot 0 io := by
  obtain ⟨t, hloop, h⟩ := bind_eq_ok.mp h
  obtain ⟨-, -, h⟩ := bind_eq_ok.mp h
  obtain rfl := pure_eq_ok.mp h
  by_cases hstream : loader.separateOutputStream = true
  · have htwo : loader.numCopyStreams = 2 := if_pos hstream
    rw [htwo] at hset hloop
    obtain ⟨first, hfirst, hloop⟩ := foldlM_cons_eq_ok.mp hloop
    obtain ⟨second, hsecond, hloop⟩ := foldlM_cons_eq_ok.mp hloop
    obtain rfl := pure_eq_ok.mp hloop
    have hstart : FirstPass loader 0 1 loader.start :=
      ⟨hctx, start_slots (by omega), start_slots (by omega), start_slot loader 1⟩
    have hsettled : Settled 0 first first :=
      List.forall₂_same.mpr fun _ _ _ => ⟨rfl, fun _ => rfl⟩
    have htwice : PassTwice loader 0 1 first (initInputBindings lib loader 0)
        (initInputBindings lib loader 1) := initInputBindings_twice zero_ne_one
    have hfinished := htwice.inv hfirst hstart
    have hbetween : SecondPass loader 0 1 first loader.start first :=
      ⟨fun io => (hfinished.fresh io).trans (start_slot loader 0 io).symm, hfinished.other_slots,
        fun _ => rfl, sameLimits_refl _⟩
    have hagree := htwice.agree hfirst hstart hsettled hbetween hsecond
    obtain rfl | rfl : set = 0 ∨ set = 1 := by omega
    · rfl
    · rw [hagree.slot io, hagree.old io]
  · have hone : loader.numCopyStreams = 1 := if_neg hstream
    obtain rfl : set = 0 := by omega
    rfl

end Pass

/-! ### A matrix with two buffer sets -/

/-- A loader for the matrix model that keeps a second buffer set and allows four rows. -/
def doubleLoader : Loader where
  name := "matrix"
  config := {
    maxBatchSize := 4
    input := some [{ name := "in", dataType := some "TYPE_FP32", dims := some [-1] }] }
  tensors := [{ name := "in", isInput := true, shape := matrixDims (-1) (-1),
                components_pos := linear_components_pos }]
  trtContexts := [matrixProfile 0 4 4, matrixProfile 1 4 10]
  separateOutputStream := true
  configDataType := fun s => if s = "TYPE_FP32" then .fp32 else .invalid
  contexts_ne := matrixProfiles_ne

end TensorrtBackend

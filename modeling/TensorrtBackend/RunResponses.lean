import TensorrtBackend.RunBatch

/-!
# Where the outputs end the process

The size of a response for a shape tensor is divided by the batch size of its request, which is read
from the shape of its first input.

* `runOutput_crashes_iff`: where one output ends the process.
-/

namespace TensorrtBackend

open EarlyReturn PayloadM

/-! ### The outputs -/

/-- The calls made for the batch size of a response. -/
def responseCalls (inst : Instance) : ℕ := if inst.supportBatching then 2 else 0

/-- `batchn_shape[0]` of a response: the batch size of its request, or without batching the first
dimension of the output. -/
def outputRows (inst : Instance) (dims : Dims) (request : Request) : ℤ :=
  if inst.supportBatching then batchDim request else dims.dim 0

/-- How the process dies at one response of a shape tensor's output, in the state `s`. -/
inductive ResponseFault (inst : Instance) (calls : RunCalls) (required : List (List String))
    (name : String) (dims : Dims) (idx : ℕ) (request : Request) (s : PayloadState) : Crash → Prop
  /-- The shape of the request's first input is read although a call for it failed. -/
  | unread : inst.supportBatching = true →
      calls.outcome s.calls ≠ none ∨ calls.outcome (s.calls + 1) ≠ none →
      ResponseFault inst calls required name dims idx request s .invalidRead
  /-- The output is answered, with a buffer, and has no rows. -/
  | noRows :
      (inst.supportBatching = true →
        calls.outcome s.calls = none ∧ calls.outcome (s.calls + 1) = none) →
      (s.slots.getD idx default).response = some true → name ∈ required.getD idx [] →
      calls.outcome (s.calls + responseCalls inst) = none →
      calls.outcome (s.calls + responseCalls inst + 2) = none → outputRows inst dims request = 0 →
      ResponseFault inst calls required name dims idx request s .zeroDivisor

section Outputs

variable {lib : BackendCommon} {inst : Instance} {indices : SetIndices} {calls : RunCalls}
  {requests : List Request} {required : List (List String)} {name : String} {dims : Dims} {idx : ℕ}
  {request : Request} {s : PayloadState} {kind : Crash}

theorem call_eq (calls : Calls) (s : PayloadState) :
    call calls s = (some (calls.outcome s.calls), { s with calls := s.calls + 1 }) := rfl

/-- The batch size of a response is read, or the process dies reading it. -/
theorem outputBatchSize_cases (inst : Instance) (calls : RunCalls) (dims : Dims) (idx : ℕ)
    (s : PayloadState) (hdimension : inst.supportBatching = true → firstShape request ≠ []) :
    (inst.supportBatching = true ∧
        (calls.outcome s.calls ≠ none ∨ calls.outcome (s.calls + 1) ≠ none) ∧
        ∃ t, outputBatchSize inst calls dims idx request s = (none, t) ∧
          t.crash = some .invalidRead) ∨
      ((inst.supportBatching = true →
          calls.outcome s.calls = none ∧ calls.outcome (s.calls + 1) = none) ∧
        outputBatchSize inst calls dims idx request s =
          (some (outputRows inst dims request), { s with calls := s.calls + responseCalls inst })) := by
  rw [outputBatchSize, outputRows, responseCalls]
  by_cases hbatch : inst.supportBatching = true
  · rw [if_pos hbatch, if_pos hbatch, if_pos hbatch]
    cases hfound : calls.outcome s.calls with
    | some err =>
        refine Or.inl ⟨hbatch, Or.inl (Option.some_ne_none err), ?_⟩
        have hdies : uncheckedInput calls s =
            (none, { s with calls := s.calls + 1, crash := some .invalidRead }) := by
          rw [uncheckedInput, bind_of_fall (call_eq _ s), hfound]
          rfl
        exact ⟨_, bind_of_ret hdies, rfl⟩
    | none =>
        have hcall : uncheckedInput calls s = (some (), { s with calls := s.calls + 1 }) := by
          rw [uncheckedInput, bind_of_fall (call_eq _ s), hfound]
          rfl
        rw [bind_of_fall hcall, bind_of_fall (call_eq _ _)]
        show (_ ∧ (_ ∨ calls.outcome (s.calls + 1) ≠ none) ∧ ∃ t, (do
            respondIfError idx (calls.outcome (s.calls + 1))
            if (calls.outcome (s.calls + 1)).isSome then crash .invalidRead
            else unlessCrash (firstDim (firstShape request)) : PayloadM ℤ)
              { s with calls := s.calls + 1 + 1 } = (none, t) ∧ _) ∨ (_ ∧ (do
            respondIfError idx (calls.outcome (s.calls + 1))
            if (calls.outcome (s.calls + 1)).isSome then crash .invalidRead
            else unlessCrash (firstDim (firstShape request)) : PayloadM ℤ)
              { s with calls := s.calls + 1 + 1 } = _)
        cases hproperties : calls.outcome (s.calls + 1) with
        | some err => exact Or.inl ⟨hbatch, Or.inr (Option.some_ne_none err), _, rfl, rfl⟩
        | none =>
            refine Or.inr ⟨fun _ => ⟨rfl, rfl⟩, ?_⟩
            rw [firstDim_firstShape (hdimension hbatch)]
            rfl
  · rw [if_neg hbatch, if_neg hbatch, if_neg hbatch]
    exact Or.inr ⟨fun h => absurd h hbatch, rfl⟩

/-- `SetOutputShapeTensorBuffer` ends the process when it gets a buffer for no rows. -/
theorem setOutputShapeTensorBuffer_crashes_iff (hs : s.crash = none) (tensorElementCount : ℕ)
    (batchSize : ℤ) :
    Crashes kind (setOutputShapeTensorBuffer calls idx tensorElementCount batchSize) s ↔
      kind = .zeroDivisor ∧ calls.outcome s.calls = none ∧ batchSize = 0 := by
  rw [setOutputShapeTensorBuffer, Crashes, returnsIn_bind_of_fall (call_eq _ s)]
  cases hbuffer : calls.outcome s.calls with
  | some err =>
      have halive : KeepsAlive (respondIfError idx (some err)) :=
        keepsAlive_bodyRule.respondIfError idx (some err)
      exact iff_of_false (halive.not_crashes (s := { s with calls := s.calls + 1 }) hs kind) (by simp)
  | none =>
      by_cases hrows : batchSize = 0
      · have hdies : unlessCrash (divideSizeT tensorElementCount batchSize)
            { s with calls := s.calls + 1 } =
              (none, { s with calls := s.calls + 1, crash := some .zeroDivisor }) := by
          rw [divideSizeT, if_pos hrows]
          rfl
        rw [returnsIn_bind]
        constructor
        · intro h
          rcases h with ⟨t, ht, hkind⟩ | ⟨_, _, ht, _⟩
          · rw [hdies] at ht
            cases ht
            cases hkind
            exact ⟨rfl, rfl, hrows⟩
          · rw [hdies] at ht
            cases ht
        · intro h
          obtain ⟨rfl, -, -⟩ := h
          exact Or.inl ⟨_, hdies, rfl⟩
      · have hfalls : unlessCrash (divideSizeT tensorElementCount batchSize)
            { s with calls := s.calls + 1 } =
              (some (tensorElementCount / toSizeT batchSize), { s with calls := s.calls + 1 }) := by
          rw [divideSizeT, if_neg hrows]
          rfl
        have hcopies : KeepsAlive (do
            let err ← foldEach (fun _ _ => call calls.toCalls) none (List.range batchSize.toNat)
            respondIfError idx err) :=
          keepsAlive_bodyRule.bind
            (keepsAlive_bodyRule.foldEach (fun _ _ => keepsAlive_bodyRule.call _) none _)
            fun err => keepsAlive_bodyRule.respondIfError idx err
        rw [returnsIn_bind_of_fall hfalls]
        exact iff_of_false (hcopies.not_crashes (s := { s with calls := s.calls + 1 }) hs kind)
          fun h => hrows h.2.2

/-- A response that is live behind `RESPOND_AND_SET_NULL_IF_ERROR` was live before, and there was no
error. -/
theorem respondIfError_live_iff (err : Option Error) :
    ((respondIfError idx err s).2.slots.getD idx default).response = some true ↔
      err = none ∧ (s.slots.getD idx default).response = some true := by
  cases err with
  | none => exact (and_iff_right rfl).symm
  | some err =>
      refine iff_of_false (fun h => ?_) (by simp)
      have hnulled : ((s.slots.modify idx (Slot.setNull err)).getD idx default).response =
          some true := h
      rw [List.getD_eq_getElem?_getD, List.getElem?_modify_eq] at hnulled
      cases hslot : s.slots[idx]? with
      | none =>
          rw [hslot] at hnulled
          cases hnulled
      | some slot =>
          rw [hslot] at hnulled
          have hset : (slot.setNull err).response = some true := hnulled
          unfold Slot.setNull at hset
          split at hset
          · cases hset
          · rename_i hnot
            exact hnot hset

/-- A call whose error, if any, is responded to one request. -/
theorem respondIfError_call (s : PayloadState) {α : Type} (f : PayloadM α) :
    (do respondIfError idx (← call calls.toCalls); f) s =
      f (respondIfError idx (calls.outcome s.calls) { s with calls := s.calls + 1 }).2 := by
  rw [bind_of_fall (call_eq _ s)]
  cases calls.outcome s.calls with
  | none => rfl
  | some err => rfl

theorem respondIfError_calls (err : Option Error) :
    (respondIfError idx err s).2.calls = s.calls := by
  cases err with
  | none => rfl
  | some err => rfl

theorem respondIfError_crash (err : Option Error) :
    (respondIfError idx err s).2.crash = s.crash := keepsAlive_bodyRule.respondIfError idx err s

/-- What is behind the batch size of a response: the process dies when the output is answered, with
a buffer, for no rows. -/
theorem answer_crashes_iff (hs : s.crash = none) (tensorElementCount : ℕ) (batchSize : ℤ) :
    Crashes kind (do
        respondIfError idx (← call calls.toCalls)
        let live ← responseLive idx
        onlyIf (live = true ∧ name ∈ required.getD idx []) (do
          respondIfError idx (← call calls.toCalls)
          setOutputShapeTensorBuffer calls idx tensorElementCount batchSize)) s ↔
      kind = .zeroDivisor ∧ (s.slots.getD idx default).response = some true ∧
        name ∈ required.getD idx [] ∧ calls.outcome s.calls = none ∧
        calls.outcome (s.calls + 2) = none ∧ batchSize = 0 := by
  let t := (respondIfError idx (calls.outcome s.calls) { s with calls := s.calls + 1 }).2
  have htcalls : t.calls = s.calls + 1 := respondIfError_calls _
  have htcrash : t.crash = none := (respondIfError_crash _).trans hs
  have htlive : (t.slots.getD idx default).response = some true ↔
      calls.outcome s.calls = none ∧ (s.slots.getD idx default).response = some true :=
    respondIfError_live_iff (s := { s with calls := s.calls + 1 }) _
  rw [Crashes, ReturnsIn, respondIfError_call]
  show Crashes kind (onlyIf (((t.slots.getD idx default).response == some true) = true ∧
    name ∈ required.getD idx []) _) t ↔ _
  rw [onlyIf]
  by_cases hasked : ((t.slots.getD idx default).response == some true) = true ∧
      name ∈ required.getD idx []
  · rw [if_pos hasked, Crashes, ReturnsIn, respondIfError_call, htcalls]
    obtain ⟨u, hu⟩ : ∃ u, u = (respondIfError idx (calls.outcome (s.calls + 1))
      { t with calls := s.calls + 1 + 1 }).2 := ⟨_, rfl⟩
    have hset : Crashes kind (setOutputShapeTensorBuffer calls idx tensorElementCount batchSize) u ↔
        kind = .zeroDivisor ∧ calls.outcome u.calls = none ∧ batchSize = 0 :=
      setOutputShapeTensorBuffer_crashes_iff (hu ▸ (respondIfError_crash _).trans htcrash) _ _
    rw [hu, respondIfError_calls] at hset
    obtain ⟨houtcome, hlive⟩ := htlive.mp (beq_iff_eq.mp hasked.1)
    refine Iff.trans hset ?_
    constructor
    · intro h
      exact ⟨h.1, hlive, hasked.2, houtcome, h.2.1, h.2.2⟩
    · intro h
      exact ⟨h.1, h.2.2.2.2.1, h.2.2.2.2.2⟩
  · rw [if_neg hasked]
    refine iff_of_false ((keepsAlive_bodyRule.pure ()).not_crashes htcrash kind) fun h => ?_
    exact hasked ⟨beq_iff_eq.mpr (htlive.mpr ⟨h.2.2.2.1, h.2.1⟩), h.2.2.1⟩

/-- **One response.** -/
theorem shapeOutputResponse_crashes_iff (hs : s.crash = none)
    (hdimension : inst.supportBatching = true → firstShape request ≠ []) :
    Crashes kind (shapeOutputResponse lib inst calls required name dims idx request) s ↔
      ResponseFault inst calls required name dims idx request s kind := by
  rcases outputBatchSize_cases inst calls dims idx s hdimension with
    ⟨hbatch, hfails, t, heq, ht⟩ | ⟨hread, heq⟩
  · have hrun : shapeOutputResponse lib inst calls required name dims idx request s = (none, t) :=
      bind_of_ret heq
    constructor
    · intro h
      obtain ⟨u, hu, hkind⟩ := h
      rw [hrun] at hu
      cases hu
      rw [ht] at hkind
      cases hkind
      exact .unread hbatch hfails
    · intro h
      cases h with
      | unread _ _ => exact ⟨t, hrun, ht⟩
      | noRows hread _ _ _ _ _ =>
          rcases hfails with hf | hf
          · exact absurd (hread hbatch).1 hf
          · exact absurd (hread hbatch).2 hf
  · rw [shapeOutputResponse, Crashes, returnsIn_bind_of_fall heq]
    refine Iff.trans (answer_crashes_iff (s := { s with calls := s.calls + responseCalls inst }) hs
      _ _) ?_
    constructor
    · intro h
      obtain ⟨rfl, hlive, hname, hcnt, hbuffer, hrows⟩ := h
      exact .noRows hread hlive hname hcnt hbuffer hrows
    · intro h
      cases h with
      | unread hbatch hfails =>
          rcases hfails with hf | hf
          · exact absurd (hread hbatch).1 hf
          · exact absurd (hread hbatch).2 hf
      | noRows _ hlive hname hcnt hbuffer hrows => exact ⟨rfl, hlive, hname, hcnt, hbuffer, hrows⟩

/-- Where a loop over indexed items dies. -/
theorem crashes_forEach_zipIdx {β : Type} {body : β × ℕ → PayloadM Unit} {l : List β}
    {s : PayloadState} : Crashes kind (forEach body l.zipIdx) s ↔
      ∃ i b t, l[i]? = some b ∧ forEach body (l.zipIdx.take i) s = (some (), t) ∧
        Crashes kind (body (b, i)) t := by
  rw [Crashes, returnsIn_forEach]
  constructor
  · intro h
    obtain ⟨i, x, t, hx, hpre, hcrash⟩ := h
    rw [List.getElem?_zipIdx, Option.map_eq_some_iff] at hx
    obtain ⟨b, hb, rfl⟩ := hx
    rw [Nat.zero_add] at hcrash
    exact ⟨i, b, t, hb, hpre, hcrash⟩
  · intro h
    obtain ⟨i, b, t, hb, hpre, hcrash⟩ := h
    refine ⟨i, (b, i), t, ?_, hpre, hcrash⟩
    rw [List.getElem?_zipIdx, hb, Option.map_some, Nat.zero_add]

/-- A check that lets the execution go on, or fails every request. -/
theorem crashes_check_iff {c : Prop} [Decidable c] {err : Error} {f : PayloadM Unit}
    (hs : s.crash = none) : Crashes kind (do onlyIf c (failAllAndReturn err); f) s ↔
      ¬ c ∧ Crashes kind f s := by
  by_cases hc : c
  · have hreturns : (do onlyIf c (failAllAndReturn err); f : PayloadM Unit) s =
        (none, { s with slots := s.slots.map (Slot.fail err) }) := by
      rw [onlyIf, if_pos hc]
      rfl
    refine iff_of_false (fun h => ?_) fun h => h.1 hc
    obtain ⟨t, ht, hkind⟩ := h
    rw [hreturns] at ht
    cases ht
    rw [hs] at hkind
    cases hkind
  · have hfalls : (do onlyIf c (failAllAndReturn err); f : PayloadM Unit) s = f s := by
      rw [onlyIf, if_neg hc]
      rfl
    rw [Crashes, ReturnsIn, hfalls]
    exact (and_iff_right hc).symm

theorem shapeOutputResponses_fallsAlive (dims : Dims) (l : List (Request × ℕ)) :
    FallsAlive (forEach (fun x => shapeOutputResponse lib inst calls required name dims x.2 x.1) l) :=
  fallsAlive_crashRule.forEach
    (fun x => shapeOutputResponse_keeps fallsAlive_crashRule required name dims x.2 x.1) l

/-- **The output of a shape tensor**: the process dies at one of its responses, once the checks on
the type and the first value have passed. -/
theorem runShapeOutput_crashes_iff {io : ℕ} {tensor : EngineTensor} (hs : s.crash = none)
    (hdimension : inst.supportBatching = true → ∀ request ∈ requests, firstShape request ≠ []) :
    Crashes kind (runShapeOutput lib inst calls requests required io tensor dims) s ↔
      tensor.dataType = .int64 ∧
        (inst.supportBatching = true → s.totalBatchSize = toSizeT (calls.firstShapeValue io)) ∧
        ∃ idx request t, requests[idx]? = some request ∧
          forEach (fun x => shapeOutputResponse lib inst calls required tensor.name dims x.2 x.1)
            (requests.zipIdx.take idx) s = (some (), t) ∧
          ResponseFault inst calls required tensor.name dims idx request t kind := by
  rw [runShapeOutput, crashes_check_iff hs, not_not, Crashes, returnsIn_bind_of_fall
    (show gets PayloadState.totalBatchSize s = (some s.totalBatchSize, s) from rfl)]
  refine and_congr_right fun _ => (crashes_check_iff hs).trans ?_
  refine and_congr ?_ (crashes_forEach_zipIdx.trans ?_)
  · rw [not_and, not_not]
  · constructor
    · intro h
      obtain ⟨idx, request, t, hidx, hpre, hcrash⟩ := h
      have ht : t.crash = none := shapeOutputResponses_fallsAlive dims _ s () t hs hpre
      exact ⟨idx, request, t, hidx, hpre, (shapeOutputResponse_crashes_iff ht
        fun hbatch => hdimension hbatch request (List.mem_of_getElem? hidx)).mp hcrash⟩
    · intro h
      obtain ⟨idx, request, t, hidx, hpre, hfault⟩ := h
      have ht : t.crash = none := shapeOutputResponses_fallsAlive dims _ s () t hs hpre
      exact ⟨idx, request, t, hidx, hpre, (shapeOutputResponse_crashes_iff ht
        fun hbatch => hdimension hbatch request (List.mem_of_getElem? hidx)).mpr hfault⟩

/-- The process is alive, with a total batch size. -/
def AliveWith (total : ℕ) (s : PayloadState) : Prop :=
  s.crash = none ∧ s.totalBatchSize = total

theorem aliveWith_triple {α : Type} {m : PayloadM α} (ha : KeepsAlive m) (ht : KeepsTotal m)
    (total : ℕ) : Triple (AliveWith total) m (fun _ => AliveWith total) fun t => t.crash = none := by
  intro s hs
  have hcrash := (ha s).trans hs.1
  have htotal := (ht s).trans hs.2
  cases hms : m s with
  | mk r t =>
      rw [hms] at hcrash htotal
      cases r with
      | none => exact hcrash
      | some a => exact ⟨hcrash, htotal⟩

/-- The output of any other tensor does not end the process: the total batch size is not zero. -/
theorem runRegularOutput_not_crashes {io : ℕ} {tensor : EngineTensor} (hs : s.crash = none)
    (htotal : s.totalBatchSize ≠ 0) :
    ¬ Crashes kind (runRegularOutput lib inst indices calls io tensor dims) s := by
  have hquiet : Triple (AliveWith s.totalBatchSize)
      (runRegularOutput lib inst indices calls io tensor dims) (fun _ => AliveWith s.totalBatchSize)
      fun t => t.crash = none := by
    refine Triple.bind (aliveWith_triple (keepsAlive_bodyRule.call _) (keepsTotal_bodyRule.call _) _)
      fun err => ?_
    refine Triple.bind (aliveWith_triple (keepsAlive_bodyRule.failAllIfError err)
      (keepsTotal_bodyRule.failAllIfError err) _) fun _ => ?_
    refine Triple.bind (Q := fun total t => total = s.totalBatchSize ∧ AliveWith s.totalBatchSize t)
      (Triple.gets fun t ht => ⟨ht.2, ht⟩) fun total => ?_
    refine Triple.bind (Q := fun _ => AliveWith s.totalBatchSize) ?_ fun batch1ByteSize => ?_
    · intro t ht
      obtain ⟨rfl, ht⟩ := ht
      by_cases hbatch : inst.supportBatching = true
      · rw [if_pos hbatch, divideSizeT, if_neg (Int.natCast_ne_zero.mpr htotal)]
        exact ht
      · rw [if_neg hbatch]
        exact ht
    · refine aliveWith_triple (regularOutput_keeps keepsAlive_bodyRule) ?_ _
      exact regularOutput_keeps keepsTotal_bodyRule
  intro h
  obtain ⟨t, ht, hkind⟩ := h
  have hend := hquiet s ⟨hs, rfl⟩
  rw [ht] at hend
  have hnone : t.crash = none := hend
  rw [hkind] at hnone
  cases hnone

/-- **One output.** -/
theorem runOutput_crashes_iff {io : ℕ} {tensor : EngineTensor} (hs : s.crash = none)
    (htotal : s.totalBatchSize ≠ 0) :
    Crashes kind (runOutput lib inst indices calls requests required io tensor) s ↔
      tensor.isInput = false ∧ tensor.isShapeInferenceIo = true ∧ (calls.outputDims io).nbDims ≠ 0 ∧
        Crashes kind (runShapeOutput lib inst calls requests required io tensor
          (calls.outputDims io)) s := by
  have hquiet : ∀ {m : PayloadM Unit}, KeepsAlive m → ¬ Crashes kind m s :=
    fun h => h.not_crashes hs kind
  unfold runOutput
  by_cases hin : tensor.isInput = true
  · rw [if_pos hin]
    exact iff_of_false (hquiet (keepsAlive_bodyRule.pure ()))
      fun h => Bool.noConfusion (h.1.symm.trans hin)
  · rw [if_neg hin]
    by_cases hshape : tensor.isShapeInferenceIo = true
    · rw [if_pos hshape, onlyIf]
      by_cases hdims : (calls.outputDims io).nbDims ≠ 0
      · rw [if_pos hdims]
        constructor
        · intro h
          exact ⟨Bool.eq_false_of_not_eq_true hin, hshape, hdims, h⟩
        · intro h
          exact h.2.2.2
      · rw [if_neg hdims]
        exact iff_of_false (hquiet (keepsAlive_bodyRule.pure ())) fun h => hdims h.2.2.1
    · rw [if_neg hshape]
      refine iff_of_false ?_ fun h => hshape h.2.1
      by_cases hragged : (ioBindingInfo inst indices io).isBufferRagged = true
      · rw [if_pos hragged]
        exact hquiet (collected_keeps keepsAlive_bodyRule _)
      · rw [if_neg hragged]
        exact runRegularOutput_not_crashes hs htotal

end Outputs

end TensorrtBackend

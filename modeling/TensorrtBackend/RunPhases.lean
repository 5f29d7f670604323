import TensorrtBackend.Run

/-!
# The phases of an execution

`Run` behind the responses is put together from the primitives of a body, and so are the reading of
the requested outputs and, with the few places where the process can die, the outputs.  A property
of bodies that the primitives have and sequencing keeps is one of every phase. -/

namespace TensorrtBackend

open EarlyReturn PayloadM

section Phases

variable {lib : BackendCommon} {inst : Instance} {indices : SetIndices} {calls : RunCalls}
  {requests : List Request}

section Rule

variable {K : {α : Type} → PayloadM α → Prop} (hK : BodyRule K)

include hK

theorem onlyIf_keeps {c : Prop} [Decidable c] {m : PayloadM Unit} (h : K m) :
    K (onlyIf c m) := hK.ite h (hK.pure ())

theorem collected_keeps (calls : Calls) :
    K (do let _ ← collect calls; pure () : PayloadM Unit) :=
  hK.bind (hK.collect calls) fun _ => hK.pure ()

theorem requestInput_keeps (request : Request) (name : String) :
    K (requestInput calls request name) := by
  apply hK.checkedCall
  cases request.input? name with
  | none => exact hK.failAllAndReturn _
  | some input =>
      exact hK.checkedCall _ (hK.pure input)

theorem setBinding_keeps (citr : TensorRTContext) (io : ℕ) (name : String) (shape : List ℤ) :
    K (setBinding inst calls citr io name shape) := by
  refine hK.bind (hK.gets _) fun key => ?_
  refine hK.bind (hK.setInputDims _) fun _ => ?_
  exact hK.failAllIfError _

theorem fillBatchInput_keeps (io : ℕ) (batchInput : BatchInput) :
    K (fillBatchInput inst indices calls io batchInput) := by
  apply hK.checkedCall
  apply hK.checkedCollect
  refine onlyIf_keeps hK (hK.bind (hK.call _) fun err => ?_)
  exact hK.failAllIfError err

theorem runRaggedInput_keeps (citr : TensorRTContext) (io : ℕ) (name : String) :
    K (runRaggedInput lib inst calls requests citr io name) := by
  refine hK.bind (hK.foldEach (fun ragged request => ?_) (none, 0) requests) fun ragged => ?_
  · refine hK.bind (requestInput_keeps hK request name) fun input => ?_
    exact hK.checkedCall _ (hK.pure _)
  · refine hK.bind (setBinding_keeps hK citr io name _) fun _ => ?_
    apply hK.checkedCall
    exact hK.bind (hK.collect _) fun _ => hK.pure _

theorem runRegularInput_keeps (citr : TensorRTContext) (total io : ℕ) (name : String) :
    K (runRegularInput lib inst indices calls requests citr total io name) := by
  refine hK.bind (requestInput_keeps hK _ name) fun input => ?_
  refine hK.bind (setBinding_keeps hK citr io name _) fun _ => ?_
  apply hK.checkedCall
  refine hK.bind (onlyIf_keeps hK (hK.failAllAndReturn _)) fun _ => ?_
  exact hK.bind (hK.collect _) fun _ => hK.pure _

theorem runInput_keeps (citr : TensorRTContext) (values : ShapeValueMap) (total io : ℕ)
    (tensor : EngineTensor) :
    K (runInput lib inst indices calls requests citr values total io tensor) := by
  refine hK.ite (hK.pure ()) (hK.ite ?_ ?_)
  · -- a shape tensor
    unfold runShapeInput
    cases values io with
    | none => exact hK.failAllAndReturn _
    | some value => exact hK.failAllIfError _
  · cases (ioBindingInfo inst indices io).batchInput with
    | some batchInput =>
        apply hK.checkedCall
        refine hK.bind (setBinding_keeps hK citr io _ _) fun _ => ?_
        exact fillBatchInput_keeps hK io batchInput
    | none =>
        refine hK.ite ?_ ?_
        · exact hK.bind (runRaggedInput_keeps hK citr io _) fun _ => hK.pure ()
        · exact hK.bind (runRegularInput_keeps hK citr total io _) fun _ => hK.pure ()

theorem runInputs_keeps (citr : TensorRTContext) (values : ShapeValueMap) (total : ℕ) :
    K (runInputs lib inst indices calls requests citr values total) := by
  refine hK.bind (hK.forEach (fun x => ?_) _) fun _ => collected_keeps hK _
  exact runInput_keeps hK citr values total x.2 x.1

theorem graphInput_keeps (citr : TensorRTContext) (graph : CudaGraph) (inputIdx io : ℕ)
    (tensor : EngineTensor) :
    K (graphInput inst indices calls citr graph inputIdx io tensor) := by
  refine hK.ite (hK.pure inputIdx) ?_
  refine hK.bind (hK.failAllIfError _) fun _ => ?_
  cases (ioBindingInfo inst indices io).batchInput with
  | some batchInput =>
      exact hK.bind (fillBatchInput_keeps hK io batchInput) fun _ => hK.pure _
  | none => exact hK.bind (hK.pure ()) fun _ => hK.pure _

theorem selectGraph_keeps (citr : TensorRTContext) :
    K (selectGraph inst indices calls citr) := by
  refine hK.bind (hK.gets _) fun inputDims => ?_
  split
  · refine hK.bind (hK.foldEach (fun inputIdx x => ?_) 0 _) fun _ => hK.pure _
    exact graphInput_keeps hK citr _ inputIdx x.2 x.1
  · exact hK.pure _

theorem failAllWith_keeps (message : Error → String) :
    K (failAllWith calls message) := by
  refine hK.bind (hK.call _) fun err => ?_
  cases err with
  | none => exact hK.pure ()
  | some err => exact hK.failAllAndReturn _

theorem launch_keeps (graph : Option CudaGraph) : K (launch inst calls graph) := by
  cases graph with
  | some graph => exact failAllWith_keeps hK _
  | none => exact hK.bind (failAllWith_keeps hK _) fun _ => failAllWith_keeps hK _

theorem requestOutputs_keeps (idx : ℕ) (request : Request) :
    K (requestOutputs calls idx request) := by
  refine hK.bind (hK.responseLive idx) fun live => ?_
  refine hK.ite ?_ (hK.pure [])
  apply hK.respondingCall
  refine hK.bind (hK.responseLive idx) fun live => ?_
  refine hK.ite (hK.foldEach (fun names name => ?_) [] _) (hK.pure [])
  apply hK.respondingCall
  refine hK.bind (hK.responseLive idx) fun live => ?_
  exact hK.ite (hK.pure _) (hK.pure _)

theorem requiredOutputs_keeps : K (requiredOutputs calls requests) := by
  refine hK.foldEach (fun required x => ?_) [] _
  exact hK.bind (requestOutputs_keeps hK x.2 x.1) fun _ => hK.pure _


/-- What is behind the division of a regular output. -/
theorem regularOutput_keeps {c : Prop}
    [Decidable c] {err : Error} {requested state : Bool} {updates : List (Option Error)} :
    K (do
      onlyIf c (failAllAndReturn err)
      onlyIf (requested = true) (do
        let _ ← collect calls.toCalls)
      onlyIf (state = true) (do
        let _ ← collect calls.toCalls
        modify fun s => { s with seqStates := s.seqStates ++ updates })) := by
  refine hK.bind (onlyIf_keeps hK (hK.failAllAndReturn _)) fun _ => ?_
  refine hK.bind (onlyIf_keeps hK (collected_keeps hK _)) fun _ => ?_
  exact onlyIf_keeps hK (hK.bind (hK.collect _) fun _ => hK.addSeqStates _)

end Rule

section CrashRule

variable {K : {α : Type} → PayloadM α → Prop} (hK : CrashRule K)

include hK

theorem uncheckedInput_keeps : K (uncheckedInput calls) := by
  refine hK.bind (hK.call _) fun err => ?_
  cases err with
  | none => exact hK.pure ()
  | some err => exact hK.crash _

theorem setOutputShapeTensorBuffer_keeps (idx tensorElementCount : ℕ) (batchSize : ℤ) :
    K (setOutputShapeTensorBuffer calls idx tensorElementCount batchSize) := by
  refine hK.bind (hK.call _) fun err => ?_
  cases err with
  | some err => exact hK.respondIfError idx _
  | none =>
      refine hK.bind (hK.unlessCrash _) fun _ => ?_
      refine hK.bind (hK.foldEach (fun _ _ => hK.call _) none _) fun err => ?_
      exact hK.respondIfError idx err

theorem outputBatchSize_keeps (dims : Dims) (idx : ℕ) (request : Request) :
    K (outputBatchSize inst calls dims idx request) := by
  refine hK.ite (hK.bind (uncheckedInput_keeps hK) fun _ => ?_) (hK.pure _)
  refine hK.bind (hK.call _) fun err => ?_
  refine hK.bind (hK.respondIfError idx err) fun _ => ?_
  exact hK.ite (hK.crash _) (hK.unlessCrash _)

theorem shapeOutputResponse_keeps (required : List (List String)) (name : String) (dims : Dims)
    (idx : ℕ) (request : Request) :
    K (shapeOutputResponse lib inst calls required name dims idx request) := by
  refine hK.bind (outputBatchSize_keeps hK dims idx request) fun batchSize => ?_
  apply hK.respondingCall
  refine hK.bind (hK.responseLive idx) fun live => ?_
  apply onlyIf_keeps hK.toBodyRule
  apply hK.respondingCall
  exact setOutputShapeTensorBuffer_keeps hK idx _ batchSize

theorem runShapeOutput_keeps (required : List (List String)) (io : ℕ) (tensor : EngineTensor)
    (dims : Dims) : K (runShapeOutput lib inst calls requests required io tensor dims) := by
  refine hK.bind (onlyIf_keeps hK.toBodyRule (hK.failAllAndReturn _)) fun _ => ?_
  refine hK.bind (hK.gets _) fun total => ?_
  refine hK.bind (onlyIf_keeps hK.toBodyRule (hK.failAllAndReturn _)) fun _ => ?_
  refine hK.forEach (fun x => ?_) _
  exact shapeOutputResponse_keeps hK required _ _ x.2 x.1

theorem runOutput_keeps (required : List (List String)) (io : ℕ) (tensor : EngineTensor) :
    K (runOutput lib inst indices calls requests required io tensor) := by
  refine hK.ite (hK.pure ()) (hK.ite (onlyIf_keeps hK.toBodyRule ?_) (hK.ite ?_ ?_))
  · exact runShapeOutput_keeps hK required io tensor _
  · exact collected_keeps hK.toBodyRule _
  · apply hK.checkedCall
    refine hK.bind (hK.gets _) fun total => ?_
    refine hK.bind (hK.unlessCrash _) fun batch1ByteSize => ?_
    exact regularOutput_keeps hK.toBodyRule

end CrashRule

end Phases

/-! ### What a phase leaves alone -/

/-- The total batch size is not assigned to. -/
def KeepsTotal {α : Type} (m : PayloadM α) : Prop :=
  ∀ s, (m s).2.totalBatchSize = s.totalBatchSize

/-- The process does not die. -/
def KeepsAlive {α : Type} (m : PayloadM α) : Prop := ∀ s, (m s).2.crash = s.crash

/-- A component of the state that none of the primitives assigns to is kept. -/
theorem keeps_bodyRule {γ : Type} (f : PayloadState → γ)
    (hslots : ∀ s slots calls, f { s with slots := slots, calls := calls } = f s)
    (hdims : ∀ s dims, f { s with inputDims := dims } = f s)
    (hstates : ∀ s states, f { s with seqStates := states } = f s) :
    BodyRule fun {α} (m : PayloadM α) => ∀ s, f (m s).2 = f s where
  pure _ _ := rfl
  gets _ _ := rfl
  bind {α β m g} hm hg s := by
    have hfirst := hm s
    cases hms : m s with
    | mk r t =>
        rw [hms] at hfirst
        cases r with
        | none =>
            rw [bind_of_ret hms]
            exact hfirst
        | some a =>
            rw [bind_of_fall hms]
            exact (hg a t).trans hfirst
  call _ s := hslots s s.slots _
  collect _ s := hslots s _ _
  failAllAndReturn _ s := hslots s _ s.calls
  respondIfError r err s := by
    cases err with
    | none => rfl
    | some err => exact hslots s _ s.calls
  setInputDims g s := hdims s (g s)
  addSeqStates states s := hstates s (s.seqStates ++ states)

theorem keepsTotal_bodyRule : BodyRule @KeepsTotal :=
  keeps_bodyRule _ (fun _ _ _ => rfl) (fun _ _ => rfl) fun _ _ => rfl

theorem keepsTotal_crashRule : CrashRule @KeepsTotal where
  toBodyRule := keepsTotal_bodyRule
  crash _ _ := rfl

theorem keepsAlive_bodyRule : BodyRule @KeepsAlive :=
  keeps_bodyRule _ (fun _ _ _ => rfl) (fun _ _ => rfl) fun _ _ => rfl

/-- Where the body falls through the process is alive. -/
def FallsAlive {α : Type} (m : PayloadM α) : Prop :=
  ∀ s a t, s.crash = none → m s = (some a, t) → t.crash = none

theorem KeepsAlive.fallsAlive {α : Type} {m : PayloadM α} (h : KeepsAlive m) : FallsAlive m := by
  intro s a t hs hm
  have hkept := h s
  rw [hm] at hkept
  exact hkept.trans hs

theorem fallsAlive_crashRule : CrashRule @FallsAlive where
  pure a := (keepsAlive_bodyRule.pure a).fallsAlive
  gets f := (keepsAlive_bodyRule.gets f).fallsAlive
  bind {α β m f} hm hf := by
    intro s b t hs hrun
    cases hms : m s with
    | mk r u =>
        cases r with
        | none =>
            rw [bind_of_ret hms] at hrun
            cases hrun
        | some a =>
            rw [bind_of_fall hms] at hrun
            exact hf a u b t (hm s a u hs hms) hrun
  call calls := (keepsAlive_bodyRule.call calls).fallsAlive
  collect calls := (keepsAlive_bodyRule.collect calls).fallsAlive
  failAllAndReturn err := (keepsAlive_bodyRule.failAllAndReturn err).fallsAlive
  respondIfError r err := (keepsAlive_bodyRule.respondIfError r err).fallsAlive
  setInputDims f := (keepsAlive_bodyRule.setInputDims f).fallsAlive
  addSeqStates states := (keepsAlive_bodyRule.addSeqStates states).fallsAlive
  crash kind := by
    intro s a t hs hrun
    cases hrun

/-- The process dies in the body, of `kind`. -/
def Crashes (kind : Crash) {α : Type} (m : PayloadM α) (s : PayloadState) : Prop :=
  ReturnsIn (fun t => t.crash = some kind) m s

theorem KeepsAlive.not_crashes {α : Type} {m : PayloadM α} (h : KeepsAlive m) {s : PayloadState}
    (hs : s.crash = none) (kind : Crash) : ¬ Crashes kind m s := by
  intro hcrash
  obtain ⟨t, ht, hkind⟩ := hcrash
  have hkept := h s
  rw [ht, hs, hkind] at hkept
  cases hkept

end TensorrtBackend

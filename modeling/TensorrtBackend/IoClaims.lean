import TensorrtBackend.IoBindings
import TensorrtBackend.Lib.Transition

/-!
# Claims on the tensors

What the initialisers do to the table comes down to this: an entry of the configuration visits the
tensor it names, and either claims it, finds it claimed, or passes by.  `ioClaims` is the machine of
these visits.  A shape input that needs no bytes is visited without being claimed.

* `run_claimed`: a tensor is claimed once at most, under its own name.
* `run_visited`: what each visit of a run has brought about.
-/

namespace TensorrtBackend

/-! ### Visits -/

/-- For which entry a tensor is visited. -/
inductive IoAction
  | shapeInput (i : ℕ)
  | executeInput (entry : ConfigEntry)
  | stateInput (i : ℕ)
  | batchOutput
  | output (i : ℕ)
  | stateOutput (i : ℕ)

/-- A visit to the tensor of the given name in one buffer set. -/
structure IoVisit where
  set : ℕ
  name : String
  action : IoAction

/-- The names and the claims. -/
structure IoView where
  names : ℕ → ℕ → String
  allocations : List Allocation

namespace IoView

/-- The tensor is claimed. -/
def taken (v : IoView) (set io : ℕ) : Bool :=
  v.allocations.any fun a => decide (a.set = set ∧ a.io = io)

/-- The tensor is given its name. -/
def setName (v : IoView) (set io : ℕ) (name : String) : IoView :=
  { v with names := Function.update v.names set (Function.update (v.names set) io name) }

/-- The tensor is claimed for an entry. -/
def claim (v : IoView) (set io : ℕ) (entry : ConfigEntry) : IoView :=
  { v with allocations := v.allocations ++ [⟨set, io, entry⟩] }

variable {v : IoView} {set io set' io' : ℕ} {name : String} {entry : ConfigEntry}

theorem taken_iff : v.taken set io = true ↔ ∃ a ∈ v.allocations, a.set = set ∧ a.io = io := by
  simp only [taken, List.any_eq_true, decide_eq_true_eq]

@[simp] theorem allocations_setName : (v.setName set io name).allocations = v.allocations := rfl

@[simp] theorem taken_setName : (v.setName set io name).taken set' io' = v.taken set' io' := rfl

@[simp] theorem names_claim : (v.claim set io entry).names = v.names := rfl

theorem names_setName_self : (v.setName set io name).names set io = name := by
  show Function.update v.names set (Function.update (v.names set) io name) set io = name
  rw [ Function.update_self, Function.update_self]

theorem names_setName_other (hne : ¬ (set' = set ∧ io' = io)) :
    (v.setName set io name).names set' io' = v.names set' io' := by
  show Function.update v.names set (Function.update (v.names set) io name) set' io' = _
  by_cases hset : set' = set
  · subst hset
    rw [Function.update_self, Function.update_of_ne fun h => hne ⟨rfl, h⟩]
  · rw [Function.update_of_ne hset]

theorem taken_claim : (v.claim set io entry).taken set' io' =
    (v.taken set' io' || decide (set = set' ∧ io = io')) := by
  rw [taken, claim, List.any_append, taken, List.any_cons, List.any_nil, Bool.or_false]

end IoView

/-- The claims of the load: the step for a visit, `none` where the load fails. -/
def ioVisit (loader : IoLoader) (needsBuffer : ℕ → ℕ → Bool) (v : IoView) (visit : IoVisit) :
    Option IoView :=
  match loader.ioIndex? visit.name with
  | none => none
  | some (t, io) =>
    let named := v.setName visit.set io t.name
    let taken := v.taken visit.set io
    match visit.action with
    | .shapeInput i =>
        if taken || !t.isInput then none
        else if t.isShapeInferenceIo && needsBuffer visit.set io then
          some (named.claim visit.set io (.input i))
        else some named
    | .executeInput entry =>
        if t.isShapeInferenceIo then some named
        else if taken || !t.isInput then none
        else some (named.claim visit.set io entry)
    | .stateInput i =>
        if taken || t.isShapeInferenceIo then some named
        else if t.isInput then some (named.claim visit.set io (.state i))
        else none
    | .batchOutput => if t.isShapeInferenceIo then none else some named
    | .output i =>
        if taken || t.isInput then none else some (named.claim visit.set io (.output i))
    | .stateOutput i =>
        if taken then some named
        else if t.isInput then none
        else some (named.claim visit.set io (.state i))

/-- The machine of the visits, from a table without names and claims. -/
def ioClaims (loader : IoLoader) (needsBuffer : ℕ → ℕ → Bool) : StepSystem IoView IoVisit where
  init := fun v => v = ⟨fun _ _ => "", []⟩
  step := ioVisit loader needsBuffer

section Run

variable {loader : IoLoader} {needsBuffer : ℕ → ℕ → Bool} {v v' : IoView} {visit : IoVisit}

/-! ### One visit -/

/-- Who may claim a tensor for which entry. -/
def IoAction.MayClaim (needsBuffer : Bool) (t : BoundTensor) (entry : ConfigEntry) :
    IoAction → Prop
  | .shapeInput i =>
      entry = .input i ∧ t.isInput = true ∧ t.isShapeInferenceIo = true ∧ needsBuffer = true
  | .executeInput e => entry = e ∧ t.isInput = true ∧ t.isShapeInferenceIo = false
  | .stateInput i => entry = .state i ∧ t.isInput = true ∧ t.isShapeInferenceIo = false
  | .batchOutput => False
  | .output i => entry = .output i ∧ t.isInput = false
  | .stateOutput i => entry = .state i ∧ t.isInput = false

/-- An entry that `InitializeExecuteInputBinding` alone is called for and that may not find its
tensor claimed. -/
def ConfigEntry.OnlyExecuteInput : ConfigEntry → Prop
  | .control _ | .batchInput _ _ => True
  | .input _ | .output _ | .state _ => False

/-- A sequence control or a batch input claims no shape tensor. -/
theorem IoAction.MayClaim.not_shape {action : IoAction} {needs : Bool} {t : BoundTensor}
    {entry : ConfigEntry} (h : action.MayClaim needs t entry) (hentry : entry.OnlyExecuteInput) :
    t.isShapeInferenceIo = false := by
  cases action with
  | shapeInput i =>
      rw [h.1] at hentry
      exact hentry.elim
  | executeInput e => exact h.2.2
  | stateInput i => exact h.2.2
  | batchOutput => exact h.elim
  | output i =>
      rw [h.1] at hentry
      exact hentry.elim
  | stateOutput i =>
      rw [h.1] at hentry
      exact hentry.elim

/-- A shape input is claimed only if it needs bytes. -/
theorem IoAction.MayClaim.has_bytes {action : IoAction} {needs : Bool} {t : BoundTensor}
    {entry : ConfigEntry} (h : action.MayClaim needs t entry) (hinput : t.isInput = true)
    (hshape : t.isShapeInferenceIo = true) : needs = true := by
  cases action with
  | shapeInput i => exact h.2.2.2
  | executeInput e => exact Bool.noConfusion (hshape.symm.trans h.2.2)
  | stateInput i => exact Bool.noConfusion (hshape.symm.trans h.2.2)
  | batchOutput => exact h.elim
  | output i => exact Bool.noConfusion (hinput.symm.trans h.2)
  | stateOutput i => exact Bool.noConfusion (hinput.symm.trans h.2)

/-- When a visit leaves the claims as they are. -/
def IoAction.MayPass (needsBuffer taken : Bool) (t : BoundTensor) : IoAction → Prop
  | .shapeInput _ =>
      t.isInput = true ∧ (t.isShapeInferenceIo = true → needsBuffer = false)
  | .executeInput _ => t.isShapeInferenceIo = true
  | .stateInput _ => taken = true ∨ t.isShapeInferenceIo = true
  | .batchOutput => t.isShapeInferenceIo = false
  | .output _ => False
  | .stateOutput _ => taken = true

/-- **What a visit does**: it names the tensor and passes by, or names and claims it. -/
theorem ioVisit_cases (h : ioVisit loader needsBuffer v visit = some v') :
    ∃ t io, loader.ioIndex? visit.name = some (t, io) ∧
      (visit.action.MayPass (needsBuffer visit.set io) (v.taken visit.set io) t ∧
          v' = v.setName visit.set io t.name ∨
        ∃ entry, visit.action.MayClaim (needsBuffer visit.set io) t entry ∧
          v.taken visit.set io = false ∧
          v' = (v.setName visit.set io t.name).claim visit.set io entry) := by
  unfold ioVisit at h
  split at h
  · exact nomatch h
  · rename_i t io hindex
    refine ⟨t, io, hindex, ?_⟩
    cases haction : visit.action with
    | shapeInput i =>
        simp only [haction] at h
        split at h
        · exact nomatch h
        · rename_i hguard
          simp only [Bool.or_eq_true, not_or, Bool.not_eq_true, Bool.not_eq_false'] at hguard
          split at h
          · rename_i hneeds
            obtain ⟨hshape, hbuffer⟩ := (Bool.and_eq_true _ _).mp hneeds
            exact Or.inr ⟨_, ⟨rfl, hguard.2, hshape, hbuffer⟩, hguard.1, (Option.some.inj h).symm⟩
          · rename_i hneeds
            refine Or.inl ⟨⟨hguard.2, fun hshape => ?_⟩, (Option.some.inj h).symm⟩
            rwa [hshape, Bool.true_and, Bool.not_eq_true] at hneeds
    | executeInput entry =>
        simp only [haction] at h
        split at h
        · rename_i hshape
          exact Or.inl ⟨hshape, (Option.some.inj h).symm⟩
        · rename_i hshape
          split at h
          · exact nomatch h
          · rename_i hguard
            simp only [Bool.or_eq_true, not_or, Bool.not_eq_true, Bool.not_eq_false'] at hguard
            exact Or.inr ⟨_, ⟨rfl, hguard.2, eq_false_of_ne_true hshape⟩, hguard.1,
              (Option.some.inj h).symm⟩
    | stateInput i =>
        simp only [haction] at h
        split at h
        · rename_i hpass
          exact Or.inl ⟨(Bool.or_eq_true _ _).mp hpass, (Option.some.inj h).symm⟩
        · rename_i hpass
          simp only [Bool.or_eq_true, not_or, Bool.not_eq_true] at hpass
          split at h
          · rename_i hinput
            exact Or.inr ⟨_, ⟨rfl, hinput, hpass.2⟩, hpass.1, (Option.some.inj h).symm⟩
          · exact nomatch h
    | batchOutput =>
        simp only [haction] at h
        split at h
        · exact nomatch h
        · rename_i hshape
          exact Or.inl ⟨eq_false_of_ne_true hshape, (Option.some.inj h).symm⟩
    | output i =>
        simp only [haction] at h
        split at h
        · exact nomatch h
        · rename_i hguard
          simp only [Bool.or_eq_true, not_or, Bool.not_eq_true] at hguard
          exact Or.inr ⟨_, ⟨rfl, hguard.2⟩, hguard.1, (Option.some.inj h).symm⟩
    | stateOutput i =>
        simp only [haction] at h
        split at h
        · rename_i htaken
          exact Or.inl ⟨htaken, (Option.some.inj h).symm⟩
        · rename_i htaken
          split at h
          · exact nomatch h
          · rename_i hinput
            exact Or.inr ⟨_, ⟨rfl, eq_false_of_ne_true hinput⟩, eq_false_of_ne_true htaken,
              (Option.some.inj h).symm⟩

/-- A visit takes no claim back. -/
theorem ioVisit_grows (h : ioVisit loader needsBuffer v visit = some v') {a : Allocation}
    (ha : a ∈ v.allocations) : a ∈ v'.allocations := by
  obtain ⟨t, io, -, ⟨-, rfl⟩ | ⟨entry, -, -, rfl⟩⟩ := ioVisit_cases h
  · exact ha
  · exact List.mem_append_left _ ha

/-! ### Claims -/

/-- A claim that may have been made. -/
def Allocation.Allowed (loader : IoLoader) (needsBuffer : ℕ → ℕ → Bool) (a : Allocation) : Prop :=
  ∃ t, loader.tensors[a.io]? = some t ∧
    ∃ action : IoAction, action.MayClaim (needsBuffer a.set a.io) t a.entry

/-- A tensor is claimed once at most, by an entry that may claim it, and under its own name. -/
structure IoView.Claimed (loader : IoLoader) (needsBuffer : ℕ → ℕ → Bool) (v : IoView) : Prop where
  once : (v.allocations.map fun a => (a.set, a.io)).Nodup
  allowed : ∀ a ∈ v.allocations, a.Allowed loader needsBuffer
  named : ∀ a ∈ v.allocations, ∀ t, loader.tensors[a.io]? = some t → v.names a.set a.io = t.name

theorem claimed_start : IoView.Claimed loader needsBuffer ⟨fun _ _ => "", []⟩ :=
  ⟨List.nodup_nil, fun _ ha => absurd ha List.not_mem_nil, fun _ ha => absurd ha List.not_mem_nil⟩

/-- Naming a tensor with its name leaves claimed tensors under their names. -/
theorem names_kept {t : BoundTensor} {set io : ℕ} (ht : loader.tensors[io]? = some t)
    (hv : v.Claimed loader needsBuffer) {a : Allocation} (ha : a ∈ v.allocations) {t' : BoundTensor}
    (ht' : loader.tensors[a.io]? = some t') :
    (v.setName set io t.name).names a.set a.io = t'.name := by
  by_cases hcell : a.set = set ∧ a.io = io
  · obtain ⟨hset, hio⟩ := hcell
    rw [hio, ht, Option.some.injEq] at ht'
    rw [hset, hio, IoView.names_setName_self, ht']
  · rw [IoView.names_setName_other hcell, hv.named a ha t' ht']

/-- **The step lemma.** -/
theorem ioVisit_claimed (hv : v.Claimed loader needsBuffer)
    (h : ioVisit loader needsBuffer v visit = some v') : v'.Claimed loader needsBuffer := by
  obtain ⟨t, io, hindex, ⟨-, rfl⟩ | ⟨entry, hmay, hfree, rfl⟩⟩ := ioVisit_cases h
  · exact ⟨hv.once, hv.allowed, fun a ha t' => names_kept (getElem?_of_ioIndex? hindex) hv ha⟩
  · have ht := getElem?_of_ioIndex? hindex
    constructor
    · show ((v.allocations ++ [(⟨visit.set, io, entry⟩ : Allocation)]).map
        fun a => (a.set, a.io)).Nodup
      rw [List.map_append, List.nodup_append]
      refine ⟨hv.once, List.nodup_singleton _, ?_⟩
      intro cell hcell cell' hcell' heq
      obtain ⟨a, ha, rfl⟩ := List.mem_map.mp hcell
      obtain rfl := List.mem_singleton.mp hcell'
      obtain ⟨hset, hio⟩ := Prod.mk.inj heq
      have htaken := IoView.taken_iff.mpr ⟨a, ha, hset, hio⟩
      exact Bool.noConfusion (hfree.symm.trans htaken)
    · intro a ha
      rcases List.mem_append.mp ha with ha | ha
      · exact hv.allowed a ha
      · obtain rfl := List.mem_singleton.mp ha
        exact ⟨t, ht, visit.action, hmay⟩
    · intro a ha t' ht'
      show (v.setName visit.set io t.name).names a.set a.io = t'.name
      rcases List.mem_append.mp ha with ha | ha
      · exact names_kept ht hv ha ht'
      · obtain rfl := List.mem_singleton.mp ha
        obtain rfl := Option.some.inj (ht.symm.trans ht')
        exact IoView.names_setName_self

/-! ### What visits bring about -/

/-- All claims are on inputs. -/
def IoView.OnInputs (loader : IoLoader) (v : IoView) : Prop :=
  ∀ a ∈ v.allocations, ∃ t, loader.tensors[a.io]? = some t ∧ t.isInput = true

/-- What a visit has brought about, for good. -/
def IoVisit.Visited (loader : IoLoader) (needsBuffer : ℕ → ℕ → Bool) (v : IoView)
    (visit : IoVisit) : Prop :=
  ∃ t io, loader.ioIndex? visit.name = some (t, io) ∧
    match visit.action with
    | .shapeInput i => t.isInput = true ∧ (t.isShapeInferenceIo = true →
        needsBuffer visit.set io = true → ⟨visit.set, io, .input i⟩ ∈ v.allocations)
    | .executeInput entry => t.isShapeInferenceIo = false →
        ⟨visit.set, io, entry⟩ ∈ v.allocations
    | .stateInput _ => t.isInput = true ∨ t.isShapeInferenceIo = true
    | .output i => ⟨visit.set, io, .output i⟩ ∈ v.allocations
    | _ => True

theorem IoVisit.Visited.grows {w : IoView} (hsub : ∀ a ∈ v.allocations, a ∈ w.allocations)
    (h : visit.Visited loader needsBuffer v) : visit.Visited loader needsBuffer w := by
  obtain ⟨t, io, hindex, h⟩ := h
  refine ⟨t, io, hindex, ?_⟩
  cases haction : visit.action with
  | shapeInput i =>
      simp only [haction] at h
      exact ⟨h.1, fun hshape hneeds => hsub _ (h.2 hshape hneeds)⟩
  | executeInput entry =>
      simp only [haction] at h
      exact fun hshape => hsub _ (h hshape)
  | stateInput i =>
      simp only [haction] at h
      exact h
  | batchOutput => trivial
  | output i =>
      simp only [haction] at h
      exact hsub _ h
  | stateOutput i => trivial

/-- A visit of the first loop. -/
def IoAction.OfInput : IoAction → Prop
  | .shapeInput _ | .executeInput _ | .stateInput _ => True
  | .batchOutput | .output _ | .stateOutput _ => False

theorem IoAction.MayClaim.isInput {action : IoAction} {needs : Bool} {t : BoundTensor}
    {entry : ConfigEntry} (h : action.MayClaim needs t entry) (hinput : action.OfInput) :
    t.isInput = true := by
  cases action with
  | shapeInput i => exact h.2.1
  | executeInput e => exact h.2.1
  | stateInput i => exact h.2.1
  | batchOutput => exact h.elim
  | output i => exact hinput.elim
  | stateOutput i => exact hinput.elim

/-- The visits of the first loop claim inputs. -/
theorem ioVisit_onInputs (hinput : visit.action.OfInput) (hv : v.OnInputs loader)
    (h : ioVisit loader needsBuffer v visit = some v') : v'.OnInputs loader := by
  obtain ⟨t, io, hindex, ⟨-, rfl⟩ | ⟨entry, hmay, -, rfl⟩⟩ := ioVisit_cases h
  · exact hv
  · intro a ha
    rcases List.mem_append.mp ha with ha | ha
    · exact hv a ha
    · obtain rfl := List.mem_singleton.mp ha
      exact ⟨t, getElem?_of_ioIndex? hindex, hmay.isInput hinput⟩

/-- What a visit brings about; that of a state input in the first loop only. -/
theorem ioVisit_visited (hv : ∀ i, visit.action = .stateInput i → v.OnInputs loader)
    (h : ioVisit loader needsBuffer v visit = some v') : visit.Visited loader needsBuffer v' := by
  obtain ⟨t, io, hindex, ⟨hpass, rfl⟩ | ⟨entry, hmay, -, rfl⟩⟩ := ioVisit_cases h
  · refine ⟨t, io, hindex, ?_⟩
    cases haction : visit.action with
    | shapeInput i =>
        simp only [haction] at hpass ⊢
        refine ⟨hpass.1, fun hshape hneeds => ?_⟩
        exact Bool.noConfusion ((hpass.2 hshape).symm.trans hneeds)
    | executeInput entry =>
        simp only [haction] at hpass ⊢
        intro hshape
        exact Bool.noConfusion (hshape.symm.trans hpass)
    | stateInput i =>
        simp only [haction] at hpass ⊢
        rcases hpass with htaken | hshape
        · -- In the first loop only inputs are claimed.
          obtain ⟨a, ha, -, hio⟩ := IoView.taken_iff.mp htaken
          obtain ⟨t', ht', hinput⟩ := hv i haction a ha
          rw [hio, getElem?_of_ioIndex? hindex, Option.some.injEq] at ht'
          exact Or.inl (ht' ▸ hinput)
        · exact Or.inr hshape
    | batchOutput => trivial
    | output i =>
        simp only [haction] at hpass
        exact hpass.elim
    | stateOutput i => trivial
  · refine ⟨t, io, hindex, ?_⟩
    have hclaim : ⟨visit.set, io, entry⟩ ∈
        ((v.setName visit.set io t.name).claim visit.set io entry).allocations :=
      List.mem_append_right _ (List.mem_singleton.mpr rfl)
    cases haction : visit.action with
    | shapeInput i =>
        simp only [haction] at hmay ⊢
        exact ⟨hmay.2.1, fun _ _ => hmay.1 ▸ hclaim⟩
    | executeInput e =>
        simp only [haction] at hmay ⊢
        exact fun _ => hmay.1 ▸ hclaim
    | stateInput i =>
        simp only [haction] at hmay ⊢
        exact Or.inl hmay.2.1
    | batchOutput => trivial
    | output i =>
        simp only [haction] at hmay ⊢
        exact hmay.1 ▸ hclaim
    | stateOutput i => trivial

/-! ### Runs -/

theorem run_claimed {visits : List IoVisit}
    (h : (ioClaims loader needsBuffer).run v visits = some v')
    (hv : v.Claimed loader needsBuffer) : v'.Claimed loader needsBuffer :=
  StepSystem.run_invariant (S := ioClaims loader needsBuffer)
    (fun _ _ _ hv h => ioVisit_claimed hv h) hv h

/-- **The run lemma**: a run over the visits of the first loop and then those of the second one
claims each tensor once at most, and has brought about what each visit does. -/
theorem run_visited {inputs outputs : List IoVisit} (hinputs : ∀ x ∈ inputs, x.action.OfInput)
    (houtputs : ∀ x ∈ outputs, ¬ x.action.OfInput)
    (h : (ioClaims loader needsBuffer).run ⟨fun _ _ => "", []⟩ (inputs ++ outputs) = some v) :
    v.Claimed loader needsBuffer ∧
      ∀ x ∈ inputs ++ outputs, x.Visited loader needsBuffer v := by
  have hkeep : ∀ (s : IoView) (a : IoVisit) (t : IoView) (b : IoVisit),
      b.Visited loader needsBuffer s → (ioClaims loader needsBuffer).step s a = some t →
      b.Visited loader needsBuffer t :=
    fun s a t b hb hstep => hb.grows fun c hc => ioVisit_grows hstep hc
  refine ⟨run_claimed h claimed_start, ?_⟩
  obtain ⟨u, hu, hv⟩ := StepSystem.run_append_eq_some.mp h
  obtain ⟨-, hdone⟩ := StepSystem.run_done (I := fun s => s.OnInputs loader)
    (fun s a ha t hs hstep => ⟨ioVisit_onInputs (hinputs a ha) hs hstep,
      ioVisit_visited (fun _ _ => hs) hstep⟩) hkeep (fun _ ha => absurd ha List.not_mem_nil) hu
  obtain ⟨-, hdone'⟩ := StepSystem.run_done (I := fun _ => True)
    (fun s a ha t _ hstep => ⟨trivial, ioVisit_visited (fun i hi =>
      absurd (hi ▸ trivial : a.action.OfInput) (houtputs a ha)) hstep⟩) hkeep trivial hv
  intro x hx
  rcases List.mem_append.mp hx with hx | hx
  · exact StepSystem.run_invariant (I := fun s => x.Visited loader needsBuffer s)
      (fun s a t hs hstep => hkeep s a t x hs hstep) (hdone x hx) hv
  · exact hdone' x hx

end Run

end TensorrtBackend

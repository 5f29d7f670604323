import TensorrtBackend.Arbitrator

/-!
# Permits under the device-blocking arbitrator

The permit an execution acquires belongs to the instance that is next, the permit it releases to the
instance it ran on.  `Permits` is the transition system of registrations, of the serialised
`TRITONBACKEND_ModelInstanceExecute` calls of each device in their three stages (`ExecutionState`,
`ProcessRequests`, `Acquire`), and of the releases of the completion threads.

* `PermitState.Ok`: the conservation law with the execution in progress accounted for.
* `permits_conserved`: between executions each instance's permits add up to its initial count.
-/

namespace TensorrtBackend

variable {ι : Type} [DecidableEq ι]

/-- How far the `TRITONBACKEND_ModelInstanceExecute` call of a device has got. -/
inductive ExecutePhase (ι : Type)
  | idle
  /-- `ProcessRequests` of `current` is running; the semaphore of `next` will be acquired. -/
  | issuing (current next : ι)
  /-- `semaphore->Acquire()`. -/
  | acquiring (next : ι)

/-- The arbitrator's lists, the semaphore counts, the payloads whose release is still to come, the
executions in progress, and the device each registered instance is on. -/
structure PermitState (ι : Type) where
  devices : DeviceInstances ι := fun _ => none
  count : ι → ℕ := fun _ => 0
  queued : ι → ℕ := fun _ => 0
  phase : ℕ → ExecutePhase ι := fun _ => .idle
  home : ι → Option ℕ := fun _ => none

/-- The steps of the issue side and of the completion threads. -/
inductive PermitAction (ι : Type)
  | register (deviceId : ℕ) (inst : ι)
  | execute (deviceId : ℕ)
  /-- `ProcessRequests` failed and released its permit at once. -/
  | runFailed (deviceId : ℕ)
  /-- `ProcessRequests` put a payload on the completion queue. -/
  | runQueued (deviceId : ℕ)
  | acquire (deviceId : ℕ)
  /-- The completion thread of the instance releases the permit of a payload. -/
  | release (inst : ι)

/-- One step; `none` when it is blocked or not enabled.  `initialCount` is the count a semaphore is
created with; the first instance of a device has it acquired once as it is registered. -/
def permitStep (initialCount : ℕ) (s : PermitState ι) : PermitAction ι → Option (PermitState ι)
  | .register deviceId inst =>
      if (s.home inst).isSome then none
      else
        let first := (s.devices deviceId).isNone
        if first && initialCount == 0 then none
        else
          some { s with
            devices := registerInstance s.devices deviceId inst
            count := Function.update s.count inst
              (if first then initialCount - 1 else initialCount)
            home := Function.update s.home inst (some deviceId) }
  | .execute deviceId =>
      match s.phase deviceId with
      | .idle =>
          (executionState s.devices deviceId).map fun r =>
            { s with
              devices := r.2
              phase := Function.update s.phase deviceId (.issuing r.1.1 r.1.2) }
      | _ => none
  | .runFailed deviceId =>
      match s.phase deviceId with
      | .issuing current next =>
          some { s with
            count := Function.update s.count current (s.count current + 1)
            phase := Function.update s.phase deviceId (.acquiring next) }
      | _ => none
  | .runQueued deviceId =>
      match s.phase deviceId with
      | .issuing current next =>
          some { s with
            queued := Function.update s.queued current (s.queued current + 1)
            phase := Function.update s.phase deviceId (.acquiring next) }
      | _ => none
  | .acquire deviceId =>
      match s.phase deviceId with
      | .acquiring next =>
          if 0 < s.count next then
            some { s with
              count := Function.update s.count next (s.count next - 1)
              phase := Function.update s.phase deviceId .idle }
          else none
      | _ => none
  | .release inst =>
      if 0 < s.queued inst then
        some { s with
          queued := Function.update s.queued inst (s.queued inst - 1)
          count := Function.update s.count inst (s.count inst + 1) }
      else none

/-- The executions of a model whose semaphores start at `initialCount`. -/
def Permits (ι : Type) [DecidableEq ι] (initialCount : ℕ) :
    StepSystem (PermitState ι) (PermitAction ι) where
  init s := s = {}
  step := permitStep initialCount

/-- The execution a device is issuing, as a count for `inst`. -/
def ExecutePhase.running (phase : ExecutePhase ι) (inst : ι) : ℕ :=
  match phase with
  | .issuing current _ => if current = inst then 1 else 0
  | _ => 0

/-- The permit that is held for the next execution, as a count for `inst`: between executions it is
the one of the instance at the index. -/
def ExecutePhase.reserved (phase : ExecutePhase ι) (il : InstanceList ι) (inst : ι) : ℕ :=
  match phase with
  | .idle => if il.instances[il.idx]? = some inst then 1 else 0
  | _ => 0

/-- The executions handed to `inst` on the device and not yet released. -/
def PermitState.unreleased (s : PermitState ι) (deviceId : ℕ) (inst : ι) : ℕ :=
  s.queued inst + (s.phase deviceId).running inst

omit [DecidableEq ι] in
theorem getElem?_append_of_some {l l' : List ι} {i : ℕ} {x : ι} (h : l[i]? = some x) :
    (l ++ l')[i]? = some x := by
  obtain ⟨hlt, -⟩ := List.getElem?_eq_some_iff.mp h
  rw [List.getElem?_append_left hlt]
  exact h

/-- Registering another instance does not move the reserved permit. -/
theorem ExecutePhase.reserved_append (phase : ExecutePhase ι) {il : InstanceList ι}
    (h : il.idx < il.instances.length) (l : List ι) (inst : ι) :
    phase.reserved { il with instances := il.instances ++ l } inst = phase.reserved il inst := by
  cases phase with
  | idle =>
      show (if (il.instances ++ l)[il.idx]? = some inst then 1 else 0) = _
      rw [List.getElem?_append_left h]
      rfl
  | issuing current next => rfl
  | acquiring next => rfl

/-- The invariant: lists and homes agree, the execution in progress is one of the device's, and the
permits of every instance add up. -/
structure PermitState.Ok (initialCount : ℕ) (s : PermitState ι) : Prop where
  index : IndexOk s.devices
  home : ∀ d il, s.devices d = some il → ∀ inst ∈ il.instances, s.home inst = some d
  idle : ∀ d, s.devices d = none → s.phase d = .idle
  fresh : ∀ inst, s.home inst = none → s.queued inst = 0
  issuing : ∀ d il current next, s.devices d = some il → s.phase d = .issuing current next →
    current ∈ il.instances ∧ il.instances[il.idx]? = some next
  acquiring : ∀ d il next, s.devices d = some il → s.phase d = .acquiring next →
    il.instances[il.idx]? = some next
  conserved : ∀ d il, s.devices d = some il → ∀ inst ∈ il.instances,
    s.count inst + s.unreleased d inst + (s.phase d).reserved il inst = initialCount

/-! ### What each step keeps -/

section Step

variable {initialCount : ℕ} {s t : PermitState ι} {d d' deviceId : ℕ} {inst : ι}

theorem PermitState.Ok.ne_of_device (h : s.Ok initialCount) {il il' : InstanceList ι} {x y : ι}
    (hd : s.devices d = some il) (hx : x ∈ il.instances) (hd' : s.devices d' = some il')
    (hy : y ∈ il'.instances) (hne : d ≠ d') : x ≠ y := by
  intro hxy
  have hx' := h.home d il hd x hx
  have hy' := h.home d' il' hd' y hy
  rw [hxy, hy'] at hx'
  exact hne (Option.some.inj hx').symm

/-- A device that is executing has a list. -/
theorem PermitState.Ok.list_of_phase (h : s.Ok initialCount) (hphase : s.phase d ≠ .idle) :
    ∃ il, s.devices d = some il := by
  cases hd : s.devices d with
  | none => exact absurd (h.idle d hd) hphase
  | some il => exact ⟨il, rfl⟩

/-- An instance without a home is on no list. -/
theorem PermitState.Ok.not_mem_of_free (h : s.Ok initialCount) (hfree : s.home inst = none)
    {il : InstanceList ι} (hd : s.devices d = some il) : inst ∉ il.instances := by
  intro hmem
  rw [h.home d il hd inst hmem] at hfree
  cases hfree

/-- Only an instance of the list is executed on the device. -/
theorem PermitState.Ok.running_of_not_mem (h : s.Ok initialCount) {il : InstanceList ι}
    (hd : s.devices d = some il) (hmem : inst ∉ il.instances) : (s.phase d).running inst = 0 := by
  cases hphase : s.phase d with
  | idle => rfl
  | acquiring next => rfl
  | issuing current next =>
      refine if_neg fun hcurrent => hmem ?_
      exact hcurrent ▸ (h.issuing d il current next hd hphase).1

/-- Only an instance of the list has its permit reserved. -/
theorem ExecutePhase.reserved_of_not_mem (phase : ExecutePhase ι) {il : InstanceList ι}
    (hmem : inst ∉ il.instances) : phase.reserved il inst = 0 := by
  cases phase with
  | issuing current next => rfl
  | acquiring next => rfl
  | idle => exact if_neg fun hget => hmem (List.mem_of_getElem? hget)

/-- The first instance of a device: one permit is reserved as it is registered. -/
theorem PermitState.Ok.conserved_first (h : s.Ok initialCount) (hfree : s.home inst = none)
    (hnone : s.devices deviceId = none) (hpos : initialCount ≠ 0) :
    initialCount - 1 + s.unreleased deviceId inst +
      (s.phase deviceId).reserved { instances := [inst] } inst = initialCount := by
  have hget : [inst][0]? = some inst := rfl
  rw [PermitState.unreleased, h.fresh inst hfree, h.idle deviceId hnone]
  show (initialCount - 1) + (0 + 0) + (if [inst][0]? = some inst then 1 else 0) = initialCount
  rw [if_pos hget]
  omega

/-- Another instance of a device has all its permits. -/
theorem PermitState.Ok.conserved_next (h : s.Ok initialCount) (hfree : s.home inst = none)
    {il : InstanceList ι} (hd : s.devices deviceId = some il) :
    initialCount + s.unreleased deviceId inst + (s.phase deviceId).reserved il inst =
      initialCount := by
  have hunlisted := h.not_mem_of_free hfree hd
  rw [PermitState.unreleased, h.fresh inst hfree, h.running_of_not_mem hd hunlisted,
    (s.phase deviceId).reserved_of_not_mem hunlisted]
  rfl

theorem register_ok (h : s.Ok initialCount)
    (ht : permitStep initialCount s (.register deviceId inst) = some t) : t.Ok initialCount := by
  rw [permitStep] at ht
  split at ht
  · cases ht
  · rename_i hhome
    simp only at ht
    split at ht
    · cases ht
    · rename_i hpos
      cases ht
      have hfree : s.home inst = none := by simpa using hhome
      -- An instance that is listed already is not the one being registered.
      have hold : ∀ d il, s.devices d = some il → ∀ x ∈ il.instances, x ≠ inst :=
        fun d il hd x hx hxi => h.not_mem_of_free hfree hd (hxi ▸ hx)
      refine ⟨h.index.register deviceId inst, ?_, ?_, ?_, ?_, ?_, ?_⟩
      · intro d il hd x hx
        show Function.update s.home inst (some deviceId) x = some d
        rcases registerInstance_cases hd with ⟨rfl, -, rfl⟩ | ⟨rfl, il', hil', rfl⟩ | ⟨-, hil'⟩
        · rw [List.mem_singleton.mp hx, Function.update_self]
        · rcases List.mem_append.mp hx with hx | hx
          · rw [Function.update_of_ne (hold d il' hil' x hx)]
            exact h.home d il' hil' x hx
          · rw [List.mem_singleton.mp hx, Function.update_self]
        · rw [Function.update_of_ne (hold d il hil' x hx)]
          exact h.home d il hil' x hx
      · intro d hd
        apply h.idle d
        cases hdev : s.devices d with
        | none => rfl
        | some il =>
            obtain ⟨il', hil'⟩ := registerInstance_isSome hdev deviceId inst
            rw [show registerInstance s.devices deviceId inst d = none from hd] at hil'
            cases hil'
      · intro x hx
        apply h.fresh x
        by_cases hxi : x = inst
        · rw [hxi]
          exact hfree
        · have hx' : Function.update s.home inst (some deviceId) x = none := hx
          rwa [Function.update_of_ne hxi] at hx'
      · intro d il current next hd hphase
        rcases registerInstance_cases hd with ⟨rfl, hnone, -⟩ | ⟨rfl, il', hil', rfl⟩ | ⟨-, hil'⟩
        · have hidle := h.idle d hnone
          rw [show s.phase d = _ from hphase] at hidle
          cases hidle
        · obtain ⟨hcur, hnext⟩ := h.issuing d il' current next hil' hphase
          exact ⟨List.mem_append_left _ hcur, getElem?_append_of_some hnext⟩
        · exact h.issuing d il current next hil' hphase
      · intro d il next hd hphase
        rcases registerInstance_cases hd with ⟨rfl, hnone, -⟩ | ⟨rfl, il', hil', rfl⟩ | ⟨-, hil'⟩
        · have hidle := h.idle d hnone
          rw [show s.phase d = _ from hphase] at hidle
          cases hidle
        · exact getElem?_append_of_some (h.acquiring d il' next hil' hphase)
        · exact h.acquiring d il next hil' hphase
      · intro d il hd x hx
        show Function.update s.count inst _ x + s.unreleased d x + (s.phase d).reserved il x = _
        rcases registerInstance_cases hd with ⟨rfl, hnone, rfl⟩ | ⟨rfl, il', hil', rfl⟩ | ⟨-, hil'⟩
        · obtain rfl := List.mem_singleton.mp hx
          have hne : initialCount ≠ 0 := by
            intro hz
            exact hpos (by rw [hnone, hz]; rfl)
          rw [Function.update_self, hnone]
          exact h.conserved_first hfree hnone hne
        · rw [(s.phase d).reserved_append (h.index d il' hil')]
          rcases List.mem_append.mp hx with hx | hx
          · rw [Function.update_of_ne (hold d il' hil' x hx)]
            exact h.conserved d il' hil' x hx
          · obtain rfl := List.mem_singleton.mp hx
            rw [Function.update_self, hil']
            exact h.conserved_next hfree hil'
        · rw [Function.update_of_ne (hold d il hil' x hx)]
          exact h.conserved d il hil' x hx

theorem execute_ok (h : s.Ok initialCount)
    (ht : permitStep initialCount s (.execute deviceId) = some t) : t.Ok initialCount := by
  rw [permitStep] at ht
  cases hphase : s.phase deviceId with
  | issuing current next => rw [hphase] at ht; cases ht
  | acquiring next => rw [hphase] at ht; cases ht
  | idle =>
      rw [hphase] at ht
      obtain ⟨⟨⟨current, next⟩, devices'⟩, hexec, rfl⟩ := Option.map_eq_some_iff.mp ht
      obtain ⟨il, hd, hcur, hnext, rfl⟩ := executionState_eq_some_iff.mp hexec
      have hphase_ne : ∀ d, d ≠ deviceId → (Function.update s.phase deviceId
          (.issuing current next)) d = s.phase d := fun d hne => Function.update_of_ne hne _ _
      refine ⟨h.index.advance hd, ?_, ?_, h.fresh, ?_, ?_, ?_⟩
      · intro d il' hd' x hx
        rcases advance_cases hd' with ⟨rfl, rfl⟩ | ⟨-, hold⟩
        · exact h.home d il hd x hx
        · exact h.home d il' hold x hx
      · intro d hd'
        have hne : d ≠ deviceId := by
          rintro rfl
          have hd'' : Function.update s.devices d (some il.advance) d = none := hd'
          rw [Function.update_self] at hd''
          cases hd''
        have hnone : Function.update s.devices deviceId (some il.advance) d = none := hd'
        rw [Function.update_of_ne hne] at hnone
        exact (hphase_ne d hne).trans (h.idle d hnone)
      · intro d il' current' next' hd' hp
        rcases advance_cases hd' with ⟨rfl, rfl⟩ | ⟨hne, hold⟩
        · rcases update_cases hp with ⟨-, hnew⟩ | ⟨hne, -⟩
          · cases hnew
            exact ⟨List.mem_of_getElem? hcur, hnext⟩
          · exact absurd rfl hne
        · exact h.issuing d il' current' next' hold ((hphase_ne d hne).symm.trans hp)
      · intro d il' next' hd' hp
        rcases update_cases hp with ⟨-, hnew⟩ | ⟨hne, hp⟩
        · cases hnew
        · rcases advance_cases hd' with ⟨hd, -⟩ | ⟨-, hold⟩
          · exact absurd hd hne
          · exact h.acquiring d il' next' hold hp
      · intro d il' hd' x hx
        rcases advance_cases hd' with ⟨rfl, rfl⟩ | ⟨hne, hold⟩
        · -- The permit reserved for the next execution is now the one of the execution.
          have hc := h.conserved d il hd x hx
          rw [PermitState.unreleased, hphase] at hc
          show s.count x + (s.queued x + (Function.update s.phase d _ d).running x) +
            (Function.update s.phase d _ d).reserved il.advance x = initialCount
          rw [Function.update_self]
          have hswap : (ExecutePhase.issuing current next).running x =
              (ExecutePhase.idle : ExecutePhase ι).reserved il x := by
            simp only [ExecutePhase.running, ExecutePhase.reserved, hcur, Option.some.injEq]
          rw [hswap]
          show _ + 0 = initialCount
          simp only [ExecutePhase.running] at hc
          omega
        · show s.count x + (s.queued x + (Function.update s.phase deviceId _ d).running x) +
            (Function.update s.phase deviceId _ d).reserved il' x = initialCount
          rw [Function.update_of_ne hne]
          exact h.conserved d il' hold x hx

/-- `ProcessRequests` returns: the execution of `current` moves from the device into the count or
the queue of `current`. -/
theorem issued_ok (h : s.Ok initialCount) {current next : ι} {count queued : ι → ℕ}
    (hphase : s.phase deviceId = .issuing current next)
    (hsum : ∀ x, count x + queued x = s.count x + s.queued x + if current = x then 1 else 0)
    (hqueued : ∀ x, x ≠ current → queued x = s.queued x) :
    PermitState.Ok initialCount { s with
      count := count
      queued := queued
      phase := Function.update s.phase deviceId (.acquiring next) } := by
  obtain ⟨il, hil⟩ := h.list_of_phase (by rw [hphase]; simp)
  obtain ⟨hcur, hnext⟩ := h.issuing deviceId il current next hil hphase
  have hphase_ne : ∀ d, d ≠ deviceId → (Function.update s.phase deviceId (.acquiring next)) d =
      s.phase d := fun d hne => Function.update_of_ne hne _ _
  refine ⟨h.index, h.home, ?_, ?_, ?_, ?_, ?_⟩
  · intro d hd
    have hne : d ≠ deviceId := by
      rintro rfl
      rw [show s.devices d = none from hd] at hil
      cases hil
    exact (hphase_ne d hne).trans (h.idle d hd)
  · intro x hx
    have hne : x ≠ current := by
      rintro rfl
      rw [h.home deviceId il hil x hcur] at hx
      cases hx
    exact (hqueued x hne).trans (h.fresh x hx)
  · intro d il' current' next' hd hp
    rcases update_cases hp with ⟨-, hnew⟩ | ⟨-, hold⟩
    · cases hnew
    · exact h.issuing d il' current' next' hd hold
  · intro d il' next' hd hp
    rcases update_cases hp with ⟨rfl, hnew⟩ | ⟨-, hold⟩
    · cases hnew
      rw [show s.devices d = some il' from hd] at hil
      cases hil
      exact hnext
    · exact h.acquiring d il' next' hd hold
  · intro d il' hd x hx
    have hc := h.conserved d il' hd x hx
    have hx' := hsum x
    show count x + (queued x + (Function.update s.phase deviceId _ d).running x) +
      (Function.update s.phase deviceId _ d).reserved il' x = initialCount
    rw [PermitState.unreleased] at hc
    by_cases hne : d = deviceId
    · subst hne
      rw [Function.update_self]
      rw [hphase] at hc
      simp only [ExecutePhase.running, ExecutePhase.reserved] at hc ⊢
      omega
    · have hxc : ¬ current = x := (h.ne_of_device hil hcur hd hx (Ne.symm hne))
      rw [Function.update_of_ne hne]
      rw [if_neg hxc] at hx'
      omega

/-- One more for `current` is one more for it alone. -/
theorem update_add_one (f : ι → ℕ) (current x : ι) :
    Function.update f current (f current + 1) x = f x + if current = x then 1 else 0 := by
  by_cases hx : current = x
  · subst hx
    rw [Function.update_self, if_pos rfl]
  · rw [Function.update_of_ne (Ne.symm hx), if_neg hx]
    rfl

theorem runFailed_ok (h : s.Ok initialCount)
    (ht : permitStep initialCount s (.runFailed deviceId) = some t) : t.Ok initialCount := by
  rw [permitStep] at ht
  cases hphase : s.phase deviceId with
  | idle => rw [hphase] at ht; cases ht
  | acquiring next => rw [hphase] at ht; cases ht
  | issuing current next =>
      rw [hphase] at ht
      cases ht
      refine issued_ok h hphase (fun x => ?_) fun x _ => rfl
      rw [update_add_one]
      omega

theorem runQueued_ok (h : s.Ok initialCount)
    (ht : permitStep initialCount s (.runQueued deviceId) = some t) : t.Ok initialCount := by
  rw [permitStep] at ht
  cases hphase : s.phase deviceId with
  | idle => rw [hphase] at ht; cases ht
  | acquiring next => rw [hphase] at ht; cases ht
  | issuing current next =>
      rw [hphase] at ht
      cases ht
      refine issued_ok h hphase (fun x => ?_) fun x hx => Function.update_of_ne hx _ _
      rw [update_add_one]
      omega

theorem acquire_ok (h : s.Ok initialCount)
    (ht : permitStep initialCount s (.acquire deviceId) = some t) : t.Ok initialCount := by
  rw [permitStep] at ht
  cases hphase : s.phase deviceId with
  | idle => rw [hphase] at ht; cases ht
  | issuing current next => rw [hphase] at ht; cases ht
  | acquiring next =>
      rw [hphase] at ht
      simp only at ht
      split at ht
      swap
      · cases ht
      rename_i hpos
      cases ht
      obtain ⟨il, hil⟩ := h.list_of_phase (by rw [hphase]; simp)
      have hnext := h.acquiring deviceId il next hil hphase
      have hphase_ne : ∀ d, d ≠ deviceId → (Function.update s.phase deviceId .idle) d =
          s.phase d := fun d hne => Function.update_of_ne hne _ _
      refine ⟨h.index, h.home, ?_, h.fresh, ?_, ?_, ?_⟩
      · intro d hd
        by_cases hne : d = deviceId
        · subst hne
          exact Function.update_self _ _ _
        · exact (hphase_ne d hne).trans (h.idle d hd)
      · intro d il' current' next' hd hp
        rcases update_cases hp with ⟨-, hnew⟩ | ⟨-, hold⟩
        · cases hnew
        · exact h.issuing d il' current' next' hd hold
      · intro d il' next' hd hp
        rcases update_cases hp with ⟨-, hnew⟩ | ⟨-, hold⟩
        · cases hnew
        · exact h.acquiring d il' next' hd hold
      · intro d il' hd x hx
        have hc := h.conserved d il' hd x hx
        rw [PermitState.unreleased] at hc
        show Function.update s.count next _ x +
            (s.queued x + (Function.update s.phase deviceId _ d).running x) +
          (Function.update s.phase deviceId _ d).reserved il' x = initialCount
        by_cases hne : d = deviceId
        · -- The acquired permit is the one reserved for the instance at the index.
          subst hne
          rw [show s.devices d = some il' from hd] at hil
          cases hil
          rw [Function.update_self]
          rw [hphase] at hc
          simp only [ExecutePhase.running, ExecutePhase.reserved, hnext, Option.some.injEq] at hc ⊢
          by_cases hxn : next = x
          · subst hxn
            rw [Function.update_self, if_pos rfl]
            omega
          · rw [Function.update_of_ne (Ne.symm hxn), if_neg hxn]
            omega
        · have hmem := List.mem_of_getElem? hnext
          have hxn : next ≠ x := h.ne_of_device hil hmem hd hx (Ne.symm hne)
          rw [Function.update_of_ne hne, Function.update_of_ne (Ne.symm hxn)]
          exact hc

theorem release_ok (h : s.Ok initialCount)
    (ht : permitStep initialCount s (.release inst) = some t) : t.Ok initialCount := by
  rw [permitStep] at ht
  split at ht
  swap
  · cases ht
  rename_i hpos
  cases ht
  refine ⟨h.index, h.home, h.idle, ?_, h.issuing, h.acquiring, ?_⟩
  · intro x hx
    have hne : x ≠ inst := by
      rintro rfl
      have hzero := h.fresh x hx
      omega
    exact (Function.update_of_ne hne _ _).trans (h.fresh x hx)
  · intro d il hd x hx
    have hc := h.conserved d il hd x hx
    rw [PermitState.unreleased] at hc
    show Function.update s.count inst _ x +
      (Function.update s.queued inst _ x + (s.phase d).running x) + (s.phase d).reserved il x =
        initialCount
    by_cases hxi : x = inst
    · subst hxi
      rw [Function.update_self, Function.update_self]
      omega
    · rw [Function.update_of_ne hxi, Function.update_of_ne hxi]
      exact hc

end Step

/-! ### Conservation -/

theorem permits_inductive (initialCount : ℕ) :
    (Permits ι initialCount).Inductive (PermitState.Ok initialCount) where
  init s hs := by
    have hs' : s = {} := hs
    subst hs'
    refine ⟨?_, ?_, fun _ _ => rfl, fun _ _ => rfl, ?_, ?_, ?_⟩
    · intro d il hd
      cases hd
    · intro d il hd
      cases hd
    · intro d il _ _ hd
      cases hd
    · intro d il _ hd
      cases hd
    · intro d il hd
      cases hd
  step s a t h ht := by
    cases a with
    | register deviceId inst => exact register_ok h ht
    | execute deviceId => exact execute_ok h ht
    | runFailed deviceId => exact runFailed_ok h ht
    | runQueued deviceId => exact runQueued_ok h ht
    | acquire deviceId => exact acquire_ok h ht
    | release inst => exact release_ok h ht

/-- **Conservation of permits.**  In every reachable state, for every instance registered on a
device: between executions its count, its unreleased executions and the permit reserved for it when
it is at the index add up to the initial count; and at no time has it more unreleased executions
than that. -/
theorem permits_conserved {initialCount : ℕ} {s : PermitState ι}
    (hs : (Permits ι initialCount).Reachable s) {deviceId : ℕ} {il : InstanceList ι}
    (hd : s.devices deviceId = some il) {inst : ι} (hinst : inst ∈ il.instances) :
    (s.phase deviceId = .idle →
        s.count inst + s.unreleased deviceId inst +
          (if il.instances[il.idx]? = some inst then 1 else 0) = initialCount) ∧
      s.unreleased deviceId inst ≤ initialCount := by
  have hok : s.Ok initialCount := hs.of_inductive (permits_inductive initialCount)
  have hc := hok.conserved deviceId il hd inst hinst
  constructor
  · intro hidle
    rw [hidle] at hc
    exact hc
  · omega

/-- The theorem for two instances, after an execution was queued on the first of them. -/
theorem permits_conserved_two :
    ∃ s : PermitState ℕ, (Permits ℕ 1).run {}
        [.register 0 0, .register 0 1, .execute 0, .runQueued 0, .acquire 0] = some s ∧
      s.count 0 + s.unreleased 0 0 + (if [0, 1][1]? = some 0 then 1 else 0) = 1 ∧
      s.unreleased 0 0 ≤ 1 := by
  obtain ⟨s, hs⟩ : ∃ s, (Permits ℕ 1).run {}
      [.register 0 0, .register 0 1, .execute 0, .runQueued 0, .acquire 0] = some s := ⟨_, rfl⟩
  have hreach : (Permits ℕ 1).Reachable s := ⟨{}, _, rfl, hs⟩
  have hd : s.devices 0 = some { instances := [0, 1], idx := 1 } := by
    cases hs
    rfl
  have hidle : s.phase 0 = .idle := by
    cases hs
    rfl
  have hmem : 0 ∈ [0, 1] := List.mem_cons_self
  exact ⟨s, hs, (permits_conserved hreach hd hmem).1 hidle, (permits_conserved hreach hd hmem).2⟩

end TensorrtBackend

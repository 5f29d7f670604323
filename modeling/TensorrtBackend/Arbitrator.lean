import Mathlib.Logic.Function.Basic
import Mathlib.Data.List.Basic
import TensorrtBackend.Lib.Transition

/-!
# The device-blocking arbitrator

`DeviceBlockingArbitrator` keeps, for each device, the instances in the order of their registration
and the index of the one that executes next.  `ExecutionState` hands out the instance at the index,
advances the index and returns the semaphore of the instance that is next then.  Nothing ever leaves
the list: `TRITONBACKEND_ModelInstanceFinalize` deletes the instance and does not tell the
arbitrator.

`Lifecycle` is the transition system of initialisations, executions and finalisations.

* `executionState_live_iff`: from a reachable state, all further executions on a device return live
  instances exactly when none of its instances has been finalised.
-/

namespace TensorrtBackend

variable {ι : Type}

/-- `DeviceBlockingArbitrator::InstanceList`. -/
structure InstanceList (ι : Type) where
  instances : List ι
  idx : ℕ := 0

/-- `device_instances_`. -/
abbrev DeviceInstances (ι : Type) := ℕ → Option (InstanceList ι)

/-- The list part of `RegisterInstance`. -/
def registerInstance (devices : DeviceInstances ι) (deviceId : ℕ) (inst : ι) : DeviceInstances ι :=
  match devices deviceId with
  | none => Function.update devices deviceId (some { instances := [inst] })
  | some il =>
      Function.update devices deviceId (some { il with instances := il.instances ++ [inst] })

/-- `il.idx_ = (il.idx_ + 1) % il.instances_.size()`. -/
def InstanceList.advance (il : InstanceList ι) : InstanceList ι :=
  { il with idx := (il.idx + 1) % il.instances.length }

/-- `ExecutionState`: the current instance, the instance whose semaphore is returned, and the lists
as they are left.  A device without instances is not asked. -/
def executionState (devices : DeviceInstances ι) (deviceId : ℕ) :
    Option ((ι × ι) × DeviceInstances ι) :=
  match devices deviceId with
  | none => none
  | some il =>
    match il.instances[il.idx]?, il.advance.instances[il.advance.idx]? with
    | some current, some next =>
        some ((current, next), Function.update devices deviceId (some il.advance))
    | _, _ => none

/-! ### The lists -/

/-- Every list names an instance by its index. -/
def IndexOk (devices : DeviceInstances ι) : Prop :=
  ∀ deviceId il, devices deviceId = some il → il.idx < il.instances.length

theorem InstanceList.advance_idx_lt {il : InstanceList ι} (h : il.idx < il.instances.length) :
    il.advance.idx < il.advance.instances.length :=
  Nat.mod_lt _ (by omega)

/-- An entry after an update is the one written or the one that was there. -/
theorem update_cases {α : Type} {f : ℕ → α} {i j : ℕ} {x y : α}
    (h : Function.update f i x j = y) : (j = i ∧ x = y) ∨ (j ≠ i ∧ f j = y) := by
  by_cases hj : j = i
  · subst hj
    rw [Function.update_self] at h
    exact Or.inl ⟨rfl, h⟩
  · rw [Function.update_of_ne hj] at h
    exact Or.inr ⟨hj, h⟩

/-- What `RegisterInstance` does to the lists. -/
theorem registerInstance_cases {devices : DeviceInstances ι} {deviceId : ℕ} {inst : ι} {d : ℕ}
    {il : InstanceList ι} (h : registerInstance devices deviceId inst d = some il) :
    (d = deviceId ∧ devices deviceId = none ∧ il = { instances := [inst] }) ∨
      (d = deviceId ∧ ∃ il', devices deviceId = some il' ∧
        il = { il' with instances := il'.instances ++ [inst] }) ∨
      (d ≠ deviceId ∧ devices d = some il) := by
  unfold registerInstance at h
  by_cases hd : d = deviceId
  · subst hd
    cases hold : devices d with
    | none =>
        simp only [hold, Function.update_self, Option.some.injEq] at h
        exact Or.inl ⟨rfl, rfl, h.symm⟩
    | some il' =>
        simp only [hold, Function.update_self, Option.some.injEq] at h
        exact Or.inr (Or.inl ⟨rfl, il', rfl, h.symm⟩)
  · refine Or.inr (Or.inr ⟨hd, ?_⟩)
    cases hold : devices deviceId with
    | none => simpa only [hold, Function.update_of_ne hd] using h
    | some il' => simpa only [hold, Function.update_of_ne hd] using h

/-- A device keeps having a list. -/
theorem registerInstance_isSome {devices : DeviceInstances ι} {d : ℕ} {il : InstanceList ι}
    (h : devices d = some il) (deviceId : ℕ) (inst : ι) :
    ∃ il', registerInstance devices deviceId inst d = some il' := by
  unfold registerInstance
  by_cases hd : d = deviceId
  · subst hd
    rw [h]
    exact ⟨_, Function.update_self _ _ _⟩
  · cases devices deviceId with
    | none => exact ⟨il, by rw [← h]; exact Function.update_of_ne hd _ _⟩
    | some il' => exact ⟨il, by rw [← h]; exact Function.update_of_ne hd _ _⟩

/-- What advancing the index of one device does to the lists. -/
theorem advance_cases {devices : DeviceInstances ι} {deviceId d : ℕ} {il il' : InstanceList ι}
    (h : Function.update devices deviceId (some il.advance) d = some il') :
    (d = deviceId ∧ il' = il.advance) ∨ (d ≠ deviceId ∧ devices d = some il') := by
  rcases update_cases h with ⟨hd, hnew⟩ | ⟨hd, hold⟩
  · exact Or.inl ⟨hd, (Option.some.inj hnew).symm⟩
  · exact Or.inr ⟨hd, hold⟩

theorem IndexOk.register {devices : DeviceInstances ι} (h : IndexOk devices) (deviceId : ℕ)
    (inst : ι) : IndexOk (registerInstance devices deviceId inst) := by
  intro d il hd
  rcases registerInstance_cases hd with ⟨-, -, rfl⟩ | ⟨-, il', hold, rfl⟩ | ⟨-, hold⟩
  · exact Nat.zero_lt_one
  · have hlt := h deviceId il' hold
    show il'.idx < (il'.instances ++ [inst]).length
    rw [List.length_append]
    omega
  · exact h d il hold

theorem IndexOk.advance {devices : DeviceInstances ι} (h : IndexOk devices) {deviceId : ℕ}
    {il : InstanceList ι} (hd : devices deviceId = some il) :
    IndexOk (Function.update devices deviceId (some il.advance)) := by
  intro d il' hd'
  rcases advance_cases hd' with ⟨-, rfl⟩ | ⟨-, hold⟩
  · exact InstanceList.advance_idx_lt (h deviceId il hd)
  · exact h d il' hold

/-- **One call of `ExecutionState`**: it returns the instances at the index and at the advanced
index, and advances the index of that device. -/
theorem executionState_eq_some_iff {devices devices' : DeviceInstances ι} {deviceId : ℕ}
    {current next : ι} :
    executionState devices deviceId = some ((current, next), devices') ↔
      ∃ il, devices deviceId = some il ∧ il.instances[il.idx]? = some current ∧
        il.instances[il.advance.idx]? = some next ∧
        devices' = Function.update devices deviceId (some il.advance) := by
  unfold executionState
  cases devices deviceId with
  | none => simp
  | some il =>
      have hinst : il.advance.instances = il.instances := rfl
      simp only [hinst, Option.some.injEq, exists_eq_left']
      cases il.instances[il.idx]? with
      | none => simp
      | some x =>
          cases il.instances[il.advance.idx]? with
          | none => simp
          | some y => simp [Prod.mk.injEq, and_assoc, eq_comm]

/-- A device with a nonempty list can be asked. -/
theorem executionState_isSome {devices : DeviceInstances ι} (h : IndexOk devices) {deviceId : ℕ}
    {il : InstanceList ι} (hd : devices deviceId = some il) :
    ∃ current next, executionState devices deviceId =
      some ((current, next), Function.update devices deviceId (some il.advance)) := by
  have hlt := h deviceId il hd
  have hlt' := InstanceList.advance_idx_lt hlt
  refine ⟨il.instances[il.idx], il.advance.instances[il.advance.idx], ?_⟩
  rw [executionState_eq_some_iff]
  exact ⟨il, hd, List.getElem?_eq_getElem hlt, List.getElem?_eq_getElem hlt', rfl⟩

/-! ### Lifecycles -/

variable [DecidableEq ι]

/-- The arbitrator's lists, and which instances have been registered and finalised. -/
structure LifecycleState (ι : Type) where
  devices : DeviceInstances ι := fun _ => none
  registered : List ι := []
  finalised : List ι := []

/-- What happens to the instances of a model. -/
inductive LifecycleAction (ι : Type)
  /-- `Create` ends in `RegisterInstance`. -/
  | create (deviceId : ℕ) (inst : ι)
  /-- `TRITONBACKEND_ModelInstanceExecute` calls `ExecutionState`. -/
  | execute (deviceId : ℕ)
  /-- `TRITONBACKEND_ModelInstanceFinalize` deletes the instance. -/
  | finalize (inst : ι)

/-- One lifecycle call. -/
def lifecycleStep (s : LifecycleState ι) : LifecycleAction ι → Option (LifecycleState ι)
  | .create deviceId inst =>
      if inst ∈ s.registered then none
      else
        some { s with
          devices := registerInstance s.devices deviceId inst
          registered := inst :: s.registered }
  | .execute deviceId =>
      (executionState s.devices deviceId).map fun r => { s with devices := r.2 }
  | .finalize inst =>
      if inst ∈ s.registered ∧ inst ∉ s.finalised then
        some { s with finalised := inst :: s.finalised }
      else none

/-- The lifecycles of the instances of one model. -/
def Lifecycle (ι : Type) [DecidableEq ι] : StepSystem (LifecycleState ι) (LifecycleAction ι) where
  init s := s = {}
  step := lifecycleStep

/-- The instance has been registered and not finalised. -/
def LifecycleState.Live (s : LifecycleState ι) (inst : ι) : Prop :=
  inst ∈ s.registered ∧ inst ∉ s.finalised

/-- Some instance of the device is live. -/
def HasLive (s : LifecycleState ι) (deviceId : ℕ) : Prop :=
  ∃ il, s.devices deviceId = some il ∧ ∃ inst ∈ il.instances, s.Live inst

/-- As long as the device has a live instance, `ExecutionState` on it would return a live instance
and the semaphore of one. -/
def ReturnsLive (s : LifecycleState ι) (deviceId : ℕ) : Prop :=
  HasLive s deviceId → ∀ current next devices',
    executionState s.devices deviceId = some ((current, next), devices') →
      s.Live current ∧ s.Live next

/-- The invariant: indices name instances, and what is listed has been registered. -/
structure LifecycleState.Ok (s : LifecycleState ι) : Prop where
  index : IndexOk s.devices
  listed : ∀ deviceId il, s.devices deviceId = some il → ∀ inst ∈ il.instances,
    inst ∈ s.registered

theorem lifecycleStep_ok {s t : LifecycleState ι} {a : LifecycleAction ι} (h : s.Ok)
    (ht : lifecycleStep s a = some t) : t.Ok := by
  cases a with
  | create deviceId inst =>
      rw [lifecycleStep] at ht
      split at ht
      · cases ht
      · cases ht
        refine ⟨h.index.register deviceId inst, fun d il hd x hx => ?_⟩
        show x ∈ inst :: s.registered
        rcases registerInstance_cases hd with ⟨-, -, rfl⟩ | ⟨-, il', hold, rfl⟩ | ⟨-, hold⟩
        · rw [List.mem_singleton.mp hx]
          exact List.mem_cons_self
        · rcases List.mem_append.mp hx with hx | hx
          · exact List.mem_cons_of_mem _ (h.listed deviceId il' hold x hx)
          · rw [List.mem_singleton.mp hx]
            exact List.mem_cons_self
        · exact List.mem_cons_of_mem _ (h.listed d il hold x hx)
  | execute deviceId =>
      obtain ⟨⟨⟨current, next⟩, devices'⟩, hexec, rfl⟩ := Option.map_eq_some_iff.mp ht
      obtain ⟨il, hd, -, -, rfl⟩ := executionState_eq_some_iff.mp hexec
      refine ⟨h.index.advance hd, fun d il' hd' x hx => ?_⟩
      rcases advance_cases hd' with ⟨-, rfl⟩ | ⟨-, hold⟩
      · exact h.listed deviceId il hd x hx
      · exact h.listed d il' hold x hx
  | finalize inst =>
      rw [lifecycleStep] at ht
      split at ht
      · cases ht
        exact ⟨h.index, h.listed⟩
      · cases ht

theorem lifecycle_inductive : (Lifecycle ι).Inductive LifecycleState.Ok where
  init s hs := by
    have hs' : s = {} := hs
    subst hs'
    constructor
    · intro d il hd
      cases hd
    · intro d il hd
      cases hd
  step s a t h ht := lifecycleStep_ok h ht

/-! ### Further executions -/

/-- `n` executions on one device: nothing but its index changes. -/
theorem run_executes {s : LifecycleState ι} (h : s.Ok) {deviceId : ℕ} {il : InstanceList ι}
    (hd : s.devices deviceId = some il) (n : ℕ) :
    ∃ t, (Lifecycle ι).run s (List.replicate n (.execute deviceId)) = some t ∧
      t.registered = s.registered ∧ t.finalised = s.finalised ∧
      t.devices deviceId = some { il with idx := (il.idx + n) % il.instances.length } := by
  induction n generalizing s il with
  | zero =>
      refine ⟨s, rfl, rfl, rfl, ?_⟩
      rw [Nat.add_zero, Nat.mod_eq_of_lt (h.index deviceId il hd)]
      exact hd
  | succ n ih =>
      obtain ⟨current, next, hexec⟩ := executionState_isSome h.index hd
      have hstep : (Lifecycle ι).step s (.execute deviceId) = some
          { s with devices := Function.update s.devices deviceId (some il.advance) } := by
        show (executionState s.devices deviceId).map _ = _
        rw [hexec]
        rfl
      have hdt' : (Function.update s.devices deviceId (some il.advance)) deviceId =
          some il.advance := Function.update_self _ _ _
      obtain ⟨t, ht, hreg, hfin, hdt⟩ := ih (lifecycle_inductive.step _ _ _ h hstep) hdt'
      refine ⟨t, ?_, hreg, hfin, ?_⟩
      · rw [List.replicate_succ, StepSystem.run_cons_eq_some]
        exact ⟨_, hstep, ht⟩
      · rw [hdt]
        have hidx : ((il.idx + 1) % il.instances.length + n) % il.instances.length =
            (il.idx + (n + 1)) % il.instances.length := by
          rw [Nat.mod_add_mod, Nat.add_assoc, Nat.add_comm 1 n]
        show some { il with idx := ((il.idx + 1) % il.instances.length + n) %
          il.instances.length } = _
        rw [hidx]

/-- **When executions return live instances.**  From a reachable state with a live instance on the
device, every further execution on the device returns a live instance and the semaphore of one if
and only if no instance registered on the device has been finalised. -/
theorem executionState_live_iff {s : LifecycleState ι} (hs : (Lifecycle ι).Reachable s)
    {deviceId : ℕ} {il : InstanceList ι} (hd : s.devices deviceId = some il)
    (hlive : HasLive s deviceId) :
    (∀ n t, (Lifecycle ι).run s (List.replicate n (.execute deviceId)) = some t →
        ReturnsLive t deviceId) ↔ ∀ inst ∈ il.instances, inst ∉ s.finalised := by
  have hok : s.Ok := hs.of_inductive lifecycle_inductive
  constructor
  · intro hall inst hinst
    obtain ⟨p, hp, hpi⟩ := List.getElem_of_mem hinst
    have hidx := hok.index deviceId il hd
    -- The number of executions that bring the index to `p`.
    obtain ⟨t, ht, hreg, hfin, hdt⟩ := run_executes hok hd (p + il.instances.length - il.idx)
    have hreach : (il.idx + (p + il.instances.length - il.idx)) % il.instances.length = p := by
      rw [show il.idx + (p + il.instances.length - il.idx) = p + il.instances.length by omega,
        Nat.add_mod_right, Nat.mod_eq_of_lt hp]
    rw [hreach] at hdt
    have htok : t.Ok := (hs.run ht).of_inductive lifecycle_inductive
    obtain ⟨current, next, hexec⟩ := executionState_isSome htok.index hdt
    obtain ⟨il', hd', hcur, -, -⟩ := executionState_eq_some_iff.mp hexec
    rw [hdt] at hd'
    cases hd'
    have hcur' : current = inst := by
      have hget : il.instances[p]? = some inst := by rw [List.getElem?_eq_getElem hp, hpi]
      exact Option.some.inj (hcur.symm.trans hget)
    have hlive' : HasLive t deviceId := by
      obtain ⟨il₀, hd₀, x, hx, hxlive⟩ := hlive
      rw [hd] at hd₀
      cases hd₀
      exact ⟨_, hdt, x, hx, hreg ▸ hxlive.1, hfin ▸ hxlive.2⟩
    have hret := (hall _ t ht hlive' _ _ _ hexec).1.2
    rw [hcur', hfin] at hret
    exact hret
  · intro hnone n t ht _ current next devices' hexec
    obtain ⟨t', ht', hreg, hfin, hdt⟩ := run_executes hok hd n
    have htt : t = t' := Option.some.inj (ht.symm.trans ht')
    subst htt
    obtain ⟨il', hd', hcur, hnext, -⟩ := executionState_eq_some_iff.mp hexec
    rw [hdt] at hd'
    cases hd'
    have hmem : ∀ (i : ℕ) (inst : ι), il.instances[i]? = some inst → t.Live inst := by
      intro i inst hi
      have hin := List.mem_of_getElem? hi
      exact ⟨hreg ▸ hok.listed deviceId il hd inst hin, hfin ▸ hnone inst hin⟩
    exact ⟨hmem _ _ hcur, hmem _ _ hnext⟩

/-- Two instances registered on device 0, of which those in the list have been finalised. -/
def twoInstances (finalised : List ℕ) : LifecycleState ℕ where
  devices := registerInstance (registerInstance (fun _ => none) 0 0) 0 1
  registered := [1, 0]
  finalised := finalised

theorem twoInstances_list (finalised : List ℕ) :
    (twoInstances finalised).devices 0 = some { instances := [0, 1] } := rfl

theorem twoInstances_hasLive {finalised : List ℕ} (h : 1 ∉ finalised) :
    HasLive (twoInstances finalised) 0 :=
  ⟨_, twoInstances_list finalised, 1, by simp, by simp [twoInstances], h⟩

/-- The theorem for two live instances. -/
theorem executionState_live_iff_two :
    (∀ n t, (Lifecycle ℕ).run (twoInstances []) (List.replicate n (.execute 0)) = some t →
        ReturnsLive t 0) ↔ ∀ inst ∈ [0, 1], inst ∉ (twoInstances []).finalised := by
  have hreach : (Lifecycle ℕ).Reachable (twoInstances []) :=
    ⟨{}, [.create 0 0, .create 0 1], rfl, rfl⟩
  exact executionState_live_iff hreach (twoInstances_list []) (twoInstances_hasLive (by simp))

/-- **The slip**: once the first of two instances is finalised, the next execution is given it. -/
theorem executionState_returns_finalised :
    (Lifecycle ℕ).run {} [.create 0 0, .create 0 1, .finalize 0] = some (twoInstances [0]) ∧
      HasLive (twoInstances [0]) 0 ∧ ¬ ReturnsLive (twoInstances [0]) 0 := by
  have hlive : HasLive (twoInstances [0]) 0 := twoInstances_hasLive (by simp)
  refine ⟨rfl, hlive, fun hret => ?_⟩
  have hexec : executionState (twoInstances [0]).devices 0 = some ((0, 1),
      Function.update (twoInstances [0]).devices 0 (some { instances := [0, 1], idx := 1 })) := rfl
  exact (hret hlive _ _ _ hexec).1.2 List.mem_cons_self

end TensorrtBackend

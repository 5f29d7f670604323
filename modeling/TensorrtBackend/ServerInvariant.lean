import TensorrtBackend.Server

/-!
# What the threads of a device-blocked model keep

* `ServerState.Linked`: a thread is in a semaphore only at the stage at which it has called it, the
  event sets in flight are used in turn, and the permits add up as in `Permits`.
* `server_simulates_permits`: seen at the steps that change a count, the threads are a run of
  `Permits`.
* `event_sets_differ`: the executions whose permits are out use different event sets.
-/

namespace TensorrtBackend

variable {ι : Type}

/-- The phase of a thread in a semaphore, against the operation it may be in there. -/
def Fits (p : Monitor.Phase ℤ SemaphoreOp) : Option SemaphoreOp → Prop
  | none => p = .outside
  | some op => p.pending = none ∨ p.pending = some op

theorem fits_outside (e : Option SemaphoreOp) : Fits .outside e := by
  cases e with
  | none => rfl
  | some op => exact Or.inl rfl

/-- The instances an execution speaks of. -/
def IssueStage.mentions (st : IssueStage ι) (x : ι) : Prop :=
  match st with
  | .idle => False
  | .running current next | .failing current next => x = current ∨ x = next
  | .acquiring next => x = next

section Step

variable [DecidableEq ι]

/-- What holds of a semaphore by itself. -/
structure SemaphoreOk (m : Monitor.State (ServerThread ι) ℤ SemaphoreOp) : Prop where
  ok : m.Ok semaphore
  attended : m.Attended semaphore Int.toNat
  nonneg : 0 ≤ m.data

structure ServerState.Linked (config : PipelineConfig) (s : ServerState ι) : Prop where
  semaphores : ∀ x, SemaphoreOk (s.semaphores x)
  stage : ∀ x u, Fits ((s.semaphores x).phase u) (s.expected x u)
  known : ∀ d x, (s.issue d).mentions x → s.home x ≠ none
  fresh : ∀ x, s.home x = none → s.completion x = .waiting ∧ s.queue x = []
  turns : ∀ x, InTurn eventSetCount (s.inFlight x) (s.nextSet x)
  permits : s.permits.Ok config.semaphoreCount

variable {config : PipelineConfig} {s s₁ s' : ServerState ι} {inst x y : ι} {d d' : ℕ}
  {u v : ServerThread ι} {op : SemaphoreOp}
  {m m' : Monitor.State (ServerThread ι) ℤ SemaphoreOp}

/-! ### The semaphores -/

omit [DecidableEq ι] in
theorem SemaphoreOk.initial {count : ℤ} (h : 0 ≤ count) :
    SemaphoreOk ({ data := count } : Monitor.State (ServerThread ι) ℤ SemaphoreOp) where
  ok := Monitor.State.Ok.initial count
  attended := ⟨fun hw => absurd rfl hw, by simp⟩
  nonneg := h

theorem SemaphoreOk.step (h : SemaphoreOk m) {a : Monitor.Action (ServerThread ι) SemaphoreOp}
    (hs : Monitor.step semaphore m a = some m') : SemaphoreOk m' := by
  refine ⟨h.ok.step hs, semaphore_counted.attended_step h.ok h.attended hs, ?_⟩
  cases a with
  | perform t op =>
      obtain ⟨hdata, hg⟩ := h.ok.perform hs
      rw [hdata]
      have hnonneg := h.nonneg
      cases op with
      | acquire =>
          have hpos : 0 < m.data := of_decide_eq_true hg
          show 0 ≤ m.data - 1
          omega
      | release =>
          show 0 ≤ m.data + 1
          omega
  | call t op =>
      obtain ⟨-, rfl⟩ := Monitor.call_eq_some.mp hs
      exact h.nonneg
  | _ => exact (Monitor.quiet_step hs (by simp) (by simp)).1 ▸ h.nonneg

/-- A step of the semaphore that is not a call leaves each thread where it may be. -/
theorem Fits.step {a : Monitor.Action (ServerThread ι) SemaphoreOp} {e : Option SemaphoreOp}
    (h : Fits (m.phase u) e) (hs : Monitor.step semaphore m a = some m')
    (hcall : ∀ t op, a ≠ .call t op) : Fits (m'.phase u) e := by
  cases e with
  | none => exact Monitor.outside_of_step hs hcall h
  | some op =>
      have hkeep : (m'.phase u).pending = (m.phase u).pending ∨ (m'.phase u).pending = none := by
        cases a with
        | call t op => exact absurd rfl (hcall t op)
        | perform t op =>
            obtain ⟨-, hdone, hother⟩ := Monitor.pending_perform hs
            by_cases hu : u = t
            · subst hu
              exact Or.inr hdone
            · exact Or.inl (by rw [hother u hu])
        | _ => exact Or.inl ((Monitor.quiet_step hs (by simp) (by simp)).2 u)
      rcases hkeep with hsame | hdone
      · show (m'.phase u).pending = none ∨ (m'.phase u).pending = some op
        rw [hsame]
        exact h
      · exact Or.inl hdone

/-- A thread that expects to be in no semaphore is in none. -/
theorem ServerState.Linked.outside (h : s.Linked config) (hu : s.expected x u = none) :
    (s.semaphores x).phase u = .outside := by
  have hfits := h.stage x u
  rw [hu] at hfits
  exact hfits

/-- What is pending is what is expected. -/
theorem ServerState.Linked.expected_of_pending (h : s.Linked config)
    (hp : s.pending x u = some op) : s.expected x u = some op := by
  have hfits := h.stage x u
  rw [ServerState.pending] at hp
  cases he : s.expected x u with
  | none =>
      rw [he] at hfits
      rw [show (s.semaphores x).phase u = .outside from hfits] at hp
      cases hp
  | some op' =>
      rw [he] at hfits
      rcases hfits with hnone | hsome
      · rw [hnone] at hp
        cases hp
      · rw [← hsome, hp]

/-! ### Entering a semaphore -/

/-- What entering a semaphore changes: the entering thread is in its operation there, all the rest
is as before. -/
structure Entered (s s' : ServerState ι) (inst : ι) (u : ServerThread ι) (op : SemaphoreOp) :
    Prop where
  semaphores : (∀ x, SemaphoreOk (s.semaphores x)) → ∀ x, SemaphoreOk (s'.semaphores x)
  data : ∀ x, (s'.semaphores x).data = (s.semaphores x).data
  self : (s'.semaphores inst).phase u = .locking op
  other : ∀ x v, (x, v) ≠ (inst, u) → (s'.semaphores x).phase v = (s.semaphores x).phase v
  devices : s'.devices = s.devices
  home : s'.home = s.home
  issue : s'.issue = s.issue
  completion : s'.completion = s.completion
  nextSet : s'.nextSet = s.nextSet
  queue : s'.queue = s.queue

theorem entered (hc : s.callSemaphore inst u op = some s') : Entered s s' inst u op := by
  obtain ⟨hout, rfl⟩ := callSemaphore_eq_some.mp hc
  have hcall : Monitor.step semaphore (s.semaphores inst) (.call u op) =
      some ((s.semaphores inst).goto u (.locking op)) := Monitor.call_eq_some.mpr ⟨hout, rfl⟩
  refine ⟨fun h x => ?_, fun x => ?_, ?_, fun x v hne => ?_, rfl, rfl, rfl, rfl, rfl, rfl⟩
  · show SemaphoreOk (Function.update s.semaphores inst _ x)
    by_cases hx : x = inst
    · subst hx
      rw [Function.update_self]
      exact (h x).step hcall
    · rw [Function.update_of_ne hx]
      exact h x
  · show (Function.update s.semaphores inst _ x).data = _
    by_cases hx : x = inst
    · subst hx
      rw [Function.update_self]
      rfl
    · rw [Function.update_of_ne hx]
  · show (Function.update s.semaphores inst _ inst).phase u = _
    rw [Function.update_self, Monitor.goto_self]
  · show (Function.update s.semaphores inst _ x).phase v = _
    by_cases hx : x = inst
    · subst hx
      have hv : v ≠ u := fun hv => hne (by rw [hv])
      rw [Function.update_self, Monitor.goto_of_ne _ _ hv]
    · rw [Function.update_of_ne hx]

omit [DecidableEq ι] in
theorem Entered.pending_self (he : Entered s s' inst u op) : s'.pending inst u = some op := by
  rw [ServerState.pending, he.self]
  rfl

omit [DecidableEq ι] in
theorem Entered.pending_other (he : Entered s s' inst u op) (hv : v ≠ u) (x : ι) :
    s'.pending x v = s.pending x v := by
  rw [ServerState.pending, ServerState.pending, he.other x v fun h => hv (Prod.ext_iff.mp h).2]

/-- The entering thread was outside and expects to be where it enters; the others expect what they
did. -/
theorem Entered.stage (he : Entered s₁ s' inst u op) (hsem : s₁.semaphores = s.semaphores)
    (h : ∀ x v, Fits ((s.semaphores x).phase v) (s.expected x v))
    (hout : ∀ x, (s.semaphores x).phase u = .outside) (hself : s'.expected inst u = some op)
    (hother : ∀ x v, v ≠ u → s'.expected x v = s.expected x v) (x : ι) (v : ServerThread ι) :
    Fits ((s'.semaphores x).phase v) (s'.expected x v) := by
  by_cases hxv : (x, v) = (inst, u)
  · cases hxv
    rw [he.self, hself]
    exact Or.inr rfl
  · rw [he.other x v hxv, hsem]
    by_cases hv : v = u
    · subst hv
      rw [hout x]
      exact fits_outside _
    · rw [hother x v hv]
      exact h x v

/-! ### What the views depend on -/

omit [DecidableEq ι] in
theorem inFlight_congr (hcompletion : s'.completion x = s.completion x)
    (hqueue : s'.queue x = s.queue x)
    (hpending : s'.pending x (.completion x) = s.pending x (.completion x)) :
    s'.inFlight x = s.inFlight x := by
  rw [ServerState.inFlight, ServerState.inFlight, hcompletion, hqueue, hpending]

omit [DecidableEq ι] in
theorem phase_congr (hissue : s'.issue d = s.issue d)
    (hpending : ∀ x, s'.pending x (.device d) = s.pending x (.device d)) :
    s'.permits.phase d = s.permits.phase d := by
  show (s'.issue d).executePhase _ = (s.issue d).executePhase _
  rw [hissue, funext hpending]

/-- What a step from a linked state leaves: a run of `Permits`, and the fields of `Linked`. -/
structure Advanced (config : PipelineConfig) (s : ServerState ι) (a : ServerAction ι)
    (s' : ServerState ι) : Prop where
  permits : (Permits ι config.semaphoreCount).run s.permits a.permitActions = some s'.permits
  semaphores : ∀ x, SemaphoreOk (s'.semaphores x)
  stage : ∀ x u, Fits ((s'.semaphores x).phase u) (s'.expected x u)
  known : ∀ d x, (s'.issue d).mentions x → s'.home x ≠ none
  fresh : ∀ x, s'.home x = none → s'.completion x = .waiting ∧ s'.queue x = []
  turns : ∀ x, InTurn eventSetCount (s'.inFlight x) (s'.nextSet x)

/-- A step that changes nothing at the counts leaves the event sets in flight as they are. -/
theorem ServerState.Linked.quiet (h : s.Linked config) {a : ServerAction ι}
    (ha : a.permitActions = []) (hdevices : s'.devices = s.devices) (hhome : s'.home = s.home)
    (hnext : s'.nextSet = s.nextSet) (hdata : ∀ x, (s'.semaphores x).data = (s.semaphores x).data)
    (hflight : ∀ x, s'.inFlight x = s.inFlight x)
    (hphase : ∀ d, s'.permits.phase d = s.permits.phase d)
    (hsem : ∀ x, SemaphoreOk (s'.semaphores x))
    (hstage : ∀ x u, Fits ((s'.semaphores x).phase u) (s'.expected x u))
    (hknown : ∀ d x, (s'.issue d).mentions x → s.home x ≠ none)
    (hfresh : ∀ x, s.home x = none → s'.completion x = .waiting ∧ s'.queue x = []) :
    Advanced config s a s' where
  permits := by
    rw [ha, permits_congr hdevices hhome hdata (fun x => by rw [hflight x]) hphase]
    rfl
  semaphores := hsem
  stage := hstage
  known := hhome ▸ hknown
  fresh := hhome ▸ hfresh
  turns x := by
    rw [hflight x, hnext]
    exact h.turns x

/-! ### The steps of a device -/

/-- Another stage of a device that speaks of instances known before. -/
theorem ServerState.Linked.known_update (h : s.Linked config) {st : IssueStage ι}
    (hst : ∀ x, st.mentions x → s.home x ≠ none) (d' : ℕ) (x : ι)
    (hx : (Function.update s.issue d st d').mentions x) : s.home x ≠ none := by
  by_cases hd : d' = d
  · subst hd
    rw [Function.update_self] at hx
    exact hst x hx
  · rw [Function.update_of_ne hd] at hx
    exact h.known d' x hx

/-- A device whose thread has nothing to do with any semaphore. -/
theorem ServerState.Linked.device_outside (h : s.Linked config)
    (hissue : ∀ x, (s.issue d).expected x = none) (x : ι) :
    (s.semaphores x).phase (.device d) = .outside :=
  h.outside (hissue x)

/-- A device that has left the only semaphore it was ever in. -/
theorem ServerState.Linked.device_left (h : s.Linked config)
    (hleft : (s.semaphores inst).phase (.device d) = .outside)
    (hissue : ∀ x, inst ≠ x → (s.issue d).expected x = none) (x : ι) :
    (s.semaphores x).phase (.device d) = .outside := by
  by_cases hx : inst = x
  · exact hx ▸ hleft
  · exact h.outside (hissue x hx)

/-- A device that is in no semaphore goes to another stage. -/
theorem ServerState.Linked.stage_issue (h : s.Linked config) (st : IssueStage ι)
    (hout : ∀ x, (s.semaphores x).phase (.device d) = .outside)
    (hsem : s'.semaphores = s.semaphores) (hissue : s'.issue = Function.update s.issue d st)
    (hcompletion : s'.completion = s.completion) (x : ι) (v : ServerThread ι) :
    Fits ((s'.semaphores x).phase v) (s'.expected x v) := by
  rw [hsem]
  by_cases hv : v = .device d
  · subst hv
    rw [hout x]
    exact fits_outside _
  · rw [(expected_issue hissue hcompletion).2 hv]
    exact h.stage x v

/-- A completion thread that is in no semaphore goes to another stage. -/
theorem ServerState.Linked.stage_completion (h : s.Linked config) (st : CompletionStage)
    (hout : ∀ x, (s.semaphores x).phase (.completion inst) = .outside)
    (hsem : s'.semaphores = s.semaphores) (hissue : s'.issue = s.issue)
    (hcompletion : s'.completion = Function.update s.completion inst st) (x : ι)
    (v : ServerThread ι) : Fits ((s'.semaphores x).phase v) (s'.expected x v) := by
  rw [hsem]
  by_cases hv : v = .completion inst
  · subst hv
    rw [hout x]
    exact fits_outside _
  · rw [(expected_completion hissue hcompletion).2 hv]
    exact h.stage x v

/-- A device enters a semaphore at another stage. -/
theorem ServerState.Linked.deviceEnters (h : s.Linked config) {st : IssueStage ι}
    (he : Entered s₁ s' inst (.device d) op) (hsem : s₁.semaphores = s.semaphores)
    (hissue : s₁.issue = Function.update s.issue d st) (hcompletion : s₁.completion = s.completion)
    (hout : ∀ x, (s.semaphores x).phase (.device d) = .outside)
    (hst : st.expected inst = some op) :
    (∀ x, SemaphoreOk (s'.semaphores x)) ∧
      (∀ x v, Fits ((s'.semaphores x).phase v) (s'.expected x v)) ∧
      s'.permits.phase = Function.update s.permits.phase d
        (st.executePhase fun x => s'.pending x (.device d)) ∧
      ∀ x, s'.pending x (.completion x) = s.pending x (.completion x) := by
  have hissue' : s'.issue = Function.update s.issue d st := he.issue.trans hissue
  have hcompletion' : s'.completion = s.completion := he.completion.trans hcompletion
  have hpending : ∀ v, v ≠ .device d → ∀ x, s'.pending x v = s.pending x v := by
    intro v hv x
    rw [he.pending_other hv x, ServerState.pending, ServerState.pending, hsem]
  refine ⟨he.semaphores (hsem ▸ h.semaphores), he.stage hsem h.stage hout ?_ ?_, ?_, ?_⟩
  · rw [(expected_issue (v := .device d) hissue' hcompletion').1]
    exact hst
  · exact fun x v hv => (expected_issue hissue' hcompletion').2 hv
  · funext d'
    by_cases hd : d' = d
    · subst hd
      rw [Function.update_self]
      show (s'.issue d').executePhase _ = _
      rw [hissue', Function.update_self]
    · rw [Function.update_of_ne hd]
      refine phase_congr ?_ (hpending _ (by simp [hd]))
      rw [hissue', Function.update_of_ne hd]
  · exact fun x => hpending _ (by simp) x

theorem runFailed_advanced (h : s.Linked config)
    (hs : serverStep config s (.runFailed d) = some s') : Advanced config s (.runFailed d) s' := by
  rw [serverStep] at hs
  cases hissue : s.issue d with
  | running current next =>
      simp only [hissue] at hs
      have he := entered hs
      have hout : ∀ x, (s.semaphores x).phase (.device d) = .outside :=
        h.device_outside fun x => by rw [hissue]; rfl
      obtain ⟨hsem, hstage, hphase, hpending⟩ := h.deviceEnters he rfl rfl rfl hout (if_pos rfl)
      refine h.quiet rfl he.devices he.home he.nextSet he.data (fun x => ?_) (fun d' => ?_) hsem
        hstage ?_ ?_
      · exact inFlight_congr (congrFun he.completion x) (congrFun he.queue x) (hpending x)
      · rw [hphase]
        refine congrFun (Function.update_eq_self_iff.mpr ?_) d'
        show _ = (s.issue d).executePhase _
        rw [hissue]
        exact if_pos he.pending_self
      · rw [he.issue]
        refine fun d' x => h.known_update (fun x hx => h.known d x ?_) d' x
        rw [hissue]
        exact hx
      · rw [he.completion, he.queue]
        exact h.fresh
  | _ => simp only [hissue] at hs; cases hs

theorem failReleased_advanced (h : s.Linked config)
    (hs : serverStep config s (.failReleased d) = some s') :
    Advanced config s (.failReleased d) s' := by
  rw [serverStep] at hs
  cases hissue : s.issue d with
  | failing current next =>
      simp only [hissue] at hs
      obtain ⟨hleft, hs⟩ := Option.ite_none_right_eq_some.mp hs
      have hleft : (s.semaphores current).phase (.device d) = .outside := of_decide_eq_true hleft
      have he := entered hs
      have hout : ∀ x, (s.semaphores x).phase (.device d) = .outside := by
        refine h.device_left hleft fun x hx => ?_
        rw [hissue]
        exact if_neg hx
      obtain ⟨hsem, hstage, hphase, hpending⟩ := h.deviceEnters he rfl rfl rfl hout (if_pos rfl)
      refine h.quiet rfl he.devices he.home he.nextSet he.data (fun x => ?_) (fun d' => ?_) hsem
        hstage ?_ ?_
      · exact inFlight_congr (congrFun he.completion x) (congrFun he.queue x) (hpending x)
      · rw [hphase]
        refine congrFun (Function.update_eq_self_iff.mpr ?_) d'
        show _ = (s.issue d).executePhase _
        rw [hissue]
        have hnone : s.pending current (.device d) ≠ some .release := by
          rw [ServerState.pending, hleft]
          exact (Option.some_ne_none _).symm
        rw [IssueStage.executePhase, IssueStage.executePhase, if_neg hnone, if_pos he.pending_self]
      · rw [he.issue]
        refine fun d' x => h.known_update (fun x hx => h.known d x ?_) d' x
        rw [hissue]
        exact Or.inr hx
      · rw [he.completion, he.queue]
        exact h.fresh
  | _ => simp only [hissue] at hs; cases hs

theorem runQueued_advanced (h : s.Linked config)
    (hs : serverStep config s (.runQueued d) = some s') : Advanced config s (.runQueued d) s' := by
  rw [serverStep] at hs
  cases hissue : s.issue d with
  | running current next =>
      simp only [hissue] at hs
      have he := entered hs
      have hout : ∀ x, (s.semaphores x).phase (.device d) = .outside :=
        h.device_outside fun x => by rw [hissue]; rfl
      obtain ⟨hsem, hstage, hphase, hpending⟩ := h.deviceEnters he rfl rfl rfl hout (if_pos rfl)
      have hknown : ∀ x, (IssueStage.running current next).mentions x → s.home x ≠ none := by
        intro x hx
        refine h.known d x ?_
        rw [hissue]
        exact hx
      -- The payload is the last one in flight, on the event set that was next.
      have hflight : ∀ x, s'.inFlight x =
          if x = current then s.inFlight x ++ [s.nextSet x] else s.inFlight x := by
        intro x
        rw [ServerState.inFlight, ServerState.inFlight, he.completion, hpending x]
        by_cases hx : x = current
        · subst hx
          rw [if_pos rfl, List.append_assoc, he.queue]
          exact congrArg _ (Function.update_self x _ s.queue)
        · rw [if_neg hx, he.queue]
          exact congrArg _ (Function.update_of_ne hx _ s.queue)
      refine ⟨?_, hsem, hstage, ?_, ?_, fun x => ?_⟩
      · rw [ServerAction.permitActions, StepSystem.run_cons]
        have hrunning : s.permits.phase d = .issuing current next := by
          show (s.issue d).executePhase _ = _
          rw [hissue]
          rfl
        have hstep : permitStep config.semaphoreCount s.permits (.runQueued d) =
            some { s.permits with
              queued := Function.update s.permits.queued current (s.permits.queued current + 1)
              phase := Function.update s.permits.phase d (.acquiring next) } := by
          rw [permitStep, hrunning]
        rw [show (Permits ι config.semaphoreCount).step = permitStep config.semaphoreCount from rfl,
          hstep, Option.bind_some, StepSystem.run]
        refine congrArg some (permits_ext he.devices.symm (fun x => ?_) (fun x => ?_) (fun d' => ?_)
          he.home.symm)
        · exact (congrArg Int.toNat (he.data x)).symm
        · show Function.update s.permits.queued current _ x = (s'.inFlight x).length
          rw [hflight x]
          by_cases hx : x = current
          · subst hx
            rw [if_pos rfl, Function.update_self, List.length_append]
            rfl
          · rw [if_neg hx, Function.update_of_ne hx]
            rfl
        · rw [hphase, IssueStage.executePhase, if_pos he.pending_self]
      · rw [he.issue, he.home]
        have hnext : ∀ x, (IssueStage.acquiring next).mentions x → s.home x ≠ none :=
          fun x hx => hknown x (Or.inr hx)
        exact h.known_update hnext
      · intro x hx
        rw [he.home] at hx
        have hne : x ≠ current := by
          rintro rfl
          exact hknown x (Or.inl rfl) hx
        rw [he.completion, he.queue]
        show s.completion x = .waiting ∧ Function.update s.queue current _ x = []
        rw [Function.update_of_ne hne]
        exact h.fresh x hx
      · rw [hflight x, he.nextSet]
        show InTurn _ _ (Function.update s.nextSet current _ x)
        by_cases hx : x = current
        · subst hx
          rw [if_pos rfl, Function.update_self]
          exact (h.turns x).take
        · rw [if_neg hx, Function.update_of_ne hx]
          exact h.turns x
  | _ => simp only [hissue] at hs; cases hs

theorem acquired_advanced (h : s.Linked config)
    (hs : serverStep config s (.acquired d) = some s') : Advanced config s (.acquired d) s' := by
  rw [serverStep] at hs
  cases hissue : s.issue d with
  | acquiring next =>
      simp only [hissue] at hs
      obtain ⟨hleft, hs⟩ := Option.ite_none_right_eq_some.mp hs
      obtain rfl := Option.some.inj hs
      have hleft : (s.semaphores next).phase (.device d) = .outside := of_decide_eq_true hleft
      have hout : ∀ x, (s.semaphores x).phase (.device d) = .outside := by
        refine h.device_left hleft fun x hx => ?_
        rw [hissue]
        exact if_neg hx
      refine h.quiet rfl rfl rfl rfl (fun x => rfl) (fun x => rfl) (fun d' => ?_) h.semaphores
        (fun x v => ?_) (h.known_update fun x hx => hx.elim) h.fresh
      · by_cases hd : d' = d
        · subst hd
          show (Function.update s.issue d' _ d').executePhase _ = (s.issue d').executePhase _
          have hnone : s.pending next (.device d') ≠ some .acquire := by
            rw [ServerState.pending, hleft]
            exact (Option.some_ne_none _).symm
          rw [Function.update_self, hissue]
          exact (if_neg hnone).symm
        · exact phase_congr (Function.update_of_ne hd _ _) fun x => rfl
      · refine h.stage_issue .idle hout ?_ ?_ ?_ x v <;> rfl
  | _ => simp only [hissue] at hs; cases hs

theorem execute_advanced (h : s.Linked config)
    (hs : serverStep config s (.execute d) = some s') : Advanced config s (.execute d) s' := by
  rw [serverStep] at hs
  cases hissue : s.issue d with
  | idle =>
      simp only [hissue] at hs
      obtain ⟨⟨⟨current, next⟩, devices'⟩, hexec, rfl⟩ := Option.map_eq_some_iff.mp hs
      obtain ⟨il, hd, hcurrent, hnext, -⟩ := executionState_eq_some_iff.mp hexec
      have hout : ∀ x, (s.semaphores x).phase (.device d) = .outside :=
        h.device_outside fun x => by rw [hissue]; rfl
      have hhome : ∀ x ∈ il.instances, s.home x ≠ none := by
        intro x hx hnone
        have hsome : s.home x = some d := h.permits.home d il hd x hx
        rw [hsome] at hnone
        cases hnone
      refine ⟨?_, h.semaphores, fun x v => ?_, h.known_update ?_, h.fresh, h.turns⟩
      · have hidle : s.permits.phase d = .idle := by
          show (s.issue d).executePhase _ = _
          rw [hissue]
          rfl
        have hexec' : executionState s.permits.devices d = some ((current, next), devices') := hexec
        rw [ServerAction.permitActions, StepSystem.run_cons,
          show (Permits ι config.semaphoreCount).step = permitStep config.semaphoreCount from rfl,
          permitStep, hidle]
        simp only [hexec', Option.map_some, Option.bind_some, StepSystem.run]
        have hphase : Function.update s.permits.phase d (.issuing current next) = fun d' =>
            (Function.update s.issue d (.running current next) d').executePhase
              fun x => s.pending x (.device d') := by
          funext d'
          by_cases hd' : d' = d
          · subst hd'
            rw [Function.update_self, Function.update_self]
            rfl
          · rw [Function.update_of_ne hd', Function.update_of_ne hd']
            rfl
        rw [hphase]
        rfl
      · refine h.stage_issue (.running current next) hout ?_ ?_ ?_ x v <;> rfl
      · rintro x (rfl | rfl)
        · exact hhome x (List.mem_of_getElem? hcurrent)
        · exact hhome x (List.mem_of_getElem? hnext)
  | _ => simp only [hissue] at hs; cases hs

/-! ### Registration -/

/-- Nobody is in the semaphore of an instance that is not registered. -/
theorem ServerState.Linked.unused (h : s.Linked config) (hfree : s.home inst = none)
    (v : ServerThread ι) : (s.semaphores inst).phase v = .outside := by
  refine h.outside ?_
  cases v with
  | device d =>
      have hmention : ¬ (s.issue d).mentions inst := fun hm => h.known d inst hm hfree
      show (s.issue d).expected inst = none
      cases hissue : s.issue d with
      | idle => rfl
      | running current next => rfl
      | failing current next =>
          rw [hissue] at hmention
          exact if_neg fun hc => hmention (Or.inl hc.symm)
      | acquiring next =>
          rw [hissue] at hmention
          exact if_neg fun hn => hmention hn.symm
  | completion y =>
      show (if y = inst then (s.completion y).expected else none) = none
      by_cases hy : y = inst
      · subst hy
        rw [if_pos rfl, (h.fresh y hfree).1]
        rfl
      · exact if_neg hy

theorem register_advanced (h : s.Linked config)
    (hs : serverStep config s (.register d inst) = some s') :
    Advanced config s (.register d inst) s' := by
  have hpos : 1 ≤ config.semaphoreCount := by
    rw [PipelineConfig.semaphoreCount]
    split <;> decide
  rw [serverStep] at hs
  obtain ⟨hfree, hs⟩ := Option.ite_none_left_eq_some.mp hs
  have hfree : s.home inst = none := by simpa using hfree
  have hs := Option.some.inj hs
  have hsem : s'.semaphores = Function.update s.semaphores inst { data :=
      if (s.devices d).isNone then (config.semaphoreCount : ℤ) - 1 else config.semaphoreCount } := by
    rw [← hs]
  have hhome : s'.home = Function.update s.home inst (some d) := by rw [← hs]
  have hdevices : s'.devices = registerInstance s.devices d inst := by rw [← hs]
  have hissue : s'.issue = s.issue := by rw [← hs]
  have hcompletion : s'.completion = s.completion := by rw [← hs]
  have hqueue : s'.queue = s.queue := by rw [← hs]
  have hnext : s'.nextSet = s.nextSet := by rw [← hs]
  clear hs
  have hphase : ∀ x v, (s'.semaphores x).phase v = (s.semaphores x).phase v := by
    intro x v
    rw [hsem]
    by_cases hx : x = inst
    · subst hx
      rw [Function.update_self, h.unused hfree v]
    · rw [Function.update_of_ne hx]
  have hflight : ∀ x, s'.inFlight x = s.inFlight x := fun x =>
    inFlight_congr (congrFun hcompletion x) (congrFun hqueue x)
      (congrArg Monitor.Phase.pending (hphase x (.completion x)))
  have hunregistered : ∀ x, s'.home x = none → s.home x = none := by
    intro x hx
    rw [hhome] at hx
    by_cases hxi : x = inst
    · subst hxi
      exact hfree
    · rwa [Function.update_of_ne hxi] at hx
  refine ⟨?_, fun x => ?_, fun x v => ?_, fun d' x hx hnone => ?_, fun x hx => ?_, fun x => ?_⟩
  · have hfirst : ¬ ((s.permits.devices d).isNone && config.semaphoreCount == 0) := by
      simp [Nat.ne_of_gt hpos]
    have hstep : permitStep config.semaphoreCount s.permits (.register d inst) =
        some { s.permits with
          devices := registerInstance s.devices d inst
          count := Function.update s.permits.count inst
            (if (s.devices d).isNone then config.semaphoreCount - 1 else config.semaphoreCount)
          home := Function.update s.home inst (some d) } := by
      rw [permitStep, if_neg (by simp [ServerState.permits, hfree])]
      exact if_neg hfirst
    rw [ServerAction.permitActions, StepSystem.run_cons,
      show (Permits ι config.semaphoreCount).step = permitStep config.semaphoreCount from rfl, hstep,
      Option.bind_some, StepSystem.run]
    refine congrArg some (permits_ext hdevices.symm (fun x => ?_) (fun x => ?_) (fun d' => ?_)
      hhome.symm)
    · show Function.update s.permits.count inst _ x = (s'.semaphores x).data.toNat
      rw [hsem]
      by_cases hx : x = inst
      · subst hx
        rw [Function.update_self, Function.update_self]
        show _ = (if (s.devices d).isNone then (config.semaphoreCount : ℤ) - 1
          else config.semaphoreCount).toNat
        split <;> omega
      · rw [Function.update_of_ne hx, Function.update_of_ne hx]
        rfl
    · exact congrArg List.length (hflight x).symm
    · exact (phase_congr (congrFun hissue d')
        fun x => congrArg Monitor.Phase.pending (hphase x (.device d'))).symm
  · rw [hsem]
    by_cases hx : x = inst
    · subst hx
      rw [Function.update_self]
      refine SemaphoreOk.initial ?_
      split <;> omega
    · rw [Function.update_of_ne hx]
      exact h.semaphores x
  · have hexpected : s'.expected x v = s.expected x v := by
      cases v with
      | device d' => exact congrArg (IssueStage.expected x) (congrFun hissue d')
      | completion y =>
          show (if y = x then (s'.completion y).expected else none) = _
          rw [hcompletion]
          rfl
    rw [hphase, hexpected]
    exact h.stage x v
  · rw [hissue] at hx
    exact h.known d' x hx (hunregistered x hnone)
  · rw [hcompletion, hqueue]
    exact h.fresh x (hunregistered x hx)
  · rw [hflight x, hnext]
    exact h.turns x

/-! ### The steps of a completion thread -/

/-- A completion thread that does not expect to be in its semaphore is not. -/
theorem ServerState.Linked.completion_left (h : s.Linked config)
    (hcompletion : (s.completion inst).expected = none) :
    (s.semaphores inst).phase (.completion inst) = .outside := by
  refine h.outside ?_
  show (if inst = inst then (s.completion inst).expected else none) = none
  rw [hcompletion]
  exact ite_self _

/-- A completion thread that has nothing to do with its semaphore is in none. -/
theorem ServerState.Linked.completion_outside (h : s.Linked config)
    (hself : (s.semaphores inst).phase (.completion inst) = .outside) (x : ι) :
    (s.semaphores x).phase (.completion inst) = .outside := by
  by_cases hx : inst = x
  · exact hx ▸ hself
  · exact h.outside (if_neg hx)

/-- A stage of the completion thread of a registered instance is no news of the others. -/
theorem ServerState.Linked.fresh_update (h : s.Linked config) {st : CompletionStage}
    (hbusy : s.completion inst ≠ .waiting ∨ s.queue inst ≠ []) {queue : ι → List ℕ}
    (hqueue : ∀ x, x ≠ inst → queue x = s.queue x) (x : ι) (hx : s.home x = none) :
    Function.update s.completion inst st x = .waiting ∧ queue x = [] := by
  have hfresh := h.fresh x hx
  have hne : x ≠ inst := by
    rintro rfl
    exact hbusy.elim (fun hc => hc hfresh.1) fun hq => hq hfresh.2
  rw [Function.update_of_ne hne, hqueue x hne]
  exact hfresh

/-- The completion thread of an instance goes to another stage, with the same event sets in flight,
and is in no semaphore. -/
theorem ServerState.Linked.completionMoves (h : s.Linked config) {a : ServerAction ι}
    (ha : a.permitActions = []) {st : CompletionStage} {queue : ι → List ℕ}
    (hs : s' = { s with
      completion := Function.update s.completion inst st
      queue := queue })
    (hbusy : s.completion inst ≠ .waiting ∨ s.queue inst ≠ [])
    (hqueue : ∀ x, x ≠ inst → queue x = s.queue x)
    (hout : (s.semaphores inst).phase (.completion inst) = .outside)
    (hflight : st.inFlight none ++ queue inst = s.inFlight inst) : Advanced config s a s' := by
  have hpending : s.pending inst (.completion inst) = none := by
    rw [ServerState.pending, hout]
    rfl
  have hstage : ∀ x v, Fits ((s'.semaphores x).phase v) (s'.expected x v) :=
    h.stage_completion st (h.completion_outside hout) (by rw [hs]) (by rw [hs]) (by rw [hs])
  subst hs
  refine h.quiet ha rfl rfl rfl (fun x => rfl) (fun x => ?_) (fun d' => rfl) h.semaphores hstage
    h.known (h.fresh_update hbusy hqueue)
  by_cases hx : x = inst
  · subst hx
    show (Function.update s.completion x st x).inFlight (s.pending x (.completion x)) ++ queue x = _
    rw [Function.update_self, hpending]
    exact hflight
  · show (Function.update s.completion inst st x).inFlight (s.pending x (.completion x)) ++ queue x =
      _
    rw [Function.update_of_ne hx, hqueue x hx]
    rfl

theorem dequeue_advanced (h : s.Linked config)
    (hs : serverStep config s (.dequeue inst) = some s') : Advanced config s (.dequeue inst) s' := by
  rw [serverStep] at hs
  cases hcompletion : s.completion inst with
  | waiting =>
      cases hqueue : s.queue inst with
      | nil =>
          simp only [hcompletion, hqueue] at hs
          cases hs
      | cons eventSetIdx rest =>
          simp only [hcompletion, hqueue] at hs
          have hout : (s.semaphores inst).phase (.completion inst) = .outside :=
            h.completion_left (by rw [hcompletion]; rfl)
          refine h.completionMoves rfl (Option.some.inj hs).symm (Or.inr ?_)
            (fun x hx => Function.update_of_ne hx _ _) hout ?_
          · rw [hqueue]
            exact List.cons_ne_nil _ _
          · rw [ServerState.inFlight, hcompletion, hqueue, Function.update_self]
            rfl
  | _ => simp only [hcompletion] at hs; cases hs

theorem released_advanced (h : s.Linked config)
    (hs : serverStep config s (.released inst) = some s') : Advanced config s (.released inst) s' := by
  rw [serverStep] at hs
  cases hcompletion : s.completion inst with
  | releasing eventSetIdx =>
      simp only [hcompletion] at hs
      obtain ⟨hout, hs⟩ := Option.ite_none_right_eq_some.mp hs
      have hout : (s.semaphores inst).phase (.completion inst) = .outside := of_decide_eq_true hout
      refine h.completionMoves rfl (Option.some.inj hs).symm (Or.inl ?_) (fun x _ => rfl) hout ?_
      · rw [hcompletion]
        exact nofun
      · rw [ServerState.inFlight, hcompletion, ServerState.pending, hout]
        rfl
  | _ => simp only [hcompletion] at hs; cases hs

theorem responded_advanced (h : s.Linked config)
    (hs : serverStep config s (.responded inst) = some s') :
    Advanced config s (.responded inst) s' := by
  rw [serverStep] at hs
  cases hcompletion : s.completion inst with
  | responding =>
      simp only [hcompletion] at hs
      have hout : (s.semaphores inst).phase (.completion inst) = .outside :=
        h.completion_left (by rw [hcompletion]; rfl)
      refine h.completionMoves rfl (Option.some.inj hs).symm (Or.inl ?_) (fun x _ => rfl) hout ?_
      · rw [hcompletion]
        exact nofun
      · rw [ServerState.inFlight, hcompletion]
        rfl
  | _ => simp only [hcompletion] at hs; cases hs

theorem inputReady_advanced (h : s.Linked config)
    (hs : serverStep config s (.inputReady inst) = some s') :
    Advanced config s (.inputReady inst) s' := by
  rw [serverStep] at hs
  cases hcompletion : s.completion inst with
  | dequeued eventSetIdx =>
      simp only [hcompletion] at hs
      have he := entered hs
      have hissue : s'.issue = s.issue := he.issue
      have hcompletion' : s'.completion =
        Function.update s.completion inst (.releasing eventSetIdx) := he.completion
      have hout : (s.semaphores inst).phase (.completion inst) = .outside :=
        h.completion_left (by rw [hcompletion]; rfl)
      refine h.quiet rfl he.devices he.home he.nextSet he.data (fun x => ?_) (fun d' => ?_)
        (he.semaphores h.semaphores) (he.stage (s := s) rfl h.stage (h.completion_outside hout) ?_ ?_)
        ?_ ?_
      · by_cases hx : x = inst
        · subst hx
          rw [ServerState.inFlight, ServerState.inFlight, hcompletion', Function.update_self,
            he.pending_self, hcompletion, he.queue]
          rfl
        · refine inFlight_congr ?_ (congrFun he.queue x) (he.pending_other (by simp [hx]) x)
          rw [hcompletion', Function.update_of_ne hx]
      · exact phase_congr (congrFun he.issue d') (he.pending_other (by simp))
      · exact (expected_completion (x := inst) (v := .completion inst) hissue hcompletion').1
      · exact fun x v hv => (expected_completion hissue hcompletion').2 hv
      · rw [hissue]
        exact h.known
      · rw [hcompletion', he.queue]
        refine h.fresh_update (Or.inl ?_) fun x _ => rfl
        rw [hcompletion]
        exact nofun
  | _ => simp only [hcompletion] at hs; cases hs

/-! ### The steps inside a semaphore -/

theorem semaphoreStep_eq_some {a : Monitor.Action (ServerThread ι) SemaphoreOp}
    (hs : serverStep config s (.semaphore inst a) = some s') : (∀ t op, a ≠ .call t op) ∧
      ∃ m, Monitor.step semaphore (s.semaphores inst) a = some m ∧
        s' = { s with semaphores := Function.update s.semaphores inst m } := by
  cases a with
  | call t op => cases hs
  | _ =>
      obtain ⟨m, hm, rfl⟩ := Option.map_eq_some_iff.mp hs
      exact ⟨by simp, m, hm, rfl⟩

/-- The fields of `Linked` that a step inside a semaphore leaves, whatever it is. -/
theorem ServerState.Linked.inside (h : s.Linked config)
    {a : Monitor.Action (ServerThread ι) SemaphoreOp} (hcall : ∀ t op, a ≠ .call t op)
    (hm : Monitor.step semaphore (s.semaphores inst) a = some m)
    (hs : s' = { s with semaphores := Function.update s.semaphores inst m }) :
    (∀ x, SemaphoreOk (s'.semaphores x)) ∧
      ∀ x u, Fits ((s'.semaphores x).phase u) (s'.expected x u) := by
  subst hs
  refine ⟨fun x => ?_, fun x u => ?_⟩
  · show SemaphoreOk (Function.update s.semaphores inst m x)
    by_cases hx : x = inst
    · subst hx
      rw [Function.update_self]
      exact (h.semaphores x).step hm
    · rw [Function.update_of_ne hx]
      exact h.semaphores x
  · show Fits ((Function.update s.semaphores inst m x).phase u) (s.expected x u)
    by_cases hx : x = inst
    · subst hx
      rw [Function.update_self]
      exact (h.stage x u).step hm hcall
    · rw [Function.update_of_ne hx]
      exact h.stage x u

/-- A step that neither calls nor performs is not seen at the counts. -/
theorem silent_advanced (h : s.Linked config) {a : Monitor.Action (ServerThread ι) SemaphoreOp}
    (hperform : ∀ t op, a ≠ .perform t op)
    (hs : serverStep config s (.semaphore inst a) = some s') :
    Advanced config s (.semaphore inst a) s' := by
  obtain ⟨hcall, m, hm, hs⟩ := semaphoreStep_eq_some hs
  obtain ⟨hsem, hstage⟩ := h.inside hcall hm hs
  obtain ⟨hdata, hpending⟩ := Monitor.quiet_step hm hcall hperform
  have hsame : ∀ x, (s'.semaphores x).data = (s.semaphores x).data ∧
      ∀ u, s'.pending x u = s.pending x u := by
    intro x
    rw [hs]
    show (Function.update s.semaphores inst m x).data = _ ∧
      ∀ u, ((Function.update s.semaphores inst m x).phase u).pending = _
    by_cases hx : x = inst
    · subst hx
      rw [Function.update_self]
      exact ⟨hdata, hpending⟩
    · rw [Function.update_of_ne hx]
      exact ⟨rfl, fun u => rfl⟩
  have hacts : (ServerAction.semaphore inst a).permitActions = [] := by
    cases a with
    | perform t op => exact absurd rfl (hperform t op)
    | _ => rfl
  refine h.quiet hacts (by rw [hs]) (by rw [hs]) (by rw [hs]) (fun x => (hsame x).1) (fun x => ?_)
    (fun d' => ?_) hsem hstage ?_ ?_
  · exact inFlight_congr (by rw [hs]) (by rw [hs]) ((hsame x).2 _)
  · exact phase_congr (by rw [hs]) fun x => (hsame x).2 _
  · rw [hs]
    exact h.known
  · rw [hs]
    exact h.fresh

/-- What a performed operation leaves at the counts. -/
theorem performed_views (h : s.Linked config) {t : ServerThread ι}
    (hs : serverStep config s (.semaphore inst (.perform t op)) = some s') :
    s.expected inst t = some op ∧ s.pending inst t = some op ∧
      semaphore.guard op (s.semaphores inst).data = true ∧
      (∀ x, (s'.semaphores x).data = Function.update (fun x => (s.semaphores x).data) inst
        (semaphore.effect op (s.semaphores inst).data) x) ∧
      s'.pending inst t = none ∧
      ∀ x u, (x, u) ≠ (inst, t) → s'.pending x u = s.pending x u := by
  obtain ⟨-, m, hm, hs⟩ := semaphoreStep_eq_some hs
  obtain ⟨hdata, hguard⟩ := (h.semaphores inst).ok.perform hm
  obtain ⟨hbefore, hafter, hother⟩ := Monitor.pending_perform hm
  refine ⟨h.expected_of_pending hbefore, hbefore, hguard, fun x => ?_, ?_, fun x u hxu => ?_⟩
  · rw [hs]
    show (Function.update s.semaphores inst m x).data = _
    by_cases hx : x = inst
    · subst hx
      rw [Function.update_self, Function.update_self, hdata]
    · rw [Function.update_of_ne hx, Function.update_of_ne hx]
  · rw [hs]
    show ((Function.update s.semaphores inst m inst).phase t).pending = none
    rw [Function.update_self, hafter]
  · rw [hs]
    show ((Function.update s.semaphores inst m x).phase u).pending = _
    by_cases hx : x = inst
    · subst hx
      have hu : u ≠ t := fun hu => hxu (by rw [hu])
      rw [Function.update_self, hother u hu]
      rfl
    · rw [Function.update_of_ne hx]
      rfl

/-- One step of `Permits`. -/
theorem permits_run_single {initialCount : ℕ} {p q : PermitState ι} {a : PermitAction ι}
    (h : permitStep initialCount p a = some q) : (Permits ι initialCount).run p [a] = some q := by
  rw [StepSystem.run_cons, show (Permits ι initialCount).step p a = some q from h]
  rfl

theorem devicePerform_advanced (h : s.Linked config)
    (hs : serverStep config s (.semaphore inst (.perform (.device d) op)) = some s') :
    Advanced config s (.semaphore inst (.perform (.device d) op)) s' := by
  obtain ⟨hexpected, hbefore, hguard, hdata, hafter, hother⟩ := performed_views h hs
  obtain ⟨hcall, m, hm, hs'⟩ := semaphoreStep_eq_some hs
  obtain ⟨hsem, hstage⟩ := h.inside hcall hm hs'
  have hflight : ∀ x, s'.inFlight x = s.inFlight x := fun x =>
    inFlight_congr (by rw [hs']) (by rw [hs']) (hother x _ (by simp))
  have hissue : s'.issue = s.issue := by rw [hs']
  have hphase : ∀ d', d' ≠ d → s'.permits.phase d' = s.permits.phase d' := fun d' hd =>
    phase_congr (congrFun hissue d') fun x => hother x _ (by simp [hd])
  refine ⟨?_, hsem, hstage, by rw [hs']; exact h.known, by rw [hs']; exact h.fresh, fun x => ?_⟩
  swap
  · rw [hflight x, hs']
    exact h.turns x
  have hexpected : (s.issue d).expected inst = some op := hexpected
  have hcount : ∀ x, (s'.semaphores x).data.toNat = Function.update s.permits.count inst
      (semaphore.effect op (s.semaphores inst).data).toNat x := by
    intro x
    rw [hdata x]
    by_cases hx : x = inst
    · subst hx
      rw [Function.update_self, Function.update_self]
    · rw [Function.update_of_ne hx, Function.update_of_ne hx]
      rfl
  have hnonneg := (h.semaphores inst).nonneg
  cases hstage_d : s.issue d with
  | idle => rw [hstage_d] at hexpected; cases hexpected
  | running current next => rw [hstage_d] at hexpected; cases hexpected
  | failing current next =>
      -- The permit of the failed execution is put back.
      rw [hstage_d] at hexpected
      obtain ⟨rfl, hop⟩ := Option.ite_none_right_eq_some.mp hexpected
      obtain rfl := Option.some.inj hop
      have hissuing : s.permits.phase d = .issuing current next := by
        show (s.issue d).executePhase _ = _
        rw [hstage_d]
        exact if_pos hbefore
      refine (permits_run_single (q := { s.permits with
        count := Function.update s.permits.count current (s.permits.count current + 1)
        phase := Function.update s.permits.phase d (.acquiring next) }) ?_).trans ?_
      · rw [permitStep, hissuing]
      refine congrArg some (permits_ext (by rw [hs']; rfl) (fun x => ?_)
        (fun x => congrArg List.length (hflight x).symm) (fun d' => ?_) (by rw [hs']; rfl))
      · show _ = (s'.semaphores x).data.toNat
        rw [hcount x]
        have hsucc : (semaphore.effect .release (s.semaphores current).data).toNat =
            s.permits.count current + 1 := by
          show ((s.semaphores current).data + 1).toNat = (s.semaphores current).data.toNat + 1
          omega
        rw [hsucc]
      · by_cases hd : d' = d
        · subst hd
          show Function.update s.permits.phase d' _ d' = (s'.issue d').executePhase _
          rw [Function.update_self, hissue, hstage_d]
          have hnone : s'.pending current (.device d') ≠ some .release := by
            rw [hafter]
            exact (Option.some_ne_none _).symm
          exact (if_neg hnone).symm
        · rw [hphase d' hd]
          exact Function.update_of_ne hd _ _
  | acquiring next =>
      -- The permit for the next execution is taken.
      rw [hstage_d] at hexpected
      obtain ⟨rfl, hop⟩ := Option.ite_none_right_eq_some.mp hexpected
      obtain rfl := Option.some.inj hop
      have hacquiring : s.permits.phase d = .acquiring next := by
        show (s.issue d).executePhase _ = _
        rw [hstage_d]
        exact if_pos hbefore
      have hpos : 0 < s.permits.count next := by
        have hdatapos : 0 < (s.semaphores next).data := of_decide_eq_true hguard
        show 0 < (s.semaphores next).data.toNat
        omega
      refine (permits_run_single (q := { s.permits with
        count := Function.update s.permits.count next (s.permits.count next - 1)
        phase := Function.update s.permits.phase d .idle }) ?_).trans ?_
      · rw [permitStep, hacquiring]
        exact if_pos hpos
      refine congrArg some (permits_ext (by rw [hs']; rfl) (fun x => ?_)
        (fun x => congrArg List.length (hflight x).symm) (fun d' => ?_) (by rw [hs']; rfl))
      · show _ = (s'.semaphores x).data.toNat
        rw [hcount x]
        have hpred : (semaphore.effect .acquire (s.semaphores next).data).toNat =
            s.permits.count next - 1 := by
          show ((s.semaphores next).data - 1).toNat = (s.semaphores next).data.toNat - 1
          omega
        rw [hpred]
      · by_cases hd : d' = d
        · subst hd
          show Function.update s.permits.phase d' _ d' = (s'.issue d').executePhase _
          rw [Function.update_self, hissue, hstage_d]
          have hnone : s'.pending next (.device d') ≠ some .acquire := by
            rw [hafter]
            exact (Option.some_ne_none _).symm
          exact (if_neg hnone).symm
        · rw [hphase d' hd]
          exact Function.update_of_ne hd _ _

theorem completionPerform_advanced (h : s.Linked config)
    (hs : serverStep config s (.semaphore inst (.perform (.completion y) op)) = some s') :
    Advanced config s (.semaphore inst (.perform (.completion y) op)) s' := by
  obtain ⟨hexpected, hbefore, -, hdata, hafter, hother⟩ := performed_views h hs
  obtain ⟨hcall, m, hm, hs'⟩ := semaphoreStep_eq_some hs
  obtain ⟨hsem, hstage⟩ := h.inside hcall hm hs'
  have hissue : s'.issue = s.issue := by rw [hs']
  have hcompletion : s'.completion = s.completion := by rw [hs']
  have hqueue : s'.queue = s.queue := by rw [hs']
  obtain ⟨rfl, hop⟩ := Option.ite_none_right_eq_some.mp hexpected
  cases hreleasing : s.completion y with
  | waiting => rw [hreleasing] at hop; cases hop
  | dequeued eventSetIdx => rw [hreleasing] at hop; cases hop
  | responding => rw [hreleasing] at hop; cases hop
  | releasing eventSetIdx =>
      rw [hreleasing] at hop
      obtain rfl := Option.some.inj hop
      -- The payload is the oldest one in flight.
      have hself : s.inFlight y = eventSetIdx :: s'.inFlight y := by
        rw [ServerState.inFlight, ServerState.inFlight, hcompletion, hqueue, hreleasing, hbefore,
          hafter]
        rfl
      have hflight : ∀ x, x ≠ y → s'.inFlight x = s.inFlight x := fun x hx =>
        inFlight_congr (congrFun hcompletion x) (congrFun hqueue x) (hother x _ (by simp [hx]))
      refine ⟨?_, hsem, hstage, by rw [hs']; exact h.known, by rw [hs']; exact h.fresh, fun x => ?_⟩
      · have hpos : 0 < s.permits.queued y := by
          show 0 < (s.inFlight y).length
          rw [hself]
          exact Nat.succ_pos _
        refine (permits_run_single (q := { s.permits with
          queued := Function.update s.permits.queued y (s.permits.queued y - 1)
          count := Function.update s.permits.count y (s.permits.count y + 1) }) ?_).trans ?_
        · rw [permitStep]
          exact if_pos hpos
        refine congrArg some (permits_ext (by rw [hs']; rfl) (fun x => ?_) (fun x => ?_)
          (fun d' => ?_) (by rw [hs']; rfl))
        · show Function.update s.permits.count y _ x = (s'.semaphores x).data.toNat
          rw [hdata x]
          by_cases hx : x = y
          · subst hx
            have hnonneg := (h.semaphores x).nonneg
            rw [Function.update_self, Function.update_self]
            show (s.semaphores x).data.toNat + 1 = ((s.semaphores x).data + 1).toNat
            omega
          · rw [Function.update_of_ne hx, Function.update_of_ne hx]
            rfl
        · show Function.update s.permits.queued y _ x = (s'.inFlight x).length
          by_cases hx : x = y
          · subst hx
            rw [Function.update_self]
            show (s.inFlight x).length - 1 = _
            rw [hself]
            rfl
          · rw [Function.update_of_ne hx, hflight x hx]
            rfl
        · exact (phase_congr (congrFun hissue d') fun x => hother x _ (by simp)).symm
      · rw [show s'.nextSet = s.nextSet by rw [hs']]
        by_cases hx : x = y
        · subst hx
          have hturns := h.turns x
          rw [hself] at hturns
          exact hturns.giveBack
        · rw [hflight x hx]
          exact h.turns x

/-! ### Every step -/

theorem advanced (h : s.Linked config) {a : ServerAction ι} (hs : serverStep config s a = some s') :
    Advanced config s a s' := by
  cases a with
  | register d inst => exact register_advanced h hs
  | execute d => exact execute_advanced h hs
  | runFailed d => exact runFailed_advanced h hs
  | runQueued d => exact runQueued_advanced h hs
  | failReleased d => exact failReleased_advanced h hs
  | acquired d => exact acquired_advanced h hs
  | dequeue inst => exact dequeue_advanced h hs
  | inputReady inst => exact inputReady_advanced h hs
  | released inst => exact released_advanced h hs
  | responded inst => exact responded_advanced h hs
  | semaphore inst a =>
      cases a with
      | perform t op =>
          cases t with
          | device d => exact devicePerform_advanced h hs
          | completion y => exact completionPerform_advanced h hs
      | _ => exact silent_advanced h (by simp) hs

theorem linked_initial : ({} : ServerState ι).Linked config where
  semaphores _ := SemaphoreOk.initial (le_refl 0)
  stage _ _ := fits_outside _
  known _ _ hx := hx.elim
  fresh _ _ := ⟨rfl, rfl⟩
  turns _ := InTurn.nil (show 0 < eventSetCount by decide)
  permits := (permits_inductive config.semaphoreCount).init _ rfl

theorem linked_inductive : (Server ι config).Inductive (ServerState.Linked config) where
  init s hs := by
    obtain rfl : s = {} := hs
    exact linked_initial
  step s a s' h hs := by
    have hadv := advanced h hs
    exact ⟨hadv.semaphores, hadv.stage, hadv.known, hadv.fresh, hadv.turns,
      StepSystem.run_invariant (permits_inductive config.semaphoreCount).step h.permits hadv.permits⟩

/-- **Refinement.** The threads on the real semaphores, seen at the steps that change a count, are a
run of `Permits`. -/
theorem server_simulates_permits : (Server ι config).Simulation
    (Permits ι config.semaphoreCount) (ServerState.Linked config) ServerState.permits
    ServerAction.permitActions where
  init s hs := by
    obtain rfl : s = {} := hs
    exact rfl
  step _ _ _ h hs := (advanced h hs).permits

/-- **Every run of the threads is a run of the counts**, action by action, and so no instance ever
has more executions whose permits are out than its semaphore was built with. -/
theorem server_runs_permits {as : List (ServerAction ι)} (hr : (Server ι config).run {} as = some s) :
    (Permits ι config.semaphoreCount).run {} (as.flatMap ServerAction.permitActions) =
        some s.permits ∧
      ∀ d il, s.devices d = some il → ∀ inst ∈ il.instances,
        (s.inFlight inst).length + (s.permits.phase d).running inst ≤ config.semaphoreCount := by
  have hrun := server_simulates_permits.run linked_inductive.step linked_initial hr
  have hreach : (Permits ι config.semaphoreCount).Reachable s.permits := ⟨{}, _, rfl, hrun⟩
  refine ⟨hrun, fun d il hd inst hinst => ?_⟩
  have hok := hreach.of_inductive (permits_inductive config.semaphoreCount)
  have hconserved := hok.conserved d il hd inst hinst
  have hout : s.permits.unreleased d inst =
      (s.inFlight inst).length + (s.permits.phase d).running inst := rfl
  omega

end Step

/-- With eager batching: one execution of the only instance is queued and its permit acquired again,
and the next one has started. -/
def eagerSchedule : List (ServerAction ℕ) :=
  [.register 0 0, .execute 0, .runQueued 0, .semaphore 0 (.lock (.device 0)),
    .semaphore 0 (.read (.device 0)), .semaphore 0 (.perform (.device 0) .acquire),
    .semaphore 0 (.unlock (.device 0)), .acquired 0, .execute 0]

/-- The theorem for that run. -/
theorem server_runs_permits_eager :
    ∃ s, (Server ℕ { eagerBatching := true }).run {} eagerSchedule = some s ∧
      (Permits ℕ 3).run {} [.register 0 0, .execute 0, .runQueued 0, .acquire 0, .execute 0] =
        some s.permits ∧
      (s.inFlight 0).length + (s.permits.phase 0).running 0 ≤ 3 := by
  obtain ⟨s, hs⟩ : ∃ s, (Server ℕ { eagerBatching := true }).run {} eagerSchedule = some s := ⟨_, rfl⟩
  have hd : s.devices 0 = some { instances := [0], idx := 0 } := by
    cases hs
    rfl
  have hacts : eagerSchedule.flatMap ServerAction.permitActions =
      [.register 0 0, .execute 0, .runQueued 0, .acquire 0, .execute 0] := rfl
  obtain ⟨hrun, hout⟩ := server_runs_permits hs
  have hcount : ({ eagerBatching := true } : PipelineConfig).semaphoreCount = 3 := rfl
  rw [hacts, hcount] at hrun
  exact ⟨s, hs, hrun, hout 0 _ hd 0 List.mem_cons_self⟩

section Step

variable [DecidableEq ι] {config : PipelineConfig} {s : ServerState ι} {inst : ι} {d : ℕ}

/-! ### Event sets -/

/-- **Event sets are not shared.**  In every reachable state, for every instance registered on a
device: the executions whose permits are out, queued or with the completion thread, are on different
event sets, and the one that `Run` is recording on is none of them. -/
theorem event_sets_differ (hs : (Server ι config).Reachable s) {il : InstanceList ι}
    (hd : s.devices d = some il) (hinst : inst ∈ il.instances) :
    (s.inFlight inst).Nodup ∧
      ∀ next, s.issue d = .running inst next → s.nextSet inst ∉ s.inFlight inst := by
  have hlinked := hs.of_inductive linked_inductive
  have hcount : config.semaphoreCount ≤ eventSetCount := by
    rw [PipelineConfig.semaphoreCount]
    split <;> decide
  have hconserved := hlinked.permits.conserved d il hd inst hinst
  have hunreleased : (s.inFlight inst).length + (s.permits.phase d).running inst ≤ eventSetCount := by
    have hout : s.permits.unreleased d inst =
        (s.inFlight inst).length + (s.permits.phase d).running inst := rfl
    omega
  refine ⟨(hlinked.turns inst).nodup (by omega), fun next hissue => ?_⟩
  refine (hlinked.turns inst).next_not_mem ?_
  have hrunning : (s.permits.phase d).running inst = 1 := by
    show ((s.issue d).executePhase _).running inst = 1
    rw [hissue]
    exact if_pos rfl
  omega

end Step

/-- The theorem for that run: the payload is on the first event set, `Run` is recording on the
second. -/
theorem event_sets_differ_eager :
    ∃ s, (Server ℕ { eagerBatching := true }).run {} eagerSchedule = some s ∧
      s.inFlight 0 = [0] ∧ s.nextSet 0 = 1 ∧ (s.inFlight 0).Nodup ∧ s.nextSet 0 ∉ s.inFlight 0 := by
  obtain ⟨s, hs⟩ : ∃ s, (Server ℕ { eagerBatching := true }).run {} eagerSchedule = some s := ⟨_, rfl⟩
  have hreach : (Server ℕ { eagerBatching := true }).Reachable s := ⟨{}, _, rfl, hs⟩
  have hd : s.devices 0 = some { instances := [0], idx := 0 } := by
    cases hs
    rfl
  have hissue : s.issue 0 = .running 0 0 := by
    cases hs
    rfl
  have hflight : s.inFlight 0 = [0] ∧ s.nextSet 0 = 1 := by
    cases hs
    exact ⟨rfl, rfl⟩
  have h := event_sets_differ hreach hd List.mem_cons_self
  exact ⟨s, hs, hflight.1, hflight.2, h.1, h.2 0 hissue⟩

end TensorrtBackend

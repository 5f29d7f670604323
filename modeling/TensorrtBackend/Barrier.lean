import TensorrtBackend.Completion
import TensorrtBackend.Pipeline

/-!
# The barrier of the implicit state

`Run` replaces `barrier_` by a fresh promise, whether it fails later or not.  After a `Run` that did
not fail, `ProcessRequests` waits for the promise; the completion thread fulfils whatever promise
`barrier_` holds when the states of its payload are updated.

A promise is named by the number of the call of `ProcessRequests` whose `Run` created it, so that
one that is replaced can be told from the one that takes its place.

* `Barrier.Threads`: the transition system of both threads.
* `Barrier.inductive_ok`: where the payloads, the promise and the issue thread can be.
* `Barrier.promise_fulfilled_in_turn`: what is done to a promise, and when a `Run` can begin.
-/

namespace TensorrtBackend.Barrier

/-- A payload: the call it is of, `responder_`, and how `TRITONBACKEND_StateUpdate` will turn out
for each of its `seq_states_`. -/
structure Payload where
  call : ℕ
  responder : Bool
  seqStates : List (Option Error)
  deriving DecidableEq

/-- Where the thread that calls `ProcessRequests` is. -/
inductive IssuePhase
  /-- It holds the permit for the next call. -/
  | ready
  | running
  /-- The payload is put on the queue; `barrier_` is looked at next. -/
  | handedOver
  /-- `semaphore->Acquire()`. -/
  | acquiring
  /-- In the destructor, joining the completion thread. -/
  | joining
  deriving DecidableEq

/-- Where the completion thread is. -/
inductive CompletionPhase
  | waiting
  | dequeued (p : Payload)
  /-- The semaphore is released; the responder is finalized next. -/
  | released (p : Payload)
  /-- In the loop over `seq_states_`, with the updates still to be made. -/
  | updating (p : Payload) (rest : List (Option Error))
  /-- Behind the barrier. -/
  | responding (p : Payload)
  /-- Out of the loop by the null payload. -/
  | finished
  /-- Out of `ProcessResponse` by a failed update. -/
  | returned (p : Payload) (rest : List (Option Error))
  /-- In `Finalize` of a null responder. -/
  | crashed (p : Payload)
  deriving DecidableEq

/-- Both threads.  `calls` counts the executions begun, `fulfilments` how often each promise was
fulfilled. -/
structure State where
  count : ℕ
  issue : IssuePhase := .ready
  calls : ℕ := 0
  barrier : Option ℕ := none
  fulfilments : ℕ → ℕ := fun _ => 0
  queue : List (Option Payload) := []
  completion : CompletionPhase := .waiting

/-- The steps of the two threads. -/
inductive Action
  | runStart
  | runFail
  /-- `Run` leaves requests to serve: whether it got to create the responder, and the states. -/
  | runSucceed (responder : Bool) (seqStates : List (Option Error))
  /-- Behind `barrier_->get_future().wait()`, if there is a barrier. -/
  | barrierPass
  | acquire
  /-- The destructor puts the null payload. -/
  | destroy
  | dequeue
  | release
  | finalize
  | updateState
  /-- `barrier_->set_value()`, if there is a barrier. -/
  | setValue
  | respond
  deriving DecidableEq

/-- What `barrier_` is once `Run` has begun. -/
def State.beginRun (config : PipelineConfig) (s : State) : State :=
  { s with
    issue := .running
    calls := s.calls + 1
    barrier := if config.usesImplicitState then some s.calls else s.barrier }

/-- `barrier_->set_value()` on the promise `barrier_` holds. -/
def State.setValue (s : State) : State :=
  match s.barrier with
  | none => s
  | some k => { s with fulfilments := Function.update s.fulfilments k (s.fulfilments k + 1) }

/-- The promise `barrier_` holds is fulfilled, or there is none. -/
def State.barrierOpen (s : State) : Bool :=
  match s.barrier with
  | none => true
  | some k => decide (0 < s.fulfilments k)

/-- One step; `none` when it is blocked or not enabled. -/
def step (config : PipelineConfig) (s : State) : Action → Option State
  | .runStart => if s.issue = .ready then some (s.beginRun config) else none
  | .runFail =>
      if s.issue = .running then some { s with issue := .acquiring, count := s.count + 1 } else none
  | .runSucceed responder seqStates =>
      if s.issue = .running then
        some { s with
          issue := .handedOver
          queue := s.queue ++ [some ⟨s.calls - 1, responder, seqStates⟩] }
      else none
  | .barrierPass =>
      if s.issue = .handedOver ∧ s.barrierOpen then some { s with issue := .acquiring } else none
  | .acquire =>
      if s.issue = .acquiring ∧ 0 < s.count then
        some { s with issue := .ready, count := s.count - 1 }
      else none
  | .destroy =>
      if s.issue = .ready then some { s with issue := .joining, queue := s.queue ++ [none] } else none
  | .dequeue =>
      match s.completion, s.queue with
      | .waiting, some p :: queue => some { s with completion := .dequeued p, queue := queue }
      | .waiting, none :: queue => some { s with completion := .finished, queue := queue }
      | _, _ => none
  | .release =>
      match s.completion with
      | .dequeued p => some { s with completion := .released p, count := s.count + 1 }
      | _ => none
  | .finalize =>
      match s.completion with
      | .released p =>
          some { s with
            completion := if p.responder then .updating p p.seqStates else .crashed p }
      | _ => none
  | .updateState =>
      match s.completion with
      | .updating p (none :: rest) => some { s with completion := .updating p rest }
      | .updating p (some err :: rest) => some { s with completion := .returned p (some err :: rest) }
      | _ => none
  | .setValue =>
      match s.completion with
      | .updating p [] => some { s.setValue with completion := .responding p }
      | _ => none
  | .respond =>
      match s.completion with
      | .responding _ => some { s with completion := .waiting }
      | _ => none

theorem State.setValue_of_barrier {s : State} {k : ℕ} (h : s.barrier = some k) :
    s.setValue =
      { s with fulfilments := Function.update s.fulfilments k (s.fulfilments k + 1) } := by
  rw [State.setValue, h]

/-- The state after loading: the first permit is held. -/
def State.initial (config : PipelineConfig) : State where
  count := config.semaphoreCount - 1

/-- The calls of `ProcessRequests` of one instance, and its completion thread. -/
def Threads (config : PipelineConfig) : StepSystem State Action where
  init s := s = .initial config
  step := step config

theorem threads_step (config : PipelineConfig) (s : State) (a : Action) :
    (Threads config).step s a = step config s a := rfl

/-! ### What there is still to be done for a payload -/

/-- The payload the completion thread has not signalled the barrier for. -/
def CompletionPhase.unsignalled : CompletionPhase → Option Payload
  | .dequeued p | .released p | .updating p _ | .returned p _ | .crashed p => some p
  | _ => none

/-- The updates of the dequeued payload that have not been made. -/
def CompletionPhase.pendingUpdates : CompletionPhase → List (Option Error)
  | .dequeued p | .released p | .crashed p => p.seqStates
  | .updating _ rest | .returned _ rest => rest
  | _ => []

/-- The payload `ProcessResponse` is at. -/
def CompletionPhase.payload : CompletionPhase → Option Payload
  | .dequeued p | .released p | .updating p _ | .responding p | .returned p _ | .crashed p => some p
  | _ => none

/-- The state updates of enqueued batches that are still to be applied. -/
def State.pendingUpdates (s : State) : List (Option Error) :=
  s.completion.pendingUpdates ++ (s.queue.filterMap id).flatMap Payload.seqStates

/-- The payloads the barrier has not been signalled for. -/
def State.unsignalled (s : State) : List Payload :=
  s.completion.unsignalled.toList ++ s.queue.filterMap id

theorem CompletionPhase.pendingUpdates_of_unsignalled {phase : CompletionPhase}
    (h : phase.unsignalled = none) : phase.pendingUpdates = [] := by
  cases phase <;> first | rfl | cases h

/-- Without an unsignalled payload there is no update left. -/
theorem State.pendingUpdates_of_unsignalled {s : State} (h : s.unsignalled = []) :
    s.pendingUpdates = [] := by
  obtain ⟨hphase, hqueue⟩ := List.append_eq_nil_iff.mp h
  have hnone : s.completion.unsignalled = none := by
    cases hc : s.completion.unsignalled with
    | none => rfl
    | some p =>
        rw [hc] at hphase
        cases hphase
  rw [State.pendingUpdates, CompletionPhase.pendingUpdates_of_unsignalled hnone, hqueue]
  rfl

/-! ### The steps one by one -/

/-- `step`, action by action. -/
inductive Step (config : PipelineConfig) (s : State) : Action → State → Prop
  | runStart (h : s.issue = .ready) : Step config s .runStart (s.beginRun config)
  | runFail (h : s.issue = .running) :
      Step config s .runFail { s with issue := .acquiring, count := s.count + 1 }
  | runSucceed (responder : Bool) (seqStates : List (Option Error)) (h : s.issue = .running) :
      Step config s (.runSucceed responder seqStates) { s with
        issue := .handedOver
        queue := s.queue ++ [some ⟨s.calls - 1, responder, seqStates⟩] }
  | barrierPass (h : s.issue = .handedOver) (ho : s.barrierOpen = true) :
      Step config s .barrierPass { s with issue := .acquiring }
  | acquire (h : s.issue = .acquiring) (hc : 0 < s.count) :
      Step config s .acquire { s with issue := .ready, count := s.count - 1 }
  | destroy (h : s.issue = .ready) :
      Step config s .destroy { s with issue := .joining, queue := s.queue ++ [none] }
  | dequeue (h : s.completion = .waiting) (p : Payload) (queue : List (Option Payload))
      (hq : s.queue = some p :: queue) :
      Step config s .dequeue { s with completion := .dequeued p, queue := queue }
  | finish (h : s.completion = .waiting) (queue : List (Option Payload))
      (hq : s.queue = none :: queue) :
      Step config s .dequeue { s with completion := .finished, queue := queue }
  | release (p : Payload) (h : s.completion = .dequeued p) :
      Step config s .release { s with completion := .released p, count := s.count + 1 }
  | finalize (p : Payload) (h : s.completion = .released p) :
      Step config s .finalize
        { s with completion := if p.responder then .updating p p.seqStates else .crashed p }
  | updateState (p : Payload) (rest : List (Option Error))
      (h : s.completion = .updating p (none :: rest)) :
      Step config s .updateState { s with completion := .updating p rest }
  | updateFailed (p : Payload) (err : Error) (rest : List (Option Error))
      (h : s.completion = .updating p (some err :: rest)) :
      Step config s .updateState { s with completion := .returned p (some err :: rest) }
  | setValue (p : Payload) (h : s.completion = .updating p []) :
      Step config s .setValue { s.setValue with completion := .responding p }
  | respond (p : Payload) (h : s.completion = .responding p) :
      Step config s .respond { s with completion := .waiting }

/-- Every step is one of these. -/
theorem step_cases {config : PipelineConfig} {s t : State} {a : Action}
    (h : step config s a = some t) : Step config s a t := by
  cases a with
  | runStart =>
      simp only [step, Option.ite_none_right_eq_some, Option.some.injEq] at h
      obtain ⟨hp, rfl⟩ := h
      exact .runStart hp
  | runFail =>
      simp only [step, Option.ite_none_right_eq_some, Option.some.injEq] at h
      obtain ⟨hp, rfl⟩ := h
      exact .runFail hp
  | runSucceed responder seqStates =>
      simp only [step, Option.ite_none_right_eq_some, Option.some.injEq] at h
      obtain ⟨hp, rfl⟩ := h
      exact .runSucceed responder seqStates hp
  | barrierPass =>
      simp only [step, Option.ite_none_right_eq_some, Option.some.injEq] at h
      obtain ⟨⟨hp, ho⟩, rfl⟩ := h
      exact .barrierPass hp ho
  | acquire =>
      simp only [step, Option.ite_none_right_eq_some, Option.some.injEq] at h
      obtain ⟨⟨hp, hc⟩, rfl⟩ := h
      exact .acquire hp hc
  | destroy =>
      simp only [step, Option.ite_none_right_eq_some, Option.some.injEq] at h
      obtain ⟨hp, rfl⟩ := h
      exact .destroy hp
  | dequeue =>
      simp only [step] at h
      split at h
      · rename_i p queue hp hq
        cases h
        exact .dequeue hp p queue hq
      · rename_i queue hp hq
        cases h
        exact .finish hp queue hq
      · cases h
  | release =>
      simp only [step] at h
      split at h
      · rename_i p hp
        cases h
        exact .release p hp
      · cases h
  | finalize =>
      simp only [step] at h
      split at h
      · rename_i p hp
        cases h
        exact .finalize p hp
      · cases h
  | updateState =>
      simp only [step] at h
      split at h
      · rename_i p rest hp
        cases h
        exact .updateState p rest hp
      · rename_i p err rest hp
        cases h
        exact .updateFailed p err rest hp
      · cases h
  | setValue =>
      simp only [step] at h
      split at h
      · rename_i p hp
        cases h
        exact .setValue p hp
      · cases h
  | respond =>
      simp only [step] at h
      split at h
      · rename_i p hp
        cases h
        exact .respond p hp
      · cases h

/-! ### An iteration of the completion thread -/

/-- The loop over the states: all updates are made, or the thread leaves at the first that fails. -/
theorem run_updates (config : PipelineConfig) (p : Payload) (rest : List (Option Error)) {s : State}
    (hc : s.completion = .updating p rest) :
    ((∀ state ∈ rest, state = none) ∧ ∃ as, (Threads config).run s as =
        some { s with completion := .updating p [] }) ∨
      ∃ err left, some err ∈ rest ∧ ∃ as, (Threads config).run s as =
        some { s with completion := .returned p (some err :: left) } := by
  induction rest generalizing s with
  | nil =>
      refine Or.inl ⟨fun state h => absurd h List.not_mem_nil, [], ?_⟩
      rw [← hc]
      rfl
  | cons state rest ih =>
      cases state with
      | some err =>
          refine Or.inr ⟨err, rest, List.mem_cons_self, [.updateState], ?_⟩
          refine StepSystem.run_cons_eq_some.mpr ⟨_, ?_, rfl⟩
          simp only [threads_step, step, hc]
      | none =>
          have hstep : (Threads config).step s .updateState =
              some { s with completion := .updating p rest } := by
            simp only [threads_step, step, hc]
          rcases ih (s := { s with completion := .updating p rest }) rfl with
            ⟨hall, as, hrun⟩ | ⟨err, left, hmem, as, hrun⟩
          · refine Or.inl ⟨fun state h => ?_, .updateState :: as,
              StepSystem.run_cons_eq_some.mpr ⟨_, hstep, hrun⟩⟩
            rcases List.mem_cons.mp h with rfl | h
            · rfl
            · exact hall state h
          · exact Or.inr ⟨err, left, List.mem_cons_of_mem _ hmem, .updateState :: as,
              StepSystem.run_cons_eq_some.mpr ⟨_, hstep, hrun⟩⟩

/-- **The thread does with a payload what `processPayload` does**: one permit is put back; when the
iteration falls through, the promise `barrier_` holds is fulfilled, and when it does not the thread
is gone and no promise is. -/
theorem run_processPayload {config : PipelineConfig} {s : State} {p : Payload} (q : QueuedPayload)
    (hresp : p.responder = q.payload.responder) (hstates : p.seqStates = q.payload.seqStates)
    (hc : s.completion = .dequeued p) (barrierSet : Bool) :
    ∃ as t, (Threads config).run s as = some t ∧ t.count = s.count + 1 ∧
      ((processPayload barrierSet q.calls q.payload).1 = some () ∧
          t.completion = .responding p ∧ t.fulfilments = s.setValue.fulfilments ∨
        (processPayload barrierSet q.calls q.payload).1 = none ∧
          t.completion.unsignalled = some p ∧ t.fulfilments = s.fulfilments) := by
  have hrelease : (Threads config).step s .release =
      some { s with completion := .released p, count := s.count + 1 } := by
    simp only [threads_step, step, hc]
  obtain ⟨r, t, heq, -, hr⟩ := processPayload_cases barrierSet q.calls q.payload
  rw [heq]
  by_cases hnull : p.responder = true
  · -- The responder is finalized and the states are updated.
    have hfinalize : (Threads config).step
        { s with completion := .released p, count := s.count + 1 } .finalize =
        some { s with completion := .updating p p.seqStates, count := s.count + 1 } := by
      simp only [threads_step, step, hnull, if_true]
    rcases run_updates config p p.seqStates
        (s := { s with completion := .updating p p.seqStates, count := s.count + 1 }) rfl with
      ⟨hall, as, hrun⟩ | ⟨err, left, hmem, as, hrun⟩
    · have hok : ¬ q.payload.Fails :=
        PayloadState.not_fails_iff.mpr ⟨hresp ▸ hnull, hstates ▸ hall⟩
      refine ⟨.release :: .finalize :: (as ++ [.setValue]), _,
        StepSystem.run_cons_eq_some.mpr ⟨_, hrelease, StepSystem.run_cons_eq_some.mpr
          ⟨_, hfinalize, StepSystem.run_append_eq_some.mpr ⟨_, hrun, rfl⟩⟩⟩, ?_, ?_⟩
      · cases s.barrier <;> rfl
      · rcases hr with ⟨-, hr, -⟩ | ⟨hfail, -⟩
        · refine Or.inl ⟨hr, rfl, ?_⟩
          cases hb : s.barrier <;> simp only [State.setValue, hb]
        · exact absurd hfail hok
    · refine ⟨.release :: .finalize :: as, _,
        StepSystem.run_cons_eq_some.mpr ⟨_, hrelease, StepSystem.run_cons_eq_some.mpr
          ⟨_, hfinalize, hrun⟩⟩, rfl, ?_⟩
      rcases hr with ⟨hok, -⟩ | ⟨-, hr, -⟩
      · exact absurd (Or.inr ⟨err, hstates ▸ hmem⟩) hok
      · exact Or.inr ⟨hr, rfl, rfl⟩
  · have hfalse : p.responder = false := Bool.not_eq_true _ ▸ hnull
    have hfinalize : (Threads config).step
        { s with completion := .released p, count := s.count + 1 } .finalize =
        some { s with completion := .crashed p, count := s.count + 1 } := by
      simp only [threads_step, step, hfalse, Bool.false_eq_true, if_false]
    refine ⟨[.release, .finalize], _, StepSystem.run_cons_eq_some.mpr ⟨_, hrelease,
      StepSystem.run_cons_eq_some.mpr ⟨_, hfinalize, rfl⟩⟩, rfl, ?_⟩
    rcases hr with ⟨hok, -⟩ | ⟨-, hr, -⟩
    · exact absurd (Or.inl (hresp ▸ hfalse)) hok
    · exact Or.inr ⟨hr, rfl, rfl⟩

/-! ### The invariant -/

/-- A promise is fulfilled once at most, and none that is not created; the promise of a call in
progress is the one `barrier_` holds; a payload whose barrier is not signalled is that of the last
call, which has not got past the barrier. -/
structure Ok (s : State) : Prop where
  once : ∀ k, s.fulfilments k ≤ 1
  fresh : ∀ k, s.calls ≤ k → s.fulfilments k = 0
  called : s.issue = .running ∨ s.issue = .handedOver → 0 < s.calls
  barrier : s.issue = .running ∨ s.issue = .handedOver → s.barrier = some (s.calls - 1)
  unfulfilled : s.issue = .running → s.fulfilments (s.calls - 1) = 0
  unsignalled : s.unsignalled = [] ∨ s.issue = .handedOver ∧ s.fulfilments (s.calls - 1) = 0 ∧
    ∃ p, s.unsignalled = [p] ∧ p.call = s.calls - 1

theorem Ok.unsignalled_of_ne {s : State} (h : Ok s) (hi : s.issue ≠ .handedOver) :
    s.unsignalled = [] :=
  h.unsignalled.resolve_right fun hc => hi hc.1

/-- What the thread holds unsignalled is the payload of the last call. -/
theorem Ok.held {s : State} (h : Ok s) {p : Payload} (hp : s.completion.unsignalled = some p) :
    s.issue = .handedOver ∧ s.fulfilments (s.calls - 1) = 0 ∧ p.call = s.calls - 1 ∧
      s.queue.filterMap id = [] := by
  have hcons : s.unsignalled = p :: s.queue.filterMap id := by
    rw [State.unsignalled, hp]
    rfl
  rcases h.unsignalled with hnil | ⟨hissue, hzero, p', hp', hcall⟩
  · rw [hcons] at hnil
    cases hnil
  · rw [hcons] at hp'
    obtain ⟨rfl, hqueue⟩ := List.cons.inj hp'
    exact ⟨hissue, hzero, hcall, hqueue⟩

theorem ok_initial (config : PipelineConfig) : Ok (.initial config) where
  once _ := Nat.zero_le 1
  fresh _ _ := rfl
  called h := by rcases h with h | h <;> cases h
  barrier h := by rcases h with h | h <;> cases h
  unfulfilled h := by cases h
  unsignalled := Or.inl rfl

theorem Ok.runStart {config : PipelineConfig} {s : State} (h : Ok s)
    (himplicit : config.usesImplicitState = true) (hi : s.issue = .ready) :
    Ok (s.beginRun config) where
  once := h.once
  fresh k hk := h.fresh k (Nat.le_of_succ_le hk)
  called _ := Nat.succ_pos _
  barrier _ := if_pos himplicit
  unfulfilled _ := h.fresh s.calls (Nat.le_refl _)
  unsignalled := Or.inl (h.unsignalled_of_ne (by rw [hi]; decide))

theorem Ok.runSucceed {s : State} (h : Ok s) (responder : Bool) (seqStates : List (Option Error))
    (hi : s.issue = .running) :
    Ok { s with
      issue := .handedOver
      queue := s.queue ++ [some ⟨s.calls - 1, responder, seqStates⟩] } where
  once := h.once
  fresh := h.fresh
  called _ := h.called (Or.inl hi)
  barrier _ := h.barrier (Or.inl hi)
  unfulfilled h := by cases h
  unsignalled := by
    have hnil := h.unsignalled_of_ne (by rw [hi]; decide)
    refine Or.inr ⟨rfl, h.unfulfilled hi, ⟨s.calls - 1, responder, seqStates⟩, ?_, rfl⟩
    show s.completion.unsignalled.toList ++ (s.queue ++ [some _]).filterMap id = _
    rw [List.filterMap_append, ← List.append_assoc]
    exact congrArg (· ++ _) hnil

/-- The promise `barrier_` holds is that of the payload, and it is fulfilled for the first time. -/
theorem Ok.setValue {s : State} (h : Ok s) {p : Payload} (hc : s.completion = .updating p []) :
    Ok { s.setValue with completion := .responding p } := by
  obtain ⟨hissue, hzero, -, hqueue⟩ := h.held (p := p) (by rw [hc]; rfl)
  rw [State.setValue_of_barrier (h.barrier (Or.inr hissue)), hzero]
  refine ⟨fun k => ?_, fun k hk => ?_, h.called, h.barrier, fun hr => ?_, Or.inl hqueue⟩
  · show Function.update s.fulfilments (s.calls - 1) (0 + 1) k ≤ 1
    by_cases hk : k = s.calls - 1
    · rw [hk, Function.update_self]
    · rw [Function.update_of_ne hk]
      exact h.once k
  · show Function.update s.fulfilments (s.calls - 1) (0 + 1) k = 0
    have hcalls : s.calls ≤ k := hk
    have hpos := h.called (Or.inr hissue)
    rw [Function.update_of_ne (by omega)]
    exact h.fresh k hcalls
  · cases hissue.symm.trans hr

/-- A step that leaves the promises and the issue thread alone and takes no new payload on. -/
theorem Ok.completionStep {s t : State} (h : Ok s) (hissue : t.issue = s.issue)
    (hcalls : t.calls = s.calls) (hbarrier : t.barrier = s.barrier)
    (hful : t.fulfilments = s.fulfilments) (huns : t.unsignalled = s.unsignalled) : Ok t := by
  refine ⟨?_, ?_, ?_, ?_, ?_, ?_⟩
  · rw [hful]
    exact h.once
  · rw [hful, hcalls]
    exact h.fresh
  · rw [hissue, hcalls]
    exact h.called
  · rw [hissue, hcalls, hbarrier]
    exact h.barrier
  · rw [hissue, hful, hcalls]
    exact h.unfulfilled
  · rw [hissue, hful, hcalls, huns]
    exact h.unsignalled

/-- A step out of or into a phase without a call in progress. -/
theorem Ok.leave {s t : State} (h : Ok s) (huns : s.unsignalled = []) (hrun : t.issue ≠ .running)
    (hhanded : t.issue ≠ .handedOver) (hcalls : t.calls = s.calls)
    (hful : t.fulfilments = s.fulfilments) (ht : t.unsignalled = s.unsignalled) : Ok t := by
  refine ⟨?_, ?_, ?_, ?_, fun hc => absurd hc hrun, Or.inl (ht.trans huns)⟩
  · rw [hful]
    exact h.once
  · rw [hful, hcalls]
    exact h.fresh
  · rintro (hc | hc)
    · exact absurd hc hrun
    · exact absurd hc hhanded
  · rintro (hc | hc)
    · exact absurd hc hrun
    · exact absurd hc hhanded

/-- Behind the barrier nothing is unsignalled. -/
theorem Ok.unsignalled_of_barrierOpen {s : State} (h : Ok s) (hi : s.issue = .handedOver)
    (ho : s.barrierOpen = true) : s.unsignalled = [] := by
  refine h.unsignalled.resolve_right fun ⟨_, hzero, _⟩ => ?_
  rw [State.barrierOpen, h.barrier (Or.inr hi)] at ho
  have hpos : 0 < s.fulfilments (s.calls - 1) := of_decide_eq_true ho
  omega

theorem State.unsignalled_eq (s : State) :
    s.unsignalled = s.completion.unsignalled.toList ++ s.queue.filterMap id := rfl

theorem ok_step {config : PipelineConfig} (himplicit : config.usesImplicitState = true)
    {s t : State} {a : Action} (h : Ok s) (hs : Step config s a t) : Ok t := by
  cases hs with
  | runStart hi => exact h.runStart himplicit hi
  | runFail hi =>
      exact h.leave (h.unsignalled_of_ne (by rw [hi]; decide)) nofun nofun rfl rfl rfl
  | runSucceed responder seqStates hi => exact h.runSucceed responder seqStates hi
  | barrierPass hi ho =>
      exact h.leave (h.unsignalled_of_barrierOpen hi ho) nofun nofun rfl rfl rfl
  | acquire hi _ =>
      exact h.leave (h.unsignalled_of_ne (by rw [hi]; decide)) nofun nofun rfl rfl rfl
  | destroy hi =>
      refine h.leave (h.unsignalled_of_ne (by rw [hi]; decide)) nofun nofun rfl rfl ?_
      rw [State.unsignalled_eq, State.unsignalled_eq, List.filterMap_append]
      exact congrArg _ (List.append_nil _)
  | dequeue hc p queue hq =>
      refine h.completionStep rfl rfl rfl rfl ?_
      rw [State.unsignalled_eq, State.unsignalled_eq, hc, hq]
      rfl
  | finish hc queue hq =>
      refine h.completionStep rfl rfl rfl rfl ?_
      rw [State.unsignalled_eq, State.unsignalled_eq, hc, hq]
      rfl
  | release p hc =>
      refine h.completionStep rfl rfl rfl rfl ?_
      rw [State.unsignalled_eq, State.unsignalled_eq, hc]
      rfl
  | finalize p hc =>
      refine h.completionStep rfl rfl rfl rfl ?_
      rw [State.unsignalled_eq, State.unsignalled_eq, hc]
      cases p.responder <;> rfl
  | updateState p rest hc =>
      refine h.completionStep rfl rfl rfl rfl ?_
      rw [State.unsignalled_eq, State.unsignalled_eq, hc]
      rfl
  | updateFailed p err rest hc =>
      refine h.completionStep rfl rfl rfl rfl ?_
      rw [State.unsignalled_eq, State.unsignalled_eq, hc]
      rfl
  | setValue p hc => exact h.setValue hc
  | respond p hc =>
      refine h.completionStep rfl rfl rfl rfl ?_
      rw [State.unsignalled_eq, State.unsignalled_eq, hc]
      rfl

theorem inductive_ok (config : PipelineConfig) (himplicit : config.usesImplicitState = true) :
    (Threads config).Inductive Ok where
  init s h := by
    rw [show s = .initial config from h]
    exact ok_initial config
  step s a t h hs := ok_step himplicit h (step_cases hs)

/-! ### The promises -/

/-- Only `set_value` fulfils, and only the promise of the payload the thread is at. -/
theorem fulfilments_of_step {config : PipelineConfig} {s t : State} {a : Action} (h : Ok s)
    (hs : Step config s a t) {k : ℕ} (hk : t.fulfilments k ≠ s.fulfilments k) :
    s.fulfilments k = 0 ∧ t.fulfilments k = 1 ∧
      ∃ p, s.completion.payload = some p ∧ p.call = k := by
  cases hs with
  | setValue p hc =>
      obtain ⟨hissue, hzero, hcall, -⟩ := h.held (p := p) (by rw [hc]; rfl)
      have hful : s.setValue.fulfilments = Function.update s.fulfilments (s.calls - 1) 1 := by
        rw [State.setValue_of_barrier (h.barrier (Or.inr hissue)), hzero]
      have hk' : s.setValue.fulfilments k ≠ s.fulfilments k := hk
      rw [hful] at hk'
      have hcreated : k = s.calls - 1 := by
        by_contra hne
        exact hk' (Function.update_of_ne hne 1 s.fulfilments)
      refine ⟨?_, ?_, p, ?_, ?_⟩
      · rw [hcreated, hzero]
      · show s.setValue.fulfilments k = 1
        rw [hful, hcreated, Function.update_self]
      · rw [hc]
        rfl
      · rw [hcall, hcreated]
  | _ => exact absurd rfl hk

/-- **The barrier.**  In every state the two threads can reach, whichever executions fail and with
eager batching or without it: no promise was fulfilled twice; a step that fulfils a promise is made
while the payload of the call that created it is being processed; and when a `Run` begins no update
of an enqueued batch is left to be applied. -/
theorem promise_fulfilled_in_turn {config : PipelineConfig}
    (himplicit : config.usesImplicitState = true) {s : State} (h : (Threads config).Reachable s) :
    (∀ k, s.fulfilments k ≤ 1) ∧
      (∀ a t k, (Threads config).step s a = some t → t.fulfilments k ≠ s.fulfilments k →
        s.fulfilments k = 0 ∧ t.fulfilments k = 1 ∧
          ∃ p, s.completion.payload = some p ∧ p.call = k) ∧
      ∀ t, (Threads config).step s .runStart = some t → s.pendingUpdates = [] := by
  have hok : Ok s := h.of_inductive (inductive_ok config himplicit)
  refine ⟨hok.once, fun a t k hs hk => fulfilments_of_step hok (step_cases hs) hk, fun t hs => ?_⟩
  cases step_cases (show step config s .runStart = some t from hs) with
  | runStart hi =>
      exact State.pendingUpdates_of_unsignalled (hok.unsignalled_of_ne (by rw [hi]; decide))

/-- A `Run` that fails, and one whose payload has got its one state updated. -/
def failThenUpdate : List Action :=
  [.runStart, .runFail, .acquire, .runStart, .runSucceed true [none], .dequeue, .release, .finalize,
    .updateState]

theorem promise_fulfilled_in_turn_failThenUpdate :
    ∃ s, (Threads ⟨true, true, true⟩).Reachable s ∧
      s.barrier = some 1 ∧ s.completion = .updating ⟨1, true, [none]⟩ [] ∧
      (∀ k, s.fulfilments k ≤ 1) ∧
      (∀ a t k, (Threads ⟨true, true, true⟩).step s a = some t → t.fulfilments k ≠ s.fulfilments k →
        s.fulfilments k = 0 ∧ t.fulfilments k = 1 ∧
          ∃ p, s.completion.payload = some p ∧ p.call = k) ∧
      ∀ t, (Threads ⟨true, true, true⟩).step s .runStart = some t → s.pendingUpdates = [] := by
  have hreach : ∃ s, (Threads ⟨true, true, true⟩).run (.initial ⟨true, true, true⟩) failThenUpdate =
      some s ∧ s.barrier = some 1 ∧ s.completion = .updating ⟨1, true, [none]⟩ [] :=
    ⟨_, rfl, rfl, rfl⟩
  obtain ⟨s, hrun, hbarrier, hcompletion⟩ := hreach
  have h : (Threads ⟨true, true, true⟩).Reachable s := ⟨_, failThenUpdate, rfl, hrun⟩
  exact ⟨s, h, hbarrier, hcompletion, promise_fulfilled_in_turn rfl h⟩

end TensorrtBackend.Barrier

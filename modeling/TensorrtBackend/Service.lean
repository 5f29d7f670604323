import TensorrtBackend.Barrier
import TensorrtBackend.Handover
import TensorrtBackend.Lib.Simulation

/-!
# The service of an instance

The issue thread calls `ProcessRequests` with one batch after the other, and the completion thread
works through the payloads it is handed.  The threads carry the requests themselves: what `Run`
makes of a batch is `processRequests`, and what an iteration of `ProcessResponse` makes of a payload
is `processPayload`.

* `service_answers`: every batch is in one place, the completion thread keeps the order, and whatever
  was answered was answered once.
* `service_comes_to_rest`: where the two threads can only wait for the next batch, all are answered,
  or the completion thread is gone, or the process is dead.
* `service_refines_barrier`: a run of the service is one of the threads of the barrier.
-/

namespace TensorrtBackend.Service

open EarlyReturn

/-- What Triton hands to `ProcessRequests`, and how the outside calls will turn out that either
thread makes for it.  There is a request, and a `uint32_t` counts them. -/
structure Batch where
  requests : List Request
  runCalls : RunCalls := {}
  responseCalls : Calls := {}
  requests_ne : requests ≠ [] := by simp
  request_count : requests.length < 2 ^ 32 := by decide

/-- A payload handed to the completion thread, with the number of its call of `ProcessRequests`. -/
structure Entry extends QueuedPayload where
  number : ℕ

/-- The payload of a batch. -/
def Batch.entry (b : Batch) (p : PayloadState) (number : ℕ) : Entry where
  payload := p
  calls := b.responseCalls
  number := number

/-- Where the issue thread is. -/
inductive IssueStage
  /-- It holds the permit for the next call. -/
  | ready
  | running (b : Batch)
  /-- The payload is put on the queue; `barrier_` is looked at next. -/
  | handedOver
  /-- `semaphore->Acquire()`. -/
  | acquiring
  /-- The process died in `Run`. -/
  | crashed (b : Batch) (kind : Crash)

/-- Where the completion thread is. -/
inductive CompletionStage
  | waiting
  | dequeued (e : Entry)
  /-- The semaphore is released. -/
  | released (e : Entry)
  /-- Behind the barrier; `left` is the payload once its responses are sent. -/
  | responding (e : Entry) (left : PayloadState)
  /-- Out of `ProcessResponse` by a failed state update. -/
  | returned (e : Entry)
  /-- In `Finalize` of a null responder. -/
  | crashed (e : Entry)

/-- The library, the instance, and how far its two threads may be apart. -/
structure Settings where
  lib : BackendCommon
  inst : Instance
  config : PipelineConfig

/-- Both threads.  `batches` are the batches so far; `failed` and `answered` are the payloads the
issue thread and the completion thread are done with, by the number of the call. -/
structure State where
  count : ℕ
  indices : SetIndices := {}
  issue : IssueStage := .ready
  batches : List Batch := []
  barrier : Option ℕ := none
  fulfilments : ℕ → ℕ := fun _ => 0
  queue : List Entry := []
  completion : CompletionStage := .waiting
  failed : List (ℕ × PayloadState) := []
  answered : List (ℕ × PayloadState) := []

inductive Action
  | execute (b : Batch)
  /-- `Run` is over, and `ProcessRequests` fails or hands over the payload. -/
  | runEnd
  | barrierPass
  | acquire
  | dequeue
  | release
  /-- The responder is finalized, the states are updated and the barrier is set. -/
  | update
  | respond

/-- `barrier_->set_value()` on the promise `barrier_` holds. -/
def State.setValue (s : State) : ℕ → ℕ :=
  match s.barrier with
  | none => s.fulfilments
  | some k => Function.update s.fulfilments k (s.fulfilments k + 1)

/-- The promise `barrier_` holds is fulfilled, or there is none. -/
def State.barrierOpen (s : State) : Bool :=
  match s.barrier with
  | none => true
  | some k => decide (0 < s.fulfilments k)

/-- The process is dead. -/
def State.dead (s : State) : Bool :=
  match s.issue, s.completion with
  | .crashed _ _, _ => true
  | _, .crashed _ => true
  | _, _ => false

/-- One step of the process while it is alive; `none` when it is blocked or not enabled. -/
def move (x : Settings) (s : State) : Action → Option State
  | .execute b =>
      match s.issue with
      | .ready => some { s with
          issue := .running b
          batches := s.batches ++ [b]
          barrier := if x.config.usesImplicitState then some s.batches.length else s.barrier }
      | _ => none
  | .runEnd =>
      match s.issue with
      | .running b =>
          match processRequests x.lib x.inst s.indices b.runCalls b.requests with
          | .failed p => some { s with
              issue := .acquiring
              count := s.count + 1
              indices := processRequestsIndices x.inst.numCopyStreams s.indices false
              failed := s.failed ++ [(s.batches.length - 1, p)] }
          | .enqueued p => some { s with
              issue := .handedOver
              indices := processRequestsIndices x.inst.numCopyStreams s.indices true
              queue := s.queue ++ [b.entry p (s.batches.length - 1)] }
          | .crashed kind => some { s with issue := .crashed b kind }
      | _ => none
  | .barrierPass =>
      match s.issue with
      | .handedOver => if s.barrierOpen then some { s with issue := .acquiring } else none
      | _ => none
  | .acquire =>
      match s.issue with
      | .acquiring =>
          if 0 < s.count then some { s with issue := .ready, count := s.count - 1 } else none
      | _ => none
  | .dequeue =>
      match s.completion, s.queue with
      | .waiting, e :: queue => some { s with completion := .dequeued e, queue := queue }
      | _, _ => none
  | .release =>
      match s.completion with
      | .dequeued e => some { s with completion := .released e, count := s.count + 1 }
      | _ => none
  | .update =>
      match s.completion with
      | .released e =>
          if e.payload.responder then
            match processPayload s.barrier.isSome e.calls e.payload with
            | (some _, t) =>
                some { s with completion := .responding e t, fulfilments := s.setValue }
            | (none, t) =>
                some { s with completion := .returned e, answered := s.answered ++ [(e.number, t)] }
          else some { s with completion := .crashed e }
      | _ => none
  | .respond =>
      match s.completion with
      | .responding e t =>
          some { s with completion := .waiting, answered := s.answered ++ [(e.number, t)] }
      | _ => none

/-- One step of the two threads. -/
def step (x : Settings) (s : State) (a : Action) : Option State :=
  if s.dead then none else move x s a

/-- The state after loading: the first permit is held, and captures may have left either buffer set.
-/
def State.initial (x : Settings) (bufferSet : ℕ) : State where
  count := x.config.semaphoreCount - 1
  indices := { nextBufferBindingSet := bufferSet }

/-- The issue thread and the completion thread of an instance. -/
def threads (x : Settings) : StepSystem State Action where
  init s := ∃ bufferSet < x.inst.numCopyStreams, s = .initial x bufferSet
  step := step x

/-! ### The steps one by one -/

/-- `step`, case by case. -/
inductive Step (x : Settings) (s : State) : Action → State → Prop
  | execute (b : Batch) (h : s.issue = .ready) :
      Step x s (.execute b) { s with
        issue := .running b
        batches := s.batches ++ [b]
        barrier := if x.config.usesImplicitState then some s.batches.length else s.barrier }
  | runFailed (b : Batch) (p : PayloadState) (h : s.issue = .running b)
      (hrun : processRequests x.lib x.inst s.indices b.runCalls b.requests = .failed p) :
      Step x s .runEnd { s with
        issue := .acquiring
        count := s.count + 1
        failed := s.failed ++ [(s.batches.length - 1, p)] }
  | runQueued (b : Batch) (p : PayloadState) (h : s.issue = .running b)
      (hrun : processRequests x.lib x.inst s.indices b.runCalls b.requests = .enqueued p) :
      Step x s .runEnd { s with
        issue := .handedOver
        indices := processRequestsIndices x.inst.numCopyStreams s.indices true
        queue := s.queue ++ [b.entry p (s.batches.length - 1)] }
  | runCrashed (b : Batch) (kind : Crash) (h : s.issue = .running b)
      (hrun : processRequests x.lib x.inst s.indices b.runCalls b.requests = .crashed kind) :
      Step x s .runEnd { s with issue := .crashed b kind }
  | barrierPass (h : s.issue = .handedOver) (ho : s.barrierOpen = true) :
      Step x s .barrierPass { s with issue := .acquiring }
  | acquire (h : s.issue = .acquiring) (hc : 0 < s.count) :
      Step x s .acquire { s with issue := .ready, count := s.count - 1 }
  | dequeue (e : Entry) (queue : List Entry) (h : s.completion = .waiting)
      (hq : s.queue = e :: queue) :
      Step x s .dequeue { s with completion := .dequeued e, queue := queue }
  | release (e : Entry) (h : s.completion = .dequeued e) :
      Step x s .release { s with completion := .released e, count := s.count + 1 }
  | updated (e : Entry) (t : PayloadState) (h : s.completion = .released e)
      (hresponder : e.payload.responder = true)
      (hrun : processPayload s.barrier.isSome e.calls e.payload = (some (), t)) :
      Step x s .update { s with completion := .responding e t, fulfilments := s.setValue }
  | updateFailed (e : Entry) (t : PayloadState) (h : s.completion = .released e)
      (hresponder : e.payload.responder = true)
      (hrun : processPayload s.barrier.isSome e.calls e.payload = (none, t)) :
      Step x s .update
        { s with completion := .returned e, answered := s.answered ++ [(e.number, t)] }
  | crash (e : Entry) (h : s.completion = .released e) (hresponder : e.payload.responder = false) :
      Step x s .update { s with completion := .crashed e }
  | respond (e : Entry) (t : PayloadState) (h : s.completion = .responding e t) :
      Step x s .respond
        { s with completion := .waiting, answered := s.answered ++ [(e.number, t)] }

variable {x : Settings} {s t : State} {a : Action}

/-- Every step is one of these. -/
theorem step_cases (h : step x s a = some t) : Step x s a t := by
  unfold step at h
  split at h
  · cases h
  cases a with
  | execute b =>
      simp only [move] at h
      split at h
      · rename_i hissue
        cases h
        exact .execute b hissue
      · cases h
  | runEnd =>
      simp only [move] at h
      split at h
      · rename_i b hissue
        split at h
        · rename_i p hrun
          cases h
          exact .runFailed b p hissue hrun
        · rename_i p hrun
          cases h
          exact .runQueued b p hissue hrun
        · rename_i kind hrun
          cases h
          exact .runCrashed b kind hissue hrun
      · cases h
  | barrierPass =>
      simp only [move] at h
      split at h
      · rename_i hissue
        split at h
        · rename_i hopen
          cases h
          exact .barrierPass hissue hopen
        · cases h
      · cases h
  | acquire =>
      simp only [move] at h
      split at h
      · rename_i hissue
        split at h
        · rename_i hcount
          cases h
          exact .acquire hissue hcount
        · cases h
      · cases h
  | dequeue =>
      simp only [move] at h
      split at h
      · rename_i e queue hcompletion hqueue
        cases h
        exact .dequeue e queue hcompletion hqueue
      · cases h
  | release =>
      simp only [move] at h
      split at h
      · rename_i e hcompletion
        cases h
        exact .release e hcompletion
      · cases h
  | update =>
      simp only [move] at h
      split at h
      · rename_i e hcompletion
        split at h
        · rename_i hresponder
          split at h
          · rename_i u hrun
            cases h
            exact .updated e u hcompletion hresponder hrun
          · rename_i u hrun
            cases h
            exact .updateFailed e u hcompletion hresponder hrun
        · rename_i hresponder
          cases h
          exact .crash e hcompletion (Bool.not_eq_true _ ▸ hresponder)
      · cases h
  | respond =>
      simp only [move] at h
      split at h
      · rename_i e u hcompletion
        cases h
        exact .respond e u hcompletion
      · cases h

/-! ### Where the batches are -/

/-- The call the completion thread is at, unless it is done with it. -/
def CompletionStage.numbers : CompletionStage → List ℕ
  | .dequeued e | .released e | .responding e _ | .crashed e => [e.number]
  | .waiting | .returned _ => []

/-- The call the issue thread is at. -/
def State.running (s : State) : List ℕ :=
  match s.issue with
  | .running _ | .crashed _ _ => [s.batches.length - 1]
  | _ => []

/-- The calls under way, the oldest first. -/
def State.underway (s : State) : List ℕ :=
  s.completion.numbers ++ s.queue.map Entry.number ++ s.running

/-- The calls that are for the completion thread, or may be: the answered ones and those under way.
-/
def State.handed (s : State) : List ℕ := s.answered.map Prod.fst ++ s.underway

/-- **What a step moves**: nothing, or there is one batch more, or the issue thread is done with the
last one. -/
theorem Step.moves (h : Step x s a t) :
    t.handed = s.handed ∧ t.failed = s.failed ∧ t.batches = s.batches ∨
      (∃ b, a = .execute b ∧ t.handed = s.handed ++ [s.batches.length] ∧ t.failed = s.failed ∧
        t.batches = s.batches ++ [b]) ∨
      ∃ p, s.handed = t.handed ++ [s.batches.length - 1] ∧
        t.failed = s.failed ++ [(s.batches.length - 1, p)] ∧ t.batches = s.batches := by
  cases h with
  | execute b hissue =>
      refine Or.inr (Or.inl ⟨b, rfl, ?_, rfl, rfl⟩)
      simp only [State.handed, State.underway, State.running, hissue, List.length_append,
        List.length_singleton, Nat.add_sub_cancel, List.append_nil, List.append_assoc]
  | runFailed b p hissue hrun =>
      refine Or.inr (Or.inr ⟨p, ?_, rfl, rfl⟩)
      simp only [State.handed, State.underway, State.running, hissue, List.append_nil,
        List.append_assoc]
  | runQueued b p hissue hrun =>
      refine Or.inl ⟨?_, rfl, rfl⟩
      simp only [State.handed, State.underway, State.running, hissue, List.map_append,
        List.map_cons, List.map_nil, List.append_nil, List.append_assoc]
      rfl
  | runCrashed b kind hissue hrun =>
      refine Or.inl ⟨?_, rfl, rfl⟩
      simp only [State.handed, State.underway, State.running, hissue]
  | barrierPass hissue hopen =>
      refine Or.inl ⟨?_, rfl, rfl⟩
      simp only [State.handed, State.underway, State.running, hissue]
  | acquire hissue hcount =>
      refine Or.inl ⟨?_, rfl, rfl⟩
      simp only [State.handed, State.underway, State.running, hissue]
  | dequeue e queue hcompletion hqueue =>
      refine Or.inl ⟨?_, rfl, rfl⟩
      simp only [State.handed, State.underway, State.running, hcompletion, hqueue,
        CompletionStage.numbers, List.map_cons]
      rfl
  | release e hcompletion =>
      refine Or.inl ⟨?_, rfl, rfl⟩
      simp only [State.handed, State.underway, State.running, hcompletion, CompletionStage.numbers]
  | updated e u hcompletion hresponder hrun =>
      refine Or.inl ⟨?_, rfl, rfl⟩
      simp only [State.handed, State.underway, State.running, hcompletion, CompletionStage.numbers]
  | updateFailed e u hcompletion hresponder hrun =>
      refine Or.inl ⟨?_, rfl, rfl⟩
      simp only [State.handed, State.underway, State.running, hcompletion, CompletionStage.numbers,
        List.map_append, List.map_cons, List.map_nil, List.nil_append, List.append_assoc]
  | crash e hcompletion hresponder =>
      refine Or.inl ⟨?_, rfl, rfl⟩
      simp only [State.handed, State.underway, State.running, hcompletion, CompletionStage.numbers]
  | respond e u hcompletion =>
      refine Or.inl ⟨?_, rfl, rfl⟩
      simp only [State.handed, State.underway, State.running, hcompletion, CompletionStage.numbers,
        List.map_append, List.map_cons, List.map_nil, List.nil_append, List.append_assoc]

/-- Every call is in one place, and the completion thread gets them in their order. -/
structure Placed (s : State) : Prop where
  places : (s.failed.map Prod.fst ++ s.handed).Perm (List.range s.batches.length)
  order : s.handed.Pairwise (· < ·)

theorem placed_step (h : Placed s) (hstep : Step x s a t) : Placed t := by
  rcases hstep.moves with ⟨hhanded, hfailed, hbatches⟩ | ⟨b, -, hhanded, hfailed, hbatches⟩ |
    ⟨p, hhanded, hfailed, hbatches⟩
  · constructor
    · rw [hhanded, hfailed, hbatches]
      exact h.places
    · rw [hhanded]
      exact h.order
  · -- One number more, which is above all others.
    constructor
    · rw [hhanded, hfailed, hbatches, List.length_append, List.length_singleton, List.range_succ,
        ← List.append_assoc]
      exact h.places.append_right _
    · rw [hhanded]
      refine List.pairwise_append.mpr ⟨h.order, List.pairwise_singleton _ _, fun n hn m hm => ?_⟩
      rw [List.mem_singleton.mp hm]
      exact List.mem_range.mp (h.places.mem_iff.mp (List.mem_append_right _ hn))
  · -- The last number goes to the front list.
    constructor
    · have hplaces := h.places
      rw [hhanded] at hplaces
      rw [hfailed, hbatches, List.map_append, List.append_assoc]
      exact ((List.perm_append_comm).append_left _).trans hplaces
    · have horder := h.order
      rw [hhanded] at horder
      exact (List.pairwise_append.mp horder).1

theorem inductive_placed (x : Settings) : (threads x).Inductive Placed where
  init := by
    rintro s ⟨bufferSet, -, rfl⟩
    exact ⟨List.Perm.refl _, List.Pairwise.nil⟩
  step s a t h hs := placed_step h (step_cases hs)

/-- The batches of a run. -/
def executed (as : List Action) : List Batch :=
  as.filterMap fun a => match a with
    | .execute b => some b
    | _ => none

theorem run_batches {as : List Action} (h : (threads x).run s as = some t) :
    t.batches = s.batches ++ executed as := by
  induction as generalizing s with
  | nil =>
      obtain rfl := Option.some.inj h
      exact (List.append_nil _).symm
  | cons a as ih =>
      obtain ⟨u, hu, h⟩ := StepSystem.run_cons_eq_some.mp h
      have hbatches : u.batches = s.batches ++ executed [a] := by
        cases step_cases hu with
        | execute b hissue => rfl
        | _ => exact (List.append_nil _).symm
      rw [ih h, hbatches, List.append_assoc]
      congr 1
      cases a <;> rfl

/-! ### What is left of the batches -/

/-- The number of requests of a payload stays as it is. -/
theorem respondPayload_length (barrierSet : Bool) (calls : Calls) (p : PayloadState) :
    (respondPayload barrierSet calls p).2.slots.length = p.slots.length := by
  have hcollect : (PayloadM.collect calls p).2.slots.length = p.slots.length := List.length_mapIdx
  have hbody : respondPayload barrierSet calls p = (do
      forEach PayloadM.failAllIfError p.seqStates
      modify fun s => { s with
        barrierFulfils := s.barrierFulfils + if barrierSet then 1 else 0
        slots := s.slots.map fun slot => slot.send.release } : PayloadM Unit)
      (PayloadM.collect calls p).2 := rfl
  rcases forEach_failAllIfError p.seqStates (PayloadM.collect calls p).2 with
    ⟨-, heq⟩ | ⟨err, -, heq⟩
  · rw [bind_of_fall heq] at hbody
    rw [hbody]
    show (List.map _ _).length = p.slots.length
    rw [List.length_map, hcollect]
  · rw [bind_of_ret heq] at hbody
    rw [hbody]
    show (List.map _ _).length = p.slots.length
    rw [List.length_map, hcollect]

theorem processPayload_length (barrierSet : Bool) (calls : Calls) (p : PayloadState) :
    (processPayload barrierSet calls p).2.slots.length = p.slots.length := by
  have hbody : processPayload barrierSet calls p =
      (if p.responder = true then respondPayload barrierSet calls
        else PayloadM.crash .nullResponder) { p with semaphoreReleases := p.semaphoreReleases + 1 } := rfl
  rw [hbody]
  by_cases hresponder : p.responder = true
  · rw [if_pos hresponder]
    exact respondPayload_length barrierSet calls _
  · rw [if_neg hresponder]
    rfl

/-- An iteration that falls through has updated every state. -/
theorem states_of_fallen {barrierSet : Bool} {calls : Calls} {p left : PayloadState}
    (hrun : processPayload barrierSet calls p = (some (), left)) :
    ∀ state ∈ p.seqStates, state = none := by
  obtain ⟨r, v, heq, -, ⟨hok, -, -⟩ | ⟨-, hr, -⟩⟩ := processPayload_cases barrierSet calls p
  · exact (PayloadState.not_fails_iff.mp hok).2
  · rw [hrun, hr] at heq
    exact absurd (congrArg Prod.fst heq) (by simp)

/-- One that returns with a responder there has found a state that was not updated. -/
theorem states_of_returned {barrierSet : Bool} {calls : Calls} {p left : PayloadState}
    (hresponder : p.responder = true) (hrun : processPayload barrierSet calls p = (none, left)) :
    ∃ err, some err ∈ p.seqStates := by
  obtain ⟨r, v, heq, -, ⟨-, hr, -⟩ | ⟨hfails, -, -⟩⟩ := processPayload_cases barrierSet calls p
  · rw [hrun, hr] at heq
    exact absurd (congrArg Prod.fst heq) (by simp)
  · rcases hfails with hnull | herr
    · exact absurd (hnull.symm.trans hresponder) Bool.false_ne_true
    · exact herr

/-- The payload is what is left of a batch: each of its requests was released once and settled. -/
def Answers (batches : List Batch) (y : ℕ × PayloadState) : Prop :=
  ∃ b, batches[y.1]? = some b ∧ y.2.slots.length = b.requests.length ∧ ∀ slot ∈ y.2.slots, slot.Done

/-- The payload is what `Run` left of a batch: with a responder it answers the batch, however the
calls turn out, and without one the batch has no rows. -/
def Entry.Of (x : Settings) (batches : List Batch) (e : Entry) : Prop :=
  ∃ b, batches[e.number]? = some b ∧
    (e.payload.responder = true → ∀ barrierSet calls,
      Answers batches (e.number, (processPayload barrierSet calls e.payload).2)) ∧
    (e.payload.responder = false → NoRows x.inst b.runCalls b.requests)

theorem getElem?_append_of_some {α : Type} {l : List α} {i : ℕ} {a : α} (h : l[i]? = some a)
    (m : List α) : (l ++ m)[i]? = some a := by
  rw [List.getElem?_append_left (List.getElem?_eq_some_iff.mp h).1]
  exact h

theorem Answers.append {batches : List Batch} {y : ℕ × PayloadState} (h : Answers batches y)
    (more : List Batch) : Answers (batches ++ more) y := by
  obtain ⟨b, hb, hdone⟩ := h
  exact ⟨b, getElem?_append_of_some hb more, hdone⟩

theorem Entry.Of.append {batches : List Batch} {e : Entry} (h : e.Of x batches)
    (more : List Batch) : e.Of x (batches ++ more) := by
  obtain ⟨b, hb, hanswers, hzero⟩ := h
  exact ⟨b, getElem?_append_of_some hb more,
    fun hresponder barrierSet calls => (hanswers hresponder barrierSet calls).append more, hzero⟩

/-- What becomes of call `n`: it is failed, its payload is handed over, or it ends the process. -/
def Made (x : Settings) (batches : List Batch) (b : Batch) (n : ℕ) : Handover → Prop
  | .failed p => Answers batches (n, p)
  | .enqueued p => (b.entry p n).Of x batches
  | .crashed kind => ∃ indices, RunFault x.lib x.inst indices b.runCalls b.requests kind

theorem processRequests_made {batches : List Batch} {b : Batch} {n : ℕ} (hb : batches[n]? = some b)
    (indices : SetIndices) :
    Made x batches b n (processRequests x.lib x.inst indices b.runCalls b.requests) := by
  by_cases hrows : NoRows x.inst b.runCalls b.requests
  · rw [processRequests_of_noRows x.lib indices b.requests_ne hrows]
    exact ⟨b, hb, fun h => absurd h (by simp [Batch.entry, countedPayload, newPayload]), fun _ => hrows⟩
  · by_cases halive : ∀ kind, ¬ RunFault x.lib x.inst indices b.runCalls b.requests kind
    · have hsettles : HandedOver b.requests.length
          (processRequests x.lib x.inst indices b.runCalls b.requests) ∧
            SettledAfter (processRequests x.lib x.inst indices b.runCalls b.requests) :=
        processRequests_settles b.requests_ne hrows halive
      revert hsettles
      cases processRequests x.lib x.inst indices b.runCalls b.requests with
      | failed p =>
          rintro ⟨hhanded, hdone⟩
          exact ⟨b, hb, hhanded.1, hdone⟩
      | enqueued p =>
          rintro ⟨hhanded, hdone⟩
          refine ⟨b, hb, fun _ barrierSet calls => ⟨b, hb, ?_, hdone barrierSet calls⟩, fun h => ?_⟩
          · exact (processPayload_length barrierSet calls p).trans hhanded.1
          · exact absurd (hhanded.2.1.symm.trans h) (by simp)
      | crashed kind => exact fun h => h.1.elim
    · rw [not_forall] at halive
      obtain ⟨kind, hfault⟩ := halive
      rw [not_not] at hfault
      rw [processRequests_of_fault hfault]
      exact ⟨indices, hfault⟩

/-- The entry the completion thread is at. -/
def CompletionStage.entry : CompletionStage → List Entry
  | .dequeued e | .released e | .responding e _ | .returned e | .crashed e => [e]
  | .waiting => []

/-- What holds of where the completion thread is: `left` is what is left of its payload, and it is
gone for a reason. -/
def CompletionStage.Ok (batches : List Batch) : CompletionStage → Prop
  | .responding e left => Answers batches (e.number, left)
  | .returned e => ∃ err, some err ∈ e.payload.seqStates
  | .crashed e => e.payload.responder = false
  | _ => True

/-- The payloads are those of the batches, and what is answered answers them. -/
structure Kept (x : Settings) (s : State) : Prop where
  running : ∀ b, s.issue = .running b → s.batches[s.batches.length - 1]? = some b
  died : ∀ b kind, s.issue = .crashed b kind → s.batches[s.batches.length - 1]? = some b ∧
    ∃ indices, RunFault x.lib x.inst indices b.runCalls b.requests kind
  entries : ∀ e ∈ s.completion.entry ++ s.queue, e.Of x s.batches
  completion : s.completion.Ok s.batches
  failed : ∀ y ∈ s.failed, Answers s.batches y
  answered : ∀ y ∈ s.answered, Answers s.batches y

theorem CompletionStage.Ok.append {batches : List Batch} {stage : CompletionStage}
    (h : stage.Ok batches) (more : List Batch) : stage.Ok (batches ++ more) := by
  cases stage with
  | responding e left => exact Answers.append h more
  | _ => exact h

/-- A step of the completion thread: it keeps its entry, or takes the first of the queue. -/
theorem Kept.completionStep (h : Kept x s) (hissue : t.issue = s.issue)
    (hbatches : t.batches = s.batches) (hfailed : t.failed = s.failed)
    (hentries : ∀ e ∈ t.completion.entry ++ t.queue, e ∈ s.completion.entry ++ s.queue)
    (hcompletion : t.completion.Ok s.batches)
    (hanswered : ∀ y ∈ t.answered, y ∈ s.answered ∨ Answers s.batches y) : Kept x t where
  running b hb := by
    rw [hissue] at hb
    rw [hbatches]
    exact h.running b hb
  died b kind hb := by
    rw [hissue] at hb
    rw [hbatches]
    exact h.died b kind hb
  entries e he := by
    rw [hbatches]
    exact h.entries e (hentries e he)
  completion := by
    rw [hbatches]
    exact hcompletion
  failed y hy := by
    rw [hfailed] at hy
    rw [hbatches]
    exact h.failed y hy
  answered y hy := by
    rw [hbatches]
    exact (hanswered y hy).elim (h.answered y) id

/-- The payload the thread is at, once it has a responder, answers its batch. -/
theorem Kept.answers (h : Kept x s) {e : Entry} {r : Option Unit} {left : PayloadState}
    (hcompletion : s.completion = .released e) (hresponder : e.payload.responder = true)
    (hrun : processPayload s.barrier.isSome e.calls e.payload = (r, left)) :
    Answers s.batches (e.number, left) := by
  have he : e ∈ s.completion.entry ++ s.queue := by
    rw [hcompletion]
    exact List.mem_cons_self
  obtain ⟨b, -, hanswers, -⟩ := h.entries e he
  have hleft := hanswers hresponder s.barrier.isSome e.calls
  rw [hrun] at hleft
  exact hleft

theorem kept_step (h : Kept x s) (hstep : Step x s a t) : Kept x t := by
  cases hstep with
  | execute b hissue =>
      refine ⟨fun b' hb' => ?_, fun b' kind hb' => absurd hb' (by simp),
        fun e he => (h.entries e he).append [b], h.completion.append [b],
        fun y hy => (h.failed y hy).append [b], fun y hy => (h.answered y hy).append [b]⟩
      obtain rfl := IssueStage.running.inj hb'
      show (s.batches ++ [b])[(s.batches ++ [b]).length - 1]? = some b
      rw [List.length_append, List.length_singleton, Nat.add_sub_cancel]
      exact List.getElem?_concat_length
  | runFailed b p hissue hrun =>
      have hmade := processRequests_made (x := x) (h.running b hissue) s.indices
      rw [hrun] at hmade
      refine ⟨fun b' hb' => absurd hb' (by simp), fun b' kind hb' => absurd hb' (by simp), h.entries,
        h.completion, fun y hy => ?_, h.answered⟩
      rcases List.mem_append.mp hy with hy | hy
      · exact h.failed y hy
      · rw [List.mem_singleton.mp hy]
        exact hmade
  | runQueued b p hissue hrun =>
      have hmade := processRequests_made (x := x) (h.running b hissue) s.indices
      rw [hrun] at hmade
      refine ⟨fun b' hb' => absurd hb' (by simp), fun b' kind hb' => absurd hb' (by simp),
        fun e he => ?_, h.completion, h.failed, h.answered⟩
      rw [← List.append_assoc] at he
      rcases List.mem_append.mp he with he | he
      · exact h.entries e he
      · rw [List.mem_singleton.mp he]
        exact hmade
  | runCrashed b kind hissue hrun =>
      have hmade := processRequests_made (x := x) (h.running b hissue) s.indices
      rw [hrun] at hmade
      refine ⟨fun b' hb' => absurd hb' (by simp), fun b' kind' hb' => ?_, h.entries, h.completion,
        h.failed, h.answered⟩
      obtain ⟨rfl, rfl⟩ := IssueStage.crashed.inj hb'
      exact ⟨h.running b hissue, hmade⟩
  | barrierPass hissue hopen =>
      exact ⟨fun b' hb' => absurd hb' (by simp), fun b' kind hb' => absurd hb' (by simp), h.entries,
        h.completion, h.failed, h.answered⟩
  | acquire hissue hcount =>
      exact ⟨fun b' hb' => absurd hb' (by simp), fun b' kind hb' => absurd hb' (by simp), h.entries,
        h.completion, h.failed, h.answered⟩
  | dequeue e queue hcompletion hqueue =>
      refine h.completionStep rfl rfl rfl (fun e' he' => ?_) trivial fun y hy => Or.inl hy
      rw [hqueue]
      exact List.mem_append_right _ he'
  | release e hcompletion =>
      refine h.completionStep rfl rfl rfl (fun e' he' => ?_) trivial fun y hy => Or.inl hy
      rw [hcompletion]
      exact he'
  | updated e u hcompletion hresponder hrun =>
      have hleft := h.answers hcompletion hresponder hrun
      refine h.completionStep rfl rfl rfl (fun e' he' => ?_) hleft fun y hy => Or.inl hy
      rw [hcompletion]
      exact he'
  | updateFailed e u hcompletion hresponder hrun =>
      have hleft := h.answers hcompletion hresponder hrun
      have herr := states_of_returned hresponder hrun
      refine h.completionStep rfl rfl rfl (fun e' he' => ?_) herr fun y hy => ?_
      · rw [hcompletion]
        exact he'
      · rcases List.mem_append.mp hy with hy | hy
        · exact Or.inl hy
        · rw [List.mem_singleton.mp hy]
          exact Or.inr hleft
  | crash e hcompletion hresponder =>
      refine h.completionStep rfl rfl rfl (fun e' he' => ?_) hresponder fun y hy => Or.inl hy
      rw [hcompletion]
      exact he'
  | respond e u hcompletion =>
      have hleft : s.completion.Ok s.batches := h.completion
      rw [hcompletion] at hleft
      refine h.completionStep rfl rfl rfl (fun e' he' => List.mem_append_right _ he') trivial
        fun y hy => ?_
      rcases List.mem_append.mp hy with hy | hy
      · exact Or.inl hy
      · rw [List.mem_singleton.mp hy]
        exact Or.inr hleft

theorem inductive_kept (x : Settings) : (threads x).Inductive (Kept x) where
  init := by
    rintro s ⟨bufferSet, -, rfl⟩
    refine ⟨fun b hb => absurd hb (by simp [State.initial]),
      fun b kind hb => absurd hb (by simp [State.initial]), fun e he => absurd he List.not_mem_nil,
      trivial, fun y hy => absurd hy List.not_mem_nil, fun y hy => absurd hy List.not_mem_nil⟩
  step s a t h hs := kept_step h (step_cases hs)

/-- **What is done with the batches.**  In every run of the two threads, however the outside calls
turn out: each batch so far is in exactly one place, failed, answered or under way; the completion
thread is done with the payloads in the order of their calls; and of every batch that is failed or
answered, each request was released once and has its one final response, or none because no response
could be created. -/
theorem service_answers {as : List Action} (hs : (threads x).init s)
    (h : (threads x).run s as = some t) :
    (t.failed.map Prod.fst ++ t.handed).Perm (List.range (executed as).length) ∧
      t.handed.Pairwise (· < ·) ∧
      ∀ y ∈ t.failed ++ t.answered, ∃ b, (executed as)[y.1]? = some b ∧
        y.2.slots.length = b.requests.length ∧ ∀ slot ∈ y.2.slots, slot.Done := by
  have hreach : (threads x).Reachable t := ⟨s, as, hs, h⟩
  have hbatches : t.batches = executed as := by
    obtain ⟨bufferSet, -, rfl⟩ := hs
    exact run_batches h
  have hplaced := hreach.of_inductive (inductive_placed x)
  have hkept := hreach.of_inductive (inductive_kept x)
  rw [← hbatches]
  refine ⟨hplaced.places, hplaced.order, fun y hy => ?_⟩
  rcases List.mem_append.mp hy with hy | hy
  · exact hkept.failed y hy
  · exact hkept.answered y hy

/-- A model that batches up to eight rows and updates states, under eager batching. -/
def matrixSettings : Settings := ⟨.plain, matrixInstance 8 1 matrixBatchSize_lt, ⟨true, true, true⟩⟩

/-- One request of so many rows. -/
def matrixBatch (rows : ℤ) : Batch where
  requests := matrixRequests rows 10
  requests_ne := List.cons_ne_nil _ _
  request_count := by simp [matrixRequests]

/-- Four rows are answered while forty are refused. -/
def answerAndRefuse : List Action :=
  [.execute (matrixBatch 4), .runEnd, .dequeue, .release, .update, .barrierPass, .acquire,
    .execute (matrixBatch 40), .respond, .runEnd]

theorem service_answers_answerAndRefuse :
    ∃ t, (threads matrixSettings).run (.initial matrixSettings 0) answerAndRefuse = some t ∧
      t.failed.map Prod.fst = [1] ∧ t.answered.map Prod.fst = [0] ∧
      (t.failed.map Prod.fst ++ t.handed).Perm (List.range (executed answerAndRefuse).length) ∧
      t.handed.Pairwise (· < ·) ∧
      ∀ y ∈ t.failed ++ t.answered, ∃ b, (executed answerAndRefuse)[y.1]? = some b ∧
        y.2.slots.length = b.requests.length ∧ ∀ slot ∈ y.2.slots, slot.Done := by
  have hrun : ∃ t, (threads matrixSettings).run (.initial matrixSettings 0) answerAndRefuse =
      some t ∧ t.failed.map Prod.fst = [1] ∧ t.answered.map Prod.fst = [0] := ⟨_, rfl, rfl, rfl⟩
  obtain ⟨t, hrun, hfailed, hanswered⟩ := hrun
  exact ⟨t, hrun, hfailed, hanswered, service_answers ⟨0, Nat.one_pos, rfl⟩ hrun⟩

/-! ### Rest -/

/-- Whether the issue thread holds a permit. -/
def IssueStage.permit : IssueStage → ℕ
  | .ready | .running _ | .crashed _ _ => 1
  | .handedOver | .acquiring => 0

/-- Whether the completion thread has the permit of a payload. -/
def CompletionStage.permit : CompletionStage → ℕ
  | .dequeued _ => 1
  | _ => 0

/-- The payload the completion thread has not signalled the barrier for. -/
def CompletionStage.unsignalled : CompletionStage → List Entry
  | .dequeued e | .released e | .returned e | .crashed e => [e]
  | .waiting | .responding _ _ => []

/-- Every permit is somewhere, and behind `Put` the payload is still to be signalled for or the
barrier is open. -/
structure Waits (x : Settings) (s : State) : Prop where
  permits : s.count + s.issue.permit + s.completion.permit + s.queue.length =
    x.config.semaphoreCount
  barrier : s.issue = .handedOver →
    s.barrierOpen = true ∨ s.completion.unsignalled ++ s.queue ≠ []

theorem semaphoreCount_pos (config : PipelineConfig) : 0 < config.semaphoreCount := by
  rw [PipelineConfig.semaphoreCount]
  split <;> decide

/-- The barrier is open once it is set. -/
theorem barrierOpen_setValue (completion : CompletionStage) :
    State.barrierOpen { s with completion := completion, fulfilments := s.setValue } = true := by
  unfold State.barrierOpen State.setValue
  cases hbarrier : s.barrier with
  | none => rfl
  | some k => simp only [Function.update_self, Nat.succ_pos, decide_true]

theorem waits_step (h : Waits x s) (hstep : Step x s a t) : Waits x t := by
  have hpermits := h.permits
  cases hstep with
  | execute b hissue =>
      rw [hissue] at hpermits
      exact ⟨hpermits, fun hb => absurd hb (by simp)⟩
  | runFailed b p hissue hrun =>
      rw [hissue] at hpermits
      refine ⟨?_, fun hb => absurd hb (by simp)⟩
      simp only [IssueStage.permit] at hpermits ⊢
      omega
  | runQueued b p hissue hrun =>
      rw [hissue] at hpermits
      refine ⟨?_, fun _ => Or.inr (by simp)⟩
      simp only [IssueStage.permit, List.length_append, List.length_singleton] at hpermits ⊢
      omega
  | runCrashed b kind hissue hrun =>
      rw [hissue] at hpermits
      exact ⟨hpermits, fun hb => absurd hb (by simp)⟩
  | barrierPass hissue hopen =>
      rw [hissue] at hpermits
      exact ⟨hpermits, fun hb => absurd hb (by simp)⟩
  | acquire hissue hcount =>
      rw [hissue] at hpermits
      refine ⟨?_, fun hb => absurd hb (by simp)⟩
      simp only [IssueStage.permit] at hpermits ⊢
      omega
  | dequeue e queue hcompletion hqueue =>
      rw [hcompletion, hqueue] at hpermits
      refine ⟨?_, fun _ => Or.inr (by simp [CompletionStage.unsignalled])⟩
      simp only [CompletionStage.permit, List.length_cons] at hpermits ⊢
      omega
  | release e hcompletion =>
      rw [hcompletion] at hpermits
      refine ⟨?_, fun _ => Or.inr (by simp [CompletionStage.unsignalled])⟩
      simp only [CompletionStage.permit] at hpermits ⊢
      omega
  | updated e u hcompletion hresponder hrun =>
      rw [hcompletion] at hpermits
      exact ⟨hpermits, fun _ => Or.inl (barrierOpen_setValue _)⟩
  | updateFailed e u hcompletion hresponder hrun =>
      rw [hcompletion] at hpermits
      exact ⟨hpermits, fun _ => Or.inr (by simp [CompletionStage.unsignalled])⟩
  | crash e hcompletion hresponder =>
      rw [hcompletion] at hpermits
      exact ⟨hpermits, fun _ => Or.inr (by simp [CompletionStage.unsignalled])⟩
  | respond e u hcompletion =>
      have hbarrier := h.barrier
      rw [hcompletion] at hpermits hbarrier
      exact ⟨hpermits, hbarrier⟩

theorem inductive_waits (x : Settings) : (threads x).Inductive (Waits x) where
  init := by
    rintro s ⟨bufferSet, -, rfl⟩
    refine ⟨?_, fun hb => absurd hb (by simp [State.initial])⟩
    have hpos := semaphoreCount_pos x.config
    show x.config.semaphoreCount - 1 + 1 + 0 + 0 = x.config.semaphoreCount
    omega
  step s a t h hs := waits_step h (step_cases hs)

/-- What the two threads do by themselves. -/
def Action.Internal : Action → Prop
  | .execute _ => False
  | _ => True

def IssueStage.weight : IssueStage → ℕ
  | .ready | .crashed _ _ => 0
  | .acquiring => 1
  | .handedOver => 2
  | .running _ => 7

def CompletionStage.weight : CompletionStage → ℕ
  | .dequeued _ => 3
  | .released _ => 2
  | .responding _ _ => 1
  | _ => 0

/-- The internal steps that may still be taken, at most. -/
def State.work (s : State) : ℕ := s.issue.weight + s.completion.weight + 4 * s.queue.length

theorem Step.work_lt (h : Step x s a t) (ha : a.Internal) : t.work < s.work := by
  cases h with
  | execute b hissue => exact ha.elim
  | runFailed b p hissue hrun =>
      simp only [State.work, hissue, IssueStage.weight]
      omega
  | runQueued b p hissue hrun =>
      simp only [State.work, hissue, IssueStage.weight, List.length_append, List.length_singleton]
      omega
  | runCrashed b kind hissue hrun =>
      simp only [State.work, hissue, IssueStage.weight]
      omega
  | barrierPass hissue hopen =>
      simp only [State.work, hissue, IssueStage.weight]
      omega
  | acquire hissue hcount =>
      simp only [State.work, hissue, IssueStage.weight]
      omega
  | dequeue e queue hcompletion hqueue =>
      simp only [State.work, hcompletion, hqueue, CompletionStage.weight, List.length_cons]
      omega
  | release e hcompletion =>
      simp only [State.work, hcompletion, CompletionStage.weight]
      omega
  | updated e u hcompletion hresponder hrun =>
      simp only [State.work, hcompletion, CompletionStage.weight]
      omega
  | updateFailed e u hcompletion hresponder hrun =>
      simp only [State.work, hcompletion, CompletionStage.weight]
      omega
  | crash e hcompletion hresponder =>
      simp only [State.work, hcompletion, CompletionStage.weight]
      omega
  | respond e u hcompletion =>
      simp only [State.work, hcompletion, CompletionStage.weight]
      omega

/-- A process that is alive takes the steps of its threads. -/
theorem step_of_alive (halive : s.dead = false) (a : Action) : step x s a = move x s a := by
  rw [step, halive]
  rfl

/-- **Where it can do nothing** the completion thread waits for a payload, or has returned. -/
theorem completion_of_rest (halive : s.dead = false) (hrest : (threads x).AtRest Action.Internal s) :
    s.completion = .waiting ∧ s.queue = [] ∨ ∃ e, s.completion = .returned e := by
  cases hcompletion : s.completion with
  | waiting =>
      refine Or.inl ⟨rfl, ?_⟩
      cases hqueue : s.queue with
      | nil => rfl
      | cons e queue =>
          refine absurd ?_ (hrest.not_step (a := .dequeue)
            (t := { s with completion := .dequeued e, queue := queue }) trivial)
          show step x s .dequeue = some _
          simp only [step_of_alive halive, move, hcompletion, hqueue]
  | dequeued e =>
      refine absurd ?_ (hrest.not_step (a := .release)
        (t := { s with completion := .released e, count := s.count + 1 }) trivial)
      show step x s .release = some _
      simp only [step_of_alive halive, move, hcompletion]
  | released e =>
      have hblocked : step x s .update = none := hrest .update trivial
      simp only [step_of_alive halive, move, hcompletion] at hblocked
      split at hblocked
      · split at hblocked <;> cases hblocked
      · cases hblocked
  | responding e left =>
      refine absurd ?_ (hrest.not_step (a := .respond)
        (t := { s with completion := .waiting, answered := s.answered ++ [(e.number, left)] }) trivial)
      show step x s .respond = some _
      simp only [step_of_alive halive, move, hcompletion]
  | returned e => exact Or.inr ⟨e, rfl⟩
  | crashed e =>
      unfold State.dead at halive
      rw [hcompletion] at halive
      cases hissue : s.issue <;> simp [hissue] at halive

/-- The issue thread gets on as long as the completion thread does. -/
theorem issue_of_rest (h : Waits x s) (halive : s.dead = false)
    (hrest : (threads x).AtRest Action.Internal s) (hcompletion : s.completion = .waiting)
    (hqueue : s.queue = []) : s.issue = .ready := by
  have hpermits := h.permits
  have hbarrier := h.barrier
  rw [hcompletion, hqueue] at hpermits hbarrier
  cases hissue : s.issue with
  | ready => rfl
  | running b =>
      have hblocked : step x s .runEnd = none := hrest .runEnd trivial
      simp only [step_of_alive halive, move, hissue] at hblocked
      split at hblocked <;> cases hblocked
  | handedOver =>
      have hopen : s.barrierOpen = true := (hbarrier hissue).resolve_right fun hne => hne rfl
      refine absurd ?_ (hrest.not_step (a := .barrierPass) (t := { s with issue := .acquiring }) trivial)
      show step x s .barrierPass = some _
      simp only [step_of_alive halive, move, hissue, hopen, if_true]
  | acquiring =>
      have hcount : 0 < s.count := by
        have hpos := semaphoreCount_pos x.config
        rw [hissue] at hpermits
        simp only [IssueStage.permit, CompletionStage.permit, List.length_nil] at hpermits
        omega
      refine absurd ?_ (hrest.not_step (a := .acquire)
        (t := { s with issue := .ready, count := s.count - 1 }) trivial)
      show step x s .acquire = some _
      simp only [step_of_alive halive, move, hissue, hcount, if_true]
  | crashed b kind =>
      unfold State.dead at halive
      rw [hissue] at halive
      cases halive

/-- The process died at a batch: in `Run`, or in the completion thread, which found no responder
because the batch has no rows. -/
def DiedAt (x : Settings) (t : State) : Prop :=
  (∃ b kind, t.issue = .crashed b kind ∧ t.batches[t.batches.length - 1]? = some b ∧
      ∃ indices, RunFault x.lib x.inst indices b.runCalls b.requests kind) ∨
    ∃ e b, t.completion = .crashed e ∧ t.batches[e.number]? = some b ∧
      NoRows x.inst b.runCalls b.requests

/-- A dead process died for a reason. -/
theorem diedAt_of_dead (h : Kept x t) (hdead : t.dead = true) : DiedAt x t := by
  unfold State.dead at hdead
  cases hissue : t.issue with
  | crashed b kind =>
      obtain ⟨hb, hfault⟩ := h.died b kind hissue
      exact Or.inl ⟨b, kind, hissue, hb, hfault⟩
  | _ =>
      have hof := h.entries
      have hok := h.completion
      cases hcompletion : t.completion with
      | crashed e =>
          rw [hcompletion] at hof hok
          obtain ⟨b, hb, -, hrows⟩ := hof e List.mem_cons_self
          exact Or.inr ⟨e, b, hcompletion, hb, hrows hok⟩
      | _ => simp [hissue, hcompletion] at hdead

/-- **The service comes to rest.** From every state the two threads can reach they take a bounded
number of steps without a new batch.  Where they can take none, every batch so far has been failed
or answered and the issue thread is ready for the next one; or the completion thread has returned
because a state update of the payload it was at failed; or the process died at a batch. -/
theorem service_comes_to_rest {as : List Action} (hs : (threads x).Reachable s)
    (hinternal : ∀ a ∈ as, a.Internal) (h : (threads x).run s as = some t) :
    as.length ≤ s.work ∧
      ((threads x).AtRest Action.Internal t →
        t.issue = .ready ∧ t.completion = .waiting ∧
            (t.failed.map Prod.fst ++ t.answered.map Prod.fst).Perm (List.range t.batches.length) ∨
          (∃ e, t.completion = .returned e ∧ ∃ err, some err ∈ e.payload.seqStates) ∨
          DiedAt x t) := by
  have hreach := hs.run h
  constructor
  · have hbound := StepSystem.length_add_le_of_measure (I := fun _ : State => True)
      (fun u a v ha _ hstep => ⟨trivial, (step_cases hstep).work_lt ha⟩) hinternal trivial h
    omega
  · intro hrest
    have hkept := hreach.of_inductive (inductive_kept x)
    cases halive : t.dead with
    | true => exact Or.inr (Or.inr (diedAt_of_dead hkept halive))
    | false =>
        rcases completion_of_rest halive hrest with ⟨hcompletion, hqueue⟩ | ⟨e, hcompletion⟩
        · have hissue := issue_of_rest (hreach.of_inductive (inductive_waits x)) halive hrest
            hcompletion hqueue
          refine Or.inl ⟨hissue, hcompletion, ?_⟩
          have hplaces := (hreach.of_inductive (inductive_placed x)).places
          rw [State.handed, State.underway, State.running, hcompletion, hqueue, hissue] at hplaces
          simpa only [CompletionStage.numbers, List.map_nil, List.append_nil] using hplaces
        · have hok := hkept.completion
          rw [hcompletion] at hok
          exact Or.inr (Or.inl ⟨e, hcompletion, hok⟩)

/-- The theorem for a batch of no rows, whose payload has no responder. -/
theorem service_comes_to_rest_noRows :
    ∃ s t, (threads matrixSettings).Reachable s ∧
      (threads matrixSettings).run s [.runEnd, .dequeue, .release, .update] = some t ∧
      (threads matrixSettings).AtRest Action.Internal t ∧
      [Action.runEnd, .dequeue, .release, .update].length ≤ s.work ∧
      (t.issue = .ready ∧ t.completion = .waiting ∧
          (t.failed.map Prod.fst ++ t.answered.map Prod.fst).Perm (List.range t.batches.length) ∨
        (∃ e, t.completion = .returned e ∧ ∃ err, some err ∈ e.payload.seqStates) ∨
        DiedAt matrixSettings t) := by
  have hstart : ∃ s, (threads matrixSettings).run (.initial matrixSettings 0)
      [.execute (matrixBatch 0)] = some s ∧
        ∃ t, (threads matrixSettings).run s [.runEnd, .dequeue, .release, .update] = some t ∧
          t.dead = true := ⟨_, rfl, _, rfl, rfl⟩
  obtain ⟨s, hs, t, hrun, hdead⟩ := hstart
  have hreach : (threads matrixSettings).Reachable s := ⟨_, _, ⟨0, Nat.one_pos, rfl⟩, hs⟩
  have hrest : (threads matrixSettings).AtRest Action.Internal t := by
    intro a _
    show step matrixSettings t a = none
    rw [step, hdead]
    rfl
  obtain ⟨hbound, hend⟩ := service_comes_to_rest hreach (by simp [Action.Internal]) hrun
  exact ⟨s, t, hreach, hrun, hrest, hbound, hend hrest⟩

/-! ### The threads of the barrier -/

/-- What the barrier's threads see of a payload. -/
def Entry.view (e : Entry) : Barrier.Payload := ⟨e.number, e.payload.responder, e.payload.seqStates⟩

def IssueStage.view : IssueStage → Barrier.IssuePhase
  | .ready => .ready
  | .running _ | .crashed _ _ => .running
  | .handedOver => .handedOver
  | .acquiring => .acquiring

/-- Where the thread is; it leaves at the first update that fails. -/
def CompletionStage.view : CompletionStage → Barrier.CompletionPhase
  | .waiting => .waiting
  | .dequeued e => .dequeued e.view
  | .released e => .released e.view
  | .responding e _ => .responding e.view
  | .returned e => .returned e.view (e.payload.seqStates.dropWhile Option.isNone)
  | .crashed e => .crashed e.view

/-- What the barrier's threads see. -/
def State.view (s : State) : Barrier.State where
  count := s.count
  issue := s.issue.view
  calls := s.batches.length
  barrier := s.barrier
  fulfilments := s.fulfilments
  queue := s.queue.map fun e => some e.view
  completion := s.completion.view

theorem run_of_step {config : PipelineConfig} {u v : Barrier.State} {a : Barrier.Action}
    (h : Barrier.step config u a = some v) : ∃ bs, (Barrier.Threads config).run u bs = some v :=
  ⟨[a], StepSystem.run_cons_eq_some.mpr ⟨v, h, rfl⟩⟩

/-- The loop over the states leaves at the first that fails. -/
theorem run_updates_failed (config : PipelineConfig) (p : Barrier.Payload)
    {rest : List (Option Error)} (hfail : ∃ err, some err ∈ rest) {u : Barrier.State}
    (hu : u.completion = .updating p rest) :
    ∃ bs, (Barrier.Threads config).run u bs =
      some { u with completion := .returned p (rest.dropWhile Option.isNone) } := by
  induction rest generalizing u with
  | nil =>
      obtain ⟨err, herr⟩ := hfail
      exact absurd herr List.not_mem_nil
  | cons state rest ih =>
      cases state with
      | some err =>
          refine run_of_step (a := .updateState) ?_
          simp only [Barrier.step, hu]
          rfl
      | none =>
          have hstep : (Barrier.Threads config).step u .updateState =
              some { u with completion := .updating p rest } := by
            simp only [Barrier.threads_step, Barrier.step, hu]
          obtain ⟨err, herr⟩ := hfail
          have herr' : some err ∈ rest := (List.mem_cons.mp herr).resolve_left (by simp)
          obtain ⟨bs, hbs⟩ := ih ⟨err, herr'⟩ (u := { u with completion := .updating p rest }) rfl
          exact ⟨.updateState :: bs, StepSystem.run_cons_eq_some.mpr ⟨_, hstep, hbs⟩⟩

/-- A responder that is there is finalized, and the states are looked at. -/
theorem view_finalize {e : Entry} (hcompletion : s.completion = .released e)
    (hresponder : e.payload.responder = true) :
    (Barrier.Threads x.config).step s.view .finalize =
      some { s.view with completion := .updating e.view e.payload.seqStates } := by
  have hthere : e.view.responder = true := hresponder
  simp only [Barrier.threads_step, Barrier.step, State.view, hcompletion, CompletionStage.view, hthere,
    if_true]
  rfl

theorem view_step (h : Step x s a t) :
    ∃ bs, (Barrier.Threads x.config).run s.view bs = some t.view := by
  cases h with
  | execute b hissue =>
      refine run_of_step (a := .runStart) ?_
      simp only [Barrier.step, State.view, hissue, IssueStage.view, if_true, Barrier.State.beginRun,
        List.length_append, List.length_singleton]
  | runFailed b p hissue hrun =>
      refine run_of_step (a := .runFail) ?_
      simp only [Barrier.step, State.view, hissue, IssueStage.view, if_true]
  | runQueued b p hissue hrun =>
      refine run_of_step (a := .runSucceed p.responder p.seqStates) ?_
      simp only [Barrier.step, State.view, hissue, IssueStage.view, if_true, List.map_append,
        List.map_cons, List.map_nil]
      rfl
  | runCrashed b kind hissue hrun =>
      refine ⟨[], congrArg some ?_⟩
      simp only [State.view, hissue, IssueStage.view]
  | barrierPass hissue hopen =>
      refine run_of_step (a := .barrierPass) ?_
      have hview : s.view.barrierOpen = true := hopen
      rw [Barrier.step, if_pos ⟨congrArg IssueStage.view hissue, hview⟩]
      rfl
  | acquire hissue hcount =>
      refine run_of_step (a := .acquire) ?_
      rw [Barrier.step, if_pos ⟨congrArg IssueStage.view hissue, hcount⟩]
      rfl
  | dequeue e queue hcompletion hqueue =>
      refine run_of_step (a := .dequeue) ?_
      simp only [Barrier.step, State.view, hcompletion, hqueue, CompletionStage.view, List.map_cons]
  | release e hcompletion =>
      refine run_of_step (a := .release) ?_
      simp only [Barrier.step, State.view, hcompletion, CompletionStage.view]
  | updated e u hcompletion hresponder hrun =>
      have hall := states_of_fallen hrun
      rcases Barrier.run_updates x.config e.view e.payload.seqStates
        (s := { s.view with completion := .updating e.view e.payload.seqStates }) rfl with
        ⟨-, bs, hbs⟩ | ⟨err, left, hmem, -⟩
      · refine ⟨.finalize :: (bs ++ [.setValue]), StepSystem.run_cons_eq_some.mpr
          ⟨_, view_finalize hcompletion hresponder, StepSystem.run_append_eq_some.mpr
            ⟨_, hbs, StepSystem.run_cons_eq_some.mpr ⟨_, rfl, ?_⟩⟩⟩⟩
        show some _ = some _
        unfold Barrier.State.setValue State.view State.setValue
        cases s.barrier <;> rfl
      · exact absurd (hall _ hmem) (by simp)
  | updateFailed e u hcompletion hresponder hrun =>
      obtain ⟨bs, hbs⟩ := run_updates_failed x.config e.view (states_of_returned hresponder hrun)
        (u := { s.view with completion := .updating e.view e.payload.seqStates }) rfl
      exact ⟨.finalize :: bs, StepSystem.run_cons_eq_some.mpr
        ⟨_, view_finalize hcompletion hresponder, hbs⟩⟩
  | crash e hcompletion hresponder =>
      refine run_of_step (a := .finalize) ?_
      have hnull : e.view.responder = false := hresponder
      simp only [Barrier.step, State.view, hcompletion, CompletionStage.view, hnull,
        Bool.false_eq_true, if_false]
  | respond e u hcompletion =>
      refine run_of_step (a := .respond) ?_
      simp only [Barrier.step, State.view, hcompletion, CompletionStage.view]

theorem view_unsignalled (s : State) :
    s.view.unsignalled = (s.completion.unsignalled ++ s.queue).map Entry.view := by
  have hqueue : (s.queue.map fun e => some e.view).filterMap id = s.queue.map Entry.view := by
    rw [List.filterMap_map]
    exact congrFun (List.filterMap_eq_map (f := Entry.view)) s.queue
  have hcompletion : s.completion.view.unsignalled.toList =
      s.completion.unsignalled.map Entry.view := by
    cases s.completion <;> rfl
  show s.completion.view.unsignalled.toList ++ (s.queue.map fun e => some e.view).filterMap id = _
  rw [hqueue, hcompletion, List.map_append]

theorem refinement (x : Settings) : StepSystem.Refinement (threads x) (Barrier.Threads x.config)
    (fun _ => True) State.view where
  init := by
    rintro s ⟨bufferSet, -, rfl⟩
    rfl
  step s a t _ h := view_step (step_cases h)

/-- **The service refines the threads of the barrier**: seen through what these know, every run on
the requests is a run of theirs.  So when the states are implicit, no promise is fulfilled twice,
and the issue thread takes a batch only when the states of all batches handed over before are
updated. -/
theorem service_refines_barrier {as : List Action} (hs : (threads x).init s)
    (h : (threads x).run s as = some t) :
    (∃ bs, (Barrier.Threads x.config).run (.initial x.config) bs = some t.view) ∧
      (x.config.usesImplicitState = true → (∀ k, t.fulfilments k ≤ 1) ∧
        (t.issue = .ready → t.completion.unsignalled ++ t.queue = [])) := by
  have hview : s.view = .initial x.config := (refinement x).init s hs
  obtain ⟨bs, hbs⟩ := (refinement x).run ⟨fun _ _ => trivial, fun _ _ _ _ _ => trivial⟩ trivial h
  rw [hview] at hbs
  refine ⟨⟨bs, hbs⟩, fun himplicit => ?_⟩
  have hreach : (Barrier.Threads x.config).Reachable t.view := ⟨_, bs, rfl, hbs⟩
  have hok := hreach.of_inductive (Barrier.inductive_ok x.config himplicit)
  refine ⟨hok.once, fun hissue => ?_⟩
  have hready : t.view.issue = .ready := congrArg IssueStage.view hissue
  have hnone := hok.unsignalled_of_ne (by rw [hready]; decide)
  rw [view_unsignalled] at hnone
  exact List.map_eq_nil_iff.mp hnone

/-- The theorem for the two batches. -/
theorem service_refines_barrier_answerAndRefuse :
    ∃ t, (threads matrixSettings).run (.initial matrixSettings 0) answerAndRefuse = some t ∧
      (∃ bs, (Barrier.Threads matrixSettings.config).run (.initial matrixSettings.config) bs =
        some t.view) ∧
      (matrixSettings.config.usesImplicitState = true → (∀ k, t.fulfilments k ≤ 1) ∧
        (t.issue = .ready → t.completion.unsignalled ++ t.queue = [])) := by
  have hrun : ∃ t, (threads matrixSettings).run (.initial matrixSettings 0) answerAndRefuse =
      some t := ⟨_, rfl⟩
  obtain ⟨t, hrun⟩ := hrun
  exact ⟨t, hrun, service_refines_barrier ⟨0, Nat.one_pos, rfl⟩ hrun⟩

end TensorrtBackend.Service

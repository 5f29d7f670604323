import Mathlib.Data.List.Forall2
import TensorrtBackend.Responses

/-!
# The completion thread

`ProcessResponse` dequeues payloads until it gets the null payload the destructor puts.  Of each
payload it releases the semaphore, finalizes the responder, updates the sequence states, fulfils the
barrier and sends what has not been sent.  A failed `TRITONBACKEND_StateUpdate` goes through
`FAIL_ALL_AND_RETURN_IF_ERROR`, whose `return` leaves the thread and not the iteration.

* `processPayload_settles`: every request of a payload is released once and settled, whatever fails.
* `processResponse_serves_iff`: when the thread serves every payload before the null one.
-/

namespace TensorrtBackend

open EarlyReturn PayloadM

/-- The final response of a request that has not been answered. -/
def Slot.send (slot : Slot) : Slot :=
  { slot with
    answers := if slot.response = some true then slot.answers ++ [none] else slot.answers }

/-- `TRITONBACKEND_RequestRelease`. -/
def Slot.release (slot : Slot) : Slot := { slot with released := slot.released + 1 }

/-- The rest of an iteration of `ProcessResponse` once the semaphore is released: finalize the
responder, update the states, signal the barrier, send and release. -/
def respondPayload (barrierSet : Bool) (calls : Calls) : PayloadM Unit := do
  let _ ← collect calls
  let seqStates ← gets PayloadState.seqStates
  forEach failAllIfError seqStates
  modify fun s => { s with
    barrierFulfils := s.barrierFulfils + if barrierSet then 1 else 0
    slots := s.slots.map fun slot => slot.send.release }

/-- One iteration of `ProcessResponse`.  A null `responder_` is used like any other. -/
def processPayload (barrierSet : Bool) (calls : Calls) : PayloadM Unit := do
  modify fun s => { s with semaphoreReleases := s.semaphoreReleases + 1 }
  let responder ← gets PayloadState.responder
  if responder then respondPayload barrierSet calls
  else crash .nullResponder

/-- A payload on `completion_queue_`, and how the calls made for it will turn out. -/
structure QueuedPayload where
  payload : PayloadState
  calls : Calls := {}

/-- Where the thread is once it has worked through the entries of the queue. -/
inductive ThreadExit
  /-- In `completion_queue_.Get()`. -/
  | waiting
  /-- Behind the loop. -/
  | finished
  /-- Out of `ProcessResponse` by a `return` inside the loop. -/
  | returned
  | crashed
  deriving DecidableEq

/-- `ProcessResponse`: the payloads it dequeues, as it leaves them, and where it ends.  A null
payload is `none`. -/
def processResponse (barrierSet : Bool) :
    List (Option QueuedPayload) → List PayloadState × ThreadExit
  | [] => ([], .waiting)
  | none :: _ => ([], .finished)
  | some q :: queue =>
      match processPayload barrierSet q.calls q.payload with
      | (some _, t) =>
          let rest := processResponse barrierSet queue
          (t :: rest.1, rest.2)
      | (none, t) => ([t], if t.crashed then .crashed else .returned)

/-! ### One payload -/

/-- A state update failed, or there is nothing to do the response with. -/
def PayloadState.Fails (s : PayloadState) : Prop :=
  s.responder = false ∨ ∃ err, some err ∈ s.seqStates

theorem PayloadState.not_fails_iff {s : PayloadState} :
    ¬ s.Fails ↔ s.responder = true ∧ ∀ state ∈ s.seqStates, state = none := by
  rw [PayloadState.Fails, not_or, Bool.not_eq_false]
  refine and_congr_right fun _ => ⟨fun h state hstate => ?_, fun h ⟨err, herr⟩ => ?_⟩
  · cases state with
    | none => rfl
    | some err => exact absurd ⟨err, hstate⟩ h
  · cases h _ herr

/-- The updates all succeed and nothing happens, or one fails and every request is failed. -/
theorem forEach_failAllIfError (states : List (Option Error)) (s : PayloadState) :
    (∀ state ∈ states, state = none) ∧ forEach failAllIfError states s = (some (), s) ∨
      ∃ err, some err ∈ states ∧ forEach failAllIfError states s =
        (none, { s with slots := s.slots.map (Slot.fail err) }) := by
  induction states with
  | nil => exact Or.inl ⟨fun state h => absurd h List.not_mem_nil, rfl⟩
  | cons state states ih =>
      cases state with
      | some err => exact Or.inr ⟨err, List.mem_cons_self, rfl⟩
      | none =>
          rcases ih with ⟨hall, heq⟩ | ⟨err, hmem, heq⟩
          · refine Or.inl ⟨fun state hstate => ?_, heq⟩
            rcases List.mem_cons.mp hstate with rfl | hstate
            · rfl
            · exact hall state hstate
          · exact Or.inr ⟨err, List.mem_cons_of_mem _ hmem, heq⟩

theorem respondPayload_cases (barrierSet : Bool) (calls : Calls) (s : PayloadState) :
    ((∀ state ∈ s.seqStates, state = none) ∧ ∃ t, respondPayload barrierSet calls s = (some (), t) ∧
        t.semaphoreReleases = s.semaphoreReleases ∧
        t.barrierFulfils = s.barrierFulfils + if barrierSet then 1 else 0) ∨
      ((∃ err, some err ∈ s.seqStates) ∧ ∃ t, respondPayload barrierSet calls s = (none, t) ∧
        t.semaphoreReleases = s.semaphoreReleases ∧ t.barrierFulfils = s.barrierFulfils) := by
  have hcollect : respondPayload barrierSet calls s = (do
      forEach failAllIfError s.seqStates
      modify fun s => { s with
        barrierFulfils := s.barrierFulfils + if barrierSet then 1 else 0
        slots := s.slots.map fun slot => slot.send.release } : PayloadM Unit)
      (collect calls s).2 := rfl
  rcases forEach_failAllIfError s.seqStates (collect calls s).2 with ⟨hall, heq⟩ | ⟨err, hmem, heq⟩
  · rw [bind_of_fall heq] at hcollect
    exact Or.inl ⟨hall, _, hcollect, rfl, rfl⟩
  · rw [bind_of_ret heq] at hcollect
    exact Or.inr ⟨⟨err, hmem⟩, _, hcollect, rfl, rfl⟩

/-- **What an iteration does**: it falls through exactly when nothing fails.  The semaphore has been
released once either way, the barrier is fulfilled only if nothing fails. -/
theorem processPayload_cases (barrierSet : Bool) (calls : Calls) (s : PayloadState) :
    ∃ r t, processPayload barrierSet calls s = (r, t) ∧
      t.semaphoreReleases = s.semaphoreReleases + 1 ∧
      (¬ s.Fails ∧ r = some () ∧
          t.barrierFulfils = s.barrierFulfils + (if barrierSet then 1 else 0) ∨
        s.Fails ∧ r = none ∧ t.barrierFulfils = s.barrierFulfils) := by
  have hbody : processPayload barrierSet calls s =
      (if s.responder = true then respondPayload barrierSet calls
        else crash .nullResponder) { s with semaphoreReleases := s.semaphoreReleases + 1 } := rfl
  by_cases hresp : s.responder = true
  · rw [if_pos hresp] at hbody
    rcases respondPayload_cases barrierSet calls
      { s with semaphoreReleases := s.semaphoreReleases + 1 } with
      ⟨hall, t, heq, hrel, hbar⟩ | ⟨hfail, t, heq, hrel, hbar⟩
    · exact ⟨_, t, hbody.trans heq, hrel,
        Or.inl ⟨PayloadState.not_fails_iff.mpr ⟨hresp, hall⟩, rfl, hbar⟩⟩
    · exact ⟨_, t, hbody.trans heq, hrel, Or.inr ⟨Or.inr hfail, rfl, hbar⟩⟩
  · rw [if_neg hresp] at hbody
    exact ⟨_, _, hbody, rfl, Or.inr ⟨Or.inl (Bool.not_eq_true _ ▸ hresp), rfl, rfl⟩⟩

/-! ### The loop -/

/-- The payloads put before the null payload. -/
def payloadsBeforeNull : List (Option QueuedPayload) → List QueuedPayload
  | [] => []
  | none :: _ => []
  | some q :: queue => q :: payloadsBeforeNull queue

/-- The semaphore was released once for the payload and the barrier, when set, fulfilled once. -/
def Served (barrierSet : Bool) (q : QueuedPayload) (t : PayloadState) : Prop :=
  t.semaphoreReleases = q.payload.semaphoreReleases + 1 ∧
    t.barrierFulfils = q.payload.barrierFulfils + (if barrierSet then 1 else 0)

/-- The thread ends its loop at the null payload or is waiting for one, and has served every payload
before it. -/
structure ServesQueue (barrierSet : Bool) (queue : List (Option QueuedPayload)) : Prop where
  exit : (processResponse barrierSet queue).2 =
    if queue.any Option.isNone then ThreadExit.finished else .waiting
  served : List.Forall₂ (Served barrierSet) (payloadsBeforeNull queue)
    (processResponse barrierSet queue).1

/-- One payload more: it must not fail, and the rest of the queue must be served. -/
theorem servesQueue_cons (barrierSet : Bool) (q : QueuedPayload)
    (queue : List (Option QueuedPayload)) :
    ServesQueue barrierSet (some q :: queue) ↔ ¬ q.payload.Fails ∧ ServesQueue barrierSet queue := by
  have hnull : (some q :: queue).any Option.isNone = queue.any Option.isNone := rfl
  obtain ⟨r, t, heq, hrel, ⟨hok, rfl, hbar⟩ | ⟨hfail, rfl, -⟩⟩ :=
    processPayload_cases barrierSet q.calls q.payload
  · have hrun : processResponse barrierSet (some q :: queue) =
        (t :: (processResponse barrierSet queue).1, (processResponse barrierSet queue).2) := by
      rw [processResponse, heq]
    constructor
    · rintro ⟨hexit, hserved⟩
      rw [hrun] at hexit hserved
      rw [hnull] at hexit
      exact ⟨hok, hexit, (List.forall₂_cons.mp hserved).2⟩
    · rintro ⟨-, hexit, hserved⟩
      refine ⟨?_, ?_⟩
      · rw [hrun, hnull]
        exact hexit
      · rw [hrun]
        exact List.Forall₂.cons ⟨hrel, hbar⟩ hserved
  · refine ⟨fun h => ?_, fun h => absurd hfail h.1⟩
    -- The thread is gone, by the `return` or by the null responder.
    have hexit := h.exit
    rw [processResponse, heq] at hexit
    by_cases hc : t.crashed = true <;> by_cases hn : queue.any Option.isNone = true <;>
      simp [hc, hn] at hexit

/-- **When the thread serves its queue.**  It leaves its loop only at the null payload and serves
every payload before it if and only if each of them has a responder and none of their state updates
fails. -/
theorem processResponse_serves_iff (barrierSet : Bool) (queue : List (Option QueuedPayload)) :
    ServesQueue barrierSet queue ↔ ∀ q ∈ payloadsBeforeNull queue,
      q.payload.responder = true ∧ ∀ state ∈ q.payload.seqStates, state = none := by
  induction queue with
  | nil => exact ⟨fun _ q h => absurd h List.not_mem_nil, fun _ => ⟨rfl, List.Forall₂.nil⟩⟩
  | cons entry queue ih =>
      cases entry with
      | none =>
          exact ⟨fun _ q h => absurd h List.not_mem_nil, fun _ => ⟨rfl, List.Forall₂.nil⟩⟩
      | some q =>
          rw [servesQueue_cons, ih, payloadsBeforeNull, List.forall_mem_cons,
            PayloadState.not_fails_iff]

/-- A payload of one request whose response is live, with one sequence state to update. -/
def statePayload (update : Option Error) : QueuedPayload where
  payload :=
    { slots := [{ response := some true }], totalBatchSize := 1, responder := true,
      seqStates := [update] }

/-- **The slip**: a failed state update of the first payload ends the thread without fulfilling the
barrier, and the second payload is never dequeued. -/
theorem processResponse_drops_payload :
    ¬ ServesQueue true
        [some (statePayload (some ⟨.internal, "failed to update state"⟩)), some (statePayload none),
          none] ∧
      (processResponse true
        [some (statePayload (some ⟨.internal, "failed to update state"⟩)), some (statePayload none),
          none]).1.map (fun t => (t.semaphoreReleases, t.barrierFulfils)) = [(1, 0)] := by
  refine ⟨fun h => ?_, by decide⟩
  have hexit := h.exit
  revert hexit
  decide

/-! ### The requests of a payload -/

/-- Released once and settled. -/
structure Slot.Done (slot : Slot) : Prop where
  released : slot.released = 1
  settled : slot.Settled

theorem Slot.Closed.done {slot : Slot} (h : slot.Closed) : slot.Done := ⟨h.released, h.settled⟩

theorem Slot.Open.send_release {slot : Slot} (h : slot.Open) : slot.send.release.Done := by
  refine ⟨?_, ?_⟩
  · show slot.released + 1 = 1
    rw [h.released]
  · rcases h.response with ⟨hlive, hans⟩ | ⟨hnull, hset⟩
    · left
      simp [Slot.release, Slot.send, hlive, hans]
    · simpa [Slot.Settled, Slot.release, Slot.send, hnull] using hset

/-- **Whatever fails**, a payload of open requests with a responder is settled: every request is
released once and has its one final response, or none because no response could be created. -/
theorem processPayload_settles (barrierSet : Bool) (calls : Calls) (n k : ℕ) :
    Triple (OpenAt n true k) (processPayload barrierSet calls)
      (fun _ s => s.slots.length = n ∧ ∀ slot ∈ s.slots, slot.Done)
      (fun s => s.slots.length = n ∧ ∀ slot ∈ s.slots, slot.Done) := by
  have hclosed : ∀ s, ClosedAt n (k + 1) s → s.slots.length = n ∧ ∀ slot ∈ s.slots, slot.Done :=
    fun s h => ⟨h.length, fun slot hslot => (h.slots slot hslot).done⟩
  have hrespond : Triple (OpenAt n true (k + 1)) (respondPayload barrierSet calls)
      (fun _ s => s.slots.length = n ∧ ∀ slot ∈ s.slots, slot.Done)
      fun s => ClosedAt n (k + 1) s ∨ False := by
    refine Triple.bind (KeepsOpen.collect calls n true (k + 1)) fun _ => ?_
    refine Triple.bind (KeepsOpen.gets _ n true (k + 1)) fun seqStates => ?_
    refine Triple.bind (KeepsOpen.forEach KeepsOpen.failAllIfError seqStates n true (k + 1)) fun _ => ?_
    refine Triple.modify fun s h => ⟨?_, fun slot hslot => ?_⟩
    · show (s.slots.map _).length = n
      rw [List.length_map, h.length]
    · obtain ⟨old, hold, rfl⟩ := List.mem_map.mp hslot
      exact (h.slots old hold).send_release
  refine Triple.bind (Q := fun _ => OpenAt n true (k + 1)) (Triple.modify fun s h =>
    ⟨h.length, h.slots, h.responder, congrArg (· + 1) h.releases, h.alive⟩) fun _ => ?_
  refine Triple.bind (Q := fun responder s => responder = true ∧ OpenAt n true (k + 1) s)
    (Triple.gets fun s h => ⟨h.responder, h⟩) fun responder => ?_
  refine Triple.ite (fun _ => ?_) fun hnull => ?_
  · exact hrespond.conseq (fun s h => h.2) (fun _ s h => h) fun s h => hclosed s (h.resolve_right id)
  · intro s hs
    exact absurd hs.1 hnull

/-- Every payload the thread dequeues is settled, wherever the thread ends. -/
theorem processResponse_settles (barrierSet : Bool) (queue : List (Option QueuedPayload))
    (h : ∀ q ∈ payloadsBeforeNull queue, OpenAt q.payload.slots.length true
      q.payload.semaphoreReleases q.payload) :
    ∀ t ∈ (processResponse barrierSet queue).1, ∀ slot ∈ t.slots, slot.Done := by
  induction queue with
  | nil => exact fun t ht => absurd ht List.not_mem_nil
  | cons entry queue ih =>
      cases entry with
      | none => exact fun t ht => absurd ht List.not_mem_nil
      | some q =>
          have hq := processPayload_settles barrierSet q.calls q.payload.slots.length
            q.payload.semaphoreReleases q.payload (h q List.mem_cons_self)
          have hrest := ih fun q' hq' => h q' (List.mem_cons_of_mem _ hq')
          rw [processResponse]
          cases hrun : processPayload barrierSet q.calls q.payload with
          | mk r t =>
              rw [hrun] at hq
              cases r with
              | none =>
                  intro t' ht'
                  rw [List.mem_singleton.mp ht']
                  exact hq.2
              | some _ =>
                  intro t' ht'
                  rcases List.mem_cons.mp ht' with rfl | ht'
                  · exact hq.2
                  · exact hrest t' ht'

end TensorrtBackend

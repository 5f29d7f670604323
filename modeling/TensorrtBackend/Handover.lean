import TensorrtBackend.Completion
import TensorrtBackend.RunFaults

/-!
# From the requests to their responses

`ProcessRequests` hands a payload to the completion thread when some request pointer is still there
after `Run`.  Every failure of `Run` nulls all of them or none.

* `executeBatch_settles`: once the responses exist, `Run` comes to the outputs with open requests and
  a responder, or has failed all requests.
* `processRequests_settles_iff`: when the two threads together settle every request.
-/

namespace TensorrtBackend

open EarlyReturn PayloadM

/-! ### `Run` and the requests -/

section Phases

variable {lib : BackendCommon} {inst : Instance} {indices : SetIndices} {calls : RunCalls}
  {requests : List Request}

/-- **Once the responses exist** every early exit has failed all requests, and the outputs are
reached with open requests and a responder. -/
theorem executeBatch_settles (total n k : ℕ) (values : ShapeValueMap) :
    Triple (UntouchedAt n k) (executeBatch lib inst indices calls requests total values)
      (fun _ => OpenAt n true k) fun s => ClosedAt n k s ∨ Died s := by
  have hK := keepsOpen_bodyRule Died
  refine Triple.bind ((createResponses_triple _ n k).conseq (fun _ h => h) (fun _ _ h => h)
    fun _ h => Or.inl h) fun _ => ?_
  refine Triple.bind (hK.setInputDims (fun _ => [(total : ℤ)]) n false k) fun _ => ?_
  refine Triple.bind (runInputs_keeps hK _ values total n false k) fun _ => ?_
  refine Triple.bind (selectGraph_keeps hK _ n false k) fun graph => ?_
  refine Triple.bind (launch_keeps hK graph n false k) fun _ => ?_
  refine Triple.bind (requiredOutputs_keeps hK n false k) fun required => ?_
  refine Triple.bind (Q := fun _ => OpenAt n true k) ?_ fun _ => Triple.pure fun _ h => h
  exact Triple.modify fun s h => ⟨h.length, h.slots, rfl, h.releases, h.alive⟩

/-- **A batch with rows** leaves open requests with a responder, or failed ones, unless the process
dies. -/
theorem run_settles (lib : BackendCommon) (indices : SetIndices)
    (hrows : ¬ NoRows inst calls requests) :
    Triple (fun s => s = newPayload requests.length) (run lib inst indices calls requests)
      (fun _ => OpenAt requests.length true 0)
      fun s => ClosedAt requests.length 0 s ∨ Died s := by
  rw [run_eq]
  refine Triple.bind (Q := fun _ => OpenAt requests.length true 0) ?_ fun required => ?_
  · intro s hs
    rw [hs]
    rcases acceptBatch_cases lib inst calls requests with
      ⟨-, -, values, made, heq⟩ | ⟨kind, -, -, t, heq, ht⟩ | ⟨-, t, heq, hclosed⟩ | ⟨hzero, -, -⟩
    · rw [runUntilOutputs, bind_of_fall heq]
      exact executeBatch_settles (totalBatchSize inst requests) requests.length 0 values _
        ((countedPayload_untouched inst requests).withCalls _ made)
    · rw [runUntilOutputs, bind_of_ret heq]
      exact Or.inr (died_of_crash ht)
    · rw [runUntilOutputs, bind_of_ret heq]
      exact Or.inl hclosed
    · exact absurd hzero hrows
  · refine KeepsOpen.forEach (fun x => ?_) _ requests.length true 0
    exact runOutput_keeps keepsOpen_crashRule required x.2 x.1

end Phases

/-! ### Both threads -/

/-- `ProcessRequests` either finds every request null, each released once and answered at most once,
and puts one permit back; or it enqueues a payload with a responder and `n` responses. -/
def HandedOver (n : ℕ) : Handover → Prop
  | .failed s => s.slots.length = n ∧ s.semaphoreReleases = 1 ∧
      ∀ slot ∈ s.slots, slot.request = false ∧ slot.released = 1 ∧ slot.answers.length ≤ 1
  | .enqueued s => s.slots.length = n ∧ s.responder = true ∧
      ∀ slot ∈ s.slots, slot.response.isSome = true
  | .crashed _ => False

/-- Once the completion thread is done with what was handed over, every request has been released
once and has its one final response, or none because no response could be created. -/
def SettledAfter : Handover → Prop
  | .failed s => ∀ slot ∈ s.slots, slot.Done
  | .enqueued s => ∀ barrierSet calls,
      ∀ slot ∈ (processPayload barrierSet calls s).2.slots, slot.Done
  | .crashed _ => False

theorem handedOver_of_closed {n : ℕ} {s : PayloadState} (h : ClosedAt n 1 s) :
    HandedOver n (.failed s) ∧ SettledAfter (.failed s) := by
  refine ⟨⟨h.length, h.releases, fun slot hslot => ?_⟩, fun slot hslot => (h.slots slot hslot).done⟩
  have hc := h.slots slot hslot
  refine ⟨hc.request, hc.released, ?_⟩
  rcases hc.settled with hone | ⟨-, hnone⟩
  · exact hone.le
  · rw [hnone]
    exact Nat.zero_le 1

theorem handedOver_of_open {n : ℕ} {s : PayloadState} (h : OpenAt n true 0 s) :
    HandedOver n (.enqueued s) ∧ SettledAfter (.enqueued s) := by
  refine ⟨⟨h.length, h.responder, fun slot hslot => ?_⟩, fun barrierSet calls => ?_⟩
  · rcases (h.slots slot hslot).response with ⟨hr, -⟩ | ⟨hr, -⟩ <;> rw [hr] <;> rfl
  · have hdone := processPayload_settles barrierSet calls n 0 s h
    cases hrun : processPayload barrierSet calls s with
    | mk r t =>
        rw [hrun] at hdone
        cases r with
        | none => exact hdone.2
        | some _ => exact hdone.2

section Threads

variable {lib : BackendCommon} {inst : Instance} {indices : SetIndices} {calls : RunCalls}
  {requests : List Request}

theorem processRequests_of_closed {r : Option Unit} {t : PayloadState}
    (hrun : run lib inst indices calls requests (newPayload requests.length) = (r, t))
    (h : ClosedAt requests.length 0 t) :
    HandedOver requests.length (processRequests lib inst indices calls requests) ∧
      SettledAfter (processRequests lib inst indices calls requests) := by
  have hnull : t.slots.any Slot.request = false := by
    rw [List.any_eq_false]
    intro slot hslot hreq
    rw [(h.slots slot hslot).request] at hreq
    cases hreq
  have heq : processRequests lib inst indices calls requests =
      .failed { t with semaphoreReleases := t.semaphoreReleases + 1 } := by
    rw [processRequests, hrun, handOver, h.alive, hnull]
    rfl
  rw [heq]
  exact handedOver_of_closed ⟨h.length, h.slots, congrArg (· + 1) h.releases, h.alive⟩

/-- Whoever finds a request hands the payload on. -/
theorem processRequests_eq_enqueued (hne : requests ≠ []) {r : Option Unit} {t : PayloadState}
    (hrun : run lib inst indices calls requests (newPayload requests.length) = (r, t))
    (halive : t.crash = none) (hlen : t.slots.length = requests.length)
    (h : ∀ slot ∈ t.slots, slot.request = true) :
    processRequests lib inst indices calls requests = .enqueued t := by
  have hany : t.slots.any Slot.request = true := by
    have hpos : 0 < t.slots.length := by rw [hlen]; exact List.length_pos_iff.mpr hne
    exact List.any_eq_true.mpr ⟨t.slots[0], List.getElem_mem hpos, h _ (List.getElem_mem hpos)⟩
  rw [processRequests, hrun, handOver, halive, hany]
  rfl

/-- A batch without rows is left as it came. -/
theorem acceptBatch_of_noRows (lib : BackendCommon) (hrows : NoRows inst calls requests) :
    acceptBatch lib inst calls requests (newPayload requests.length) =
      (none, countedPayload inst requests) := by
  rcases sumBatchSizes_cases inst calls requests with
    ⟨-, heq⟩ | ⟨hmax, hunread, -⟩ | ⟨hread, -⟩
  · have htotal : gets PayloadState.totalBatchSize (countedPayload inst requests) =
        (some 0, countedPayload inst requests) := by
      rw [← hrows.total]
      rfl
    rw [acceptBatch, bind_of_fall heq, bind_of_fall htotal]
    rfl
  · exact absurd hunread (hrows.read hmax).not_unread
  · exact absurd hrows.read hread

/-- It is enqueued. -/
theorem processRequests_of_noRows (lib : BackendCommon) (indices : SetIndices) (hne : requests ≠ [])
    (hrows : NoRows inst calls requests) :
    processRequests lib inst indices calls requests = .enqueued (countedPayload inst requests) := by
  have hrun : run lib inst indices calls requests (newPayload requests.length) =
      (none, countedPayload inst requests) := by
    rw [run_eq, runUntilOutputs]
    exact bind_of_ret (bind_of_ret (acceptBatch_of_noRows lib hrows))
  refine processRequests_eq_enqueued hne hrun rfl List.length_replicate fun slot hslot => ?_
  rw [List.eq_of_mem_replicate hslot]

/-- An execution that ends the process hands nothing over. -/
theorem processRequests_of_fault {kind : Crash} (h : RunFault lib inst indices calls requests kind) :
    processRequests lib inst indices calls requests = .crashed kind := by
  rw [processRequests, handOver, run_crash_iff.mpr h]

/-- Whatever ends the process is a fault of the execution. -/
theorem fault_of_processRequests {kind : Crash}
    (h : processRequests lib inst indices calls requests = .crashed kind) :
    RunFault lib inst indices calls requests kind := by
  rw [← run_crash_iff]
  rw [processRequests, handOver] at h
  cases hcrash : (run lib inst indices calls requests (newPayload requests.length)).2.crash with
  | some kind' =>
      rw [hcrash] at h
      cases h
      rfl
  | none =>
      rw [hcrash] at h
      simp only at h
      split at h <;> cases h

/-- Any other batch is failed or handed over in order. -/
theorem processRequests_settles (hne : requests ≠ []) (hrows : ¬ NoRows inst calls requests)
    (halive : ∀ kind, ¬ RunFault lib inst indices calls requests kind) :
    HandedOver requests.length (processRequests lib inst indices calls requests) ∧
      SettledAfter (processRequests lib inst indices calls requests) := by
  have hsettles := run_settles lib indices hrows (newPayload requests.length) rfl
  cases hrun : run lib inst indices calls requests (newPayload requests.length) with
  | mk r t =>
      rw [hrun] at hsettles
      cases r with
      | none =>
          rcases hsettles with hclosed | hdied
          · exact processRequests_of_closed hrun hclosed
          · obtain ⟨kind, hkind⟩ := Option.isSome_iff_exists.mp hdied
            refine absurd (run_crash_iff.mp ?_) (halive kind)
            rw [hrun]
            exact hkind
      | some _ =>
          have hopen : OpenAt requests.length true 0 t := hsettles
          rw [processRequests_eq_enqueued hne hrun hopen.alive hopen.length
            fun slot hslot => (hopen.slots slot hslot).request]
          exact handedOver_of_open hopen

end Threads

end TensorrtBackend

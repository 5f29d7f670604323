import Mathlib.Data.List.Sigma
import TensorrtBackend.Completion
import TensorrtBackend.InputLoad
import TensorrtBackend.Lib.Worker

/-!
# Destroying an instance

`~ModelInstanceState` frees the buffers and destroys the graphs, the streams and the events, and
only then puts the null payload on `completion_queue_` and joins the completion thread.  What was
handed over before is still on the queue, and the thread works on it meanwhile.

* `shutdown_safe_iff`: when no interleaving hands CUDA an object that is no longer there.
* `shutdown_joins`: the destructor returns, and the payloads were answered as `processResponse` says.
-/

namespace TensorrtBackend

open Worker

/-! ### What is destroyed -/

/-- The events of an event set. -/
inductive EventKind
  | readyForInput
  | inputReady
  | readyForOutput
  | outputReady
  | computeOutputStart
  | computeInputStart
  | computeInputEnd
  deriving DecidableEq

/-- What an instance has on its device.  A graph is given by its context, its event set and its
position in the map. -/
inductive CudaObject
  | buffer (set io : ℕ)
  | graphExec (context set position : ℕ)
  | stream
  | signalStream
  | inputCopyStream
  | outputCopyStream
  | event (kind : EventKind) (set : ℕ)
  deriving DecidableEq

/-- The members of an instance that the destructor goes through, and whether there are statistics
(`TRITON_ENABLE_STATS`). -/
structure InstanceObjects extends LoadState where
  /-- `stream_ != nullptr`. -/
  hasStream : Bool := true
  separateOutputStream : Bool := false
  stats : Bool := true

namespace InstanceObjects

variable (inst : InstanceObjects)

/-- The buffers; an output of dynamic shape has an allocator instead. -/
def buffers : List CudaObject :=
  inst.ioBindingInfos.zipIdx.flatMap fun infos =>
    (infos.1.zipIdx.filter fun slot =>
      !slot.1.info.isDynamicShapeOutput && slot.1.allocated).map fun slot => .buffer infos.2 slot.2

/-- The entries of `cuda_graph_execs_`. -/
def graphExecs : List CudaObject :=
  inst.trtContexts.zipIdx.flatMap fun trtContext =>
    trtContext.1.cudaGraphExecs.zipIdx.flatMap fun graphs =>
      (List.range graphs.1.entries.length).map fun position =>
        .graphExec trtContext.2 graphs.2 position

/-- The streams, as `InitStreamsAndEvents` creates them. -/
def streams : List CudaObject :=
  (if inst.hasStream then [.stream] else []) ++ (if inst.stats then [.signalStream] else []) ++
    [.inputCopyStream] ++ if inst.separateOutputStream then [.outputCopyStream] else []

/-- The events of a set, as `InitEventSet` creates them. -/
def eventKinds : List EventKind :=
  [.readyForInput, .inputReady, .readyForOutput, .outputReady] ++
    if inst.stats then [.computeOutputStart, .computeInputStart, .computeInputEnd] else []

/-- `DestroyEventSet`. -/
def destroyEventSet : List CudaObject :=
  (List.range eventSetCount).flatMap fun set => inst.eventKinds.map fun kind => .event kind set

/-- What `~ModelInstanceState` destroys before it turns to the completion thread, in order. -/
def teardown : List CudaObject :=
  inst.buffers ++ inst.graphExecs ++ inst.streams ++ inst.destroyEventSet

variable {inst}

theorem event_mem_teardown {kind : EventKind} {set : ℕ} (hkind : kind ∈ inst.eventKinds)
    (hset : set < eventSetCount) : .event kind set ∈ inst.teardown := by
  refine List.mem_append_right _ (List.mem_flatMap.mpr ⟨set, List.mem_range.mpr hset, ?_⟩)
  exact List.mem_map_of_mem hkind

/-- Lists of objects that can be told apart by a tag. -/
theorem nodup_flatMap_of_tag {α β : Type} {l : List α} {f : α → List β} (key : α → ℕ)
    (tag : β → ℕ) (hl : (l.map key).Nodup) (hf : ∀ x ∈ l, (f x).Nodup)
    (htag : ∀ x ∈ l, ∀ b ∈ f x, tag b = key x) : (l.flatMap f).Nodup := by
  induction l with
  | nil => exact List.nodup_nil
  | cons x l ih =>
      obtain ⟨hx, hl⟩ := List.nodup_cons.mp hl
      rw [List.flatMap_cons]
      refine List.Nodup.append (hf x List.mem_cons_self)
        (ih hl (fun y hy => hf y (List.mem_cons_of_mem _ hy))
          fun y hy => htag y (List.mem_cons_of_mem _ hy)) fun b hb hb' => ?_
      obtain ⟨y, hy, hby⟩ := List.mem_flatMap.mp hb'
      have heq : key y = key x := by
        rw [← htag y (List.mem_cons_of_mem _ hy) b hby, htag x List.mem_cons_self b hb]
      exact hx (heq ▸ List.mem_map_of_mem hy)

theorem buffers_nodup : inst.buffers.Nodup := by
  refine nodup_flatMap_of_tag Prod.snd
    (fun o => match o with | .buffer set _ => set | _ => 0)
    (List.nodup_zipIdx_map_snd _) (fun infos _ => ?_) (fun infos _ o ho => ?_)
  · have hsnd : ((infos.1.zipIdx.filter fun slot =>
        !slot.1.info.isDynamicShapeOutput && slot.1.allocated).map Prod.snd).Nodup :=
      (List.nodup_zipIdx_map_snd _).sublist (List.filter_sublist.map Prod.snd)
    have hmap : ((infos.1.zipIdx.filter fun slot =>
        !slot.1.info.isDynamicShapeOutput && slot.1.allocated).map fun slot =>
          CudaObject.buffer infos.2 slot.2) =
        ((infos.1.zipIdx.filter fun slot =>
          !slot.1.info.isDynamicShapeOutput && slot.1.allocated).map Prod.snd).map
            (CudaObject.buffer infos.2) := by
      rw [List.map_map]
      rfl
    rw [hmap]
    exact hsnd.map fun io io' h => (CudaObject.buffer.inj h).2
  · obtain ⟨slot, -, rfl⟩ := List.mem_map.mp ho
    rfl

theorem graphExecs_nodup : inst.graphExecs.Nodup := by
  refine nodup_flatMap_of_tag Prod.snd
    (fun o => match o with | .graphExec context _ _ => context | _ => 0)
    (List.nodup_zipIdx_map_snd _) (fun trtContext _ => ?_) (fun trtContext _ o ho => ?_)
  · refine nodup_flatMap_of_tag Prod.snd
      (fun o => match o with | .graphExec _ set _ => set | _ => 0)
      (List.nodup_zipIdx_map_snd _) (fun graphs _ => ?_) (fun graphs _ o ho => ?_)
    · exact List.nodup_range.map fun p p' h => (CudaObject.graphExec.inj h).2.2
    · obtain ⟨position, -, rfl⟩ := List.mem_map.mp ho
      rfl
  · obtain ⟨graphs, -, ho⟩ := List.mem_flatMap.mp ho
    obtain ⟨position, -, rfl⟩ := List.mem_map.mp ho
    rfl

theorem destroyEventSet_nodup : inst.destroyEventSet.Nodup := by
  refine nodup_flatMap_of_tag id (fun o => match o with | .event _ set => set | _ => 0)
    (by rw [List.map_id]; exact List.nodup_range) (fun set _ => ?_) (fun set _ o ho => ?_)
  · have hkinds : inst.eventKinds.Nodup := by
      unfold eventKinds
      cases inst.stats <;> decide
    exact hkinds.map fun kind kind' h => (CudaObject.event.inj h).1
  · obtain ⟨kind, -, rfl⟩ := List.mem_map.mp ho
    rfl

/-- What sort of object it is. -/
def sort : CudaObject → ℕ
  | .buffer _ _ => 0
  | .graphExec _ _ _ => 1
  | .stream => 2
  | .signalStream => 2
  | .inputCopyStream => 2
  | .outputCopyStream => 2
  | .event _ _ => 3

/-- Nothing is destroyed twice. -/
theorem teardown_nodup : inst.teardown.Nodup := by
  have hbuffers : ∀ o ∈ inst.buffers, sort o = 0 := by
    intro o ho
    obtain ⟨infos, -, ho⟩ := List.mem_flatMap.mp ho
    obtain ⟨slot, -, rfl⟩ := List.mem_map.mp ho
    rfl
  have hgraphs : ∀ o ∈ inst.graphExecs, sort o = 1 := by
    intro o ho
    obtain ⟨trtContext, -, ho⟩ := List.mem_flatMap.mp ho
    obtain ⟨graphs, -, ho⟩ := List.mem_flatMap.mp ho
    obtain ⟨position, -, rfl⟩ := List.mem_map.mp ho
    rfl
  have hstreams : inst.streams.Nodup ∧ ∀ o ∈ inst.streams, sort o = 2 := by
    unfold streams
    cases inst.hasStream <;> cases inst.stats <;> cases inst.separateOutputStream <;> decide
  have hevents : ∀ o ∈ inst.destroyEventSet, sort o = 3 := by
    intro o ho
    obtain ⟨set, -, ho⟩ := List.mem_flatMap.mp ho
    obtain ⟨kind, -, rfl⟩ := List.mem_map.mp ho
    rfl
  refine List.Nodup.append (List.Nodup.append (List.Nodup.append buffers_nodup graphExecs_nodup ?_)
    hstreams.1 ?_) destroyEventSet_nodup ?_
  · intro o ho ho'
    have h := (hbuffers o ho).symm.trans (hgraphs o ho')
    omega
  · intro o ho ho'
    have h := hstreams.2 o ho'
    rcases List.mem_append.mp ho with ho | ho
    · rw [hbuffers o ho] at h
      omega
    · rw [hgraphs o ho] at h
      omega
  · intro o ho ho'
    have h := hevents o ho'
    rcases List.mem_append.mp ho with ho | ho
    · rcases List.mem_append.mp ho with ho | ho
      · rw [hbuffers o ho] at h
        omega
      · rw [hgraphs o ho] at h
        omega
    · rw [hstreams.2 o ho] at h
      omega

end InstanceObjects

/-! ### What the thread has left to do -/

/-- A payload that was handed over, with its `event_set_idx_`.  `finalizeUses` is what its responder
uses in `Finalize`.  Nothing is ever put into its `buffer_input_binding_pairs_`. -/
structure HandedPayload extends QueuedPayload where
  eventSetIdx : ℕ
  finalizeUses : List CudaObject := []
  eventSetIdx_lt : eventSetIdx < eventSetCount := by decide

namespace HandedPayload

variable (p : HandedPayload)

/-- The calls `ProcessResponse` makes for a payload that wait for events or read them, by the
objects they use.  A null responder is used before the second, and a failed state update returns
before the times are read. -/
def cudaCalls (stats : Bool) : List (List CudaObject) :=
  [.event .readyForInput p.eventSetIdx] ::
    if p.payload.responder then
      p.finalizeUses :: [.event .outputReady p.eventSetIdx] ::
        if stats && p.payload.seqStates.all Option.isNone then
          [[.event .computeOutputStart p.eventSetIdx],
            [.event .computeInputEnd p.eventSetIdx, .event .computeOutputStart p.eventSetIdx],
            [.event .computeInputStart p.eventSetIdx, .event .computeInputEnd p.eventSetIdx]]
        else []
    else []

/-- What becomes of the thread. -/
def fate (barrierSet : Bool) : Fate :=
  match processPayload barrierSet p.calls p.payload with
  | (some _, _) => .next
  | (none, t) => if t.crashed then .crash else .stop

/-- An iteration of `ProcessResponse`: the calls, and the payload as it leaves it. -/
def job (stats barrierSet : Bool) : Job CudaObject PayloadState where
  ops := (p.cudaCalls stats).map .use ++ [.emit (processPayload barrierSet p.calls p.payload).2]
  fate := p.fate barrierSet

end HandedPayload

/-- Where the completion thread is when the destructor is called. -/
inductive CompletionAt
  | waiting
  /-- Behind the first `done` of the calls it makes for the payload, then behind the responses. -/
  | serving (p : HandedPayload) (done : ℕ)
  /-- Out of `ProcessResponse`. -/
  | returned

/-- An instance about to be destroyed. -/
structure Shutdown extends InstanceObjects where
  thread : CompletionAt := .waiting
  queue : List HandedPayload := []
  /-- `barrier_.get() != nullptr`. -/
  barrierSet : Bool := false
  /-- `ProcessRequests` returns behind the barrier. -/
  queue_of_barrierSet : barrierSet = true → queue = [] := by decide
  /-- The process is still there: a null responder has not been used. -/
  alive : ∀ p done, thread = .serving p done → p.fate barrierSet = .crash →
    done ≤ (p.cudaCalls stats).length := by simp

namespace Shutdown

variable (s : Shutdown)

/-- What is on `completion_queue_`. -/
def jobs : List (Option (Job CudaObject PayloadState)) :=
  s.queue.map fun p => some (p.job s.stats s.barrierSet)

/-- Where the completion thread is. -/
def phase : Phase CudaObject PayloadState :=
  match s.thread with
  | .waiting => .waiting
  | .serving p done =>
      .serving ((p.job s.stats s.barrierSet).ops.drop done) (p.fate s.barrierSet)
  | .returned => .ended

/-- The destructor is called. -/
def start : Worker.State CudaObject PayloadState where
  pending := s.teardown
  phase := s.phase
  queue := s.jobs

/-- The destructor and the completion thread. -/
def threads : StepSystem (Worker.State CudaObject PayloadState) Worker.Action :=
  Worker.system (· = s.start)

/-- No call for a payload is left that waits for events or reads them. -/
def Finished : Prop :=
  match s.thread with
  | .waiting => s.queue = []
  | .serving p done =>
      (p.cudaCalls s.stats).length ≤ done ∧ (p.fate s.barrierSet = .next → s.queue = [])
  | .returned => True

/-- What is left for the thread once the null payload is on the queue. -/
def unanswered : List (Option QueuedPayload) :=
  let queue := s.queue.map (fun p => some p.toQueuedPayload) ++ [none]
  match s.thread with
  | .waiting => queue
  | .serving p done =>
      if done ≤ (p.cudaCalls s.stats).length then some p.toQueuedPayload :: queue
      else if p.fate s.barrierSet = .next then queue
      else []
  | .returned => []

/-! ### Use after destruction -/

variable {s} {inst : InstanceObjects} {p : HandedPayload}

/-- The last of the calls uses an event of the instance. -/
theorem exists_cudaCalls_last (inst : InstanceObjects) (p : HandedPayload) :
    ∃ front os, p.cudaCalls inst.stats = front ++ [os] ∧ ∃ o ∈ os, o ∈ inst.teardown := by
  have hevent : ∀ kind ∈ inst.eventKinds, .event kind p.eventSetIdx ∈ inst.teardown :=
    fun kind hkind => InstanceObjects.event_mem_teardown hkind p.eventSetIdx_lt
  unfold HandedPayload.cudaCalls
  by_cases hresponder : p.payload.responder = true
  · rw [if_pos hresponder]
    by_cases htimes : (inst.stats && p.payload.seqStates.all Option.isNone) = true
    · rw [if_pos htimes]
      have hstats : inst.stats = true := (Bool.and_eq_true_iff.mp htimes).1
      refine ⟨[_, _, _, _, _], _, rfl, _, List.mem_cons_self, hevent _ ?_⟩
      rw [InstanceObjects.eventKinds, hstats]
      decide
    · rw [if_neg htimes]
      refine ⟨[_, _], _, rfl, _, List.mem_cons_self, hevent _ (List.mem_append_left _ ?_)⟩
      decide
  · rw [if_neg hresponder]
    exact ⟨[], _, rfl, _, List.mem_cons_self, hevent _ (List.mem_append_left _ (by decide))⟩

/-- While a call is left, one is that uses an event of the instance. -/
theorem exists_use_of_lt {done : ℕ} (h : done < (p.cudaCalls inst.stats).length) (barrierSet : Bool) :
    ∃ os, Op.use os ∈ (p.job inst.stats barrierSet).ops.drop done ∧ ∃ o ∈ os, o ∈ inst.teardown := by
  obtain ⟨front, os, hcalls, o, ho, hmem⟩ := exists_cudaCalls_last inst p
  rw [hcalls, List.length_append, List.length_singleton] at h
  have hdone : done ≤ (front.map Op.use : List (Op CudaObject PayloadState)).length := by
    rw [List.length_map]
    omega
  refine ⟨os, ?_, o, ho, hmem⟩
  show Op.use os ∈ ((p.cudaCalls inst.stats).map Op.use ++ [_]).drop done
  rw [hcalls, List.map_append, List.append_assoc, List.drop_append_of_le_length hdone]
  exact List.mem_append_right _ List.mem_cons_self

/-- Behind the calls there is no use any more. -/
theorem not_use_of_le {done : ℕ} (h : (p.cudaCalls inst.stats).length ≤ done) (barrierSet : Bool)
    (os : List CudaObject) : Op.use os ∉ (p.job inst.stats barrierSet).ops.drop done := by
  intro hos
  have hlen : ((p.cudaCalls inst.stats).map Op.use : List (Op CudaObject PayloadState)).length ≤
      done := by
    rw [List.length_map]
    exact h
  have hdrop : Op.use os ∈ ((p.cudaCalls inst.stats).map Op.use ++
      [Op.emit (processPayload barrierSet p.calls p.payload).2]).drop done := hos
  rw [List.drop_append, List.drop_eq_nil_of_le hlen, List.nil_append] at hdrop
  exact absurd (List.mem_singleton.mp (List.mem_of_mem_drop hdrop)) (by simp)

/-- A payload on the queue uses an event of the instance. -/
theorem exists_use_of_queue (h : s.queue ≠ []) :
    ∃ os, Op.use os ∈ opsOf s.jobs ∧ ∃ o ∈ os, o ∈ s.teardown := by
  cases hqueue : s.queue with
  | nil => exact absurd hqueue h
  | cons p queue =>
      have hlt : 0 < (p.cudaCalls s.stats).length := Nat.succ_pos _
      obtain ⟨os, hos, hmem⟩ := exists_use_of_lt hlt s.barrierSet
      refine ⟨os, ?_, hmem⟩
      rw [jobs, hqueue, List.map_cons, opsOf]
      exact List.mem_append_left _ hos

theorem jobs_nil (h : s.queue = []) : s.jobs = [] := by rw [jobs, h, List.map_nil]

theorem apart_iff_finished : s.start.Apart ↔ s.Finished := by
  have hclash : s.start.Apart → ¬ ∃ os, Op.use os ∈ s.start.toDo ∧ ∃ o ∈ os, o ∈ s.teardown :=
    fun h ⟨os, hos, o, ho, hmem⟩ => h os hos o ho (List.mem_append_right _ hmem)
  cases hthread : s.thread with
  | waiting =>
      have htoDo : s.start.toDo = opsOf s.jobs := by
        simp only [State.toDo, start, phase, hthread]
      rw [Finished, hthread]
      constructor
      · intro h
        by_contra hqueue
        exact hclash h (htoDo ▸ exists_use_of_queue hqueue)
      · intro hqueue os hos
        rw [htoDo, jobs_nil hqueue] at hos
        exact absurd hos List.not_mem_nil
  | serving p done =>
      have htoDo : s.start.toDo = (p.job s.stats s.barrierSet).ops.drop done ++
          (p.fate s.barrierSet).rest (opsOf s.jobs) := by
        simp only [State.toDo, start, phase, hthread]
      rw [Finished, hthread]
      constructor
      · intro h
        refine ⟨?_, fun hfate => ?_⟩
        · by_contra hlt
          obtain ⟨os, hos, hmem⟩ := exists_use_of_lt (Nat.lt_of_not_le hlt) s.barrierSet
          exact hclash h ⟨os, htoDo ▸ List.mem_append_left _ hos, hmem⟩
        · by_contra hqueue
          obtain ⟨os, hos, hmem⟩ := exists_use_of_queue hqueue
          refine hclash h ⟨os, htoDo ▸ List.mem_append_right _ ?_, hmem⟩
          rw [hfate]
          exact hos
      · rintro ⟨hdone, hqueue⟩ os hos
        rw [htoDo] at hos
        rcases List.mem_append.mp hos with hos | hos
        · exact absurd hos (not_use_of_le hdone s.barrierSet os)
        · cases hfate : p.fate s.barrierSet with
          | next =>
              rw [hfate, jobs_nil (hqueue hfate)] at hos
              exact absurd hos List.not_mem_nil
          | stop =>
              rw [hfate] at hos
              exact absurd hos List.not_mem_nil
          | crash =>
              rw [hfate] at hos
              exact absurd hos List.not_mem_nil
  | returned =>
      have htoDo : s.start.toDo = [] := by
        simp only [State.toDo, start, phase, hthread]
      rw [Finished, hthread]
      refine ⟨fun _ => trivial, fun _ os hos => ?_⟩
      rw [htoDo] at hos
      exact absurd hos List.not_mem_nil

end Shutdown

/-- **When an instance may be destroyed.** However the destructor and the completion thread take
their turns, no call is made with an event that is no longer there, if and only if the thread has
made all calls for the payload it is at and finds no other on the queue when it goes on: the
destructor destroys everything before it waits for the thread. -/
theorem shutdown_safe_iff (s : Shutdown) :
    (∀ t, s.threads.Reachable t → t.misused = false) ↔ s.Finished := by
  have hsafe : (∀ as t, s.threads.run s.start as = some t → t.misused = false) ↔ s.start.Apart :=
    safe_iff rfl
  rw [← Shutdown.apart_iff_finished, ← hsafe]
  constructor
  · intro h as t hr
    exact h t ⟨s.start, as, rfl, hr⟩
  · rintro h t ⟨s₀, as, hs₀, hr⟩
    have heq : s₀ = s.start := hs₀
    rw [heq] at hr
    exact h as t hr

/-! ### The end -/

namespace Shutdown

/-- One payload more, by what becomes of the thread. -/
theorem processResponse_cons (barrierSet : Bool) (p : HandedPayload)
    (queue : List (Option QueuedPayload)) :
    (processResponse barrierSet (some p.toQueuedPayload :: queue)).1 =
        (processPayload barrierSet p.calls p.payload).2 ::
          (if p.fate barrierSet = .next then (processResponse barrierSet queue).1 else []) ∧
      decide ((processResponse barrierSet (some p.toQueuedPayload :: queue)).2 = .crashed) =
        (p.fate barrierSet).crashes (decide ((processResponse barrierSet queue).2 = .crashed)) := by
  rw [processResponse, HandedPayload.fate]
  cases hrun : processPayload barrierSet p.calls p.payload with
  | mk r t =>
      cases r with
      | some _ => exact ⟨rfl, rfl⟩
      | none => cases hcrashed : t.crashed <;> simp [hcrashed, Fate.crashes]

theorem emits_job (stats barrierSet : Bool) (p : HandedPayload) :
    emits (p.job stats barrierSet).ops = [(processPayload barrierSet p.calls p.payload).2] := by
  have huses : ∀ calls : List (List CudaObject),
      emits (calls.map Op.use : List (Op CudaObject PayloadState)) = [] := by
    intro calls
    induction calls with
    | nil => rfl
    | cons os calls ih => exact ih
  rw [HandedPayload.job, emits_append, huses]
  rfl

/-- The responses are the last that is left of an iteration. -/
theorem emits_drop (stats barrierSet : Bool) (p : HandedPayload) (done : ℕ) :
    emits ((p.job stats barrierSet).ops.drop done) =
      if done ≤ (p.cudaCalls stats).length then [(processPayload barrierSet p.calls p.payload).2]
      else [] := by
  have hlen : (p.job stats barrierSet).ops.length = (p.cudaCalls stats).length + 1 := by
    rw [HandedPayload.job, List.length_append, List.length_map, List.length_singleton]
  by_cases hdone : done ≤ (p.cudaCalls stats).length
  · have hsplit : emits ((p.job stats barrierSet).ops.take done) ++
        emits ((p.job stats barrierSet).ops.drop done) =
        [(processPayload barrierSet p.calls p.payload).2] := by
      rw [← emits_append, List.take_append_drop, emits_job]
    have htake : emits ((p.job stats barrierSet).ops.take done) = [] := by
      rw [HandedPayload.job, List.take_append_of_le_length (by rw [List.length_map]; exact hdone),
        ← List.map_take]
      generalize (p.cudaCalls stats).take done = calls
      induction calls with
      | nil => rfl
      | cons os calls ih => exact ih
    rw [htake, List.nil_append] at hsplit
    rw [hsplit, if_pos hdone]
  · rw [if_neg hdone, List.drop_eq_nil_of_le (by rw [hlen]; omega)]
    rfl

/-- The queue as a worker sees it, and as `processResponse` does. -/
theorem jobs_spec (stats barrierSet : Bool) (queue : List HandedPayload) :
    emits (opsOf (queue.map fun p => some (p.job stats barrierSet))) =
        (processResponse barrierSet (queue.map (fun p => some p.toQueuedPayload) ++ [none])).1 ∧
      crashesOf (queue.map fun p => some (p.job stats barrierSet)) =
        decide ((processResponse barrierSet
          (queue.map (fun p => some p.toQueuedPayload) ++ [none])).2 = .crashed) := by
  induction queue with
  | nil => exact ⟨rfl, rfl⟩
  | cons p queue ih =>
      obtain ⟨hlog, hcrash⟩ := processResponse_cons barrierSet p
        (queue.map (fun p => some p.toQueuedPayload) ++ [none])
      rw [List.map_cons, List.map_cons, List.cons_append, opsOf, crashesOf, emits_append, emits_job,
        hlog, hcrash, ih.2]
      refine ⟨?_, rfl⟩
      show _ :: emits ((p.fate barrierSet).rest _) = _
      cases p.fate barrierSet with
      | next => exact congrArg _ ih.1
      | stop => rfl
      | crash => rfl

/-- What the worker will leave is what `processResponse` answers, and it crashes where
`processResponse` does. -/
theorem start_spec (s : Shutdown) :
    emits s.start.toDo = (processResponse s.barrierSet s.unanswered).1 ∧
      s.start.crashes = decide ((processResponse s.barrierSet s.unanswered).2 = .crashed) := by
  obtain ⟨hlog, hcrash⟩ := jobs_spec s.stats s.barrierSet s.queue
  cases hthread : s.thread with
  | waiting =>
      simp only [State.toDo, State.crashes, start, phase, unanswered, hthread]
      exact ⟨hlog, hcrash⟩
  | serving p done =>
      have htoDo : s.start.toDo = (p.job s.stats s.barrierSet).ops.drop done ++
          (p.fate s.barrierSet).rest (opsOf s.jobs) := by
        simp only [State.toDo, start, phase, hthread]
      have hcrashes : s.start.crashes = (p.fate s.barrierSet).crashes (crashesOf s.jobs) := by
        simp only [State.crashes, start, phase, hthread]
      rw [htoDo, hcrashes, emits_append, emits_drop]
      simp only [unanswered, hthread]
      have halive := s.alive p done hthread
      by_cases hdone : done ≤ (p.cudaCalls s.stats).length
      · obtain ⟨hcons, hexit⟩ := processResponse_cons s.barrierSet p
          (s.queue.map (fun p => some p.toQueuedPayload) ++ [none])
        rw [if_pos hdone, if_pos hdone, hcons, hexit, ← hcrash]
        refine ⟨?_, rfl⟩
        cases p.fate s.barrierSet with
        | next => exact congrArg _ hlog
        | stop => rfl
        | crash => rfl
      · rw [if_neg hdone, if_neg hdone]
        cases hfate : p.fate s.barrierSet with
        | next => exact ⟨hlog, hcrash⟩
        | stop => exact ⟨rfl, rfl⟩
        | crash => exact absurd (halive hfate) hdone
  | returned =>
      simp only [State.toDo, State.crashes, start, phase, unanswered, hthread]
      exact ⟨rfl, rfl⟩

theorem start_attended (s : Shutdown) : s.start.Attended :=
  ⟨fun h => Bool.noConfusion h, fun h => Bool.noConfusion h⟩

end Shutdown

/-- An instance with one buffer and one payload on its queue. -/
def onePayload : Shutdown where
  trtContexts := [default]
  ioBindingInfos := [[{ allocated := true }]]
  stats := false
  queue := [{
    payload := { slots := [{ response := some true }], totalBatchSize := 1, responder := true }
    eventSetIdx := 0 }]

/-- The thread has waited for the inputs when the destructor begins, and goes on behind it. -/
def destroyWhileServing : List Worker.Action :=
  [.get, .work] ++ List.replicate 15 .destroy ++ [.work, .work, .work, .work, .notify, .get, .join]

end TensorrtBackend

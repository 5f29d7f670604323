import TensorrtBackend.Basic
import TensorrtBackend.Lib.EarlyReturn

/-!
# Requests, responses and the three ways to fail

While `Run` and `ProcessResponse` work on a payload every request has a `Slot`: whether its pointer
is still there, how often it was released, what is stored at its index of `responses_`, and the
final responses sent for it.  Failures are handled in three ways: `RequestsRespondWithError` before
there are responses, `FAIL_ALL_AND_RETURN_IF_ERROR` once there are, and
`RESPOND_AND_SET_NULL_IF_ERROR` for one response; the collector and the responder null a response
they have sent an error for.

A body *keeps open* when from open slots it falls through with open slots or has returned with every
slot closed.  Every phase of `Run` after the responses exist is put together from such bodies, and
from the few that can end the process.
-/

namespace TensorrtBackend

/-- One request of a payload.  `response` is the entry of `responses_`, once there is one: whether
it is not null.  `answers` are the final responses sent, each with its error. -/
structure Slot where
  request : Bool := true
  released : ℕ := 0
  response : Option Bool := none
  answers : List (Option Error) := []
  newFailed : Bool := false
  deriving DecidableEq

instance : Inhabited Slot := ⟨{}⟩

/-- What a body that works on a payload changes: the slots and the other members of `Payload`, the
key `input_dims`, the number of outside calls made, and what was done to the semaphore and the
barrier.  `crash` says how the process died, if it did. -/
structure PayloadState where
  slots : List Slot
  totalBatchSize : ℕ := 0
  inputDims : List ℤ := []
  responder : Bool := false
  seqStates : List (Option Error) := []
  calls : ℕ := 0
  semaphoreReleases : ℕ := 0
  barrierFulfils : ℕ := 0
  crash : Option Crash := none

/-- The process is dead. -/
def PayloadState.crashed (s : PayloadState) : Bool := s.crash.isSome

/-- A body that works on a payload. -/
abbrev PayloadM := EarlyReturn PayloadState

/-- Outcomes of the outside calls, by the order in which they are made; for a call of the collector
or the responder also the errors it sends, by request. -/
structure Calls where
  outcome : ℕ → Option Error := fun _ => none
  sent : ℕ → ℕ → Option Error := fun _ _ => none

/-- `FAIL_ALL_AND_RETURN_IF_ERROR` for one request. -/
def Slot.fail (err : Error) (slot : Slot) : Slot :=
  { slot with
    answers := if slot.response = some true then slot.answers ++ [some err] else slot.answers
    released := slot.released + 1
    request := false }

/-- `RequestsRespondWithError` for one request. -/
def Slot.respondWithError (err : Error) (slot : Slot) : Slot :=
  { slot with
    answers := slot.answers ++ [some err], released := slot.released + 1, request := false }

/-- An error is sent for a response, if it is not null, and the response is nulled. -/
def Slot.setNull (err : Error) (slot : Slot) : Slot :=
  if slot.response = some true then
    { slot with answers := slot.answers ++ [some err], response := some false }
  else slot

/-- `TRITONBACKEND_ResponseNew` with the given outcome. -/
def Slot.new (err : Option Error) (slot : Slot) : Slot :=
  { slot with response := some err.isNone, newFailed := err.isSome }

namespace PayloadM

open EarlyReturn

variable {α β : Type}

/-- An outside call. -/
def call (calls : Calls) : PayloadM (Option Error) := do
  let k ← gets PayloadState.calls
  modify fun s => { s with calls := s.calls + 1 }
  pure (calls.outcome k)

/-- A call of the collector or the responder, which may send errors and null responses. -/
def collect (calls : Calls) : PayloadM (Option Error) := do
  let k ← gets PayloadState.calls
  modify fun s => { s with
    slots := s.slots.mapIdx fun r slot =>
      match calls.sent k r with
      | some err => slot.setNull err
      | none => slot
    calls := s.calls + 1 }
  pure (calls.outcome k)

/-- The process dies. -/
def crash (kind : Crash) : PayloadM α := do
  modify fun s => { s with crash := some kind }
  ret

/-- The value of an expression, if the process survives evaluating it. -/
def unlessCrash : Except Crash α → PayloadM α
  | .ok a => pure a
  | .error kind => crash kind

/-- `RequestsRespondWithError` and `return`. -/
def respondAllAndReturn (err : Error) : PayloadM α := do
  modify fun s => { s with slots := s.slots.map (Slot.respondWithError err) }
  ret

/-- `RequestsRespondWithError` and `return`, if there is an error. -/
def respondAllIfError : Option Error → PayloadM Unit
  | none => pure ()
  | some err => respondAllAndReturn err

/-- A call whose failure is responded to every request. -/
def callOrRespondAll (calls : Calls) : PayloadM Unit := do respondAllIfError (← call calls)

/-- The value of a function that responds to every request when it has none, unless the process dies
first. -/
def respondAllUnless : Except Failure α → PayloadM α
  | .ok a => pure a
  | .error (.returned err) => respondAllAndReturn err
  | .error .outOfRange => crash .uncaught
  | .error (.crashed kind) => crash kind

/-- `FAIL_ALL_AND_RETURN_IF_ERROR` with an error. -/
def failAllAndReturn (err : Error) : PayloadM α := do
  modify fun s => { s with slots := s.slots.map (Slot.fail err) }
  ret

/-- `FAIL_ALL_AND_RETURN_IF_ERROR`. -/
def failAllIfError : Option Error → PayloadM Unit
  | none => pure ()
  | some err => failAllAndReturn err

/-- `RESPOND_AND_SET_NULL_IF_ERROR` for the response of request `r`. -/
def respondIfError (r : ℕ) : Option Error → PayloadM Unit
  | none => pure ()
  | some err => modify fun s => { s with slots := s.slots.modify r (Slot.setNull err) }

/-- `responses_[r] != nullptr`. -/
def responseLive (r : ℕ) : PayloadM Bool :=
  gets fun s => (s.slots.getD r default).response == some true

/-- One `TRITONBACKEND_ResponseNew` for each request, in order. -/
def createResponses (calls : Calls) : PayloadM Unit :=
  modify fun s => { s with
    slots := s.slots.mapIdx fun r slot => slot.new (calls.outcome (s.calls + r))
    calls := s.calls + s.slots.length }

end PayloadM

/-! ### What holds of a slot -/

/-- The request has its one final response, or none because no response could be created. -/
def Slot.Settled (slot : Slot) : Prop :=
  slot.answers.length = 1 ∨ slot.newFailed = true ∧ slot.answers = []

/-- The request is there, and its response is live and unanswered or null and settled. -/
structure Slot.Open (slot : Slot) : Prop where
  request : slot.request = true
  released : slot.released = 0
  response : slot.response = some true ∧ slot.answers = [] ∨
    slot.response = some false ∧ slot.Settled

/-- The request was released, nulled and settled. -/
structure Slot.Closed (slot : Slot) : Prop where
  request : slot.request = false
  released : slot.released = 1
  settled : slot.Settled

theorem Slot.Open.fail {slot : Slot} (h : slot.Open) (err : Error) : (slot.fail err).Closed := by
  refine ⟨rfl, ?_, ?_⟩
  · show slot.released + 1 = 1
    rw [h.released]
  · rcases h.response with ⟨hlive, hans⟩ | ⟨hnull, hset⟩
    · left
      simp [Slot.fail, hlive, hans]
    · simpa [Slot.Settled, Slot.fail, hnull] using hset

theorem Slot.respondWithError_closed (err : Error) :
    (({} : Slot).respondWithError err).Closed := ⟨rfl, rfl, Or.inl rfl⟩

theorem Slot.Open.setNull {slot : Slot} (h : slot.Open) (err : Error) : (slot.setNull err).Open := by
  unfold Slot.setNull
  split
  · rename_i hlive
    rcases h.response with ⟨-, hans⟩ | ⟨hnull, -⟩
    · refine ⟨h.request, h.released, Or.inr ⟨rfl, Or.inl ?_⟩⟩
      show (slot.answers ++ [some err]).length = 1
      rw [hans]
      rfl
    · rw [hnull] at hlive
      cases hlive
  · exact h

theorem Slot.new_open (err : Option Error) : (({} : Slot).new err).Open := by
  refine ⟨rfl, rfl, ?_⟩
  cases err with
  | none => exact Or.inl ⟨rfl, rfl⟩
  | some err => exact Or.inr ⟨rfl, Or.inr ⟨rfl, rfl⟩⟩

/-! ### What a body keeps -/

/-- Every slot is open; the number of slots, the responder and the number of times the semaphore was
released are as given. -/
structure OpenAt (n : ℕ) (responder : Bool) (k : ℕ) (s : PayloadState) : Prop where
  length : s.slots.length = n
  slots : ∀ slot ∈ s.slots, slot.Open
  responder : s.responder = responder
  releases : s.semaphoreReleases = k
  alive : s.crash = none

/-- Every slot is closed. -/
structure ClosedAt (n k : ℕ) (s : PayloadState) : Prop where
  length : s.slots.length = n
  slots : ∀ slot ∈ s.slots, slot.Closed
  releases : s.semaphoreReleases = k
  alive : s.crash = none

/-- From open slots the body falls through with open slots, has returned with every slot closed, or
has ended in `R`. -/
def KeepsOpen (R : PayloadState → Prop) {α : Type} (m : PayloadM α) : Prop :=
  ∀ n responder k, EarlyReturn.Triple (OpenAt n responder k) m (fun _ => OpenAt n responder k)
    fun s => ClosedAt n k s ∨ R s

namespace KeepsOpen

open EarlyReturn PayloadM

variable {R : PayloadState → Prop} {α β : Type}

theorem pure (a : α) : KeepsOpen R (Pure.pure a : PayloadM α) :=
  fun _ _ _ => Triple.pure fun _ h => h

theorem gets (f : PayloadState → α) : KeepsOpen R (EarlyReturn.gets f) :=
  fun _ _ _ => Triple.gets fun _ h => h

theorem bind {m : PayloadM α} {f : α → PayloadM β} (hm : KeepsOpen R m)
    (hf : ∀ a, KeepsOpen R (f a)) : KeepsOpen R (m >>= f) :=
  fun n responder k => Triple.bind (hm n responder k) fun a => hf a n responder k

theorem forEach {body : β → PayloadM Unit} (h : ∀ b, KeepsOpen R (body b)) (l : List β) :
    KeepsOpen R (EarlyReturn.forEach body l) :=
  fun n responder k => Triple.forEach fun b _ => h b n responder k

/-- An assignment that leaves the slots, the responder and the semaphore alone. -/
theorem modify {f : PayloadState → PayloadState} (hslots : ∀ s, (f s).slots = s.slots)
    (hresponder : ∀ s, (f s).responder = s.responder)
    (hreleases : ∀ s, (f s).semaphoreReleases = s.semaphoreReleases)
    (hcrash : ∀ s, (f s).crash = s.crash) : KeepsOpen R (EarlyReturn.modify f) := by
  intro n responder k
  refine Triple.modify fun s h => ⟨?_, ?_, ?_, ?_, ?_⟩
  · rw [hslots]
    exact h.length
  · rw [hslots]
    exact h.slots
  · rw [hresponder]
    exact h.responder
  · rw [hreleases]
    exact h.releases
  · rw [hcrash]
    exact h.alive

theorem call (calls : Calls) : KeepsOpen R (PayloadM.call calls) :=
  bind (gets _) fun _ =>
    bind (modify (fun _ => rfl) (fun _ => rfl) (fun _ => rfl) fun _ => rfl) fun _ => pure _

theorem collect (calls : Calls) : KeepsOpen R (PayloadM.collect calls) := by
  refine bind (gets _) fun k => bind (fun n responder m => ?_) fun _ => pure _
  refine Triple.modify fun s h => ⟨?_, fun slot hslot => ?_, h.responder, h.releases, h.alive⟩
  · show (s.slots.mapIdx _).length = n
    rw [List.length_mapIdx, h.length]
  · obtain ⟨r, hr, rfl⟩ := List.mem_mapIdx.mp hslot
    have hopen := h.slots _ (List.getElem_mem hr)
    cases calls.sent k r with
    | none => exact hopen
    | some err => exact hopen.setNull err

theorem failAllAndReturn (err : Error) : KeepsOpen R (PayloadM.failAllAndReturn err : PayloadM α) := by
  intro n responder k
  refine Triple.bind (Q := fun _ => ClosedAt n k)
    (Triple.modify fun s h => ⟨?_, fun slot hslot => ?_, h.releases, h.alive⟩)
    fun _ => Triple.ret fun _ h => Or.inl h
  · show (s.slots.map _).length = n
    rw [List.length_map, h.length]
  · obtain ⟨old, hold, rfl⟩ := List.mem_map.mp hslot
    exact (h.slots old hold).fail err

theorem failAllIfError (err : Option Error) : KeepsOpen R (PayloadM.failAllIfError err) := by
  cases err with
  | none => exact pure ()
  | some err => exact failAllAndReturn err

theorem respondIfError (r : ℕ) (err : Option Error) : KeepsOpen R (PayloadM.respondIfError r err) := by
  cases err with
  | none => exact pure ()
  | some err =>
      intro n responder k
      refine Triple.modify fun s h => ⟨?_, fun slot hslot => ?_, h.responder, h.releases, h.alive⟩
      · show (s.slots.modify r _).length = n
        rw [List.length_modify, h.length]
      · obtain ⟨i, hi, hslot⟩ := List.getElem_of_mem hslot
        have hi' : i < s.slots.length := by
          have hlen : i < (s.slots.modify r (Slot.setNull err)).length := hi
          rwa [List.length_modify] at hlen
        have hopen := h.slots _ (List.getElem_mem hi')
        have hget : (s.slots.modify r (Slot.setNull err))[i]? = some slot := by
          rw [← hslot]
          exact List.getElem?_eq_getElem hi
        rw [List.getElem?_modify, List.getElem?_eq_getElem hi'] at hget
        by_cases hri : r = i
        · simp only [hri, if_true, Option.map_eq_map, Option.map_some, Option.some.injEq] at hget
          rw [← hget]
          exact hopen.setNull err
        · simp only [hri, if_false, Option.map_eq_map, Option.map_some, Option.some.injEq] at hget
          rw [← hget]
          exact hopen

/-- A body after which the process is dead. -/
theorem crash (kind : Crash) (h : ∀ s, s.crash = some kind → R s) :
    KeepsOpen R (PayloadM.crash kind : PayloadM α) := by
  intro n responder k
  refine Triple.bind (Q := fun _ s => s.crash = some kind) (Triple.modify fun _ _ => rfl) fun _ => ?_
  exact Triple.ret fun s hs => Or.inr (h s hs)

end KeepsOpen

/-! ### Bodies in general -/

/-- A property of bodies that every way of putting them together keeps, and that every primitive of
`Run` behind the responses has. -/
structure BodyRule (K : {α : Type} → PayloadM α → Prop) : Prop where
  pure : ∀ {α : Type} (a : α), K (Pure.pure a : PayloadM α)
  gets : ∀ {α : Type} (f : PayloadState → α), K (EarlyReturn.gets f)
  bind : ∀ {α β : Type} {m : PayloadM α} {f : α → PayloadM β}, K m → (∀ a, K (f a)) → K (m >>= f)
  call : ∀ calls, K (PayloadM.call calls)
  collect : ∀ calls, K (PayloadM.collect calls)
  failAllAndReturn : ∀ {α : Type} (err : Error), K (PayloadM.failAllAndReturn err : PayloadM α)
  respondIfError : ∀ r err, K (PayloadM.respondIfError r err)
  setInputDims : ∀ f : PayloadState → List ℤ,
    K (EarlyReturn.modify fun s => { s with inputDims := f s })
  addSeqStates : ∀ states : List (Option Error),
    K (EarlyReturn.modify fun s => { s with seqStates := s.seqStates ++ states })

namespace BodyRule

open EarlyReturn PayloadM

variable {K : {α : Type} → PayloadM α → Prop} {α β : Type} {m : PayloadM α}

theorem ite (_ : BodyRule K) {c : Prop} [Decidable c] {m m' : PayloadM α} (hm : K m)
    (hm' : K m') : K (if c then m else m') := by
  by_cases h : c
  · rw [if_pos h]
    exact hm
  · rw [if_neg h]
    exact hm'

theorem forEach (hK : BodyRule K) {body : β → PayloadM Unit} (h : ∀ b, K (body b)) (l : List β) :
    K (EarlyReturn.forEach body l) := by
  induction l with
  | nil => exact hK.pure ()
  | cons b l ih => exact hK.bind (h b) fun _ => ih

theorem foldEach (hK : BodyRule K) {body : α → β → PayloadM α} (h : ∀ a b, K (body a b)) (a : α)
    (l : List β) : K (EarlyReturn.foldEach body a l) := by
  induction l generalizing a with
  | nil => exact hK.pure a
  | cons b l ih => exact hK.bind (h a b) ih

theorem failAllIfError (hK : BodyRule K) (err : Option Error) :
    K (PayloadM.failAllIfError err) := by
  cases err with
  | none => exact hK.pure ()
  | some err => exact hK.failAllAndReturn err

theorem responseLive (hK : BodyRule K) (r : ℕ) : K (PayloadM.responseLive r) := hK.gets _

/-- A call whose failure fails every request, and the statements behind it. -/
theorem checkedCall (hK : BodyRule K) (calls : Calls) (h : K m) :
    K (do PayloadM.failAllIfError (← PayloadM.call calls); m) :=
  hK.bind (hK.call calls) fun err => hK.bind (hK.failAllIfError err) fun _ => h

theorem checkedCollect (hK : BodyRule K) (calls : Calls) (h : K m) :
    K (do PayloadM.failAllIfError (← PayloadM.collect calls); m) :=
  hK.bind (hK.collect calls) fun err => hK.bind (hK.failAllIfError err) fun _ => h

/-- A call whose failure is answered to one request. -/
theorem respondingCall (hK : BodyRule K) (calls : Calls) (r : ℕ) (h : K m) :
    K (do PayloadM.respondIfError r (← PayloadM.call calls); m) :=
  hK.bind (hK.call calls) fun err => hK.bind (hK.respondIfError r err) fun _ => h

end BodyRule

/-- A property that ending the process has as well. -/
structure CrashRule (K : {α : Type} → PayloadM α → Prop) : Prop extends BodyRule K where
  crash : ∀ {α : Type} (kind : Crash), K (PayloadM.crash kind : PayloadM α)

theorem CrashRule.unlessCrash {K : {α : Type} → PayloadM α → Prop} (hK : CrashRule K) {α : Type}
    (value : Except Crash α) : K (PayloadM.unlessCrash value) := by
  cases value with
  | ok a => exact hK.pure a
  | error kind => exact hK.crash kind

theorem keepsOpen_bodyRule (R : PayloadState → Prop) : BodyRule (KeepsOpen R) where
  pure := KeepsOpen.pure
  gets := KeepsOpen.gets
  bind := KeepsOpen.bind
  call := KeepsOpen.call
  collect := KeepsOpen.collect
  failAllAndReturn := KeepsOpen.failAllAndReturn
  respondIfError := KeepsOpen.respondIfError
  setInputDims _ := KeepsOpen.modify (fun _ => rfl) (fun _ => rfl) (fun _ => rfl) fun _ => rfl
  addSeqStates _ := KeepsOpen.modify (fun _ => rfl) (fun _ => rfl) (fun _ => rfl) fun _ => rfl

/-- The process is dead. -/
def Died (s : PayloadState) : Prop := s.crashed = true

theorem died_of_crash {s : PayloadState} {kind : Crash} (h : s.crash = some kind) : Died s := by
  rw [Died, PayloadState.crashed, h]
  rfl

theorem keepsOpen_crashRule : CrashRule (KeepsOpen Died) where
  toBodyRule := keepsOpen_bodyRule Died
  crash kind := KeepsOpen.crash kind fun _ h => died_of_crash h

/-! ### Requests without responses -/

/-- Nothing has been done to the requests yet. -/
structure UntouchedAt (n k : ℕ) (s : PayloadState) : Prop where
  slots : s.slots = List.replicate n {}
  responder : s.responder = false
  releases : s.semaphoreReleases = k
  alive : s.crash = none

/-- `RequestsRespondWithError` for untouched requests closes every slot. -/
theorem respondAllAndReturn_closes {α : Type} (err : Error) {n k : ℕ} {s : PayloadState}
    (h : UntouchedAt n k s) :
    ∃ t, (PayloadM.respondAllAndReturn err : PayloadM α) s = (none, t) ∧ ClosedAt n k t := by
  refine ⟨_, rfl, ?_, fun slot hslot => ?_, h.releases, h.alive⟩
  · show (s.slots.map _).length = n
    rw [List.length_map, h.slots, List.length_replicate]
  · obtain ⟨old, hold, rfl⟩ := List.mem_map.mp hslot
    rw [h.slots] at hold
    rw [List.eq_of_mem_replicate hold]
    exact Slot.respondWithError_closed err

/-- The responses of untouched requests: every slot becomes open. -/
theorem createResponses_triple (calls : Calls) (n k : ℕ) :
    EarlyReturn.Triple (UntouchedAt n k) (PayloadM.createResponses calls)
      (fun _ => OpenAt n false k) (ClosedAt n k) := by
  refine EarlyReturn.Triple.modify fun s h =>
    ⟨?_, fun slot hslot => ?_, h.responder, h.releases, h.alive⟩
  · show (s.slots.mapIdx _).length = n
    rw [List.length_mapIdx, h.slots, List.length_replicate]
  · obtain ⟨r, hr, rfl⟩ := List.mem_mapIdx.mp hslot
    have hmem : s.slots[r] ∈ List.replicate n ({} : Slot) := by
      have hin := List.getElem_mem hr
      generalize s.slots[r] = slot at hin ⊢
      rwa [h.slots] at hin
    have hslot : s.slots[r] = {} := List.eq_of_mem_replicate hmem
    rw [hslot]
    exact Slot.new_open _

end TensorrtBackend

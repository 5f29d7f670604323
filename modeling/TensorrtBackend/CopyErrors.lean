import Mathlib.Data.List.GetD
import TensorrtBackend.Completion
import TensorrtBackend.Run

/-!
# Failed copies of a shape-tensor output

The copies of `SetOutputShapeTensorBuffer` share the variable `err`, which is looked at behind the
loop only: an error is lost when a later copy succeeds, and the completion thread sends the response
as a success.

* `setOutputShapeTensorBuffer_state`: the last outcome decides.
* `copiesReported_iff`: when the failures are reported.
-/

namespace TensorrtBackend

open EarlyReturn PayloadM

section Copies

variable {calls : RunCalls} {idx tensorElementCount : ℕ} {batchSize : ℤ} {s : PayloadState}

/-- The outcomes of the copies `SetOutputShapeTensorBuffer` makes; without a buffer it makes none.
-/
def copyOutcomes (calls : RunCalls) (batchSize : ℤ) (s : PayloadState) : List (Option Error) :=
  match calls.outcome s.calls with
  | some _ => []
  | none => (List.range batchSize.toNat).map fun i => calls.outcome (s.calls + 1 + i)

/-- The slot of the response behind `SetOutputShapeTensorBuffer`. -/
def copiedSlot (calls : RunCalls) (idx tensorElementCount : ℕ) (batchSize : ℤ) (s : PayloadState) :
    Slot :=
  (setOutputShapeTensorBuffer calls idx tensorElementCount batchSize s).2.slots.getD idx default

/-- If a copy fails the response is sent with an error and nulled, and it is left to be sent as a
success only if all copies succeed. -/
structure CopiesReported (calls : RunCalls) (idx tensorElementCount : ℕ) (batchSize : ℤ)
    (s : PayloadState) : Prop where
  failure : (∃ err, some err ∈ copyOutcomes calls batchSize s) →
    (copiedSlot calls idx tensorElementCount batchSize s).response = some false ∧
      ∃ err, (copiedSlot calls idx tensorElementCount batchSize s).answers =
        (s.slots.getD idx default).answers ++ [some err]
  success : (copiedSlot calls idx tensorElementCount batchSize s).send.answers =
      (s.slots.getD idx default).answers ++ [none] →
    ∀ outcome ∈ copyOutcomes calls batchSize s, outcome = none

/-! ### The loop -/

/-- A loop that assigns the outcome of a call to a variable leaves the last one there. -/
theorem foldEach_call {β : Type} (calls : Calls) (l : List β) (err : Option Error)
    (s : PayloadState) : foldEach (fun _ _ => call calls) err l s =
      (some (((List.range l.length).map fun i => calls.outcome (s.calls + i)).getLastD err),
        { s with calls := s.calls + l.length }) := by
  induction l generalizing err s with
  | nil => rfl
  | cons b l ih =>
      have hcall : call calls s = (some (calls.outcome s.calls), { s with calls := s.calls + 1 }) :=
        rfl
      have hshift : ∀ i, s.calls + 1 + i = s.calls + (i + 1) := fun i => by omega
      show (call calls >>= fun err => foldEach (fun _ _ => call calls) err l) s = _
      rw [bind_of_fall hcall, ih]
      simp only [List.length_cons, List.range_succ_eq_map, List.map_cons, List.map_map,
        List.getLastD_cons, Function.comp_def, Nat.succ_eq_add_one, Nat.add_zero, hshift]

/-- **The last outcome decides.** -/
theorem setOutputShapeTensorBuffer_state (hbuffer : calls.outcome s.calls = none)
    (hrows : batchSize ≠ 0) :
    setOutputShapeTensorBuffer calls idx tensorElementCount batchSize s =
      respondIfError idx ((copyOutcomes calls batchSize s).getLastD none)
        { s with calls := s.calls + 1 + batchSize.toNat } := by
  have hcall : call calls.toCalls s = (some none, { s with calls := s.calls + 1 }) := by
    show (some (calls.outcome s.calls), _) = _
    rw [hbuffer]
  have hloop := foldEach_call calls.toCalls (List.range batchSize.toNat) none
    { s with calls := s.calls + 1 }
  rw [List.length_range] at hloop
  have hdivide : unlessCrash (divideSizeT tensorElementCount batchSize) { s with calls := s.calls + 1 } =
      (some (tensorElementCount / toSizeT batchSize), { s with calls := s.calls + 1 }) := by
    rw [divideSizeT, if_neg hrows]
    rfl
  rw [setOutputShapeTensorBuffer, bind_of_fall hcall]
  simp only
  rw [bind_of_fall hdivide, bind_of_fall hloop, copyOutcomes, hbuffer]

/-- A slot behind `RESPOND_AND_SET_NULL_IF_ERROR` for a response that is not null. -/
def Slot.respond (slot : Slot) : Option Error → Slot
  | none => slot
  | some err => { slot with answers := slot.answers ++ [some err], response := some false }

theorem respondIfError_slot (hlive : (s.slots.getD idx default).response = some true)
    (err : Option Error) : (respondIfError idx err s).2.slots.getD idx default =
      (s.slots.getD idx default).respond err := by
  cases err with
  | none => rfl
  | some err =>
      show (s.slots.modify idx (Slot.setNull err)).getD idx default = _
      rw [List.getD_eq_getElem?_getD, List.getElem?_modify_eq]
      rw [List.getD_eq_getElem?_getD] at hlive ⊢
      cases hslot : s.slots[idx]? with
      | none =>
          rw [hslot] at hlive
          cases hlive
      | some slot =>
          rw [hslot, Option.getD_some] at hlive
          show slot.setNull err = slot.respond (some err)
          rw [Slot.setNull, if_pos hlive, Slot.respond]

/-- What the copies leave, once there is a buffer: the response for the last of their outcomes. -/
theorem copiedSlot_eq (hlive : (s.slots.getD idx default).response = some true)
    (hbuffer : calls.outcome s.calls = none) (hrows : batchSize ≠ 0) :
    copiedSlot calls idx tensorElementCount batchSize s = (s.slots.getD idx default).respond
      ((copyOutcomes calls batchSize s).getLast?.getD none) := by
  rw [copiedSlot, setOutputShapeTensorBuffer_state hbuffer hrows, List.getLastD_eq_getLast?]
  exact respondIfError_slot (s := { s with calls := s.calls + 1 + batchSize.toNat }) hlive _

/-- Nothing is copied, and nothing fails. -/
theorem copiesReported_of_nil (idx tensorElementCount : ℕ)
    (hnone : copyOutcomes calls batchSize s = []) :
    CopiesReported calls idx tensorElementCount batchSize s ∧ ∀ outcome ∈ copyOutcomes calls batchSize s,
      outcome = none := by
  refine ⟨⟨?_, ?_⟩, ?_⟩
  · rw [hnone]
    exact fun ⟨_, h⟩ => absurd h List.not_mem_nil
  · rw [hnone]
    exact fun _ _ h => absurd h List.not_mem_nil
  · rw [hnone]
    exact fun _ h => absurd h List.not_mem_nil

/-- **Failed copies** of a response that is not null yet are reported exactly when none fails or the
last one does. -/
theorem copiesReported_iff (hlive : (s.slots.getD idx default).response = some true) :
    CopiesReported calls idx tensorElementCount batchSize s ↔
      (∀ outcome ∈ copyOutcomes calls batchSize s, outcome = none) ∨
        ∃ err, (copyOutcomes calls batchSize s).getLast? = some (some err) := by
  cases hbuffer : calls.outcome s.calls with
  | some err =>
      -- There is no buffer, and nothing is copied.
      have hnone : copyOutcomes calls batchSize s = [] := by rw [copyOutcomes, hbuffer]
      obtain ⟨hreported, hall⟩ := copiesReported_of_nil idx tensorElementCount hnone
      exact iff_of_true hreported (Or.inl hall)
  | none =>
      cases hlast : (copyOutcomes calls batchSize s).getLast? with
      | none =>
          have hempty := List.getLast?_eq_none_iff.mp hlast
          obtain ⟨hreported, hall⟩ := copiesReported_of_nil idx tensorElementCount hempty
          exact iff_of_true hreported (Or.inl hall)
      | some outcome =>
          have hrows : batchSize ≠ 0 := by
            rintro rfl
            rw [copyOutcomes, hbuffer] at hlast
            cases hlast
          have hslot : copiedSlot calls idx tensorElementCount batchSize s = _ :=
            copiedSlot_eq hlive hbuffer hrows
          rw [hlast, Option.getD_some] at hslot
          cases outcome with
          | some err =>
              refine iff_of_true ⟨fun _ => ?_, fun hsent => ?_⟩ (Or.inr ⟨err, rfl⟩)
              · rw [hslot]
                exact ⟨rfl, err, rfl⟩
              · rw [hslot] at hsent
                have herr := List.append_cancel_left hsent
                cases herr
          | none =>
              constructor
              · intro h
                refine Or.inl (h.success ?_)
                rw [hslot]
                rw [Slot.respond, Slot.send, if_pos hlive]
              · intro h
                rcases h with hall | ⟨err, herr⟩
                · refine ⟨fun hfailed => ?_, fun _ => hall⟩
                  obtain ⟨err, herr⟩ := hfailed
                  have hnone := hall _ herr
                  cases hnone
                · cases herr

end Copies

/-! ### Two copies -/

/-- One payload with a response that is not null. -/
def livePayload : PayloadState := { slots := [{ response := some true }] }

/-- The copy made as call number `k` fails. -/
def failedCopy (k : ℕ) : RunCalls where
  outcome j := if j = k then some ⟨.internal, "failed to copy"⟩ else none

theorem copiesReported_iff_second :
    CopiesReported (failedCopy 2) 0 4 2 livePayload ↔
      (∀ outcome ∈ copyOutcomes (failedCopy 2) 2 livePayload, outcome = none) ∨
        ∃ err, (copyOutcomes (failedCopy 2) 2 livePayload).getLast? = some (some err) :=
  copiesReported_iff rfl

/-- **The slip**: the first of two copies fails, and the response is sent as a success. -/
theorem copies_not_reported : ¬ CopiesReported (failedCopy 1) 0 4 2 livePayload := by
  intro h
  have hall := h.success rfl
  exact absurd (hall (some ⟨.internal, "failed to copy"⟩) List.mem_cons_self) nofun

end TensorrtBackend

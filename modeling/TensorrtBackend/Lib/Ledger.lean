import Mathlib.Data.List.Basic
import Mathlib.Tactic.Cases

/-!
# A ledger of allocations

Every allocation ever made stays in the ledger, at the index that serves as its address, with the
functions it was handed to in order to be released.  A kind stands for an allocating function and
for the releasing one that matches it; a release of another kind is written down but leaves the
allocation live.

* `Owned`: one owner holds the only allocation not released yet.
* `Owned.allocate`, `Owned.release`: the owner takes and gives back.
-/

namespace Ledger

variable {κ : Type*}

/-- One allocation. -/
structure Entry (κ : Type*) where
  kind : κ
  size : ℕ
  releases : List κ := []
  deriving DecidableEq

/-- The allocation has not been released by the function that matches it. -/
def Entry.Live (e : Entry κ) : Prop := e.kind ∉ e.releases

/-- The allocation has been released exactly once, by the function that matches it. -/
def Entry.Settled (e : Entry κ) : Prop := e.releases = [e.kind]

/-- A new allocation and its address. -/
def allocate (ledger : List (Entry κ)) (kind : κ) (size : ℕ) : ℕ × List (Entry κ) :=
  (ledger.length, ledger ++ [{ kind := kind, size := size }])

/-- The allocation is handed to a releasing function. -/
def release (ledger : List (Entry κ)) (address : ℕ) (kind : κ) : List (Entry κ) :=
  ledger.modify address fun e => { e with releases := e.releases ++ [kind] }

/-- The owner's allocation is the only one that has not been released, and every other one has been
released exactly once. -/
structure Owned (ledger : List (Entry κ)) (owner : Option ℕ) : Prop where
  inside : ∀ address ∈ owner, address < ledger.length
  held : ∀ address e, ledger[address]? = some e →
    e.releases = if owner = some address then [] else [e.kind]

variable {ledger : List (Entry κ)} {address size : ℕ} {kind : κ} {owner : Option ℕ}

theorem getElem?_allocate : (allocate ledger kind size).2[(allocate ledger kind size).1]? =
    some { kind := kind, size := size } := List.getElem?_concat_length

theorem mem_allocate {e : Entry κ} (h : e ∈ (allocate ledger kind size).2) :
    e ∈ ledger ∨ e = { kind := kind, size := size } := by
  rcases List.mem_append.mp h with hold | hnew
  · exact Or.inl hold
  · exact Or.inr (List.mem_singleton.mp hnew)

/-- A release changes neither the kind nor the size of an allocation. -/
theorem getElem?_release {other : ℕ} {e : Entry κ}
    (h : (release ledger address kind)[other]? = some e) :
    ∃ e₀, ledger[other]? = some e₀ ∧ e.kind = e₀.kind ∧ e.size = e₀.size ∧
      e.releases = if other = address then e₀.releases ++ [kind] else e₀.releases := by
  rw [release, List.getElem?_modify] at h
  cases hold : ledger[other]? with
  | none =>
      rw [hold] at h
      cases h
  | some e₀ =>
      rw [hold] at h
      have he : (if address = other then { e₀ with releases := e₀.releases ++ [kind] } else e₀) = e :=
        Option.some.inj h
      by_cases hother : address = other
      · rw [if_pos hother] at he
        rw [← he]
        exact ⟨e₀, rfl, rfl, rfl, (if_pos hother.symm).symm⟩
      · rw [if_neg hother] at he
        rw [← he]
        exact ⟨e₀, rfl, rfl, rfl, (if_neg (Ne.symm hother)).symm⟩

theorem mem_release {e : Entry κ} (h : e ∈ release ledger address kind) :
    ∃ e₀ ∈ ledger, e.kind = e₀.kind ∧ ∀ r ∈ e.releases, r ∈ e₀.releases ∨ r = kind := by
  obtain ⟨other, hother⟩ := List.mem_iff_getElem?.mp h
  obtain ⟨e₀, he₀, hkind, -, hreleases⟩ := getElem?_release hother
  refine ⟨e₀, List.mem_of_getElem? he₀, hkind, fun r hr => ?_⟩
  rw [hreleases] at hr
  split at hr
  · rcases List.mem_append.mp hr with hold | hnew
    · exact Or.inl hold
    · exact Or.inr (List.mem_singleton.mp hnew)
  · exact Or.inl hr

namespace Owned

/-- Before anything is allocated. -/
theorem nil : Owned ([] : List (Entry κ)) none where
  inside := nofun
  held := nofun

/-- Whoever owns nothing may own a new allocation. -/
theorem allocate (h : Owned ledger none) :
    Owned (allocate ledger kind size).2 (some (allocate ledger kind size).1) where
  inside address haddress := by
    rw [← Option.some.inj haddress]
    show ledger.length < (ledger ++ [_]).length
    rw [List.length_append, List.length_singleton]
    exact Nat.lt_succ_self _
  held address e he := by
    show e.releases = if some ledger.length = some address then [] else [e.kind]
    replace he : (ledger ++ [{ kind := kind, size := size }])[address]? = some e := he
    by_cases hnew : ledger.length = address
    · rw [← hnew, List.getElem?_concat_length] at he
      rw [← Option.some.inj he, if_pos (congrArg some hnew)]
    · have hlt := (List.getElem?_eq_some_iff.mp he).1
      rw [List.length_append, List.length_singleton] at hlt
      rw [List.getElem?_append_left (by omega)] at he
      rw [if_neg fun heq => hnew (Option.some.inj heq), h.held address e he, if_neg nofun]

/-- The owner releases its allocation by the matching function. -/
theorem release (h : Owned ledger (some address))
    (hkind : ∀ e, ledger[address]? = some e → e.kind = kind) :
    Owned (release ledger address kind) none where
  inside := nofun
  held other e he := by
    obtain ⟨e₀, he₀, hsame, -, hreleases⟩ := getElem?_release he
    have hheld := h.held other e₀ he₀
    have hnobody : (none : Option ℕ) ≠ some other := nofun
    rw [hreleases, if_neg hnobody]
    by_cases hother : other = address
    · rw [hother] at he₀
      rw [if_pos (congrArg some hother.symm)] at hheld
      rw [if_pos hother, hheld, List.nil_append, hsame, hkind e₀ he₀]
    · rw [if_neg fun heq => hother (Option.some.inj heq).symm] at hheld
      rw [if_neg hother, hheld, hsame]

/-- The owned allocation is live. -/
theorem live (h : Owned ledger (some address)) {e : Entry κ} (he : ledger[address]? = some e) :
    e.Live := by
  rw [Entry.Live, h.held address e he, if_pos rfl]
  exact List.not_mem_nil

/-- Once nothing is owned, everything has been released exactly once. -/
theorem settled (h : Owned ledger none) {e : Entry κ} (he : e ∈ ledger) : e.Settled := by
  obtain ⟨address, haddress⟩ := List.mem_iff_getElem?.mp he
  rw [Entry.Settled, h.held address e haddress, if_neg nofun]

end Owned

end Ledger

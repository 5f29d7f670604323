import TensorrtBackend.SupportedBatch
import TensorrtBackend.Lib.Numeral

/-!
# Profiles named in the configuration

The profiles of an instance group are named by number. `GetProfileIndex` reads the number with
`std::stoi`, which stops at the first character it cannot use and throws for a number that is no
`int`; only the exception for text without a number is caught.

* `stoi_eq_ok_iff`, `stoi_eq_outOfRange_iff`: what `std::stoi` does with a text.
* `parsesWhole_iff`: the names that are read as a whole.
* `profileNameIndex_parsed`, `getProfileIndices_parsed`: what follows for the two callers.
-/

namespace TensorrtBackend

open Checked Numeral

/-! ### `std::stoi` -/

/-- A text that starts with the integer `x`. -/
abbrev Reads (s : String) (x : ℤ) (rest : List Char) : Prop :=
  StartsWithInt isSpace s.toList x rest

theorem isSpace_digit (c : Char) (hc : c.isDigit) : isSpace c = false := by
  have hrange : 48 ≤ c.toNat ∧ c.toNat ≤ 57 := by
    simpa [Char.isDigit, UInt32.le_iff_toNat_le] using hc
  have hblank : c ≠ ' ' := by
    rintro rfl
    exact absurd hrange.1 (by decide)
  have hcontrol : ¬ c.toNat ≤ 13 := by omega
  simp [isSpace, hblank, hcontrol]

theorem Reads.unique {s : String} {x x' : ℤ} {rest rest' : List Char} (h : Reads s x rest)
    (h' : Reads s x' rest') : x = x' ∧ rest = rest' :=
  StartsWithInt.unique isSpace_digit rfl rfl h h'

/-- The integer a text starts with, as `std::stoi` finds it. -/
def leadingInt (cs : List Char) : Option ℤ :=
  match cs.dropWhile isSpace with
  | '-' :: cs => (leadingDigits cs).map fun n : ℕ => -(n : ℤ)
  | '+' :: cs => (leadingDigits cs).map Nat.cast
  | cs => (leadingDigits cs).map Nat.cast

theorem stoi_eq (s : String) :
    stoi s = match leadingInt s.toList with
      | none => .error .invalidArgument
      | some x => if toInt32 x = x then .ok x else .error .outOfRange := by
  have hcast : ∀ (f : ℤ → ℤ) (cs : List Char),
      (do let n ← leadingDigits cs; pure (n : ℤ) : Option ℤ).map f =
        (leadingDigits cs).map fun n : ℕ => f n := by
    intro f cs
    cases leadingDigits cs <;> rfl
  simp only [stoi, hcast]
  rfl

theorem leadingDigits_eq_some {cs : List Char} {n : ℕ} :
    leadingDigits cs = some n ↔ ∃ rest, StartsWithDigits cs n rest := by
  simp only [startsWithDigits_iff]
  by_cases hnone : cs.takeWhile Char.isDigit = []
  · refine ⟨fun h => ?_, fun ⟨rest, h⟩ => absurd hnone h.1⟩
    rw [leadingDigits, if_pos hnone] at h
    exact nomatch h
  · rw [leadingDigits, if_neg hnone, Option.some.injEq]
    exact ⟨fun h => ⟨_, hnone, h, rfl⟩, fun ⟨rest, h⟩ => h.2.1⟩

theorem leadingInt_eq_some {cs : List Char} {x : ℤ} :
    leadingInt cs = some x ↔ ∃ rest, StartsWithInt isSpace cs x rest := by
  have hdigits : ∀ (f : ℕ → ℤ) (cs : List Char),
      (leadingDigits cs).map f = some x ↔ ∃ rest, ∃ n, StartsWithDigits cs n rest ∧ x = f n := by
    intro f cs
    rw [Option.map_eq_some_iff]
    constructor
    · intro ⟨n, hn, hx⟩
      obtain ⟨rest, h⟩ := leadingDigits_eq_some.mp hn
      exact ⟨rest, n, h, hx.symm⟩
    · intro ⟨rest, n, h, hx⟩
      exact ⟨n, leadingDigits_eq_some.mpr ⟨rest, h⟩, hx.symm⟩
  have hdrop : ∀ rest, StartsWithInt isSpace (cs.dropWhile isSpace) x rest ↔
      StartsWithInt isSpace cs x rest := fun _ => startsWithInt_dropWhile isSpace_digit rfl rfl
  have hminus : isSpace '-' = false := rfl
  have hplus : isSpace '+' = false := rfl
  have hblank := List.head?_dropWhile_not isSpace cs
  simp only [← hdrop]
  unfold leadingInt
  split
  · rename_i tail htail
    simp only [htail, startsWithInt_minus hminus, hdigits]
  · rename_i tail htail
    simp only [htail, startsWithInt_plus hplus, hdigits]
  · rename_i tail hnoMinus hnoPlus
    have hhead : ∀ c ∈ (cs.dropWhile isSpace).head?, isSpace c = false := by
      intro c hc
      rw [Option.mem_def.mp hc] at hblank
      simpa using hblank
    have hsign : ∀ c, (∀ tail, cs.dropWhile isSpace = c :: tail → False) →
        (cs.dropWhile isSpace).head? ≠ some c := by
      intro c hne hc
      obtain ⟨tail, htail⟩ := List.head?_eq_some_iff.mp hc
      exact hne tail htail
    simp only [startsWithInt_unsigned hhead (hsign _ hnoPlus) (hsign _ hnoMinus), hdigits]

/-- A number is found, and it is an `int`. -/
theorem stoi_eq_ok_iff {s : String} {x : ℤ} :
    stoi s = .ok x ↔ (∃ rest, Reads s x rest) ∧ toInt32 x = x := by
  rw [← leadingInt_eq_some, stoi_eq]
  cases leadingInt s.toList with
  | none => exact ⟨fun h => (nomatch h), fun h => nomatch h.1⟩
  | some y =>
      rw [Option.some.injEq]
      show (if toInt32 y = y then Except.ok y else Except.error StoiException.outOfRange) = _ ↔ _
      by_cases hy : toInt32 y = y
      · rw [if_pos hy, Except.ok.injEq]
        exact ⟨fun h => ⟨h, h ▸ hy⟩, And.left⟩
      · rw [if_neg hy]
        exact ⟨fun h => (nomatch h), fun ⟨h, hx⟩ => absurd (h ▸ hx) hy⟩

/-- A number is found, and it is no `int`. -/
theorem stoi_eq_outOfRange_iff {s : String} :
    stoi s = .error .outOfRange ↔ ∃ x rest, Reads s x rest ∧ toInt32 x ≠ x := by
  have hread : ∀ x, (∃ rest, Reads s x rest ∧ toInt32 x ≠ x) ↔
      leadingInt s.toList = some x ∧ toInt32 x ≠ x := by
    intro x
    rw [leadingInt_eq_some, exists_and_right]
  simp only [hread, stoi_eq]
  cases leadingInt s.toList with
  | none => exact ⟨fun h => (nomatch h), fun ⟨_, h, _⟩ => nomatch h⟩
  | some y =>
      show (if toInt32 y = y then Except.ok y else Except.error StoiException.outOfRange) = _ ↔ _
      by_cases hy : toInt32 y = y
      · rw [if_pos hy]
        exact ⟨fun h => (nomatch h), fun ⟨x, h, hx⟩ => absurd (Option.some.inj h ▸ hy) hx⟩
      · rw [if_neg hy]
        exact ⟨fun _ => ⟨y, rfl, hy⟩, fun _ => rfl⟩

/-! ### `GetProfileIndex` -/

theorem getProfileIndex_eq_ok_iff {name : String} (hname : name ≠ "") {x : ℤ} :
    getProfileIndex name = .ok x ↔ stoi name = .ok x := by
  rw [getProfileIndex, if_neg hname]
  split <;> simp_all

/-- The exception that leaves `GetProfileIndex`. -/
theorem getProfileIndex_escapes_iff {name : String} (hname : name ≠ "") :
    getProfileIndex name = .error .outOfRange ↔ stoi name = .error .outOfRange := by
  rw [getProfileIndex, if_neg hname]
  split <;> simp_all

/-- The lookup of a name does not end the process by itself. -/
theorem getProfileIndex_ne_crashed (name : String) (crash : Crash) :
    getProfileIndex name ≠ .error (.crashed crash) := by
  intro h
  rw [getProfileIndex] at h
  by_cases hname : name = ""
  · rw [if_pos hname] at h
    exact nomatch h
  · rw [if_neg hname] at h
    split at h <;> exact nomatch h

/-- An error that is returned, not an exception. -/
def Failure.IsReturned : Failure → Prop
  | .returned _ => True
  | .outOfRange | .crashed _ => False

/-- A name is parsed when the whole of it is an `int`, and no exception leaves the function. -/
structure ParsesWhole (name : String) : Prop where
  ok_iff : ∀ x, getProfileIndex name = .ok x ↔ IsInt isSpace name.toList x ∧ toInt32 x = x
  caught : Throws Failure.IsReturned (getProfileIndex name)

/-- A number the name starts with ends with the name, and is an `int`. -/
def NumberIsWhole (name : String) : Prop :=
  ∀ x rest, Reads name x rest → rest = [] ∧ toInt32 x = x

/-- An `int` is read from the name, with some text left over or none. -/
theorem getProfileIndex_reads_iff {name : String} (hname : name ≠ "") {x : ℤ} :
    getProfileIndex name = .ok x ↔ (∃ rest, Reads name x rest) ∧ toInt32 x = x :=
  (getProfileIndex_eq_ok_iff hname).trans stoi_eq_ok_iff

theorem getProfileIndex_caught_iff {name : String} (hname : name ≠ "") :
    Throws Failure.IsReturned (getProfileIndex name) ↔
      ∀ x rest, Reads name x rest → toInt32 x = x := by
  have hescape := (getProfileIndex_escapes_iff hname).trans stoi_eq_outOfRange_iff
  constructor
  · intro hcaught x rest hread
    by_contra hx
    exact hcaught .outOfRange (hescape.mpr ⟨x, rest, hread, hx⟩)
  · intro hint e he
    cases e with
    | returned err => exact trivial
    | outOfRange =>
        obtain ⟨x, rest, hread, hx⟩ := hescape.mp he
        exact hx (hint x rest hread)
    | crashed crash => exact absurd he (getProfileIndex_ne_crashed name crash)

/-- **The names that are read as a whole** are those in which a number in front is an `int` and has
nothing behind it. -/
theorem parsesWhole_iff {name : String} (hname : name ≠ "") :
    ParsesWhole name ↔ NumberIsWhole name := by
  constructor
  · intro h x rest hread
    have hint := (getProfileIndex_caught_iff hname).mp h.caught x rest hread
    have hok := (getProfileIndex_reads_iff hname).mpr ⟨⟨rest, hread⟩, hint⟩
    exact ⟨(hread.unique ((h.ok_iff x).mp hok).1).2, hint⟩
  · intro h
    refine ⟨fun x => ?_, (getProfileIndex_caught_iff hname).mpr fun x rest hread =>
      (h x rest hread).2⟩
    rw [getProfileIndex_reads_iff hname]
    constructor
    · intro ⟨⟨rest, hread⟩, hx⟩
      obtain ⟨rfl, -⟩ := h x rest hread
      exact ⟨hread, hx⟩
    · intro ⟨hread, hx⟩
      exact ⟨⟨[], hread⟩, hx⟩

/-! ### The callers -/

/-- Every profile name of the list that is not empty is read as a whole. -/
def NamesAreWhole (names : List String) : Prop := ∀ name ∈ names, name ≠ "" → NumberIsWhole name

theorem NamesAreWhole.caught {names : List String} (h : NamesAreWhole names) {name : String}
    (hname : name ∈ names) : Throws Failure.IsReturned (getProfileIndex name) := by
  by_cases hempty : name = ""
  · intro e he
    rw [getProfileIndex, if_pos hempty] at he
    exact Except.error.inj he ▸ trivial
  · exact ((parsesWhole_iff hempty).mpr (h name hname hempty)).caught

/-- A profile that is selected by a name of the list is the number the whole name is. -/
theorem NamesAreWhole.isInt {names : List String} (h : NamesAreWhole names) {name : String}
    (hname : name ∈ names) {x : ℤ} (hx : getProfileIndex name = .ok x) :
    IsInt isSpace name.toList x := by
  have hne : name ≠ "" := by
    rintro rfl
    exact nomatch hx
  exact ((((parsesWhole_iff hne).mpr (h name hname hne)).ok_iff x).mp hx).1

/-- The profiles `InitOptimizationProfiles` makes contexts for: the default one, or those its names
are the numbers of. -/
theorem profileNameIndex_parsed {names : List String} (h : NamesAreWhole names) :
    Throws Failure.IsReturned (profileNameIndex names) ∧
      ∀ table, profileNameIndex names = .ok table → ∀ entry ∈ table,
        names = [] ∧ entry = ("default", 0) ∨
          entry.1 ∈ names ∧ IsInt isSpace entry.1.toList entry.2 := by
  unfold profileNameIndex
  by_cases hnames : names = []
  · rw [if_pos hnames]
    refine ⟨fun _ he => (nomatch he), fun table htable entry hentry => ?_⟩
    rw [← Except.ok.inj htable, List.mem_singleton] at hentry
    exact Or.inl ⟨hnames, hentry⟩
  · rw [if_neg hnames]
    constructor
    · exact Throws.mapM fun name hname => (h.caught hname).bind fun idx => Throws.pure (name, idx)
    · intro table htable entry hentry
      obtain ⟨name, hname, hstep⟩ := exists_of_mem_mapM htable hentry
      obtain ⟨idx, hidx, hpair⟩ := bind_eq_ok.mp hstep
      rw [← pure_eq_ok.mp hpair]
      exact Or.inr ⟨hname, h.isInt hname hidx⟩

/-- The profiles `GetProfileIndices` asks: those the names of the groups are the numbers of, or
profile 0 when there is no name. -/
theorem getProfileIndices_parsed {config : ModelConfig} (numProfiles : ℤ)
    (h : ∀ group ∈ config.instanceGroups, NamesAreWhole group) :
    Throws Failure.IsReturned (getProfileIndices config numProfiles) ∧
      ∀ indices, getProfileIndices config numProfiles = .ok indices → ∀ p ∈ indices,
        (∀ group ∈ config.instanceGroups, group = []) ∧ p = 0 ∨
          ∃ group ∈ config.instanceGroups, ∃ name ∈ group, IsInt isSpace name.toList p := by
  constructor
  · refine Throws.bind (Throws.foldlM (fun indices group hgroup => ?_) []) fun _ => Throws.pure _
    refine Throws.foldlM (fun indices name hname => ?_) indices
    exact ((h group hgroup).caught hname).bind fun _ =>
      (Throws.failIf trivial).bind fun _ => Throws.pure _
  · intro indices hindices p hp
    rcases ((mem_getProfileIndices hindices).2 p).mp hp with ⟨group, hgroup, name, hname, hidx⟩ | hp
    · exact Or.inr ⟨group, hgroup, name, hname, (h group hgroup).isInt hname hidx⟩
    · exact Or.inl hp

/-- **Profile names.** `GetProfileIndex` reads a name as a whole, and lets no exception escape,
exactly when a number in front of the name is an `int` and ends it. Where the names of a
configuration are such, its two callers throw nothing and select no profile by a malformed name. -/
theorem profileNames_parsed (name : String) (hname : name ≠ "") (names : List String)
    (config : ModelConfig) (numProfiles : ℤ) :
    (ParsesWhole name ↔ NumberIsWhole name) ∧
      (NamesAreWhole names →
        Throws Failure.IsReturned (profileNameIndex names) ∧
          ∀ table, profileNameIndex names = .ok table → ∀ entry ∈ table,
            names = [] ∧ entry = ("default", 0) ∨
              entry.1 ∈ names ∧ IsInt isSpace entry.1.toList entry.2) ∧
      ((∀ group ∈ config.instanceGroups, NamesAreWhole group) →
        Throws Failure.IsReturned (getProfileIndices config numProfiles) ∧
          ∀ indices, getProfileIndices config numProfiles = .ok indices → ∀ p ∈ indices,
            (∀ group ∈ config.instanceGroups, group = []) ∧ p = 0 ∨
              ∃ group ∈ config.instanceGroups, ∃ name ∈ group, IsInt isSpace name.toList p) :=
  ⟨parsesWhole_iff hname, fun h => profileNameIndex_parsed h,
    fun h => getProfileIndices_parsed numProfiles h⟩

theorem profileNames_parsed_twelve : ParsesWhole " +12" := by
  refine (profileNames_parsed " +12" (by decide) [] {} 0).1.mpr fun x rest h => ?_
  have hread : Reads " +12" 12 [] := .blank rfl (.plus (startsWithDigits_iff.mpr (by decide)))
  obtain ⟨rfl, rfl⟩ := hread.unique h
  exact ⟨rfl, by decide⟩

/-- `"1abc"` selects profile 1, and `"99999999999"` ends the load with an exception. -/
theorem profileNames_loose :
    getProfileIndex "1abc" = .ok 1 ∧ getProfileIndex "99999999999" = .error .outOfRange ∧
      ¬ ParsesWhole "1abc" ∧ ¬ ParsesWhole "99999999999" := by
  have habc : getProfileIndex "1abc" = .ok 1 := by decide
  have hlarge : getProfileIndex "99999999999" = .error .outOfRange := by decide
  refine ⟨habc, hlarge, fun h => ?_, fun h => h.caught .outOfRange hlarge⟩
  have hread : Reads "1abc" 1 "abc".toList := .unsigned (startsWithDigits_iff.mpr (by decide))
  have hrest := hread.unique ((h.ok_iff 1).mp habc).1
  exact nomatch hrest.2

end TensorrtBackend

import Mathlib.Data.Int.Notation
import Mathlib.Data.List.TakeWhile
import Mathlib.Tactic.Common

/-!
# Numerals at the front of a text

A text starts with an integer when it has blanks, a sign or none, and decimal digits, with as many
digits as there are. The text is an integer when nothing is left over.
-/

namespace Numeral

/-- The number a string of decimal digits stands for. -/
def value (digits : List Char) : ℕ := digits.foldl (fun n c => 10 * n + (c.toNat - 48)) 0

/-- The text is the digits of `n` and then `rest`, which has no further digit in front. -/
def StartsWithDigits (cs : List Char) (n : ℕ) (rest : List Char) : Prop :=
  ∃ digits, cs = digits ++ rest ∧ digits ≠ [] ∧ (∀ c ∈ digits, c.isDigit) ∧
    (∀ c ∈ rest.head?, ¬ c.isDigit) ∧ value digits = n

/-- As many digits as there are, and what is left. -/
theorem startsWithDigits_iff {cs rest : List Char} {n : ℕ} :
    StartsWithDigits cs n rest ↔ cs.takeWhile Char.isDigit ≠ [] ∧
      value (cs.takeWhile Char.isDigit) = n ∧ cs.dropWhile Char.isDigit = rest := by
  constructor
  · rintro ⟨digits, rfl, hne, hdigits, hrest, rfl⟩
    have hnone : rest.takeWhile Char.isDigit = [] := by
      cases rest with
      | nil => rfl
      | cons c rest => exact List.takeWhile_cons_of_neg (hrest c rfl)
    have hall : (digits ++ rest).takeWhile Char.isDigit = digits := by
      rw [List.takeWhile_append_of_pos hdigits, hnone, List.append_nil]
    have hleft : (digits ++ rest).dropWhile Char.isDigit = rest := by
      have happ := List.takeWhile_append_dropWhile (p := Char.isDigit) (l := digits ++ rest)
      rw [hall] at happ
      exact List.append_cancel_left happ
    exact ⟨hall.symm ▸ hne, congrArg value hall, hleft⟩
  · rintro ⟨hne, rfl, rfl⟩
    refine ⟨cs.takeWhile Char.isDigit, List.takeWhile_append_dropWhile.symm, hne,
      fun c => List.mem_takeWhile_imp, fun c hc => ?_, rfl⟩
    have hdrop := List.head?_dropWhile_not Char.isDigit cs
    rw [Option.mem_def.mp hc] at hdrop
    simpa using hdrop

/-- The text is the integer `x` and then `rest`. -/
inductive StartsWithInt (space : Char → Bool) : List Char → ℤ → List Char → Prop
  | unsigned {cs n rest} : StartsWithDigits cs n rest → StartsWithInt space cs n rest
  | plus {cs n rest} : StartsWithDigits cs n rest → StartsWithInt space ('+' :: cs) n rest
  | minus {cs n rest} : StartsWithDigits cs n rest → StartsWithInt space ('-' :: cs) (-n) rest
  | blank {c cs x rest} : space c → StartsWithInt space cs x rest →
      StartsWithInt space (c :: cs) x rest

/-- The whole text is the integer `x`. -/
def IsInt (space : Char → Bool) (cs : List Char) (x : ℤ) : Prop := StartsWithInt space cs x []

theorem StartsWithDigits.head {c : Char} {cs rest : List Char} {n : ℕ}
    (h : StartsWithDigits (c :: cs) n rest) : c.isDigit := by
  by_contra hc
  exact (startsWithDigits_iff.mp h).1 (List.takeWhile_cons_of_neg hc)

theorem StartsWithDigits.unique {cs rest rest' : List Char} {n n' : ℕ}
    (h : StartsWithDigits cs n rest) (h' : StartsWithDigits cs n' rest') :
    n = n' ∧ rest = rest' := by
  obtain ⟨-, rfl, rfl⟩ := startsWithDigits_iff.mp h
  exact (startsWithDigits_iff.mp h').2

/-! ### Reading from the left -/

section

variable {space : Char → Bool} {cs rest : List Char} {x : ℤ}

theorem startsWithInt_minus (hspace : space '-' = false) :
    StartsWithInt space ('-' :: cs) x rest ↔ ∃ n : ℕ, StartsWithDigits cs n rest ∧ x = -n := by
  constructor
  · intro h
    cases h with
    | unsigned h => exact absurd h.head (by decide)
    | minus h => exact ⟨_, h, rfl⟩
    | blank h _ => exact absurd (hspace.symm.trans h) Bool.false_ne_true
  · rintro ⟨n, h, rfl⟩
    exact .minus h

theorem startsWithInt_plus (hspace : space '+' = false) :
    StartsWithInt space ('+' :: cs) x rest ↔ ∃ n : ℕ, StartsWithDigits cs n rest ∧ x = n := by
  constructor
  · intro h
    cases h with
    | unsigned h => exact absurd h.head (by decide)
    | plus h => exact ⟨_, h, rfl⟩
    | blank h _ => exact absurd (hspace.symm.trans h) Bool.false_ne_true
  · rintro ⟨n, h, rfl⟩
    exact .plus h

/-- With neither a blank nor a sign in front, the digits come first. -/
theorem startsWithInt_unsigned (hspace : ∀ c ∈ cs.head?, space c = false)
    (hplus : cs.head? ≠ some '+') (hminus : cs.head? ≠ some '-') :
    StartsWithInt space cs x rest ↔ ∃ n : ℕ, StartsWithDigits cs n rest ∧ x = n := by
  constructor
  · intro h
    cases h with
    | unsigned h => exact ⟨_, h, rfl⟩
    | plus _ => exact absurd rfl hplus
    | minus _ => exact absurd rfl hminus
    | blank h _ => exact absurd ((hspace _ rfl).symm.trans h) Bool.false_ne_true
  · rintro ⟨n, h, rfl⟩
    exact .unsigned h

/-- Blanks in front do not matter. -/
theorem startsWithInt_dropWhile (hdigit : ∀ c, c.isDigit → space c = false)
    (hplus : space '+' = false) (hminus : space '-' = false) :
    StartsWithInt space (cs.dropWhile space) x rest ↔ StartsWithInt space cs x rest := by
  induction cs with
  | nil => rfl
  | cons c cs ih =>
      by_cases hc : space c
      · rw [List.dropWhile_cons_of_pos hc, ih]
        refine ⟨.blank hc, fun h => ?_⟩
        cases h with
        | unsigned h => exact Bool.noConfusion (hc.symm.trans (hdigit c h.head))
        | plus _ => exact Bool.noConfusion (hc.symm.trans hplus)
        | minus _ => exact Bool.noConfusion (hc.symm.trans hminus)
        | blank _ h => exact h
      · rw [List.dropWhile_cons_of_neg hc]

/-- What stands in front of a text, once the blanks are off, decides how it is read; so a text
starts with one integer at most. -/
theorem StartsWithInt.unique (hdigit : ∀ c, c.isDigit → space c = false)
    (hplus : space '+' = false) (hminus : space '-' = false) {x' : ℤ} {rest' : List Char}
    (h : StartsWithInt space cs x rest) (h' : StartsWithInt space cs x' rest') :
    x = x' ∧ rest = rest' := by
  induction h with
  | unsigned h =>
      cases h' with
      | unsigned h' => exact (h.unique h').imp_left (congrArg Nat.cast)
      | plus _ => exact absurd h.head (by decide)
      | minus _ => exact absurd h.head (by decide)
      | blank hc _ => exact Bool.noConfusion (hc.symm.trans (hdigit _ h.head))
  | plus h =>
      obtain ⟨n', hdigits, rfl⟩ := (startsWithInt_plus hplus).mp h'
      exact (h.unique hdigits).imp_left (congrArg Nat.cast)
  | minus h =>
      obtain ⟨n', hdigits, rfl⟩ := (startsWithInt_minus hminus).mp h'
      exact (h.unique hdigits).imp_left (congrArg fun n : ℕ => -(n : ℤ))
  | @blank c cs x rest hc h ih =>
      have hdrop := (startsWithInt_dropWhile hdigit hplus hminus).mpr h'
      rw [List.dropWhile_cons_of_pos hc] at hdrop
      exact ih ((startsWithInt_dropWhile hdigit hplus hminus).mp hdrop)

end

end Numeral

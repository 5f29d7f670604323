import TensorrtBackend.Lib.Checked

/-!
# Accesses to vectors

A computation that may fail, with the entries of vectors that it reads and writes on the way,
whether it fails or not.  `Safe` says that every entry accessed is there; it is shown along the
computation, with what the steps before have returned (`safe_bind`).
-/

/-- Entry `index` of a vector of `size` entries. -/
structure Access where
  index : ℕ
  size : ℕ
  deriving DecidableEq

/-- The accesses made, and how it ends. -/
structure Accessing (ε α : Type) where
  accesses : List Access
  result : Except ε α

namespace Accessing

variable {ε α β : Type}

/-- A computation that accesses no vector. -/
def lift (m : Except ε α) : Accessing ε α := ⟨[], m⟩

/-- What follows a failure is not done. -/
def andThen (m : Accessing ε α) (f : α → Accessing ε β) : Accessing ε β :=
  match m.result with
  | .error e => ⟨m.accesses, .error e⟩
  | .ok a => ⟨m.accesses ++ (f a).accesses, (f a).result⟩

instance : Monad (Accessing ε) where
  pure a := lift (.ok a)
  bind := andThen

/-- `v[i]`; an entry that is not there is read as `default`. -/
def read (v : List α) (i : ℕ) (default : α) : Accessing ε α :=
  ⟨[⟨i, v.length⟩], .ok (v.getD i default)⟩

/-- `v[i] = a`. -/
def write (v : List α) (i : ℕ) (a : α) : Accessing ε (List α) := ⟨[⟨i, v.length⟩], .ok (v.set i a)⟩

/-- A loop that goes on until something is found. -/
def findSome (f : β → Accessing ε (Option α)) : List β → Accessing ε (Option α)
  | [] => pure none
  | b :: l => do
    match ← f b with
    | some a => pure (some a)
    | none => findSome f l

/-- A loop that transforms every element. -/
def map (f : β → Accessing ε α) : List β → Accessing ε (List α)
  | [] => pure []
  | b :: l => do
    let a ← f b
    let as ← map f l
    pure (a :: as)

/-! ### Results -/

@[simp] theorem result_pure (a : α) : (pure a : Accessing ε α).result = .ok a := rfl

@[simp] theorem result_lift (m : Except ε α) : (lift m).result = m := rfl

@[simp] theorem result_read (v : List α) (i : ℕ) (default : α) :
    (read v i default : Accessing ε α).result = .ok (v.getD i default) := rfl

@[simp] theorem result_write (v : List α) (i : ℕ) (a : α) :
    (write v i a : Accessing ε (List α)).result = .ok (v.set i a) := rfl

@[simp] theorem result_bind (m : Accessing ε α) (f : α → Accessing ε β) :
    (m >>= f).result = m.result >>= fun a => (f a).result := by
  show (andThen m f).result = _
  unfold andThen
  cases hm : m.result with
  | error e => rfl
  | ok a => rfl

@[simp] theorem result_ite {c : Prop} [Decidable c] (m m' : Accessing ε α) :
    (if c then m else m').result = if c then m.result else m'.result := apply_ite result c m m'

theorem result_findSome {f : β → Accessing ε (Option α)} {g : β → Option α}
    (h : ∀ b, (f b).result = .ok (g b)) (l : List β) :
    (findSome f l).result = .ok (l.findSome? g) := by
  induction l with
  | nil => rfl
  | cons b l ih =>
      rw [findSome, result_bind, h, List.findSome?_cons]
      cases g b with
      | none => exact ih
      | some a => rfl

theorem result_map {f : β → Accessing ε α} {g : β → Except ε α} (h : ∀ b, (f b).result = g b)
    (l : List β) : (map f l).result = l.mapM g := by
  induction l with
  | nil => rfl
  | cons b l ih =>
      rw [List.mapM_cons, map, result_bind, h]
      simp only [result_bind, result_pure, ih]
      rfl

/-! ### Safety -/

/-- Every entry accessed is there. -/
def Safe (m : Accessing ε α) : Prop := ∀ a ∈ m.accesses, a.index < a.size

theorem safe_lift (m : Except ε α) : Safe (lift m) := fun _ ha => absurd ha List.not_mem_nil

theorem safe_pure (a : α) : Safe (pure a : Accessing ε α) := safe_lift (.ok a)

theorem safe_read {v : List α} {i : ℕ} {default : α} :
    Safe (read v i default : Accessing ε α) ↔ i < v.length := by
  simp [Safe, read]

theorem safe_write {v : List α} {i : ℕ} {a : α} :
    Safe (write v i a : Accessing ε (List α)) ↔ i < v.length := by
  simp [Safe, write]

/-- The accesses of a step are safe, and so are those of the next one for what the first
returns. -/
theorem safe_bind {m : Accessing ε α} {f : α → Accessing ε β} :
    Safe (m >>= f) ↔ Safe m ∧ ∀ a, m.result = .ok a → Safe (f a) := by
  show Safe (andThen m f) ↔ _
  unfold andThen
  cases hm : m.result with
  | error e => exact ⟨fun h => ⟨h, fun a ha => nomatch ha⟩, And.left⟩
  | ok b =>
      simp only [Safe, List.forall_mem_append, Except.ok.injEq, forall_eq']

theorem safe_findSome {f : β → Accessing ε (Option α)} {l : List β} (h : ∀ b ∈ l, Safe (f b)) :
    Safe (findSome f l) := by
  induction l with
  | nil => exact safe_pure none
  | cons b l ih =>
      refine safe_bind.mpr ⟨h b List.mem_cons_self, fun found _ => ?_⟩
      cases found with
      | some a => exact safe_pure (some a)
      | none => exact ih fun c hc => h c (List.mem_cons_of_mem b hc)

theorem safe_map {f : β → Accessing ε α} {l : List β} (h : ∀ b ∈ l, Safe (f b)) :
    Safe (map f l) := by
  induction l with
  | nil => exact safe_pure []
  | cons b l ih =>
      refine safe_bind.mpr ⟨h b List.mem_cons_self, fun a _ => safe_bind.mpr ⟨?_, fun as _ => ?_⟩⟩
      · exact ih fun c hc => h c (List.mem_cons_of_mem b hc)
      · exact safe_pure (a :: as)

theorem safe_ite {c : Prop} [Decidable c] {m m' : Accessing ε α} (hthen : c → Safe m)
    (helse : ¬ c → Safe m') : Safe (if c then m else m') := by
  by_cases h : c
  · rw [if_pos h]
    exact hthen h
  · rw [if_neg h]
    exact helse h

end Accessing

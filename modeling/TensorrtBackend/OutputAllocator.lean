import Mathlib.Data.List.Induction
import TensorrtBackend.Lib.Ledger

/-!
# The output allocator

TensorRT asks the allocator for a larger output buffer whenever the one it has is too small.  With
zero copy the buffer comes from `cudaHostAlloc`; its device address is asked for, but by the address
of the member `output_ptr_` instead of its value, which CUDA refuses, and the pointer to the host
stays.  Every buffer is released by `cudaFree`.

* `reallocateOutput_bufferOk`: the buffer is live and large enough after every call.
* `ownershipKept_iff`: when every buffer is released once and by the function that matches.
-/

namespace TensorrtBackend

open Ledger

/-! ### CUDA -/

/-- How memory was allocated: by `cudaMalloc`, which `cudaFree` matches, or by `cudaHostAlloc`,
which `cudaFreeHost` matches. -/
inductive MemoryKind
  | device | host
  deriving DecidableEq

/-- The allocations made so far. -/
abbrev Cuda := List (Ledger.Entry MemoryKind)

/-- `cudaFree`; without a pointer nothing is done. -/
def cudaFree (cuda : Cuda) : Option ℕ → Cuda
  | none => cuda
  | some address => release cuda address .device

/-- `cudaMalloc` or `cudaHostAlloc`: the pointer it sets and the state behind it. -/
def cudaAllocate (cuda : Cuda) (kind : MemoryKind) (size : ℕ) (succeeds : Bool) : Option ℕ × Cuda :=
  if succeeds then
    let (address, cuda) := allocate cuda kind size
    (some address, cuda)
  else (none, cuda)

/-- A host address: that of an allocation, or that of the member `output_ptr_` itself. -/
inductive HostAddress
  | allocation (address : ℕ)
  | outputPtr

/-- What `cudaHostGetDevicePointer` sets for a host address, unless it fails. -/
abbrev HostGetDevicePointer := Cuda → HostAddress → Option ℕ

/-- The call fails for a host address that CUDA has neither allocated nor registered, which that of
a member is. -/
def RefusesForeign (cudaHostGetDevicePointer : HostGetDevicePointer) : Prop :=
  ∀ cuda, cudaHostGetDevicePointer cuda .outputPtr = none

/-- A device that sees the host memory allocated under the addresses of the host. -/
def mappedDevicePointer : HostGetDevicePointer
  | cuda, .allocation address =>
      match cuda[address]? with
      | some e => if e.kind = .host ∧ MemoryKind.host ∉ e.releases then some address else none
      | none => none
  | _, .outputPtr => none

theorem mappedDevicePointer_refuses : RefusesForeign mappedDevicePointer := fun _ => rfl

/-! ### The allocator -/

/-- `OutputAllocator` with the state of CUDA; the saved dims are left out. -/
structure OutputAllocator where
  outputPtr : Option ℕ := none
  outputSize : ℕ := 0
  zeroCopySupport : Bool
  cuda : Cuda := []

/-- One call of `reallocateOutput`: the bytes asked for, and whether an allocation succeeds. -/
structure ReallocateCall where
  size : ℕ
  allocates : Bool

section Allocator

variable (cudaHostGetDevicePointer : HostGetDevicePointer)

/-- `reallocateOutput`, which returns `output_ptr_`. -/
def OutputAllocator.reallocateOutput (o : OutputAllocator) (call : ReallocateCall) :
    OutputAllocator :=
  if o.outputSize < call.size then
    let cuda := cudaFree o.cuda o.outputPtr
    if o.zeroCopySupport then
      let (outputPtr, cuda) := cudaAllocate cuda .host call.size call.allocates
      let outputPtr :=
        match cudaHostGetDevicePointer cuda .outputPtr with
        | some deviceBuffer => some deviceBuffer
        | none => outputPtr
      { o with outputPtr, outputSize := if outputPtr.isSome then call.size else 0, cuda }
    else
      let (outputPtr, cuda) := cudaAllocate cuda .device call.size call.allocates
      { o with outputPtr, outputSize := if outputPtr.isSome then call.size else 0, cuda }
  else o

/-- `~OutputAllocator`. -/
def OutputAllocator.destroy (o : OutputAllocator) : OutputAllocator :=
  { o with cuda := cudaFree o.cuda o.outputPtr }

/-- A new allocator behind a sequence of calls. -/
def reallocated (zeroCopySupport : Bool) (calls : List ReallocateCall) : OutputAllocator :=
  calls.foldl (OutputAllocator.reallocateOutput cudaHostGetDevicePointer) { zeroCopySupport }

/-- The memory of the allocator. -/
def OutputAllocator.memory (o : OutputAllocator) : MemoryKind :=
  if o.zeroCopySupport then .host else .device

/-- Either there is no buffer, or it is a live allocation of `output_size_` bytes, at least as many
as were asked for. -/
def OutputAllocator.BufferOk (o : OutputAllocator) (requested : ℕ) : Prop :=
  o.outputPtr = none ∧ o.outputSize = 0 ∨
    ∃ address e, o.outputPtr = some address ∧ o.cuda[address]? = some e ∧ e.Live ∧
      e.size = o.outputSize ∧ requested ≤ o.outputSize

/-- What holds after every sequence of calls, and of the destruction behind them. -/
structure OwnershipKept (zeroCopySupport : Bool) (calls : List ReallocateCall) : Prop where
  buffer : ∀ before call after, calls = before ++ call :: after →
    (reallocated cudaHostGetDevicePointer zeroCopySupport (before ++ [call])).BufferOk call.size
  released : ∀ e ∈ (reallocated cudaHostGetDevicePointer zeroCopySupport calls).destroy.cuda,
    e.Settled

end Allocator

/-! ### One call -/

section Runs

variable {cudaHostGetDevicePointer : HostGetDevicePointer}

/-- **What a call can do**: it keeps the buffer when that is large enough, and otherwise replaces
it. -/
theorem reallocateOutput_cases (hforeign : RefusesForeign cudaHostGetDevicePointer)
    (o : OutputAllocator) (call : ReallocateCall) :
    call.size ≤ o.outputSize ∧ o.reallocateOutput cudaHostGetDevicePointer call = o ∨
      o.outputSize < call.size ∧ call.allocates = false ∧
        o.reallocateOutput cudaHostGetDevicePointer call =
          { o with outputPtr := none, outputSize := 0, cuda := cudaFree o.cuda o.outputPtr } ∨
      o.outputSize < call.size ∧ call.allocates = true ∧
        o.reallocateOutput cudaHostGetDevicePointer call = { o with
          outputPtr := some (allocate (cudaFree o.cuda o.outputPtr) o.memory call.size).1
          outputSize := call.size
          cuda := (allocate (cudaFree o.cuda o.outputPtr) o.memory call.size).2 } := by
  unfold OutputAllocator.reallocateOutput
  by_cases hsize : o.outputSize < call.size
  · simp only [if_pos hsize, hforeign _, cudaAllocate, OutputAllocator.memory]
    cases hallocates : call.allocates with
    | false => cases o.zeroCopySupport <;> exact Or.inr (Or.inl ⟨hsize, rfl, rfl⟩)
    | true => cases o.zeroCopySupport <;> exact Or.inr (Or.inr ⟨hsize, rfl, rfl⟩)
  · rw [if_neg hsize]
    exact Or.inl ⟨Nat.not_lt.mp hsize, rfl⟩

variable {zeroCopySupport : Bool} {calls : List ReallocateCall}

theorem reallocated_concat (call : ReallocateCall) :
    reallocated cudaHostGetDevicePointer zeroCopySupport (calls ++ [call]) =
      (reallocated cudaHostGetDevicePointer zeroCopySupport calls).reallocateOutput
        cudaHostGetDevicePointer call := by
  rw [reallocated, List.foldl_concat, ← reallocated]

/-- **The run lemma**: what holds of a new allocator and is kept by the calls of a run holds behind
it. -/
theorem reallocated_invariant {P : OutputAllocator → Prop} (hstart : P { zeroCopySupport })
    (hstep : ∀ o, ∀ call ∈ calls, P o → P (o.reallocateOutput cudaHostGetDevicePointer call)) :
    P (reallocated cudaHostGetDevicePointer zeroCopySupport calls) := by
  induction calls using List.reverseRecOn with
  | nil => exact hstart
  | append_singleton calls call ih =>
      rw [reallocated_concat]
      exact hstep _ call (List.mem_append_right _ List.mem_cons_self)
        (ih fun o call hcall => hstep o call (List.mem_append_left _ hcall))

theorem reallocateOutput_zeroCopySupport (hforeign : RefusesForeign cudaHostGetDevicePointer)
    (o : OutputAllocator) (call : ReallocateCall) :
    (o.reallocateOutput cudaHostGetDevicePointer call).zeroCopySupport = o.zeroCopySupport := by
  rcases reallocateOutput_cases hforeign o call with ⟨-, h⟩ | ⟨-, -, h⟩ | ⟨-, -, h⟩
  · rw [h]
  · rw [h]
  · rw [h]

/-! ### The buffer -/

/-- **The step lemma of the buffer**: after a call it is live and has room for what was asked. -/
theorem reallocateOutput_bufferOk (hforeign : RefusesForeign cudaHostGetDevicePointer)
    {o : OutputAllocator} (call : ReallocateCall)
    (ho : o.BufferOk 0) : (o.reallocateOutput cudaHostGetDevicePointer call).BufferOk call.size := by
  rcases reallocateOutput_cases hforeign o call with ⟨hsize, h⟩ | ⟨-, -, h⟩ | ⟨-, -, h⟩
  · rw [h]
    rcases ho with hnone | ⟨address, e, hptr, he, hlive, hbytes, -⟩
    · exact Or.inl hnone
    · exact Or.inr ⟨address, e, hptr, he, hlive, hbytes, hsize⟩
  · rw [h]
    exact Or.inl ⟨rfl, rfl⟩
  · rw [h]
    exact Or.inr ⟨_, _, rfl, getElem?_allocate, List.not_mem_nil, rfl, Nat.le_refl _⟩

/-- Whatever the calls are, and with zero copy as well. -/
theorem reallocated_bufferOk (hforeign : RefusesForeign cudaHostGetDevicePointer) :
    (reallocated cudaHostGetDevicePointer zeroCopySupport calls).BufferOk 0 := by
  refine reallocated_invariant (P := fun o => o.BufferOk 0) (Or.inl ⟨rfl, rfl⟩)
    fun o call _ ho => ?_
  rcases reallocateOutput_bufferOk hforeign call ho with
    hnone | ⟨address, e, hptr, he, hlive, hbytes, -⟩
  · exact Or.inl hnone
  · exact Or.inr ⟨address, e, hptr, he, hlive, hbytes, Nat.zero_le _⟩

/-! ### The releases -/

/-- `cudaFree` is the function that matches every allocation, and `output_ptr_` is the only one that
has not been released. -/
structure FreesAll (o : OutputAllocator) : Prop where
  owned : Owned o.cuda o.outputPtr
  device : ∀ e ∈ o.cuda, e.kind = .device

theorem FreesAll.free {o : OutputAllocator} (ho : FreesAll o) :
    Owned (cudaFree o.cuda o.outputPtr) none ∧
      ∀ e ∈ cudaFree o.cuda o.outputPtr, e.kind = .device := by
  obtain ⟨howned, hdevice⟩ := ho
  cases hptr : o.outputPtr with
  | none =>
      rw [hptr] at howned
      exact ⟨howned, hdevice⟩
  | some address =>
      rw [hptr] at howned
      refine ⟨howned.release fun e he => hdevice e (List.mem_of_getElem? he), fun e he => ?_⟩
      obtain ⟨e₀, he₀, hkind, -⟩ := mem_release he
      rw [hkind]
      exact hdevice e₀ he₀

/-- **The step lemma of the releases**: a call keeps the ownership unless it obtains host memory. -/
theorem reallocateOutput_freesAll (hforeign : RefusesForeign cudaHostGetDevicePointer)
    {o : OutputAllocator} {call : ReallocateCall}
    (hcall : o.zeroCopySupport = false ∨ call.size = 0 ∨ call.allocates = false)
    (ho : FreesAll o) : FreesAll (o.reallocateOutput cudaHostGetDevicePointer call) := by
  obtain ⟨hfreed, hdevice⟩ := ho.free
  rcases reallocateOutput_cases hforeign o call with ⟨-, h⟩ | ⟨-, -, h⟩ | ⟨hsize, hallocates, h⟩
  · rw [h]
    exact ho
  · rw [h]
    exact ⟨hfreed, hdevice⟩
  · have hcopy : o.zeroCopySupport = false := by
      rcases hcall with hcopy | hzero | hfails
      · exact hcopy
      · omega
      · rw [hallocates] at hfails
        exact Bool.noConfusion hfails
    rw [h, OutputAllocator.memory, hcopy]
    refine ⟨hfreed.allocate, fun e he => ?_⟩
    rcases mem_allocate he with hold | rfl
    · exact hdevice e hold
    · rfl

/-- With zero copy: the memory is host memory and only `cudaFree` is called on it. -/
structure FreesWrongly (o : OutputAllocator) : Prop where
  zeroCopy : o.zeroCopySupport = true
  host : ∀ e ∈ o.cuda, e.kind = .host ∧ ∀ r ∈ e.releases, r = .device
  size : 0 < o.outputSize → o.cuda ≠ []

theorem cudaFree_host {cuda : Cuda} (h : ∀ e ∈ cuda, e.kind = .host ∧ ∀ r ∈ e.releases, r = .device)
    (ptr : Option ℕ) : ∀ e ∈ cudaFree cuda ptr, e.kind = .host ∧ ∀ r ∈ e.releases, r = .device := by
  cases ptr with
  | none => exact h
  | some address =>
      intro e he
      obtain ⟨e₀, he₀, hkind, hreleases⟩ := mem_release he
      obtain ⟨hhost, hold⟩ := h e₀ he₀
      refine ⟨hkind.trans hhost, fun r hr => ?_⟩
      rcases hreleases r hr with hr | hr
      · exact hold r hr
      · exact hr

theorem cudaFree_ne_nil {cuda : Cuda} (h : cuda ≠ []) (ptr : Option ℕ) : cudaFree cuda ptr ≠ [] := by
  cases ptr with
  | none => exact h
  | some address =>
      intro hnil
      have hlen := congrArg List.length hnil
      rw [cudaFree, release, List.length_modify] at hlen
      exact h (List.length_eq_zero_iff.mp hlen)

theorem reallocateOutput_freesWrongly (hforeign : RefusesForeign cudaHostGetDevicePointer)
    {o : OutputAllocator} (call : ReallocateCall)
    (ho : FreesWrongly o) : FreesWrongly (o.reallocateOutput cudaHostGetDevicePointer call) := by
  obtain ⟨hcopy, hhost, hsize⟩ := ho
  rcases reallocateOutput_cases hforeign o call with ⟨-, h⟩ | ⟨-, -, h⟩ | ⟨-, -, h⟩
  · rw [h]
    exact ⟨hcopy, hhost, hsize⟩
  · rw [h]
    exact ⟨hcopy, cudaFree_host hhost _, fun hpos => absurd hpos (Nat.lt_irrefl 0)⟩
  · rw [h, OutputAllocator.memory, hcopy]
    refine ⟨rfl, fun e he => ?_,
      fun _ => List.append_ne_nil_of_right_ne_nil _ (List.cons_ne_nil _ _)⟩
    rcases mem_allocate he with hold | rfl
    · exact cudaFree_host hhost _ e hold
    · exact ⟨rfl, nofun⟩

/-- Once there has been an allocation there is one in the ledger. -/
theorem reallocateOutput_ne_nil (hforeign : RefusesForeign cudaHostGetDevicePointer)
    {o : OutputAllocator} {call : ReallocateCall} (ho : FreesWrongly o)
    (h : o.cuda ≠ [] ∨ call.size ≠ 0 ∧ call.allocates = true) :
    (o.reallocateOutput cudaHostGetDevicePointer call).cuda ≠ [] := by
  rcases reallocateOutput_cases hforeign o call with
    ⟨hkept, hsame⟩ | ⟨-, hfails, hsame⟩ | ⟨-, -, hsame⟩
  · rw [hsame]
    rcases h with hne | ⟨hpos, -⟩
    · exact hne
    · exact ho.size (by omega)
  · rw [hsame]
    rcases h with hne | ⟨-, hallocates⟩
    · exact cudaFree_ne_nil hne _
    · rw [hfails] at hallocates
      exact Bool.noConfusion hallocates
  · rw [hsame]
    exact List.append_ne_nil_of_right_ne_nil _ (List.cons_ne_nil _ _)

theorem reallocated_freesWrongly (hforeign : RefusesForeign cudaHostGetDevicePointer) :
    FreesWrongly (reallocated cudaHostGetDevicePointer true calls) :=
  reallocated_invariant ⟨rfl, nofun, fun h => absurd h (Nat.lt_irrefl 0)⟩ fun _ call _ ho =>
    reallocateOutput_freesWrongly hforeign call ho

theorem reallocated_ne_nil (hforeign : RefusesForeign cudaHostGetDevicePointer)
    {call : ReallocateCall} (hcall : call ∈ calls) (hsize : call.size ≠ 0)
    (hallocates : call.allocates = true) :
    (reallocated cudaHostGetDevicePointer true calls).cuda ≠ [] := by
  induction calls using List.reverseRecOn with
  | nil => exact absurd hcall List.not_mem_nil
  | append_singleton calls last ih =>
      rw [reallocated_concat]
      refine reallocateOutput_ne_nil hforeign (reallocated_freesWrongly hforeign) ?_
      rcases List.mem_append.mp hcall with hold | hlast
      · exact Or.inl (ih hold)
      · rw [← List.mem_singleton.mp hlast]
        exact Or.inr ⟨hsize, hallocates⟩

/-- **Ownership.**  The buffer is always live and large enough; the memory is released once and by
the matching function exactly when no buffer of the run comes from `cudaHostAlloc`. -/
theorem ownershipKept_iff (hforeign : RefusesForeign cudaHostGetDevicePointer)
    (zeroCopySupport : Bool) (calls : List ReallocateCall) :
    OwnershipKept cudaHostGetDevicePointer zeroCopySupport calls ↔
      zeroCopySupport = false ∨ ∀ call ∈ calls, call.size = 0 ∨ call.allocates = false := by
  constructor
  · intro h
    by_contra hnot
    simp only [not_or, Bool.not_eq_false, not_forall] at hnot
    obtain ⟨rfl, call, hcall, hsize, hallocates⟩ := hnot
    have hwrong : FreesWrongly (reallocated cudaHostGetDevicePointer true calls) :=
      reallocated_freesWrongly hforeign
    have hne := cudaFree_ne_nil (reallocated_ne_nil hforeign hcall hsize hallocates)
      (reallocated cudaHostGetDevicePointer true calls).outputPtr
    obtain ⟨e, he⟩ := List.exists_mem_of_ne_nil _ hne
    obtain ⟨hkind, hreleases⟩ := cudaFree_host hwrong.host _ e he
    have hsettled := h.released e he
    rw [Entry.Settled, hkind] at hsettled
    exact MemoryKind.noConfusion (hreleases .host (hsettled ▸ List.mem_cons_self))
  · intro h
    constructor
    · intro before call after _
      rw [reallocated_concat]
      exact reallocateOutput_bufferOk hforeign call (reallocated_bufferOk hforeign)
    · have hfrees : FreesAll (reallocated cudaHostGetDevicePointer zeroCopySupport calls) ∧
          (reallocated cudaHostGetDevicePointer zeroCopySupport calls).zeroCopySupport =
            zeroCopySupport := by
        refine reallocated_invariant
          (P := fun o => FreesAll o ∧ o.zeroCopySupport = zeroCopySupport)
          ⟨⟨Owned.nil, fun _ he => absurd he List.not_mem_nil⟩, rfl⟩ fun o call hcall ho => ?_
        refine ⟨reallocateOutput_freesAll hforeign ?_ ho.1,
          (reallocateOutput_zeroCopySupport hforeign o call).trans ho.2⟩
        rw [ho.2]
        exact h.imp_right fun hall => hall call hcall
      intro e he
      exact hfrees.1.free.1.settled he

/-- The theorem without zero copy, for a buffer that grows. -/
theorem ownershipKept_device : OwnershipKept mappedDevicePointer false
    [{ size := 16, allocates := true }, { size := 32, allocates := true }] :=
  (ownershipKept_iff mappedDevicePointer_refuses false _).mpr (Or.inl rfl)

/-- One output of 16 bytes with zero copy. -/
theorem ownership_not_kept :
    ¬ OwnershipKept mappedDevicePointer true [{ size := 16, allocates := true }] := by
  intro h
  have hsettled := h.released { kind := .host, size := 16, releases := [.device] } List.mem_cons_self
  rw [Entry.Settled] at hsettled
  exact absurd hsettled (by decide)

end Runs

end TensorrtBackend

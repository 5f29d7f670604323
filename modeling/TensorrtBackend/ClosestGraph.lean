import TensorrtBackend.GraphKey
import TensorrtBackend.Lib.Related

/-!
# Which graph a lookup returns

`FindClosestCudaGraph` starts at the first stored key that is not below the queried one, in the
lexicographic order of the map, and takes the first graph whose range the queried key lies in.  The
range is a box: position by position the key is at least the lower bound key of the graph and at
most its key.  A key in the box of a graph is not above the graph's key in the lexicographic order
either, so the search starts early enough, and the first graph it meets has the least key.
-/

namespace TensorrtBackend

/-- The key lies in the range of a stored graph. -/
def InRange (cudaGraphKey : List ℤ) (entry : List ℤ × CudaGraph) : Prop :=
  ∀ i < cudaGraphKey.length, entry.2.lowerBoundKey.getD i 0 ≤ cudaGraphKey.getD i 0 ∧
    cudaGraphKey.getD i 0 ≤ entry.1.getD i 0

/-- What a lookup among the stored graphs should return: the graph with the key itself, or else, if
that is allowed, the graph of least key whose range the key lies in. -/
structure ClosestAmong (entries : List (List ℤ × CudaGraph)) (allowInexactMatch : Bool)
    (cudaGraphKey : List ℤ) (result : Option CudaGraph × Bool) : Prop where
  exact_match : ∀ graph, (cudaGraphKey, graph) ∈ entries → result = (some graph, true)
  not_exact : (∀ graph, (cudaGraphKey, graph) ∉ entries) → result.2 = false
  not_allowed : (∀ graph, (cudaGraphKey, graph) ∉ entries) → allowInexactMatch = false →
    result.1 = none
  inexact_iff : (∀ graph, (cudaGraphKey, graph) ∉ entries) → allowInexactMatch = true →
    (result.1.isSome ↔ ∃ entry ∈ entries, InRange cudaGraphKey entry)
  least : (∀ graph, (cudaGraphKey, graph) ∉ entries) → allowInexactMatch = true →
    ∀ graph, result.1 = some graph → ∃ graphKey, (graphKey, graph) ∈ entries ∧
      InRange cudaGraphKey (graphKey, graph) ∧
        ∀ entry ∈ entries, InRange cudaGraphKey entry → graphKey ≤ entry.1

theorem coversKey_iff {cudaGraphKey : List ℤ} {entry : List ℤ × CudaGraph} :
    coversKey cudaGraphKey entry = true ↔ InRange cudaGraphKey entry := by
  simp only [coversKey, List.all_eq_true, List.mem_range, Bool.and_eq_true, decide_eq_true_eq,
    InRange, and_comm]

/-- A key in the range of a graph is not above its key. -/
theorem InRange.key_le {cudaGraphKey : List ℤ} {entry : List ℤ × CudaGraph}
    (hlen : entry.1.length = cudaGraphKey.length) (h : InRange cudaGraphKey entry) :
    cudaGraphKey ≤ entry.1 := by
  apply SortedMap.le_of_forall₂_le
  exact (Related.iff_getD 0 0).mpr ⟨hlen.symm, fun i hi => (h i hi).2⟩

section Search

variable {trtContext : TensorRTContext} {nextSet : ℕ} {cudaGraphKey : List ℤ}
  {allowInexactMatch : Bool}

/-- The search meets every graph whose range the key lies in, the one of least key first. -/
theorem find?_lowerBound_coversKey {graphs : CudaGraphMap} {entry : List ℤ × CudaGraph}
    (hlen : ∀ e ∈ graphs.entries, e.1.length = cudaGraphKey.length) :
    (graphs.lowerBound cudaGraphKey).find? (coversKey cudaGraphKey) = some entry ↔
      entry ∈ graphs.entries ∧ InRange cudaGraphKey entry ∧
        ∀ e ∈ graphs.entries, InRange cudaGraphKey e → entry.1 ≤ e.1 := by
  have hmem : ∀ e, e ∈ graphs.entries → InRange cudaGraphKey e →
      e ∈ graphs.lowerBound cudaGraphKey := fun e he hrange =>
    SortedMap.mem_lowerBound.mpr ⟨he, hrange.key_le (hlen e he)⟩
  rw [SortedMap.find?_eq_some_iff_least (graphs.pairwise_lowerBound cudaGraphKey), coversKey_iff]
  constructor
  · rintro ⟨hentry, hrange, hleast⟩
    refine ⟨SortedMap.lowerBound_subset hentry, hrange, fun e he hcovers => ?_⟩
    exact hleast e (hmem e he hcovers) (coversKey_iff.mpr hcovers)
  · rintro ⟨hentry, hrange, hleast⟩
    refine ⟨hmem entry hentry hrange, hrange, fun e he hcovers => ?_⟩
    exact hleast e (SortedMap.lowerBound_subset he) (coversKey_iff.mp hcovers)

/-- It meets some graph exactly when there is one. -/
theorem find?_lowerBound_isSome {graphs : CudaGraphMap}
    (hlen : ∀ e ∈ graphs.entries, e.1.length = cudaGraphKey.length) :
    ((graphs.lowerBound cudaGraphKey).find? (coversKey cudaGraphKey)).isSome ↔
      ∃ entry ∈ graphs.entries, InRange cudaGraphKey entry := by
  rw [List.find?_isSome]
  constructor
  · rintro ⟨entry, hentry, hcovers⟩
    exact ⟨entry, SortedMap.lowerBound_subset hentry, coversKey_iff.mp hcovers⟩
  · rintro ⟨entry, hentry, hrange⟩
    exact ⟨entry, SortedMap.mem_lowerBound.mpr ⟨hentry, hrange.key_le (hlen entry hentry)⟩,
      coversKey_iff.mpr hrange⟩

/-- **The lookup** returns the closest graph when all keys have the length of the queried one. -/
theorem findClosestCudaGraph_closest
    (hlen : ∀ entry ∈ graphEntries trtContext.cudaGraphExecs nextSet,
      entry.1.length = cudaGraphKey.length ∧
        entry.2.lowerBoundKey.length = cudaGraphKey.length) :
    ClosestAmong (graphEntries trtContext.cudaGraphExecs nextSet) allowInexactMatch cudaGraphKey
      (findClosestCudaGraph allowInexactMatch nextSet trtContext cudaGraphKey) := by
  have hkeys : ∀ e ∈ graphEntries trtContext.cudaGraphExecs nextSet,
      e.1.length = cudaGraphKey.length := fun e he => (hlen e he).1
  constructor
  · intro graph hgraph
    exact findClosestCudaGraph_of_mem hgraph
  · intro hnone
    rw [findClosestCudaGraph_of_not_mem hnone]
  · intro hnone hallow
    rw [findClosestCudaGraph_of_not_mem hnone, hallow]
    rfl
  · intro hnone hallow
    rw [findClosestCudaGraph_of_not_mem hnone, hallow, if_pos rfl, Option.isSome_map]
    exact find?_lowerBound_isSome hkeys
  · intro hnone hallow graph hgraph
    rw [findClosestCudaGraph_of_not_mem hnone, hallow, if_pos rfl] at hgraph
    obtain ⟨entry, hfind, rfl⟩ := Option.map_eq_some_iff.mp hgraph
    obtain ⟨hentry, hrange, hleast⟩ := (find?_lowerBound_coversKey hkeys).mp hfind
    exact ⟨entry.1, hentry, hrange, hleast⟩

end Search

/-! ### Graphs of two shapes -/

/-- A graph for up to eight rows of sixteen columns, captured behind one for up to four of twelve;
both are for at least two rows of four. -/
def rangedGraphs : CudaGraphMap :=
  (SortedMap.empty.insert [8, 16] { lowerBoundKey := [2, 4], inputDims := [[8, 16]] }).insert [4, 12]
    { lowerBoundKey := [2, 4], inputDims := [[4, 12]] }

/-- A context with these graphs for the first event set. -/
def rangedContext : TensorRTContext where
  cudaGraphExecs := [rangedGraphs, SortedMap.empty, SortedMap.empty]
  cudaGraphExecs_length := rfl

/-- The theorem for three rows of fourteen columns, which only the larger graph covers although the
smaller one has four rows. -/
theorem findClosestCudaGraph_closest_ranged :
    findClosestCudaGraph true 0 rangedContext [3, 14] =
        (some { lowerBoundKey := [2, 4], inputDims := [[8, 16]] }, false) ∧
      ClosestAmong (graphEntries rangedContext.cudaGraphExecs 0) true [3, 14]
        (findClosestCudaGraph true 0 rangedContext [3, 14]) := by
  refine ⟨rfl, findClosestCudaGraph_closest ?_⟩
  decide

end TensorrtBackend

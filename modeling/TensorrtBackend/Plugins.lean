import TensorrtBackend.Basic
import TensorrtBackend.Lib.Loop

/-!
# Loading the plugins

`TRITONBACKEND_Initialize` takes the paths of the plugins off the front of an option until nothing
is left of it.  `find` returns `npos` for the last path, which `substr` and `erase` take for "to the
end".

* `pluginLoop_opened`: the loop ends, and the paths it has passed to `OpenLibraryHandle`.
-/

namespace TensorrtBackend

open Loop

/-! ### `std::string` -/

/-- `std::string::npos`. -/
def npos : ℕ := 2 ^ 64 - 1

/-- `std::string`, which `npos` is no position of. -/
structure StdString where
  chars : List Char
  length_lt : chars.length < npos

namespace StdString

/-- `find`, from the front. -/
def find (s : StdString) (c : Char) : ℕ := if c ∈ s.chars then s.chars.idxOf c else npos

/-- `substr(0, count)`. -/
def substr (s : StdString) (count : ℕ) : StdString where
  chars := s.chars.take count
  length_lt := (List.length_take_le' count s.chars).trans_lt s.length_lt

/-- `erase(0, count)`. -/
def erase (s : StdString) (count : ℕ) : StdString where
  chars := s.chars.drop count
  length_lt := by
    rw [List.length_drop]
    exact (Nat.sub_le _ count).trans_lt s.length_lt

end StdString

/-! ### The loop -/

/-- The remaining option, the paths passed to `OpenLibraryHandle` and the errors logged. -/
structure PluginState where
  valueStr : StdString
  opened : List (List Char) := []
  logged : List Error := []

/-- `value_str.length() > 0`. -/
def PluginState.remains (s : PluginState) : Bool := decide (0 < s.valueStr.chars.length)

/-- One iteration; `openLibraryHandle` gives the error of the n-th call, if any. -/
def loadPlugin (openLibraryHandle : ℕ → List Char → Option Error) (s : PluginState) :
    PluginState :=
  let pos := s.valueStr.find ';'
  let plugin := (s.valueStr.substr pos).chars
  let err := openLibraryHandle s.opened.length plugin
  { valueStr := s.valueStr.erase (if pos ≠ npos then pos + 1 else pos)
    opened := s.opened ++ [plugin]
    logged := s.logged ++ err.toList }

/-! ### The paths -/

/-- The segments between the separators, without the last one when the option is empty or ends with
a separator. -/
def pluginPaths (value : List Char) : List (List Char) :=
  if value = [] ∨ value.getLast? = some ';' then (value.splitOn ';').dropLast
  else value.splitOn ';'

theorem pluginPaths_nil : pluginPaths [] = [] := by
  rw [pluginPaths, if_pos (Or.inl rfl), List.splitOn_nil]
  rfl

/-- The last path. -/
theorem pluginPaths_last {path : List Char} (hne : path ≠ []) (hpath : ';' ∉ path) :
    pluginPaths path = [path] := by
  have hlast : path.getLast? ≠ some ';' := fun h => hpath (List.mem_of_getLast? h)
  rw [pluginPaths, if_neg (not_or.mpr ⟨hne, hlast⟩), List.splitOn_eq_singleton hpath]

/-- A path with a separator behind it. -/
theorem pluginPaths_cons {path rest : List Char} (hpath : ';' ∉ path) :
    pluginPaths (path ++ ';' :: rest) = path :: pluginPaths rest := by
  have hsplit : (path ++ ';' :: rest).splitOn ';' = path :: rest.splitOn ';' :=
    List.splitOn_append_cons_self_of_not_mem hpath rest
  have hlast : (path ++ ';' :: rest = [] ∨ (path ++ ';' :: rest).getLast? = some ';') ↔
      rest = [] ∨ rest.getLast? = some ';' := by
    rw [List.getLast?_append]
    cases rest with
    | nil => simp
    | cons c rest => simp [List.getLast?_cons_cons]
  unfold pluginPaths
  rw [hsplit, List.dropLast_cons_of_ne_nil (List.splitOn_ne_nil ';' rest)]
  by_cases hdrop : rest = [] ∨ rest.getLast? = some ';'
  · rw [if_pos (hlast.mpr hdrop), if_pos hdrop]
  · rw [if_neg (mt hlast.mp hdrop), if_neg hdrop]

/-! ### The run -/

/-- What an iteration does: it takes the first path, with the separator behind it if there is one.
-/
theorem loadPlugin_cases (openLibraryHandle : ℕ → List Char → Option Error) {s : PluginState}
    (hremains : s.remains = true) :
    ∃ path rest, pluginPaths s.valueStr.chars = path :: pluginPaths rest ∧
      rest.length < s.valueStr.chars.length ∧
      (loadPlugin openLibraryHandle s).valueStr.chars = rest ∧
      (loadPlugin openLibraryHandle s).opened = s.opened ++ [path] ∧
      (loadPlugin openLibraryHandle s).logged =
        s.logged ++ (openLibraryHandle s.opened.length path).toList := by
  have hpos : 0 < s.valueStr.chars.length := of_decide_eq_true hremains
  by_cases hsep : ';' ∈ s.valueStr.chars
  · obtain ⟨path, rest, hchars, hpath⟩ := List.eq_append_cons_of_mem hsep
    have hfind : s.valueStr.find ';' = path.length := by
      rw [StdString.find, if_pos hsep, hchars, List.idxOf_append_of_notMem hpath,
        List.idxOf_cons_self, Nat.add_zero]
    have hlength : s.valueStr.chars.length = path.length + (rest.length + 1) := by
      rw [hchars, List.length_append, List.length_cons]
    have hne : path.length ≠ npos := by
      have hlt := s.valueStr.length_lt
      omega
    have hplugin : (s.valueStr.substr path.length).chars = path := by
      show s.valueStr.chars.take path.length = path
      rw [hchars, List.take_left]
    refine ⟨path, rest, by rw [hchars, pluginPaths_cons hpath], by omega, ?_, ?_, ?_⟩
    · show s.valueStr.chars.drop _ = rest
      rw [hfind, if_pos hne, hchars, ← List.drop_drop, List.drop_left]
      rfl
    · show s.opened ++ [(s.valueStr.substr _).chars] = _
      rw [hfind, hplugin]
    · show s.logged ++ (openLibraryHandle _ (s.valueStr.substr _).chars).toList = _
      rw [hfind, hplugin]
  · have hfind : s.valueStr.find ';' = npos := by rw [StdString.find, if_neg hsep]
    have hle := s.valueStr.length_lt.le
    have hplugin : (s.valueStr.substr npos).chars = s.valueStr.chars := List.take_of_length_le hle
    have hne := List.length_pos_iff.mp hpos
    refine ⟨s.valueStr.chars, [], ?_, hpos, ?_, ?_, ?_⟩
    · rw [pluginPaths_last hne hsep, pluginPaths_nil]
    · show s.valueStr.chars.drop _ = []
      rw [hfind, if_neg (not_not.mpr rfl), List.drop_eq_nil_of_le hle]
    · show s.opened ++ [(s.valueStr.substr _).chars] = _
      rw [hfind, hplugin]
    · show s.logged ++ (openLibraryHandle _ (s.valueStr.substr _).chars).toList = _
      rw [hfind, hplugin]

/-- The paths opened and those still to come are the paths of the option; the errors logged are
those of the calls made. -/
structure PluginState.Progress (openLibraryHandle : ℕ → List Char → Option Error)
    (value : List Char) (s : PluginState) : Prop where
  opened : s.opened ++ pluginPaths s.valueStr.chars = pluginPaths value
  logged : s.logged = s.opened.zipIdx.flatMap fun x => (openLibraryHandle x.2 x.1).toList

theorem PluginState.Progress.loadPlugin {openLibraryHandle : ℕ → List Char → Option Error}
    {value : List Char} {s : PluginState} (hs : s.Progress openLibraryHandle value)
    (hremains : s.remains = true) :
    (loadPlugin openLibraryHandle s).Progress openLibraryHandle value ∧
      (loadPlugin openLibraryHandle s).valueStr.chars.length < s.valueStr.chars.length := by
  obtain ⟨path, rest, hpaths, hlt, hrest, hopened, hlogged⟩ :=
    loadPlugin_cases openLibraryHandle hremains
  refine ⟨⟨?_, ?_⟩, by rw [hrest]; exact hlt⟩
  · rw [hopened, hrest, List.append_assoc, List.singleton_append, ← hpaths]
    exact hs.opened
  · rw [hopened, hlogged, hs.logged, List.zipIdx_append, List.flatMap_append]
    simp

/-- **The plugin loop** ends, whatever comes of opening the libraries, and it has passed the paths
of the option to `OpenLibraryHandle`, in order. -/
theorem pluginLoop_opened (openLibraryHandle : ℕ → List Char → Option Error) (value : StdString) :
    ∃ t, (∀ t', Ends PluginState.remains (loadPlugin openLibraryHandle) { valueStr := value } t' ↔
        t' = t) ∧
      t.opened = pluginPaths value.chars ∧
      t.logged = t.opened.zipIdx.flatMap fun x => (openLibraryHandle x.2 x.1).toList := by
  have hstart : ({ valueStr := value } : PluginState).Progress openLibraryHandle value.chars :=
    ⟨List.nil_append _, rfl⟩
  obtain ⟨t, ht, hprogress, hend⟩ := Ends.of_measure
    (fun s : PluginState => s.valueStr.chars.length)
    (fun s hremains hs => PluginState.Progress.loadPlugin hs hremains) hstart
  have hempty : t.valueStr.chars = [] := by
    have hnone : ¬ 0 < t.valueStr.chars.length := of_decide_eq_false hend
    exact List.length_eq_zero_iff.mp (Nat.eq_zero_of_not_pos hnone)
  refine ⟨t, fun t' => ⟨fun h => h.unique ht, fun h => h ▸ ht⟩, ?_, hprogress.logged⟩
  have hopened := hprogress.opened
  rwa [hempty, pluginPaths_nil, List.append_nil] at hopened

example : pluginPaths ";a;;b;".toList = ["".toList, "a".toList, "".toList, "b".toList] := by decide

end TensorrtBackend

import Mathlib.Data.List.Permutation
import Overseer.File.Path
import Overseer.File.Search

/-!
# Search paths

A search path is read one component after the other, and a program is the first match in the
directories that the components stand for.

An empty component stands for the current directory.  Only behind the last colon none is read, so
that a search path which ends in a colon does not end in the current directory.
-/

namespace Overseer.File

/-! ## Components -/

/-- Whether reading a search path up to each colon, and then to the end, gives these components.
Once nothing is left none is given. -/
inductive ReadsAs : Bytes → List Bytes → Prop
  /-- Nothing is left. -/
  | nil : ReadsAs [] []
  /-- There is no other colon. -/
  | last {component : Bytes} (nonempty : component ≠ []) (whole : Byte.colon ∉ component) :
      ReadsAs component [component]
  /-- A component goes up to the next colon. -/
  | cons {component rest : Bytes} {later : List Bytes} (whole : Byte.colon ∉ component)
      (reads : ReadsAs rest later) :
      ReadsAs (component ++ Byte.colon :: rest) (component :: later)

section

variable {component rest text : Bytes}

theorem components_of_notMem (nonempty : component ≠ []) (whole : Byte.colon ∉ component) :
    components component = [component] := by
  simp [components, Bytes.splitOn_of_notMem whole, nonempty]

theorem components_append_cons (whole : Byte.colon ∉ component) (rest : Bytes) :
    components (component ++ Byte.colon :: rest) = component :: components rest := by
  have some := Bytes.splitOn_ne_nil Byte.colon rest
  unfold components
  rw [Bytes.splitOn_append_cons whole]
  simp only [List.getLast?_cons_of_ne_nil some, List.dropLast_cons_of_ne_nil some]
  split
  · rfl
  · rfl

theorem ReadsAs.eq_components {components' : List Bytes} (reads : ReadsAs text components') :
    components' = components text := by
  induction reads with
  | nil => rfl
  | last nonempty whole => rw [components_of_notMem nonempty whole]
  | cons whole reads ih => rw [components_append_cons whole, ih]

/-- Every text is nothing, a single component, or a component and a colon before another text. -/
theorem cases_of_colon (text : Bytes) :
    text = [] ∨ (text ≠ [] ∧ Byte.colon ∉ text) ∨
      ∃ component rest, text = component ++ Byte.colon :: rest ∧ Byte.colon ∉ component := by
  by_cases separated : Byte.colon ∈ text
  · exact .inr (.inr (List.eq_append_cons_of_mem separated))
  · by_cases empty : text = []
    · exact .inl empty
    · exact .inr (.inl ⟨empty, separated⟩)

theorem readsAs_components (text : Bytes) : ReadsAs text (components text) := by
  induction h : text.length using Nat.strongRecOn generalizing text with
  | ind n ih =>
    rcases cases_of_colon text with rfl | ⟨nonempty, whole⟩ | ⟨component, rest, rfl, whole⟩
    · exact .nil
    · rw [components_of_notMem nonempty whole]
      exact .last nonempty whole
    · rw [components_append_cons whole]
      have shorter : rest.length < n := by
        rw [← h, List.length_append, List.length_cons]
        omega
      exact .cons whole (ih _ shorter rest rfl)

theorem readsAs_iff {components' : List Bytes} :
    ReadsAs text components' ↔ components' = components text := by
  constructor
  · exact ReadsAs.eq_components
  · rintro rfl
    exact readsAs_components text

end

/-! ## The first match -/

section

variable {isProgram : Bytes → Bool} {searchPath file found : Bytes}

theorem findProgram_of_notMem (plain : Byte.slash ∉ file) :
    findProgram isProgram searchPath file =
      ((components searchPath).map fun component => join (directoryOf component) file).find?
        isProgram := by
  rw [findProgram, if_neg plain, searchDirectories, List.map_map]
  rfl

/-- The first program among the files of a name in the directories of a search path is found. -/
theorem findProgram_eq_some_iff (plain : Byte.slash ∉ file) :
    findProgram isProgram searchPath file = some found ↔
      ∃ before component after, components searchPath = before ++ component :: after ∧
        found = join (directoryOf component) file ∧ isProgram found = true ∧
        ∀ earlier ∈ before, isProgram (join (directoryOf earlier) file) = false := by
  rw [findProgram_of_notMem plain, List.find?_eq_some_iff_append]
  constructor
  · rintro ⟨program, before, after, split, others⟩
    obtain ⟨first, rest, parts, rfl, match_rest⟩ := List.map_eq_append_iff.mp split
    obtain ⟨component, last, rfl, rfl, rfl⟩ := List.map_eq_cons_iff.mp match_rest
    refine ⟨first, component, last, parts, rfl, program, ?_⟩
    intro earlier mem
    simpa using others _ (List.mem_map_of_mem mem)
  · rintro ⟨before, component, after, split, rfl, program, others⟩
    refine ⟨program, _, _, by rw [split, List.map_append, List.map_cons], ?_⟩
    intro candidate tried
    obtain ⟨earlier, mem, rfl⟩ := List.mem_map.mp tried
    rw [others earlier mem]
    rfl

theorem findProgram_eq_none_iff (plain : Byte.slash ∉ file) :
    findProgram isProgram searchPath file = none ↔
      ∀ component ∈ components searchPath,
        isProgram (join (directoryOf component) file) = false := by
  rw [findProgram_of_notMem plain, List.find?_eq_none, List.forall_mem_map]
  simp only [Bool.not_eq_true]

end

/-- Directories without a program of the name are passed over, and so is a component that stands
for the current directory. -/
example :
    findProgram (· ∈ [utf8 "./tool", utf8 "b/tool"]) (utf8 "a:b/::c") (utf8 "tool") =
      some (utf8 "b/tool") := by
  decide

/-! ## Empty components -/

/-- A search path with the current directory spelled out wherever there is nothing before a colon,
between two colons, or behind one. -/
def spellOut (searchPath : Bytes) : Bytes :=
  Bytes.joinWith [Byte.colon] ((Bytes.splitOn Byte.colon searchPath).map directoryOf)

section

variable {component rest : Bytes}

theorem spellOut_of_notMem (whole : Byte.colon ∉ component) :
    spellOut component = directoryOf component := by
  rw [spellOut, Bytes.splitOn_of_notMem whole]
  rfl

theorem spellOut_append_cons (whole : Byte.colon ∉ component) (rest : Bytes) :
    spellOut (component ++ Byte.colon :: rest) =
      directoryOf component ++ Byte.colon :: spellOut rest := by
  have more : (Bytes.splitOn Byte.colon rest).map directoryOf ≠ [] := by
    simp [Bytes.splitOn_ne_nil]
  rw [spellOut, Bytes.splitOn_append_cons whole, List.map_cons, Bytes.joinWith_cons _ _ more,
    List.append_assoc]
  rfl

theorem directoryOf_ne_nil (component : Bytes) : directoryOf component ≠ [] := by
  unfold directoryOf
  split
  · simp
  · next nonempty => simpa using nonempty

theorem colon_notMem_directoryOf (whole : Byte.colon ∉ component) :
    Byte.colon ∉ directoryOf component := by
  unfold directoryOf
  split
  · decide
  · exact whole

@[simp]
theorem directoryOf_directoryOf (component : Bytes) :
    directoryOf (directoryOf component) = directoryOf component := by
  have nonempty := directoryOf_ne_nil component
  generalize directoryOf component = directory at *
  simp [directoryOf, nonempty]

/-- Whether nothing is left behind the last colon. -/
def EndsEmpty (searchPath : Bytes) : Prop :=
  searchPath = [] ∨ searchPath.getLast? = some Byte.colon

instance (searchPath : Bytes) : Decidable (EndsEmpty searchPath) :=
  inferInstanceAs (Decidable (_ ∨ _))

theorem not_endsEmpty_of_notMem (nonempty : component ≠ []) (whole : Byte.colon ∉ component) :
    ¬EndsEmpty component := by
  rintro (empty | ends)
  · exact nonempty empty
  · exact whole (List.mem_of_getLast? ends)

theorem endsEmpty_append_cons (component rest : Bytes) :
    EndsEmpty (component ++ Byte.colon :: rest) ↔ EndsEmpty rest := by
  unfold EndsEmpty
  rw [List.getLast?_append_cons]
  cases rest with
  | nil => simp
  | cons first rest => simp [List.getLast?_cons_cons]

/-- Spelling the current directory out adds nothing but a last component, if there was nothing
behind the last colon. -/
theorem components_spellOut (searchPath : Bytes) :
    components (spellOut searchPath) =
      (components searchPath).map directoryOf ++
        if EndsEmpty searchPath then [directoryOf []] else [] := by
  have reads := readsAs_components searchPath
  generalize components searchPath = parts at reads ⊢
  induction reads with
  | nil => rfl
  | last nonempty whole =>
      rw [spellOut_of_notMem whole, if_neg (not_endsEmpty_of_notMem nonempty whole),
        components_of_notMem (directoryOf_ne_nil _) (colon_notMem_directoryOf whole)]
      rfl
  | cons whole reads ih =>
      rw [spellOut_append_cons whole, components_append_cons (colon_notMem_directoryOf whole), ih]
      simp only [endsEmpty_append_cons, List.map_cons, List.cons_append]

end

section

variable {searchPath file : Bytes}

/-- Spelling the current directory out makes it be searched last, if there was nothing behind the
last colon. -/
theorem findProgram_spellOut (isProgram : Bytes → Bool) (plain : Byte.slash ∉ file) :
    findProgram isProgram (spellOut searchPath) file =
      (findProgram isProgram searchPath file).or
        (if EndsEmpty searchPath then [join (directoryOf []) file].find? isProgram else none) := by
  have same : (fun component => join (directoryOf component) file) ∘ directoryOf =
      fun component => join (directoryOf component) file := by
    funext component
    simp
  rw [findProgram_of_notMem plain, findProgram_of_notMem plain, components_spellOut,
    List.map_append, List.map_map, same, List.find?_append]
  split
  · rfl
  · rfl

/-- Spelling the current directory out wherever it stands for an empty component makes no
difference, unless the search path ends in a colon, no directory before that holds the program, and
the current directory does. -/
theorem findProgram_spellOut_eq_iff (isProgram : Bytes → Bool) (nonempty : searchPath ≠ [])
    (plain : Byte.slash ∉ file) :
    findProgram isProgram (spellOut searchPath) file = findProgram isProgram searchPath file ↔
      ¬(searchPath.getLast? = some Byte.colon ∧ findProgram isProgram searchPath file = none ∧
        isProgram (join (directoryOf []) file) = true) := by
  have ends : EndsEmpty searchPath ↔ searchPath.getLast? = some Byte.colon :=
    or_iff_right nonempty
  rw [findProgram_spellOut isProgram plain, ← ends]
  cases findProgram isProgram searchPath file with
  | some found => simp
  | none =>
      by_cases colon : EndsEmpty searchPath
      · cases program : isProgram (join (directoryOf []) file) <;> simp [colon, program]
      · simp [colon]

end

/-- A directory that holds a program, and nothing else. -/
def workshop : Tree :=
  { nodes := [([utf8 "tool"], .file 0o755 [])] }

/-- The current directory is found before a colon and between two colons. -/
theorem findProgram_spellOut_eq_iff_between :
    utf8 ":/bin::/lib" ≠ [] ∧ Byte.slash ∉ utf8 "tool" ∧
      findProgram (workshop.isProgram []) (spellOut (utf8 ":/bin::/lib")) (utf8 "tool") =
        findProgram (workshop.isProgram []) (utf8 ":/bin::/lib") (utf8 "tool") := by
  have nonempty : utf8 ":/bin::/lib" ≠ [] := by decide
  have plain : Byte.slash ∉ utf8 "tool" := by decide
  refine ⟨nonempty, plain, ?_⟩
  rw [findProgram_spellOut_eq_iff _ nonempty plain]
  rintro ⟨colon, -⟩
  exact absurd colon (by decide)

/-- Behind the last colon it is not. -/
theorem trailing_component_not_searched :
    utf8 "/bin:" ≠ [] ∧ Byte.slash ∉ utf8 "tool" ∧
      findProgram (workshop.isProgram []) (utf8 "/bin:") (utf8 "tool") = none ∧
      findProgram (workshop.isProgram []) (spellOut (utf8 "/bin:")) (utf8 "tool") =
        some (utf8 "./tool") := by
  refine ⟨by decide, by decide, ?_, ?_⟩
  · cbv
  · cbv

end Overseer.File

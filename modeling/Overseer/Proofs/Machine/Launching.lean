import Overseer.Machine.Host.Launch
import Overseer.Proofs.Environment.Snapshot
import Overseer.Proofs.File.Search

/-!
# Launching programs

To launch a program a host looks for it on a search path, which comes from the environment that the
program is given or else from the host's own, and starts a child with the raw entries of the one or
the other.  It makes no difference whether the child inherits the host's environment or is given a
copy of it.
-/

namespace Overseer

namespace File

/-- The tests that a path has to pass to be taken for a program.  A test that cannot be made is not
passed. -/
structure Tree.PassesTests (t : Tree) (mayExecute : Bytes → Bool) (origin : Place) (path : Bytes) :
    Prop where
  /-- There is something. -/
  present : t.pathExists origin path = .ok true
  /-- It is a regular file, links being followed. -/
  regular : ∃ node, t.stat origin path = .ok node ∧ node.isRegular = true
  /-- The user may execute it. -/
  executable : mayExecute path = true

/-- What a privileged user may execute: it is enough that somebody may. -/
def Tree.privilegedMayExecute (t : Tree) (origin : Place) (path : Bytes) : Bool :=
  (t.stat origin path).toOption.any Node.isExecutableBySomebody

theorem Tree.holdsAt_eq_ok_true_iff {t : Tree} {holds : Node → Bool} {origin : Place}
    {path : Bytes} :
    t.holdsAt holds origin path = .ok true ↔
      ∃ node, t.stat origin path = .ok node ∧ holds node = true := by
  unfold holdsAt
  cases t.stat origin path with
  | ok node => simp
  | error errno => by_cases absent : errno = .noEntry ∨ errno = .notDirectory <;> simp [absent]

theorem toOption_eq_some_iff {ε α : Type} {told : Except ε α} {a : α} :
    told.toOption = some a ↔ told = .ok a := by
  cases told <;> simp [Except.toOption]

theorem Tree.isProgramFor_iff {t : Tree} {mayExecute : Bytes → Bool} {origin : Place}
    {path : Bytes} :
    t.isProgramFor mayExecute origin path = true ↔ t.PassesTests mayExecute origin path := by
  simp only [isProgramFor, Bool.and_eq_true, decide_eq_true_eq, toOption_eq_some_iff]
  constructor
  · rintro ⟨⟨present, regular⟩, executable⟩
    exact ⟨present, holdsAt_eq_ok_true_iff.mp regular, executable⟩
  · rintro ⟨present, regular, executable⟩
    exact ⟨⟨present, holdsAt_eq_ok_true_iff.mpr regular⟩, executable⟩

theorem Tree.isProgramFor_eq_false_iff {t : Tree} {mayExecute : Bytes → Bool} {origin : Place}
    {path : Bytes} :
    t.isProgramFor mayExecute origin path = false ↔ ¬t.PassesTests mayExecute origin path := by
  rw [← isProgramFor_iff, Bool.not_eq_true]

section

variable {given : Option Environment} {inherited : List Bytes} {value : Bytes}

theorem searchPath_of_given {env : Environment} (bound : env.get? searchVariable = some value) :
    searchPath (some env) inherited = value := by
  rw [searchPath, Option.bind_some, bound]

/-- An environment without a search path makes no difference. -/
theorem searchPath_of_unbound {env : Environment} (unbound : env.get? searchVariable = none) :
    searchPath (some env) inherited = searchPath none inherited := by
  rw [searchPath, searchPath, Option.bind_some, unbound]
  rfl

theorem searchPath_none_of_firstGives
    (gives : Environment.FirstGives inherited searchVariable value) :
    searchPath none inherited = value := by
  have bound := (Environment.lookupRaw_eq_some_iff (by decide)).mpr gives
  rw [searchPath, Option.bind_none, bound]
  rfl

theorem searchPath_none_of_unbound
    (unbound : ∀ value, ¬Environment.FirstGives inherited searchVariable value) :
    searchPath none inherited = [] := by
  have nothing : Environment.lookupRaw inherited searchVariable = none := by
    rw [Option.eq_none_iff_forall_ne_some]
    intro value bound
    exact unbound value ((Environment.lookupRaw_eq_some_iff (by decide)).mp bound)
  rw [searchPath, Option.bind_none, nothing]
  rfl

end

/-- The path of a file in the directory of a component, spelled out. -/
theorem join_directoryOf (component file : Bytes) :
    join (directoryOf component) file =
      let directory := if component = [] then utf8 "." else component
      if directory.getLast? = some 0x2f then directory ++ file
      else directory ++ [0x2f] ++ file := by
  have dot : utf8 "." = [Byte.dot] := by decide
  simp only [join, directoryOf, List.isEmpty_iff, dot, List.append_assoc]
  rfl

end File

namespace Machine

open File

theorem fits_of_perm {entries entries' : List Bytes} (perm : entries.Perm entries') (path : Bytes)
    (words : List Bytes) : fits path words entries = fits path words entries' := by
  have all := perm.append_left words
  unfold fits
  dsimp only
  rw [all.all_eq, all.foldl_eq' (fun _ _ _ _ _ => by omega)]

/-- What runs does not depend on the order of the raw entries. -/
theorem Image.load_of_perm {entries entries' : List Bytes} (perm : entries.Perm entries') (t : Tree)
    (mayExecute : Bytes → Bool) (place : Place) (path : Bytes) (words : List Bytes) :
    load t mayExecute place path words entries = load t mayExecute place path words entries' := by
  unfold load
  rw [fits_of_perm perm]

namespace Host

section

variable {h : Host} {order : LaunchOrder} {index : Nat}

theorem hasDirectory_iff : h.hasDirectory order = true ↔
    order.directory = [] ∨ h.kernel.tree.pathExists h.place order.directory = .ok true := by
  unfold hasDirectory
  rw [Bool.or_eq_true, List.isEmpty_iff, decide_eq_true_iff, toOption_eq_some_iff]

theorem launch_of_absent (absent : h.hasDirectory order = false) :
    h.launch index order = (.error (.missingDirectory order.directory), h) := by
  rw [launch, absent]
  rfl

theorem launch_of_missing (there : h.hasDirectory order = true)
    (missing : h.programFor order = none) :
    h.launch index order = (.error (.commandNotFound (order.words.headD [])), h) := by
  unfold launch
  rw [if_neg (by simp [there])]
  dsimp only
  rw [missing]

theorem launch_of_refused (there : h.hasDirectory order = true) {found : Bytes} {errno : Errno}
    (program : h.programFor order = some found) (refused : h.equip order found = .error errno) :
    h.launch index order = (.error (.notStarted errno (order.words.headD [])), h) := by
  unfold launch
  rw [if_neg (by simp [there])]
  dsimp only
  rw [program]
  dsimp only
  rw [refused]

theorem launch_of_equipped (there : h.hasDirectory order = true) {found : Bytes} {pipes : Pipes}
    {place : Place} {image : Image} (program : h.programFor order = some found)
    (equipped : h.equip order found = .ok (pipes, place, image)) :
    h.launch index order =
      (.ok (), h.startChild index pipes place image (h.entriesFor order)) := by
  unfold launch
  rw [if_neg (by simp [there])]
  dsimp only
  rw [program]
  dsimp only
  rw [equipped]

/-- A child has been added to a host and has done nothing yet: it runs an image with raw entries in
a directory, its standard streams being the ends of the pipes that are the child's. -/
structure HasAdded (h begun : Host) (index : Nat) (pipes : Pipes) (place : Place) (image : Image)
    (entries : List Bytes) : Prop where
  /-- It is one process more. -/
  tasks : begun.kernel.tasks = h.kernel.tasks ++
    [{ pid := h.kernel.nextPid
       parent := some Kernel.supervisorPid
       activity := Shell.activityOf image entries
       table := pipes.child
       place }]
  /-- The supervisor has the other ends. -/
  children : begun.children = h.children ++
    [(index, { pid := h.kernel.nextPid, streams := pipes.streams })]
  /-- Files are as before. -/
  tree : begun.kernel.tree = h.kernel.tree

/-- To start a child is to add it and to let the processes go on. -/
theorem exists_startChild (h : Host) (index : Nat) (pipes : Pipes) (place : Place) (image : Image)
    (entries : List Bytes) :
    ∃ begun, h.startChild index pipes place image entries = begun.settle ∧
      h.HasAdded begun index pipes place image entries :=
  ⟨h.addChild index pipes place image entries, rfl, rfl, rfl, rfl⟩

/-- A launch that starts a child adds it first. -/
theorem exists_added_of_launch {pipes : Pipes} {place : Place} {image : Image}
    {entries : List Bytes}
    (started : h.launch index order = (.ok (), h.startChild index pipes place image entries)) :
    ∃ begun, h.launch index order = (.ok (), begun.settle) ∧
      h.HasAdded begun index pipes place image entries := by
  obtain ⟨begun, same, added⟩ := exists_startChild h index pipes place image entries
  rw [same] at started
  exact ⟨begun, started, added⟩

theorem notStarted_ne_commandNotFound (errno : Errno) (program : Bytes) :
    Fault.notStarted errno program ≠ Fault.commandNotFound program := by
  intro same
  have texts := congrArg List.getLast? (Fault.system.inj same).2
  have quote : utf8 "'" = [Byte.quote] := by decide
  have last : utf8 ": command not found" = utf8 ": command not foun" ++ utf8 "d" := by decide
  have letter : utf8 "d" = [0x64] := by decide
  rw [quote, last, letter, ← List.append_assoc, List.getLast?_concat, List.getLast?_concat] at texts
  exact absurd (Option.some.inj texts) (by decide)

theorem launch_ne_commandNotFound_of_found (there : h.hasDirectory order = true) {found : Bytes}
    (program : h.programFor order = some found) :
    (h.launch index order).1 ≠ .error (.commandNotFound (order.words.headD [])) := by
  cases equipment : h.equip order found with
  | ok equipped =>
      rw [launch_of_equipped there program equipment]
      exact nofun
  | error errno =>
      rw [launch_of_refused there program equipment]
      intro same
      exact notStarted_ne_commandNotFound errno _ (Except.error.inj same)

end

/-- Launching looks for the program of an order.

* The search path is the value of `PATH` in the environment of the order if that has one, else that
  in the host, where the first raw entry counts, and else empty.
* A name with a slash is taken as it is.
* For any other name the search path is read one component after the other, which can be done in
  one way.  The name is put behind each of them, with a slash between if there is none, and an empty
  one is read as a dot.  What is found is the first path that comes about so and passes the tests of
  a program, and nothing is found if and only if none does.  Which paths the user may execute is a
  parameter of the host.
* If nothing is found, and the directory to start in is there, the launch fails with that and leaves
  the host, its processes among the rest, as it was.  If something is found it does not fail so. -/
theorem finds_first_program (h : Host) (index : Nat) (order : LaunchOrder) :
    let file := order.words.headD []
    let path := searchPath order.environment h.inherited
    let slash : UInt8 := 0x2f
    let candidate := fun component : Bytes =>
      let directory := if component = [] then utf8 "." else component
      if directory.getLast? = some slash then directory ++ file else directory ++ [slash] ++ file
    let passes := h.kernel.tree.PassesTests (h.mayExecute h.kernel.tree h.place) h.place
    (∀ env value, order.environment = some env → env.get? (utf8 "PATH") = some value →
      path = value) ∧
    ((∀ env, order.environment = some env → env.get? (utf8 "PATH") = none) →
      (∀ value, Environment.FirstGives h.inherited (utf8 "PATH") value → path = value) ∧
      ((∀ value, ¬Environment.FirstGives h.inherited (utf8 "PATH") value) → path = [])) ∧
    (slash ∈ file → h.programFor order = some file) ∧
    (slash ∉ file → ∃ components,
      (∀ others, ReadsAs path others ↔ others = components) ∧
      (∀ found, h.programFor order = some found ↔
        ∃ before component after, components = before ++ component :: after ∧
          found = candidate component ∧ passes found ∧
          ∀ earlier ∈ before, ¬passes (candidate earlier)) ∧
      (h.programFor order = none ↔ ∀ component ∈ components, ¬passes (candidate component))) ∧
    (order.directory = [] ∨ h.kernel.tree.pathExists h.place order.directory = .ok true →
      (h.programFor order = none → h.launch index order =
        (.error (.system .noEntry (file ++ utf8 ": command not found")), h)) ∧
      (h.programFor order ≠ none → (h.launch index order).1 ≠
        .error (.system .noEntry (file ++ utf8 ": command not found")))) := by
  intro file path slash candidate passes
  have joins : ∀ component, join (directoryOf component) file = candidate component :=
    fun component => join_directoryOf component file
  refine ⟨?_, ?_, ?_, ?_, ?_⟩
  · intro env value given bound
    simp only [path, given]
    exact searchPath_of_given bound
  · intro unbound
    have inherits : path = searchPath none h.inherited := by
      cases given : order.environment with
      | none => simp only [path, given]
      | some env =>
          simp only [path, given]
          exact searchPath_of_unbound (unbound env given)
    rw [inherits]
    exact ⟨fun value => searchPath_none_of_firstGives, searchPath_none_of_unbound⟩
  · exact findProgram_of_mem
  · intro plain
    refine ⟨components path, fun others => readsAs_iff, ?_, ?_⟩
    · intro found
      refine (findProgram_eq_some_iff plain).trans ?_
      simp only [Tree.isProgramFor_iff, Tree.isProgramFor_eq_false_iff, joins]
      rfl
    · refine (findProgram_eq_none_iff plain).trans ?_
      simp only [Tree.isProgramFor_eq_false_iff, joins]
      rfl
  · intro directory
    have there := hasDirectory_iff.mpr directory
    refine ⟨launch_of_missing there, ?_⟩
    intro some
    obtain ⟨found, program⟩ := Option.ne_none_iff_exists'.mp some
    exact launch_ne_commandNotFound_of_found there program

/-- A host that a privileged user works at.  The search path has a directory without programs,
nothing between two colons, and a directory named with a slash at its end.  In the first directory
there are a file that nobody may execute, a directory and a link to itself, and in the last one
there is a link to a program. -/
def shed : Host :=
  let nodes : List (Place × Node) :=
    [([utf8 "lib"], .directory), ([utf8 "lib", utf8 "saw"], .file 0o644 []),
      ([utf8 "lib", utf8 "axe"], .directory), ([utf8 "lib", utf8 "rake"], .link (utf8 "rake")),
      ([utf8 "saw"], .file 0o601 []), ([utf8 "opt"], .directory),
      ([utf8 "opt", utf8 "axe"], .link (utf8 "../saw"))]
  { start { nodes } [] [utf8 "PATH=/lib::/opt/"] with mayExecute := Tree.privilegedMayExecute }

/-- One program is found in the current directory, one by a link behind the slash, and one
nowhere. -/
theorem finds_first_program_shed :
    let order := fun word : String =>
      ({ words := [utf8 word], environment := none, directory := [] } : LaunchOrder)
    shed.programFor (order "saw") = some (utf8 "./saw") ∧
      shed.programFor (order "axe") = some (utf8 "/opt/axe") ∧
      shed.programFor (order "rake") = none ∧
      shed.launch 0 (order "rake") =
        (.error (.system .noEntry (utf8 "rake: command not found")), shed) := by
  intro order
  have reads : ReadsAs (searchPath none shed.inherited) [utf8 "/lib", [], utf8 "/opt/"] :=
    readsAs_iff.mpr (by decide)
  have passed : ∀ path ∈ [utf8 "./saw", utf8 "/opt/axe"], shed.kernel.tree.PassesTests
      (shed.mayExecute shed.kernel.tree shed.place) shed.place path := by
    simp only [List.forall_mem_cons, ← Tree.isProgramFor_iff]
    refine ⟨?_, ?_, List.forall_mem_nil _⟩ <;> cbv
  have failed : ∀ path ∈ [utf8 "/lib/saw", utf8 "/lib/axe", utf8 "./axe", utf8 "/lib/rake",
      utf8 "./rake", utf8 "/opt/rake"], ¬shed.kernel.tree.PassesTests
        (shed.mayExecute shed.kernel.tree shed.place) shed.place path := by
    simp only [List.forall_mem_cons, ← Tree.isProgramFor_eq_false_iff]
    refine ⟨?_, ?_, ?_, ?_, ?_, ?_, List.forall_mem_nil _⟩ <;> cbv
  obtain ⟨-, -, -, saw, -⟩ := finds_first_program shed 0 (order "saw")
  obtain ⟨-, -, -, axe, -⟩ := finds_first_program shed 0 (order "axe")
  obtain ⟨-, -, -, rake, launched⟩ := finds_first_program shed 0 (order "rake")
  obtain ⟨_, sawRead, sawFound, -⟩ := saw (by decide)
  obtain ⟨_, axeRead, axeFound, -⟩ := axe (by decide)
  obtain ⟨_, rakeRead, -, rakeMissing⟩ := rake (by decide)
  obtain rfl := (sawRead _).mp reads
  obtain rfl := (axeRead _).mp reads
  obtain rfl := (rakeRead _).mp reads
  have missing : shed.programFor (order "rake") = none := by
    refine rakeMissing.mpr ?_
    simp only [List.forall_mem_cons]
    exact ⟨failed _ (by decide), failed _ (by decide), failed _ (by decide),
      List.forall_mem_nil _⟩
  refine ⟨(sawFound _).mpr ⟨[utf8 "/lib"], [], [utf8 "/opt/"], rfl, by decide, ?_, ?_⟩,
    (axeFound _).mpr ⟨[utf8 "/lib", []], utf8 "/opt/", [], rfl, by decide, ?_, ?_⟩,
    missing, (launched (.inl rfl)).1 missing⟩
  · exact passed _ (by decide)
  · simp only [List.forall_mem_singleton]
    exact failed _ (by decide)
  · exact passed _ (by decide)
  · simp only [List.forall_mem_cons]
    exact ⟨failed _ (by decide), failed _ (by decide), List.forall_mem_nil _⟩

/-! ## Inheriting and copying -/

section

variable {h : Host}

theorem entriesFor_copy (tidy : Environment.IsTidy h.inherited) (order : LaunchOrder) :
    h.entriesFor { order with environment := some (.decode h.inherited) } =
      (Environment.decode h.inherited).encode := by
  have whole := (tidy.of_perm tidy.encode_decode_perm).whole
  calc
    (Environment.decode h.inherited).encode.map Bytes.untilNul
        = (Environment.decode h.inherited).encode.map id :=
      List.map_congr_left fun entry found => Bytes.untilNul_of_nul_notMem (whole entry found)
    _ = (Environment.decode h.inherited).encode := List.map_id _

/-- What a child is given that is to have a copy of the host's environment are the entries that it
would inherit, in another order. -/
theorem entriesFor_copy_perm (tidy : Environment.IsTidy h.inherited) (order : LaunchOrder) :
    (h.entriesFor { order with environment := some (.decode h.inherited) }).Perm h.inherited := by
  rw [entriesFor_copy tidy]
  exact tidy.encode_decode_perm

theorem programFor_copy (tidy : Environment.IsTidy h.inherited) (order : LaunchOrder) :
    h.programFor { order with environment := some (.decode h.inherited) } =
      h.programFor { order with environment := none } := by
  have same : searchPath (some (.decode h.inherited)) h.inherited =
      searchPath none h.inherited := by
    have looked : Environment.lookupRaw h.inherited searchVariable = _ :=
      tidy.lookupRaw_eq_get? (by decide)
    cases bound : (Environment.decode h.inherited).get? searchVariable with
    | none => exact searchPath_of_unbound bound
    | some value =>
        rw [searchPath_of_given bound, searchPath, Option.bind_none, looked, bound]
        rfl
  unfold programFor
  rw [same]

/-- What runs is the same, and so is why nothing does. -/
theorem equip_copy (tidy : Environment.IsTidy h.inherited) (order : LaunchOrder) (found : Bytes) :
    h.equip { order with environment := some (.decode h.inherited) } found =
      h.equip { order with environment := none } found := by
  have perm : (h.entriesFor { order with environment := some (.decode h.inherited) }).Perm
      (h.entriesFor { order with environment := none }) := entriesFor_copy_perm tidy order
  unfold equip
  simp only [Image.load_of_perm perm]

theorem launch_copy (tidy : Environment.IsTidy h.inherited) (index : Nat) (order : LaunchOrder) :
    let inheriting := { order with environment := none }
    let copying := { order with environment := some (.decode h.inherited) }
    (∃ fault, h.launch index inheriting = (.error fault, h) ∧
      h.launch index copying = (.error fault, h)) ∨
    ∃ pipes place image,
      h.launch index inheriting =
        (.ok (), h.startChild index pipes place image (h.entriesFor inheriting)) ∧
      h.launch index copying =
        (.ok (), h.startChild index pipes place image (h.entriesFor copying)) := by
  intro inheriting copying
  have sameProgram : h.programFor copying = h.programFor inheriting := programFor_copy tidy order
  cases there : h.hasDirectory inheriting with
  | false =>
      have there' : h.hasDirectory copying = false := there
      exact .inl ⟨_, launch_of_absent there, launch_of_absent there'⟩
  | true =>
      have there' : h.hasDirectory copying = true := there
      cases program : h.programFor inheriting with
      | none =>
          exact .inl ⟨_, launch_of_missing there program,
            launch_of_missing there' (sameProgram.trans program)⟩
      | some found =>
          have program' := sameProgram.trans program
          have sameEquipment : h.equip copying found = h.equip inheriting found :=
            equip_copy tidy order found
          cases equipment : h.equip inheriting found with
          | error errno =>
              exact .inl ⟨_, launch_of_refused there program equipment,
                launch_of_refused there' program' (sameEquipment.trans equipment)⟩
          | ok equipped =>
              obtain ⟨pipes, place, image⟩ := equipped
              exact .inr ⟨pipes, place, image, launch_of_equipped there program equipment,
                launch_of_equipped there' program' (sameEquipment.trans equipment)⟩

end

/-- It makes no difference whether a child inherits the environment of its host or is given a copy
of it, if every raw entry gives a value and no name occurs twice.

* The same program is found, or none.
* The child gets the same raw entries in another order.  They read as the same environment, and
  looking up a variable in them finds the same value.
* Either launch fails with the same fault and leaves the host as it was, or both start a child
  with the same pipes in the same directory that runs the same, and is given its raw entries before
  anything else happens.

Whatever the raw entries of the host are, an environment without a search path finds the same
program as none. -/
theorem inherits_as_copied (h : Host) (index : Nat) (order : LaunchOrder) :
    let inheriting := { order with environment := none }
    let copying := { order with environment := some (.decode h.inherited) }
    (Environment.IsTidy h.inherited →
      h.programFor copying = h.programFor inheriting ∧
      (h.entriesFor copying).Perm (h.entriesFor inheriting) ∧
      Environment.decode (h.entriesFor copying) = Environment.decode (h.entriesFor inheriting) ∧
      (∀ name ≠ [], Environment.lookupRaw (h.entriesFor copying) name =
        Environment.lookupRaw (h.entriesFor inheriting) name) ∧
      ((∃ fault, h.launch index inheriting = (.error fault, h) ∧
          h.launch index copying = (.error fault, h)) ∨
        ∃ pipes place image,
          h.launch index inheriting =
            (.ok (), h.startChild index pipes place image (h.entriesFor inheriting)) ∧
          h.launch index copying =
            (.ok (), h.startChild index pipes place image (h.entriesFor copying)) ∧
          ∀ either ∈ [inheriting, copying], ∃ begun,
            h.launch index either = (.ok (), begun.settle) ∧
              h.HasAdded begun index pipes place image (h.entriesFor either))) ∧
    ∀ env : Environment, env.get? searchVariable = none →
      h.programFor { order with environment := some env } = h.programFor inheriting := by
  intro inheriting copying
  refine ⟨fun tidy => ?_, fun env unbound => ?_⟩
  · have perm : (h.entriesFor copying).Perm h.inherited := entriesFor_copy_perm tidy order
    have tidy' := tidy.of_perm perm
    have sameMap : Environment.decode (h.entriesFor copying) = Environment.decode h.inherited := by
      rw [entriesFor_copy tidy]
      exact (Environment.isWritable_decode tidy.whole).decode_encode
    refine ⟨programFor_copy tidy order, perm, sameMap, ?_, ?_⟩
    · intro name nonempty
      rw [tidy'.lookupRaw_eq_get? nonempty, sameMap]
      exact (tidy.lookupRaw_eq_get? nonempty).symm
    · rcases launch_copy tidy index order with refused | ⟨pipes, place, image, inherits, copies⟩
      · exact .inl refused
      · refine .inr ⟨pipes, place, image, inherits, copies, ?_⟩
        simp only [List.forall_mem_cons]
        exact ⟨exists_added_of_launch inherits, exists_added_of_launch copies,
          List.forall_mem_nil _⟩
  · unfold programFor
    rw [searchPath_of_unbound unbound]

/-- A host with a program in the second directory of its search path, and another variable. -/
def shack : Host :=
  let nodes : List (Place × Node) :=
    [([utf8 "bin"], .directory), ([utf8 "bin", utf8 "tool"], .program (utf8 "true"))]
  start { nodes } [] [utf8 "PATH=/lib:/bin", utf8 "EDITOR=a=b"]

/-- The program is found and started either way, and a copy has the entries by increasing name. -/
theorem inherits_as_copied_shack :
    let order : LaunchOrder := { words := [utf8 "tool"], environment := none, directory := [] }
    let copying := { order with environment := some (.decode shack.inherited) }
    Environment.IsTidy shack.inherited ∧
      shack.programFor order = some (utf8 "/bin/tool") ∧
      shack.programFor copying = some (utf8 "/bin/tool") ∧
      shack.entriesFor copying = [utf8 "EDITOR=a=b", utf8 "PATH=/lib:/bin"] ∧
      Environment.decode (shack.entriesFor copying) =
        Environment.decode (shack.entriesFor order) ∧
      ∃ pipes place image, ∀ either ∈ [order, copying], ∃ begun,
        shack.launch 0 either = (.ok (), begun.settle) ∧
          shack.HasAdded begun 0 pipes place image (shack.entriesFor either) := by
  intro order copying
  have gives : ∀ entry ∈ shack.inherited,
      Byte.equals ∈ entry ∧ entry.head? ≠ some Byte.equals := by decide
  have tidy : Environment.IsTidy shack.inherited :=
    { whole := by decide
      gives := fun entry found => Environment.exists_gives_iff.mpr (gives entry found)
      distinct := by decide }
  have program : shack.programFor order = some (utf8 "/bin/tool") := by cbv
  have equips : (shack.equip order (utf8 "/bin/tool")).isOk = true := by cbv
  obtain ⟨same, -, map, -, launches⟩ := (inherits_as_copied shack 0 order).1 tidy
  refine ⟨tidy, program, same.trans program, by decide, map, ?_⟩
  cases equipment : shack.equip order (utf8 "/bin/tool") with
  | error errno =>
      rw [equipment] at equips
      contradiction
  | ok equipped =>
      have launched : shack.launch 0 order = _ := launch_of_equipped rfl program equipment
      rcases launches with ⟨fault, refused, -⟩ | ⟨pipes, place, image, -, -, started⟩
      · have conflict := congrArg Prod.fst (launched.symm.trans refused)
        contradiction
      · exact ⟨pipes, place, image, started⟩

end Host

end Machine

end Overseer

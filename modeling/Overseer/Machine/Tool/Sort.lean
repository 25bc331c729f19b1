import Overseer.Machine.Tool.Amount
import Overseer.Machine.Tool.Collation
import Overseer.Machine.Tool.Source

/-!
# Sorting the lines of files
-/

namespace Overseer.Machine

/-- What is done with lines. -/
structure SortStyle where
  /-- The rule for whole lines and for keys without one. -/
  rule : SortRule := {}
  /-- The keys. -/
  keys : List SortKey := []
  /-- What separates fields, if not gaps. -/
  separator : Option UInt8 := none
  /-- What ends a line. -/
  terminator : UInt8 := Byte.newline
  /-- Whether of equal lines only the first is kept. -/
  unique : Bool := false
  /-- Whether lines with equal keys keep their order. -/
  stable : Bool := false
  /-- Whether files are sorted already. -/
  merges : Bool := false
  /-- The letter with which it was asked whether a file is sorted. -/
  checks : Option Char := none
  /-- The file that is written instead of the output. -/
  target : Option Bytes := none
  /-- The file that lists the names of the files to sort. -/
  list : Option Bytes := none

namespace SortStyle

/-- The options of `sort`. -/
def forms : List OptionForm :=
  [.both 'b' "ignore-leading-blanks", .long "check" .optional, .long "compress-program" .required,
    .long "debug", .both 'd' "dictionary-order", .both 'f' "ignore-case",
    .long "files0-from" .required, .both 'g' "general-numeric-sort", .both 'i' "ignore-nonprinting",
    .both 'k' "key" .required, .both 'm' "merge", .both 'M' "month-sort", .both 'n' "numeric-sort",
    .both 'h' "human-numeric-sort", .both 'V' "version-sort", .both 'R' "random-sort",
    .long "random-source" .required, .long "sort" .required, .both 'o' "output" .required,
    .both 'r' "reverse", .both 's' "stable", .long "batch-size" .required,
    .both 'S' "buffer-size" .required, .both 't' "field-separator" .required,
    .both 'T' "temporary-directory" .required, .both 'u' "unique", .both 'z' "zero-terminated",
    .long "parallel" .required, .short 'c', .short 'C']

/-- The orders that can be asked for by name, with their letters. -/
def orderNames : List (String × Char) :=
  [("general-numeric", 'g'), ("human-numeric", 'h'), ("month", 'M'), ("numeric", 'n'),
    ("random", 'R'), ("version", 'V')]

/-- The ways to check that can be asked for by name, with their letters. -/
def checkNames : List (String × Char) :=
  [("quiet", 'C'), ("silent", 'C'), ("diagnose-first", 'c')]

/-- That options do not go together. -/
def conflict (letters : String) : OptionProblem :=
  .plain (utf8 "options '-" ++ utf8 letters ++ utf8 "' are incompatible")

/-- The style with another letter of a rule. -/
def addLetter (style : SortStyle) (letter : Char) : SortStyle :=
  { style with rule := (style.rule.add? true true letter).getD style.rule }

/-- The style that checks whether a file is sorted. -/
def checking (style : SortStyle) (letter : Char) : Except OptionProblem SortStyle :=
  if style.checks.all (· = letter) then .ok { style with checks := some letter }
  else .error (conflict "cC")

/-- The style with a separator of fields. -/
def separating (style : SortStyle) (text : Bytes) : Except OptionProblem SortStyle := do
  let c ←
    match text with
    | [] => throw (.plain (utf8 "empty tab"))
    | [c] => pure c
    | _ =>
        if text = utf8 "\\0" then pure 0
        else throw (.plain (utf8 "multi-character tab " ++ Quoting.single text))
  if style.separator.all (· = c) then return { style with separator := some c }
  else throw (.plain (utf8 "incompatible tabs"))

/-- The options that a word comes to which begins a key, with the words after it that
are left. -/
def keyWords (word : Bytes) (rest : List Bytes) : Option (List GivenOption × List Bytes) :=
  (readKeyStart? word).map (fun _ =>
    let start : GivenOption := { key := "+", value := some word }
    match rest with
    | next :: later =>
        if isKeyEnd next then ([start, { key := "-", value := some next }], later)
        else ([start], rest)
    | [] => ([start], []))

/-- The style in which the last key ends. -/
def endKey (style : SortStyle) (word : Bytes) : Except OptionProblem SortStyle :=
  match style.keys.getLast? with
  | none => .ok style
  | some key => do
      let key ← readKeyEnd key word
      return { style with keys := style.keys.dropLast ++ [key] }

/-- Check the amount that is the value of an option. -/
def checkAmount (letters : String) (option : GivenOption) (atLeast : Nat)
    (otherwise : OptionProblem) : Except OptionProblem Unit := do
  let amount ← (readAmount letters (option.value.getD [])).mapError (fun problem =>
    .plain (problem.text option.written (option.value.getD [])))
  if amount < atLeast then throw otherwise

/-- The style with an option. -/
def change (style : SortStyle) (option : GivenOption) : Except OptionProblem SortStyle :=
  let value := option.value.getD []
  match option.key with
  | "check" =>
      match option.value with
      | none => style.checking 'c'
      | some value => do
          let letter ← chooseByName "--check" checkNames value
          style.checking letter
  | "c" => style.checking 'c'
  | "C" => style.checking 'C'
  | "sort" => do
      let letter ← chooseByName "--sort" orderNames value
      return style.addLetter letter
  | "k" => do
      let key ← readKey value
      return { style with keys := style.keys ++ [key] }
  | "+" => .ok { style with keys := style.keys ++ (readKeyStart? value).toList }
  | "-" => style.endKey value
  | "files0-from" => .ok { style with list := some value }
  | "parallel" => do
      checkAmount "" option 1 (.plain (utf8 "number in parallel must be nonzero"))
      return style
  | "batch-size" => do
      checkAmount "" option 2 (.plain
        (utf8 "invalid --batch-size argument " ++ Quoting.single value)
        [utf8 "minimum --batch-size argument is '2'"])
      return style
  | "S" => do
      let counted := match value.reverse with
        | unit :: digit :: _ => Byte.isDigit digit && (unit = 0x62 || unit = 0x25)
        | _ => false
      let option := if counted then { option with value := some value.dropLast } else option
      checkAmount "EgGkKmMPQRtTYZ" option 0 (.plain [])
      return style
  | "m" => .ok { style with merges := true }
  | "o" =>
      if style.target.all (· = value) then .ok { style with target := some value }
      else .error (.plain (utf8 "multiple output files specified"))
  | "s" => .ok { style with stable := true }
  | "t" => style.separating value
  | "u" => .ok { style with unique := true }
  | "z" => .ok { style with terminator := 0 }
  | key =>
      match key.toList with
      | [letter] => .ok (style.addLetter letter)
      | _ => .ok style

/-- The style with the keys it comes to: a key without a rule has that of whole
lines, and if there is no key and that says more than which way round, the whole line
is one. -/
def complete (style : SortStyle) : Except OptionProblem SortStyle :=
  let keys := style.keys.map (fun key =>
    if key.rule = {} then { key with rule := style.rule } else key)
  let keys := if keys.isEmpty && !style.rule.isStandard then [{ rule := style.rule }] else keys
  match keys.findSome? (fun key => key.rule.conflict?) with
  | some letters => .error (conflict letters)
  | none => .ok { style with keys }

/-- Compare the keys of lines. -/
def orderKeys (style : SortStyle) (a b : List Bytes) : Ordering :=
  (List.zip style.keys (List.zip a b)).foldl (fun result (key, x, y) =>
    result.then (key.rule.order (key.rule.relevant x) (key.rule.relevant y))) .eq

/-- A line with its keys. -/
abbrev KeyedLine := Bytes × List Bytes

/-- Find the keys of a line. -/
def keyed (style : SortStyle) (line : Bytes) : KeyedLine :=
  (line, style.keys.map (fun key => key.text style.separator line))

/-- Compare lines. -/
def order (style : SortStyle) (a b : KeyedLine) : Ordering :=
  match style.orderKeys a.2 b.2 with
  | .eq =>
      if !style.keys.isEmpty && (style.unique || style.stable) then .eq
      else
        let result := orderBytes a.1 b.1
        if style.rule.has 'r' then result.swap else result
  | other => other

/-- Neighbours that count as equal reduced to the first of them. -/
def dropRepeats (style : SortStyle) : Option KeyedLine → List KeyedLine → List KeyedLine
  | _, [] => []
  | before, line :: rest =>
      if before.any (fun earlier => style.order earlier line = .eq) then
        dropRepeats style before rest
      else line :: dropRepeats style (some line) rest

/-- The first line that should not stand after the one before it, with its number,
given the number of the next line. -/
def disorder? (style : SortStyle) : Nat → List KeyedLine → Option (Nat × Bytes)
  | number, a :: b :: rest =>
      let wrong := match style.order a b with
        | .gt => true
        | .eq => style.unique
        | .lt => false
      if wrong then some (number, b.1) else disorder? style (number + 1) (b :: rest)
  | _, _ => none

/-- Merge lines of several files, of which always the least next line comes first; the
first argument bounds the number of lines. -/
def merge (style : SortStyle) : Nat → List (List KeyedLine) → List KeyedLine
  | 0, _ => []
  | fuel + 1, files =>
      let files := files.filter (fun lines => !lines.isEmpty)
      let heads := files.filterMap List.head?
      match heads with
      | [] => []
      | first :: others =>
          let (_, index, least) := others.foldl
            (fun (i, index, least) line =>
              if style.order line least = .lt then (i + 1, i, line) else (i + 1, index, least))
            (1, 0, first)
          least :: merge style fuel (files.modify index List.tail)

/-- The lines of files in order. -/
def arrange (style : SortStyle) (files : List (List Bytes)) : List Bytes :=
  let files := files.map (fun lines => lines.map style.keyed)
  let all :=
    if style.merges then style.merge ((files.map List.length).foldl (· + ·) 0) files
    else files.flatten.mergeSort (fun a b => style.order a b ≠ .gt)
  (if style.unique then style.dropRepeats none all else all).map Prod.fst

/-- The lines of a text. -/
def linesOf (style : SortStyle) (text : Bytes) : List Bytes :=
  let pieces := Bytes.splitOn style.terminator text
  if pieces.getLast? = some [] then pieces.dropLast else pieces

end SortStyle

/-- Read a file; what is said if that fails. -/
def readSource (path : Bytes) (closed : String) : Printing (Except Bytes Bytes) := do
  let said (what : String) (errno : Errno) : Except Bytes Bytes :=
    .error (utf8 what ++ utf8 ": " ++ Quoting.fileName path ++ utf8 ": " ++ errno.description)
  match ← withSource path (fun d => readAll d readLimit []) with
  | .ok (.ok content) => return .ok content
  | .ok (.error errno) =>
      return said (if errno = .badDescriptor then "stat failed" else "read failed") errno
  | .error errno => return said closed errno

/-- The files whose names a file lists, each with a zero byte after it; what is said if
they cannot be found out. -/
def readNames (path : Bytes) : Printing (Except Bytes (List Bytes)) := do
  match ← withSource path (fun d => readAll d readLimit []) with
  | .error errno =>
      return .error (utf8 "open failed: " ++ Quoting.fileName path ++ utf8 ": " ++
        errno.description)
  | .ok (.error _) =>
      return .error (utf8 "cannot read file names from " ++ Quoting.word path)
  | .ok (.ok content) =>
      let pieces := Bytes.splitOn 0 content
      let names := if pieces.getLast? = some [] then pieces.dropLast else pieces
      match names.findIdx? (fun listed => listed.isEmpty || listed = hyphen) with
      | none =>
          return if names.isEmpty then .error (utf8 "no input from " ++ Quoting.word path)
            else .ok names
      | some i =>
          return .error (if (names.getD i []).isEmpty then
              Quoting.fileName path ++ utf8 ":" ++ digitsIn 10 (i + 1) ++
                utf8 ": invalid zero-length file name"
            else utf8 "when reading file names from stdin, no file name of '-' allowed")

/-- Say whether a file is sorted. -/
def checkSorted (name : Bytes) (style : SortStyle) (path : Bytes) : Printing Nat := do
  match ← readSource path "open failed" with
  | .error problem =>
      warn name problem
      return troubleCode
  | .ok content =>
      match style.disorder? 2 ((style.linesOf content).map style.keyed) with
      | none => return 0
      | some (number, line) =>
          if style.checks = some 'c' then
            warn name (path ++ utf8 ":" ++ digitsIn 10 number ++ utf8 ": disorder: " ++ line)
          return 1

/-- Let a file be the output, if one is to be. -/
def redirectOutput (target : Option Bytes) : Act (Except Errno Unit) := do
  match target with
  | none => return .ok ()
  | some path =>
      match ← openFile path .write with
      | .error errno => return .error errno
      | .ok d =>
          if d = standardOutput then return .ok ()
          let reply ← (Activity.duplicate d standardOutput : Act (Except Errno Unit))
          closeDescriptor d
          return reply

/-- Write sorted lines to the output or to a file. -/
def putSorted (name : Bytes) (style : SortStyle) (files : List (List Bytes)) : Printing Nat := do
  let text := (style.arrange files).flatMap (· ++ [style.terminator])
  let failed (what : String) (errno : Errno) : Printing Nat := do
    modify (fun left => { left with text := [] })
    let shown := (style.target.map Quoting.fileName).getD (utf8 "'standard output'")
    giveUp name (utf8 what ++ utf8 ": " ++ shown ++ utf8 ": " ++ errno.description) troubleCode
  if let .error errno ← redirectOutput style.target then return ← failed "open failed" errno
  if let .error errno ← put text then return ← failed "write failed" errno
  if let .error errno ← flush then return ← failed "fflush failed" errno
  return 0

/-- What is said of the first file that cannot be opened. -/
def inaccessible? : List (Bytes × FileUse × String) → Act (Option Bytes)
  | [] => pure none
  | (path, use, what) :: rest => do
      if path = hyphen && use = .read then inaccessible? rest
      else
        match ← openFile path use with
        | .ok d =>
            closeDescriptor d
            inaccessible? rest
        | .error errno =>
            pure (some (utf8 what ++ utf8 ": " ++ Quoting.fileName path ++ utf8 ": " ++
              errno.description))

/-- Sort the lines of files, or check one of them. -/
def sortFiles (name : Bytes) (style : SortStyle) (words : List Bytes) : Printing Nat := do
  match style.checks, style.target, words with
  | some letter, _, _ :: extra :: _ =>
      warn name (utf8 "extra operand " ++ Quoting.word extra ++
        utf8 " not allowed with -" ++ utf8 letter.toString)
      return troubleCode
  | some letter, some _, _ =>
      refuseOption name (SortStyle.conflict (letter.toString ++ "o"))
      return troubleCode
  | some _, none, _ => checkSorted name style (words.headD hyphen)
  | none, _, _ =>
      let needed := (sources words).map (fun path => (path, FileUse.read, "cannot read")) ++
        style.target.toList.map (fun path => (path, FileUse.append, "open failed"))
      if let some problem ← inaccessible? needed then
        warn name problem
        return troubleCode
      let mut files : List (List Bytes) := []
      for path in sources words do
        match ← readSource path "cannot read" with
        | .error problem =>
            warn name problem
            return troubleCode
        | .ok content => files := files ++ [style.linesOf content]
      putSorted name style files

/-- The files that are sorted, given those that were named; nothing after a
complaint. -/
def sortedFiles? (name : Bytes) (style : SortStyle) (words : List Bytes) :
    Printing (Option (List Bytes)) := do
  match style.list, words with
  | none, _ => return some words
  | some _, extra :: _ =>
      adviseAs name (utf8 "extra operand " ++ Quoting.word extra ++
        utf8 "\nfile operands cannot be combined with --files0-from")
      return none
  | some path, [] =>
      match ← readNames path with
      | .ok names => return some names
      | .error problem =>
          warn name problem
          return none

/-- The program that sorts lines. -/
def sort (name : Bytes) (args : List Bytes) : Printing Nat :=
  withOptions name SortStyle.forms troubleCode args {} SortStyle.change (fun style words => do
    match ← sortedFiles? name style words with
    | none => return troubleCode
    | some words =>
        match style.complete with
        | .ok style => sortFiles name style words
        | .error problem =>
            refuseOption name problem
            return troubleCode) SortStyle.keyWords

end Overseer.Machine

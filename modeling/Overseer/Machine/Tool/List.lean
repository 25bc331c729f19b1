import Overseer.File.Search
import Overseer.Machine.Tool.Columns
import Overseer.Machine.Tool.Source
import Overseer.Shell.Pattern
import Overseer.Text.Version

/-!
# Listing directories

The names in directories, in an order and a layout, with signs for what they are the
names of.
-/

namespace Overseer.Machine

open Overseer.File Overseer.Shell

/-- Which names in a directory are listed. -/
inductive NameChoice
  /-- Those that do not begin with a full stop. -/
  | visible
  /-- All but those of the directory itself and the one above. -/
  | almostAll
  /-- All. -/
  | all
deriving DecidableEq

/-- Which signs follow names. -/
inductive MarkStyle
  /-- None. -/
  | none
  /-- One for directories. -/
  | directories
  /-- One for everything that is no regular file. -/
  | kinds
  /-- One for programs, too. -/
  | classes
deriving DecidableEq

/-- In what layout names are listed. -/
inductive Layout
  /-- One name a line. -/
  | lines
  /-- Between commas. -/
  | commas
  /-- In columns from the top to the bottom. -/
  | downwards
  /-- In columns from one side to the other. -/
  | across
deriving DecidableEq

/-- What names are sorted by. -/
inductive NameOrder
  /-- By themselves. -/
  | name
  /-- Not at all. -/
  | none
  /-- By when they were changed, the latest first. -/
  | time
  /-- By size, the largest first. -/
  | size
  /-- By what follows the last full stop. -/
  | extension
  /-- With the numbers in them by their values. -/
  | version
  /-- By their lengths. -/
  | width
deriving DecidableEq

/-- How names are shown. -/
inductive NameQuoting
  /-- As they are. -/
  | literal
  /-- As a shell reads them, between quotes if needed or always, with escapes or
  not. -/
  | word (always escapes : Bool)
  /-- Between double quotes, if needed or always. -/
  | double (always : Bool)
  /-- With escapes. -/
  | escaped
  /-- Between the quotes of a language, single or double ones, with escapes. -/
  | language (doubled : Bool)
deriving DecidableEq

/-- When something is done. -/
inductive Occasion
  /-- Always. -/
  | always
  /-- Never. -/
  | never
  /-- If the output is a terminal. -/
  | terminal
deriving DecidableEq

/-- Which links are followed. -/
inductive LinkChoice
  /-- None. -/
  | none
  /-- Arguments that lead to directories. -/
  | directoryArguments
  /-- Arguments. -/
  | arguments
  /-- All. -/
  | all
deriving DecidableEq

/-- How directories are listed. -/
structure ListStyle where
  /-- Which names are listed. -/
  choice : NameChoice := .visible
  /-- Patterns of names that are not listed. -/
  ignored : List Bytes := []
  /-- Patterns of names that are not listed unless more names are asked for. -/
  hidden : List Bytes := []
  /-- Whether names that end in a tilde are left out. -/
  omitsBackups : Bool := false
  /-- Whether directories are listed like files. -/
  directoriesAsFiles : Bool := false
  /-- Whether directories in directories are listed as well. -/
  recursive : Bool := false
  /-- Whether directories come before other files. -/
  directoriesFirst : Bool := false
  /-- Which links are followed, if that was said. -/
  links : Option LinkChoice := none
  /-- The signs after names. -/
  marks : MarkStyle := .none
  /-- The layout. -/
  layout : Layout := .lines
  /-- What names are sorted by. -/
  order : NameOrder := .name
  /-- Whether they are sorted the other way round. -/
  reversed : Bool := false
  /-- How names are shown. -/
  quoting : NameQuoting := .literal
  /-- Whether question marks are shown for what cannot be. -/
  masks : Bool := false
  /-- What ends a line. -/
  terminator : UInt8 := Byte.newline
  /-- How wide lines are. -/
  page : PageWidth := {}

namespace ListStyle

/-- The options of `ls`. -/
def forms : List OptionForm :=
  [.both 'a' "all", .both 'b' "escape", .both 'd' "directory", .both 'D' "dired",
    .long "full-time", .long "group-directories-first", .both 'h' "human-readable",
    .both 'i' "inode", .both 'k' "kibibytes", .both 'n' "numeric-uid-gid", .both 'G' "no-group",
    .both 'q' "hide-control-chars", .both 'r' "reverse", .both 's' "size",
    .both 'w' "width" .required, .both 'A' "almost-all", .both 'B' "ignore-backups",
    .long "classify" .optional, .long "file-type", .long "si", .both 'H' "dereference-command-line",
    .long "dereference-command-line-symlink-to-dir", .long "hide" .required,
    .both 'I' "ignore" .required, .long "indicator-style" .required, .both 'L' "dereference",
    .both 'N' "literal", .both 'Q' "quote-name", .long "quoting-style" .required,
    .both 'R' "recursive", .long "format" .required, .long "show-control-chars",
    .long "sort" .required, .both 'T' "tabsize" .required, .long "time" .required,
    .long "time-style" .required, .long "zero", .long "color" .optional,
    .long "hyperlink" .optional, .long "block-size" .required, .both 'Z' "context",
    .long "author", .short 'F'] ++
    "cfglmoptuvxCSUX1".toList.map (OptionForm.short ·)

/-- The orders that can be asked for by name. -/
def orderNames : List (String × NameOrder) :=
  [("none", .none), ("time", .time), ("size", .size), ("extension", .extension),
    ("version", .version), ("width", .width)]

/-- The layouts that can be asked for by name. -/
def layoutNames : List (String × Option Layout) :=
  [("verbose", none), ("long", none), ("commas", some .commas), ("horizontal", some .across),
    ("across", some .across), ("vertical", some .downwards), ("single-column", some .lines)]

/-- The signs that can be asked for by name. -/
def markNames : List (String × MarkStyle) :=
  [("none", .none), ("slash", .directories), ("file-type", .kinds), ("classify", .classes)]

/-- The ways to show names that can be asked for by name. -/
def quotingNames : List (String × NameQuoting) :=
  [("literal", .literal), ("shell", .word false false), ("shell-always", .word true false),
    ("shell-escape", .word false true), ("shell-escape-always", .word true true),
    ("c", .double true), ("c-maybe", .double false), ("escape", .escaped),
    ("locale", .language false), ("clocale", .language true)]

/-- The occasions that can be asked for by name. -/
def occasionNames : List (String × Occasion) :=
  [("always", .always), ("yes", .always), ("force", .always), ("never", .never), ("no", .never),
    ("none", .never), ("auto", .terminal), ("tty", .terminal), ("if-tty", .terminal)]

/-- The names of the times of files, with what each is the time of. -/
def timeNames : List (String × String) :=
  [("atime", "access"), ("access", "access"), ("use", "access"), ("ctime", "status"),
    ("status", "status"), ("mtime", "content"), ("modification", "content"),
    ("birth", "creation"), ("creation", "creation")]

/-- The occasion that the value of an option names. -/
def occasion (option : GivenOption) : Except OptionProblem Occasion :=
  match option.value with
  | none => .ok .always
  | some value => chooseByName ("--" ++ option.key) occasionNames value

/-- A number that an option gives. -/
def numberValue (problem : String) (text : Bytes) : Except OptionProblem Nat :=
  match readNumber? text with
  | some n => .ok n
  | none => .error (.plain (utf8 problem ++ utf8 ": " ++ Quoting.single text))

/-- The style with an option. -/
def change (style : ListStyle) (option : GivenOption) : Except OptionProblem ListStyle :=
  let value := option.value.getD []
  match option.key with
  | "a" => .ok { style with choice := .all }
  | "A" => .ok { style with choice := .almostAll }
  | "b" => .ok { style with quoting := .escaped }
  | "B" => .ok { style with omitsBackups := true }
  | "C" => .ok { style with layout := .downwards }
  | "d" => .ok { style with directoriesAsFiles := true }
  | "f" => .ok { style with choice := .all, order := .none }
  | "F" => .ok { style with marks := .classes }
  | "classify" => do
      return if (← occasion option) = .always then { style with marks := .classes } else style
  | "file-type" => .ok { style with marks := .kinds }
  | "p" => .ok { style with marks := .directories }
  | "indicator-style" => do
      return { style with marks := ← chooseByName "--indicator-style" markNames value }
  | "group-directories-first" => .ok { style with directoriesFirst := true }
  | "H" => .ok { style with links := some .arguments }
  | "L" => .ok { style with links := some .all }
  | "dereference-command-line-symlink-to-dir" =>
      .ok { style with links := some .directoryArguments }
  | "hide" => .ok { style with hidden := style.hidden ++ [value] }
  | "I" => .ok { style with ignored := style.ignored ++ [value] }
  | "m" => .ok { style with layout := .commas }
  | "N" => .ok { style with quoting := .literal }
  | "Q" => .ok { style with quoting := .double true }
  | "quoting-style" => do
      return { style with quoting := ← chooseByName "--quoting-style" quotingNames value }
  | "q" => .ok { style with masks := true }
  | "show-control-chars" => .ok { style with masks := false }
  | "r" => .ok { style with reversed := true }
  | "R" => .ok { style with recursive := true }
  | "S" => .ok { style with order := .size }
  | "t" => .ok { style with order := .time }
  | "U" => .ok { style with order := .none }
  | "v" => .ok { style with order := .version }
  | "X" => .ok { style with order := .extension }
  | "sort" => do return { style with order := ← chooseByName "--sort" orderNames value }
  | "x" => .ok { style with layout := .across }
  | "1" => .ok { style with layout := .lines }
  | "format" => do
      let layout ← chooseByName "--format" layoutNames value
      return { style with layout := layout.getD style.layout }
  | "w" => do
      return { style with page := { style.page with
        line := ← numberValue "invalid line width" value } }
  | "T" => do
      return { style with page := { style.page with
        tab := ← numberValue "invalid tab size" value } }
  | "zero" => .ok { style with
      terminator := 0, layout := .lines, quoting := .literal, masks := false }
  | "time" => do
      let _ ← chooseByName "--time" timeNames value
      return style
  | "color" | "hyperlink" => do
      let _ ← occasion option
      return style
  | _ => .ok style

/-- Which links are followed. -/
def followed (style : ListStyle) : LinkChoice :=
  style.links.getD
    (if style.directoriesAsFiles || style.marks = .classes then .none else .directoryArguments)

end ListStyle

/-- Something that is listed. -/
structure Listed where
  /-- Its name. -/
  name : Bytes
  /-- Where it is. -/
  place : Place
  /-- What it is, if that is known. -/
  node : Option Node

namespace Listed

/-- The sign after a name. -/
def mark (style : MarkStyle) (item : Listed) : Bytes :=
  match style, item.node with
  | .none, _ | _, none => []
  | _, some .directory => utf8 "/"
  | .directories, _ => []
  | _, some (.link _) => utf8 "@"
  | _, some .pipe => utf8 "|"
  | .classes, some node => if node.isRegular && node.isExecutableBySomebody then utf8 "*" else []
  | .kinds, _ => []

/-- How large it is. -/
def size (item : Listed) : Nat :=
  match item.node with
  | some (.file _ content) => content.length
  | some (.link target) => target.length
  | some (.program _) => 100000
  | some .directory => 4096
  | _ => 0

/-- What follows the last full stop in a name, with that. -/
def extension (item : Listed) : Bytes :=
  let after := (item.name.reverse.takeWhile (· ≠ Byte.dot)).reverse
  if after.length = item.name.length then [] else Byte.dot :: after

end Listed

namespace ListStyle

/-- A name as it is shown. -/
def showName (style : ListStyle) (name : Bytes) : Bytes :=
  let signs : Bytes := match style.marks with
    | .kinds => utf8 "=@|"
    | .classes => utf8 "*=@|"
    | _ => []
  match style.quoting with
  | .literal =>
      if style.masks then name.map (fun b => if Quoting.isPrintable b then b else 0x3f) else name
  | .word always true =>
      if always || Quoting.needsQuotes name || name.any signs.contains then Quoting.word name
      else name
  | .word always false =>
      if always || Quoting.needsPlainQuotes name || name.any signs.contains then
        Quoting.plainWord name
      else name
  | .double true => Quoting.double name
  | .double false => Quoting.doubleIfNeeded name
  | .escaped => Quoting.escaped (Byte.space :: signs) name
  | .language doubled => if doubled then Quoting.double name else Quoting.single name

/-- The path of a directory as its title has it. -/
def showTitle (style : ListStyle) (path : Bytes) : Bytes :=
  let hasColon := path.contains Byte.colon
  match style.quoting with
  | .word false true => if hasColon then Quoting.word path else style.showName path
  | .word false false => if hasColon then Quoting.plainWord path else style.showName path
  | .escaped => Quoting.escaped [Byte.colon] path
  | .double always =>
      if always || hasColon then
        [Byte.doubleQuote] ++ Quoting.escaped [Byte.doubleQuote, Byte.colon] path ++
          [Byte.doubleQuote]
      else style.showName path
  | .language doubled =>
      let quote := if doubled then Byte.doubleQuote else Byte.quote
      [quote] ++ Quoting.escaped [quote, Byte.colon] path ++ [quote]
  | _ => style.showName path

/-- Whether a name is left out of a directory. -/
def leavesOut (style : ListStyle) (name : Bytes) : Bool :=
  let isMatched (patterns : List Bytes) : Bool :=
    patterns.any (fun text =>
      let pattern := Pattern.ofLetters (text.map (fun byte => { byte, quoted := false }))
      pattern.accepts name &&
        (name.head? ≠ some Byte.dot || pattern.head? = some (.exactly Byte.dot)))
  (match style.choice with
    | .all => false
    | .almostAll => name = here || name = above
    | .visible => name.head? = some Byte.dot || isMatched style.hidden) ||
    isMatched style.ignored || (style.omitsBackups && name.getLast? = some Version.tilde)

/-- Compare what is listed, apart from directories coming first. -/
def compareItems (style : ListStyle) (tree : Tree) (a b : Listed) : Ordering :=
  let names := if a.name = b.name then Ordering.eq else if a.name < b.name then .lt else .gt
  let time (item : Listed) : Nat := ((tree.change? item.place).map (· + 1)).getD 0
  match style.order with
  | .name | .none => names
  | .time => (compare (time b) (time a)).then names
  | .size => (compare b.size a.size).then names
  | .extension =>
      let x := a.extension
      let y := b.extension
      (if x = y then .eq else if x < y then Ordering.lt else .gt).then names
  | .version => (Version.compareNames a.name b.name).then names
  | .width =>
      (compare (shownWidth (style.showName a.name)) (shownWidth (style.showName b.name))).then names

/-- What is listed, in order. -/
def sortItems (style : ListStyle) (tree : Tree) (items : List Listed) : List Listed :=
  let precedes (a b : Listed) : Bool :=
    let order := style.compareItems tree a b
    (if style.reversed then order.swap else order) ≠ .gt
  let sorted := if style.order = .none then items else items.mergeSort precedes
  if style.directoriesFirst && style.order ≠ .none then
    let leads (item : Listed) : Bool :=
      match item.node with
      | some .directory => true
      | some (.link _) => (tree.stat item.place.dropLast item.name).toOption.any Node.isDirectory
      | _ => false
    let (directories, others) := sorted.partition leads
    directories ++ others
  else sorted

/-- What is listed, as it is printed. -/
def showItems (style : ListStyle) (items : List Listed) : Bytes :=
  let quoted (item : Listed) : Bool := style.showName item.name ≠ item.name
  let maybeQuoted := match style.quoting with
    | .word false _ | .double false => true
    | _ => false
  let isAligned := maybeQuoted && style.page.line ≠ 0 &&
    (style.layout = .downwards || style.layout = .across) && items.any quoted
  let names := items.map (fun item =>
    (if isAligned && !quoted item then [Byte.space] else []) ++
      style.showName item.name ++ item.mark style.marks)
  if names.isEmpty then []
  else
    match style.layout with
    | .lines => names.flatMap (· ++ [style.terminator])
    | .commas => separated style.page (utf8 ",") 0 names ++ [style.terminator]
    | layout =>
        if style.page.line = 0 then
          separated style.page [Byte.space] 0 names ++ [style.terminator]
        else inColumns style.page (layout = .downwards) names

/-- Whether it has to be known what links in directories lead to. -/
def looksThroughLinks (style : ListStyle) : Bool :=
  style.followed = .all &&
    (style.marks ≠ .none || style.recursive || style.directoriesFirst || style.order = .time ||
      style.order = .size)

/-- What is listed under a name in a directory, and why it is not known what a link
leads to. -/
def listedIn (style : ListStyle) (tree : Tree) (place : Place) (name : Bytes) :
    Listed × Option Errno :=
  let inside := if name = here then place else if name = above then place.dropLast
    else place ++ [name]
  let itself : Listed := { name, place := inside, node := tree.node? inside }
  if style.looksThroughLinks && itself.node.any Node.isLink then
    match tree.resolve place name with
    | .ok target => ({ name, place := target, node := tree.node? target }, none)
    | .error errno => (itself, some errno)
  else (itself, none)

/-- What is in a directory, in order, and what is not known of it. -/
def contents (style : ListStyle) (tree : Tree) (path : Bytes) (place : Place) :
    List Listed × List (Bytes × Errno) :=
  let names := ([here, above] ++ tree.names place).filter (fun name => !style.leavesOut name)
  let items := names.map (style.listedIn tree place)
  (style.sortItems tree (items.map Prod.fst),
    items.filterMap (fun (item, errno) =>
      let full := if path = here then item.name else join path item.name
      errno.map (fun errno => (full, errno))))

/-- A part of what listing comes to. -/
inductive ListingPart
  /-- Text that is printed. -/
  | text (text : Bytes)
  /-- A path that could not be followed. -/
  | failure (path : Bytes) (errno : Errno)

/-- A directory and, if that was asked for, those in it, each with its title if they have
one, after a gap; the first argument bounds how deep they are. -/
def showDirectories (style : ListStyle) (tree : Tree) (titled : Bool) :
    Nat → Bytes → Bytes → Place → List ListingPart
  | 0, _, _, _ => []
  | fuel + 1, gap, path, place =>
      let (items, failures) := style.contents tree path place
      let title := if titled then gap ++ style.showTitle path ++ utf8 ":\n" else []
      let inner := items.filter (fun item =>
        style.recursive && item.node = some .directory && item.name ≠ here && item.name ≠ above)
      [.text title] ++ failures.map (fun (path, errno) => .failure path errno) ++
        [.text (style.showItems items)] ++
        inner.flatMap (fun item => showDirectories style tree titled fuel [Byte.newline]
          (join path item.name) item.place)

end ListStyle

/-- What a path given as an argument leads to. -/
def findListed (style : ListStyle) (o : Outlook) (path : Bytes) : Except Errno Listed :=
  let itself : Except Errno Place := o.tree.resolveLink o.place path
  let target : Except Errno Place := o.tree.resolve o.place path
  let isDirectory (place : Place) : Bool := (o.tree.node? place).any Node.isDirectory
  let found : Except Errno Place :=
    match style.followed with
    | .none => itself
    | .arguments | .all => target
    | .directoryArguments =>
        match target with
        | .ok place => if isDirectory place then .ok place else itself
        | .error errno =>
            if errno = .noEntry || errno = .linkLoop then itself else .error errno
  found.map (fun place => { name := path, place, node := o.tree.node? place })

/-- How deep directories are followed. -/
def depthLimit : Nat :=
  10000

/-- List directories.  Files come first; with several arguments each directory gets a
title. -/
def ls (name : Bytes) (args : List Bytes) : Printing Nat :=
  withOptions name ListStyle.forms troubleCode args {} ListStyle.change (fun style words => do
    let o ← look
    let mut status := 0
    let mut items : List Listed := []
    for path in (if words.isEmpty then [here] else words) do
      match findListed style o path with
      | .error errno =>
          warnOf name (utf8 "cannot access " ++ Quoting.word path) errno
          status := troubleCode
      | .ok item => items := items ++ [item]
    let (directories, files) := items.partition (fun item =>
      item.node = some .directory && !style.directoriesAsFiles)
    let titled := style.recursive || 1 < words.length
    if !files.isEmpty then
      print (style.showItems (style.sortItems o.tree files))
      if !directories.isEmpty then print [Byte.newline]
    let mut gap : Bytes := []
    for item in style.sortItems o.tree directories do
      for part in style.showDirectories o.tree titled depthLimit gap item.name item.place do
        match part with
        | .text text => print text
        | .failure path errno =>
            warnOf name (utf8 "cannot access " ++ Quoting.word path) errno
            status := max status 1
      gap := [Byte.newline]
    return status)

end Overseer.Machine

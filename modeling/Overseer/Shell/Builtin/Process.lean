import Overseer.Shell.Builtin.Print
import Overseer.Shell.Search

/-!
# Commands for what processes inherit

The commands built into the shell that change its directory, the permissions of new
files and the limits, all of which programs inherit.
-/

namespace Overseer.Shell

open Overseer.Machine Overseer.File

/-! ## Directories -/

/-- The names of a path as they stand when those that lead nowhere are left out,
and one that leads upwards takes away the one before it. -/
def plainNames (names : List Bytes) : List Bytes :=
  names.foldl (fun before name =>
    if name.isEmpty || name = here then before
    else if name = above then before.dropLast
    else before ++ [name]) []

/-- Whether a path begins with exactly two slashes, which it keeps. -/
def hasTwoSlashes (path : Bytes) : Bool :=
  path.take 2 = [Byte.slash, Byte.slash] && (path.drop 2).head? ≠ some Byte.slash

/-- The path of a directory that a path leads to from another directory. -/
def pathFrom (directory path : Bytes) : Bytes :=
  let whole := if path.head? = some Byte.slash then path else directory ++ [Byte.slash] ++ path
  let plain := placePath (plainNames (Bytes.splitOn Byte.slash whole))
  if hasTwoSlashes whole then Byte.slash :: plain else plain

/-- Set a variable that programs are given. -/
def assignExported (name value : Bytes) : Work Unit := do
  assign name value
  modify (·.give name)

/-- The variable with the directories that others are looked for in. -/
def directorySearchName : Bytes :=
  utf8 "CDPATH"

/-- Whether a path tells by itself where it leads from. -/
def isAnchored (path : Bytes) : Bool :=
  let first := path.takeWhile (· ≠ Byte.slash)
  path.head? = some Byte.slash || first = here || first = above

/-- The path by which a directory is entered, and whether it is shown then. -/
def State.directoryPath (s : State) (o : Outlook) (path : Bytes) : Bytes × Bool :=
  let target := if path.isEmpty then here else path
  if isAnchored path then (path, false)
  else
    let entries := ((s.values.find? directorySearchName).map (Bytes.splitOn Byte.colon)).getD []
    let found := entries.findSome? (fun entry =>
      let candidate := if entry.isEmpty then target else entry ++ Byte.slash :: target
      if ((o.tree.stat o.place candidate).toOption).any Node.isDirectory then
        some (candidate, !entry.isEmpty)
      else none)
    found.getD (target, false)

/-- The option to leave links out of the path of the directory. -/
def leavesOutLinks (options : List ReadOption) : Bool :=
  options.getLast?.any (fun option => option.letter = 0x50)

/-- Change the directory. -/
def changeDirectory (args : List Bytes) : Work Nat := do
  let (options, words) ← takeOptions { alone := "LP" } args
  let s ← get
  let goesBack := words.head? = some hyphen
  let named := (if goesBack then s.values.find? formerDirectoryName
    else words.head?.or (s.values.find? homeName)).getD []
  let o ← onSystem look
  let (path, isFound) := s.directoryPath o named
  let place? := if leavesOutLinks options then o.tree.resolve o.place path
    else o.tree.resolve [] (pathFrom s.directory path)
  match place?.toOption.filter (fun place => (o.tree.node? place).any Node.isDirectory) with
  | none =>
      giveUp (utf8 "can't cd to " ++ if named.isEmpty then here else named)
  | some place =>
      let physical := placePath place
      let directory := if leavesOutLinks options then physical else pathFrom s.directory path
      onSystem (fun next => .enter place (next ()))
      assignExported formerDirectoryName s.directory
      modify (fun s => { s with directory, physical })
      assignExported directoryName directory
      modify State.doubt
      if goesBack || isFound then printLine "cd" directory else pure 0

/-- Print the directory. -/
def printDirectory (args : List Bytes) : Work Nat := do
  let (options, _) ← takeOptions { alone := "LP" } args
  let s ← get
  printLine "pwd" (if leavesOutLinks options then s.physical else s.directory)

/-! ## Permissions of new files -/

/-- Three permissions for each of three kinds of users. -/
def allPermissions : Nat :=
  0o777

/-- The permissions in letters. -/
def permissionLetters (permissions : Nat) : String :=
  let kind (letter : String) (bits : Nat) : String :=
    letter ++ "=" ++ (if bits.testBit 2 then "r" else "") ++ (if bits.testBit 1 then "w" else "") ++
      (if bits.testBit 0 then "x" else "")
  kind "u" (permissions / 0o100) ++ "," ++ kind "g" (permissions / 0o10) ++ "," ++
    kind "o" permissions

/-- The kinds of users that a letter stands for, as the permission bits to execute. -/
def usersOf? (letter : UInt8) : Option Nat :=
  if letter = 0x61 then some 0o111
  else if letter = 0x75 then some 0o100
  else if letter = 0x67 then some 0o010
  else if letter = 0x6f then some 0o001
  else none

/-- The three permissions that a letter stands for, given all that are granted. -/
def permissionsOf? (granted : Nat) (letter : UInt8) : Option Nat :=
  if letter = 0x72 then some 4
  else if letter = 0x77 then some 2
  else if letter = 0x78 then some 1
  else if letter = 0x75 then some (granted / 0o100 % 8)
  else if letter = 0x67 then some (granted / 0o10 % 8)
  else if letter = 0x6f then some (granted % 8)
  else if letter = 0x58 then some (if granted &&& 0o111 = 0 then 0 else 1)
  else if letter = 0x73 then some 0
  else none

/-- Change permissions as letters say: the users, a sign, and what they are granted, with
commas between.  The permissions `granted` are those that letters for users stand for. -/
def changePermissions (granted : Nat) : Nat → Nat → Nat → Bytes → Option Nat
  | 0, _, now, _ => some now
  | _ + 1, _, now, [] => some now
  | fuel + 1, users, now, text =>
      let named := text.takeWhile (fun b => (usersOf? b).isSome)
      let users := named.foldl (fun all b => all ||| (usersOf? b).getD 0) users
      let users := if users = 0 then 0o111 else users
      match text.drop named.length with
      | [] => some now
      | sign :: rest =>
          if !(utf8 "=+-").contains sign then none
          else
            let letters := rest.takeWhile (fun b => (permissionsOf? granted b).isSome)
            let bits := letters.foldl (fun all b => all ||| (permissionsOf? granted b).getD 0) 0
            let bits := bits * users
            let now :=
              if sign = 0x2d then now &&& (allPermissions ^^^ bits)
              else if sign = 0x2b then now ||| bits
              else bits ||| (now &&& (allPermissions ^^^ (users * 7)))
            match rest.drop letters.length with
            | 0x2c :: rest => changePermissions granted fuel 0 now rest
            | rest => changePermissions granted fuel users now rest

/-- Print or change which permissions new files do not get. -/
def changeMask (args : List Bytes) : Work Nat := do
  let (options, words) ← takeOptions { alone := "S" } args
  let mask := (← onSystem look).mask
  let setMask (mask : Nat) : Work Nat := do
    onSystem (fun next => .setMask (mask &&& allPermissions) (next ()))
    pure 0
  let granted := allPermissions ^^^ mask
  match words with
  | [] =>
      let digits := digitsIn 8 mask
      if options.isEmpty then printLine "umask" (List.replicate (4 - digits.length) 0x30 ++ digits)
      else printLine "umask" (utf8 (permissionLetters granted))
  | text :: _ =>
      if text.head?.any Byte.isDigit then
        if !text.all (isDigitIn 8) then giveUp (utf8 "Illegal number: " ++ text)
        setMask (digitsValue 8 text)
      else
        match changePermissions granted (text.length + 1) 0 granted text with
        | some granted => setMask (allPermissions ^^^ granted)
        | none => giveUp (utf8 "Illegal mode: " ++ text)

/-! ## Limits -/

/-- The letters of the limits. -/
def limitLetters : String :=
  "tfdscmlpnvwr"

/-- A limit in units, as it is shown. -/
def limitText (unit value : Nat) : Bytes :=
  if value = Limit.none then utf8 "unlimited" else decimal (Int.ofNat (value / unit))

/-- The value of a limit that is given in units; numbers of 64 bits wrap around. -/
def readLimit? (unit : Nat) (text : Bytes) : Option Nat :=
  if text = utf8 "unlimited" then some Limit.none
  else if text.all Byte.isDigit then
    some (digitsValue 10 text * unit % (greatestUnsigned + 1))
  else none

/-- Show limits or change one. -/
def changeLimit (args : List Bytes) : Work Nat := do
  let (options, words) ← takeOptions { alone := "HSa" ++ limitLetters } args
  let letters := options.map ReadOption.letter
  let all := letters.contains 0x61
  let what := ((letters.filter (utf8 limitLetters).contains).getLast?).getD fileSizeLetter
  let how := (letters.filter (fun letter => letter = 0x48 || letter = 0x53)).getLast?
  let limits := (← onSystem look).limits
  let shown (l : Limit) : Bytes :=
    limitText l.unit (if how = some 0x48 then l.bound else l.current) ++ [Byte.newline]
  match limit? limits what, words with
  | none, _ => pure 0
  | some l, [] =>
      let line (l : Limit) : Bytes :=
        utf8 (l.title ++ String.ofList (List.replicate (20 - l.title.length) ' ') ++ " ") ++ shown l
      printText "ulimit" (if all then limits.flatMap line else shown l)
  | some l, text :: more =>
      if all || !more.isEmpty then giveUp (utf8 "too many arguments")
      match readLimit? l.unit text with
      | none => giveUp (utf8 "bad number")
      | some value =>
          let current := if how = some 0x48 then none else some value
          let bound := if how = some 0x53 then none else some value
          match l.change current bound with
          | .error errno =>
              giveUp (utf8 "error setting limit (" ++ errno.description ++ utf8 ")")
          | .ok changed =>
              onSystem (fun next => .setLimit changed (next ()))
              pure 0

end Overseer.Shell

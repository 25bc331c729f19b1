import Overseer.Environment

/-!
# Searching for programs

A program named without a slash is searched for in the directories of the
search path, and the first directory that holds an executable file of that name
wins.  What an executable file is, is a parameter.
-/

namespace Overseer.File

/-- The components of a search path, in order.  They stand between colons; the text after the
last colon counts only if it is not empty. -/
def components (searchPath : Bytes) : List Bytes :=
  let pieces := Bytes.splitOn Byte.colon searchPath
  if pieces.getLast? = some [] then pieces.dropLast else pieces

/-- The directory that a component of a search path stands for.  An empty one stands for the
current directory. -/
def directoryOf (component : Bytes) : Bytes :=
  if component.isEmpty then [Byte.dot] else component

/-- The directories of a search path, in order. -/
def searchDirectories (searchPath : Bytes) : List Bytes :=
  (components searchPath).map directoryOf

/-- The path of a file in a directory: a slash comes between them unless the
directory ends in one. -/
def join (directory file : Bytes) : Bytes :=
  if directory.getLast? = some Byte.slash then directory ++ file
  else directory ++ Byte.slash :: file

/-- The variable that holds the search path. -/
def searchVariable : Bytes :=
  utf8 "PATH"

/-- The search path: that of the environment given for the new process, else
that of the running one, whose raw entries are `inherited`. -/
def searchPath (given : Option Environment) (inherited : List Bytes) : Bytes :=
  match given.bind (·.get? searchVariable) with
  | some value => value
  | none => (Environment.lookupRaw inherited searchVariable).getD []

/-- The path of the program to run, if there is one.  A name with a slash is a
path itself and is not looked for. -/
def findProgram (isProgram : Bytes → Bool) (searchPath file : Bytes) : Option Bytes :=
  if Byte.slash ∈ file then some file
  else ((searchDirectories searchPath).map (join · file)).find? isProgram

/-- A name with a slash is not searched for. -/
theorem findProgram_of_mem {isProgram : Bytes → Bool} {searchPath file : Bytes}
    (hslash : Byte.slash ∈ file) : findProgram isProgram searchPath file = some file := by
  simp [findProgram, hslash]

end Overseer.File

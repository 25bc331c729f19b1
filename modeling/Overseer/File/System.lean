import Overseer.File.Path

/-!
# The system around a working directory

The directories and programs that every working directory is surrounded by.
-/

namespace Overseer.File

/-- The names of the programs of the system. -/
def systemPrograms : List String :=
  ["sh", "echo", "printf", "cat", "head", "ls", "sort", "sleep", "true", "false"]

/-- The directory that holds the programs of the system. -/
def programPlace : Place :=
  [utf8 "usr", utf8 "bin"]

/-- The directory of devices. -/
def devicePlace : Place :=
  [utf8 "dev"]

/-- The devices by their names. -/
def devices : List (String × Device) :=
  [("null", .null), ("zero", .zero), ("full", .full), ("stdin", .stream 0), ("stdout", .stream 1),
    ("stderr", .stream 2)]

/-- The directory of devices that stand for open streams. -/
def streamPlace : Place :=
  devicePlace ++ [utf8 "fd"]

/-- The numbers of the open streams that there are devices for. -/
def streamNumbers : List Nat :=
  List.range 20

/-- The directory that work is done in. -/
def workPlace : Place :=
  [utf8 "tmp", utf8 "work"]

/-- Whether the user may make files in a directory. -/
def isOwnPlace (place : Place) : Bool :=
  place.head? = some (utf8 "tmp")

/-- The system with an empty working directory. -/
def systemTree : Tree :=
  { nodes :=
      [([utf8 "bin"], .link (utf8 "usr/bin")), (devicePlace, .directory),
        (streamPlace, .directory), ([utf8 "etc"], .directory),
        ([utf8 "tmp"], .directory), (workPlace, .directory), ([utf8 "usr"], .directory),
        (programPlace, .directory)] ++
      devices.map (fun (name, what) => (devicePlace ++ [utf8 name], .device what)) ++
      streamNumbers.map (fun n => (streamPlace ++ [utf8 (toString n)], .device (.stream n))) ++
      systemPrograms.map (fun name => (programPlace ++ [utf8 name], .program (utf8 name))) }

/-- Make the directories that names lead to from a place, as far as they are
missing: the tree with them, and where they lead. -/
def Tree.makeDirectories (t : Tree) (place : Place) : List Bytes → Tree × Place
  | [] => (t, place)
  | name :: rest =>
      match t.walk linkLimit place [name] with
      | .ok next => t.makeDirectories next rest
      | .error _ => (t.put (place ++ [name]) .directory).makeDirectories (place ++ [name]) rest

/-- Put a node at a path relative to the working directory, with the directories
above it. -/
def Tree.putInWork (t : Tree) (path : Bytes) (node : Node) : Tree :=
  let names := pathNames path
  if node.isDirectory then (t.makeDirectories workPlace names).1
  else
    let (t, directory) := t.makeDirectories workPlace names.dropLast
    t.put (directory ++ [names.getLastD here]) node

end Overseer.File

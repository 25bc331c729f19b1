import Overseer.Errno
import Overseer.File.Tree

/-!
# Paths

A path is read as the names between its slashes.  Walking it from a directory
follows symbolic links, the last one too, and fails with an error number.
-/

namespace Overseer.File

/-- The longest name a directory can hold. -/
def nameLimit : Nat :=
  255

/-- The length from which on a path is too long. -/
def pathLimit : Nat :=
  4096

/-- How many links one walk may follow. -/
def linkLimit : Nat :=
  40

/-- The name of a directory itself. -/
def here : Bytes :=
  [Byte.dot]

/-- The name of the directory above. -/
def above : Bytes :=
  [Byte.dot, Byte.dot]

/-- Whether a path starts at the root. -/
def isAbsolute (path : Bytes) : Bool :=
  path.head? = some Byte.slash

/-- The names of a path.  A slash at the end stands for the directory itself, so
that what is before it has to be one. -/
def pathNames (path : Bytes) : List Bytes :=
  let between := (Bytes.splitOn Byte.slash path).filter (fun name => !name.isEmpty)
  if path.getLast? = some Byte.slash then between ++ [here] else between

namespace Tree

/-- Walk names from a place, following at most `links` links. -/
def walk (t : Tree) (links : Nat) (place : Place) (rest : List Bytes) : Except Errno Place :=
  match rest with
  | [] => .ok place
  | name :: rest =>
      match t.node? place with
      | none => .error .noEntry
      | some .directory =>
          if name = here then t.walk links place rest
          else if name = above then t.walk links place.dropLast rest
          else if nameLimit < name.length then .error .nameTooLong
          else
            match t.node? (place ++ [name]) with
            | none => .error .noEntry
            | some (.link target) =>
                match links with
                | 0 => .error .linkLoop
                | links + 1 =>
                    let origin := if isAbsolute target then [] else place
                    t.walk links origin (pathNames target ++ rest)
            | some _ => t.walk links (place ++ [name]) rest
      | some _ => .error .notDirectory
termination_by (links, rest.length)

/-- Where a path leads from a directory.  Only the part before a NUL counts. -/
def resolve (t : Tree) (origin : Place) (path : Bytes) : Except Errno Place :=
  let path := Bytes.untilNul path
  if path.isEmpty then .error .noEntry
  else if pathLimit ≤ path.length then .error .nameTooLong
  else t.walk linkLimit (if isAbsolute path then [] else origin) (pathNames path)

/-- Where a path leads from a directory if a link at its end is not followed. -/
def resolveLink (t : Tree) (origin : Place) (path : Bytes) : Except Errno Place :=
  let path := Bytes.untilNul path
  match (pathNames path).reverse with
  | [] => t.resolve origin path
  | name :: before =>
      if name = here || name = above || pathLimit ≤ path.length then t.resolve origin path
      else
        match t.walk linkLimit (if isAbsolute path then [] else origin) before.reverse with
        | .error errno => .error errno
        | .ok place =>
            match t.node? (place ++ [name]) with
            | some (.link _) => .ok (place ++ [name])
            | _ => t.walk linkLimit place [name]

/-- What a path leads to. -/
def stat (t : Tree) (origin : Place) (path : Bytes) : Except Errno Node :=
  match t.resolve origin path with
  | .error errno => .error errno
  | .ok place =>
      match t.node? place with
      | some node => .ok node
      | none => .error .noEntry

/-- Whether something holds of what a path leads to.  That a name is missing, or that
there is something else in place of a directory, means that it does not; after any
other failure it cannot be told. -/
def holdsAt (t : Tree) (holds : Node → Bool) (origin : Place) (path : Bytes) :
    Except Errno Bool :=
  match t.stat origin path with
  | .ok node => .ok (holds node)
  | .error errno =>
      if errno = .noEntry ∨ errno = .notDirectory then .ok false else .error errno

/-- Whether a path leads to anything. -/
def pathExists (t : Tree) : Place → Bytes → Except Errno Bool :=
  t.holdsAt fun _ => true

/-- Whether a path leads to a regular file. -/
def isRegularFile (t : Tree) : Place → Bytes → Except Errno Bool :=
  t.holdsAt Node.isRegular

/-- Whether a path leads to a regular file that the user may execute.  Which paths he may
execute is for the system to say: it depends on who he is, and on the directories on the
way as well as on the file.  A test that cannot be made is not passed. -/
def isProgramFor (t : Tree) (mayExecute : Bytes → Bool) (origin : Place) (path : Bytes) : Bool :=
  (t.pathExists origin path).toOption = some true &&
    (t.isRegularFile origin path).toOption = some true && mayExecute path

/-- What somebody may execute who owns all files and may search all directories. -/
def ownerMayExecute (t : Tree) (origin : Place) (path : Bytes) : Bool :=
  (t.stat origin path).toOption.any Node.isExecutableByOwner

/-- Whether a path leads to a regular file that its owner may execute. -/
def isProgram (t : Tree) (origin : Place) : Bytes → Bool :=
  t.isProgramFor (t.ownerMayExecute origin) origin

end Tree

end Overseer.File

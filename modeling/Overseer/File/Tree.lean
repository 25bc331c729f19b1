import Overseer.Text.Bytes

/-!
# File trees

A file tree says what stands at each place.  A place is the list of names that
leads to it from the root, without links.
-/

namespace Overseer.File

/-- The names that lead from the root to something. -/
abbrev Place := List Bytes

/-- What a device does. -/
inductive Device
  /-- It takes everything and gives nothing. -/
  | null
  /-- It takes everything and gives zeros. -/
  | zero
  /-- It takes nothing, being full, and gives zeros. -/
  | full
  /-- It stands for the open stream of a number, whoever asks. -/
  | stream (d : Int)
deriving DecidableEq, Repr

/-- What stands at a place. -/
inductive Node
  /-- A directory. -/
  | directory
  /-- A regular file with its permission bits. -/
  | file (mode : Nat) (content : Bytes)
  /-- A regular file that holds a program of the system, known by its name. -/
  | program (name : Bytes)
  /-- A device. -/
  | device (what : Device)
  /-- A pipe. -/
  | pipe
  /-- A symbolic link. -/
  | link (target : Bytes)
deriving DecidableEq

namespace Node

/-- Whether the node is a directory. -/
def isDirectory : Node → Bool
  | directory => true
  | _ => false

/-- Whether the node is a symbolic link. -/
def isLink : Node → Bool
  | link _ => true
  | _ => false

/-- Whether the node is a device. -/
def isDevice : Node → Bool
  | device _ => true
  | _ => false

/-- Whether the node is a regular file. -/
def isRegular : Node → Bool
  | file _ _ | program _ => true
  | _ => false

/-- The permission bit that lets its owner read a file. -/
def readBit : Nat :=
  0o400

/-- The permission bit that lets its owner write a file. -/
def writeBit : Nat :=
  0o200

/-- The permission bit that lets its owner execute a file. -/
def executeBit : Nat :=
  0o100

/-- The permission bits that let anybody execute a file: its owner, its group, or the others. -/
def executeBits : Nat :=
  0o111

/-- Whether the node may be read.  The user owns the files and no more. -/
def isReadable : Node → Bool
  | file mode _ => mode &&& readBit != 0
  | _ => true

/-- Whether the node may be written. -/
def isWritable : Node → Bool
  | file mode _ => mode &&& writeBit != 0
  | program _ => false
  | _ => true

/-- Whether its owner may execute the node.  What the bits let others do does not matter to
him. -/
def isExecutableByOwner : Node → Bool
  | file mode _ => mode &&& executeBit != 0
  | program _ => true
  | directory => true
  | _ => false

/-- Whether there is anybody who may execute the node. -/
def isExecutableBySomebody : Node → Bool
  | file mode _ => mode &&& executeBits != 0
  | program _ => true
  | directory => true
  | _ => false

/-- Whether the size of the node is not zero. -/
def hasContent : Node → Bool
  | file _ content => !content.isEmpty
  | directory | program _ => true
  | _ => false

end Node

/-- What stands where; the root is always a directory. -/
structure Tree where
  /-- The nodes below the root, each at a place of its own. -/
  nodes : List (Place × Node) := []
  /-- When nodes were changed last, if they were since the beginning. -/
  changes : List (Place × Nat) := []
deriving DecidableEq

namespace Tree

/-- The node at a place. -/
def node? (t : Tree) (place : Place) : Option Node :=
  if place.isEmpty then some .directory
  else (t.nodes.find? (fun entry => entry.1 = place)).map Prod.snd

/-- Put a node at a place, instead of what stood there. -/
def put (t : Tree) (place : Place) (node : Node) : Tree :=
  { t with nodes := t.nodes.filter (fun entry => entry.1 ≠ place) ++ [(place, node)] }

/-- When the node at a place was changed last; nothing if it was not since the
beginning. -/
def change? (t : Tree) (place : Place) : Option Nat :=
  (t.changes.find? (fun entry => entry.1 = place)).map Prod.snd

/-- Take note of a change. -/
def touch (t : Tree) (place : Place) (time : Nat) : Tree :=
  { t with changes := (place, time) :: t.changes.filter (fun entry => entry.1 ≠ place) }

/-- Whether the node at a place was changed after that at another one. -/
def isNewer (t : Tree) (place other : Place) : Bool :=
  match t.change? place, t.change? other with
  | some time, some before => decide (before < time)
  | some _, none => true
  | none, _ => false

/-- The names in a directory. -/
def names (t : Tree) (place : Place) : List Bytes :=
  t.nodes.filterMap (fun entry =>
    if entry.1.dropLast = place then entry.1.getLast? else none)

end Tree

end Overseer.File

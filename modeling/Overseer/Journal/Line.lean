import Overseer.Journal.Level
import Overseer.Text.Significant

/-!
# Journal lines

A line names the library and its level in front of a body, which is put
together from arguments of several kinds.
-/

namespace Overseer

namespace Journal

/-- One of the values a body is put together from. -/
inductive Argument
  /-- A text, written as it is. -/
  | text (value : Bytes)
  /-- An integer, written in decimal. -/
  | int (value : Int)
  /-- A truth value, written as a digit. -/
  | bool (value : Bool)
  /-- A binary number, written with six significant digits. -/
  | real (value : Significant.Binary)
  /-- A path, written between double quotes. -/
  | path (value : Bytes)
deriving DecidableEq

/-- The text of an argument. -/
def Argument.render : Argument → Bytes
  | text value => value
  | int value => decimal value
  | bool value => decimal (if value then 1 else 0)
  | real value => Significant.render value
  | path value => value.quoted

/-- The body of the given arguments. -/
def body (arguments : List Argument) : Bytes :=
  arguments.flatMap Argument.render

/-- A whole line. -/
def line (level : Level) (content : Bytes) : Bytes :=
  utf8 "[procexec] " ++ utf8 level.name ++ utf8 ": " ++ content ++ [Byte.newline]

/-- What a journal with the given least level writes for a body: one line, or
nothing. -/
def written (minimum level : Level) (content : Bytes) : Bytes :=
  if Level.isWritten minimum level then line level content else []

end Journal

end Overseer

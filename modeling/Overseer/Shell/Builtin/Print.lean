import Overseer.Shell.Option
import Overseer.Shell.Test

/-!
# Commands that print and test

The commands built into the shell that print words and that test conditions.
-/

namespace Overseer.Shell

open Overseer.Machine

/-- Print a text: the code. -/
def printText (command : String) (text : Bytes) : Work Nat := do
  match ← onSystem (writeTo standardOutput text) with
  | .ok () => pure 0
  | .error _ =>
      grumble (utf8 (command ++ ": I/O error"))
      pure 1

/-- Print a text on a line of its own. -/
def printLine (command : String) (text : Bytes) : Work Nat :=
  printText command (text ++ [Byte.newline])

/-- Test something. -/
def test (args : List Bytes) : Work Nat := do
  match evaluateTest (← onSystem look) args with
  | .ok value => pure (if value then 0 else 1)
  | .error complaint =>
      grumble complaint
      pure failureCode

/-- Test something between brackets, of which only the first byte of the closing one
counts. -/
def bracket (args : List Bytes) : Work Nat := do
  if (args.getLast?.bind List.head?) = some 0x5d then test args.dropLast
  else
    grumble (utf8 "missing ]")
    pure failureCode

/-- The escapes of a shell. -/
def shellEscapes : EscapeStyle :=
  { zeroFirst := true, stops := true }

/-- How a shell prints under formats. -/
def shellFormatStyle : FormatStyle where
  escapes := {}
  argumentEscapes := shellEscapes
  flags := "#-+ 0"
  allows _ letter := letter = 'b' || conversionLetters.contains letter
  floats := .binary64
  loneQuotes := true
  numberComplaint problem argument :=
    argument ++ match problem with
      | .missing => utf8 ": expected numeric value"
      | .incomplete => utf8 ": not completely converted"
      | .range => utf8 ": Numerical result out of range"
  directiveComplaint directive := directive ++ utf8 ": invalid directive"
  endComplaint _ := utf8 "missing format character"
  failure := failureCode

/-- Print arguments under a format. -/
def shellPrintf (args : List Bytes) : Work Nat := do
  match ← takeArguments args with
  | [] =>
      grumble (utf8 "usage: printf format [arg ...]")
      pure failureCode
  | format :: args =>
      let f := formatAll shellFormatStyle format args
      f.complaints.forM grumble
      let code ← printText "printf" f.text
      pure (if f.code = 0 then code else f.code)

/-- Print words the way the shell does: escapes are replaced. -/
def shellEcho (args : List Bytes) : Work Nat :=
  let escapes := some shellEscapes
  match args with
  | [0x2d, 0x6e] :: words => printText "echo" (echoText { newline := false, escapes } words)
  | words => printText "echo" (echoText { escapes } words)

end Overseer.Shell

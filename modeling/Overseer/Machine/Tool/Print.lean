import Overseer.Machine.Format
import Overseer.Machine.Printing

/-!
# Programs that print their arguments
-/

namespace Overseer.Machine

/-- How words are printed. -/
structure EchoStyle where
  /-- Whether a line feed comes at the end. -/
  newline : Bool := true
  /-- Which escapes are replaced, if any are. -/
  escapes : Option EscapeStyle := none

/-- The escapes of `echo`. -/
def echoEscapes : EscapeStyle :=
  { zeroFirst := true, hexadecimal := true, stops := true }

/-- Take the options off the arguments of `echo`. -/
def echoOptions (style : EchoStyle) : List Bytes → EchoStyle × List Bytes
  | [] => (style, [])
  | word :: rest =>
      match word with
      | 0x2d :: letters =>
          if letters.isEmpty || !letters.all (fun b => b = 0x6e || b = 0x65 || b = 0x45) then
            (style, word :: rest)
          else
            let style := letters.foldl (fun (s : EchoStyle) (b : UInt8) =>
              if b = 0x6e then { s with newline := false }
              else { s with escapes := if b = 0x65 then some echoEscapes else none }) style
            echoOptions style rest
      | _ => (style, word :: rest)

/-- The words in the given style. -/
def echoText (style : EchoStyle) (words : List Bytes) : Bytes :=
  let text := unwords words
  let u : Unescaped := match style.escapes with
    | some escapes => unescape escapes text
    | none => { text }
  u.text ++ if style.newline && !u.ends then [Byte.newline] else []

/-- Print the arguments. -/
def echo (_ : Bytes) (args : List Bytes) : Printing Nat := do
  let (style, words) := echoOptions {} args
  print (echoText style words)
  return 0

/-- The conversion letters of formats. -/
def conversionLetters : List Char :=
  ['d', 'i', 'o', 'u', 'x', 'X', 'c', 's', 'e', 'E', 'f', 'F', 'g', 'G', 'a', 'A']

/-- Whether a directive of `printf` goes with a conversion letter. -/
def printfAllows (d : Directive) (letter : Char) : Bool :=
  let excluded : List Char :=
    (if d.has '\'' || d.has 'I' then ['a', 'A', 'c', 'e', 'E', 'o', 's', 'x', 'X'] else []) ++
      (if d.has '#' then ['c', 'd', 'i', 's', 'u'] else []) ++
      (if d.has '0' then ['c', 's'] else []) ++
      (if d.hasPoint then ['c'] else [])
  if letter = 'b' || letter = 'q' then d.isBare
  else conversionLetters.contains letter && !excluded.contains letter

/-- How `printf` prints. -/
def printfStyle : FormatStyle where
  escapes := { hexadecimal := true, strict := true, stops := true, quotes := true }
  argumentEscapes :=
    { zeroFirst := true, hexadecimal := true, strict := true, stops := true, quotes := true }
  flags := "-+ #0'I"
  lengths := "lLhjtz"
  allows := printfAllows
  floats := .extended80
  loneQuotes := false
  numberComplaint problem argument :=
    Quoting.single argument ++ match problem with
      | .missing => utf8 ": expected a numeric value"
      | .incomplete => utf8 ": value not completely converted"
      | .range => utf8 ": Numerical result out of range"
  characterComplaint? := some (fun ignored => utf8 "warning: " ++ ignored ++
    utf8 ": character(s) following character constant have been ignored")
  directiveComplaint directive := directive ++ utf8 ": invalid conversion specification"
  failure := 1
  excessComplaint? :=
    some (fun first => utf8 "warning: ignoring excess arguments, starting with " ++
      Quoting.single first)

/-- Print arguments under a format. -/
def printf (name : Bytes) (args : List Bytes) : Printing Nat := do
  let args := if args.head? = some (utf8 "--") then args.tail else args
  match args with
  | [] =>
      adviseAs name (utf8 "missing operand")
      pure 1
  | format :: args =>
      let f := formatAll printfStyle format args
      for part in f.parts do
        match part with
        | .text text => print text
        | .complaint text => warn name text
      return f.code

end Overseer.Machine

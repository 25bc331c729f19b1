import Overseer.Machine.Tool.Source
import Overseer.Text.Size

/-!
# Beginnings of files

The beginning of a file is so many of its lines or bytes, or all of them but so many.
-/

namespace Overseer.Machine

/-- What is kept of a text. -/
structure HeadStyle where
  /-- How much is kept, or left out. -/
  count : Nat := 10
  /-- Whether bytes are counted and not lines. -/
  bytes : Bool := false
  /-- Whether so much is left out at the end. -/
  exceptLast : Bool := false
  /-- What ends a line. -/
  terminator : UInt8 := Byte.newline
  /-- Whether every file gets a title, if that was said. -/
  titled : Option Bool := none

namespace HeadStyle

/-- The options of `head`. -/
def forms : List OptionForm :=
  [.both 'c' "bytes" .required, .both 'n' "lines" .required,
    { key := "q", letter := 'q', names := ["quiet", "silent"] }, .both 'v' "verbose",
    .both 'z' "zero-terminated", .long "-presume-input-pipe"] ++
    "0123456789".toList.map (OptionForm.short ·)

/-- The style with another count. -/
def counting (style : HeadStyle) (bytes : Bool) (text : Bytes) : Except OptionProblem HeadStyle :=
  match Size.read text with
  | .ok count => .ok { style with count, bytes }
  | .error problem =>
      let counted := if bytes then "bytes" else "lines"
      .error (.plain (utf8 ("invalid number of " ++ counted ++ ": ") ++ Quoting.single text ++
        match problem with
        | .invalid => []
        | .range => utf8 ": " ++ Errno.overflow.description))

/-- The style with another count, where a minus sign says that so much is to be left
out. -/
def countingSigned (style : HeadStyle) (bytes : Bool) :
    Bytes → Except OptionProblem HeadStyle
  | 0x2d :: text => { style with exceptLast := true }.counting bytes text
  | text => { style with exceptLast := false }.counting bytes text

/-- That a letter may not stand after a count. -/
def strayLetter (letter : Bytes) : OptionProblem :=
  .advised (utf8 "invalid trailing option -- " ++ letter)

/-- The style with an option. -/
def change (style : HeadStyle) (option : GivenOption) : Except OptionProblem HeadStyle :=
  match option.key with
  | "c" => style.countingSigned true (option.value.getD [])
  | "n" => style.countingSigned false (option.value.getD [])
  | "q" => .ok { style with titled := some false }
  | "v" => .ok { style with titled := some true }
  | "z" => .ok { style with terminator := 0 }
  | key =>
      if (utf8 key).all Byte.isDigit then .error (strayLetter (utf8 key)) else .ok style

/-- The style that letters after a count ask for, and the letter for a multiple of
the count. -/
def trailing : HeadStyle → Bytes → Bytes → Except OptionProblem (HeadStyle × Bytes)
  | style, multiple, [] => .ok (style, multiple)
  | style, multiple, letter :: rest =>
      match Char.ofNat letter.toNat with
      | 'c' => trailing { style with bytes := true } [] rest
      | 'b' | 'k' | 'm' => trailing { style with bytes := true } [letter] rest
      | 'l' => trailing { style with bytes := false } multiple rest
      | 'q' => trailing { style with titled := some false } multiple rest
      | 'v' => trailing { style with titled := some true } multiple rest
      | 'z' => trailing { style with terminator := 0 } multiple rest
      | _ => .error (strayLetter [letter])

/-- The style that a first argument asks for which is a count after a minus sign, and
the other arguments. -/
def leading (args : List Bytes) : Except OptionProblem (HeadStyle × List Bytes) :=
  match args with
  | (0x2d :: text) :: rest =>
      let digits := text.takeWhile Byte.isDigit
      if digits.isEmpty then .ok ({}, args)
      else do
        let (style, multiple) ← trailing {} [] (text.drop digits.length)
        let style ← style.counting style.bytes (digits ++ multiple)
        return (style, rest)
  | _ => .ok ({}, args)

/-- The beginning of a text of that many lines. -/
def firstLines (style : HeadStyle) (count : Nat) (text : Bytes) : Bytes :=
  let pieces := Bytes.splitOn style.terminator text
  if count < pieces.length then (pieces.take count).flatMap (· ++ [style.terminator]) else text

/-- How many lines a text has. -/
def lineCount (style : HeadStyle) (text : Bytes) : Nat :=
  let ends := text.count style.terminator
  if text.getLast?.all (· = style.terminator) then ends else ends + 1

/-- The beginning of a text. -/
def keep (style : HeadStyle) (text : Bytes) : Bytes :=
  let total := if style.bytes then text.length else style.lineCount text
  let count := if style.exceptLast then total - style.count else style.count
  if style.bytes then text.take count else style.firstLines count text

end HeadStyle

/-- How many bytes are read at a time to find a beginning. -/
def headBlock : Nat :=
  8192

/-- Print, or give up. -/
def putKept (name text : Bytes) : Printing Unit := do
  if let .error errno ← put text then
    set ({} : Unwritten)
    giveUp name (utf8 "error writing 'standard output': " ++ errno.description) 1

/-- Print the beginning of what is read, of some number of bytes; the first number bounds
the number of reads. -/
def printBytes (name : Bytes) (source : Descriptor) : Nat → Nat → Printing (Except Errno Unit)
  | 0, _ | _, 0 => return .ok ()
  | fuel + 1, count => do
      match ← readFrom source (min count headBlock) with
      | .error errno => return .error errno
      | .ok [] => return .ok ()
      | .ok data =>
          putKept name data
          printBytes name source fuel (count - data.length)

/-- Print the beginning of what is read, of some number of lines; the first number bounds
the number of reads.  What was read after the lines is given back, if it comes from a
file. -/
def printLines (name : Bytes) (style : HeadStyle) (source : Descriptor) :
    Nat → Nat → Printing (Except Errno Unit)
  | 0, _ | _, 0 => return .ok ()
  | fuel + 1, count => do
      match ← readFrom source headBlock with
      | .error errno => return .error errno
      | .ok [] => return .ok ()
      | .ok data =>
          let found := data.count style.terminator
          if found < count then
            putKept name data
            printLines name style source fuel (count - found)
          else
            let kept := style.firstLines count data
            giveBack source (data.length - kept.length)
            putKept name kept
            return .ok ()

/-- Print the beginning of what is read. -/
def HeadStyle.printFrom (style : HeadStyle) (name : Bytes) (source : Descriptor) :
    Printing (Except Errno Unit) := do
  if style.exceptLast then
    match ← readAll source readLimit [] with
    | .error errno => return .error errno
    | .ok text =>
        let kept := style.keep text
        giveBack source (text.length - kept.length)
        putKept name kept
        return .ok ()
  else if style.bytes then printBytes name source readLimit style.count
  else printLines name style source readLimit style.count

/-- A path as titles and complaints have it. -/
def sourceTitle (path : Bytes) : Bytes :=
  if path = hyphen then utf8 "standard input" else path

/-- Print the beginnings of files in a style: the code. -/
def printHeads (name : Bytes) (style : HeadStyle) (titled : Bool) (paths : List Bytes) :
    Printing Nat := do
  let mut status := 0
  let mut gap : Bytes := []
  for path in paths do
    let title := if titled then gap ++ utf8 "==> " ++ sourceTitle path ++ utf8 " <==\n" else []
    let shown := Quoting.word (sourceTitle path)
    match ← withSource path (fun d => do
        print title
        style.printFrom name d) with
    | .error errno =>
        warnOf name (utf8 "cannot open " ++ shown ++ utf8 " for reading") errno
        status := 1
    | .ok reply =>
        gap := [Byte.newline]
        if let .error errno := reply then
          warnOf name (utf8 "error reading " ++ shown) errno
          status := 1
  requireInput name hyphen paths
  return status

/-- Print the beginnings of files.  With several files each gets a title. -/
def head (name : Bytes) (args : List Bytes) : Printing Nat :=
  match HeadStyle.leading args with
  | .error problem => do
      refuseOption name problem
      pure 1
  | .ok (style, args) =>
      withOptions name HeadStyle.forms 1 args style HeadStyle.change (fun style words =>
        let paths := sources words
        printHeads name style (style.titled.getD (decide (1 < paths.length))) paths)

end Overseer.Machine

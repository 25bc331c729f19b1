import Overseer.Machine.Tool.Source
import Overseer.Text.Numeral

/-!
# Copying files

Files are copied to the output one after the other.  On the way lines may be
numbered, blank lines left out, and what cannot be seen be shown.
-/

namespace Overseer.Machine

/-- How files are copied. -/
structure CopyStyle where
  /-- Whether lines are numbered. -/
  numbers : Bool := false
  /-- Whether only lines that hold something are numbered. -/
  numbersFilled : Bool := false
  /-- Whether of several blank lines only one is kept. -/
  squeezes : Bool := false
  /-- Whether the ends of lines are shown. -/
  showsEnds : Bool := false
  /-- Whether tabs are shown. -/
  showsTabs : Bool := false
  /-- Whether other bytes that cannot be seen are shown. -/
  showsHidden : Bool := false
deriving DecidableEq

namespace CopyStyle

/-- The options of `cat`. -/
def forms : List OptionForm :=
  [.both 'b' "number-nonblank", .both 'n' "number", .both 's' "squeeze-blank",
    .both 'v' "show-nonprinting", .both 'E' "show-ends", .both 'T' "show-tabs",
    .both 'A' "show-all", .short 'e', .short 't', .short 'u']

/-- The style with an option. -/
def change (style : CopyStyle) (option : GivenOption) : CopyStyle :=
  match option.key with
  | "b" => { style with numbers := true, numbersFilled := true }
  | "n" => { style with numbers := true }
  | "s" => { style with squeezes := true }
  | "v" => { style with showsHidden := true }
  | "E" => { style with showsEnds := true }
  | "T" => { style with showsTabs := true }
  | "A" => { style with showsHidden := true, showsEnds := true, showsTabs := true }
  | "e" => { style with showsHidden := true, showsEnds := true }
  | "t" => { style with showsHidden := true, showsTabs := true }
  | _ => style

/-- A byte as it is shown. -/
def showByte (style : CopyStyle) (b : UInt8) : Bytes :=
  let visible (b : UInt8) : Bytes :=
    if b < 0x20 then [0x5e, b + 0x40] else if b = 0x7f then utf8 "^?" else [b]
  if b = Byte.tab then if style.showsTabs then utf8 "^I" else [b]
  else if !style.showsHidden then [b]
  else if b < 0x80 then visible b
  else utf8 "M-" ++ visible (b - 0x80)

end CopyStyle

/-- Where in a text the copying is. -/
structure CopyState where
  /-- How many lines were numbered. -/
  line : Nat := 0
  /-- Whether a line begins. -/
  fresh : Bool := true
  /-- How many blank lines there were right before, at most two. -/
  blanks : Nat := 0
  /-- Whether a carriage return was held back, which is shown if a line ends. -/
  returning : Bool := false

namespace CopyState

/-- The number before a line. -/
def nextNumber (s : CopyState) : Bytes :=
  let digits := digitsIn 10 (s.line + 1)
  List.replicate (6 - digits.length) Byte.space ++ digits ++ [Byte.tab]

/-- What a byte of a text becomes. -/
def copyByte (style : CopyStyle) (s : CopyState) (b : UInt8) : Bytes × CopyState :=
  let held : Bytes := if s.returning then [Byte.carriageReturn] else []
  if b = Byte.newline then
    let ending := (if s.returning then utf8 "^M" else []) ++
      (if style.showsEnds then utf8 "$" else []) ++ [b]
    if s.fresh && !s.returning then
      let blanks := min 2 (s.blanks + 1)
      if style.squeezes && 1 < blanks then ([], { s with blanks })
      else if style.numbers && !style.numbersFilled then
        (s.nextNumber ++ ending, { s with blanks, line := s.line + 1 })
      else (ending, { s with blanks })
    else (ending, { s with fresh := true, blanks := 0, returning := false })
  else
    let (number, s) :=
      if s.fresh && style.numbers then (s.nextNumber, { s with line := s.line + 1 }) else ([], s)
    let s := { s with fresh := false, blanks := 0, returning := false }
    if b = Byte.carriageReturn && style.showsEnds && !style.showsHidden then
      (number ++ held, { s with returning := true })
    else (number ++ held ++ style.showByte b, s)

/-- What a text becomes, after pieces of which the latest comes first. -/
def copyText (style : CopyStyle) : CopyState → List Bytes → Bytes → Bytes × CopyState
  | s, before, [] => (before.reverse.flatten, s)
  | s, before, b :: rest =>
      let (piece, s) := s.copyByte style b
      copyText style s (piece :: before) rest

end CopyState

/-- Write at once, or give up. -/
def copyOut (name text : Bytes) : Printing Unit := do
  match ← writeTo standardOutput text with
  | .ok () => pure ()
  | .error errno => giveUp name (utf8 "write error: " ++ errno.description) 1

/-- Copy all that is read to the output; the argument bounds the number of reads. -/
def copyAll (name : Bytes) (style : CopyStyle) (source : Descriptor) :
    Nat → CopyState → Printing (Except Errno Unit × CopyState)
  | 0, _ => Act.leave .spin
  | fuel + 1, s => do
      match ← readFrom source blockSize with
      | .error errno => pure (.error errno, s)
      | .ok [] => pure (.ok (), s)
      | .ok data =>
          if style = {} then
            copyOut name data
            copyAll name style source fuel s
          else
            let (text, s) := s.copyText style [] data
            copyOut name text
            copyAll name style source fuel s

/-- Whether a stream of which something is left comes from the file that is the output,
so that copying it might never end. -/
def feedsItself (source : Descriptor) : Act Bool := do
  let o ← look
  match o.stream? source, o.stream? standardOutput with
  | some (.file _ content, some input), some (_, some output) =>
      return input.place = output.place && input.offset < content.length
  | _, _ => return false

/-- What copying a file comes to. -/
inductive CopyResult
  /-- It was copied. -/
  | copied
  /-- It is the output itself. -/
  | output
  /-- It could not be read. -/
  | failed (errno : Errno)

/-- Copy a stream to the output. -/
def copyStream (name : Bytes) (style : CopyStyle) (state : CopyState) (source : Descriptor) :
    Printing (CopyResult × CopyState) := do
  if ← feedsItself source then return (.output, state)
  match ← copyAll name style source readLimit state with
  | (.ok (), state) => return (.copied, state)
  | (.error errno, state) => return (.failed errno, state)

/-- Copy files to the output. -/
def cat (name : Bytes) (args : List Bytes) : Printing Nat :=
  withOptions name CopyStyle.forms 1 args {} (fun style option => .ok (style.change option))
    (fun style words => do
      if ((← look).stream? standardOutput).isNone then
        giveUp name (utf8 "standard output: " ++ Errno.badDescriptor.description) 1
      let paths := sources words
      let mut status := 0
      let mut state : CopyState := {}
      for path in paths do
        let (result, next) : CopyResult × CopyState ←
          match ← withSource path (copyStream name style state) with
          | .ok reply => pure reply
          | .error errno => pure (.failed errno, state)
        state := next
        match result with
        | .copied => pure ()
        | .output =>
            warn name (Quoting.fileName path ++ utf8 ": input file is output file")
            status := 1
        | .failed errno =>
            warnOf name (Quoting.fileName path) errno
            status := 1
      if state.returning then copyOut name [Byte.carriageReturn]
      requireInput name (utf8 "closing standard input") paths
      return status)

end Overseer.Machine

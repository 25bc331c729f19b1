import Overseer.Machine.Printing

/-!
# Options

The options among the arguments of a program.  An option has a letter or names, or
both; letters may stand together in one word, and names may be cut short as long as
it is clear which option is meant.
-/

namespace Overseer.Machine

/-- Whether an option has a value. -/
inductive ValueForm
  /-- It has none. -/
  | none
  /-- It has one, in the same word or the next. -/
  | required
  /-- It may have one, in the same word. -/
  | optional
deriving DecidableEq, Repr

/-- How an option is written. -/
structure OptionForm where
  /-- What the program knows it by. -/
  key : String
  /-- Its letter. -/
  letter : Option Char := .none
  /-- Its names. -/
  names : List String := []
  /-- Whether it has a value. -/
  value : ValueForm := .none

namespace OptionForm

/-- An option with only a letter. -/
def short (letter : Char) (value : ValueForm := .none) : OptionForm :=
  { key := letter.toString, letter, value }

/-- An option with a letter and a name. -/
def both (letter : Char) (name : String) (value : ValueForm := .none) : OptionForm :=
  { key := letter.toString, letter, names := [name], value }

/-- An option with only a name. -/
def long (name : String) (value : ValueForm := .none) : OptionForm :=
  { key := name, names := [name], value }

end OptionForm

/-- An option that was given. -/
structure GivenOption where
  /-- What the program knows it by. -/
  key : String
  /-- Its value, if it has one. -/
  value : Option Bytes := none
  /-- How it was written, in full. -/
  written : String := ""

/-- The options a program was given, and the other words. -/
structure Options where
  /-- The options, in order. -/
  given : List GivenOption := []
  /-- The other words. -/
  words : List Bytes := []
  /-- What is wrong with the option after those, at which reading has ended. -/
  problem : Option Bytes := none

namespace Options

/-- Whether an option was given. -/
def has (o : Options) (key : String) : Bool :=
  o.given.any (fun entry => entry.key = key)

/-- Add an option. -/
def add (o : Options) (key written : String) (value : Option Bytes := none) : Options :=
  { o with given := o.given ++ [{ key, value, written }] }

/-- Read the letters of one word, given the words after it; the words that are
left come back. -/
def readLetters (forms : List OptionForm) (o : Options) : Bytes → List Bytes → Options × List Bytes
  | [], words => (o, words)
  | letter :: rest, words =>
      let refuse (text : String) : Options × List Bytes :=
        ({ o with problem := some (utf8 text ++ utf8 " -- '" ++ [letter] ++ utf8 "'") }, words)
      let isMeant (f : OptionForm) : Bool := f.letter.any (fun c => c.toNat = letter.toNat)
      let written := String.ofList ['-', Char.ofNat letter.toNat]
      match forms.find? isMeant with
      | none => refuse "invalid option"
      | some { key, value := .none, .. } => readLetters forms (o.add key written) rest words
      | some { key, value := .optional, .. } =>
          (o.add key written (if rest.isEmpty then none else some rest), words)
      | some { key, value := .required, .. } =>
          match rest, words with
          | [], [] => refuse "option requires an argument"
          | [], value :: words => (o.add key written (some value), words)
          | value, words => (o.add key written (some value), words)

/-- The options that a name or its beginning may mean, each with its full name. -/
def meanings (forms : List OptionForm) (name : Bytes) : List (OptionForm × String) :=
  let all := forms.flatMap (fun f => f.names.map (fun full => (f, full)))
  match all.find? (fun entry => utf8 entry.2 = name) with
  | some entry => [entry]
  | none =>
      match all.filter (fun entry => name.isPrefixOf (utf8 entry.2)) with
      | [] => []
      | first :: others => first :: others.filter (fun entry => entry.1.key ≠ first.1.key)

/-- Read an option by its name, given what follows the two minus signs and the
words after it; the words that are left come back. -/
def readName (forms : List OptionForm) (o : Options) (text : Bytes) (words : List Bytes) :
    Options × List Bytes :=
  let name := text.takeWhile (· ≠ Byte.equals)
  let value := if name.length < text.length then some (text.drop (name.length + 1)) else none
  let shown (name : Bytes) : Bytes := utf8 "'--" ++ name ++ utf8 "'"
  let refuse (problem : Bytes) : Options × List Bytes := ({ o with problem := some problem }, words)
  match meanings forms name with
  | [] => refuse (utf8 "unrecognized option " ++ shown text)
  | [(form, full)] =>
      match form.value, value, words with
      | .none, some _, _ => refuse (utf8 "option " ++ shown (utf8 full) ++
          utf8 " doesn't allow an argument")
      | .required, none, [] => refuse (utf8 "option " ++ shown (utf8 full) ++
          utf8 " requires an argument")
      | .required, none, value :: words => (o.add form.key ("--" ++ full) (some value), words)
      | _, value, words => (o.add form.key ("--" ++ full) value, words)
  | several =>
      refuse (utf8 "option " ++ shown text ++ utf8 " is ambiguous; possibilities:" ++
        several.flatMap (fun entry => Byte.space :: shown (utf8 entry.2)))

/-- Read options among words; the number bounds how many words there are.  Other words
may count as options all the same, given the words after them; then these options come
back and the words that are left. -/
def read (forms : List OptionForm)
    (counts : Bytes → List Bytes → Option (List GivenOption × List Bytes)) :
    Nat → Options → List Bytes → Options
  | 0, o, words => { o with words := o.words ++ words }
  | _ + 1, o, [] => o
  | fuel + 1, o, word :: rest =>
      let goOn (next : Options × List Bytes) : Options :=
        if next.1.problem.isSome then next.1 else read forms counts fuel next.1 next.2
      match word with
      | [0x2d, 0x2d] => { o with words := o.words ++ rest }
      | 0x2d :: 0x2d :: text => goOn (readName forms o text rest)
      | 0x2d :: letter :: letters => goOn (readLetters forms o (letter :: letters) rest)
      | _ =>
          match counts word rest with
          | some (given, rest) => read forms counts fuel { o with given := o.given ++ given } rest
          | none => read forms counts fuel { o with words := o.words ++ [word] } rest

end Options

/-- What is wrong with an option. -/
inductive OptionProblem
  /-- The program says how it explains itself. -/
  | advised (text : Bytes)
  /-- The program says no more than that, maybe on several lines. -/
  | plain (text : Bytes) (more : List Bytes := [])
  /-- The value is none of those that there are.  The program says which these are and
  how it explains itself, and ends with a code for this alone. -/
  | unmatched (text : Bytes)

/-- The code of a program that was given a value which is none of those that there
are. -/
def unmatchedCode : Nat :=
  1

/-- The code of a program that refuses to work because of an option, given that for
most problems. -/
def OptionProblem.code (failure : Nat) : OptionProblem → Nat
  | .unmatched _ => unmatchedCode
  | _ => failure

/-- The values there are, those that mean the same on one line. -/
def listValues {α : Type} [DecidableEq α] (choices : List (String × α)) : Bytes :=
  let meanings := (choices.map Prod.snd).eraseDups
  meanings.flatMap (fun meaning =>
    let names := (choices.filter (fun choice => choice.2 = meaning)).map Prod.fst
    utf8 "\n  - " ++ Bytes.joinWith (utf8 ", ") (names.map (fun n => Quoting.single (utf8 n))))

/-- What a value given by its name or the beginning of it means. -/
def chooseByName {α : Type} [DecidableEq α] (option : String) (choices : List (String × α))
    (text : Bytes) : Except OptionProblem α :=
  let refuse (problem : String) : Except OptionProblem α :=
    .error (.unmatched (utf8 (problem ++ " argument ") ++ Quoting.single text ++ utf8 " for '" ++
      utf8 option ++ utf8 "'\nValid arguments are:" ++ listValues choices))
  match choices.find? (fun choice => utf8 choice.1 = text) with
  | some choice => .ok choice.2
  | none =>
      let near := choices.filter (fun choice => text.isPrefixOf (utf8 choice.1))
      let candidates := near.map Prod.snd
      match candidates.eraseDups with
      | [] => refuse "invalid"
      | [meaning] => .ok meaning
      | _ => refuse "ambiguous"

/-- Go through the options that were given, up to the first thing that is wrong. -/
def Options.foldGiven {α : Type} (o : Options) (start : α)
    (step : α → GivenOption → Except OptionProblem α) : Except OptionProblem α := do
  let value ← o.given.foldlM step start
  match o.problem with
  | some problem => throw (.advised problem)
  | none => return value

/-- Refuse to work because of an option. -/
def refuseOption (name : Bytes) : OptionProblem → Act Unit
  | .advised text | .unmatched text => adviseAs name text
  | .plain text more => complain ((text :: more).flatMap (fun line =>
      name ++ utf8 ": " ++ line ++ [Byte.newline]))

/-- The options of every program, with which it does nothing else. -/
def generalForms : List OptionForm :=
  [.long "help", .long "version"]

/-- Do something with what the options among the arguments of a program come to, and
with the other words, of which some may count as options; or say what is wrong. -/
def withOptions {α : Type} (name : Bytes) (forms : List OptionForm) (failure : Nat)
    (args : List Bytes) (start : α) (step : α → GivenOption → Except OptionProblem α)
    (use : α → List Bytes → Printing Nat)
    (counts : Bytes → List Bytes → Option (List GivenOption × List Bytes) := fun _ _ => none) :
    Printing Nat :=
  let options := Options.read (forms ++ generalForms) counts (args.length + 1) {} args
  match options.foldGiven start step with
  | .ok value =>
      if generalForms.any (fun form => options.has form.key) then pure 0
      else use value options.words
  | .error problem => do
      refuseOption name problem
      pure (problem.code failure)

end Overseer.Machine

import Overseer.Shell.Alias
import Overseer.Shell.Token

/-!
# Reading shell commands

Commands are read from tokens, a line at a time: what stands on one line is run
before the next is read.  Where a command begins, a word that is the name of an alias
gives way to the text it stands for.
-/

namespace Overseer.Shell

/-- Why tokens cannot be read as a command. -/
inductive SyntaxProblem
  /-- A token, or the end of the script, stands where it cannot. -/
  | unexpected (line : Nat) (token : Option Token) (expecting : Option Token)
  /-- Something nested in a text is not closed. -/
  | unterminated (line : Nat) (inside : Nest)
  /-- A loop was to have a variable that cannot be one. -/
  | badVariable (line : Nat)
  /-- A function was to have a name that it cannot have. -/
  | badFunction (line : Nat)
deriving DecidableEq, Repr

/-- The line of a problem. -/
def SyntaxProblem.line : SyntaxProblem → Nat
  | unexpected line _ _ | unterminated line _ | badVariable line | badFunction line => line

/-- Whether the problem is that the script ends too early. -/
def SyntaxProblem.isEarlyEnd : SyntaxProblem → Bool
  | unexpected _ none _ | unterminated _ _ => true
  | _ => false

/-- Why commands cannot be read, and the words that were read before, the latest
first. -/
structure Refusal where
  /-- The problem. -/
  problem : SyntaxProblem
  /-- The words. -/
  words : List Word

/-- A word between double quotes. -/
def inDoubleQuotes (text : Bytes) : Bytes :=
  utf8 "\"" ++ text ++ utf8 "\""

/-- A token as it is named in a complaint. -/
def Token.name : Token → Bytes
  | word raw =>
      if isReserved raw then inDoubleQuotes raw else utf8 "word"
  | operator text => inDoubleQuotes (utf8 text)
  | redirection _ _ => utf8 "redirection"
  | newline | document _ _ _ => utf8 "newline"
  | unterminated _ _ _ => utf8 "end of file"

/-- What is said of a script that ends inside something nested. -/
def Nest.complaint : Nest → String
  | single | double => "Unterminated quoted string"
  | back => "EOF in backquote substitution"
  | brace | pattern => "Missing '\x7d'"
  | paren => "end of file unexpected (expecting \")\")"
  | sum | group => "Missing '))'"
  | document | ending => "end of file unexpected"

/-- The wording of a problem. -/
def SyntaxProblem.message : SyntaxProblem → Bytes
  | unexpected _ token expecting =>
      (token.map Token.name).getD (utf8 "end of file") ++ utf8 " unexpected" ++
        (match expecting with
          | some token => utf8 " (expecting " ++ token.name ++ utf8 ")"
          | none => [])
  | unterminated _ inside => utf8 inside.complaint
  | badVariable _ => utf8 "Bad for loop variable"
  | badFunction _ => utf8 "Bad function name"

/-- An alias in the text of which a reader is. -/
structure OpenAlias where
  /-- The alias. -/
  name : Bytes
  /-- The length of what follows its text. -/
  after : Nat
  /-- Whether the word after its text may be an alias as well. -/
  continues : Bool

/-- The tokens still to be read, and what was read. -/
structure Tokens where
  /-- The tokens. -/
  rest : List Lexeme
  /-- The line of the last token read. -/
  line : Nat
  /-- The line on which the script ends. -/
  final : Nat
  /-- The words that were read and will be expanded, the latest first. -/
  words : List Word := []
  /-- The aliases. -/
  aliases : List Alias := []
  /-- The aliases in the texts of which the next token stands. -/
  opened : List OpenAlias := []
  /-- Whether something in the script or the text of an alias is not closed. -/
  isOpen : Bool := false

/-- The tokens of a script, whose first line has a number. -/
def Tokens.ofScript (aliases : List Alias) (line : Nat) (script : Bytes) : Tokens :=
  let { lexemes := rest, final, isOpen } := tokenize line [] script
  { rest, line, final, aliases, isOpen }

/-- The line on which the next token ends, or else the script.  The texts that redirections
read after the end of a line do not count. -/
def Tokens.nextLine (t : Tokens) : Nat :=
  match t.rest with
  | [] => t.final
  | l :: _ => if l.token = .newline then l.first + 1 else l.last

/-- The tokens with the text of an alias in place of the next one, if that is its name
and does not stand in that text itself.  If `keepsReserved`, words with a meaning of
their own stay. -/
def Tokens.replaceAlias? (t : Tokens) (keepsReserved : Bool) : Option Tokens :=
  match t.aliases, t.rest with
  | [], _ | _, [] => none
  | aliases, l :: _ =>
      match l.token with
      | .word raw =>
          let length := l.rest.length
          let opened := t.opened.filter (fun o => o.after ≤ length)
          if (keepsReserved && isReserved raw) || opened.any (fun o => o.name = raw) then none
          else
            (alias? aliases raw).map (fun a =>
              let { lexemes := rest, isOpen, .. } := tokenize l.first l.asked (a.value ++ l.rest)
              let continues := a.value.getLast?.any Byte.isGap
              { t with
                rest
                opened := { name := raw, after := length, continues } :: opened
                isOpen := t.isOpen || isOpen })
      | _ => none

/-- The tokens after aliases have given way to their texts where a word after the text of
one may be one as well; the number bounds how many. -/
def Tokens.replaceFollowing : Nat → Tokens → Tokens
  | 0, t => t
  | fuel + 1, t =>
      match t.replaceAlias? false with
      | some t => t.replaceFollowing fuel
      | none => t

/-- The tokens after the next one. -/
def Tokens.advance (t : Tokens) : Tokens :=
  match t.rest with
  | [] => t
  | l :: rest =>
      let after : Tokens := { t with rest, line := l.last }
      if t.opened.isEmpty then after
      else
        let length := l.rest.length
        let next := (rest.head?.map (fun l => l.rest.length)).getD 0
        let mayFollow := t.opened.any (fun o => o.continues && o.after ≤ length && next < o.after)
        if mayFollow then after.replaceFollowing (t.aliases.length * (rest.length + 1)) else after

/-- A reader of commands. -/
abbrev Reader (α : Type) := StateT Tokens (Except Refusal) α

/-- Give up because of a problem at the next token, which may be a word itself.  Texts that
redirections read do not count as read if they come later. -/
def stopReading {α : Type} (problem : SyntaxProblem) (last : List Word := []) : Reader α := do
  let s ← get
  let line := (s.rest.head?.map Lexeme.first).getD s.final
  let words := s.words.filter (fun word => !(word.isDocument && line < word.line))
  throw { problem, words := last ++ words }

/-- The next token, left where it is. -/
def peek : Reader (Option Token) := do
  pure ((← get).rest.head?.map Lexeme.token)

/-- Go past the next token. -/
def skip : Reader Unit :=
  modify Tokens.advance

/-- The next token, a text as it is written, with the line it begins on. -/
def writtenHere (isDocument : Bool) (raw : Bytes) : Reader Word := do
  let s ← get
  let line := (s.rest.head?.map Lexeme.first).getD s.final
  pure { line, aliases := s.aliases, raw, isDocument }

/-- Go past the next token, which is a text that will be expanded. -/
def takeWord (isDocument : Bool) (raw : Bytes) : Reader Word := do
  let word ← writtenHere isDocument raw
  skip
  modify (fun s => { s with words := word :: s.words })
  pure word

/-- Give up at the next token.  If `reserves`, words can have a meaning of their own
there. -/
def refuse {α : Type} (expecting : Option Token) (reserves : Bool := true) : Reader α := do
  let s ← get
  match s.rest with
  | { token := .unterminated inside isDocument raw, last, .. } :: _ =>
      stopReading (.unterminated last inside) [← writtenHere isDocument raw]
  | { token := .word raw, last, .. } :: _ =>
      let token := Token.word (if reserves then raw else [])
      stopReading (.unexpected last (some token) expecting) [← writtenHere false raw]
  | rest => stopReading (.unexpected s.nextLine (rest.head?.map Lexeme.token) expecting)

/-- Whether the next token is a given unquoted word. -/
def atWord (text : String) : Reader Bool := do
  pure (decide ((← peek) = some (.word (utf8 text))))

/-- Whether the next token is a given operator. -/
def atOperator (text : String) : Reader Bool := do
  pure (decide ((← peek) = some (.operator text)))

/-- Go past a word that has to be there. -/
def expectWord (text : String) : Reader Unit := do
  if ← atWord text then skip else refuse (some (.word (utf8 text)))

/-- Go past an operator that has to be there; if `reserves`, words could have a meaning of
their own in its place. -/
def expectOperator (text : String) (reserves : Bool := true) : Reader Unit := do
  if ← atOperator text then skip else refuse (some (.operator text)) reserves

/-- Go past line ends. -/
def skipNewlines : Reader Unit :=
  modify (fun s =>
    let ends := s.rest.takeWhile (fun l => l.token = .newline)
    { s with rest := s.rest.drop ends.length, line := (ends.getLast?.map Lexeme.last).getD s.line })

/-- Let aliases give way to their texts where a command begins, perhaps after line
ends; the first argument bounds how many. -/
def beginWithin : Nat → Bool → Reader Unit
  | 0, _ => pure ()
  | fuel + 1, newlines => do
      if newlines then skipNewlines
      if let some s := (← get).replaceAlias? true then
        set s
        beginWithin fuel newlines

/-- Let aliases give way to their texts where a command begins, perhaps after line
ends. -/
def beginCommand (newlines : Bool) : Reader Unit := do
  let s ← get
  let bound := if s.aliases.isEmpty then 0 else s.aliases.length * (s.rest.length + 1)
  beginWithin (bound + 1) newlines

/-- The words that end a list of commands. -/
def closingWords : List String :=
  ["then", "else", "elif", "fi", "do", "done", "esac", "\x7d"]

/-- Whether a list of commands ends here. -/
def atEnd : Reader Bool := do
  match ← peek with
  | none => pure true
  | some (.operator op) => pure (op = ")" || op = ";;")
  | some (.word raw) => pure (closingWords.any (fun word => utf8 word = raw))
  | _ => pure false

/-- The name and the value of a word that is an assignment. -/
def assignment? (raw : Bytes) : Option (Bytes × Bytes) :=
  let name := raw.takeWhile Byte.isNamePart
  match name, raw.drop name.length with
  | first :: _, 0x3d :: value => if Byte.isNameStart first then some (name, value) else none
  | _, _ => none

/-- Whether a word is a name. -/
def isName (raw : Bytes) : Bool :=
  match raw with
  | first :: rest => Byte.isNameStart first && rest.all Byte.isNamePart
  | [] => false

/-- The redirections that come next. -/
def readRedirections : Nat → Reader (List Redirection)
  | 0 => pure []
  | fuel + 1 => do
      match ← peek with
      | some (.redirection descriptor kind) =>
          skip
          match ← peek with
          | some (.word raw) =>
              let target ← match kind with
                | .text false => do
                    let target ← writtenHere true raw
                    skip
                    pure target
                | .text true => takeWord true raw
                | _ => takeWord false raw
              pure ({ descriptor, kind, target } :: (← readRedirections fuel))
          | _ => refuse none
      | _ => pure []

/-- The parts of a simple command. -/
structure Parts where
  /-- The assignments in front. -/
  assignments : List (Bytes × Word) := []
  /-- The words. -/
  words : List Word := []
  /-- The redirections. -/
  redirections : List Redirection := []

/-- The parts of a simple command that come next. -/
def readParts : Nat → Parts → Reader Parts
  | 0, parts => pure parts
  | fuel + 1, parts => do
      if parts.words.isEmpty then beginWithin fuel false
      match ← peek with
      | some (.word raw) =>
          let word ← takeWord false raw
          match parts.words, assignment? raw with
          | [], some (name, value) =>
              let assigned := (name, { word with raw := value })
              readParts fuel { parts with assignments := parts.assignments ++ [assigned] }
          | _, _ => readParts fuel { parts with words := parts.words ++ [word] }
      | some (.redirection _ _) =>
          let found ← readRedirections 1
          readParts fuel { parts with redirections := parts.redirections ++ found }
      | _ => pure parts

/-- The words up to the end of a line or a semicolon. -/
def readItems : Nat → Reader (List Word)
  | 0 => pure []
  | fuel + 1 => do
      match ← peek with
      | some (.word raw) =>
          let item ← takeWord false raw
          pure (item :: (← readItems fuel))
      | _ => pure []

/-- The patterns of a body, which have bars between them.  An operator counts as a
pattern that nothing matches. -/
def readPatterns : Nat → Reader (List Word)
  | 0 => pure []
  | fuel + 1 => do
      let patterns : List Word ← match ← peek with
        | some (.word raw) => pure [← takeWord false raw]
        | some (.unterminated _ _ _) => refuse none
        | _ => do
            skip
            pure []
      if ← atOperator "|" then
        skip
        pure (patterns ++ (← readPatterns fuel))
      else pure patterns

/-- Which commands are read. -/
inductive Extent
  /-- Those on a line. -/
  | line
  /-- Those up to a closing word, at least one. -/
  | some
  /-- Those up to a closing word. -/
  | any
deriving DecidableEq, Repr

mutual

/-- Read commands. -/
def readList (fuel : Nat) (extent : Extent) : Reader Command :=
  match fuel with
  | 0 => refuse none
  | fuel + 1 => do
      let top := extent = .line
      beginCommand (!top)
      if (← peek).isNone || (extent = .any && (← atEnd)) then return .nothing
      if top && decide ((← peek) = some .newline) then return .nothing
      let later : Extent := if top then .line else .any
      let first ← readAndOr fuel
      let first := if ← atOperator "&" then .background first else first
      if (← atOperator ";") || (← atOperator "&") then
        skip
        if top && (decide ((← peek) = some .newline) || (← peek).isNone) then return first
        return first.followedBy (← readList fuel later)
      if !top && decide ((← peek) = some .newline) then
        return first.followedBy (← readList fuel later)
      return first

/-- Read pipelines joined by success or failure. -/
def readAndOr (fuel : Nat) : Reader Command :=
  match fuel with
  | 0 => refuse none
  | fuel + 1 => do
      let first ← readPipeline fuel
      readAndOrRest fuel first

/-- Read on after a pipeline. -/
def readAndOrRest (fuel : Nat) (first : Command) : Reader Command :=
  match fuel with
  | 0 => refuse none
  | fuel + 1 => do
      if ← atOperator "&&" then
        skip
        beginCommand true
        let second ← readPipeline fuel
        readAndOrRest fuel (.both first second)
      else if ← atOperator "||" then
        skip
        beginCommand true
        let second ← readPipeline fuel
        readAndOrRest fuel (.either first second)
      else return first

/-- Read commands joined by pipes. -/
def readPipeline (fuel : Nat) : Reader Command :=
  match fuel with
  | 0 => refuse none
  | fuel + 1 => do
      let negated ← atWord "!"
      if negated then
        skip
        beginCommand false
      let command : Command ← match ← readStages fuel with
        | [command] => pure command
        | stages => pure (.pipeline stages)
      return if negated then .negation command else command

/-- Read commands with bars between them. -/
def readStages (fuel : Nat) : Reader (List Command) :=
  match fuel with
  | 0 => refuse none
  | fuel + 1 => do
      let first ← readCommand fuel
      if ← atOperator "|" then
        skip
        beginCommand true
        return first :: (← readStages fuel)
      else return [first]

/-- Read one command. -/
def readCommand (fuel : Nat) : Reader Command :=
  match fuel with
  | 0 => refuse none
  | fuel + 1 => do
      let line := (← get).nextLine
      let compound (body : Command) : Reader Command := do
        beginCommand false
        return .onLine line (body.redirect (← readRedirections fuel))
      if ← atOperator "(" then
        skip
        let body ← readList fuel .some
        expectOperator ")"
        return (← compound (.subshell body))
      if ← atWord "\x7b" then
        skip
        let body ← readList fuel .some
        expectWord "\x7d"
        return (← compound body)
      if ← atWord "if" then
        skip
        return (← compound (← readBranch fuel))
      if (← atWord "while") || (← atWord "until") then
        let whileSucceeds ← atWord "while"
        skip
        let condition ← readList fuel .some
        expectWord "do"
        let body ← readList fuel .some
        expectWord "done"
        return (← compound (.loop whileSucceeds condition body))
      if ← atWord "for" then
        skip
        match ← peek with
        | some (.word name) =>
            if !isName name then
              stopReading (.badVariable (← get).nextLine) [← writtenHere false name]
            skip
            beginCommand true
            let mut items : Option (List Word) := none
            if ← atWord "in" then
              skip
              items := some (← readItems fuel)
              if !(← atOperator ";") && (← peek) ≠ some .newline then refuse none
            if ← atOperator ";" then skip
            beginCommand true
            expectWord "do"
            let body ← readList fuel .some
            expectWord "done"
            return (← compound (.iterate name items body))
        | some (.unterminated _ _ _) => refuse none
        | _ => stopReading (.badVariable (← get).nextLine)
      if ← atWord "case" then
        skip
        match ← peek with
        | some (.word raw) =>
            let subject ← takeWord false raw
            beginCommand true
            expectWord "in"
            let arms ← readArms fuel
            return (← compound (.choice subject arms))
        | _ => refuse (some (.word []))
      if (← atEnd) || (← atWord "!") || (← atWord "in") then refuse none
      let parts ← readParts fuel {}
      if parts.words.isEmpty && parts.assignments.isEmpty && parts.redirections.isEmpty then
        refuse none
      match parts with
      | { assignments := [], words := [name], redirections := [] } =>
          if ← atOperator "(" then
            skip
            expectOperator ")" false
            if !isName name.raw || isSpecialCommand name.raw then stopReading (.badFunction (← get).line)
            beginCommand true
            return .definition name.raw (← readCommand fuel)
      | _ => pure ()
      return .simple line parts.assignments parts.words parts.redirections

/-- Read the patterns and bodies of a choice. -/
def readArms (fuel : Nat) : Reader (List (List Word × Command)) :=
  match fuel with
  | 0 => refuse none
  | fuel + 1 => do
      skipNewlines
      if ← atWord "esac" then
        skip
        return []
      if ← atOperator "(" then skip
      let patterns ← readPatterns fuel
      expectOperator ")" false
      let body ← readList fuel .any
      if ← atOperator ";;" then
        skip
        return (patterns, body) :: (← readArms fuel)
      skipNewlines
      if ← atWord "esac" then
        skip
        return [(patterns, body)]
      refuse (some (.operator ";;"))

/-- Read on after the word that begins a branch. -/
def readBranch (fuel : Nat) : Reader Command :=
  match fuel with
  | 0 => refuse none
  | fuel + 1 => do
      let condition ← readList fuel .some
      expectWord "then"
      let consequence ← readList fuel .some
      if ← atWord "elif" then
        skip
        return .branch condition consequence (← readBranch fuel)
      if ← atWord "else" then
        skip
        let alternative ← readList fuel .some
        expectWord "fi"
        return .branch condition consequence alternative
      expectWord "fi"
      return .branch condition consequence .nothing

end

/-! ## Scripts inside words -/

/-- A script that stands inside a word. -/
structure NestedScript where
  /-- The line it begins on. -/
  line : Nat
  /-- The script. -/
  text : Bytes
  /-- Whether it stands between back quotes, and not in parentheses. -/
  quoted : Bool := false
  /-- Whether the parenthesis at its end is there. -/
  closed : Bool := true

/-- The script between back quotes: a backslash protects dollar signs, back quotes
and backslashes there, and double quotes if there are some around it. -/
def backquoted (inQuotes : Bool) : Bytes → Bytes
  | [] => []
  | [b] => [b]
  | b :: c :: rest =>
      let isProtected := c = Byte.dollar || c = backquote || c = Byte.backslash ||
        (inQuotes && c = Byte.doubleQuote)
      if b = Byte.backslash && isProtected then c :: backquoted inQuotes rest
      else b :: backquoted inQuotes (c :: rest)

/-- The script that is written between back quotes as a text. -/
def NestedScript.ofQuoted (inQuotes : Bool) (text : Bytes) : NestedScript :=
  { line := 1, text := backquoted inQuotes text, quoted := true }

/-- The scripts that stand inside a text that begins on a line. -/
def nestedScripts (bound : Nat) : Nat → Nat → List Nest → Bytes → List NestedScript
  | 0, _, _, _ => []
  | _ + 1, _, _, [] => []
  | fuel + 1, line, stack, b :: rest =>
      if Nest.opensScript stack b rest then
        match cutScript? rest.tail with
        | some (text, rest) =>
            { line, text } :: nestedScripts bound fuel (line + lineFeeds text) stack rest
        | none => [{ line, text := rest.tail, closed := false }]
      else
        let { stack := after, length, lines } := stepInto bound stack b rest
        let later := (b :: rest).drop length
        if after = .back :: stack then
          match cutNested? [] .back later with
          | some (text, rest) =>
              .ofQuoted (Nest.takesQuotes stack) text ::
                nestedScripts bound fuel (line + lineFeeds text) stack rest
          | none => []
        else
          nestedScripts bound fuel (line + lines) after later

/-- Read a script that stands inside a word: its commands, and the tokens with the
words in it.  What cannot go on with the commands between back quotes is left. -/
def NestedScript.read (aliases : List Alias) (n : NestedScript) :
    Except Refusal (Command × Tokens) := do
  let text := if n.closed && !n.quoted then n.text ++ [closeParen] else n.text
  let tokens := Tokens.ofScript aliases n.line text
  let read : Reader Command := do
    let command ← readList (8 * (tokens.rest.length + 4)) .any
    if !n.quoted then expectOperator ")"
    else if let some (.unterminated _ _ _) := ← peek then refuse none
    pure command
  read.run tokens

/-- Words that were read, the latest first, in the order in which they stand. -/
def inOrder (words : List Word) : List Word :=
  words.reverse.mergeSort (fun a b => a.line ≤ b.line)

/-- Check the scripts that stand inside a word; the first argument bounds how deep
they are nested. -/
def checkWord (aliases : List Alias) : Nat → Word → Except SyntaxProblem Unit
  | 0, _ => pure ()
  | fuel + 1, word =>
      let stack := if word.isDocument then [Nest.document] else []
      let bound := scanBound word.raw
      (nestedScripts bound (word.raw.length + 1) word.line stack word.raw).forM (fun script =>
        match script.read aliases with
        | .ok (_, tokens) => (inOrder tokens.words).forM (checkWord aliases fuel)
        | .error { problem, words } => do
            (inOrder words).forM (checkWord aliases fuel)
            throw problem)

/-- Check a word as deep as scripts can be nested in it. -/
def Word.check (aliases : List Alias) (word : Word) : Except SyntaxProblem Unit :=
  checkWord aliases word.raw.length word

/-! ## Lines -/

/-- Read what stands on the next line, and perhaps on lines that it goes on to.
Nothing is left when there are no more commands. -/
def readLine? (tokens : Tokens) : Except SyntaxProblem (Option (Command × Tokens)) := do
  let tokens := ((skipNewlines.run tokens).toOption.map Prod.snd).getD tokens
  if tokens.rest.isEmpty then return none
  else
    let read : Reader Command := do
      let command ← readList (8 * (tokens.rest.length + 4)) .line
      match ← peek with
      | none | some .newline => pure command
      | _ => refuse none
    match read.run { tokens with words := [] } with
    | .ok (command, after) =>
        (inOrder after.words).forM (Word.check tokens.aliases)
        return some (command, after)
    | .error { problem, words } =>
        (inOrder words).forM (Word.check tokens.aliases)
        throw problem

/-- Whether more lines are needed to make commands of a script. -/
def isUnfinished (aliases : List Alias) (script : Bytes) : Bool :=
  let tokens := Tokens.ofScript aliases 1 script
  tokens.isOpen || tokens.rest.getLast?.any (fun l => l.token ≠ .newline) ||
    match readLine? tokens with
    | .error problem => problem.isEarlyEnd
    | .ok read => read.any (fun (_, tokens) => tokens.isOpen)

/-- The lines up to the end of the first command, and what follows; nothing if the
command does not end.  `before` are lines that belong to it. -/
def takeLines? (aliases : List Alias) : Nat → Bytes → Bytes → Option (Bytes × Bytes)
  | 0, _, _ => none
  | fuel + 1, before, text =>
      let line := text.takeWhile (· ≠ Byte.newline)
      match text.drop line.length with
      | [] => none
      | b :: rest =>
          let script := before ++ line ++ [b]
          if isUnfinished aliases script then takeLines? aliases fuel script rest
          else some (script, rest)

end Overseer.Shell

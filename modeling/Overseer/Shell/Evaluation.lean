import Overseer.Shell.Arithmetic
import Overseer.Shell.Program
import Overseer.Shell.Redirection

/-!
# Running shell commands

Commands run one after the other, in the process of the shell or in processes
that it starts.  Every function takes a bound on the depth of what it does, of
which each turn of a loop takes one; a shell that goes beyond it goes on for ever
without doing anything.

Where a command is the last thing that a process does, the program it stands for
takes over the process, unless something is left to be done at the end.
-/

namespace Overseer.Shell

open Overseer.Machine Overseer.File

/-- Leave or go on with a loop after a turn of it: whether to go on. -/
def afterTurn (turn : Work Unit) : Work Bool := do
  try
    turn
    pure true
  catch jump =>
    match jump with
    | .leave depth => if depth ≤ 1 then pure false else throw (.leave (depth - 1))
    | .next depth => if depth ≤ 1 then pure true else throw (.next (depth - 1))
    | other => throw other

/-- Take note of the signals that have come. -/
def takeSignals : Work Unit := do
  let numbers ← onSystem (Activity.signals : Act (List Nat))
  if !numbers.isEmpty then modify (fun s => { s with arrived := s.arrived ++ numbers })

/-- Do something as a command that is built in.  Unless it is a special one, the
shell goes on after its failure. -/
def asBuiltin (special : Bool) (name : Bytes) (work : Work Unit) : Work Unit := do
  let outer := (← get).command
  try within ({ · with command := some name }) ({ · with command := outer }) work
  catch jump =>
    match jump with
    | .failure => if special then fail else setStatus failureCode
    | other => throw other

/-- Do something that can be left with a code. -/
def untilReturn (work : Work Unit) : Work Unit := do
  try work
  catch jump =>
    match jump with
    | .back code => setStatus code
    | other => throw other

/-- Refuse a parameter without a value, if that is asked for. -/
def requireSet (name : Bytes) : Work Unit := do
  let s ← get
  if (s.parameter? name).isNone && s.has refusesUnset && !isArgumentsName name then
    giveUp (name ++ utf8 ": " ++ missingText false)

/-- The pieces that the value of a parameter makes. -/
def State.parameterPieces (s : State) (quoted : Bool) (name : Bytes) : List Piece :=
  if name = utf8 "@" || (name = utf8 "*" && !quoted) then separatePieces quoted s.arguments
  else [valuePiece quoted ((s.parameter? name).getD [])]

/-- What is put between fields that are joined. -/
def State.joint (s : State) : Bytes :=
  s.separators.take 1

/-- Evaluate an arithmetic expression: the text of its value. -/
def evaluateSum (expression : Bytes) : Work Bytes := do
  match evaluate (← get).values.find? expression with
  | .ok (value, assigned) =>
      for (name, value) in assigned.reverse do assign name (decimal value.toInt)
      pure (decimal value.toInt)
  | .error .overflow =>
      let o ← onSystem look
      let _ ← onSystem (Activity.signal o.pid arithmeticSignal)
      fail
  | .error problem => giveUp (problem.message expression)

/-- Read a script from a file. -/
def readScript (path : Bytes) : Act (Except Errno Bytes) := do
  match ← openFile path .read with
  | .error errno => pure (.error errno)
  | .ok d =>
      let content ← readAll d readLimit []
      closeDescriptor d
      pure (.ok ((content.toOption.getD []).filter (· ≠ 0)))

/-- The path of the device that gives nothing. -/
def voidPath : Bytes :=
  utf8 "/dev/null"

/-- Be in the background: some signals are ignored for good, and the first process of
a pipeline reads nothing. -/
def goToBackground (isFirst : Bool) : Work Unit := do
  let numbers := [interruptSignal, quitSignal]
  numbers.forM (fun number => onSystem (arrange number .ignored))
  modify (fun s => { s with barred := numbers ++ s.barred })
  if isFirst then
    onSystem (do
      closeDescriptor standardInput
      let _ ← openFile voidPath .read)

/-- A command without the redirections around it, which come with it. -/
def Command.unwrap : Command → Command × List Redirection
  | onLine _ body => body.unwrap
  | redirected body redirections => (body, redirections)
  | other => (other, [])

/-- Carry out the redirections of a process for good, or end it. -/
def redirectProcess (rs : List Redirected) : Work Unit := do
  let (_, carriedOut) ← redirectAll false [] rs
  if !carriedOut then stop failureCode

/-- How a shell starts: its options, and what is left of its words. -/
structure Start where
  /-- Whether its script is the first word. -/
  takesScript : Bool
  /-- Whether it reads its script from the input. -/
  takesInput : Bool
  /-- The words that are left. -/
  words : List Bytes

/-- The option to take the script from the words. -/
def takesWords : UInt8 := 0x63

/-- The options that only count when a shell starts. -/
def startLetters : Bytes :=
  utf8 "cl"

/-- Read the words a shell is started with. -/
def readStart (args : List Bytes) : Work Start := do
  let (words, _) ← setOptions startLetters args
  let s ← get
  let takesScript := s.has takesWords
  if takesScript && words.isEmpty then giveUp (utf8 "-c requires an argument")
  let takesInput := s.has readsInput || (!takesScript && words.isEmpty)
  let s := startLetters.foldl (·.setOption false ·) s
  let s := if s.has asksForCommands then s.setOption true controlsJobs else s
  set (if takesInput then s.setOption true readsInput else s)
  pure { takesScript, takesInput, words }

/-- How many bytes of a script are read from the input at a time. -/
def scriptBlock : Nat :=
  8192

/-- Show lines of a script that were read, if that is asked for. -/
def repeatLines (text : Bytes) : Work Unit := do
  if (← get).has repeats then onSystem (complain text)

/-- How deep calls of functions may be nested. -/
def callLimit : Nat :=
  1000

/-- How many ends of the input may not count. -/
def endLimit : Nat :=
  50

/-- Give up because a script cannot be read. -/
def giveUpReading {α : Type} (problem : SyntaxProblem) : Work α := do
  modify ({ · with line := problem.line })
  giveUp (utf8 "Syntax error: " ++ problem.message)

mutual

/-- Expand a text. -/
def expand (fuel : Nat) (e : Enclosure) (origin : Origin) (raw : Bytes) : Work (List Piece) :=
  match fuel with
  | 0 => spin
  | fuel + 1 =>
      let plain := raw.takeWhile (fun b => !isActive b)
      match if e.assigns then beforeTilde? plain else none with
      | some count => do
          pure (e.piece (raw.take count) :: (← expandWord fuel e origin (raw.drop count)))
      | none =>
          let first := if plain.isEmpty then [] else [e.piece plain]
          let origin := origin.after (lineFeeds plain)
          match raw.drop plain.length with
          | [] => pure first
          | b :: rest => do
              let (pieces, e, later) ← expandActive fuel e origin b rest
              let origin := origin.after (lineFeeds rest - lineFeeds later)
              pure (first ++ pieces ++ (← expand fuel e origin later))

/-- Expand what begins with a byte that may have a meaning: the pieces, and what
follows stands in what. -/
def expandActive (fuel : Nat) (e : Enclosure) (origin : Origin) (b : UInt8) (rest : Bytes) :
    Work (List Piece × Enclosure × Bytes) :=
  match fuel with
  | 0 => spin
  | fuel + 1 =>
      if let (true, some toggled) := (decide (b = Byte.doubleQuote), e.toggled?) then
        pure ([.quoted []], toggled, rest)
      else if b = Byte.quote && e.isBare then
        let text := rest.takeWhile (· ≠ Byte.quote)
        pure ([.quoted text], e, rest.drop (text.length + 1))
      else if b = Byte.backslash then
        match rest with
        | [] => pure ([.quoted [b]], e, [])
        | c :: rest =>
            if c = Byte.newline then pure ([], e, rest)
            else pure ([.quoted (if e.protects c then [c] else [b, c])], e, rest)
      else if b = Byte.dollar then do
        let (pieces, rest) ← expandDollar fuel e origin rest
        pure (pieces, e, rest)
      else if b = backquote then
        match cutNested? e.nesting .back rest with
        | none => giveUp (utf8 "Bad substitution")
        | some (script, rest) => do
            let value ← substitute fuel origin.aliases (.ofQuoted e.isQuoted script)
            pure ([valuePiece e.isQuoted value], e, rest)
      else pure ([e.piece [b]], e, rest)

/-- Expand what follows a dollar sign: the pieces, and what follows them. -/
def expandDollar (fuel : Nat) (e : Enclosure) (origin : Origin) (text : Bytes) :
    Work (List Piece × Bytes) :=
  match fuel with
  | 0 => spin
  | fuel + 1 =>
      match text with
      | 0x28 :: 0x28 :: rest =>
          match cutNested? e.nesting .sum rest with
          | none => giveUp (utf8 "Bad substitution")
          | some (inside, rest) => do
              let expression := joinPieces (← get).joint (← expand fuel .sum origin inside)
              pure ([valuePiece e.isQuoted (← evaluateSum expression)], rest)
      | 0x28 :: rest =>
          match cutScript? rest with
          | none => giveUp (utf8 "Bad substitution")
          | some (script, rest) => do
              let value ← substitute fuel origin.aliases { line := origin.line, text := script }
              pure ([valuePiece e.isQuoted value], rest)
      | 0x7b :: rest =>
          match cutParameter? e.nesting rest with
          | none => giveUp (utf8 "Bad substitution")
          | some (inside, rest) => do pure (← expandBraced fuel e origin inside, rest)
      | _ =>
          match takeName (joinHead text).text with
          | ([], _) => pure ([e.piece [Byte.dollar]], text)
          | (name, rest) => do
              requireSet name
              pure ((← get).parameterPieces e.isQuoted name, rest)

/-- Expand what stands in braces. -/
def expandBraced (fuel : Nat) (e : Enclosure) (origin : Origin) (inside : Bytes) :
    Work (List Piece) :=
  match fuel with
  | 0 => spin
  | fuel + 1 => do
      let s ← get
      match readBraced? inside with
      | none => giveUp (utf8 "Bad substitution")
      | some (.length name) =>
          requireSet name
          let value := (s.parameter? name).getD []
          pure [valuePiece e.isQuoted (decimal (Int.ofNat value.length))]
      | some (.value name treatment) =>
          let value := s.parameter? name
          let own := s.parameterPieces e.isQuoted name
          match treatment with
          | .plain =>
              requireSet name
              pure own
          | .default alsoEmpty word =>
              if counts alsoEmpty value then pure own else expandWord fuel e.forValue origin word
          | .assigned alsoEmpty word =>
              if counts alsoEmpty value then pure own
              else if !isName name then giveUp (name ++ utf8 ": bad variable name")
              else
                let text := joinPieces s.joint (← expandWord fuel e.inBraces origin word)
                assign name text
                pure [valuePiece e.isQuoted text]
          | .alternative alsoEmpty word =>
              if counts alsoEmpty value then expandWord fuel e.forValue origin word else pure []
          | .required alsoEmpty word =>
              if counts alsoEmpty value then pure own
              else
                let text := joinPieces s.joint (← expandWord fuel e.inBraces origin word)
                giveUp (name ++ utf8 ": " ++ if text.isEmpty then missingText alsoEmpty else text)
          | .stripped fromEnd longest word =>
              requireSet name
              let pattern := piecesPattern (← expandWord fuel (.bare false false) origin word)
              pure [valuePiece e.isQuoted (pattern.strip fromEnd longest (value.getD []))]

/-- The output of a script that was read where there were some aliases, without the line
feeds at its end. -/
def substitute (fuel : Nat) (aliases : List Alias) (script : NestedScript) : Work Bytes :=
  match fuel with
  | 0 => spin
  | fuel + 1 => do
      let command ← match script.read aliases with
        | .ok (command, _) => pure command
        | .error refusal => giveUpReading refusal.problem
      if let .nothing := command then
        modify ({ · with substituted := some 0 })
        return []
      let (reading, writing) ← onSystem Activity.openPipe
      let pid ← startForeground fuel (do
        onSystem (do
          closeDescriptor reading
          moveDescriptor writing standardOutput)
        modify ({ · with conditions := 0 })
        run fuel true command)
      onSystem (closeDescriptor writing)
      let output ← onSystem (readAll reading readLimit [])
      onSystem (closeDescriptor reading)
      let code ← awaitForeground [pid]
      modify ({ · with substituted := some code })
      pure (dropFinalNewlines ((output.toOption.getD []).filter (· ≠ 0)))

/-- Expand a text that may begin with a tilde. -/
def expandWord (fuel : Nat) (e : Enclosure) (origin : Origin) (raw : Bytes) : Work (List Piece) :=
  match fuel with
  | 0 => spin
  | fuel + 1 => do
      let home := (← get).values.find? homeName
      match if e.isBare then takeHome? home e.assigns raw else none with
      | some (pieces, rest) => pure (pieces ++ (← expand fuel e origin rest))
      | none => expand fuel e origin raw

/-- The fields of a word. -/
def expandFields (fuel : Nat) (word : Word) : Work (List Bytes) :=
  match fuel with
  | 0 => spin
  | fuel + 1 => do
      let pieces ← expandWord fuel (.bare false false) word.toOrigin word.raw
      let s ← get
      let fields := cutFields s.separators pieces
      if s.has ignoresPatterns || !fields.any (fun letters => (Pattern.ofLetters letters).isGeneral)
      then pure (fields.map lettersText)
      else
        let o ← onSystem look
        pure (fields.flatMap (expandPaths o.tree o.place))

/-- The text of a word that is not cut into fields, perhaps because a variable gets
it. -/
def expandText (fuel : Nat) (assigns : Bool) (word : Word) : Work Bytes :=
  match fuel with
  | 0 => spin
  | fuel + 1 => do
      let pieces ← expandWord fuel (.bare false assigns) word.toOrigin word.raw
      pure (joinPieces (← get).joint pieces)

/-- The fields of the words of a command after those `before`; some commands take
assignments as they are. -/
def expandWords (fuel : Nat) (before : List Bytes) (words : List Word) : Work (List Bytes) :=
  match fuel with
  | 0 => spin
  | fuel + 1 =>
      match words with
      | [] => pure before
      | word :: words => do
          let fields ← match if takesAssignments before then assignment? word.raw else none with
            | some (name, raw) => do
                let value ← expandText fuel true { word with raw }
                pure [name ++ [Byte.equals] ++ value]
            | none => expandFields fuel word
          expandWords fuel (before ++ fields) words

/-- Expand the target of a redirection, unless it is a text, which is expanded when the
redirection is carried out. -/
def expandRedirection (fuel : Nat) (r : Redirection) : Work Redirected :=
  match fuel with
  | 0 => spin
  | fuel + 1 =>
      let made (target : Work Bytes) : Redirected :=
        { descriptor := r.descriptor, kind := r.kind, target }
      match r.kind with
      | .text false => pure (made (pure r.target.raw))
      | .text true =>
          pure (made (do
            let pieces ← expand fuel .document r.target.toOrigin r.target.raw
            pure (joinPieces (← get).joint pieces)))
      | kind => do
          let target ← expandText fuel false r.target
          if kind = .copy && !isDescriptorText target then
            giveUp (utf8 "Syntax error: Bad fd number")
          pure (made (pure target))

/-- Run a script that is known as a whole, and whose first line has a number. -/
def runScript (fuel : Nat) (last : Bool) (line : Nat) (script : Bytes) : Work Unit :=
  match fuel with
  | 0 => spin
  | fuel + 1 => do runLines fuel last (Tokens.ofScript (← get).aliases line script)

/-- Run the lines that are left of a script. -/
def runLines (fuel : Nat) (last : Bool) (tokens : Tokens) : Work Unit :=
  match fuel with
  | 0 => spin
  | fuel + 1 => do
      match readLine? { tokens with aliases := (← get).aliases } with
      | .error problem => giveUpReading problem
      | .ok none => pure ()
      | .ok (some (command, tokens)) => do
          run fuel (last && tokens.rest.isEmpty) command
          runLines fuel last tokens

/-- Run a script that is read a line at a time, from a descriptor or as far as it is
known.  If `top`, it is what the shell runs itself, which may ask for commands; then
`asked` lines of the next one were asked for. -/
def runSource (fuel : Nat) (top : Bool) (source : Option Descriptor) (line asked : Nat)
    (text : Bytes) : Work Unit :=
  match fuel with
  | 0 => spin
  | fuel + 1 => do
      match takeLines? (← get).aliases (text.length + 1) [] text, source with
      | some (script, rest), _ => do
          if top then askForLines fuel asked (lineFeeds script)
          repeatLines script
          let rest ← runOrForget fuel top line script rest
          runSource fuel top source (line + lineFeeds script) 0 rest
      | none, some d => do
          let lines := lineFeeds text + 1
          if top then askForLines fuel asked lines
          match ← onSystem (readFrom d scriptBlock) with
          | .error _ | .ok [] => runSource fuel top none line lines text
          | .ok data => runSource fuel top source line lines (text ++ data.filter (· ≠ 0))
      | none, none => do
          if top then askForLines fuel asked (lineFeeds text + 1)
          if text.isEmpty then
            if top then endAsking fuel endLimit
          else
            repeatLines text
            let _ ← runOrForget fuel top line text []
            if top then runSource fuel top none line 0 []

/-- Ask for lines of a command, of which some were asked for. -/
def askForLines (fuel : Nat) (asked count : Nat) : Work Unit :=
  match fuel with
  | 0 => spin
  | fuel + 1 => do
      if asked < count && (← get).has asksForCommands then
        onSystem (complain (← expandMark fuel (if asked = 0 then "PS1" else "PS2")))
        askForLines fuel (asked + 1) count

/-- Meet the end of what a shell runs itself, some number of times that may not
count. -/
def endAsking (fuel : Nat) (times : Nat) : Work Unit :=
  match fuel with
  | 0 => spin
  | fuel + 1 => do
      let s ← get
      if s.has ignoresEnd then
        if times ≠ 0 then
          onSystem (complain (utf8 "\nUse \"exit\" to leave shell.\n"))
          askForLines fuel 0 1
          endAsking fuel (times - 1)
      else if s.has asksForCommands then onSystem (complain [Byte.newline])

/-- Run a part of a script: what is left of it.  Where commands are asked for, a failure
ends only this one, and what follows it is forgotten. -/
def runOrForget (fuel : Nat) (top : Bool) (line : Nat) (script rest : Bytes) : Work Bytes :=
  match fuel with
  | 0 => spin
  | fuel + 1 => do
      match ← unlessFailed (runScript fuel false line script) with
      | some () => pure rest
      | none =>
          if !top || !(← get).has asksForCommands then fail
          setStatus failureCode
          pure []

/-- The value of a variable that marks something, after its expansion. -/
def expandMark (fuel : Nat) (name : String) : Work Bytes :=
  match fuel with
  | 0 => spin
  | fuel + 1 => do
      let s ← get
      let mark := (s.values.find? (utf8 name)).getD []
      let quiet (on : Bool) (s : State) : State := s.setOption on tells
      let tells := s.has tells
      let pieces ← within (quiet false) (quiet tells) 
        (expand fuel .document { line := s.line, aliases := s.aliases } mark)
      pure (joinPieces s.joint pieces)

/-- Run the scripts for signals that have come; the code of the last command is
as before afterwards. -/
def runPending (fuel : Nat) : Work Unit :=
  match fuel with
  | 0 => spin
  | fuel + 1 => do
      if !(← get).traps.isEmpty then takeSignals
      let s ← get
      match s.arrived.min? with
      | none => pure ()
      | some number =>
          set { s with arrived := s.arrived.filter (· ≠ number) }
          match s.traps.find? (fun entry => entry.1 = number && !entry.2.isEmpty) with
          | none => pure ()
          | some (_, script) =>
              within (fun t => { t with conditions := 0, interrupted := some s.status })
                (fun t => { t with conditions := s.conditions, interrupted := s.interrupted })
                (runScript fuel false 1 script)
              setStatus s.status
          runPending fuel

/-- Run a command; `last` says whether it is the last thing its process does. -/
def run (fuel : Nat) (last : Bool) (command : Command) : Work Unit :=
  match fuel with
  | 0 => spin
  | fuel + 1 => do
      if (← get).has runsNothing then return
      match command with
      | .nothing => pure ()
      | .onLine line body => do
          modify ({ · with line })
          run fuel last body
      | .simple line assignments words redirections => do
          modify ({ · with line })
          runSimple fuel last assignments words redirections
          runPending fuel
          heedFailure
      | .pipeline stages => do
          let _ ← claimNumber
          setStatus (← awaitForeground (← runStages fuel false stages none []))
          runPending fuel
          heedFailure
      | .background body => do
          let (inner, redirections) := body.unwrap
          let rs ← redirections.mapM (expandRedirection fuel)
          let number ← claimNumber
          let pids ← match inner with
            | .pipeline stages => runStages fuel true stages none []
            | _ => do
                let pid ← startShell fuel (do
                  goToBackground true
                  modify ({ · with conditions := 0 })
                  redirectProcess rs
                  run fuel true inner)
                pure [pid]
          modify (fun s => { s with
            jobs := { number, pids } :: s.jobs, background := pids.getLast?, status := 0 })
      | .negation body => do
          inCondition (run fuel false body)
          setStatus (if (← get).status = 0 then 1 else 0)
      | .both first second => do
          inCondition (run fuel false first)
          if (← get).status = 0 then run fuel last second
      | .either first second => do
          inCondition (run fuel false first)
          if (← get).status ≠ 0 then run fuel last second
      | .sequence first second => do
          run fuel false first
          run fuel last second
      | .branch condition consequence alternative => do
          inCondition (run fuel false condition)
          if (← get).status = 0 then run fuel last consequence
          else
            setStatus 0
            run fuel last alternative
      | .loop whileSucceeds condition body => inLoop (runLoop fuel whileSucceeds condition body 0)
      | .iterate name items body => do
          let values ← match items with
            | some words => pure (← words.mapM (expandFields fuel)).flatten
            | none => pure (← get).arguments
          setStatus 0
          inLoop (runEach fuel name values body)
      | .subshell body => runSubshell fuel last [] body
      | .redirected (.subshell body) redirections => runSubshell fuel last redirections body
      | .redirected body redirections => do
          let rs ← redirections.mapM (expandRedirection fuel)
          let failed : Work Unit := do
            setStatus failureCode
            heedFailure
          withRedirections rs failed (fun _ => run fuel false body)
      | .choice subject arms => do
          let text ← expandText fuel false subject
          setStatus 0
          runChoice fuel last text arms
      | .definition name body => do
          modify (fun s => { s with
            functions := (name, body) :: s.functions.filter (fun entry => entry.1 ≠ name) })
          setStatus 0

/-- Run a body in a shell of its own. -/
def runSubshell (fuel : Nat) (last : Bool) (redirections : List Redirection) (body : Command) :
    Work Unit :=
  match fuel with
  | 0 => spin
  | fuel + 1 => do
      let rs ← redirections.mapM (expandRedirection fuel)
      let own : Work Unit := do
        redirectProcess rs
        run fuel true body
      if last && !(← get).hasTraps then own
      else
        setStatus (← awaitForeground [← startForeground fuel own])
        runPending fuel
        heedFailure

/-- Start the stages of a pipeline, the first of which reads `input`: the numbers of
the processes, after those of the stages before. -/
def runStages (fuel : Nat) (inBackground : Bool) (stages : List Command)
    (input : Option Descriptor) (pids : List Nat) : Work (List Nat) :=
  match fuel with
  | 0 => spin
  | fuel + 1 =>
      match stages with
      | [] => pure pids
      | stage :: later => do
          let pipe ← if later.isEmpty then pure none
            else some <$> onSystem Activity.openPipe
          let pid ← startShell fuel (do
            if let some (reading, _) := pipe then onSystem (closeDescriptor reading)
            if inBackground then goToBackground pids.isEmpty
            onSystem (do
              if let some d := input then moveDescriptor d standardInput
              if let some (_, writing) := pipe then moveDescriptor writing standardOutput)
            run fuel true stage)
          onSystem (do
            if let some d := input then closeDescriptor d
            if let some (_, writing) := pipe then closeDescriptor writing)
          runStages fuel inBackground later (pipe.map Prod.fst) (pids ++ [pid])

/-- Whether a text matches one of some patterns. -/
def matchesAny (fuel : Nat) (text : Bytes) (patterns : List Word) : Work Bool :=
  match fuel with
  | 0 => spin
  | fuel + 1 =>
      match patterns with
      | [] => pure false
      | word :: later => do
          let pieces ← expandWord fuel (.bare false false) word.toOrigin word.raw
          if (piecesPattern pieces).accepts text then pure true
          else matchesAny fuel text later

/-- Run the first body one of whose patterns a text matches. -/
def runChoice (fuel : Nat) (last : Bool) (text : Bytes) (arms : List (List Word × Command)) :
    Work Unit :=
  match fuel with
  | 0 => spin
  | fuel + 1 =>
      match arms with
      | [] => pure ()
      | (patterns, body) :: later => do
          if ← matchesAny fuel text patterns then run fuel last body
          else runChoice fuel last text later

/-- Run the turns of a loop; `code` is that of the latest turn. -/
def runLoop (fuel : Nat) (whileSucceeds : Bool) (condition body : Command) (code : Nat) :
    Work Unit :=
  match fuel with
  | 0 => spin
  | fuel + 1 => do
      takeSignals
      let goesOn ← afterTurn (inCondition (run fuel false condition))
      if goesOn && ((← get).status = 0) = whileSucceeds then
        let goesOn ← afterTurn (run fuel false body)
        if goesOn then runLoop fuel whileSucceeds condition body (← get).status
      else setStatus code

/-- Run a body for each of some values. -/
def runEach (fuel : Nat) (name : Bytes) (values : List Bytes) (body : Command) : Work Unit :=
  match fuel with
  | 0 => spin
  | fuel + 1 =>
      match values with
      | [] => pure ()
      | value :: values => do
          takeSignals
          assign name value
          let goesOn ← afterTurn (run fuel false body)
          if goesOn then runEach fuel name values body

/-- Assign values to variables, one after the other; for a command alone, programs
are given them and they are restored afterwards.  The assignments come back as they
are told. -/
def assignAll (fuel : Nat) (forCommand : Bool) (assignments : List (Bytes × Word)) :
    Work (List Bytes) :=
  match fuel with
  | 0 => spin
  | fuel + 1 =>
      match assignments with
      | [] => pure []
      | (name, word) :: later => do
          let value ← expandText fuel true word
          if forCommand then remember name
          assign name value
          if forCommand then modify (·.give name)
          pure ((name ++ [Byte.equals] ++ value) :: (← assignAll fuel forCommand later))

/-- Run a simple command. -/
def runSimple (fuel : Nat) (last : Bool) (assignments : List (Bytes × Word))
    (words : List Word) (redirections : List Redirection) : Work Unit :=
  match fuel with
  | 0 => spin
  | fuel + 1 => do
      modify ({ · with substituted := none })
      let fields ← expandWords fuel [] words
      let rs ← redirections.mapM (expandRedirection fuel)
      let special := fields.head?.any isSpecialCommand
      let failed : Work Unit := do
        setStatus failureCode
        if special then fail
      match plainWords fields with
      | { words := [], .. } =>
          withRedirections rs failed (fun errors => do
            trace fuel errors (← assignAll fuel false assignments)
            setStatus ((← get).substituted.getD 0))
      | { words := [[0x65, 0x78, 0x65, 0x63]], .. } =>
          let (_, carriedOut) ← redirectAll false [] rs
          if carriedOut then
            trace fuel standardError ((← assignAll fuel false assignments) ++ fields)
            setStatus 0
          else failed
      | { words := name :: args, bare, search } =>
          withRedirections rs failed (fun errors => do
            let whole : Work Unit := do
              trace fuel errors ((← assignAll fuel (!special) assignments) ++ fields)
              if name = utf8 "exec" then assignments.forM (fun entry => modify (·.give entry.1))
              runCommand fuel last bare special search name args
            if special || assignments.isEmpty then whole else inScope whole)

/-- Run the command of a name with arguments. -/
def runCommand (fuel : Nat) (last bare special : Bool) (search : Option Bytes) (name : Bytes)
    (args : List Bytes) : Work Unit :=
  match fuel with
  | 0 => spin
  | fuel + 1 => do
      let known := (← get).functions.find? (fun entry => entry.1 = name)
      match if bare then none else known, builtin? name args with
      | some (_, body), _ => runFunction fuel body args
      | none, some work => asBuiltin special name (do setStatus (← work))
      | none, none =>
          if name = utf8 "eval" then
            asBuiltin special name (do
              setStatus 0
              runScript fuel false 1 (unwords args))
          else if name = utf8 "." then asBuiltin special name (runFile fuel args)
          else if name = utf8 "exec" then
            asBuiltin special name (do
              let name := args.headD []
              let candidates := (← get).candidates name
              become fuel (if Byte.slash ∈ name then [name] else candidates) args)
          else if name = utf8 "type" then
            asBuiltin special name (do setStatus (← tellMeanings 0 args))
          else if name = utf8 "command" then
            asBuiltin special name (do setStatus (← tellAsked args))
          else runProgram fuel last search name args

/-- Run a function with arguments of its own. -/
def runFunction (fuel : Nat) (body : Command) (args : List Bytes) : Work Unit :=
  match fuel with
  | 0 => spin
  | fuel + 1 => do
      let outer ← get
      if callLimit ≤ outer.calls then
        giveUp (utf8 "Maximum function recursion depth (" ++ decimal (Int.ofNat callLimit) ++
          utf8 ") reached")
      within (fun s => { s with arguments := args, place := {}, loops := 0, calls := s.calls + 1 })
        (fun s => { s with
          arguments := outer.arguments, place := outer.place, loops := outer.loops
          calls := outer.calls })
        (inScope (untilReturn (run fuel false body)))

/-- Run the script in a file as a part of this one. -/
def runFile (fuel : Nat) (args : List Bytes) : Work Unit :=
  match fuel with
  | 0 => spin
  | fuel + 1 => do
      match ← takeArguments args with
      | [] => setStatus 0
      | name :: _ => do
          let o ← onSystem look
          let found := ((← get).candidates name).find? (isFileAt o)
          match if Byte.slash ∈ name then some name else found with
          | none => giveUp (name ++ utf8 ": not found")
          | some path =>
              match ← onSystem (readScript path) with
              | .error errno => giveUp (openingProblem path errno)
              | .ok script =>
                  let outer ← get
                  within (fun s => { s with command := some path, conditions := 0, status := 0 })
                    (fun s => { s with command := outer.command, conditions := outer.conditions })
                    (untilReturn (runSource fuel false none 1 0 script))

/-- Run a program as a process of its own, or as this one.  It may be looked for under
another search path. -/
def runProgram (fuel : Nat) (last : Bool) (search : Option Bytes) (name : Bytes)
    (args : List Bytes) : Work Unit :=
  match fuel with
  | 0 => spin
  | fuel + 1 => do
      let s ← get
      let o ← onSystem look
      let paths? := match search with
        | some path => pathsIn? o name (candidatesIn path name)
        | none => s.paths? o name
      match paths? with
      | none =>
          grumble (executionProblem name (s.absence o name))
          setStatus notFoundCode
      | some paths =>
          if search.isNone then track name (paths.headD [])
          let program := become fuel paths (name :: args)
          if last && !s.hasTraps then program
          else setStatus (← awaitForeground [← startForeground fuel program])

/-- Become the program at the first of some paths that can be executed. -/
def become (fuel : Nat) (paths words : List Bytes) : Work Unit :=
  match fuel with
  | 0 => spin
  | fuel + 1 => do
      let entries := (← get).entries
      match loadFirst (← onSystem look) words entries .noEntry paths with
      | .ok image => onSystem (Act.leave (imageActivity fuel image entries))
      | .error errno =>
          grumble (executionProblem (words.headD []) errno)
          stop (executionCode errno)

/-- Start a process in which a shell like this one does something: its number. -/
def startShell (fuel : Nat) (work : Work Unit) : Work Nat :=
  match fuel with
  | 0 => spin
  | fuel + 1 => do
      let s ← get
      onSystem (Activity.fork (shellActivity fuel s.forSubshell work))

/-- Start a process in which a shell like this one does something that is waited for: its
number. -/
def startForeground (fuel : Nat) (work : Work Unit) : Work Nat :=
  match fuel with
  | 0 => spin
  | fuel + 1 => do
      let _ ← claimNumber
      startShell fuel work

/-- Tell of a command before it runs, if that is asked for. -/
def trace (fuel : Nat) (errors : Descriptor) (words : List Bytes) : Work Unit :=
  match fuel with
  | 0 => spin
  | fuel + 1 => do
      if (← get).has tells then
        let mark ← expandMark fuel "PS4"
        let _ ← onSystem (writeTo errors (mark ++ unwords words ++ [Byte.newline]))

/-- What the process of a shell does that is in a state. -/
def shellActivity (fuel : Nat) (s : State) (work : Work Unit) : Activity :=
  match fuel with
  | 0 => .spin
  | fuel + 1 =>
      let act : Act (Except Jump Nat × State) := (runWhole fuel work).run.run s
      act (fun (result, _) => .exit (result.toOption.getD failureCode))

/-- Run all that a shell does, and what it does at its end: its code. -/
def runWhole (fuel : Nat) (work : Work Unit) : Work Nat :=
  match fuel with
  | 0 => spin
  | fuel + 1 => do
      let whole (work : Work Unit) : Work Nat := do
        try
          work
          pure (← get).status
        catch jump =>
          match jump with
          | .exit code | .back code => pure code
          | .failure => pure failureCode
          | .leave _ | .next _ => pure (← get).status
      let code ← whole work
      match (← get).traps.find? (fun entry => entry.1 = 0 && !entry.2.isEmpty) with
      | none => pure code
      | some (_, script) =>
          modify (fun s => { s with
            status := code, interrupted := some code, conditions := 0, loops := 0
            traps := s.traps.filter (fun entry => entry.1 ≠ 0) })
          whole (do
            runScript fuel false 1 script
            setStatus code)

/-- What a process does that executes an image with raw environment entries. -/
def imageActivity (fuel : Nat) (image : Image) (entries : List Bytes) : Activity :=
  match fuel with
  | 0 => .spin
  | fuel + 1 =>
      .execute (
        match tool? image.program with
        | some tool => (tool.act image.words).activity
        | none =>
            .look (fun o =>
              shellActivity fuel (State.start entries o (image.words.headD []))
                (runStart fuel image.words.tail)))

/-- Run what a shell is started with. -/
def runStart (fuel : Nat) (args : List Bytes) : Work Unit :=
  match fuel with
  | 0 => spin
  | fuel + 1 => do
      let start ← readStart args
      match start.takesScript, start.takesInput, start.words with
      | true, takesInput, script :: words => do
          modify (fun s => { s with
            name := words.headD s.name, arguments := words.tail })
          refuseTerminal
          modify ({ · with line := 1 })
          let asks := (← get).has asksForCommands
          let done ← unlessFailed
            (runScript fuel (!takesInput && !asks) 1 (Bytes.untilNul script))
          if done.isNone then
            if !(← get).has asksForCommands then fail
            setStatus failureCode
          if (← get).has readsInput || done.isNone then
            runSource fuel true (some standardInput) 1 0 []
      | false, false, path :: words => do
          match ← onSystem (readScript path) with
          | .error errno => giveUp (openingProblem path errno)
          | .ok script =>
              modify ({ · with name := path, arguments := words })
              refuseTerminal
              modify ({ · with line := 1 })
              runSource fuel true none 1 0 script
      | _, _, words => do
          modify ({ · with arguments := words })
          refuseTerminal
          modify ({ · with line := 1 })
          runSource fuel true (some standardInput) 1 0 []

end

/-- How deep shells are followed before they count as endless. -/
def depthLimit : Nat :=
  200000

/-- What a process does that executes an image with raw environment entries. -/
def activityOf (image : Image) (entries : List Bytes) : Activity :=
  imageActivity depthLimit image entries

end Overseer.Shell

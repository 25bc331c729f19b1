import Overseer.Shell.Builtin.Print

/-!
# Commands for jobs and signals

The commands built into the shell that wait for processes, list them and send them
signals, and that say what is done when a signal comes.
-/

namespace Overseer.Shell

open Overseer.Machine

/-! ## Waiting -/

/-- Wait for the processes of a job: how they ended.  There is nothing if the wait
was given up. -/
def awaitAll (patience : Patience) (endings : List Ending) : List Nat → Act (Option (List Ending))
  | [] => pure (some endings)
  | pid :: pids => do
      match ← Activity.await pid patience with
      | .ok departure => awaitAll patience (endings ++ [departure.ending]) pids
      | .error errno =>
          if errno = .noChild then awaitAll patience endings pids else pure none

/-- Take note of how a job ended. -/
def State.endJob (s : State) (number : Nat) (endings : List Ending) : State :=
  { s with
    jobs := s.jobs.map (fun j =>
      if j.number = number then { j with endings := some endings } else j) }

/-- Take note of the jobs that have ended meanwhile. -/
def collectJobs : Work Unit := do
  for j in (← get).jobs do
    if j.endings.isNone then
      if let some endings ← onSystem (awaitAll .none [] j.pids) then
        modify (·.endJob j.number endings)

/-- Whether it is said of a program that a signal has ended it. -/
def isTold (signal : Nat) : Bool :=
  signal ≠ interruptSignal && signal ≠ pipeSignal

/-- Say which signals have ended programs, where anything is said of them. -/
def tellEndings : List Ending → Act Unit
  | [] => pure ()
  | .signalled signal :: endings => do
      if isTold signal then complain (utf8 (signalDescription signal) ++ [Byte.newline])
      tellEndings endings
  | _ :: endings => tellEndings endings

/-- Wait for processes that the shell cannot do without: the code. -/
def awaitForeground (pids : List Nat) : Work Nat := do
  let endings := (← onSystem (awaitAll .endless [] pids)).getD []
  onSystem (tellEndings endings)
  if !(← get).jobs.isEmpty then collectJobs
  pure (codeOfAll endings)

/-- Let the processes that are started next have a number, of which they need not be
rid at the end. -/
def claimNumber : Work Nat := do
  let (number, jobs) := Job.claim (← get).jobs
  modify ({ · with jobs })
  pure number

/-- The code of a wait that a signal has ended.  The signal is kept for later. -/
def interruptedCode : Work Nat := do
  let numbers ← onSystem (Activity.signals : Act (List Nat))
  modify (fun s => { s with arrived := s.arrived ++ numbers })
  pure (signalCode + (← get).arrived.getLastD 0)

/-- Wait for a job: whether the wait was not given up.  If that is asked for, it is
said which signals have ended its processes. -/
def waitForJob (tells : Bool) (number : Nat) : Work Bool := do
  match (← get).jobs.find? (fun j => j.number = number) with
  | none => pure true
  | some j =>
      let ended ←
        if j.endings.isSome then pure true
        else
          match ← onSystem (awaitAll .untilSignal [] j.pids) with
          | none => pure false
          | some endings =>
              if tells then onSystem (tellEndings endings)
              modify (·.endJob number endings)
              pure true
      if ended then
        modify (fun s => { s with
          jobs := s.jobs.map (fun j =>
            if j.number = number then { j with awaited := true } else j) })
      pure ended

/-- Wait for jobs. -/
def waitForAll : List Nat → Work Nat
  | [] => pure 0
  | number :: rest => do
      if ← waitForJob false number then waitForAll rest else interruptedCode

/-- The job of a specification, or no more of the command. -/
def jobOf (text : Bytes) : Work Job := do
  match Job.find (← get).jobs text with
  | .ok j => pure j
  | .error problem => giveUp problem.message

/-- The job that a word stands for, which may be the number of its last process. -/
def waitTarget? (text : Bytes) : Work (Option Job) := do
  if text.head? = some 0x25 then some <$> jobOf text
  else
    let pid ← readCount text
    pure ((← get).jobs.find? (fun j => j.pids.getLast? = some pid))

/-- Wait for some jobs: the code of the last. -/
def waitForSome (code : Nat) : List Bytes → Work Nat
  | [] => pure code
  | target :: rest => do
      match ← waitTarget? target with
      | none => waitForSome code rest
      | some j =>
          if ← waitForJob true j.number then
            let ended := (← get).jobs.find? (fun other => other.number = j.number)
            waitForSome ((ended.bind Job.code?).getD 0) rest
          else interruptedCode

/-- The code of a wait for something that is no job. -/
def noJobCode : Nat :=
  127

/-- Wait for jobs. -/
def wait (args : List Bytes) : Work Nat := do
  let targets ← takeArguments args
  if targets.isEmpty then waitForAll ((← get).jobs.map Job.number)
  else waitForSome noJobCode targets

/-! ## Lists -/

/-- List the jobs of some numbers. -/
def showJobs (detail : Job.Detail) (numbers : List Nat) : Work Unit := do
  let (text, jobs) := Job.list detail (← get).jobs numbers
  modify ({ · with jobs })
  let _ ← printText "jobs" (utf8 text)

/-- List jobs. -/
def jobs (args : List Bytes) : Work Nat := do
  let (options, targets) ← takeOptions { alone := "lp" } args
  let detail : Job.Detail := match options.getLast? with
    | none => .brief
    | some option => if option.letter = 0x6c then .long else .pids
  if targets.isEmpty then
    collectJobs
    showJobs detail ((← get).jobs.map Job.number)
  else
    for target in targets do
      showJobs detail [(← jobOf target).number]
  pure 0

/-- Refuse to let a job go on in the foreground or the background: no job is under
control. -/
def refuseControl (args : List Bytes) : Work Nat := do
  let targets ← takeArguments args
  let target := targets.headD (utf8 "%")
  let _ ← jobOf target
  giveUp (utf8 "job " ++ targets.headD (utf8 "(null)") ++
    utf8 " not created under job control")

/-! ## Signals -/

/-- The number of a signal given by number. -/
def signalOfNumber? (text : Bytes) : Option Nat :=
  (readNumber? text).filter (· ≤ lastSignal)

/-- The number of a signal given by name or number. -/
def readSignal? (text : Bytes) : Option Nat :=
  (signalOfNumber? text).or (signalNumber? text)

/-- The process that a word stands for; a job stands for a group of processes, of which
there are none. -/
def signalTarget (text : Bytes) : Work Int := do
  match text with
  | 0x25 :: _ => return -Int.ofNat ((← jobOf text).pids.headD 0)
  | 0x2d :: rest => return -Int.ofNat (← readCount rest)
  | _ => return Int.ofNat (← readCount text)

/-- Send a signal to processes: an exit code. -/
def sendSignal (number : Nat) (code : Nat) : List Bytes → Work Nat
  | [] => pure code
  | target :: rest => do
      match ← onSystem (Activity.signal (← signalTarget target) number) with
      | .ok () => sendSignal number code rest
      | .error errno =>
          grumble (errno.description ++ [Byte.newline])
          sendSignal number 1 rest

/-- Name the signal of a number, or of the exit code of a program that it ended. -/
def nameSignal (text : Bytes) : Work Nat := do
  let code ← readCount text
  match signalName? (if signalCode < code then code - signalCode else code) with
  | some name => printLine "kill" (utf8 name)
  | none => giveUp (utf8 "invalid signal number or exit status: " ++ text)

/-- Name all signals. -/
def nameSignals : Work Nat :=
  printText "kill" (unlines (utf8 "0" :: signalNames.map utf8))

/-- What is asked of `kill`. -/
structure KillRequest where
  /-- Whether signals are to be named. -/
  lists : Bool := false
  /-- The signal to send. -/
  signal : Option Nat := none

/-- Read the options of `kill`. -/
def killRequest (r : KillRequest) : List ReadOption → Work KillRequest
  | [] => pure r
  | { letter := 0x6c, .. } :: rest => killRequest { r with lists := true } rest
  | { argument, .. } :: rest =>
      match readSignal? argument with
      | some signal => killRequest { r with signal := some signal } rest
      | none => giveUp (utf8 "invalid signal number or name: " ++ argument)

/-- Send a signal, or name signals. -/
def kill (args : List Bytes) : Work Nat := do
  let (request, targets) ← match args with
    | (0x2d :: name) :: rest =>
        match readSignal? name with
        | some signal => pure ({ signal := some signal : KillRequest }, rest)
        | none => do
            let (options, rest) ← takeOptions { alone := "l", needing := "s" } args
            pure (← killRequest {} options, rest)
    | _ => pure ({}, args)
  match request.lists, targets with
  | false, _ :: _ => sendSignal (request.signal.getD terminate) 0 targets
  | true, [] => nameSignals
  | true, target :: _ =>
      if request.signal.isNone then nameSignal target else usage
  | false, [] => usage
where
  /-- Say how the command is used. -/
  usage : Work Nat :=
    giveUp (utf8 ("Usage: kill [-s sigspec | -signum | -sigspec] [pid | job]... or\n" ++
      "kill -l [exitstatus]"))

/-! ## What is done when signals come -/

/-- The number of a signal, or zero for the end of the shell. -/
def readTrapped? (text : Bytes) : Option Nat :=
  if withSmallLetters text = utf8 "exit" then some 0 else readSignal? text

/-- Arrange for a signal what is done when it comes, unless it was ignored from the
start.  The end of another process is always noticed. -/
def arrangeTrap (number : Nat) (action : Option Bytes) : Work Unit := do
  if number ≠ 0 && !(← get).barred.contains number then
    onSystem (arrange number (match action with
      | none => .standard
      | some [] => if number = childSignal then .caught else .ignored
      | some _ => .caught))

/-- Set what is done when signals come. -/
def setTraps (action : Option Bytes) : List Bytes → Work Nat
  | [] => pure 0
  | name :: rest => do
      match readTrapped? name with
      | none =>
          onSystem (complainAs (utf8 "trap") (name ++ utf8 ": bad trap"))
          pure 1
      | some number =>
          modify (fun s =>
            let others := s.traps.filter (fun entry => entry.1 ≠ number)
            { s with traps := others ++ (action.map (number, ·)).toList })
          arrangeTrap number action
          setTraps action rest

/-- Tell what is done when signals come. -/
def listTraps : Work Nat := do
  let traps := (← get).traps.mergeSort (fun left right => decide (left.1 ≤ right.1))
  let line (entry : Nat × Bytes) : Bytes :=
    let name := (signalName? entry.1).getD "EXIT"
    utf8 "trap -- " ++ inSingleQuotes entry.2 ++ utf8 (" " ++ name ++ "\n")
  printText "trap" (traps.flatMap line)

/-- Set or forget what is done when signals come. -/
def trap (args : List Bytes) : Work Nat := do
  match ← takeArguments args with
  | [] => listTraps
  | [name] => setTraps none [name]
  | action :: names =>
      if (signalOfNumber? action).isSome then setTraps none (action :: names)
      else setTraps (if action = hyphen then none else some action) names

end Overseer.Shell

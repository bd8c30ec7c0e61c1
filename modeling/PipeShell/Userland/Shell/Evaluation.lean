import PipeShell.Userland.Shell.Ending
import PipeShell.Userland.Shell.Questions
import PipeShell.Userland.Shell.Surroundings

/-!
# Running commands

What each command of a script does.  The commands in a command are run by a function
that is a parameter, so `evaluateWith` says what one level of commands does, and
`evaluate` puts the levels together up to a depth that no shell survives.
-/

namespace PipeShell.Userland.Shell

open PipeShell.Userland.Action Running

/-! ## Commands built into the shell -/

/-- The commands that run no others. -/
def plainBuiltin? (name : Bytes) : Option (List Bytes → Running Nat) :=
  match nameOfBytes name with
  | ":" | "true" => some fun _ ↦ return 0
  | "false" => some fun _ ↦ return 1
  | "echo" => some echo
  | "printf" => some printf
  | "test" | "[" => some (test name)
  | "export" => some (mark true)
  | "readonly" => some (mark false)
  | "local" => some makeLocal
  | "unset" => some unset
  | "set" => some changeSettings
  | "shift" => some shift
  | "getopts" => some getopts
  | "alias" => some defineAliases
  | "unalias" => some dropAliases
  | "read" => some read
  | "cd" | "chdir" => some cd
  | "pwd" => some pwd
  | "umask" => some umask
  | "trap" => some trap
  | "kill" => some kill
  | "wait" => some wait
  | "jobs" => some jobs
  | "hash" => some hash
  | "type" => some (describeAll 0)
  | "ulimit" => some ulimit
  | "times" => some fun _ ↦ times
  | "fg" | "bg" => some fun _ ↦ fail "No current job"
  | _ => none

/-- The commands `break` and `continue`. -/
def leaveLoops (goesOn : Bool) (args : List Bytes) : Running Nat := do
  let count ← match args with
    | [] => pure 1
    | text :: _ => do
        let n ← numberOf text
        if n = 0 then failWith (encode "Illegal number: " ++ text)
        pure n
  let count := min count (← state).loops
  if 0 < count then change fun s ↦ { s with leaving := some (.loops count goesOn) }
  return 0

/-- The command `return`. -/
def leaveFunction (args : List Bytes) : Running Nat := do
  let status ← match args with
    | [] => pure (← state).status
    | text :: _ => numberOf text
  change fun s ↦ { s with leaving := some (.function (!args.isEmpty)) }
  return status

/-- The command `exit`. -/
def leaveShell (args : List Bytes) : Running Nat := do
  if let text :: _ := args then
    let status ← numberOf text
    change fun s ↦ { s with saved := some status }
  exit

/-- The command `exec`. -/
def replaceShell (args : List Bytes) : Running Nat := do
  match ← operands args with
  | [] => return 0
  | args => become (← searchPath) args

/-- The command `command` where it describes a name. -/
def describeCommand (args : List Bytes) : Running Nat := do
  let (found, names) ← options "pvV" args
  let has (letter : Char) : Bool := found.any (·.1 == letter)
  match names with
  | [] => return 0
  | name :: _ =>
      if !has 'v' && !has 'V' then return 0
      let directories := if has 'p' then some (searchDirectories usualSearch) else none
      describe (has 'V') directories name

/-- The command `eval`. -/
def runArguments (evaluate : Evaluate) (tested : Bool) (args : List Bytes) : Running Nat :=
  if args.isEmpty then return 0
  else runText evaluate ⟨false, tested⟩ ([(0x20 : UInt8)].intercalate args)

/-- The file of a script to be run in the shell itself. -/
def findScript (name : Bytes) : Running Bytes := do
  if name.contains 0x2F then return name
  let rec search : List Bytes → Action (Option Bytes)
    | [] => return none
    | directory :: rest => do
        let path := inDirectory directory name
        match ← facts (.facts (nameOfBytes path) true) with
        | .ok f => if f.kind = .regular then return some path else search rest
        | .error _ => search rest
  match ← act (search (← searchPath)) with
  | some path => return path
  | none => failWith (name ++ encode ": not found")

/-- Opens a script under a number that programs are not given. -/
def openScript (path : Bytes) : Running Descriptor := do
  let fd ← openTarget .reading path
  if firstCopy ≤ fd then return fd
  match ← act (number (.keep fd firstCopy)) with
  | .ok copy =>
      act (perform (.close fd))
      return copy
  | .error _ => return fd

/-- The command `.`. -/
def runFile (evaluate : Evaluate) (args : List Bytes) : Running Nat := do
  match ← operands args with
  | [] => return 0
  | name :: _ =>
      let path ← findScript name
      let fd ← openScript path
      change fun s ↦ { s with running := some path }
      let result ← attempt (runWhole evaluate (.ofFile fd))
      act (perform (.close fd))
      match result with
      | .ok status => return status
      | .error e => throw e

/-- What a built-in command does; `tested` says whether something depends on its
status. -/
def builtin? (evaluate : Evaluate) (tested : Bool) (name : Bytes) :
    Option (List Bytes → Running Nat) :=
  match nameOfBytes name with
  | "break" => some (leaveLoops false)
  | "continue" => some (leaveLoops true)
  | "return" => some leaveFunction
  | "exit" => some leaveShell
  | "exec" => some replaceShell
  | "command" => some describeCommand
  | "eval" => some (runArguments evaluate tested)
  | "." => some (runFile evaluate)
  | _ => plainBuiltin? name

/-- Runs a built-in command, and puts out what it has written whether or not it was
wrong. -/
def runBuiltin (evaluate : Evaluate) (tested : Bool) (name : Bytes) (args : List Bytes) :
    Running Unit := do
  let outer := (← state).running
  change fun s ↦ { s with running := some name }
  let result ← attempt ((builtin? evaluate tested name).getD (fun _ ↦ return 0) args)
  let failed ← flush
  match result with
  | .ok status =>
      if failed then warn (name ++ encode ": I/O error")
      change fun s ↦ { s with status := if failed then status ||| 1 else status, running := outer }
  | .error e =>
      change fun s ↦ { s with running := outer }
      throw e

/-! ## Finding commands -/

/-- What the name of a command stands for. -/
inductive Meaning where
  /-- There is no name. -/
  | nothing
  | builtin
  | function (body : Command)
  | program

/-- A command whose words have been expanded as far as need be to know what it is. -/
structure Invocation where
  meaning : Meaning
  /-- What stands in front of the name: `command` and its options. -/
  before : List Bytes
  /-- The name and the arguments. -/
  words : List Bytes
  /-- The words that have not been expanded. -/
  rest : List Word
  /-- Whether it ends the shell if it is used wrongly. -/
  special : Bool
  /-- Whether functions are passed over. -/
  withoutFunctions : Bool
  /-- The directories to look in, if they are not the search path. -/
  directories : Option (List Bytes)

/-- Expands words until there is a field. -/
def firstFields (capture : Command → Running Bytes) : List Word → Running (List Bytes × List Word)
  | [] => return ([], [])
  | word :: rest => do
      match ← expandFields capture word with
      | [] => firstFields capture rest
      | fields => return (fields, rest)

/-- What `command` is given. -/
structure Commanded where
  /-- The name `command` and its options. -/
  before : List Bytes
  /-- The words behind them. -/
  words : List Bytes
  rest : List Word
  /-- Whether the words are a command to be run. -/
  runs : Bool
  /-- Whether it is looked for in the usual directories. -/
  usual : Bool

/-- Reads the options of `command`. -/
def commanded (capture : Command → Running Bytes) (usual : Bool) (before : List Bytes) :
    Nat → List Bytes → List Word → Running Commanded
  | 0, words, rest => return ⟨before, words, rest, false, usual⟩
  | limit + 1, words, rest => do
      let (words, rest) ← if words.isEmpty then firstFields capture rest else pure (words, rest)
      match words with
      | [] => return ⟨before, [], rest, false, usual⟩
      | (0x2D :: c :: letters) :: more =>
          let before := before ++ words.take 1
          if c == 0x2D && letters.isEmpty then
            let (more, rest) ← if more.isEmpty then firstFields capture rest else pure (more, rest)
            return ⟨before, more, rest, !more.isEmpty, usual⟩
          else if (c :: letters).all (· == 0x70) then
            commanded capture true before limit more rest
          else return ⟨before, more, rest, false, usual⟩
      | _ => return ⟨before, words, rest, true, usual⟩

/-- What a name stands for, programs left aside. -/
def meaningOf (s : State) (withoutFunctions : Bool) (name : Bytes) : Meaning :=
  match if withoutFunctions then none else s.functions.lookup name with
  | some body => .function body
  | none => if builtinNames.any fun b ↦ encode b.1 == name then .builtin else .program

/-- Whether a name is that of a special command. -/
def isSpecial (name : Bytes) : Bool :=
  specialNames.any fun special ↦ encode special == name

/-- Finds out what a command is, where `command` stands for what follows it. -/
def invocationFrom (capture : Command → Running Bytes) : Nat → Invocation → Running Invocation
  | 0, i => return i
  | limit + 1, i => do
      let name := i.words.headD []
      match meaningOf (← state) i.withoutFunctions name with
      | .builtin =>
          if name != encode "command" then return { i with meaning := .builtin }
          let c ← commanded capture false [name] byteLimit (i.words.drop 1) i.rest
          if !c.runs then
            return { i with meaning := .builtin, words := c.before ++ c.words, rest := c.rest }
          invocationFrom capture limit
            { i with
              before := i.before ++ c.before
              words := c.words
              rest := c.rest
              withoutFunctions := true
              directories := if c.usual then some (searchDirectories usualSearch) else i.directories }
      | meaning => return { i with meaning }

/-- The words that make an assignment of an argument with an equals sign. -/
def assigningNames : List String :=
  ["export", "local", "readonly"]

/-- Expands the rest of the words. -/
def expandRest (capture : Command → Running Bytes) (assigning : Bool) :
    List Word → Running (List Bytes)
  | [] => return []
  | word :: rest => do
      let fields ←
        if assigning && isAssignment word then pure [← expandText capture .assignment word]
        else expandFields capture word
      return fields ++ (← expandRest capture assigning rest)

/-- Finds out what a command is and what its arguments are. -/
def invocation (capture : Command → Running Bytes) (words : List Word) : Running Invocation := do
  let (fields, rest) ← firstFields capture words
  match fields with
  | [] => return ⟨.nothing, [], [], [], false, false, none⟩
  | name :: _ =>
      let start : Invocation := ⟨.program, [], fields, rest, isSpecial name, false, none⟩
      let i ← invocationFrom capture byteLimit start
      let assigning := match i.meaning with
        | .builtin => assigningNames.contains (nameOfBytes (i.words.headD []))
        | _ => false
      let more ← expandRest capture assigning i.rest
      return { i with words := i.words ++ more, rest := [] }

/-! ## Simple commands -/

/-- Whether something is done for a signal or at the end of the shell. -/
def State.hasTraps (s : State) : Bool :=
  s.traps.any (!·.2.isEmpty)

/-- Shows a command that is traced, where standard error was before the command's
redirections. -/
def trace (capture : Command → Running Bytes) (words : List Bytes) : Running Unit := do
  let s ← state
  if !s.hasOption 'x' then return ()
  let untraced (command : Command) : Running Bytes := do
    change (·.setOption 'x' false)
    let result ← attempt (capture command)
    change (·.setOption 'x' true)
    match result with
    | .ok text => return text
    | .error e => throw e
  let lead := (s.valueOf? "PS4").getD []
  let draft : Draft := .start [] true 1 s.aliases s.documents
  let shown ← attempt do
    match (expandableText lead).run draft with
    | .ok (word, draft) =>
        change fun s ↦ { s with documents := draft.documents }
        expandText untraced .bare word
    | .error _ => return lead
  let lead ← match shown with
    | .ok text => pure text
    | .error .error => pure lead
    | .error e => throw e
  let copy := (s.aside.headD []).findSome? fun file ↦ if file.fd = 2 then file.copy else none
  let line := lead ++ [(0x20 : UInt8)].intercalate words ++ [10]
  let _ ← act (write (copy.getD 2) line)

/-- Expands an assignment and carries it out; `kept` says whether the variable is kept
as it is until the command ends. -/
def carryOut (capture : Command → Running Bytes) (kept export_ : Bool) (word : Word) :
    Running Bytes := do
  let text ← expandText capture .assignment word
  let (name, value) := cutAtEquals text
  if kept then keepVariable name
  assign name (some (value.getD [])) (kept || export_)
  return text

/-- The number of functions that may be run inside one another. -/
def mostCalls : Nat := 1000

/-- Runs a function.  One that is too deep inside others is counted for good. -/
def runFunction (evaluate : Evaluate) (tested : Bool) (args : List Bytes) (body : Command) :
    Running Unit := do
  let outer ← state
  change fun s ↦ { s with calls := s.calls + 1 }
  if mostCalls ≤ outer.calls then
    fail s!"Maximum function recursion depth ({mostCalls}) reached"
  change fun s ↦ { s.setParameters args with loops := 0 }
  let result ← attempt (evaluate ⟨false, tested⟩ body)
  change fun s ↦
    { s with
      parameters := outer.parameters
      optionPlace := outer.optionPlace
      loops := outer.loops
      calls := s.calls - 1
      leaving := match s.leaving with
        | some (.function _) => none
        | leaving => leaving }
  if let .error e := result then throw e

/-- Runs a program in a process of its own, or in that of the shell if nothing comes
behind it. -/
def runProgram (last : Bool) (i : Invocation) : Running Unit := do
  let directories ← match i.directories with
    | some directories => pure directories
    | none => searchPath
  let name := i.words.headD []
  let known := (← state).found.any (·.1 == name) && i.directories.isNone
  let missing : Option Errno ←
    if name.contains 0x2F || known then pure none
    else
      match i.directories with
      | none =>
          match ← findProgram name directories with
          | .ok _ => pure none
          | .error e => pure (some e)
      | some _ =>
          match ← act (findFile name .noEntry directories) with
          | .ok _ => pure none
          | .error e => pure (some e)
  match missing with
  | some e =>
      warn (notFoundText name e)
      setStatus 127
  | none =>
      if last && !(← state).hasTraps then become directories i.words
      let _ ← newJob
      let program ← childProgram do
        let _ ← attempt (become directories i.words : Running Unit)
      let pid ← act (fork program)
      setStatus (← await 0 [pid])

/-- Runs a command that has been found. -/
def runInvocation (evaluate : Evaluate) (manner : Manner) (i : Invocation) : Running Unit := do
  match i.meaning with
  | .nothing => setStatus (← state).substituted
  | .program => runProgram manner.last i
  | .function body => runFunction evaluate manner.tested (i.words.drop 1) body
  | .builtin =>
      let name := i.words.headD []
      match ← attempt (runBuiltin evaluate manner.tested name (i.words.drop 1)) with
      | .ok _ => return ()
      | .error .error => if i.special then throw .error
      | .error e => throw e

/-- Runs a simple command. -/
def runSimple (evaluate : Evaluate) (manner : Manner) (line : Nat)
    (assignments words : List Word) (redirections : List Redirection) : Running Unit := do
  let capture := captureWith evaluate
  change fun s ↦ { s with line, substituted := 0 }
  let i ← invocation capture words
  let before ← state
  let named := !i.words.isEmpty
  let replaces := i.words.head? == some (encode "exec") &&
    match i.meaning with
    | .builtin => true
    | _ => false
  let keeps := named && !i.special
  if keeps then change fun s ↦ { s with kept := [] :: s.kept }
  let targets ← redirections.mapM (targetOf capture)
  beginAside
  if ← redirectAll capture targets then
    let mut assigned : List Bytes := []
    for word in assignments do
      assigned := assigned ++ [← carryOut capture keeps (replaces && 1 < i.words.length) word]
    trace capture (assigned ++ i.before ++ i.words)
    runInvocation evaluate manner i
  else
    setStatus 2
    if i.special then throw .error
  endAsideTo (before.aside.length + 1) (← state).aside.length
  endAside replaces
  bringBack before.kept.length

/-! ## Compound commands -/

/-- What the turn of a loop comes to: how it has been left, if it has. -/
def endTurn : Running (Option Leaving) := do
  let s ← state
  match s.leaving with
  | some (.loops count goesOn) =>
      if count ≤ 1 then
        change fun s ↦ { s with leaving := none }
        return some (.loops 1 goesOn)
      else
        change fun s ↦ { s with leaving := some (.loops (count - 1) goesOn) }
        return some (.loops 1 false)
  | leaving => return leaving

/-- Whether a loop that has been left so goes on. -/
def staysIn : Option Leaving → Bool
  | none => true
  | some (.loops _ goesOn) => goesOn
  | some (.function _) => false

/-- Does something as the body of a loop. -/
def inLoop (body : Running Nat) : Running Unit := do
  change fun s ↦ { s with loops := s.loops + 1 }
  let status ← body
  change fun s ↦ { s with loops := s.loops - 1 }
  setStatus status

/-- Runs a body for each of some values. -/
def runEach (evaluate : Evaluate) (tested : Bool) (name : Bytes) (body : Command) :
    Nat → List Bytes → Running Nat
  | status, [] => return status
  | _, value :: rest => do
      setVariable name value
      evaluate ⟨false, tested⟩ body
      let status := (← state).status
      if staysIn (← endTurn) then runEach evaluate tested name body status rest
      else return status

/-- Repeats a body as long as a test is good, or as it is bad. -/
def runLoop (evaluate : Evaluate) (tested whileGood : Bool) (test body : Command) :
    Nat → Nat → Running Nat
  | 0, status => return status
  | limit + 1, status => do
      evaluate ⟨false, true⟩ test
      let found := (← state).status
      match ← endTurn with
      | none =>
          if (found == 0) != whileGood then return status
          evaluate ⟨false, tested⟩ body
          let status := (← state).status
          if staysIn (← endTurn) then runLoop evaluate tested whileGood test body limit status
          else return status
      | left =>
          if staysIn left then runLoop evaluate tested whileGood test body limit status
          else return if left = some (.function true) then found else status

/-- Whether a text matches one of some patterns. -/
def matchesAny (capture : Command → Running Bytes) (text : Bytes) : List Word → Running Bool
  | [] => return false
  | word :: rest => do
      if matchesPattern (← expandPattern capture word) text then return true
      matchesAny capture text rest

/-- Runs the body of the first case that matches. -/
def runCases (evaluate : Evaluate) (manner : Manner) (text : Bytes) : List Case → Running Unit
  | [] => setStatus 0
  | .of patterns body :: rest => do
      if (← state).leaving.isSome then setStatus 0
      else if ← matchesAny (captureWith evaluate) text patterns then
        match body with
        | .nothing => setStatus 0
        | body => evaluate manner body
      else runCases evaluate manner text rest

/-- Runs a command with redirections. -/
def runRedirected (evaluate : Evaluate) (tested : Bool) (line : Nat) (command : Command)
    (redirections : List Redirection) : Running Unit := do
  let capture := captureWith evaluate
  change fun s ↦ { s with line }
  let targets ← redirections.mapM (targetOf capture)
  beginAside
  if ← redirectAll capture targets then evaluate ⟨false, tested⟩ command
  else setStatus 2
  endAside false

/-- Carries out the redirections of a process of its own, in which they stay. -/
def redirectForGood (capture : Command → Running Bytes) (targets : List Target) : Running Unit := do
  for target in targets do redirect capture false target

/-- Runs a command in a shell of its own. -/
def runSubshell (evaluate : Evaluate) (manner : Manner) (line : Nat) (command : Command)
    (redirections : List Redirection) : Running Unit := do
  let capture := captureWith evaluate
  change fun s ↦ { s with line }
  let targets ← redirections.mapM (targetOf capture)
  let body : Running Unit := do
    redirectForGood capture targets
    evaluate { manner with last := true } command
  if manner.last && !(← state).hasTraps then body
  else
    let _ ← newJob
    let pid ← startChild (finish evaluate) false true body
    setStatus (← await 0 [pid])

/-- Runs a command that is not waited for. -/
def runBackground (evaluate : Evaluate) (line : Nat) (command : Command)
    (redirections : List Redirection) : Running Unit := do
  let capture := captureWith evaluate
  unless redirections.isEmpty do change fun s ↦ { s with line }
  let targets ← redirections.mapM (targetOf capture)
  let number ← newJob
  let pid ← startChild (finish evaluate) true true do
    redirectForGood capture targets
    evaluate ⟨true, false⟩ command
  addJob number [pid]
  setStatus 0

/-- Finds the program of a command before a process is started for it, so that the shell
remembers it. -/
def foresee : Command → Running Unit
  | .simple _ _ (word :: _) _ => do
      if let some name := plainWord? word then
        let s ← state
        let known := s.found.any (·.1 == name)
        if isName name && !known then
          if let .program := meaningOf s false name then
            let _ ← findProgram name (← searchPath)
  | _ => return ()

/-- Starts the commands of a pipeline; `input` is where the next one reads from. -/
def startStages (evaluate : Evaluate) (tested background : Bool) (input : Option Descriptor)
    (started : List Pid) : List Command → Running (List Pid)
  | [] => return started
  | command :: rest => do
      foresee command
      let output : Option (Descriptor × Descriptor) ←
        if rest.isEmpty then pure none
        else
          match ← act (Action.ask .pipe) with
          | .ends reader writer => pure (some (reader, writer))
          | _ => fail "Pipe call failed"
      let pid ← startChild (finish evaluate) background started.isEmpty do
        act do
          if let some (reader, _) := output then perform (.close reader)
          if let some input := input then
            if input ≠ 0 then
              perform (.duplicate input 0)
              perform (.close input)
          if let some (_, writer) := output then
            if 1 < writer then
              perform (.duplicate writer 1)
              perform (.close writer)
        evaluate ⟨true, tested⟩ command
      act do
        if let some input := input then perform (.close input)
        if let some (_, writer) := output then perform (.close writer)
      startStages evaluate tested background (output.map (·.1)) (started ++ [pid]) rest

/-- Runs a pipeline. -/
def runPipeline (evaluate : Evaluate) (tested background : Bool) (commands : List Command) :
    Running Unit := do
  let number ← newJob
  let pids ← startStages evaluate tested background none [] commands
  if background then
    addJob number pids
    setStatus 0
  else setStatus (← await 0 pids)

/-! ## All commands -/

/-- Whether the shell may end behind a command that has come to nothing good. -/
def mayEndShell : Command → Bool
  | .simple .. | .pipeline .. | .subshell .. | .background .. => true
  | _ => false

/-- Runs a command, given what runs those in it. -/
def runCommand (evaluate : Evaluate) (manner : Manner) : Command → Running Unit
  | .nothing => return ()
  | .simple line assignments words redirections =>
      runSimple evaluate manner line assignments words redirections
  | .pipeline commands background => runPipeline evaluate manner.tested background commands
  | .redirected line command redirections =>
      runRedirected evaluate manner.tested line command redirections
  | .background line command redirections => runBackground evaluate line command redirections
  | .subshell line command redirections => runSubshell evaluate manner line command redirections
  | .and first second => do
      evaluate ⟨false, true⟩ first
      let s ← state
      if s.status = 0 && s.leaving.isNone then evaluate manner second
  | .or first second => do
      evaluate ⟨false, true⟩ first
      let s ← state
      if s.status ≠ 0 && s.leaving.isNone then evaluate manner second
  | .sequence first second => do
      evaluate ⟨false, manner.tested⟩ first
      if (← state).leaving.isNone then evaluate manner second
  | .negation command => do
      evaluate ⟨false, true⟩ command
      let s ← state
      if s.leaving.isNone then setStatus (if s.status = 0 then 1 else 0)
  | .conditional test good bad => do
      evaluate ⟨false, true⟩ test
      let s ← state
      if s.leaving.isNone then
        match if s.status = 0 then good else bad with
        | .nothing => setStatus 0
        | command => evaluate manner command
  | .loop whileGood test body =>
      inLoop (runLoop evaluate manner.tested whileGood test body byteLimit 0)
  | .each line name words body => do
      change fun s ↦ { s with line }
      let values ← words.mapM (expandFields (captureWith evaluate))
      inLoop (runEach evaluate manner.tested name body 0 values.flatten)
  | .choice line word cases => do
      change fun s ↦ { s with line }
      let text ← expandText (captureWith evaluate) .single word
      runCases evaluate manner text cases
  | .function name body => do
      change fun s ↦
        { s with functions := (name, body) :: s.functions.filter (·.1 != name) }
      setStatus 0

/-- Runs one level of commands: signals that have come are seen to before and after a
command, and then the shell may have to end. -/
def evaluateWith (evaluate : Evaluate) : Evaluate := fun manner command ↦ do
  let idle := (← state).hasOption 'n'
  let empty := match command with
    | .nothing => true
    | _ => false
  unless idle || empty do
    runTraps evaluate
    runCommand evaluate manner command
  let status := (← state).status
  runTraps evaluate
  let failed := !idle && mayEndShell command && !manner.tested && status ≠ 0
  if failed && (← state).hasOption 'e' || manner.last then throw .finished

/-- How deep commands may be run inside one another. -/
def deepest : Nat := 20000

/-- Runs commands; if they are too deep inside one another, the shell breaks down. -/
def evaluateFrom : Nat → Evaluate
  | 0 => fun _ _ ↦ act fun _ ↦ .finish (.signalled 11)
  | depth + 1 => evaluateWith (evaluateFrom depth)

/-- Runs a command. -/
def evaluate : Evaluate :=
  evaluateFrom deepest

end PipeShell.Userland.Shell

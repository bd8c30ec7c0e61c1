import PipeShell.Userland.Modes
import PipeShell.Userland.Shell.Processes
import PipeShell.Userland.Shell.Settings

/-!
# Surroundings

The commands of the shell that have to do with the system: its directory, the permissions
of new files, signals, the processes it has started and the programs it can find.
-/

namespace PipeShell.Userland.Shell

open PipeShell.Userland.Action Running

/-! ## Directories -/

/-- The names of a path from the root, with those above taken back for `..`. -/
def pathNames (names : List Bytes) (path : Bytes) : List Bytes :=
  (linesOf 0x2F path).foldl
    (fun names name ↦
      if name.isEmpty || name == [0x2E] then names
      else if name == [0x2E, 0x2E] then names.dropLast
      else names ++ [name])
    names

/-- The path of names from the root. -/
def pathOfNames (names : List Bytes) : Bytes :=
  0x2F :: [(0x2F : UInt8)].intercalate names

/-- A path from the root, as it is written. -/
def logicalPath (directory path : Bytes) : Bytes :=
  if path.head? == some 0x2F then
    let doubled := beginsWith path [0x2F, 0x2F] && path[2]? != some 0x2F
    (if doubled then [0x2F] else []) ++ pathOfNames (pathNames [] path)
  else pathOfNames (pathNames (pathNames [] directory) path)

/-- The path of the current directory, as it is. -/
def physicalDirectory : Action (Option Bytes) := do
  match ← names (.here) with
  | .ok names => return some (pathOfNames (names.map encode))
  | .error _ => return none

/-- Remembers another directory as the current one. -/
def rememberDirectory (directory : Option Bytes) : Running Unit := do
  let old := (← state).directory
  assign (encode "OLDPWD") (some (old.getD [])) true
  let directory ← match directory with
    | some directory => pure (some directory)
    | none => act physicalDirectory
  change fun s ↦ { s with directory }
  assign (encode "PWD") (some (directory.getD [])) true

/-- Goes into a directory, and tells whether that could be done. -/
def goInto (physical : Bool) (path : Bytes) : Running Bool := do
  let s ← state
  let logical := if physical then none else s.directory.map fun here ↦ logicalPath here path
  match ← act (request (.changeDirectory (nameOfBytes (logical.getD path)))) with
  | some _ => return false
  | none =>
      rememberDirectory logical
      return true

/-- The first of some directories in which there is a directory of a name, and whether
it is told when it has been found. -/
def findDirectory (name : Bytes) : List Bytes → Action (Option (Bytes × Bool))
  | [] => return none
  | directory :: rest => do
      let path := inDirectory directory name
      match ← facts (.facts (nameOfBytes path) true) with
      | .ok f =>
          if f.kind = .directory then return some (path, !directory.isEmpty)
          else findDirectory name rest
      | .error _ => findDirectory name rest

/-- Whether a path is taken as it is. -/
def isAnchored (path : Bytes) : Bool :=
  path.head? == some 0x2F || path == [0x2E] || path == [0x2E, 0x2E]
    || beginsWith path [0x2E, 0x2F] || beginsWith path [0x2E, 0x2E, 0x2F]

/-- The command `cd`. -/
def cd (args : List Bytes) : Running Nat := do
  let (found, rest) ← options "LP" args
  let physical := (found.getLast?.map (·.1)) == some 'P'
  let s ← state
  let back := rest.head? == some [0x2D]
  let target : Bytes :=
    match rest with
    | [] => (s.valueOf? "HOME").getD []
    | first :: _ => if back then (s.valueOf? "OLDPWD").getD [] else first
  let (path, shown) ←
    if isAnchored target then pure (target, back)
    else
      let name := if target.isEmpty then [0x2E] else target
      let directories := (s.valueOf? "CDPATH").elim [[]] searchDirectories
      match ← act (findDirectory name directories) with
      | some (path, told) => pure (path, back || told)
      | none => pure (target, back)
  if !(← goInto physical path) then failWith (encode "can't cd to " ++ target)
  if shown then emit (((← state).directory.getD []) ++ [10])
  return 0

/-- The command `pwd`. -/
def pwd (args : List Bytes) : Running Nat := do
  let (found, _) ← options "LP" args
  let directory ←
    if (found.getLast?.map (·.1)) == some 'P' then act physicalDirectory
    else pure (← state).directory
  emit ((directory.getD []) ++ [10])
  return 0

/-- The permissions that a mask leaves, for each of those they are for. -/
def maskText (mask : Nat) : String :=
  let row (shift : Nat) : String :=
    String.join ([("r", 4), ("w", 2), ("x", 1)].map fun (letter, bit) ↦
      if (mask >>> shift) &&& bit = 0 then letter else "")
  s!"u={row 6},g={row 3},o={row 0}"

/-- The command `umask`. -/
def umask (args : List Bytes) : Running Nat := do
  let (found, rest) ← options "S" args
  let mask ← act currentMask
  match rest with
  | [] =>
      emit (encode ((if found.isEmpty then fourOctals mask else maskText mask) ++ "\n"))
      return 0
  | text :: _ =>
      let new : Nat ←
        if text.head?.any isDigit then
          if !text.all isOctalDigit then failWith (encode "Illegal number: " ++ text)
          else pure (valueOf 8 text &&& 0o777)
        else
          match ModeClause.ofText (nameOfBytes text) with
          | some clauses =>
              let given := (0o777 ^^^ mask) &&& 0o777
              pure (0o777 ^^^ (ModeClause.applyAll false mask clauses given &&& 0o777))
          | none => failWith (encode "Illegal mode: " ++ text)
      act (perform (.setMask new))
      return 0

/-! ## Signals -/

/-- What the shell does with a signal: what its trap says, or what is usual. -/
def arrange (signal : Signal) (action : Option Bytes) : Running Unit := do
  unless signal = 0 || (← state).ignored.contains signal do
    let d : Disposition :=
      match action with
      | none => .default
      | some [] => .ignore
      | some _ => .keep
    match ← act (number (.handle signal d)) with
    | .ok 1 =>
        unless (← state).traps.any (·.1 == signal) do
          act (perform (.handle signal .ignore))
          change fun s ↦ { s with ignored := signal :: s.ignored }
    | _ => return ()

/-- Sets what is done for signals. -/
def setTraps (action : Option Bytes) : List Bytes → Running Nat
  | [] => return 0
  | name :: rest => do
      match signalOf? 0 name with
      | none =>
          say (encode "trap: " ++ name ++ encode ": bad trap\n")
          return 1
      | some signal =>
          arrange signal action
          change fun s ↦
            let others := s.traps.filter (·.1 != signal)
            { s with traps := action.elim others fun text ↦ (signal, text) :: others }
          setTraps action rest

/-- The command `trap`. -/
def trap (args : List Bytes) : Running Nat := do
  match ← operands args with
  | [] =>
      let s ← state
      for signal in List.range signalBound do
        if let some text := s.trap? signal then
          emit (encode "trap -- " ++ singleQuoted text ++ encode s!" {signalName signal}\n")
      return 0
  | [name] => setTraps none [name]
  | action :: names =>
      if (digitsNumber? action).any (· < signalBound) then setTraps none (action :: names)
      else setTraps (if action == [0x2D] then none else some action) names

/-- The job that an argument with a percent sign names. -/
def jobOf (text : Bytes) : Running Job := do
  let s ← state
  let name := text.drop 1
  let found : Option Job :=
    match digitsNumber? name with
    | some n => s.jobs.find? (·.number == n)
    | none =>
        if name.isEmpty || name == [0x25] || name == [0x2B] then s.jobs.getLast?
        else if name == [0x2D] then s.jobs.dropLast.getLast?
        else none
  match found with
  | some job => return job
  | none => failWith (encode "No such job: " ++ text)

/-- How `kill` is used. -/
def killUsage : String :=
  "Usage: kill [-s sigspec | -signum | -sigspec] [pid | job]... or\nkill -l [exitstatus]"

/-- Sends a signal to processes, one after the other. -/
def sendAll (signal : Signal) (status : Nat) : List Bytes → Running Nat
  | [] => return status
  | target :: rest => do
      let failed (e : Errno) : Running Nat := do
        warn (encode (e.text ++ "\n"))
        sendAll signal 1 rest
      if target.head? == some 0x25 then
        let _ ← jobOf target
        failed .noProcess
      else if target.head? == some 0x2D then
        let _ ← numberOf (target.drop 1)
        failed .noProcess
      else
        match ← act (request (.signal (← numberOf target) signal)) with
        | some e => failed e
        | none => sendAll signal status rest

/-- Shows the names of signals. -/
def listSignals (args : List Bytes) : Running Nat := do
  match args with
  | [] =>
      emit (encode "0\n")
      for name in signalNames do emit (encode (name ++ "\n"))
      return 0
  | text :: _ =>
      let n ← numberOf text
      let n := if 128 < n then n - 128 else n
      if n = 0 || signalBound ≤ n then
        failWith (encode "invalid signal number or exit status: " ++ text)
      emit (encode (signalName n ++ "\n"))
      return 0

/-- The command `kill`. -/
def kill (args : List Bytes) : Running Nat := do
  let send (signal : Signal) (targets : List Bytes) : Running Nat := do
    if targets.isEmpty then fail killUsage
    sendAll signal 0 targets
  match args with
  | [] => fail killUsage
  | first :: rest =>
      if first.head? != some 0x2D then send 15 args
      else
        match signalOf? 1 (first.drop 1) with
        | some signal => send signal rest
        | none =>
            let (found, rest) ← options "ls:" args
            let mut signal : Option Signal := none
            for (letter, value) in found do
              if letter == 's' then
                match signalOf? 1 (value.getD []) with
                | some n => signal := some n
                | none => failWith (encode "invalid signal number or name: " ++ value.getD [])
            if found.any (·.1 == 'l') then
              if signal.isSome then fail killUsage
              listSignals rest
            else send (signal.getD 15) rest

/-! ## Jobs -/

/-- Notes how a job has ended. -/
def noteEnd (number : Nat) (status : Status) : Running Unit :=
  change fun s ↦
    { s with
      jobs := s.jobs.map fun j ↦ if j.number = number then { j with ended := some status } else j }

/-- Notes that the script has waited for a job. -/
def noteWaited (number : Nat) : Running Unit :=
  change fun s ↦
    { s with jobs := s.jobs.map fun j ↦ if j.number = number then { j with waited := true } else j }

/-- Waits until a job has ended or a signal has come. -/
def waitForJob (tells : Bool) (job : Job) : Running (Option Status) := do
  match job.ended with
  | some status => return some status
  | none => go job.pids (.exited 127)
where
  go : List Pid → Status → Running (Option Status)
    | [], status => do
        noteEnd job.number status
        return some status
    | pid :: rest, _ => do
        match ← act (Action.ask (.waitOrSignal pid)) with
        | .ended status =>
            if tells then tellDeath status
            go rest status
        | _ => return none

/-- The status of a shell that a signal keeps from waiting. -/
def interruptedStatus : Running Nat := do
  match ← act (Action.ask .signals) with
  | .numbers found =>
      let signal := found.headD 0
      let own ← act (number .processId)
      for n in found do
        if let .ok pid := own then act (perform (.signal pid n))
      return 128 + signal
  | _ => return 128

/-- Waits for all jobs. -/
def waitForAll : List Job → Running Nat
  | [] => return 0
  | job :: rest => do
      match ← waitForJob false job with
      | some _ =>
          noteWaited job.number
          waitForAll rest
      | none => interruptedStatus

/-- Waits for the jobs that are named. -/
def waitForEach (status : Nat) : List Bytes → Running Nat
  | [] => return status
  | name :: rest => do
      let job : Option Job ←
        if name.head? == some 0x25 then do pure (some (← jobOf name))
        else do
          let pid ← numberOf name
          pure ((← state).jobs.find? (·.pids.getLast? == some pid))
      match job with
      | none => waitForEach 127 rest
      | some job =>
          match ← waitForJob true job with
          | some status =>
              noteWaited job.number
              waitForEach (statusOf status) rest
          | none => interruptedStatus

/-- The command `wait`. -/
def wait (args : List Bytes) : Running Nat := do
  match ← operands args with
  | [] => waitForAll (← state).jobs
  | names => waitForEach 127 names

/-- Whether a process has not ended. -/
def isRunning (pid : Pid) : Action Bool := do
  return (← request (.signal pid 0)).isNone

/-- Notes which jobs have ended. -/
def noteEnds : Running Unit := do
  for job in (← state).jobs do
    if job.ended.isNone && !(← act (job.pids.anyM isRunning)) then
      let _ ← waitForJob false job

/-- What is said of a job. -/
def jobText (job : Job) (mark : Char) : String :=
  let what := match job.ended with
    | none => "Running"
    | some (.exited 0) => "Done"
    | some (.exited n) => s!"Done({n})"
    | some (.signalled n) => deathText n
  plainText (padRight 33 (encode (s!"[{job.number}] {mark} " ++ what)))

/-- The command `jobs`. -/
def jobs (args : List Bytes) : Running Nat := do
  let (found, _) ← options "lp" args
  noteEnds
  let s ← state
  let mut runningBefore := 0
  for job in s.jobs.reverse do
    if found.any (·.1 == 'p') then emit (decimalText (job.pids.headD 0) ++ [10])
    else
      let mark := if runningBefore = 0 then '+' else if runningBefore = 1 then '-' else ' '
      emit (encode (jobText job mark ++ "\n"))
      if job.ended.isNone then runningBefore := runningBefore + 1
  change fun s ↦ { s with jobs := s.jobs.filter (·.ended.isNone) }
  return 0

/-! ## Programs -/

/-- Finds the program of a name that has no slash, and remembers it. -/
def findProgram (name : Bytes) (directories : List Bytes) : Running (Except Errno Bytes) := do
  match ← act (findFile name .noEntry directories) with
  | .ok path =>
      change fun s ↦
        if s.found.any (·.1 == name) then s else { s with found := s.found ++ [(name, path)] }
      return .ok path
  | .error e => return .error e

/-- What is said of a name of which nothing is found. -/
def notFoundText (name : Bytes) (e : Errno) : Bytes :=
  name ++ encode (": " ++ if e = .noEntry || e = .notDirectory then "not found" else e.text)

/-- The command `hash`. -/
def hash (args : List Bytes) : Running Nat := do
  let (found, rest) ← options "r" args
  if !found.isEmpty then
    change fun s ↦ { s with found := [] }
    return 0
  if rest.isEmpty then
    for (_, path) in (← state).found do emit (path ++ [10])
    return 0
  let mut status := 0
  for name in rest do
    match ← findProgram name (← searchPath) with
    | .ok _ => pure ()
    | .error e =>
        warn (notFoundText name e)
        status := 1
  return status

/-- The commands built into the shell, and whether they are special. -/
def builtinNames : List (String × Bool) :=
  (specialNames.map (·, true)) ++
    ["[", "alias", "bg", "cd", "chdir", "command", "echo", "false", "fg", "getopts", "hash", "jobs",
      "kill", "printf", "pwd", "read", "test", "true", "type", "ulimit", "umask", "unalias",
      "wait"].map (·, false)

/-- Says what a name stands for; the directories are given if they are not the search
path. -/
def describe (verbose : Bool) (directories : Option (List Bytes))
    (name : Bytes) : Running Nat := do
  let s ← state
  let told (text : Bytes) (brief : Bytes) : Running Nat := do
    emit ((if verbose then name ++ text else brief) ++ [10])
    return 0
  let missing : Running Nat := do
    if verbose then emit (name ++ encode ": not found\n")
    return 127
  if keywords.contains (nameOfBytes name) then
    return ← told (encode " is a shell keyword") name
  if let some value := s.aliases.lookup name then
    if verbose then return ← told (encode " is an alias for " ++ value) []
    emit (encode "alias ")
    showAlias (name, value)
    return 0
  if s.functions.any (·.1 == name) then
    return ← told (encode " is a shell function") name
  if let some (_, special) := builtinNames.find? fun b ↦ encode b.1 == name then
    let kind := if special then " is a special shell builtin" else " is a shell builtin"
    return ← told (encode kind) name
  if name.contains 0x2F then
    if (← act (facts (.facts (nameOfBytes name) true))).isOk then
      return ← told (encode " is " ++ name) name
    return ← missing
  let tracked := directories.isNone && s.found.any (·.1 == name)
  let directories ← match directories with
    | some directories => pure directories
    | none => searchPath
  match ← act (findFile name .noEntry directories) with
  | .ok path =>
      let kind := if tracked then " is a tracked alias for " else " is "
      told (encode kind ++ path) path
  | .error _ => missing

/-- Describes names, one after the other. -/
def describeAll (status : Nat) : List Bytes → Running Nat
  | [] => return status
  | name :: rest => do
      let found ← describe true none name
      describeAll (status ||| found) rest

/-- The limits of a process, by letter, with what they are called. -/
def limits : List (Char × String × String) :=
  [('t', "time(seconds)", "unlimited"), ('f', "file(blocks)", "unlimited"),
    ('d', "data(kbytes)", "unlimited"), ('s', "stack(kbytes)", "8192"),
    ('c', "coredump(blocks)", "0"), ('m', "memory(kbytes)", "unlimited"),
    ('l', "locked memory(kbytes)", "8192"), ('p', "process", "128604"), ('n', "nofiles", "20000"),
    ('v', "vmemory(kbytes)", "unlimited"), ('w', "locks", "unlimited"), ('r', "rtprio", "0")]

/-- The command `ulimit`, which shows limits but changes none. -/
def ulimit (args : List Bytes) : Running Nat := do
  let (found, rest) ← options "HSatfdscmlpnvwr" args
  if found.any (·.1 == 'a') then
    for (_, name, value) in limits do
      emit (padRight 20 (encode name) ++ encode s!" {value}\n")
    return 0
  let letter := ((found.filter fun o ↦ o.1 != 'H' && o.1 != 'S').getLast?.map (·.1)).getD 'f'
  if rest.isEmpty then
    if let some (_, _, value) := limits.find? (·.1 == letter) then emit (encode (value ++ "\n"))
  return 0

/-- The command `times`. -/
def times : Running Nat := do
  let line := "0m0.000000s 0m0.000000s\n"
  emit (encode (line ++ line))
  return 0

end PipeShell.Userland.Shell

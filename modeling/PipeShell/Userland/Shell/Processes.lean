import PipeShell.Userland.Shell.Redirecting

/-!
# Processes of the shell

Commands that are programs are run by processes of their own, and so are the parts of a
pipeline.  A process that has been started for commands of the script is a shell that
has forgotten the traps and the jobs of the one that has started it.
-/

namespace PipeShell.Userland.Shell

open PipeShell.Userland.Action Running

/-- How a command is run. -/
structure Manner where
  /-- Whether the shell ends behind it. -/
  last : Bool
  /-- Whether something depends on its status. -/
  tested : Bool

/-- Runs a command; its status is that of the shell behind it. -/
abbrev Evaluate := Manner → Command → Running Unit

/-! ## Signals -/

/-- The signals by number, from the first on. -/
def signalNames : List String :=
  ["HUP", "INT", "QUIT", "ILL", "TRAP", "ABRT", "BUS", "FPE", "KILL", "USR1", "SEGV", "USR2", "PIPE",
    "ALRM", "TERM", "STKFLT", "CHLD", "CONT", "STOP", "TSTP", "TTIN", "TTOU", "URG", "XCPU", "XFSZ",
    "VTALRM", "PROF", "WINCH", "IO", "PWR", "SYS", "32", "33", "RTMIN", "RTMIN+1", "RTMIN+2",
    "RTMIN+3", "RTMIN+4", "RTMIN+5", "RTMIN+6", "RTMIN+7", "RTMIN+8", "RTMIN+9", "RTMIN+10",
    "RTMIN+11", "RTMIN+12", "RTMIN+13", "RTMIN+14", "RTMIN+15", "RTMAX-14", "RTMAX-13", "RTMAX-12",
    "RTMAX-11", "RTMAX-10", "RTMAX-9", "RTMAX-8", "RTMAX-7", "RTMAX-6", "RTMAX-5", "RTMAX-4",
    "RTMAX-3", "RTMAX-2", "RTMAX-1", "RTMAX"]

/-- A number above those of all signals. -/
def signalBound : Nat := 65

/-- The name of a signal; the signal 0 is the end of the shell. -/
def signalName (n : Signal) : String :=
  match n with
  | 0 => "EXIT"
  | n + 1 => signalNames[n]?.getD ""

/-- The signal of a number or a name. -/
def signalOf? (least : Nat) (text : Bytes) : Option Signal :=
  match digitsNumber? text with
  | some n => if n < signalBound then some n else none
  | none =>
      let name := text.map toUpper
      (List.range signalBound).find? fun n ↦ least ≤ n && encode (signalName n) == name

/-- What is said of a process that a signal has ended. -/
def deathText (n : Signal) : String :=
  let known := ["Hangup", "Interrupt", "Quit", "Illegal instruction", "Trace/breakpoint trap",
    "Aborted", "Bus error", "Floating point exception", "Killed", "User defined signal 1",
    "Segmentation fault", "User defined signal 2", "Broken pipe", "Alarm clock", "Terminated",
    "Stack fault", "Child exited", "Continued", "Stopped (signal)", "Stopped",
    "Stopped (tty input)", "Stopped (tty output)", "Urgent I/O condition",
    "CPU time limit exceeded", "File size limit exceeded", "Virtual timer expired",
    "Profiling timer expired", "Window changed", "I/O possible", "Power failure",
    "Bad system call"]
  match n with
  | 0 => "Unknown signal 0"
  | i + 1 =>
      match known[i]? with
      | some text => text
      | none =>
          if 34 ≤ n then s!"Real-time signal {n - 34}" else s!"Unknown signal {n}"

/-! ## Waiting -/

/-- The status that tells how a process has ended. -/
def statusOf : Status → Nat
  | .exited code => code
  | .signalled n => 128 + n

/-- Says which signal has ended a process, unless it is one that needs no word. -/
def tellDeath : Status → Running Unit
  | .exited _ => return ()
  | .signalled n => do
      unless n = 2 || n = Signal.brokenPipe do say (encode (deathText n ++ "\n"))

/-- Waits for processes; the status is that of the last one. -/
def await : Nat → List Pid → Running Nat
  | status, [] => return status
  | _, pid :: rest => do
      match ← act (ask (.wait pid)) with
      | .ended status =>
          tellDeath status
          await (statusOf status) rest
      | _ => await 127 rest

/-! ## Starting -/

/-- Puts an empty input in the place of standard input. -/
def emptyInput : Action Unit := do
  perform (.close 0)
  perform (.openFile "/dev/null" .read)

/-- What a new process forgets of the shell that has started it. -/
def forget : Running Unit := do
  for (n, text) in (← state).traps do
    if n ≠ 0 && !text.isEmpty then act (perform (.handle n .default))
  change fun s ↦
    { s with
      traps := s.traps.filter (·.2.isEmpty)
      jobs := []
      aside := [] }

/-- The program of a process that does something and ends with the status of the
shell. -/
def childProgram (body : Running Unit) : Running Program := do
  let s ← state
  let ended : Action Nat := do
    let (_, s) ← body.run.run s
    return s.status % 256
  return ended.toProgram

/-- How a shell ends behind what has been run. -/
abbrev Finish := Except Ended Unit → Running Unit

/-- Starts a process that runs part of the script, in the background or not; `first`
says whether it is the first process of its job. -/
def startChild (finish : Finish) (background first : Bool) (body : Running Unit) :
    Running Pid := do
  let program ← childProgram do finish (← attempt do
    forget
    if background then act do
      perform (.handle 2 .ignore)
      perform (.handle 3 .ignore)
      if first then emptyInput
    body)
  act (fork program)

/-- The number for processes that are to be started: the least one that no job has, but
a job that has ended and been waited for gives its number up. -/
def newJob : Running Nat := do
  let s ← state
  let taken (number : Nat) : Bool :=
    s.jobs.any fun job ↦ job.number = number && !(job.ended.isSome && job.waited)
  let number := ((List.range s.jobs.length).find? fun n ↦ !taken (n + 1)).getD s.jobs.length + 1
  change fun s ↦ { s with jobs := s.jobs.filter (·.number ≠ number) }
  return number

/-- Remembers processes that the shell does not wait for. -/
def addJob (number : Nat) (pids : List Pid) : Running Unit :=
  change fun s ↦
    { s with
      jobs := s.jobs ++ [⟨number, pids, none, false⟩]
      lastStarted := pids.getLast? }

/-! ## Programs -/

/-- The file that runs scripts which name no interpreter. -/
def scriptInterpreter : Bytes := encode "/bin/sh"

/-- Goes on as the program in a file; a refusal is told. -/
def tryFile (path : Bytes) (args : List Bytes) (environment : Environment) :
    Action (Option Errno) := do
  let run (path : Bytes) (args : List Bytes) : Action (Option Errno) :=
    request (.executeFile (nameOfBytes path) (args.map nameOfBytes) environment)
  match ← run path args with
  | some e =>
      if e = .notExecutable && path != scriptInterpreter then
        run scriptInterpreter (scriptInterpreter :: path :: args.drop 1)
      else return some e
  | none => return none

/-- The directories of a search path. -/
def searchDirectories (path : Bytes) : List Bytes :=
  match path.span (· != 0x3A) with
  | (first, _ :: rest) => first :: go rest.length rest
  | (first, []) => [first]
where
  go : Nat → Bytes → List Bytes
    | 0, rest => [rest]
    | limit + 1, rest =>
        match rest.span (· != 0x3A) with
        | (first, _ :: more) => first :: go limit more
        | (first, []) => [first]

/-- A name in a directory, where the empty one is the current directory. -/
def inDirectory (directory name : Bytes) : Bytes :=
  if directory.isEmpty then name else directory ++ [0x2F] ++ name

/-- The usual search path. -/
def usualSearch : Bytes :=
  encode "/usr/local/sbin:/usr/local/bin:/usr/sbin:/usr/bin:/sbin:/bin"

/-- The directories of the search path. -/
def searchPath : Running (List Bytes) := do
  return ((← state).valueOf? "PATH").elim [] searchDirectories

/-- Tries the program of a name in some directories, until one can be run; the reason
is the last one that is not that there is none. -/
def tryDirectories (name : Bytes) (args : List Bytes) (environment : Environment) :
    Errno → List Bytes → Action Errno
  | e, [] => return e
  | e, directory :: rest => do
      match ← tryFile (inDirectory directory name) args environment with
      | none => return e
      | some found =>
          let e := if found = .noEntry || found = .notDirectory then e else found
          tryDirectories name args environment e rest

/-- Goes on as a program.  If that cannot be, the shell complains and ends. -/
def become {α : Type} (directories : List Bytes) (args : List Bytes) : Running α := do
  let s ← state
  let name := args.headD []
  let e ← act (do
    if name.contains 0x2F then
      return (← tryFile name args s.environment).getD .noEntry
    else tryDirectories name args s.environment .noEntry directories)
  let missing := e = .noEntry || e = .notDirectory
  let code := if missing || e = .linkLoop || e = .nameTooLong then 127 else 126
  setStatus code
  warn (name ++ encode (": " ++ if missing then "not found" else e.text))
  throw .finished

/-- The file of a name in the search path.  The reason of a failure is that there is
none, or that those found may not be run. -/
def findFile (name : Bytes) (e : Errno) : List Bytes → Action (Except Errno Bytes)
  | [] => return .error e
  | directory :: rest => do
      let path := inDirectory directory name
      match ← facts (.facts (nameOfBytes path) true) with
      | .error found =>
          findFile name (if found = .noEntry || found = .notDirectory then e else found) rest
      | .ok f =>
          if f.kind = .regular && f.permissions &&& 0o111 ≠ 0 then return .ok path
          else findFile name .accessDenied rest

end PipeShell.Userland.Shell

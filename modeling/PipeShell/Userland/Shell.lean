import PipeShell.Userland.Shell.Evaluation

/-!
# The shell

The program `sh`, which runs a script: a text that it is given, a file or its standard
input.
-/

namespace PipeShell.Userland.Shell

open PipeShell.Userland.Action Running

/-! ## How a shell begins -/

/-- The variables that every shell has. -/
def firstVariables : List Variable :=
  let fixed (name : String) (value : Option Bytes) : Variable :=
    ⟨encode name, value, false, false, true⟩
  [fixed "IFS" (some State.usualSeparators), fixed "MAIL" none, fixed "MAILPATH" none,
    fixed "PATH" (some usualSearch), fixed "PS1" (some (encode "$ ")),
    fixed "PS2" (some (encode "> ")), fixed "PS4" (some (encode "+ ")),
    fixed "OPTIND" (some (encode "1"))]

/-- A shell with nothing but a name. -/
def State.new (name : Bytes) (processId : Nat) : State where
  name
  parameters := []
  bindings := firstVariables
  functions := []
  aliases := []
  options := []
  status := 0
  substituted := 0
  processId
  lastStarted := none
  jobs := []
  found := []
  traps := []
  ignored := []
  leaving := none
  loops := 0
  calls := 0
  kept := []
  optionPlace := ⟨1, none⟩
  line := 0
  readLine := 1
  running := none
  documents := #[]
  aside := []
  directory := none
  output := []
  saved := none

/-- The variables that a shell does not take from those it is started with. -/
def ownNames : List String :=
  ["IFS", "OPTIND"]

/-- Takes the variables that the shell is started with. -/
def takeEnvironment (environment : Environment) : Running Unit := do
  for (name, value) in environment do
    if isName (encode name) && !ownNames.contains name then
      assign (encode name) (some (encode value)) true

/-- Whether two paths lead to the same file. -/
def isSameFile (path other : Bytes) : Action Bool := do
  match ← facts (.facts (nameOfBytes path) true), ← facts (.facts (nameOfBytes other) true) with
  | .ok f, .ok g => return f.number = g.number
  | _, _ => return false

/-- Finds out where the shell is. -/
def findDirectoryOfStart : Running Unit := do
  let told := (← state).valueOf? "PWD"
  let known ← match told with
    | some path =>
        if path.head? == some 0x2F then act (isSameFile path [0x2E]) else pure false
    | none => pure false
  let directory ← if known then pure told else act physicalDirectory
  change fun s ↦ { s with directory }
  assign (encode "PWD") (some (directory.getD [])) true

/-- Runs the script that the arguments name. -/
def runNamed (args : List Bytes) : Running Unit := do
  let (rest, _, ofCommand) ← setOptions true (args.length + 1) args
  match rest with
  | [] =>
      if ofCommand then fail "-c requires an argument"
      change (·.setOption 's' true)
      let _ ← runWhole evaluate (.ofFile 0)
  | first :: more =>
      let fromInput := (← state).hasOption 's'
      if ofCommand then
        change fun s ↦ { s with name := more.headD s.name, parameters := more.drop 1 }
        let _ ← runText evaluate ⟨!fromInput, false⟩ first
        if fromInput then
          let _ ← runWhole evaluate (.ofFile 0)
      else if fromInput then
        change fun s ↦ { s with parameters := rest }
        let _ ← runWhole evaluate (.ofFile 0)
      else
        let fd ← openScript first
        change fun s ↦ { s with name := first, parameters := more }
        let _ ← runWhole evaluate (.ofFile fd)

/-- The program `sh`. -/
def shMain (c : Call) : Action Nat := do
  let processId := ((← number .processId).toOption).getD 0
  let run : Running Unit := do
    takeEnvironment c.environment
    assign (encode "PPID") (some (decimalText (processId - 1))) false
    findDirectoryOfStart
    finish evaluate (← attempt (runNamed (c.args.map encode)))
  let (_, s) ← run.run.run (State.new (encode c.name) processId)
  return s.status % 256

end PipeShell.Userland.Shell

import PipeShell.Userland.Action
import PipeShell.Userland.Shell.Grammar

/-!
# The state of the shell

What a shell knows while it runs a script: its variables, its functions, what it does
with signals, the processes that it has left running.  A part of the shell either goes
on with a value or ends what is being run; what it has done to the state stays in both
cases.
-/

namespace PipeShell.Userland.Shell

/-- A variable.  One without a value is remembered for what it is to be. -/
structure Variable where
  name : Bytes
  value : Option Bytes
  exported : Bool
  readOnly : Bool
  /-- Whether the variable keeps its place when it is unset. -/
  fixed : Bool

/-- What a function has to bring back when it ends: a variable as it was, if there was
one, or the options. -/
inductive Kept where
  | variableAs (name : Bytes) (old : Option Variable)
  | options (letters : List Char)

/-- How commands are left before their end. -/
inductive Leaving where
  /-- So many loops are left, or all but the last of them are and that one goes on. -/
  | loops (count : Nat) (goesOn : Bool)
  /-- A function or a script is left, with a status of its own or with the last one. -/
  | function (withStatus : Bool)
  deriving DecidableEq, Repr

/-- A descriptor as it was before a redirection: the number of its copy, if it was
open. -/
structure SavedFile where
  fd : Descriptor
  copy : Option Descriptor

/-- Processes that have been started together. -/
structure Job where
  number : Nat
  pids : List Pid
  /-- How the last of them has ended. -/
  ended : Option Status
  waited : Bool

/-- How far the options of a function or script have been read: the index of the next
argument, and how many letters of the one before have been read. -/
structure OptionPlace where
  index : Nat
  letters : Option Nat

structure State where
  name : Bytes
  parameters : List Bytes
  bindings : List Variable
  functions : List (Bytes × Command)
  aliases : List (Bytes × Bytes)
  options : List Char
  status : Nat
  /-- The status of the last command substituted. -/
  substituted : Nat
  processId : Nat
  lastStarted : Option Nat
  jobs : List Job
  /-- The programs found in the search path, the first one first. -/
  found : List (Bytes × Bytes)
  /-- What is done for signals; the signal 0 is the end of the shell. -/
  traps : List (Signal × Bytes)
  /-- The signals that were ignored when the shell was started. -/
  ignored : List Signal
  leaving : Option Leaving
  /-- The number of loops around what is run. -/
  loops : Nat
  /-- The number of functions around what is run. -/
  calls : Nat
  /-- What functions have to bring back, for each that runs. -/
  kept : List (List Kept)
  optionPlace : OptionPlace
  /-- The line of the command that is run, and the one that has been read last. -/
  line : Nat
  readLine : Nat
  /-- The command built into the shell that is run. -/
  running : Option Bytes
  documents : Array Word
  /-- What redirections have put aside, for each command that they end with. -/
  aside : List (List SavedFile)
  directory : Option Bytes
  /-- What a command has written that has not been put out, the last piece first. -/
  output : List Bytes
  /-- The status before a trap or the end of the shell. -/
  saved : Option Nat

/-- What ends what is being run. -/
inductive Ended where
  /-- Something was wrong. -/
  | error
  /-- The shell is to end. -/
  | exit
  /-- The shell has nothing more to run. -/
  | finished
  deriving DecidableEq, Repr

/-- Part of the shell. -/
abbrev Running := ExceptT Ended (StateT State Action)

namespace Running

open PipeShell.Userland.Action

variable {α : Type}

/-- Does something to the system. -/
def act (x : Action α) : Running α :=
  ExceptT.lift (StateT.lift x)

/-- The shell as it is. -/
def state : Running State :=
  ExceptT.lift get

def change (f : State → State) : Running Unit :=
  ExceptT.lift (modify f)

def setStatus (status : Nat) : Running Unit :=
  change fun s ↦ { s with status }

/-- Does something and tells how it ended. -/
def attempt (x : Running α) : Running (Except Ended α) :=
  ExceptT.lift x.run

/-- Says something on standard error. -/
def say (text : Bytes) : Running Unit := do
  let _ ← act (write 2 text)

/-- Says something about the line that is run. -/
def warn (text : Bytes) : Running Unit := do
  let s ← state
  let command := match s.running with
    | some name => name ++ encode ": "
    | none => []
  say (s.name ++ encode s!": {s.line}: " ++ command ++ text ++ [10])

/-- Finds something wrong. -/
def failWith (text : Bytes) : Running α := do
  setStatus 2
  warn text
  throw .error

/-- Finds something wrong. -/
def fail (text : String) : Running α :=
  failWith (encode text)

/-- Ends the shell. -/
def exit : Running α :=
  throw .exit

/-- Writes something at the end of the command that is run. -/
def emit (text : Bytes) : Running Unit :=
  change fun s ↦ { s with output := text :: s.output }

/-- Puts out what has been written, and tells whether that failed. -/
def flush : Running Bool := do
  let s ← state
  if s.output.isEmpty then return false
  change fun s ↦ { s with output := [] }
  let text := s.output.reverse.flatten
  if text.isEmpty then return false
  return (← act (write 1 text)).isSome

end Running

/-! ## Variables -/

namespace State

/-- A variable by its name. -/
def variableOf? (s : State) (name : Bytes) : Option Variable :=
  s.bindings.find? (·.name == name)

/-- The value of a variable. -/
def value? (s : State) (name : Bytes) : Option Bytes :=
  (s.variableOf? name).bind (·.value)

/-- The value of a variable of a plain name. -/
def valueOf? (s : State) (name : String) : Option Bytes :=
  s.value? (encode name)

def hasOption (s : State) (letter : Char) : Bool :=
  s.options.contains letter

/-- Puts a variable in the place of the one of its name, or behind all others. -/
def putVariable (s : State) (v : Variable) : State :=
  if s.bindings.any (·.name == v.name) then
    { s with bindings := s.bindings.map fun old ↦ if old.name == v.name then v else old }
  else { s with bindings := s.bindings ++ [v] }

def dropVariable (s : State) (name : Bytes) : State :=
  { s with bindings := s.bindings.filter (·.name != name) }

/-- The bytes between fields, if nothing else is said. -/
def usualSeparators : Bytes := [0x20, 0x09, 0x0A]

/-- The bytes between fields. -/
def separators (s : State) : Bytes :=
  (s.valueOf? "IFS").getD usualSeparators

/-- What a signal does. -/
def trap? (s : State) (signal : Signal) : Option Bytes :=
  s.traps.lookup signal

end State

/-- The number of rows that variables are kept in. -/
def rowCount : Nat := 39

/-- The row that a variable is kept in. -/
def rowOf (name : Bytes) : Nat :=
  (name.foldl (fun n b ↦ n + b.toNat) ((name.headD 0).toNat * 16)) % rowCount

/-- The variables that programs are started with, row by row. -/
def State.environment (s : State) : Environment :=
  let entry (v : Variable) : Option (String × String) :=
    match v.value with
    | some value => if v.exported then some (nameOfBytes v.name, nameOfBytes value) else none
    | none => none
  (List.range rowCount).flatMap fun row ↦
    s.bindings.filterMap fun v ↦ if rowOf v.name = row then entry v else none

/-- What else changes when a variable gets a value: another search path makes the
programs found in the last one unknown, and options are read from the index told. -/
def State.noteChange (s : State) (name : Bytes) (value : Option Bytes) : State :=
  if name == encode "PATH" then { s with found := [] }
  else if name == encode "OPTIND" then
    let index := ((value.map nameOfBytes).bind String.toNat?).getD 1
    { s with optionPlace := ⟨max index 1, none⟩ }
  else s

namespace Running

/-- Gives a variable a value, which may be none. -/
def assign (name : Bytes) (value : Option Bytes) (export_ : Bool) : Running Unit := do
  let s ← state
  match s.variableOf? name with
  | some old =>
      if old.readOnly then failWith (name ++ encode ": is read only")
      if value.isNone && !old.fixed then change (·.dropVariable name)
      else
        let exported := old.exported || export_
          || (value.isSome && s.hasOption 'a')
        change (·.putVariable { old with value, exported })
  | none =>
      if value.isSome then
        change (·.putVariable ⟨name, value, export_ || s.hasOption 'a', false, false⟩)
  change (·.noteChange name value)

/-- The name that a text begins with, which may be no name; an equals sign ends it. -/
def nameOf (text : Bytes) : Running Bytes := do
  let name := text.takeWhile (· != 0x3D)
  if !isName name then failWith (name ++ encode ": bad variable name")
  return name

/-- Gives a variable a value under a name that may be no name. -/
def setVariable (name value : Bytes) : Running Unit := do
  assign (← nameOf name) (some value) false

/-- Keeps a variable as it is, to be brought back when the function ends. -/
def keepVariable (name : Bytes) : Running Unit :=
  change fun s ↦
    match s.kept with
    | top :: below => { s with kept := (.variableAs name (s.variableOf? name) :: top) :: below }
    | [] => s

/-- Brings back what has been kept since the given number of functions ran. -/
def bringBack (depth : Nat) : Running Unit :=
  change fun s ↦
    let newer := s.kept.take (s.kept.length - depth)
    let restored := newer.flatten.foldl restore s
    { restored with kept := s.kept.drop (s.kept.length - depth) }
where
  restore (s : State) : Kept → State
    | .variableAs name (some v) => (s.putVariable v).noteChange name v.value
    | .variableAs name none => (s.dropVariable name).noteChange name none
    | .options letters => { s with options := letters }

end Running

/-! ## Numbers and texts -/

/-- A number in decimal digits. -/
def decimalText (n : Nat) : Bytes :=
  digitsIn 10 n

/-- A whole number in decimal digits. -/
def integerText (n : Int) : Bytes :=
  if n < 0 then 0x2D :: digitsIn 10 n.natAbs else digitsIn 10 n.toNat

/-- The number that digits stand for. -/
def digitsNumber? (text : Bytes) : Option Nat :=
  if text.isEmpty || !text.all isDigit then none else some (valueOf 10 text)

/-- The number that an argument stands for. -/
def Running.numberOf (text : Bytes) : Running Nat := do
  match digitsNumber? text with
  | some n => if n < 0x80000000 then return n else failWith (encode "Illegal number: " ++ text)
  | none => failWith (encode "Illegal number: " ++ text)

/-- A text in single quotes. -/
def singleQuoted (text : Bytes) : Bytes :=
  let rec go : Nat → Bytes → Bytes
    | 0, _ => []
    | limit + 1, text =>
        let plain := text.takeWhile (· != 0x27)
        let rest := text.drop plain.length
        let quotes := rest.takeWhile (· == 0x27)
        let after := rest.drop quotes.length
        let part := [0x27] ++ plain ++ [0x27]
        if quotes.isEmpty then part
        else
          let shown := part ++ [0x22] ++ quotes ++ [0x22]
          if after.isEmpty then shown else shown ++ go limit after
  go (text.length + 1) text

end PipeShell.Userland.Shell

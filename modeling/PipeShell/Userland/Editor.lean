import PipeShell.Userland.Options
import PipeShell.Userland.Editor.Cycle

/-!
# The stream editor

The program `sed`: the script is put together from the arguments, in their order,
and then its commands are done for every line of the input.
-/

namespace PipeShell.Userland

open PipeShell.Userland.Action Editor

/-- The options of `sed`. -/
def sedChoices : List Choice :=
  [.flag 'n' "quiet", (Choice.word "silent").meaning "n",
    (Choice.flag 'e' "expression").valued, (Choice.flag 'f' "file").valued,
    .flag 'E' "regexp-extended", (Choice.letter 'r').meaning "E",
    (Choice.flag 'i' "in-place").maybeValued, (Choice.flag 'l' "line-length").valued,
    .word "posix", .word "debug", .word "sandbox", .word "follow-symlinks", .flag 'b' "binary",
    .flag 's' "separate", .flag 'u' "unbuffered", .flag 'z' "null-data",
    (Choice.word "zero-terminated").meaning "z"]

/-- How `sed` is called. -/
def sedUsage : String :=
  "Usage: sed [OPTION]... \x7bscript-only-if-no-other-script\x7d [input-file]...\n\n"

/-- A script that is being put together, with the files that it writes. -/
structure Assembly where
  draft : ScriptDraft
  sinks : Array Sink
  /-- Standard output, and then the files that are written. -/
  outlets : Array Outlet
  /-- The number of arguments and files read. -/
  arguments : Nat
  manner : Manner
  /-- The place where the last piece ends. -/
  position : Position

/-- Ends because a script has a fault. -/
def faulty {α : Type} (c : Call) (position : Position) (message : String) : Action α :=
  c.die 1 s!"{position.shown}: {message}"

/-- Opens the files that a script writes, as far as they are not open yet. -/
def openSinks (c : Call) (a : Assembly) (names : Array Bytes) : Action Assembly := do
  let mut sinks := a.sinks
  let mut outlets := a.outlets
  for name in names.toList.drop sinks.size do
    if name == encode "/dev/stdout" then sinks := sinks.push ⟨some 0, false⟩
    else
      let fd ← if name == encode "/dev/stderr" then pure 2
        else
          match ← number (.openFile (nameOfBytes name) (.write 0o666)) with
          | .ok fd => pure fd
          | .error e => c.die 4 s!"couldn't open file {plainText name}: {e.text}"
      sinks := sinks.push ⟨some outlets.size, false⟩
      outlets := outlets.push ⟨fd, plainText name, []⟩
  return { a with sinks, outlets }

/-- Opens the files that a script reads line by line. -/
def openSources (names : Array Bytes) : Action (Array (Option Source)) := do
  let mut sources := #[]
  for name in names do
    let fd ← if name == encode "/dev/stdin" then pure (.ok 0)
      else number (.openFile (nameOfBytes name) .read)
    sources := sources.push
      (match fd with
        | .ok fd => some ⟨fd, nameOfBytes name, [], false⟩
        | .error _ => none)
  return sources

namespace Assembly

/-- Adds a piece to the script. -/
def add (c : Call) (a : Assembly) (origin : Origin) (piece : Bytes) : Action Assembly := do
  let (draft, fault) := a.draft.add origin piece
  let a ← openSinks c a draft.sinks
  if let some (position, message) := fault then faulty c position message
  return { a with draft, position := ⟨origin, 0, piece.count 10⟩ }

/-- Adds an argument to the script. -/
def addArgument (c : Call) (a : Assembly) (text : String) : Action Assembly :=
  let n := a.arguments + 1
  add c { a with arguments := n } (.argument n) (encode text)

/-- Adds what is in a file to the script. -/
def addFile (c : Call) (a : Assembly) (path : String) : Action Assembly := do
  match ← openOperand path with
  | .error e => c.die 4 s!"couldn't open file {path}: {e.text}"
  | .ok fd =>
      let (data, _) ← readAll fd
      closeOperand path fd
      add c a (.file path) data

/-- Does what an option asks for. -/
def option (c : Call) (a : Assembly) (key value : String) : Action Assembly := do
  match key with
  | "n" => return { a with manner := { a.manner with quiet := true } }
  | "e" => addArgument c a value
  | "f" => addFile c a value
  | "E" => return { a with draft := { a.draft with extended := true } }
  | "i" => return { a with manner := { a.manner with inPlace := some value, separate := true } }
  | "s" => return { a with manner := { a.manner with separate := true } }
  | "u" => return { a with manner := { a.manner with unbuffered := true } }
  | "l" =>
      let width := valueOf 10 ((encode value).takeWhile isDigit)
      return { a with manner := { a.manner with width } }
  | "z" =>
      return { a with
        manner := { a.manner with terminator := 0 }, draft := { a.draft with byZero := true } }
  | "sandbox" => return { a with draft := { a.draft with confined := true } }
  | _ => return a

end Assembly

/-- The program `sed`. -/
def sedMain (c : Call) : Action Nat := do
  let (arguments, complaint) := c.readPartly sedChoices
  let manner : Manner := ⟨false, false, none, false, 70, 10⟩
  let mut a : Assembly := ⟨.new, #[], #[⟨1, "stdout", []⟩], 0, manner, ⟨.argument 0, 0, 0⟩⟩
  for (key, value) in arguments.options do
    a ← a.option c key (value.getD "")
  if let some complaint := complaint then
    c.warn complaint.text
    tell 2 sedUsage
    stop 1
  let mut files := arguments.operands
  if !arguments.has "e" && !arguments.has "f" then
    match files with
    | [] =>
        tell 2 sedUsage
        stop 1
    | script :: rest =>
        a ← a.addArgument c script
        files := rest
  let script ←
    match a.draft.finish with
    | .ok script => pure script
    | .error (.inl (position, message)) => faulty c position message
    | .error (.inr name) => c.die 4 s!"can't find label for jump to \x60{plainText name}'"
  let manner := { a.manner with quiet := a.manner.quiet || script.quiet }
  if manner.inPlace.isSome && files.isEmpty then c.die 4 "no input files"
  let main : Sink := ⟨if manner.inPlace.isSome then none else some 0, false⟩
  let start : State :=
    ⟨c, manner, script.commands, newRanges script.commands, ⟨[], true⟩, ⟨[], true⟩, 0, false, [],
      none, a.position, orInput files, none, "-", #[main] ++ a.sinks,
      ← openSources script.sources, a.outlets, [], 0⟩
  let (code, _) ← (Editor.work false pieceLimit).run start
  return code

end PipeShell.Userland

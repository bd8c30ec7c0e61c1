import PipeShell.CommandLine
import PipeShell.System.Scheduler
import PipeShell.System.Scratch
import PipeShell.Userland.Programs

/-!
# The program

Runs the shell on a machine of its own, whose scratch directory holds nothing
but the script that the arguments name.  What the shell and its children have
written is shown once the session is over.
-/

namespace PipeShell.CommandLine

/-- The bytes of a file, if it can be read. -/
def readFile? (path : String) : IO (Option Bytes) := do
  try
    let data ← IO.FS.readBinFile path
    return some data.toList
  catch _ =>
    return none

/-- The directory that a path leads through. -/
def parent (path : String) : String :=
  "/".intercalate (path.splitOn "/").dropLast

/-- The script that the arguments name, as something to put on the machine. -/
def scriptEntries (arguments : List String) : IO (List Entry) := do
  match invocation arguments with
  | .run { script := some path, .. } =>
      match ← readFile? path with
      | some data => return [.directory (parent path), .file path data 0o644]
      | none => return []
  | _ => return []

/-- Whether the lines come from standard input. -/
def readsInput (arguments : List String) : Bool :=
  match invocation arguments with
  | .run options => options.script.isNone
  | _ => false

/-- Runs the shell with arguments, shows what has been written, and tells the
code that its process ends with. -/
def runMain (arguments : List String) : IO UInt32 := do
  let entries ← scriptEntries arguments
  let input ← if readsInput arguments then readFile? "/dev/stdin" else pure none
  let (scratch, w) := Scratch.new Userland.programs Userland.baseEnvironment entries (input.getD [])
  let (code, w) := run (.fair 1000000 1000000) 1000000 arguments w
  let (output, w) := Scratch.take scratch.output w
  let (errors, _) := Scratch.take scratch.errors w
  (← IO.getStdout).write ⟨output.toArray⟩
  (← IO.getStderr).write ⟨errors.toArray⟩
  return UInt32.ofNat (code.getD 1)

end PipeShell.CommandLine

def main (arguments : List String) : IO UInt32 :=
  PipeShell.CommandLine.runMain arguments

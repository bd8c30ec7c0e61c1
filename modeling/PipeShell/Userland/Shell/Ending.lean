import PipeShell.Userland.Shell.Commands
import PipeShell.Userland.Shell.Processes

/-!
# Running texts, and the end of the shell

Scripts, the texts of traps and those that a script puts together are read and run line
by line, so that a line is read with the aliases that the ones before have left.  How a
command is run is a parameter here.  The end of the shell may be trapped itself: then
its text is run first, and the status is the one before unless that text says otherwise.
-/

namespace PipeShell.Userland.Shell

open PipeShell.Userland.Action Running

/-! ## Texts -/

/-- What a script is read from: a text, or a file of which more may be read. -/
structure Script where
  draft : Draft
  file : Option Descriptor

namespace Script

/-- The script that is a text. -/
def ofText (text : Bytes) : Script :=
  ⟨.start text true 1 [] #[], none⟩

/-- The script in an open file. -/
def ofFile (fd : Descriptor) : Script :=
  ⟨.start [] false 1 [] #[], some fd⟩

/-- How much of a script is read at a time. -/
def blockSize : Nat := 8192

/-- Reads more of a script. -/
def extend (script : Script) : Action Script := do
  let finished : Script := { script with draft := { script.draft with ended := true } }
  match script.file with
  | none => return finished
  | some fd =>
      match ← ask (.read fd blockSize) with
      | .data (b :: block) =>
          let text := script.draft.text ++ (b :: block).filter (· != 0)
          return { script with draft := { script.draft with text } }
      | _ => return finished

end Script

/-- Shows what has been read of a file, if that is wanted. -/
def showRead (script : Script) (length : Nat) : Running Unit := do
  if script.file.isSome && (← state).hasOption 'v' then say (script.draft.text.take length)

/-- The length of the lines of a text up to one by its number. -/
def lengthOfLines (text : Bytes) (count : Nat) : Nat :=
  ((linesOf 0x0A text).take count).foldl (fun n line ↦ n + line.length + 1) 0

/-- Reads the next line of a script, of which parts are read as far as need be. -/
def readParsed : Nat → Script → Running (Parsed × Script)
  | 0, script => return (.endOfScript, script)
  | limit + 1, script => do
      let s ← state
      match parseLine.run { script.draft with aliases := s.aliases, documents := s.documents } with
      | .ok (parsed, draft) =>
          showRead script (script.draft.text.length - draft.text.length)
          change fun s ↦ { s with documents := draft.documents, readLine := draft.line }
          return (parsed, { script with draft })
      | .error .incomplete =>
          let script ← act script.extend
          readParsed limit script
      | .error (.wrong line text) =>
          showRead script (lengthOfLines script.draft.text (line + 1 - script.draft.line))
          change fun s ↦ { s with line }
          fail text

/-- Runs the lines of a script; the answer is the status of the last command, or the one
given if there is none. -/
def runLines (evaluate : Evaluate) (manner : Manner) : Nat → Nat → Script → Running Nat
  | 0, status, _ => return status
  | limit + 1, status, script => do
      match ← readParsed byteLimit script with
      | (.endOfScript, _) => return status
      | (.line command last, script) =>
          evaluate { manner with last := manner.last && last } (orNothing command)
          let s ← state
          let status := if command.isSome then s.status else status
          if s.leaving.isSome then return status
          runLines evaluate manner limit status script

/-- Runs a script. -/
def runScript (evaluate : Evaluate) (manner : Manner) (script : Script) : Running Nat :=
  runLines evaluate manner byteLimit 0 script

/-- Runs a text. -/
def runText (evaluate : Evaluate) (manner : Manner) (text : Bytes) : Running Nat :=
  runScript evaluate manner (.ofText text)

/-- Runs a script whose commands do not leave it by more than its end. -/
def runWhole (evaluate : Evaluate) (script : Script) : Running Nat := do
  let status ← runScript evaluate ⟨false, false⟩ script
  change fun s ↦
    match s.leaving with
    | some (.function _) => { s with leaving := none }
    | _ => s
  return status

/-! ## Traps -/

/-- Runs the texts for signals that have come; what leaves a command keeps the rest of
the signals for later. -/
def runTexts (evaluate : Evaluate) (status : Nat) : List Signal → Running Unit
  | [] => return ()
  | signal :: rest => do
      let s ← state
      if s.leaving.isSome then
        if let .ok own ← act (number .processId) then act (perform (.signal own signal))
      else if let some text := s.trap? signal then
        let _ ← runText evaluate ⟨false, false⟩ text
        unless (← state).leaving = some (.function true) do setStatus status
      runTexts evaluate status rest

/-- Does what is to be done for signals that have come. -/
def runTraps (evaluate : Evaluate) : Running Unit := do
  let s ← state
  if s.leaving.isSome then return ()
  match ← act (ask .signals) with
  | .numbers (first :: rest) =>
      let status := s.saved.getD s.status
      change fun s ↦ { s with saved := some status }
      runTexts evaluate status ((first :: rest).mergeSort (· ≤ ·))
      change fun now ↦ { now with saved := s.saved }
  | _ => return ()

/-! ## The end -/

/-- Takes everything back that commands would have taken back at their ends. -/
def unwind (ownStatus : Bool) : Running Unit := do
  endAsideTo 0 (← state).aside.length
  bringBack 0
  change fun s ↦
    let status := if ownStatus then s.status else s.saved.getD s.status
    { s with status, saved := none, leaving := none, loops := 0 }

/-- Ends the shell behind what has been run. -/
def finish (evaluate : Evaluate) (result : Except Ended Unit) : Running Unit := do
  match result with
  | .ok _ => pure ()
  | .error e => unwind (e ≠ .exit)
  change fun s ↦ { s with saved := some s.status }
  if let some text := (← state).trap? 0 then
    change fun s ↦ { s with traps := s.traps.filter (·.1 ≠ 0), leaving := none }
    match ← attempt (runText evaluate ⟨false, false⟩ text) with
    | .ok _ | .error .exit => unwind false
    | .error _ => unwind true
  let _ ← flush

/-- What a command writes, without bytes that are zero. -/
def captureWith (evaluate : Evaluate) (command : Command) : Running Bytes := do
  if let .nothing := command then return []
  match ← act (Action.ask .pipe) with
  | .ends reader writer =>
      let _ ← newJob
      let pid ← startChild (finish evaluate) false false do
        act do
          perform (.close reader)
          unless writer = 1 do
            perform (.duplicate writer 1)
            perform (.close writer)
        evaluate ⟨true, false⟩ command
      act (perform (.close writer))
      let (text, _) ← act (readAll reader)
      act (perform (.close reader))
      let substituted ← await 0 [pid]
      change fun s ↦ { s with substituted }
      return text.filter (· != 0)
  | _ => fail "Pipe call failed"

end PipeShell.Userland.Shell

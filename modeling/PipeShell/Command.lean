import PipeShell.Pipeline
import PipeShell.System.Errno

/-!
# Commands

What a line asks for, and the reasons for turning one down.
-/

namespace PipeShell

/-- Why a line is turned down. -/
inductive CommandError where
  /-- `cd` is followed by anything but one word. -/
  | cdArity
  /-- The directory of a `cd` cannot be entered. -/
  | changeDirectory (directory : String) (cause : FileError)
  /-- The line begins with something other than a word. -/
  | noInitialProgram
  /-- No word follows a `>`. -/
  | missingOutputFile
  /-- No word follows a `<`. -/
  | missingInputFile
  /-- A `>` stands where the output is already a file. -/
  | misplacedOutput
  /-- A `<` stands behind a pipe or behind another `<`. -/
  | misplacedInput
  /-- A pipe stands behind the output file of the stage before it. -/
  | misplacedPipe
  /-- The line ends behind a pipe. -/
  | noProgramAfterPipe
  /-- The input ends before the line does. -/
  | unexpectedEndOfInput
  deriving DecidableEq, Repr

namespace CommandError

/-- All errors are found in reading a line, except the one that comes from
carrying out a `cd`. -/
def category : CommandError → String
  | .changeDirectory _ _ => "exec error"
  | _ => "parse error"

def message : CommandError → String
  | .cdArity => "cd only takes one argument."
  | .changeDirectory directory cause => s!"unable to cd to '{directory}': {cause.message}"
  | .noInitialProgram => "no initial program to run."
  | .missingOutputFile => "no valid filename provided to >"
  | .missingInputFile => "no valid filename provided to <"
  | .misplacedOutput => "inappropriate redirection to a file."
  | .misplacedInput => "inappropriate redirection from a file."
  | .misplacedPipe => "inappropriate pipe."
  | .noProgramAfterPipe => "no program following pipe."
  | .unexpectedEndOfInput => "unreachable code executed"

/-- The failure behind the error, where there is one. -/
def cause? : CommandError → Option FileError
  | .changeDirectory _ cause => some cause
  | _ => none

end CommandError

/-- What a line asks for. -/
inductive Command where
  /-- An empty line. -/
  | nothing
  /-- The line `exit`, or the end of the input. -/
  | leave
  | changeDirectory (directory : String)
  | run (pipeline : Pipeline)
  | refused (error : CommandError)

end PipeShell

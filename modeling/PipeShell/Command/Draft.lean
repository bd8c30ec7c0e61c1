import PipeShell.Command
import PipeShell.Token

/-!
# Commands of lines

What a line asks for is a matter of its tokens and its end.  After each token the
`Phase` says what has been recognised so far and what may follow; a token that
cannot follow decides the error at once, and the rest of the line changes nothing.
The end of the line then turns the phase into a command.

Two words are commands of their own when they come first: `cd` takes one word
and nothing else, and `exit` is only a command when it stands alone.  In a
pipeline a stage is sealed by a `>`: no other `>` and no pipe may follow until
the next program.  Only the first stage may have a `<`.
-/

namespace PipeShell

/-- A pipeline under construction, apart from the stages already closed by the
program behind a pipe. -/
structure Draft where
  current : Stage
  input : Option String
  output : Option String
  /-- Whether a pipe has been read and the program behind it has not. -/
  awaitsProgram : Bool
  /-- Whether a `>` has been read since the last program. -/
  sealed : Bool
  /-- Whether a `<` may still follow. -/
  mayRead : Bool

/-- The draft of a line that begins with a program. -/
def Draft.ofProgram (program : String) : Draft :=
  ⟨.ofProgram program, none, none, false, false, true⟩

/-- What has been recognised of a line. -/
inductive Phase where
  /-- Nothing yet. -/
  | start
  /-- The word `exit`, in first place. -/
  | exit
  /-- The word `cd`, in first place. -/
  | cd
  /-- `cd` and a directory. -/
  | cdTo (directory : String)
  /-- Part of a pipeline. -/
  | pipeline (d : Draft)
  /-- Part of a pipeline and a `>` without its file. -/
  | outputFile (d : Draft)
  /-- Part of a pipeline and a `<` without its file. -/
  | inputFile (d : Draft)
  | refused (e : CommandError)

/-- The stages closed so far, and the phase. -/
structure LineState where
  closed : Growable Stage
  phase : Phase

namespace LineState

/-- Before the first token of a line. -/
def start (closed : Growable Stage) : LineState :=
  ⟨closed, .start⟩

/-- Reads a token of a pipeline. -/
def stepPipeline (closed : Growable Stage) (d : Draft) : Token → LineState
  | .word w =>
      if d.awaitsProgram then
        ⟨closed.push d.current,
          .pipeline { d with current := .ofProgram w, awaitsProgram := false, sealed := false }⟩
      else ⟨closed, .pipeline { d with current := d.current.addArgument w }⟩
  | .pipe =>
      if d.sealed then ⟨closed, .refused .misplacedPipe⟩
      else ⟨closed, .pipeline { d with awaitsProgram := true, mayRead := false }⟩
  | .writeTo =>
      if d.sealed then ⟨closed, .refused .misplacedOutput⟩
      else ⟨closed, .outputFile d⟩
  | .readFrom =>
      if d.mayRead then ⟨closed, .inputFile d⟩
      else ⟨closed, .refused .misplacedInput⟩

/-- Reads one token. -/
def step : LineState → Token → LineState
  | ⟨closed, .start⟩, .word w =>
      if w = "exit" then ⟨closed, .exit⟩
      else if w = "cd" then ⟨closed, .cd⟩
      else ⟨closed, .pipeline (.ofProgram w)⟩
  | ⟨closed, .start⟩, _ => ⟨closed, .refused .noInitialProgram⟩
  | ⟨closed, .exit⟩, t => stepPipeline closed (.ofProgram "exit") t
  | ⟨closed, .cd⟩, .word w => ⟨closed, .cdTo w⟩
  | ⟨closed, .cd⟩, _ => ⟨closed, .refused .cdArity⟩
  | ⟨closed, .cdTo _⟩, _ => ⟨closed, .refused .cdArity⟩
  | ⟨closed, .pipeline d⟩, t => stepPipeline closed d t
  | ⟨closed, .outputFile d⟩, .word w =>
      ⟨closed, .pipeline { d with output := some w, sealed := true }⟩
  | ⟨closed, .outputFile _⟩, _ => ⟨closed, .refused .missingOutputFile⟩
  | ⟨closed, .inputFile d⟩, .word w =>
      ⟨closed, .pipeline { d with input := some w, mayRead := false }⟩
  | ⟨closed, .inputFile _⟩, _ => ⟨closed, .refused .missingInputFile⟩
  | ⟨closed, .refused e⟩, _ => ⟨closed, .refused e⟩

/-- What the line asks for, at its end. -/
def finish : LineState → LineEnd → Command
  | ⟨_, .start⟩, .newline => .nothing
  | ⟨_, .start⟩, .endOfInput => .leave
  | ⟨_, .exit⟩, .newline => .leave
  | ⟨_, .exit⟩, .endOfInput => .refused .unexpectedEndOfInput
  | ⟨_, .cd⟩, _ => .refused .cdArity
  | ⟨_, .cdTo directory⟩, .newline => .changeDirectory directory
  | ⟨_, .cdTo _⟩, .endOfInput => .refused .cdArity
  | ⟨closed, .pipeline d⟩, .newline =>
      if d.awaitsProgram then .refused .noProgramAfterPipe
      else .run ⟨closed.push d.current, d.input, d.output⟩
  | ⟨_, .pipeline _⟩, .endOfInput => .refused .unexpectedEndOfInput
  | ⟨_, .outputFile _⟩, _ => .refused .missingOutputFile
  | ⟨_, .inputFile _⟩, _ => .refused .missingInputFile
  | ⟨_, .refused e⟩, _ => .refused e

end LineState

/-- The state after the tokens of a line, with `closed` as the room for the
stages of its pipeline. -/
def LineState.ofTokens (closed : Growable Stage) (tokens : List Token) : LineState :=
  tokens.foldl LineState.step (LineState.start closed)

/-- What a line asks for. -/
def Command.ofLine (tokens : List Token) (lineEnd : LineEnd) : Command :=
  (LineState.ofTokens Growable.empty tokens).finish lineEnd

end PipeShell

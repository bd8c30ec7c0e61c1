import PipeShell.Command.Draft
import PipeShell.Token.Cursor

/-!
# Reading commands

A command reader takes one line from a stream of symbols and says what it asks for.  It
reads token by token and decides an error at the token that cannot follow; what is left of
the line is then skipped.

It owns the room in which the stages of a pipeline are gathered.  The room goes out with a
pipeline and comes back when the pipeline is recycled, so that a long script needs it only
once.
-/

namespace PipeShell

/-- A reader of commands, with the room for the stages of the next pipeline. -/
structure CommandReader where
  buffer : Growable Stage

namespace CommandReader

/-- A reader that has read nothing. -/
def new : CommandReader :=
  ⟨.empty⟩

/-- What the first token of a line turns out to be. -/
inductive Opening where
  /-- All that the line asks for. -/
  | command (c : Command)
  /-- The name of the first program of a pipeline. -/
  | program (name : String)

section Cursor

variable {τ : Type u} [SymbolSource τ]

/-- Reads what comes behind a `cd`: a directory, and nothing else. -/
def readDirectory (c : Cursor τ) : Command × Cursor τ :=
  match c.next with
  | (.token (.word directory), c) =>
      match c.next with
      | (.lineEnd .newline, c) => (.changeDirectory directory, c)
      | (_, c) => (.refused .cdArity, c)
  | (_, c) => (.refused .cdArity, c)

/-- Reads the beginning of a line.  The symbol behind an `exit` is only looked at, as it is
an argument or an operator of a pipeline if it is not the newline. -/
def readOpening (c : Cursor τ) : Opening × Cursor τ :=
  match c.next with
  | (.lineEnd .newline, c) => (.command .nothing, c)
  | (.lineEnd .endOfInput, c) => (.command .leave, c)
  | (.token (.word name), c) =>
      if name = "exit" then
        match c.peek with
        | (.lineEnd .newline, c) => (.command .leave, c.next.2)
        | (_, c) => (.program name, c)
      else if name = "cd" then
        let (command, c) := readDirectory c
        (.command command, c)
      else (.program name, c)
  | (_, c) => (.command (.refused .noInitialProgram), c)

/-- Reads the rest of a pipeline.  The room goes out with a pipeline that is complete; an
error leaves the stages closed so far in it. -/
def readPipeline (closed : Growable Stage) (d : Draft) (c : Cursor τ) :
    Command × Growable Stage × Cursor τ :=
  match _h : c.next with
  | (.token (.word w), c) =>
      if d.awaitsProgram then
        readPipeline (closed.push d.current)
          { d with current := .ofProgram w, awaitsProgram := false, sealed := false } c
      else readPipeline closed { d with current := d.current.addArgument w } c
  | (.token .writeTo, c) =>
      if d.sealed then (.refused .misplacedOutput, closed, c)
      else
        match _h' : c.next with
        | (.token (.word path), c) =>
            readPipeline closed { d with output := some path, sealed := true } c
        | (_, c) => (.refused .missingOutputFile, closed, c)
  | (.token .readFrom, c) =>
      if d.mayRead then
        match _h' : c.next with
        | (.token (.word path), c) =>
            readPipeline closed { d with input := some path, mayRead := false } c
        | (_, c) => (.refused .missingInputFile, closed, c)
      else (.refused .misplacedInput, closed, c)
  | (.token .pipe, c) =>
      if d.sealed then (.refused .misplacedPipe, closed, c)
      else readPipeline closed { d with awaitsProgram := true, mayRead := false } c
  | (.lineEnd .newline, c) =>
      if d.awaitsProgram then (.refused .noProgramAfterPipe, closed, c)
      else (.run ⟨closed.push d.current, d.input, d.output⟩, .empty, c)
  | (.lineEnd .endOfInput, c) => (.refused .unexpectedEndOfInput, closed, c)
termination_by c.ahead
decreasing_by
  all_goals grind [Cursor.ahead_next]

/-- Ends a reading: an error skips what is left of the line and empties the room. -/
def conclude (command : Command) (closed : Growable Stage) (c : Cursor τ) :
    Command × CommandReader × τ :=
  match command with
  | .refused e => (.refused e, ⟨closed.clear⟩, c.finishLine.stream)
  | command => (command, ⟨closed⟩, c.stream)

end Cursor

/-- Reads one line.  A pipeline takes the room along; on any other outcome the reader keeps
it, emptied. -/
def read {τ : Type u} [SymbolSource τ] (r : CommandReader) (s : τ) :
    Command × CommandReader × τ :=
  let room := r.buffer.clear
  match readOpening (.ofStream s) with
  | (.command command, c) => conclude command room c
  | (.program name, c) =>
      let (command, closed, c) := readPipeline room (.ofProgram name) c
      conclude command closed c

/-- Takes back the room of a pipeline if it is larger than the reader's own. -/
def recycle (r : CommandReader) (pipeline : Pipeline) : CommandReader :=
  if pipeline.stages.capacity > r.buffer.capacity then ⟨pipeline.stages.clear⟩ else r

end CommandReader

end PipeShell

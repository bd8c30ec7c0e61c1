import PipeShell.Pipeline
import PipeShell.System.World

/-!
# Wiring a pipeline

A wiring hands out, stage after stage, the descriptors that a stage gets for its
standard input and output.  The first stage reads the input file and the last
one writes the output file, if the pipeline has them; in between each stage
writes into a pipe whose other end is carried over to the next stage.  Files are
opened and pipes made only when the stage that needs them is asked for.
-/

namespace PipeShell

/-- What a redirection opens a file for. -/
inductive Purpose where
  | reading
  | writing
  deriving DecidableEq, Repr

def Purpose.text : Purpose → String
  | .reading => "reading"
  | .writing => "writing"

/-- Why a pipeline cannot be started. -/
inductive ExecError where
  | openFile (path : String) (purpose : Purpose) (cause : FileError)
  | pipe (e : Errno)
  | fork (e : Errno)
  /-- An argument has a byte 0 at this place. -/
  | nulInArgument (position : Nat)
  deriving DecidableEq, Repr

namespace ExecError

/-- The failure behind the error. -/
def cause : ExecError → String
  | .openFile _ _ cause => cause.message
  | .pipe e => e.symbolic
  | .fork e => e.symbolic
  | .nulInArgument position => s!"nul byte found in provided data at position: {position}"

def message (e : ExecError) : String :=
  match e with
  | .openFile path purpose _ => s!"unable to open '{path}' for {purpose.text}: {e.cause}"
  | .pipe _ => s!"unable to pipe: {e.cause}"
  | .fork _ => s!"unable to fork: {e.cause}"
  | .nulInArgument _ => s!"argument contains a nul byte: {e.cause}"

end ExecError

/-- Where a standard stream of a stage leads. -/
inductive Endpoint where
  /-- Wherever the shell's own leads. -/
  | inherited
  | descriptor (fd : Descriptor)
  deriving DecidableEq, Repr

/-- Closes the shell's copy of an endpoint. -/
def Endpoint.release (e : Endpoint) (w : World) : World :=
  match e with
  | .inherited => w
  | .descriptor fd => w.close fd

/-- The descriptors prepared for a stage.  `stray` is the read end of the pipe
that the stage writes into: the shell keeps it for the next stage, and the
stage itself must not. -/
structure StageEnds where
  input : Endpoint
  output : Endpoint
  stray : Option Descriptor
  deriving DecidableEq, Repr

/-- Closes the shell's copies of the descriptors of a stage. -/
def StageEnds.release (ends : StageEnds) (w : World) : World :=
  ends.output.release (ends.input.release w)

/-- A wiring in progress: the files at both ends, the number of stages and of
those handed out, and the read end carried over to the next one. -/
structure Wiring where
  input : Option String
  output : Option String
  count : Nat
  index : Nat
  carried : Option Descriptor
  deriving DecidableEq, Repr

namespace Wiring

/-- The wiring of a pipeline, before its first stage. -/
def ofPipeline (p : Pipeline) : Wiring :=
  ⟨p.input, p.output, p.stages.size, 0, none⟩

/-- Opens the file of a redirection, if there is one. -/
def openEnd (path : Option String) (purpose : Purpose) (w : World) :
    Except ExecError (Endpoint × World) :=
  match path with
  | none => .ok (.inherited, w)
  | some path =>
      let mode := match purpose with
        | .reading => OpenMode.read
        | .writing => .write 0o644
      match w.openFile path mode with
      | .ok (fd, w) => .ok (.descriptor fd, w)
      | .error cause => .error (.openFile path purpose cause)

/-- The input of the next stage: the end carried over, or else the input
file. -/
def nextInput (s : Wiring) (w : World) : Except ExecError (Endpoint × World) :=
  match s.carried with
  | some fd => .ok (.descriptor fd, w)
  | none => openEnd s.input .reading w

/-- The descriptors of the next stage; none are left behind the last.  The input
is taken first, and given up again if there is no output. -/
def next (s : Wiring) (w : World) : Except ExecError (Option StageEnds) × Wiring × World :=
  if s.index = s.count then (.ok none, s, w)
  else
    match s.nextInput w with
    | .error e => (.error e, s, w)
    | .ok (input, w) =>
        if s.index + 1 = s.count then
          match openEnd s.output .writing w with
          | .error e => (.error e, { s with carried := none }, input.release w)
          | .ok (output, w) =>
              (.ok (some ⟨input, output, none⟩),
                { s with index := s.index + 1, carried := none }, w)
        else
          match w.pipe with
          | .error e => (.error (.pipe e), { s with carried := none }, input.release w)
          | .ok (reader, writer, w) =>
              (.ok (some ⟨input, .descriptor writer, some reader⟩),
                { s with index := s.index + 1, carried := some reader }, w)

/-- Closes what is still carried. -/
def release (s : Wiring) (w : World) : World :=
  match s.carried with
  | some fd => w.close fd
  | none => w

end Wiring

/-! ## In the stage's own process -/

namespace Table

/-- Moves an endpoint to the number of a standard stream.  One that has that
number already is left as it is. -/
def redirect (t : Table) (e : Endpoint) (slot : Descriptor) : Except Errno Table :=
  match e with
  | .inherited => .ok t
  | .descriptor fd =>
      if fd = slot then .ok t
      else do
        let t ← t.duplicate fd slot
        t.close fd

/-- Puts the descriptors of a stage in their places and closes the stray one. -/
def rewire (ends : StageEnds) (t : Table) : Except Errno Table := do
  let t ← t.redirect ends.input 0
  let t ← t.redirect ends.output 1
  match ends.stray with
  | some fd => return t.erase fd
  | none => return t

end Table

end PipeShell

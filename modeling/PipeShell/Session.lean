import PipeShell.Command.Reader
import PipeShell.Execution
import PipeShell.Script

/-!
# Sessions

A session runs the lines of a script one after another: a line is read, what it
asks for is carried out to the end, and only then is the next line read.  Lines
that give no tokens and commands that are turned down are told of in the
diagnostics.  A session is over at `exit`, at the end of the script, when the
script cannot be read, or when such a report cannot be written.
-/

namespace PipeShell

/-- What became of a command that the shell carries out by itself. -/
inductive Outcome where
  | nothing
  | leave
  | run (pipeline : Pipeline)
  | error (e : CommandError)

/-- Carries out a `cd`.  Every other command is left as it is. -/
def Command.settle (c : Command) (w : World) : Outcome × World :=
  match c with
  | .nothing => (.nothing, w)
  | .leave => (.leave, w)
  | .run pipeline => (.run pipeline, w)
  | .refused e => (.error e, w)
  | .changeDirectory directory =>
      match w.changeDirectory directory with
      | .ok w => (.nothing, w)
      | .error cause => (.error (.changeDirectory directory cause), w)

/-- A script under way. -/
structure Session (σ : Type u) where
  reader : CommandReader
  diagnostics : Diagnostics
  stream : TokenStream (σ × World)

namespace Session

variable {σ : Type u}

/-- A session of which no line has been read. -/
def begin (reader : CommandReader) (d : Diagnostics) (script : σ) (w : World) : Session σ :=
  ⟨reader, d, .ofSource (script, w)⟩

def script (s : Session σ) : σ :=
  s.stream.source.1

def world (s : Session σ) : World :=
  s.stream.source.2

def withWorld (s : Session σ) (w : World) : Session σ :=
  { s with stream := { s.stream with source := (s.stream.source.1, w) } }

/-- Writes a report. -/
def tell (s : Session σ) (text : String) : Except Failure Unit × Session σ :=
  let (result, diagnostics, w) := s.diagnostics.write s.world text
  (result, { s with diagnostics }.withWorld w)

/-- Reports the lines that gave no tokens, in order, until a report cannot be
written. -/
def tellRejected (s : Session σ) : List LineError → Except Failure Unit × Session σ
  | [] => (.ok (), s)
  | e :: rest =>
      match s.tell s!"lex error: {e.message}\n" with
      | (.ok (), s) => s.tellRejected rest
      | (.error f, s) => (.error f, s)

/-- How the session ends when no more is to be read. -/
def close (s : Session σ) : Except Failure Unit × Session σ :=
  let (failure, stream) := s.stream.takeFailure
  (match failure with
    | some f => .error f
    | none => .ok (), { s with stream })

/-- Runs a pipeline and takes its room back. -/
def runPipeline (sched : Scheduler) (s : Session σ) (p : Pipeline) : Session σ :=
  let (_, diagnostics, w) := p.execute sched s.diagnostics s.world
  { s with diagnostics, reader := s.reader.recycle p }.withWorld w

/-- Reads the next line and carries it out; a result means that the session is
over. -/
def step [ScriptSource σ] (sched : Scheduler) (s : Session σ) :
    Option (Except Failure Unit) × Session σ :=
  let (command, reader, stream) := s.reader.read s.stream
  let (outcome, w) := command.settle stream.source.2
  let (rejected, stream) := stream.takeRejected
  let s := { s with reader, stream }.withWorld w
  match s.tellRejected rejected with
  | (.error f, s) => (some (.error f), s)
  | (.ok (), s) =>
      match outcome with
      | .nothing => (none, s)
      | .leave =>
          let (result, s) := s.close
          (some result, s)
      | .error e =>
          match s.tell s!"{e.category}: {e.message}\n" with
          | (.ok (), s) => (none, s)
          | (.error f, s) => (some (.error f), s)
      | .run pipeline => (none, s.runPipeline sched pipeline)

/-- Carries out lines until the session is over, at most `lines` of them. -/
def run [ScriptSource σ] (sched : Scheduler) (lines : Nat) (s : Session σ) :
    Option (Except Failure Unit) × Session σ :=
  match lines with
  | 0 => (none, s)
  | left + 1 =>
      match s.step sched with
      | (some result, s) => (some result, s)
      | (none, s) => s.run sched left

end Session

end PipeShell

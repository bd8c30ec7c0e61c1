import PipeShell.Diagnostics
import PipeShell.Wiring

/-!
# Running a pipeline

All stages are started before any is waited for.  Arguments are checked first,
so a pipeline with a bad one leaves no trace.  If a stage cannot be wired, or
the system has no process for it, the stages started before it are waited for in
silence and only that error is told.  Otherwise the stages are waited for in order, and each that did not end with
code 0 is told of.  A diagnostic that cannot be written changes nothing.
-/

namespace PipeShell

/-- Whether a pipeline ran and every stage ended well. -/
inductive ExecOutcome where
  | ok
  | error
  deriving DecidableEq, Repr

/-- The place of the first byte 0 in an argument. -/
def nulPosition? (argument : String) : Option Nat :=
  (encode argument).findIdx? (· == 0)

namespace Pipeline

/-- The place of the first byte 0 in the first argument that has one. -/
def nulPosition? (p : Pipeline) : Option Nat :=
  (p.stages.toList.flatMap Stage.args).findSome? PipeShell.nulPosition?

/-- What a stage that cannot be run says, in three parts. -/
def complaint (program : String) : StartError → List String
  | .streams e =>
      ["exec error: unable to set up standard streams in child: ", e.brief, ".\n"]
  | .program e => [s!"exec error: unable to run '{program}': ", e.brief, ".\n"]

/-- The stages started, and why no more were. -/
structure Started where
  pids : List Pid
  failure : Option ExecError
  world : World

/-- Starts stages in order, as long as the wiring has descriptors for them and the
system has processes.  At the end the shell holds none of these any more. -/
def startStages (s : Wiring) (w : World) : List Stage → Started
  | [] => ⟨[], none, s.release w⟩
  | stage :: rest =>
      match s.next w with
      | (.error e, s, w) => ⟨[], some e, s.release w⟩
      | (.ok none, s, w) => ⟨[], none, s.release w⟩
      | (.ok (some ends), s, w) =>
          match w.start (Table.rewire ends) stage.args (complaint stage.program) with
          | .error e => ⟨[], some (.fork e), s.release (ends.release w)⟩
          | .ok (pid, w) =>
              let started := startStages s (ends.release w) rest
              { started with pids := pid :: started.pids }

/-- Starts all stages of a pipeline. -/
def start (p : Pipeline) (w : World) : Started :=
  match p.nulPosition? with
  | some position => ⟨[], some (.nulInArgument position), w⟩
  | none => startStages (.ofPipeline p) w p.stages.toList

/-- What is told of a stage, by what waiting for it gave. -/
def report? (program : String) (index : Nat) : Except Errno Status → Option String
  | .ok (.exited 0) => none
  | .ok (.exited code) => some s!"{program} [{index}] exited with code {code}.\n"
  | .ok (.signalled _) => some s!"{program} [{index}] exited abnormally.\n"
  | .error e => some s!"exec error: unable to wait for {program} [{index}]: {e.symbolic}\n"

/-- Waits for the stages in order, the first of them having the given index, and
tells of those that did not end well. -/
def collect (sched : Scheduler) (index : Nat) (outcome : ExecOutcome) (d : Diagnostics)
    (w : World) : List (Stage × Pid) → ExecOutcome × Diagnostics × World
  | [] => (outcome, d, w)
  | (stage, pid) :: rest =>
      let (result, w) := w.await sched pid
      match report? stage.program index result with
      | none => collect sched (index + 1) outcome d w rest
      | some text =>
          let (_, d, w) := d.write w text
          collect sched (index + 1) .error d w rest

/-- Waits for the processes in order. -/
def reap (sched : Scheduler) (w : World) (pids : List Pid) : World :=
  pids.foldl (fun w pid ↦ (w.await sched pid).2) w

/-- Tells of an error and waits for the stages that were started before it. -/
def abandon (sched : Scheduler) (e : ExecError) (d : Diagnostics) (w : World)
    (pids : List Pid) : ExecOutcome × Diagnostics × World :=
  let (_, d, w) := d.write w s!"exec error: {e.message}\n"
  (.error, d, reap sched w pids)

/-- Runs a pipeline. -/
def execute (sched : Scheduler) (p : Pipeline) (d : Diagnostics) (w : World) :
    ExecOutcome × Diagnostics × World :=
  let started := p.start w
  match started.failure with
  | none => collect sched 0 .ok d started.world (p.stages.toList.zip started.pids)
  | some e => abandon sched e d started.world started.pids

end Pipeline

end PipeShell

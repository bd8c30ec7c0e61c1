import PipeShell.System.Loading

/-!
# The world of the shell

The shell is one process among others, the one that this library is about: it
has a descriptor table, a current directory and children of its own on a
machine shared with them.  Each of its requests is a function on `World`; a
refused request leaves the world as it was.  Whether the system has a pipe or a
process to give is not up to the shell either: a `Shortage` says when it has not.

How the children get on is not up to the shell.  Only when it waits for one of
them does a `Scheduler` say what happens until that child has ended, and then
it may change the machine but nothing of the shell's own.
-/

namespace PipeShell

/-- Requests that the shell has made and the system has granted. -/
inductive Event where
  | opened (fd : Descriptor)
  | piped (reader writer : Descriptor)
  | closed (fd : Descriptor)
  | started (pid : Pid)
  | awaited (pid : Pid)
  | moved (directory : NodeId)
  deriving DecidableEq, Repr

/-- What the system is short of: the errors that a pipe and a process are
refused with, by the number of requests granted before. -/
structure Shortage where
  pipe : Nat → Option Errno
  process : Nat → Option Errno

/-- There is enough of everything. -/
def Shortage.none : Shortage :=
  ⟨fun _ ↦ .none, fun _ ↦ .none⟩

/-- The machine, and what is the shell's own. -/
structure World where
  machine : Machine
  table : Table
  cwd : NodeId
  /-- The children that have not been waited for. -/
  children : List Pid
  /-- The requests granted so far. -/
  events : Array Event
  /-- The variables that the shell's children are started with. -/
  environment : Environment
  shortage : Shortage

/-- Why a process has not become the program it was started for. -/
inductive StartError where
  /-- Its standard streams could not be set up. -/
  | streams (e : Errno)
  /-- The program cannot be run. -/
  | program (e : Errno)
  deriving DecidableEq, Repr

/-- Whether the shell has a name for a signal. -/
def Signal.isNamed (number : Signal) : Bool :=
  1 ≤ number && number ≤ 31

/-- What the shell is told when it has waited for a child: a signal without a
name makes nothing of how the child ended. -/
def Status.told : Status → Except Errno Status
  | .exited code => .ok (.exited code)
  | .signalled number =>
      if number.isNamed then .ok (.signalled number) else .error .invalid

/-- What happens while the shell waits for a child: how the child ends, and the
machine at that time. -/
structure Scheduler where
  run : World → Pid → Status × Machine

namespace World

def note (w : World) (e : Event) : World :=
  { w with events := w.events.push e }

/-- Names with U+0000 in them never reach the system. -/
def checkName (path : String) : Except FileError Unit :=
  if path.contains '\x00' then .error .nulInName else .ok ()

/-- Opens a file; the descriptor is given up by the shell's children when they
go on as other programs. -/
def openFile (w : World) (path : String) (mode : OpenMode) :
    Except FileError (Descriptor × World) := do
  checkName path
  match w.machine.openFile w.table 0 w.cwd path mode with
  | .ok (file, machine) =>
      let (fd, table) := w.table.add ⟨file, true⟩
      return (fd, { w with machine, table }.note (.opened fd))
  | .error e => throw (.refused e)

/-- A pipe that has been granted: its read end and its write end. -/
def makePipe (w : World) : Descriptor × Descriptor × World :=
  let (readFile, writeFile, machine) := w.machine.makePipe
  let (reader, table) := w.table.add ⟨readFile, true⟩
  let (writer, table) := table.add ⟨writeFile, true⟩
  (reader, writer, { w with machine, table }.note (.piped reader writer))

/-- Makes a pipe. -/
def pipe (w : World) : Except Errno (Descriptor × Descriptor × World) :=
  match w.shortage.pipe w.events.size with
  | some e => .error e
  | none => .ok w.makePipe

/-- Gives a descriptor up. -/
def close (w : World) (fd : Descriptor) : World :=
  match w.table.close fd with
  | .ok table => { w with table }.note (.closed fd)
  | .error _ => w

/-- Makes another directory the current one. -/
def changeDirectory (w : World) (path : String) : Except FileError World := do
  checkName path
  match w.machine.tree.resolveDirectory w.cwd path with
  | .ok id => return { w with cwd := id }.note (.moved id)
  | .error e => throw (.refused e)

/-- One read under a descriptor of the shell. -/
def read (w : World) (fd : Descriptor) (limit : Nat) : ReadReply × World :=
  let (reply, machine) := w.machine.read w.table w.table fd limit
  (reply, { w with machine })

/-- One write under a descriptor of the shell. -/
def write (w : World) (fd : Descriptor) (bytes : Bytes) : WriteReply × World :=
  let (reply, machine) := w.machine.write w.table w.table fd bytes
  (reply, { w with machine })

/-- The process that is started for arguments: its descriptors are the shell's,
changed as told, and it goes on as the program that the arguments name.  If
either fails it complains on its standard error, in parts.  Until its
descriptors are in place it ignores broken pipes, as the shell does. -/
def launch (w : World) (rewire : Table → Except Errno Table) (args : List String)
    (complaint : StartError → List String) : Process × Machine :=
  match rewire w.table with
  | .error e =>
      let p : Process :=
        { Process.new w.table w.cwd default with handled := [(Signal.brokenPipe, .ignore)] }
      w.machine.say w.table p ((complaint (.streams e)).map encode)
  | .ok table =>
      match w.machine.load w.cwd w.environment args with
      | .error e =>
          w.machine.say w.table (.new table w.cwd default) ((complaint (.program e)).map encode)
      | .ok program => (.new table.afterExec w.cwd program, w.machine)

/-- Starts a process. -/
def start (w : World) (rewire : Table → Except Errno Table) (args : List String)
    (complaint : StartError → List String) : Except Errno (Pid × World) :=
  match w.shortage.process w.events.size with
  | some e => .error e
  | none =>
      let (p, machine) := w.launch rewire args complaint
      let (pid, machine) := machine.addProcess p
      .ok (pid, { w with machine, children := w.children ++ [pid] }.note (.started pid))

/-- Waits for a child to end. -/
def await (s : Scheduler) (w : World) (pid : Pid) : Except Errno Status × World :=
  if pid ∈ w.children then
    let (status, machine) :=
      match w.machine.status? pid with
      | some status => (status, w.machine)
      | none => s.run w pid
    (status.told, { w with machine, children := w.children.erase pid }.note (.awaited pid))
  else (.error .noChild, w)

end World

end PipeShell

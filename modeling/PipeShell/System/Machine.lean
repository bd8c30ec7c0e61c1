import PipeShell.System.Table
import PipeShell.System.Tree

/-!
# The machine

What processes share: the tree of files, the open files with the place each is
read or written at, the bytes under way in pipes, the processes started, and the
time.

Who holds the ends of a pipe is read off the descriptor tables.  A read from an
empty pipe is at the end exactly when nobody holds a write end, and a write is
refused exactly when nobody holds a read end.
-/

namespace PipeShell

/-- The number of a pipe. -/
abbrev PipeId := Nat

/-- The two ends of a pipe. -/
inductive PipeEnd where
  | reader
  | writer
  deriving DecidableEq, Repr

/-- What an open file may be used for. -/
inductive Access where
  | read
  | write
  | both
  deriving DecidableEq, Repr

def Access.reads : Access → Bool
  | .write => false
  | _ => true

def Access.writes : Access → Bool
  | .read => false
  | _ => true

/-- A file as opened: where the next read or write goes, or that every write
goes to the end. -/
inductive OpenFile where
  | node (id : NodeId) (access : Access) (offset : Nat) (appends : Bool)
  | pipe (id : PipeId) (side : PipeEnd)
  deriving DecidableEq, Repr

/-- A process: what it holds, where it stands, and what it has left to do, or
how it ended. -/
structure Process where
  table : Table
  cwd : NodeId
  program : Program
  ended : Option Status
  /-- The permissions that new files are not given. -/
  mask : Nat
  /-- What is done with signals; a signal that is not here ends the process. -/
  handled : List (Signal × Disposition)
  /-- The signals kept, the first one first. -/
  kept : List Signal

/-- What processes share. -/
structure Machine where
  tree : Tree
  opened : Array OpenFile
  pipes : Array Bytes
  processes : Array Process
  /-- The time, in millionths of a second. -/
  clock : Nat

/-- What a read gives. -/
inductive ReadReply where
  | data (bytes : Bytes)
  /-- There is nothing to read yet. -/
  | blocked
  | failed (e : Errno)
  deriving DecidableEq, Repr

/-- What a write gives. -/
inductive WriteReply where
  | wrote (count : Nat)
  /-- There is no room yet. -/
  | blocked
  /-- Nobody can read what would be written. -/
  | broken
  | failed (e : Errno)
  deriving DecidableEq, Repr

/-- A process that has just been started. -/
def Process.new (table : Table) (cwd : NodeId) (program : Program) : Process :=
  ⟨table, cwd, program, none, 0, [], []⟩

/-- What a process does with a signal. -/
def Process.disposition (p : Process) (number : Signal) : Disposition :=
  (p.handled.lookup number).getD .default

/-- The process when it has ended: it holds nothing any more. -/
def Process.finished (p : Process) (status : Status) : Process :=
  { p with table := .empty, ended := some status }

namespace Machine

/-- The bytes a pipe has room for. -/
def pipeLimit : Nat := 65536

/-- The length up to which a write into a pipe is not split. -/
def unsplitLimit : Nat := 4096

/-- Whether an open file is the given end of a pipe. -/
def isEnd (m : Machine) (pipe : PipeId) (side : PipeEnd) (file : FileId) : Bool :=
  m.opened[file]? == some (.pipe pipe side)

/-- Whether someone holds the given end of a pipe: the shell, whose table is
given, or a process. -/
def held (m : Machine) (shell : Table) (pipe : PipeId) (side : PipeEnd) : Bool :=
  shell.holds (m.isEnd pipe side) || m.processes.any fun p ↦ p.table.holds (m.isEnd pipe side)

/-- Adds an open file. -/
def addFile (m : Machine) (f : OpenFile) : FileId × Machine :=
  (m.opened.size, { m with opened := m.opened.push f })

/-- What is behind a descriptor of a table. -/
def fileAt? (m : Machine) (t : Table) (fd : Descriptor) : Option OpenFile :=
  (t.get? fd).bind fun h ↦ m.opened[h.file]?

/-- Empties a file. -/
def emptied (m : Machine) (id : NodeId) : Machine :=
  match m.tree.node? id with
  | some (.file _ permissions) => { m with tree := m.tree.setNode id (.file [] permissions) }
  | _ => m

/-- Opens a node that has been found.  A device that stands for a descriptor of
the process's own is opened as what is behind that. -/
def openNode (m : Machine) (t : Table) (id : NodeId) (access : Access) (empties appends : Bool) :
    Except Errno (FileId × Machine) :=
  let opened (id : NodeId) : FileId × Machine :=
    (if empties then m.emptied id else m).addFile (.node id access 0 appends)
  match m.tree.node? id with
  | some (.device (.stream fd)) =>
      match m.fileAt? t fd with
      | some (.node id _ _ _) => .ok (opened id)
      | some (.pipe pipe _) =>
          .ok (m.addFile (.pipe pipe (if access.writes then .writer else .reader)))
      | none => .error .noEntry
  | _ => .ok (opened id)

/-- Opens what a path names. -/
def openFile (m : Machine) (t : Table) (mask : Nat) (cwd : NodeId) (path : String)
    (mode : OpenMode) : Except Errno (FileId × Machine) :=
  let made (fresh : Bool) (permissions : Nat) : Except Errno (NodeId × Machine) := do
    let (id, tree) ← m.tree.findOrMake fresh (permissions &&& (0o777 ^^^ mask)) Tree.linkLimit cwd
      path
    return (id, { m with tree })
  match mode with
  | .read => do
      let id ← m.tree.resolve cwd path
      if !m.tree.grants id .read then throw .accessDenied
      m.openNode t id .read false false
  | .write permissions => do
      let (id, m) ← made false permissions
      m.openNode t id .write true false
  | .append permissions => do
      let (id, m) ← made false permissions
      m.openNode t id .write false true
  | .create permissions => do
      let (id, m) ← made true permissions
      m.openNode t id .write false false
  | .both permissions => do
      let (id, m) ← made false permissions
      if !m.tree.grants id .read then throw .accessDenied
      m.openNode t id .both false false
  | .change => do
      let id ← m.tree.resolve cwd path
      if (m.tree.node? id) matches some (.directory _ _ _) then throw .isDirectory
      if !m.tree.grants id .write then throw .accessDenied
      m.openNode t id .write false false

/-- Makes a pipe: its read end and its write end. -/
def makePipe (m : Machine) : FileId × FileId × Machine :=
  let id := m.pipes.size
  let n := m.opened.size
  (n, n + 1, { m with
    pipes := m.pipes.push []
    opened := (m.opened.push (.pipe id .reader)).push (.pipe id .writer) })

/-- One read of at most `limit` bytes from an open file. -/
def readFile (m : Machine) (shell : Table) (file : FileId) (limit : Nat) :
    ReadReply × Machine :=
  match m.opened[file]? with
  | some (.node id access offset appends) =>
      if !access.reads then (.failed .badDescriptor, m)
      else
        match m.tree.node? id with
        | some (.file data _) =>
            let bytes := (data.drop offset).take limit
            (.data bytes, { m with
              opened :=
                m.opened.setIfInBounds file (.node id access (offset + bytes.length) appends) })
        | some (.directory _ _ _) => (.failed .isDirectory, m)
        | some (.device .zero) | some (.device .full) => (.data (List.replicate limit 0), m)
        | _ => (.data [], m)
  | some (.pipe id .reader) =>
      match m.pipes[id]? with
      | some (b :: bytes) =>
          (.data ((b :: bytes).take limit), { m with
            pipes := m.pipes.setIfInBounds id ((b :: bytes).drop limit) })
      | _ => if m.held shell id .writer then (.blocked, m) else (.data [], m)
  | _ => (.failed .badDescriptor, m)

/-- Bytes written into others at a place, which may lie behind their end. -/
def overwrite (old : Bytes) (offset : Nat) (new : Bytes) : Bytes :=
  old.take offset ++ List.replicate (offset - old.length) 0 ++ new ++ old.drop (offset + new.length)

/-- One write to an open file. -/
def writeFile (m : Machine) (shell : Table) (file : FileId) (bytes : Bytes) :
    WriteReply × Machine :=
  match m.opened[file]? with
  | some (.node id access offset appends) =>
      if !access.writes then (.failed .badDescriptor, m)
      else
        match m.tree.node? id with
        | some (.file data permissions) =>
            let place := if appends then data.length else offset
            (.wrote bytes.length, { m with
              tree := m.tree.setNode id (.file (overwrite data place bytes) permissions)
              opened := m.opened.setIfInBounds file
                (.node id access (place + bytes.length) appends) })
        | some (.device .full) =>
            (if bytes.isEmpty then .wrote 0 else .failed .noSpace, m)
        | _ => (.wrote bytes.length, m)
  | some (.pipe id .writer) =>
      if !m.held shell id .reader then (.broken, m)
      else
        match m.pipes[id]? with
        | some under =>
            let room := pipeLimit - under.length
            if room < min bytes.length unsplitLimit then (.blocked, m)
            else
              let taken := bytes.take room
              (.wrote taken.length, { m with pipes := m.pipes.setIfInBounds id (under ++ taken) })
        | none => (.failed .badDescriptor, m)
  | _ => (.failed .badDescriptor, m)

/-- One read under a descriptor of a table. -/
def read (m : Machine) (shell t : Table) (fd : Descriptor) (limit : Nat) : ReadReply × Machine :=
  match t.get? fd with
  | some h => m.readFile shell h.file limit
  | none => (.failed .badDescriptor, m)

/-- One write under a descriptor of a table. -/
def write (m : Machine) (shell t : Table) (fd : Descriptor) (bytes : Bytes) :
    WriteReply × Machine :=
  match t.get? fd with
  | some h => m.writeFile shell h.file bytes
  | none => (.failed .badDescriptor, m)

/-- How far a process comes at once that says something in parts.  A part that
is refused is left out; one for which there is no room yet is still to be said.
What nobody can read ends the process, unless it ignores that. -/
def say (m : Machine) (shell : Table) (p : Process) : List Bytes → Process × Machine
  | [] => (p.finished (.exited 127), m)
  | part :: rest =>
      match m.write shell p.table 2 part with
      | (.wrote count, m) =>
          if count < part.length then
            ({ p with program := .saying (part.drop count :: rest) }, m)
          else m.say shell p rest
      | (.blocked, m) => ({ p with program := .saying (part :: rest) }, m)
      | (.broken, m) =>
          if p.disposition Signal.brokenPipe = .ignore then m.say shell p rest
          else (p.finished (.signalled Signal.brokenPipe), m)
      | (.failed _, m) => m.say shell p rest

/-- Where the next read from a file starts. -/
def place (m : Machine) (t : Table) (fd : Descriptor) : Except Errno Nat :=
  match m.fileAt? t fd with
  | some (.node _ _ offset _) => .ok offset
  | some (.pipe _ _) => .error .illegalSeek
  | none => .error .badDescriptor

/-- Tells where the next read from a file starts. -/
def seek (m : Machine) (t : Table) (fd : Descriptor) (place : Nat) : Except Errno Machine :=
  match t.get? fd with
  | none => .error .badDescriptor
  | some h =>
      match m.opened[h.file]? with
      | some (.node id access _ appends) =>
          .ok { m with opened := m.opened.setIfInBounds h.file (.node id access place appends) }
      | _ => .error .illegalSeek

/-- Cuts a file, or extends it by zeros. -/
def resize (m : Machine) (t : Table) (fd : Descriptor) (size : Nat) : Except Errno Machine :=
  match m.fileAt? t fd with
  | some (.node id access _ _) =>
      match m.tree.node? id with
      | some (.file data permissions) =>
          if access.writes then
            let data := data.take size ++ List.replicate (size - data.length) 0
            .ok { m with tree := m.tree.setNode id (.file data permissions) }
          else .error .invalid
      | _ => .error .invalid
  | some (.pipe _ _) => .error .invalid
  | none => .error .badDescriptor

/-- What is told of an open file. -/
def factsOf (m : Machine) (t : Table) (fd : Descriptor) : Except Errno Facts :=
  match m.fileAt? t fd with
  | some (.node id _ _ _) => .ok (m.tree.factsOf id)
  | some (.pipe id _) => .ok ⟨.pipe, 0o600, 0, id⟩
  | none => .error .badDescriptor

/-- Adds a process. -/
def addProcess (m : Machine) (p : Process) : Pid × Machine :=
  (m.processes.size, { m with processes := m.processes.push p })

def setProcess (m : Machine) (pid : Pid) (p : Process) : Machine :=
  { m with processes := m.processes.setIfInBounds pid p }

/-- Ends a process. -/
def endProcess (m : Machine) (pid : Pid) (status : Status) : Machine :=
  match m.processes[pid]? with
  | some p => m.setProcess pid (p.finished status)
  | none => m

/-- How a process ended, if it has. -/
def status? (m : Machine) (pid : Pid) : Option Status :=
  m.processes[pid]?.bind (·.ended)

end Machine

end PipeShell

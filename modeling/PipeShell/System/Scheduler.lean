import PipeShell.System.World

/-!
# Running the children

`Machine.step` lets a process do one thing, unless it has to wait for another.
The fair scheduler lets every process in turn do all it can, in the order in
which they were started, until the one waited for has ended.  Time passes only
when no process can do anything: then it is the time for which the first
sleeper waits.
-/

namespace PipeShell

/-- Signals that do nothing to a process by default. -/
def Signal.harmless : List Signal :=
  [0, 17, 18, 23, 28]

namespace Machine

/-- The first number that a program can know a process by. -/
def firstNumber : Nat := 100

/-- The number under which a program knows a process. -/
def processNumber (pid : Pid) : Nat :=
  firstNumber + pid

/-- The process that a program knows under a number. -/
def processOf? (number : Nat) : Option Pid :=
  if number < firstNumber then none else some (number - firstNumber)

/-- Changes a process. -/
def update (m : Machine) (pid : Pid) (f : Process → Process) : Machine :=
  { m with processes := m.processes.modify pid f }

/-- Gives a signal to a process. -/
def deliver (m : Machine) (pid : Pid) (number : Signal) : Machine :=
  match m.processes[pid]? with
  | none => m
  | some p =>
      if p.ended.isSome || number = 0 then m
      else if number = Signal.end then m.endProcess pid (.signalled number)
      else
        match p.disposition number with
        | .ignore => m
        | .keep =>
            m.update pid fun p ↦
              if p.kept.contains number then p else { p with kept := p.kept ++ [number] }
        | .default =>
            if number ∈ Signal.harmless then m else m.endProcess pid (.signalled number)

/-- A request that is granted or refused and tells nothing. -/
def granted (m : Machine) : Except Errno Machine → Reply × Machine
  | .ok m => (.done 0, m)
  | .error e => (.failed e, m)

/-- A request on the tree, granted or refused. -/
def onTree (m : Machine) (result : Except Errno Tree) : Reply × Machine :=
  m.granted (result.map fun tree ↦ { m with tree })

/-- A question, answered or not. -/
def told (m : Machine) {α : Type} (reply : α → Reply) : Except Errno α → Reply × Machine
  | .ok a => (reply a, m)
  | .error e => (.failed e, m)

/-- A request on the table of a process, granted or refused. -/
def onTable (m : Machine) (pid : Pid) (result : Except Errno Table) : Reply × Machine :=
  m.granted (result.map fun table ↦ m.update pid fun p ↦ { p with table })

/-- Opens a file for a process. -/
def openFor (m : Machine) (pid : Pid) (p : Process) (path : String) (mode : OpenMode) :
    Reply × Machine :=
  match m.openFile p.table p.mask p.cwd path mode with
  | .ok (file, m) =>
      let (fd, table) := p.table.add ⟨file, false⟩
      (.done fd, m.update pid fun p ↦ { p with table })
  | .error e => (.failed e, m)

/-- The permissions that a new file is given. -/
def masked (p : Process) (permissions : Nat) : Nat :=
  permissions &&& (0o777 ^^^ p.mask)

/-- Lets a process go on as another program, if there is one. -/
def become (m : Machine) (pid : Pid) : Except Errno Program → Reply × Machine
  | .ok program =>
      (.done 0, m.update pid fun p ↦
        { p with
          program
          table := p.table.afterExec
          handled := p.handled.filter (·.2 != .keep)
          kept := [] })
  | .error e => (.failed e, m)

/-- Answers a request, unless the process has to wait. -/
def answer (m : Machine) (shell : Table) (pid : Pid) (p : Process) :
    Request → Option (Reply × Machine)
  | .openFile path mode => some (m.openFor pid p path mode)
  | .close fd => some (m.onTable pid (p.table.close fd))
  | .duplicate fd target => some (m.onTable pid (p.table.duplicate fd target))
  | .keep fd least =>
      match p.table.keep fd least with
      | .ok (kept, table) => some (.done kept, m.update pid fun p ↦ { p with table })
      | .error e => some (.failed e, m)
  | .pipe =>
      let (readFile, writeFile, m) := m.makePipe
      let (reader, table) := p.table.add ⟨readFile, false⟩
      let (writer, table) := table.add ⟨writeFile, false⟩
      some (.ends reader writer, m.update pid fun p ↦ { p with table })
  | .read fd limit =>
      match m.read shell p.table fd limit with
      | (.data bytes, m) => some (.data bytes, m)
      | (.blocked, _) => none
      | (.failed e, m) => some (.failed e, m)
  | .place fd => some (m.told .done (m.place p.table fd))
  | .seek fd place => some (m.granted (m.seek p.table fd place))
  | .resize fd size => some (m.granted (m.resize p.table fd size))
  | .factsOf fd => some (m.told .facts (m.factsOf p.table fd))
  | .facts path follow =>
      some (m.told .facts ((m.tree.locate follow p.cwd path).map m.tree.factsOf))
  | .makeDirectory path permissions =>
      some (m.onTree (m.tree.makeDirectory (masked p permissions) p.cwd path))
  | .removeDirectory path => some (m.onTree (m.tree.removeDirectory p.cwd path))
  | .removeFile path => some (m.onTree (m.tree.removeFile p.cwd path))
  | .touch path =>
      if (m.tree.resolve p.cwd path).isOk then some (.done 0, m)
      else
        some (m.onTree
          ((m.tree.findOrMake false (masked p 0o666) Tree.linkLimit p.cwd path).map (·.2)))
  | .link path name => some (m.onTree (m.tree.link p.cwd path name))
  | .makeLink target name => some (m.onTree (m.tree.makeLink p.cwd target name))
  | .readLink path =>
      match m.tree.locate false p.cwd path with
      | .ok id =>
          match m.tree.node? id with
          | some (.link target) => some (.text target, m)
          | _ => some (.failed .invalid, m)
      | .error e => some (.failed e, m)
  | .rename path name => some (m.onTree (m.tree.rename p.cwd path name))
  | .setPermissions path permissions =>
      some (m.onTree (m.tree.setPermissions p.cwd path permissions))
  | .changeDirectory path =>
      match m.tree.resolveDirectory p.cwd path with
      | .ok cwd => some (.done 0, m.update pid fun p ↦ { p with cwd })
      | .error e => some (.failed e, m)
  | .here =>
      match m.tree.descent Tree.root m.tree.nodes.size p.cwd [] with
      | some names => some (.names names, m)
      | none => some (.failed .noEntry, m)
  | .list path => some (m.told .names (m.tree.list p.cwd path))
  | .setMask mask => some (.done p.mask, m.update pid fun p ↦ { p with mask })
  | .execute args environment => some (m.become pid (m.load p.cwd environment args))
  | .executeFile path args environment =>
      some (m.become pid (m.loadFile p.cwd environment interpreterLimit path args))
  | .processId => some (.done (processNumber pid), m)
  | .wait child =>
      match processOf? child with
      | some child =>
          if m.processes.size ≤ child then some (.failed .noChild, m)
          else (m.status? child).map fun status ↦ (.ended status, m)
      | none => some (.failed .noChild, m)
  | .waitOrSignal child =>
      match (processOf? child).bind m.status? with
      | some status => some (.ended status, m)
      | none => if p.kept.isEmpty then none else some (.interrupted, m)
  | .signal number kind =>
      match processOf? number with
      | some target =>
          if m.processes.size ≤ target ∨ (m.status? target).isSome then
            some (.failed .noProcess, m)
          else some (.done 0, m.deliver target kind)
      | none => some (.failed .noProcess, m)
  | .handle number d =>
      some (.done (if p.disposition number = .ignore then 1 else 0), m.update pid fun p ↦
        { p with handled := (number, d) :: p.handled.filter (·.1 != number) })
  | .signals => some (.numbers p.kept, m.update pid fun p ↦ { p with kept := [] })
  | .clock => some (.done m.clock, m)
  | .sleepUntil time => if m.clock < time then none else some (.done 0, m)

/-- Lets a process go on with another program, unless it has ended. -/
def goOn (m : Machine) (pid : Pid) (program : Program) : Machine :=
  m.update pid fun p ↦ if p.ended.isSome then p else { p with program }

/-- Lets a process do one thing.  There is none to do if it has ended or has to
wait. -/
def step (m : Machine) (shell : Table) (pid : Pid) : Option Machine :=
  match m.processes[pid]? with
  | none => none
  | some p =>
      if p.ended.isSome then none
      else
        match p.program with
        | .finish status => some (m.endProcess pid status)
        | .call request next =>
            match m.answer shell pid p request with
            | none => none
            | some (reply, m) =>
                match request, reply with
                | .execute _ _, .done _ | .executeFile _ _ _, .done _ => some m
                | _, _ => some (m.goOn pid (next reply))
        | .put _ [] next => some (m.goOn pid (next none))
        | .put fd data next =>
            match m.write shell p.table fd data with
            | (.wrote n, m) => some (m.goOn pid (.put fd (data.drop n) next))
            | (.blocked, _) => none
            | (.broken, m) =>
                some ((m.deliver pid Signal.brokenPipe).goOn pid (next (some .brokenPipe)))
            | (.failed e, m) => some (m.goOn pid (next (some e)))
        | .pump fd limit target digest state next =>
            match m.read shell p.table fd limit with
            | (.data [], m) => some (m.goOn pid (next state none))
            | (.data bytes, m) =>
                let pumped := digest state bytes
                let after (e : Option Errno) : Program :=
                  if e.isSome || pumped.stop then next pumped.state e
                  else .pump fd limit target digest pumped.state next
                some (m.goOn pid (.put target pumped.out after))
            | (.blocked, _) => none
            | (.failed e, m) => some (m.goOn pid (next state (some e)))
        | .flood fd data next =>
            let again : Option Errno → Program
              | some e => next e
              | none => .flood fd data next
            some (m.goOn pid (.put fd data again))
        | .fork child next =>
            let (started, m) := m.addProcess { p with program := child, kept := [] }
            some (m.goOn pid (next (processNumber started)))

/-- Lets a process do all it can, at most `steps` things; `moved` says whether
something has been done already, and the answer whether anything has. -/
def advance (shell : Table) (pid : Pid) (moved : Bool) (m : Machine) : Nat → Bool × Machine
  | 0 => (moved, m)
  | steps + 1 =>
      match m.step shell pid with
      | some m => advance shell pid true m steps
      | none => (moved, m)

/-- Lets every process in turn do all it can, and tells whether any could do
something. -/
def sweep (m : Machine) (shell : Table) (steps : Nat) : Bool × Machine :=
  (List.range m.processes.size).foldl (fun (moved, m) pid ↦ advance shell pid moved m steps)
    (false, m)

/-- The time for which a process waits. -/
def wakingOf? (p : Process) : Option Nat :=
  match p.ended, p.program with
  | none, .call (.sleepUntil time) _ => some time
  | _, _ => none

/-- The first time for which a process waits. -/
def nextWaking? (m : Machine) : Option Nat :=
  (m.processes.toList.filterMap wakingOf?).min?

/-- Lets the processes do what they can until one of them has ended.  If it has
not after so many sweeps, or never will, it is counted as killed. -/
def settle (m : Machine) (shell : Table) (pid : Pid) (steps : Nat) : Nat → Status × Machine
  | 0 => (.signalled Signal.end, m)
  | sweeps + 1 =>
      let (moved, m) := m.sweep shell steps
      match m.status? pid with
      | some status => (status, m)
      | none =>
          if moved then m.settle shell pid steps sweeps
          else
            match m.nextWaking? with
            | some time => { m with clock := time }.settle shell pid steps sweeps
            | none => (.signalled Signal.end, m)

end Machine

/-- The scheduler that lets every process in turn do all it can, within limits
on the turns and on what is done in one. -/
def Scheduler.fair (sweeps steps : Nat) : Scheduler where
  run w pid := w.machine.settle w.table pid steps sweeps

end PipeShell

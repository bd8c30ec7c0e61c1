import PipeShell.Userland.Shell.Expansion

/-!
# Redirections

What a command reads from and writes to.  A redirection that ends with its command
leaves a copy of the descriptor behind, under a number from ten on, from which the
descriptor is brought back.
-/

namespace PipeShell.Userland.Shell

open PipeShell.Userland.Action Running

/-- A redirection whose words have been expanded. -/
inductive Target where
  | file (fd : Descriptor) (opening : Opening) (path : Bytes)
  /-- The descriptor becomes what another is, or is closed. -/
  | copy (fd : Descriptor) (source : Option Descriptor)
  | document (fd : Descriptor) (number : Nat)

def Target.fd : Target → Descriptor
  | .file fd _ _ | .copy fd _ | .document fd _ => fd

/-- The first number for copies. -/
def firstCopy : Descriptor := 10

/-- Expands the words of redirections. -/
def targetOf (capture : Command → Running Bytes) : Redirection → Running Target
  | .file fd opening name => return .file fd opening (← expandText capture .single name)
  | .document fd number => return .document fd number
  | .copy fd _ source => do
      match ← expandText capture .single source with
      | [0x2D] => return .copy fd none
      | text =>
          match text, text.head? with
          | [_], some d =>
              if isDigit d then return .copy fd (some (d.toNat - 48)) else wrong
          | _, _ => wrong
where
  wrong : Running Target := do
    change fun s ↦ { s with line := s.readLine }
    fail "Syntax error: Bad fd number"

/-- Complains of a file that cannot be opened. -/
def openingFailed (opening : Opening) (path : Bytes) (e : Errno) : Running Descriptor := do
  let missing := e = .noEntry || e = .notDirectory
  if opening = .reading then
    let reason := if missing then "No such file" else e.text
    failWith (encode "cannot open " ++ path ++ encode s!": {reason}")
  else
    let reason := if missing then "Directory nonexistent" else e.text
    failWith (encode "cannot create " ++ path ++ encode s!": {reason}")

/-- The permissions of files made by a redirection. -/
def madePermissions : Nat := 0o666

/-- Opens a file for writing that must not be overwritten. -/
def openNew (path : String) : Action (Except Errno Descriptor) := do
  match ← facts (.facts path true) with
  | .error _ => number (.openFile path (.create madePermissions))
  | .ok f =>
      if f.kind = .regular then return .error .alreadyExists
      number (.openFile path (.write madePermissions))

/-- Opens the file of a redirection. -/
def openTarget (opening : Opening) (path : Bytes) : Running Descriptor := do
  let s ← state
  let name := nameOfBytes path
  let opened ← act (match opening with
    | .reading => number (.openFile name .read)
    | .both => number (.openFile name (.both madePermissions))
    | .appending => number (.openFile name (.append madePermissions))
    | .overwriting => number (.openFile name (.write madePermissions))
    | .writing =>
        if s.hasOption 'C' then openNew name
        else number (.openFile name (.write madePermissions)))
  match opened with
  | .ok fd => return fd
  | .error e => openingFailed opening path e

/-- The length of a document up to which it is put into a pipe at once. -/
def pipedAtOnce : Nat := 4096

/-- Makes a document readable; a long one is written by a process of its own. -/
def openDocument (capture : Command → Running Bytes) (number : Nat) : Running Descriptor := do
  match ← act (ask .pipe) with
  | .ends reader writer =>
      let word := (← state).documents[number]?.getD []
      let text ← expandText capture .bare word
      if text.length ≤ pipedAtOnce then
        let _ ← act (write writer text)
      else
        let child : Action Nat := do
          perform (.close reader)
          let _ ← write writer text
          return 0
        let _ ← act (fork child.toProgram)
      act (perform (.close writer))
      return reader
  | _ => fail "Pipe call failed"

/-- Puts a copy of a descriptor aside, unless that has been done for the command, and
closes the descriptor unless the file at `source` is to be found there. -/
def putAside (source : Option Descriptor) (fd : Descriptor) : Running Unit := do
  match (← state).aside with
  | [] => return ()
  | top :: below =>
      if top.any (·.fd == fd) then return ()
      let copy ← if source == some fd then pure none else act do
        match ← number (.keep fd firstCopy) with
        | .ok copy =>
            perform (.close fd)
            return some copy
        | .error _ => return none
      change fun s ↦ { s with aside := (⟨fd, copy⟩ :: top) :: below }

/-- Carries out a redirection; `back` says whether it is to be taken back. -/
def redirect (capture : Command → Running Bytes) (back : Bool) (target : Target) :
    Running Unit := do
  let fd := target.fd
  let moved (file : Descriptor) : Running Unit := do
    if back then putAside (some file) fd
    if file ≠ fd then act do
      perform (.duplicate file fd)
      perform (.close file)
  match target with
  | .file _ opening path => moved (← openTarget opening path)
  | .document _ number => moved (← openDocument capture number)
  | .copy _ none =>
      if back then putAside none fd
      act (perform (.close fd))
  | .copy _ (some source) =>
      if source = fd then return ()
      if back then putAside (some source) fd
      if let some e ← act (request (.duplicate source fd)) then
        failWith (decimalText source ++ encode s!": {e.text}")

/-- Begins a command whose redirections are to be taken back. -/
def beginAside : Running Unit :=
  change fun s ↦ { s with aside := [] :: s.aside }

/-- Carries out redirections that are to be taken back, up to one that fails, and tells
whether none did. -/
def redirectAll (capture : Command → Running Bytes) : List Target → Running Bool
  | [] => return true
  | target :: rest => do
      match ← attempt (redirect capture true target) with
      | .ok _ => redirectAll capture rest
      | .error .error => return false
      | .error e => throw e

/-- Brings back what a command has put aside, or gives it up. -/
def endAside (drop : Bool) : Running Unit := do
  match (← state).aside with
  | [] => return ()
  | top :: below =>
      change fun s ↦ { s with aside := below }
      for file in top do act do
        match file.copy with
        | some copy =>
            unless drop do perform (.duplicate copy file.fd)
            perform (.close copy)
        | none => unless drop do perform (.close file.fd)

/-- Brings back what has been put aside since the given number of commands had
redirections. -/
def endAsideTo (depth : Nat) : Nat → Running Unit
  | 0 => return ()
  | limit + 1 => do
      if depth < (← state).aside.length then
        endAside false
        endAsideTo depth limit

end PipeShell.Userland.Shell

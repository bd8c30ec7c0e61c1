import PipeShell.System.Errno
import PipeShell.Text.Utf8

/-!
# Programs

A program is a tree of requests to the system: each request is followed by what
the program does with every possible reply.  Three loops that may run for as
long as there is input, or for ever, are requests of their own (`put`, `pump`
and `flood`), so every program is a finite description of what it does.
-/

namespace PipeShell

/-- The number under which a process holds an open file. -/
abbrev Descriptor := Nat

/-- The number of a process. -/
abbrev Pid := Nat

/-- The number of a signal. -/
abbrev Signal := Nat

/-- The signal of a write that nobody can read. -/
def Signal.brokenPipe : Signal := 13

/-- The signal that no process can keep from ending it. -/
def Signal.end : Signal := 9

/-- The variables that a program is started with, by name. -/
abbrev Environment := List (String × String)

namespace Environment

/-- The value of a variable; the first one of its name counts. -/
def value? (environment : Environment) (name : String) : Option String :=
  (environment.find? (·.1 == name)).map (·.2)

/-- Sets a variable, in the place where it stands if there is one. -/
def set (environment : Environment) (name value : String) : Environment :=
  if environment.any (·.1 == name) then
    environment.map fun entry ↦ if entry.1 == name then (name, value) else entry
  else environment ++ [(name, value)]

/-- Takes a variable away. -/
def unset (environment : Environment) (name : String) : Environment :=
  environment.filter (·.1 != name)

end Environment

/-- How a process ended. -/
inductive Status where
  | exited (code : Nat)
  | signalled (signal : Signal)
  deriving DecidableEq, Repr

/-- What a file is opened for.  Except for reading and for changing, a file that
is not there is made, with the given permissions. -/
inductive OpenMode where
  | read
  /-- Writing from the beginning; what the file held is lost. -/
  | write (permissions : Nat)
  /-- Writing at the end. -/
  | append (permissions : Nat)
  /-- Writing a file that must not be there yet. -/
  | create (permissions : Nat)
  /-- Reading and writing. -/
  | both (permissions : Nat)
  /-- Writing over what the file holds. -/
  | change
  deriving DecidableEq, Repr

/-- What kinds of files there are. -/
inductive FileKind where
  | regular
  | directory
  | link
  | device
  | pipe
  deriving DecidableEq, Repr

/-- What the system tells of a file; two names of one file have its number in
common. -/
structure Facts where
  kind : FileKind
  permissions : Nat
  size : Nat
  number : Nat
  deriving DecidableEq, Repr

/-- What a process does when it gets a signal. -/
inductive Disposition where
  | default
  | ignore
  /-- The signal is kept until the process asks for it. -/
  | keep
  deriving DecidableEq, Repr

/-- What a process asks of the system. -/
inductive Request where
  | openFile (path : String) (mode : OpenMode)
  | close (fd : Descriptor)
  /-- Makes `target` another name of what `fd` is. -/
  | duplicate (fd target : Descriptor)
  /-- Makes the first free number from `least` on another name of what `fd` is,
  to be given up when the process goes on as another program. -/
  | keep (fd least : Descriptor)
  | pipe
  /-- One read of at most so many bytes. -/
  | read (fd : Descriptor) (limit : Nat)
  /-- Asks where the next read from a file starts. -/
  | place (fd : Descriptor)
  /-- Tells where the next read from a file, or write to it, starts. -/
  | seek (fd : Descriptor) (place : Nat)
  /-- Cuts a file, or extends it by zeros. -/
  | resize (fd : Descriptor) (size : Nat)
  | factsOf (fd : Descriptor)
  /-- Asks about a name; a symbolic link is followed or not. -/
  | facts (path : String) (follow : Bool)
  | makeDirectory (path : String) (permissions : Nat)
  | removeDirectory (path : String)
  | removeFile (path : String)
  /-- Makes a file if there is nothing under that name. -/
  | touch (path : String)
  /-- Gives a file another name. -/
  | link (path name : String)
  | makeLink (target name : String)
  | readLink (path : String)
  | rename (path name : String)
  | setPermissions (path : String) (permissions : Nat)
  | changeDirectory (path : String)
  /-- Asks for the names that lead from the root to the current directory. -/
  | here
  /-- Asks for the names in a directory. -/
  | list (path : String)
  /-- Sets the permissions that new files are not given. -/
  | setMask (mask : Nat)
  /-- Goes on as another program, looked for in the environment's `PATH`. -/
  | execute (args : List String) (environment : Environment)
  /-- Goes on as the program in a file. -/
  | executeFile (path : String) (args : List String) (environment : Environment)
  | processId
  | wait (pid : Pid)
  /-- Waits for a process, or until a signal has been kept. -/
  | waitOrSignal (pid : Pid)
  | signal (pid : Pid) (number : Signal)
  /-- Says what is done with a signal; the answer is 1 if it was ignored before. -/
  | handle (number : Signal) (d : Disposition)
  /-- Takes the signals kept. -/
  | signals
  /-- Asks for the time, in millionths of a second. -/
  | clock
  | sleepUntil (time : Nat)
  deriving DecidableEq, Repr

/-- What the system answers. -/
inductive Reply where
  | done (value : Nat)
  /-- The read end and the write end of a new pipe. -/
  | ends (reader writer : Descriptor)
  /-- What has been read; nothing, at the end. -/
  | data (bytes : Bytes)
  | names (entries : List String)
  | numbers (values : List Nat)
  | facts (f : Facts)
  | text (value : String)
  | ended (status : Status)
  /-- A signal has been kept. -/
  | interrupted
  | failed (e : Errno)
  deriving DecidableEq, Repr

/-- What a `pump` does with one piece of its input. -/
structure Pumped where
  state : Nat × Bytes
  out : Bytes
  stop : Bool

/-- What a process does. -/
inductive Program where
  /-- Ends. -/
  | finish (status : Status)
  /-- Makes a request. -/
  | call (request : Request) (next : Reply → Program)
  /-- Writes all the bytes. -/
  | put (fd : Descriptor) (data : Bytes) (next : Option Errno → Program)
  /-- Reads pieces of at most `limit` bytes, digesting each, until the input is
  at its end or a piece says stop; what digestion gives out is written. -/
  | pump (fd : Descriptor) (limit : Nat) (target : Descriptor)
      (digest : Nat × Bytes → Bytes → Pumped) (state : Nat × Bytes)
      (next : Nat × Bytes → Option Errno → Program)
  /-- Writes the same bytes until that is refused. -/
  | flood (fd : Descriptor) (data : Bytes) (next : Errno → Program)
  /-- Starts a second process and goes on beside it. -/
  | fork (child : Program) (next : Pid → Program)

/-- The program that ends at once. -/
def Program.exit (code : Nat) : Program :=
  .finish (.exited code)

instance : Inhabited Program := ⟨.exit 0⟩

/-- The program that says something on its standard error, in parts, and ends
with the code 127. -/
def Program.saying : List Bytes → Program
  | [] => .exit 127
  | part :: rest => .put 2 part fun _ ↦ saying rest

end PipeShell
